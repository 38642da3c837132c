import AutomationConfig.Config

/-! # The laws of merging

Fragments of a block may be merged in groups, and merging a fragment that has just been merged
changes nothing (`LawfulMerge`). This holds of settings and tables, so it holds block by block, up
to the blocks that hold other blocks. Over a whole configuration the empty fragment is neutral as
well, and the lists of tasks, services and providers are all that grows when a fragment comes twice
(`Config.merge_laws`). -/

namespace AutomationConfig

/-- Merging that depends on the order of the fragments alone: not on how they are grouped, and not
on whether one comes twice in a row. -/
class LawfulMerge {α : Type} (merge : α → α → α) : Prop extends
  Std.Associative merge, Std.IdempotentOp merge

section OptionalBlocks

variable {α : Type} {f : α → α → α} [LawfulMerge f]

theorem optionMerge_assoc (a b c : Option α) :
    (a.merge f b).merge f c = a.merge f (b.merge f c) :=
  Std.Associative.assoc a b c

theorem optionMerge_self (a : Option α) : a.merge f a = a := Std.IdempotentOp.idempotent a

end OptionalBlocks

/-! ### The daemon -/

instance : LawfulMerge Syslog.merge where
  assoc a b c := by simp only [Syslog.merge, Setting.merge_assoc]
  idempotent a := by simp only [Syslog.merge, Setting.merge_self]

instance : LawfulMerge ServerTls.merge where
  assoc a b c := by simp only [ServerTls.merge, Setting.merge_assoc]
  idempotent a := by simp only [ServerTls.merge, Setting.merge_self]

instance : LawfulMerge BufferPeriod.merge where
  assoc a b c := by simp only [BufferPeriod.merge, Setting.merge_assoc]
  idempotent a := by simp only [BufferPeriod.merge, Setting.merge_self]

/-! ### Connections -/

instance : LawfulMerge Auth.merge where
  assoc a b c := by simp only [Auth.merge, Setting.merge_assoc]
  idempotent a := by simp only [Auth.merge, Setting.merge_self]

instance : LawfulMerge ClientTls.merge where
  assoc a b c := by simp only [ClientTls.merge, Setting.merge_assoc]
  idempotent a := by simp only [ClientTls.merge, Setting.merge_self]

instance : LawfulMerge Transport.merge where
  assoc a b c := by simp only [Transport.merge, Setting.merge_assoc]
  idempotent a := by simp only [Transport.merge, Setting.merge_self]

instance : LawfulMerge DefaultCheck.merge where
  assoc a b c := by simp only [DefaultCheck.merge, Setting.merge_assoc]
  idempotent a := by simp only [DefaultCheck.merge, Setting.merge_self]

instance : LawfulMerge Registration.merge where
  assoc a b c := by simp only [Registration.merge, Setting.merge_assoc, optionMerge_assoc]
  idempotent a := by simp only [Registration.merge, Setting.merge_self, optionMerge_self]

instance : LawfulMerge Consul.merge where
  assoc a b c := by simp only [Consul.merge, Setting.merge_assoc, optionMerge_assoc]
  idempotent a := by simp only [Consul.merge, Setting.merge_self, optionMerge_self]

instance : LawfulMerge Vault.merge where
  assoc a b c := by simp only [Vault.merge, Setting.merge_assoc, optionMerge_assoc]
  idempotent a := by simp only [Vault.merge, Setting.merge_self, optionMerge_self]

/-! ### The driver -/

/-- The last backend that is not empty counts, however the fragments are grouped. -/
theorem Terraform.backend_merge_assoc (a b c : Terraform) :
    ((a.merge b).merge c).backend = (a.merge (b.merge c)).backend := by
  change (if c.backend.isEmpty then (if b.backend.isEmpty then a.backend else b.backend)
      else c.backend) =
    if (if c.backend.isEmpty then b.backend else c.backend).isEmpty then a.backend
      else (if c.backend.isEmpty then b.backend else c.backend)
  cases hc : c.backend.isEmpty with
  | true => rfl
  | false => simp [hc]

instance : LawfulMerge Terraform.merge where
  assoc a b c := by
    -- the backend is the one field that is replaced and not merged
    have hbackend := Terraform.backend_merge_assoc a b c
    simp only [Terraform.merge, Setting.merge_assoc, Table.merge_assoc] at hbackend ⊢
    rw [hbackend]
  idempotent a := by
    simp only [Terraform.merge, Setting.merge_self, Table.merge_self, ite_self]

instance : LawfulMerge Driver.merge where
  assoc a b c := by simp only [Driver.merge, optionMerge_assoc]
  idempotent a := by simp only [Driver.merge, optionMerge_self]

/-! ### Configurations -/

namespace Config

theorem merge_assoc (a b c : Config) : (a.merge b).merge c = a.merge (b.merge c) := by
  simp only [merge, Setting.merge_assoc, optionMerge_assoc, List.append_assoc]

theorem merge_empty (a : Config) : a.merge {} = a := by
  simp only [merge, Setting.merge_none, Option.merge_none_right, List.append_nil]

theorem empty_merge (a : Config) : ({} : Config).merge a = a := by
  simp only [merge, Setting.none_merge, Option.merge_none_left, List.nil_append]

theorem merge_self_of_nil {b : Config} (htasks : b.tasks = []) (hservices : b.services = [])
    (hproviders : b.providers = []) : b.merge b = b := by
  have htasks' : (b.merge b).tasks = b.tasks := by rw [merge, htasks, List.append_nil]
  have hservices' : (b.merge b).services = b.services := by rw [merge, hservices, List.append_nil]
  have hproviders' : (b.merge b).providers = b.providers := by
    rw [merge, hproviders, List.append_nil]
  simp only [merge, Setting.merge_self, optionMerge_self] at htasks' hservices' hproviders' ⊢
  rw [htasks', hservices', hproviders']

/-- **The laws of merging fragments**: they may be grouped, the empty fragment is neutral, and a
fragment whose lists are empty counts once where it comes twice in a row. -/
theorem merge_laws (a b c : Config) :
    (a.merge b).merge c = a.merge (b.merge c) ∧ a.merge {} = a ∧ ({} : Config).merge a = a ∧
      (b.tasks = [] → b.services = [] → b.providers = [] → (a.merge b).merge b = a.merge b) := by
  refine ⟨merge_assoc a b c, merge_empty a, empty_merge a, ?_⟩
  intro htasks hservices hproviders
  rw [merge_assoc, merge_self_of_nil htasks hservices hproviders]

theorem merge_port_twice :
    (merge { tasks := [{}] } { port := some 80 }).merge { port := some 80 } =
      merge { tasks := [{}] } { port := some 80 } :=
  (merge_laws { tasks := [{}] } { port := some 80 } {}).2.2.2 rfl rfl rfl

end Config

end AutomationConfig
