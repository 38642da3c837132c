import AutomationConfig.Config.Validation
import AutomationConfig.Proofs.TaskRules
import Mathlib.Data.List.Nodup

/-! # Which configurations are valid

`Config.rules` lists the rules for a configuration in the order in which they are checked, each with
what it demands. Validation accepts the configurations that keep all of them, and otherwise fails
with the violation of the first rule that is broken (`Config.validate_follows_rules`).

Two of the rules need an argument. The rules across blocks are checked after the tasks have been
settled, and settling a task changes neither its name nor its providers (`Task.fixed_validate`). The
rule for providers that commit automatically counts the uses of a provider and not the tasks that
use it, which comes to the same for valid tasks, since they name no provider twice
(`Config.checkSharing_eq_ok`). -/

namespace AutomationConfig

/-! ### What settling keeps -/

namespace Task

/-- The task without what validation settles. -/
def fixed (t : Task) : Task := { t with condition := {}, moduleInputs := {} }

theorem fixed_validateBody (t : Task) : t.validateBody.value.fixed = t.fixed := by
  have hcondition :
      ((Checked.keep t t.checkHead).andThen validateCondition).value.fixed = t.fixed :=
    Checked.apply_value_andThen fixed rfl fun _ => rfl
  have hinputs : (((Checked.keep t t.checkHead).andThen validateCondition).andThen
      validateInputs).value.fixed = t.fixed :=
    Checked.apply_value_andThen fixed hcondition fun _ => rfl
  exact Checked.apply_value_andThen fixed hinputs fun _ => rfl

@[simp] theorem fixed_validate (t : Task) : t.validate.value.fixed = t.fixed :=
  Checked.apply_value_andThen fixed rfl fixed_validateBody

end Task

namespace Config

theorem map_fixed_validateTasks (c : Config) :
    c.validateTasks.value.tasks.map Task.fixed = c.tasks.map Task.fixed :=
  Checked.map_value_each Task.fixed_validate c.tasks

theorem checkTaskNames_eq (c : Config) :
    c.checkTaskNames = checkDistinct (fun _ => .ok ()) (·.name.value) .taskNameTwice []
      (c.tasks.map Task.fixed) := by
  rw [checkDistinct_map]
  rfl

theorem usersOf_eq (c : Config) (id : String) :
    c.usersOf id = (c.tasks.map Task.fixed).flatMap fun t =>
      (t.providers.filter (· == id)).map fun _ => t.name.value := by
  rw [List.flatMap_map]
  rfl

/-- The rules behind those for the tasks do not see what the tasks have settled. -/
theorem checkTail_validateTasks (c : Config) : c.validateTasks.value.checkTail = c.checkTail := by
  have hfixed := map_fixed_validateTasks c
  have hnames : c.validateTasks.value.checkTaskNames = c.checkTaskNames := by
    rw [checkTaskNames_eq, checkTaskNames_eq, hfixed]
  have husers : c.validateTasks.value.usersOf = c.usersOf := by
    funext id
    rw [usersOf_eq, usersOf_eq, hfixed]
  have hsharing : c.validateTasks.value.checkSharing = c.checkSharing := by
    unfold checkSharing
    rw [husers]
    rfl
  unfold checkTail checkAcross
  rw [hnames, hsharing]
  rfl

/-! ### The rules -/

/-- **The rules for a configuration**, in the order in which they are checked. -/
def rules (c : Config) : List Rule :=
  [{ holds := ∀ b, c.consul = some b → ∀ t, b.tls = some t → (t.cert.value ≠ "" ↔ t.key.value ≠ "")
     outcome := checkBlock Consul.check c.consul },
   { holds := ∀ b, c.vault = some b → ∀ t, b.tls = some t → (t.cert.value ≠ "" ↔ t.key.value ≠ "")
     outcome := checkBlock Vault.check c.vault },
   { holds := ∀ t, c.tls = some t → t.enabled.value = true → t.cert.value ≠ "" ∧ t.key.value ≠ "" ∧
       (t.verifyIncoming.value = true → t.caCert.value ≠ "" ∨ t.caPath.value ≠ "")
     outcome := checkBlock ServerTls.check c.tls },
   { holds := ∀ d, c.driver = some d → d.check = .ok ()
     outcome := checkBlock Driver.check c.driver }] ++
  c.tasks.map (fun t =>
   { holds := t.validate.outcome = .ok ()
     outcome := t.validate.outcome }) ++
  [{ holds := (∀ s ∈ c.services, s.name.value ≠ "") ∧ (c.services.map (·.id.value)).Nodup
     outcome := Service.checkAll c.services },
   { holds := (∀ p ∈ c.providers, p.check = .ok ()) ∧ (c.providers.map Provider.id).Nodup
     outcome := Provider.checkAll c.providers },
   { holds := ∀ b, c.bufferPeriod = some b → b.min.value ≤ b.max.value
     outcome := checkBlock BufferPeriod.check c.bufferPeriod },
   { holds := c.logLevel.value = "" ∨
       ∃ level ∈ logLevels, Text.equalsIgnoringAsciiCase c.logLevel.value level = true
     outcome := c.checkLogLevel },
   { holds := (c.tasks.map (·.name.value)).Nodup
     outcome := c.checkTaskNames },
   { holds := (∃ p ∈ c.providers, p.usesVault = true) → c.vaultEnabled = true
     outcome := c.checkVaultUse },
   { holds := ∀ p ∈ c.providers, p.autoCommit = true →
       c.tasks.Pairwise fun t u => ¬ (p.id ∈ t.providers ∧ p.id ∈ u.providers)
     outcome := c.checkSharing }]

theorem outcome_validate (c : Config) :
    c.validate.outcome = firstViolation (c.rules.map Rule.outcome) := by
  rw [validate, Checked.andThen_assoc, Checked.outcome_andThen, Checked.outcome_andThen,
    Checked.outcome_keep, Checked.outcome_keep, Checked.value_keep, checkTail_validateTasks]
  simp [rules, checkHead, checkTail, checkAcross, validateTasks, Checked.outcome_each,
    Function.comp_def]

end Config

/-! ### The rules for blocks -/

theorem ClientTls.check_eq_ok {owner : String} {t : ClientTls} :
    t.check owner = .ok () ↔ (t.cert.value ≠ "" ↔ t.key.value ≠ "") := by
  rw [check, require_eq_ok, beq_iff_eq, Bool.eq_iff_iff, Setting.isGiven_iff, Setting.isGiven_iff]
  rfl

theorem Consul.check_eq_ok {b : Consul} : b.check = .ok () ↔
    ∀ t, b.tls = some t → (t.cert.value ≠ "" ↔ t.key.value ≠ "") := by
  unfold check
  cases b.tls with
  | none => simp
  | some t => simpa using ClientTls.check_eq_ok

theorem Vault.check_eq_ok {b : Vault} : b.check = .ok () ↔
    ∀ t, b.tls = some t → (t.cert.value ≠ "" ↔ t.key.value ≠ "") := by
  unfold check
  cases b.tls with
  | none => simp
  | some t => simpa using ClientTls.check_eq_ok

theorem ServerTls.check_eq_ok {t : ServerTls} : t.check = .ok () ↔
    (t.enabled.value = true → t.cert.value ≠ "" ∧ t.key.value ≠ "" ∧
      (t.verifyIncoming.value = true → t.caCert.value ≠ "" ∨ t.caPath.value ≠ "")) := by
  unfold check
  cases t.enabled.value with
  | false => simp
  | true =>
    rw [if_pos rfl, bind_eq_ok, require_eq_ok, require_eq_ok]
    simp only [Bool.and_eq_true, Bool.or_eq_true, Bool.not_eq_true', Setting.isGiven_iff,
      forall_const, and_assoc, or_assoc, Scalar.zero]
    refine and_congr_right fun _ => and_congr_right fun _ => ?_
    cases t.verifyIncoming.value <;> simp

theorem Service.checkAll_eq_ok {services : List Service} : Service.checkAll services = .ok () ↔
    (∀ s ∈ services, s.name.value ≠ "") ∧ (services.map (·.id.value)).Nodup := by
  rw [checkAll, checkDistinct_eq_ok]
  simp only [check, require_eq_ok, Setting.isGiven_iff, List.not_mem_nil, not_false_eq_true,
    implies_true, and_true]
  rfl

theorem Provider.checkAll_eq_ok {providers : List Provider} :
    Provider.checkAll providers = .ok () ↔
      (∀ p ∈ providers, p.check = .ok ()) ∧ (providers.map id).Nodup := by
  rw [checkAll, checkDistinct_eq_ok]
  simp

/-- A valid task names no provider twice. -/
theorem Task.nodup_providers {t : Task} (h : t.validate.outcome = .ok ()) : t.providers.Nodup := by
  obtain ⟨-, -, -, -, -, htail⟩ := outcome_validate_eq_ok.mp h
  have hnodup : (t.providers.map providerBaseName).Nodup := (checkTail_eq_ok.mp htail).2.1
  exact List.Nodup.of_map providerBaseName hnodup

namespace Config

theorem checkBlock_eq_ok {α : Type} {check : α → Except Violation Unit} {o : Option α} :
    checkBlock check o = .ok () ↔ ∀ a, o = some a → check a = .ok () := by
  cases o <;> simp [checkBlock]

/-! ### The rules across blocks -/

theorem checkLogLevel_eq_ok {c : Config} : c.checkLogLevel = .ok () ↔ c.logLevel.value = "" ∨
    ∃ level ∈ logLevels, Text.equalsIgnoringAsciiCase c.logLevel.value level = true := by
  rw [checkLogLevel, require_eq_ok, Bool.or_eq_true, String.isEmpty_iff, List.any_eq_true]

theorem checkTaskNames_eq_ok {c : Config} :
    c.checkTaskNames = .ok () ↔ (c.tasks.map (·.name.value)).Nodup := by
  rw [checkTaskNames, checkDistinct_eq_ok]
  simp

theorem checkVaultUse_eq_ok {c : Config} : c.checkVaultUse = .ok () ↔
    ((∃ p ∈ c.providers, p.usesVault = true) → c.vaultEnabled = true) := by
  unfold checkVaultUse
  cases h : c.providers.find? Provider.usesVault with
  | none =>
    rw [List.find?_eq_none] at h
    simp only [true_iff]
    rintro ⟨p, hp, huse⟩
    exact absurd huse (h p hp)
  | some p =>
    have huse : ∃ p ∈ c.providers, p.usesVault = true :=
      ⟨p, List.mem_of_find?_eq_some h, List.find?_some h⟩
    rw [require_eq_ok]
    exact ⟨fun h _ => h, fun h => h huse⟩

theorem mem_autoCommitIds {c : Config} {id : String} :
    id ∈ c.autoCommitIds ↔ ∃ p ∈ c.providers, p.autoCommit = true ∧ p.id = id := by
  rw [autoCommitIds, Table.mem_keys_ofList]
  simp [and_assoc]

/-- Tasks that name no provider twice use a provider as often as they are users of it. -/
theorem length_usersOf {c : Config} (id : String) (h : ∀ t ∈ c.tasks, t.providers.Nodup) :
    (c.usersOf id).length = c.tasks.countP fun t => id ∈ t.providers := by
  unfold usersOf
  generalize c.tasks = tasks at h
  induction tasks with
  | nil => rfl
  | cons t tasks ih =>
    obtain ⟨ht, htasks⟩ := List.forall_mem_cons.mp h
    have hone : (t.providers.filter (· == id)).length = if id ∈ t.providers then 1 else 0 := by
      rw [← List.count_eq_length_filter]
      exact List.Nodup.count ht
    rw [List.flatMap_cons, List.length_append, List.length_map, hone, ih htasks, List.countP_cons,
      Nat.add_comm]
    simp only [decide_eq_true_eq]

theorem countP_le_one_iff {α : Type} {p : α → Prop} [DecidablePred p] : ∀ as : List α,
    as.countP (p ·) ≤ 1 ↔ as.Pairwise fun a b => ¬ (p a ∧ p b)
  | [] => by simp
  | a :: as => by
    rw [List.countP_cons, List.pairwise_cons, ← countP_le_one_iff as]
    by_cases ha : p a
    · have hzero : as.countP (p ·) = 0 ↔ ∀ b ∈ as, ¬ p b := by simp [List.countP_eq_zero]
      simp only [ha, decide_true, if_true, true_and, ← hzero]
      omega
    · simp [ha]

/-- **Sharing.** Among tasks that are valid by themselves, no provider that commits automatically
has several uses if and only if no two of the tasks name one. -/
theorem checkSharing_eq_ok {c : Config} (h : ∀ t ∈ c.tasks, t.providers.Nodup) :
    c.checkSharing = .ok () ↔ ∀ p ∈ c.providers, p.autoCommit = true →
      c.tasks.Pairwise fun t u => ¬ (p.id ∈ t.providers ∧ p.id ∈ u.providers) := by
  have huses : ∀ id, (c.usersOf id).length ≤ 1 ↔
      c.tasks.Pairwise fun t u => ¬ (id ∈ t.providers ∧ id ∈ u.providers) := by
    intro id
    rw [length_usersOf id h]
    exact countP_le_one_iff c.tasks
  have hnone : c.checkSharing = .ok () ↔ ∀ id ∈ c.autoCommitIds, (c.usersOf id).length ≤ 1 := by
    unfold checkSharing
    split
    next id hfind =>
      simp only [reduceCtorEq, false_iff]
      intro hall
      have hle := hall id (List.mem_of_find?_eq_some hfind)
      have hlt : 1 < (c.usersOf id).length := by simpa using List.find?_some hfind
      omega
    next hfind => simpa using hfind
  rw [hnone]
  constructor
  · intro hids p hp hauto
    exact (huses p.id).mp (hids p.id (mem_autoCommitIds.mpr ⟨p, hp, hauto, rfl⟩))
  · intro hproviders id hid
    obtain ⟨p, hp, hauto, rfl⟩ := mem_autoCommitIds.mp hid
    exact (huses p.id).mpr (hproviders p hp hauto)

/-! ### Validation -/

/-- Each rule is checked rightly where the rules before it hold. -/
theorem faithful_rules (c : Config) : Rule.Faithful c.rules := by
  unfold rules
  rw [Rule.faithful_append, Rule.faithful_append]
  refine ⟨⟨Rule.faithful_of_forall ?head, fun _ => Rule.faithful_of_forall ?tasks⟩,
    fun hkept => Rule.faithful_of_forall ?tail⟩
  case head =>
    simp only [List.forall_mem_cons, List.not_mem_nil, false_implies, implies_true, and_true,
      checkBlock_eq_ok, Consul.check_eq_ok, Vault.check_eq_ok, ServerTls.check_eq_ok]
  case tasks => simp
  case tail =>
    -- the rule for sharing is checked rightly only for tasks that are valid by themselves
    have htasks : ∀ t ∈ c.tasks, t.providers.Nodup := fun t ht =>
      Task.nodup_providers (hkept _ (List.mem_append_right _ (List.mem_map_of_mem ht)))
    simp only [List.forall_mem_cons, List.not_mem_nil, false_implies, implies_true, and_true,
      Service.checkAll_eq_ok, Provider.checkAll_eq_ok, checkBlock_eq_ok, BufferPeriod.check_eq_ok,
      checkLogLevel_eq_ok, checkTaskNames_eq_ok, checkVaultUse_eq_ok, checkSharing_eq_ok htasks]

/-- Validation accepts what passes the checks before the tasks, those of the tasks and those behind
them. -/
theorem outcome_validate_eq_ok {c : Config} : c.validate.outcome = .ok () ↔
    c.checkHead = .ok () ∧ (∀ t ∈ c.tasks, t.validate.outcome = .ok ()) ∧ c.checkTail = .ok () := by
  rw [validate, Checked.andThen_assoc, Checked.outcome_andThen, Checked.outcome_andThen,
    Checked.outcome_keep, Checked.outcome_keep, Checked.value_keep, checkTail_validateTasks,
    bind_eq_ok, bind_eq_ok, validateTasks, Checked.outcome_map, Checked.outcome_each,
    AutomationConfig.firstViolation_eq_ok, List.forall_mem_map]

theorem checkTail_eq_ok {c : Config} : c.checkTail = .ok () ↔
    Service.checkAll c.services = .ok () ∧ Provider.checkAll c.providers = .ok () ∧
      checkBlock BufferPeriod.check c.bufferPeriod = .ok () ∧ c.checkLogLevel = .ok () ∧
      c.checkTaskNames = .ok () ∧ c.checkVaultUse = .ok () ∧ c.checkSharing = .ok () := by
  simp only [checkTail, checkAcross, bind_eq_ok]

/-- **Validation follows the rules**: it accepts a configuration if and only if all of them hold,
and fails with the violation of the first rule that does not. -/
theorem validate_follows_rules (c : Config) :
    (c.validate.outcome = .ok () ↔ ∀ r ∈ c.rules, r.holds) ∧
      ∀ v, c.validate.outcome = .error v ↔ ∃ kept r rest, c.rules = kept ++ r :: rest ∧
        (∀ q ∈ kept, q.holds) ∧ ¬ r.holds ∧ r.outcome = .error v := by
  rw [outcome_validate]
  exact ⟨Rule.firstViolation_eq_ok (faithful_rules c),
    fun _ => Rule.firstViolation_eq_error (faithful_rules c)⟩

end Config

end AutomationConfig
