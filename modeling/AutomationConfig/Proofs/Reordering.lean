import AutomationConfig.Proofs.Apart
import AutomationConfig.Proofs.ConfigRules
import AutomationConfig.Proofs.Recording
import Mathlib.Data.List.Pairwise

/-! # The order of fragments

Fragments that are apart may be merged in any order: the configurations that come of it differ in
nothing but the order of their lists (`Config.Rearranged`). Filling in defaults, the advice and
validation look at each item of a list by itself or ask whether items are distinct, so none of them
sees that order (`Config.reorder_apart`). -/

namespace AutomationConfig.Config

/-- The fragments, merged from left to right. -/
def mergeAll (fragments : List Config) : Config := fragments.foldl merge {}

/-- Configurations that differ in the order of their lists only. -/
structure Rearranged (a b : Config) : Prop where
  rest : a.withoutLists = b.withoutLists
  tasks : a.tasks.Perm b.tasks
  services : a.services.Perm b.services
  providers : a.providers.Perm b.providers

/-! ### Merging -/

theorem foldl_merge_perm {fragments others : List Config}
    (h : fragments.Pairwise fun a b => a.merge b = b.merge a) (hperm : fragments.Perm others)
    (base : Config) : fragments.foldl merge base = others.foldl merge base := by
  have : Std.Symm fun a b : Config => a.merge b = b.merge a := ⟨fun _ _ heq => heq.symm⟩
  refine hperm.foldl_eq' (fun a ha b hb c => ?_) base
  rw [merge_assoc, merge_assoc]
  by_cases hab : a = b
  · rw [hab]
  · rw [h.forall ha hb hab]

theorem withoutLists_foldl_merge (fragments : List Config) (base : Config) :
    (fragments.foldl merge base).withoutLists =
      (fragments.map withoutLists).foldl merge base.withoutLists := by
  induction fragments generalizing base with
  | nil => rfl
  | cons a fragments ih =>
    rw [List.foldl_cons, ih, withoutLists_merge, List.map_cons, List.foldl_cons]

/-- What adds up when two fragments are merged adds up over all fragments. -/
theorem foldl_merge_list {α : Type} {view : Config → List α}
    (hview : ∀ a b : Config, view (a.merge b) = view a ++ view b) (fragments : List Config)
    (base : Config) : view (fragments.foldl merge base) = view base ++ fragments.flatMap view := by
  induction fragments generalizing base with
  | nil => rw [List.foldl_nil, List.flatMap_nil, List.append_nil]
  | cons a fragments ih =>
    rw [List.foldl_cons, ih, hview, List.append_assoc, List.flatMap_cons]

section Merged

variable {fragments others : List Config} (hperm : fragments.Perm others)
include hperm

theorem mergeAll_list_perm {α : Type} {view : Config → List α}
    (hview : ∀ a b : Config, view (a.merge b) = view a ++ view b) :
    (view (mergeAll fragments)).Perm (view (mergeAll others)) := by
  rw [mergeAll, mergeAll, foldl_merge_list hview, foldl_merge_list hview]
  exact (hperm.flatMap_right view).append_left _

theorem rearranged_mergeAll (h : fragments.Pairwise Apart) :
    (mergeAll fragments).Rearranged (mergeAll others) where
  rest := by
    have hcomm : (fragments.map withoutLists).Pairwise fun a b => a.merge b = b.merge a :=
      List.pairwise_map.mpr (h.imp Apart.merge_comm)
    rw [mergeAll, mergeAll, withoutLists_foldl_merge, withoutLists_foldl_merge]
    exact foldl_merge_perm hcomm (hperm.map withoutLists) _
  tasks := mergeAll_list_perm hperm fun _ _ => rfl
  services := mergeAll_list_perm hperm fun _ _ => rfl
  providers := mergeAll_list_perm hperm fun _ _ => rfl

end Merged

/-! ### What does not see the order of lists -/

namespace Rearranged

variable {a b : Config} (h : a.Rearranged b)
include h

/-- What only looks outside of the lists is the same. -/
theorem view_eq {α : Type} (view : Config → α)
    (hview : ∀ c : Config, view c = view c.withoutLists) : view a = view b := by
  rw [hview a, hview b, h.rest]

theorem finalize (processors : UInt64) :
    (a.finalize processors).Rearranged (b.finalize processors) where
  rest := h.view_eq (fun c => (c.finalize processors).withoutLists) fun _ => rfl
  tasks := by
    have hglobal : a.finalBufferPeriod = b.finalBufferPeriod := h.view_eq _ fun _ => rfl
    have hroot : a.finalWorkingDir = b.finalWorkingDir := h.view_eq _ fun _ => rfl
    rw [Config.finalize, Config.finalize, hglobal, hroot]
    exact h.tasks.map _
  services := h.services.map _
  providers := h.providers

theorem mem_warnings {d : Diagnostic} : d ∈ a.warnings.entries ↔ d ∈ b.warnings.entries := by
  rw [warnings, warnings, Diagnostics.entries_ofList, Diagnostics.entries_ofList,
    List.mem_eraseDups, List.mem_eraseDups]
  exact (h.tasks.flatMap_right _).mem_iff

/-- A rule for a configuration holds of both or of neither. -/
theorem rules_hold_iff : (∀ r ∈ a.rules, r.holds) ↔ ∀ r ∈ b.rules, r.holds := by
  have hconsul : a.consul = b.consul := h.view_eq _ fun _ => rfl
  have hvault : a.vault = b.vault := h.view_eq _ fun _ => rfl
  have htls : a.tls = b.tls := h.view_eq _ fun _ => rfl
  have hdriver : a.driver = b.driver := h.view_eq _ fun _ => rfl
  have hperiod : a.bufferPeriod = b.bufferPeriod := h.view_eq _ fun _ => rfl
  have hlevel : a.logLevel = b.logLevel := h.view_eq _ fun _ => rfl
  have henabled : a.vaultEnabled = b.vaultEnabled := h.view_eq _ fun _ => rfl
  have hids : (a.services.map (·.id.value)).Nodup ↔ (b.services.map (·.id.value)).Nodup :=
    (h.services.map _).nodup_iff
  have hproviders : (a.providers.map Provider.id).Nodup ↔ (b.providers.map Provider.id).Nodup :=
    (h.providers.map _).nodup_iff
  have hnames : (a.tasks.map (·.name.value)).Nodup ↔ (b.tasks.map (·.name.value)).Nodup :=
    (h.tasks.map _).nodup_iff
  have hsharing : ∀ id, a.tasks.Pairwise (fun t u => ¬ (id ∈ t.providers ∧ id ∈ u.providers)) ↔
      b.tasks.Pairwise fun t u => ¬ (id ∈ t.providers ∧ id ∈ u.providers) := fun id =>
    h.tasks.pairwise_iff fun hne hboth => hne hboth.symm
  simp only [rules, List.forall_mem_append, List.forall_mem_cons, List.forall_mem_map, hconsul,
    hvault, htls, hdriver, hperiod, hlevel, henabled, hids, hproviders, hnames, hsharing,
    h.tasks.mem_iff, h.services.mem_iff, h.providers.mem_iff]

theorem outcome_validate_eq_ok_iff : a.validate.outcome = .ok () ↔ b.validate.outcome = .ok () := by
  rw [outcome_validate, outcome_validate, Rule.firstViolation_eq_ok (faithful_rules a),
    Rule.firstViolation_eq_ok (faithful_rules b)]
  exact h.rules_hold_iff

end Rearranged

/-- **Fragments that are apart may come in any order**: the finished configurations differ in the
order of their lists only, the advice is the same but for its order, and both configurations pass
validation or neither does. -/
theorem reorder_apart {fragments others : List Config} (h : fragments.Pairwise Apart)
    (hperm : fragments.Perm others) (processors : UInt64) :
    ((mergeAll fragments).finalize processors).Rearranged ((mergeAll others).finalize processors) ∧
      (∀ d, d ∈ (mergeAll fragments).warnings.entries ↔ d ∈ (mergeAll others).warnings.entries) ∧
      (((mergeAll fragments).finalize processors).validate.outcome = .ok () ↔
        ((mergeAll others).finalize processors).validate.outcome = .ok ()) := by
  have hmerged := rearranged_mergeAll hperm h
  have hfinal := hmerged.finalize processors
  exact ⟨hfinal, fun _ => hmerged.mem_warnings, hfinal.outcome_validate_eq_ok_iff⟩

/-- A fragment that says where Consul is, with a task. -/
def addressFragment : Config where
  port := some 8558
  consul := some { address := some "consul:8500" }
  tasks := [{ name := some "web" }]

/-- A fragment that says how Consul is reached, with another task. -/
def tokenFragment : Config where
  logLevel := some "DEBUG"
  consul := some { token := some "secret", tls := some { verify := some false } }
  tasks := [{ name := some "api" }]

theorem reorder_address_token :
    [addressFragment, tokenFragment].Pairwise Apart ∧
      [addressFragment, tokenFragment].Perm [tokenFragment, addressFragment] ∧
      ((mergeAll [addressFragment, tokenFragment]).finalize 4).Rearranged
        ((mergeAll [tokenFragment, addressFragment]).finalize 4) ∧
      (∀ d, d ∈ (mergeAll [addressFragment, tokenFragment]).warnings.entries ↔
        d ∈ (mergeAll [tokenFragment, addressFragment]).warnings.entries) ∧
      (((mergeAll [addressFragment, tokenFragment]).finalize 4).validate.outcome = .ok () ↔
        ((mergeAll [tokenFragment, addressFragment]).finalize 4).validate.outcome = .ok ()) := by
  have hconsul : BlocksApart Consul.Apart addressFragment.consul tokenFragment.consul := by
    rintro x ⟨⟩ y ⟨⟩
    constructor <;> simp [Setting.Apart, BlocksApart]
  have hapart : addressFragment.Apart tokenFragment := by
    constructor
    case consul => exact hconsul
    all_goals simp [Setting.Apart, BlocksApart, addressFragment, tokenFragment]
  have hpairwise : [addressFragment, tokenFragment].Pairwise Apart :=
    List.pairwise_pair.mpr hapart
  have hperm : [addressFragment, tokenFragment].Perm [tokenFragment, addressFragment] :=
    List.Perm.swap _ _ _
  exact ⟨hpairwise, hperm, reorder_apart hpairwise hperm 4⟩

end AutomationConfig.Config
