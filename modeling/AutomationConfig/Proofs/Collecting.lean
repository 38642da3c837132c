import AutomationConfig.Proofs.Recording
import Mathlib.Data.List.Induction
import Mathlib.Data.List.Nodup
import Mathlib.Data.List.Perm.Basic

/-! # Diagnostics as they are collected

Diagnostics are empty at first. Then one diagnostic after the other is recorded, and between them
the diagnostics of other collections, which came about in the same way (`Diagnostics.Collection`).
However recording and extending alternate, what has been collected is the first of each diagnostic
among all that were recorded, in the order in which they were first recorded (`FirstOfEach`), and
nothing else (`Diagnostics.collects_first_of_each`).

One call at the end of a log adds what the log does not have yet: a single diagnostic, or the first
of each of another log (`eraseDups_append_eraseDups`). By induction on the calls, what is collected
is the first of each of the whole log (`Diagnostics.Collection.entries_collected`). -/

namespace AutomationConfig

/-! ### The first of each -/

/-- **The first of each**: the items of a log without repetition, in the order in which they stand
in the log for the first time. -/
structure FirstOfEach {α : Type} [DecidableEq α] (log firsts : List α) : Prop where
  nodup : firsts.Nodup
  mem_iff : ∀ a, a ∈ firsts ↔ a ∈ log
  inOrder : firsts.Pairwise fun a b => log.idxOf a < log.idxOf b

section FirstOfEach

variable {α : Type} [DecidableEq α] {log firsts : List α} {a : α}

/-- A log determines the first of each of its items. -/
theorem FirstOfEach.unique {others : List α} (h : FirstOfEach log firsts)
    (hothers : FirstOfEach log others) : firsts = others := by
  have hmem : ∀ a, a ∈ firsts ↔ a ∈ others := fun a => by rw [h.mem_iff, hothers.mem_iff]
  have hperm : firsts.Perm others := (List.perm_ext_iff_of_nodup h.nodup hothers.nodup).mpr hmem
  refine hperm.eq_of_pairwise (fun a b _ _ hab hba => ?_) h.inOrder hothers.inOrder
  omega

/-- Items that the log has keep their places when it grows. -/
theorem FirstOfEach.inOrder_append (h : FirstOfEach log firsts) (more : List α) :
    firsts.Pairwise fun a b => (log ++ more).idxOf a < (log ++ more).idxOf b := by
  refine h.inOrder.imp_of_mem fun {a b} ha hb hlt => ?_
  rw [List.idxOf_append_of_mem ((h.mem_iff a).mp ha),
    List.idxOf_append_of_mem ((h.mem_iff b).mp hb)]
  exact hlt

/-- What the log has already is not the first of its like. -/
theorem FirstOfEach.append_of_mem (h : FirstOfEach log firsts) (ha : a ∈ log) :
    FirstOfEach (log ++ [a]) firsts where
  nodup := h.nodup
  mem_iff := fun b => by
    rw [h.mem_iff, List.mem_append, List.mem_singleton]
    constructor
    · exact Or.inl
    · rintro (hb | rfl)
      · exact hb
      · exact ha
  inOrder := h.inOrder_append [a]

/-- What the log does not have yet is the last of the first. -/
theorem FirstOfEach.append_of_not_mem (h : FirstOfEach log firsts) (ha : a ∉ log) :
    FirstOfEach (log ++ [a]) (firsts ++ [a]) where
  nodup := by
    have hnew : a ∉ firsts := fun hmem => ha ((h.mem_iff a).mp hmem)
    rw [List.nodup_append]
    refine ⟨h.nodup, List.nodup_singleton a, fun b hb c hc heq => ?_⟩
    rw [List.mem_singleton] at hc
    exact hnew (hc ▸ heq ▸ hb)
  mem_iff := fun b => by rw [List.mem_append, List.mem_append, h.mem_iff]
  inOrder := by
    rw [List.pairwise_append]
    refine ⟨h.inOrder_append [a], List.pairwise_singleton _ a, fun b hb c hc => ?_⟩
    rw [List.mem_singleton] at hc
    subst hc
    have hb : b ∈ log := (h.mem_iff b).mp hb
    have hplace : log.idxOf b < log.length := List.idxOf_lt_length_of_mem hb
    rw [List.idxOf_append_of_mem hb, List.idxOf_append_of_notMem ha]
    omega

theorem firstOfEach_eraseDups (log : List α) : FirstOfEach log log.eraseDups := by
  induction log using List.reverseRecOn with
  | nil => exact ⟨List.nodup_nil, fun _ => Iff.rfl, List.Pairwise.nil⟩
  | append_singleton log a ih =>
    by_cases ha : a ∈ log
    · have hgone : (log ++ [a]).eraseDups = log.eraseDups := by
        rw [eraseDups_append_of_mem ha, List.append_nil]
      rw [hgone]
      exact ih.append_of_mem ha
    · have hkept : [a].removeAll log = [a] := by
        rw [List.cons_removeAll, if_pos (by simpa using ha)]
        rfl
      rw [List.eraseDups_append, hkept]
      exact ih.append_of_not_mem ha

theorem eraseDups_eq_iff : log.eraseDups = firsts ↔ FirstOfEach log firsts := by
  constructor
  · rintro rfl
    exact firstOfEach_eraseDups log
  · exact (firstOfEach_eraseDups log).unique

/-- Of two logs one after the other it is enough to have the first of each. -/
theorem eraseDups_append_eraseDups (log more : List α) :
    (log.eraseDups ++ more.eraseDups).eraseDups = (log ++ more).eraseDups := by
  have hself : ∀ l : List α, l.eraseDups.eraseDups = l.eraseDups := fun l =>
    eraseDups_of_nodup (firstOfEach_eraseDups l).nodup
  have hnew : more.eraseDups.removeAll log.eraseDups = (more.removeAll log).eraseDups := by
    rw [List.removeAll, List.removeAll, eraseDups_filter]
    refine List.filter_congr fun a _ => ?_
    rw [Bool.eq_iff_iff]
    simp
  rw [List.eraseDups_append, List.eraseDups_append, hself, hnew, hself]

end FirstOfEach

namespace Diagnostics

/-! ### Collections -/

/-- **How diagnostics come about**: they are empty at first, one is recorded, or those of another
collection are, which came about in the same way. -/
inductive Collection where
  | nothing
  | record (before : Collection) (d : Diagnostic)
  | extend (before other : Collection)

namespace Collection

/-- The diagnostics that have been collected. -/
def collected : Collection → Diagnostics
  | nothing => ∅
  | record before d => before.collected.record d
  | extend before other => before.collected.extend other.collected

/-- Everything that was recorded, in order and as often as it was. -/
def recorded : Collection → List Diagnostic
  | nothing => []
  | record before d => before.recorded ++ [d]
  | extend before other => before.recorded ++ other.recorded

theorem entries_collected (c : Collection) : c.collected.entries = c.recorded.eraseDups := by
  induction c with
  | nothing => rfl
  | record before d ih =>
    have hone : before.collected.record d = before.collected.recordAll [d] := rfl
    rw [collected, recorded, hone, entries_recordAll, ih,
      ← eraseDups_append_eraseDups before.recorded [d]]
    rfl
  | extend before other ih ihother =>
    rw [collected, recorded, Diagnostics.extend, entries_recordAll, ih, ihother,
      eraseDups_append_eraseDups]

end Collection

/-! ### Extending -/

variable (a b c : Diagnostics)

theorem entries_extend : (a.extend b).entries = (a.entries ++ b.entries).eraseDups :=
  entries_recordAll a b.entries

theorem eraseDups_entries : a.entries.eraseDups = a.entries := eraseDups_of_nodup a.nodup

theorem extend_assoc : (a.extend b).extend c = a.extend (b.extend c) := by
  refine ext_entries ?_
  have hleft : ((a.entries ++ b.entries).eraseDups ++ c.entries).eraseDups =
      (a.entries ++ b.entries ++ c.entries).eraseDups := by
    rw [← eraseDups_append_eraseDups (a.entries ++ b.entries), eraseDups_entries]
  have hright : (a.entries ++ (b.entries ++ c.entries).eraseDups).eraseDups =
      (a.entries ++ (b.entries ++ c.entries)).eraseDups := by
    rw [← eraseDups_append_eraseDups a.entries (b.entries ++ c.entries), eraseDups_entries]
  rw [entries_extend, entries_extend, entries_extend, entries_extend, hleft, hright,
    List.append_assoc]

theorem extend_empty : a.extend ∅ = a := rfl

theorem empty_extend : (∅ : Diagnostics).extend a = a := by
  refine ext_entries ?_
  have hnone : (∅ : Diagnostics).entries = [] := rfl
  rw [entries_extend, hnone, List.nil_append, eraseDups_entries]

theorem extend_self : a.extend a = a := by
  refine ext_entries ?_
  have hnew : a.entries.removeAll a.entries = [] := by
    rw [List.removeAll, List.filter_eq_nil_iff]
    intro d hd
    simpa using hd
  rw [entries_extend, List.eraseDups_append, hnew, eraseDups_entries]
  exact List.append_nil _

theorem hasKind_iff {kind : DiagnosticKind} :
    a.hasKind kind = true ↔ ∃ d, d ∈ a.entries ∧ d.kind = kind := by
  simp only [hasKind, List.any_eq_true, beq_iff_eq]

/-- **Collecting keeps the first of each.** However recording and extending alternate, the entries
are the first of each diagnostic that was recorded, and a kind is among them if a diagnostic of that
kind was recorded. Extending is associative, the empty diagnostics are its unit, and extending by
the same diagnostics once more changes nothing. -/
theorem collects_first_of_each :
    (∀ (s : Collection) firsts, s.collected.entries = firsts ↔ FirstOfEach s.recorded firsts) ∧
    (∀ (s : Collection) kind,
      s.collected.hasKind kind = true ↔ ∃ d, d ∈ s.recorded ∧ d.kind = kind) ∧
    (∀ a b c : Diagnostics, (a.extend b).extend c = a.extend (b.extend c)) ∧
    (∀ a : Diagnostics, a.extend ∅ = a ∧ (∅ : Diagnostics).extend a = a) ∧
    ∀ a b : Diagnostics, a.extend a = a ∧ (a.extend b).extend b = a.extend b := by
  refine ⟨fun s firsts => ?_, fun s kind => ?_, extend_assoc,
    fun a => ⟨extend_empty a, empty_extend a⟩, fun a b => ⟨extend_self a, ?_⟩⟩
  · rw [s.entries_collected]
    exact eraseDups_eq_iff
  · rw [hasKind_iff, s.entries_collected]
    simp only [List.mem_eraseDups]
  · rw [extend_assoc, extend_self]

end Diagnostics

end AutomationConfig
