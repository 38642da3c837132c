import AutomationConfig.Diagnostics
import Mathlib.Data.List.Basic
import Mathlib.Logic.Function.Basic

/-! # What is recorded

Recording the diagnostics of a list keeps the first of each (`Diagnostics.entries_ofList`). Where
the diagnostics of a list are made from names, and different names make different diagnostics, there
is one for each distinct name (`Diagnostics.entries_ofList_map`). What is taken out of a list may be
taken out before or after the first of each is kept (`eraseDups_filter`). -/

namespace AutomationConfig

section FirstOfEach

variable {α β : Type} [DecidableEq α] [DecidableEq β]

theorem eraseDups_of_nodup : ∀ {l : List α}, l.Nodup → l.eraseDups = l
  | [], _ => rfl
  | a :: l, h => by
    obtain ⟨ha, hl⟩ := List.nodup_cons.mp h
    have hfilter : l.filter (fun b => !b == a) = l := by
      refine List.filter_eq_self.mpr fun b hb => ?_
      have hne : b ≠ a := fun heq => ha (heq ▸ hb)
      simpa using hne
    rw [List.eraseDups_cons, hfilter, eraseDups_of_nodup hl]

theorem eraseDups_append_of_mem {a : α} {l : List α} (h : a ∈ l) (rest : List α) :
    (l ++ a :: rest).eraseDups = (l ++ rest).eraseDups := by
  rw [List.eraseDups_append, List.eraseDups_append, List.cons_removeAll, if_neg]
  simpa using h

theorem eraseDups_map {f : α → β} (hf : Function.Injective f) :
    ∀ l : List α, (l.map f).eraseDups = l.eraseDups.map f
  | [] => rfl
  | a :: l => by
    have hbeq : ∀ b, (f b == f a) = (b == a) := fun b => by
      rw [Bool.eq_iff_iff, beq_iff_eq, beq_iff_eq, hf.eq_iff]
    have hfilter : (l.map f).filter (fun b => !b == f a) = (l.filter fun b => !b == a).map f := by
      rw [List.filter_map]
      exact congrArg (List.map f) (List.filter_congr fun b _ => congrArg not (hbeq b))
    rw [List.map_cons, List.eraseDups_cons, hfilter, eraseDups_map hf, List.eraseDups_cons,
      List.map_cons]
termination_by l => l.length
decreasing_by exact Nat.lt_succ_of_le (List.length_filter_le _ _)

/-- What is left of the first of each is the first of each of what is left. -/
theorem eraseDups_filter (p : α → Bool) :
    ∀ l : List α, (l.filter p).eraseDups = l.eraseDups.filter p
  | [] => rfl
  | a :: l => by
    have ih : ((l.filter fun b => !b == a).filter p).eraseDups =
        (l.filter fun b => !b == a).eraseDups.filter p := eraseDups_filter p _
    by_cases hp : p a = true
    · rw [List.filter_cons_of_pos hp, List.eraseDups_cons, List.eraseDups_cons,
        List.filter_cons_of_pos hp, List.filter_comm, ih]
    · have hgone : (l.filter fun b => !b == a).filter p = l.filter p := by
        rw [List.filter_filter]
        refine List.filter_congr fun b _ => ?_
        by_cases hb : b = a <;> simp [hb, hp]
      rw [List.filter_cons_of_neg hp, List.eraseDups_cons, List.filter_cons_of_neg hp, ← ih, hgone]
termination_by l => l.length
decreasing_by exact Nat.lt_succ_of_le (List.length_filter_le _ _)

end FirstOfEach

namespace Diagnostics

theorem entries_recordAll (ds : Diagnostics) (found : List Diagnostic) :
    (ds.recordAll found).entries = (ds.entries ++ found).eraseDups := by
  induction found generalizing ds with
  | nil =>
    rw [List.append_nil, eraseDups_of_nodup ds.nodup]
    rfl
  | cons d found ih =>
    -- what has been recorded already is not the first of its like, so it may be left out
    have hrecord : ds.recordAll (d :: found) = (ds.record d).recordAll found := rfl
    rw [hrecord, ih, entries_record]
    split
    next hmem => rw [eraseDups_append_of_mem hmem]
    next hnew => rw [List.append_assoc, List.singleton_append]

/-- The diagnostics of a list are the first of each in it. -/
theorem entries_ofList (found : List Diagnostic) : (ofList found).entries = found.eraseDups :=
  entries_recordAll ∅ found

theorem entries_ofList_map {α : Type} [DecidableEq α] {f : α → Diagnostic}
    (hf : Function.Injective f) (l : List α) : (ofList (l.map f)).entries = l.eraseDups.map f := by
  rw [entries_ofList, eraseDups_map hf]

end Diagnostics

end AutomationConfig
