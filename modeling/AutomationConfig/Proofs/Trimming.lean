import AutomationConfig.Text.Blank
import Mathlib.Data.List.DropRight

/-! # Trimmed texts and their words

Trimming and taking apart into words are scans of a text. Here both are said by what the text is put
together from.

* `eq_rdropWhile_iff`: what is left of a list when its end is dropped as long as a test holds.
* `Text.amidBlanks_iff`: what trimming leaves of a text, where the blanks around it do not matter.
* `Text.words_eq_iff`: the words of a text without blanks at its ends are those it is made of, with
  blanks between them (`Text.Spaced`). -/

namespace AutomationConfig

/-! ### The end of a list -/

section End

variable {α : Type} {p : α → Bool} {s t back : List α}

theorem rdropWhile_append (hlast : ∀ a, s.getLast? = some a → p a = false)
    (hback : ∀ a ∈ back, p a = true) : (s ++ back).rdropWhile p = s := by
  have hstop : s.reverse.dropWhile p = s.reverse := by
    cases hs : s.reverse with
    | nil => rfl
    | cons a rest =>
      have ha : s.getLast? = some a := by rw [← List.head?_reverse, hs, List.head?_cons]
      rw [List.dropWhile_cons_of_neg (by simp [hlast a ha])]
  have hdropped : ∀ a ∈ back.reverse, p a = true := fun a ha => hback a (List.mem_reverse.mp ha)
  rw [List.rdropWhile, List.reverse_append, List.dropWhile_append_of_pos hdropped, hstop,
    List.reverse_reverse]

/-- **What is left** of a list is what does not end in something to drop, with nothing but such
behind it. -/
theorem eq_rdropWhile_iff : t = s.rdropWhile p ↔
    (∃ back, s = t ++ back ∧ ∀ a ∈ back, p a = true) ∧
      ∀ a, t.getLast? = some a → p a = false := by
  constructor
  · rintro rfl
    refine ⟨⟨s.rtakeWhile p, ?_, fun a ha => List.mem_rtakeWhile_imp ha⟩, fun a ha => ?_⟩
    · exact List.rdropWhile_append_rtakeWhile.symm
    · obtain ⟨hne, rfl⟩ := List.mem_getLast?_eq_getLast ha
      exact Bool.eq_false_iff.mpr (List.rdropWhile_last_not p s hne)
  · rintro ⟨⟨back, rfl, hback⟩, hlast⟩
    exact (rdropWhile_append hlast hback).symm

end End

namespace Text

/-! ### Trimming -/

/-- There is no blank at either end. -/
structure Trimmed (s : List Char) : Prop where
  first : ∀ c, s.head? = some c → isBlank c = false
  last : ∀ c, s.getLast? = some c → isBlank c = false

/-- The text is one with the property, up to the blanks at its ends. -/
def AmidBlanks (P : List Char → Prop) (s : List Char) : Prop :=
  ∃ lead body trail, s = lead ++ body ++ trail ∧ (∀ c ∈ lead, isBlank c = true) ∧
    (∀ c ∈ trail, isBlank c = true) ∧ P body

theorem amidBlanks_congr {P Q : List Char → Prop} (h : ∀ body, P body ↔ Q body) {s : List Char} :
    AmidBlanks P s ↔ AmidBlanks Q s := by
  simp only [AmidBlanks, h]

theorem amidBlanks_or {P Q : List Char → Prop} {s : List Char} :
    AmidBlanks (fun body => P body ∨ Q body) s ↔ AmidBlanks P s ∨ AmidBlanks Q s := by
  constructor
  · rintro ⟨lead, body, trail, hs, hlead, htrail, h | h⟩
    · exact .inl ⟨lead, body, trail, hs, hlead, htrail, h⟩
    · exact .inr ⟨lead, body, trail, hs, hlead, htrail, h⟩
  · rintro (⟨lead, body, trail, hs, hlead, htrail, h⟩ | ⟨lead, body, trail, hs, hlead, htrail, h⟩)
    · exact ⟨lead, body, trail, hs, hlead, htrail, .inl h⟩
    · exact ⟨lead, body, trail, hs, hlead, htrail, .inr h⟩

theorem AmidBlanks.mem {P : List Char → Prop} {s : List Char} (h : AmidBlanks P s) {c : Char}
    (hc : c ∈ s) : isBlank c = true ∨ ∃ body, P body ∧ c ∈ body := by
  obtain ⟨lead, body, trail, rfl, hlead, htrail, hbody⟩ := h
  rcases List.mem_append.mp hc with hc | hc
  · rcases List.mem_append.mp hc with hc | hc
    · exact .inl (hlead c hc)
    · exact .inr ⟨body, hbody, hc⟩
  · exact .inl (htrail c hc)

theorem trimStart_append {lead s : List Char} (hlead : ∀ c ∈ lead, isBlank c = true) :
    trimStart (lead ++ s) = trimStart s := List.dropWhile_append_of_pos hlead

theorem trimStart_eq_self {s : List Char} (h : ∀ c, s.head? = some c → isBlank c = false) :
    trimStart s = s := by
  cases s with
  | nil => rfl
  | cons c rest => exact List.dropWhile_cons_of_neg (by simp [h c rfl])

theorem first_trimStart (s : List Char) :
    ∀ c, (trimStart s).head? = some c → isBlank c = false := by
  intro c hc
  have hstop := List.head?_dropWhile_not isBlank s
  rw [trimStart] at hc
  rw [hc] at hstop
  exact hstop

/-- Trimming takes off blanks only. -/
theorem exists_trim (s : List Char) : ∃ lead trail, s = lead ++ trim s ++ trail ∧
    (∀ c ∈ lead, isBlank c = true) ∧ ∀ c ∈ trail, isBlank c = true := by
  obtain ⟨⟨trail, hs, htrail⟩, -⟩ :=
    eq_rdropWhile_iff.mp (rfl : trim s = (trimStart s).rdropWhile isBlank)
  refine ⟨s.takeWhile isBlank, trail, ?_, fun c hc => List.mem_takeWhile_imp hc, htrail⟩
  rw [List.append_assoc, ← hs]
  exact List.takeWhile_append_dropWhile.symm

theorem trimmed_trim (s : List Char) : Trimmed (trim s) := by
  obtain ⟨⟨trail, hs, -⟩, hlast⟩ :=
    eq_rdropWhile_iff.mp (rfl : trim s = (trimStart s).rdropWhile isBlank)
  refine ⟨fun c hc => first_trimStart s c ?_, hlast⟩
  rw [hs, List.head?_append, hc]
  rfl

/-- Trimming takes off all blanks at the ends. -/
theorem trim_append {lead body trail : List Char} (hbody : Trimmed body)
    (hlead : ∀ c ∈ lead, isBlank c = true) (htrail : ∀ c ∈ trail, isBlank c = true) :
    trim (lead ++ body ++ trail) = body := by
  rw [trim, List.append_assoc, trimStart_append hlead]
  rcases List.eq_nil_or_concat' body with rfl | ⟨front, last, rfl⟩
  · have hnothing : trimStart ([] ++ trail) = [] := List.dropWhile_eq_nil_iff.mpr htrail
    rw [hnothing]
    rfl
  · have hfirst : trimStart (front ++ [last] ++ trail) = front ++ [last] ++ trail := by
      refine trimStart_eq_self fun c hc => hbody.first c ?_
      rw [List.head?_append_of_ne_nil _ (by simp)] at hc
      exact hc
    rw [hfirst]
    exact rdropWhile_append hbody.last htrail

/-- **What trimming leaves**: a text without blanks at its ends is found by trimming, whatever
blanks are around it. -/
theorem amidBlanks_iff {P : List Char → Prop} (hP : ∀ body, P body → Trimmed body)
    {s : List Char} : AmidBlanks P s ↔ P (trim s) := by
  constructor
  · rintro ⟨lead, body, trail, rfl, hlead, htrail, hbody⟩
    rw [trim_append (hP body hbody) hlead htrail]
    exact hbody
  · intro h
    obtain ⟨lead, trail, hs, hlead, htrail⟩ := exists_trim s
    exact ⟨lead, trim s, trail, hs, hlead, htrail, h⟩

/-! ### Words -/

/-- Something without a blank in it. -/
structure IsWord (w : List Char) : Prop where
  ne_nil : w ≠ []
  solid : ∀ c ∈ w, isBlank c = false

/-- A text that is made of these words, with blanks between them. -/
inductive Spaced : List (List Char) → List Char → Prop
  | single {w : List Char} (hw : IsWord w) : Spaced [w] w
  | cons {w gap s : List Char} {ws : List (List Char)} (hw : IsWord w) (hgap : gap ≠ [])
      (hblank : ∀ c ∈ gap, isBlank c = true) (h : Spaced ws s) : Spaced (w :: ws) (w ++ gap ++ s)

theorem wordsFrom_append {w : List Char} (hw : ∀ c ∈ w, isBlank c = false)
    (current s : List Char) : wordsFrom current (w ++ s) = wordsFrom (w.reverse ++ current) s := by
  induction w generalizing current with
  | nil => rfl
  | cons c w ih =>
    obtain ⟨hc, hw⟩ := List.forall_mem_cons.mp hw
    rw [List.cons_append, wordsFrom, if_neg (by simp [hc]), ih hw, List.reverse_cons,
      List.append_assoc]
    rfl

theorem wordsFrom_blanks {gap : List Char} (hblank : ∀ c ∈ gap, isBlank c = true)
    (s : List Char) : wordsFrom [] (gap ++ s) = wordsFrom [] s := by
  induction gap with
  | nil => rfl
  | cons c gap ih =>
    obtain ⟨hc, hblank⟩ := List.forall_mem_cons.mp hblank
    rw [List.cons_append, wordsFrom, if_pos hc, if_pos List.isEmpty_nil, ih hblank]

theorem Spaced.words_eq {ws : List (List Char)} {s : List Char} (h : Spaced ws s) :
    words s = ws := by
  induction h with
  | @single w hw =>
    have hread := wordsFrom_append hw.solid [] []
    rw [List.append_nil, List.append_nil] at hread
    rw [words, hread, wordsFrom, if_neg (by simp [hw.ne_nil]), List.reverse_reverse]
  | @cons w gap s ws hw hgap hblank h ih =>
    obtain ⟨c, gap, rfl⟩ := List.exists_cons_of_ne_nil hgap
    obtain ⟨hc, hblank⟩ := List.forall_mem_cons.mp hblank
    rw [words, List.append_assoc, wordsFrom_append hw.solid, List.append_nil, List.cons_append,
      wordsFrom, if_pos hc, if_neg (by simp [hw.ne_nil]), List.reverse_reverse,
      wordsFrom_blanks hblank]
    exact congrArg (w :: ·) ih

theorem Spaced.ne_nil {ws : List (List Char)} {s : List Char} (h : Spaced ws s) : s ≠ [] := by
  cases h with
  | single hw => exact hw.ne_nil
  | cons hw _ _ _ => simp [hw.ne_nil]

theorem Spaced.isWord {ws : List (List Char)} {s : List Char} (h : Spaced ws s) :
    ∀ w ∈ ws, IsWord w := by
  induction h with
  | single hw => exact List.forall_mem_singleton.mpr hw
  | cons hw _ _ _ ih => exact List.forall_mem_cons.mpr ⟨hw, ih⟩

/-- A character of a spaced text is a blank or stands in one of the words. -/
theorem Spaced.mem {ws : List (List Char)} {s : List Char} (h : Spaced ws s) {c : Char}
    (hc : c ∈ s) : isBlank c = true ∨ ∃ w ∈ ws, c ∈ w := by
  induction h with
  | @single w hw => exact .inr ⟨w, List.mem_singleton_self w, hc⟩
  | @cons w gap s ws hw hgap hblank h ih =>
    rcases List.mem_append.mp hc with hc | hc
    · rcases List.mem_append.mp hc with hc | hc
      · exact .inr ⟨w, List.mem_cons_self, hc⟩
      · exact .inl (hblank c hc)
    · exact (ih hc).imp_right fun ⟨w', hw', hc⟩ => ⟨w', List.mem_cons_of_mem w hw', hc⟩

theorem Spaced.trimmed {ws : List (List Char)} {s : List Char} (h : Spaced ws s) : Trimmed s := by
  induction h with
  | @single w hw =>
    exact ⟨fun c hc => hw.solid c (List.mem_of_head? hc),
      fun c hc => hw.solid c (List.mem_of_getLast? hc)⟩
  | @cons w gap s ws hw hgap hblank h ih =>
    refine ⟨fun c hc => hw.solid c (List.mem_of_head? ?_), fun c hc => ih.last c ?_⟩
    · rw [List.append_assoc, List.head?_append_of_ne_nil _ hw.ne_nil] at hc
      exact hc
    · rw [List.getLast?_append_of_ne_nil _ h.ne_nil] at hc
      exact hc

/-- A text that does not end in a blank falls into words, behind the blanks that it starts with. -/
theorem exists_spaced : ∀ {s : List Char}, s ≠ [] →
    (∀ c, s.getLast? = some c → isBlank c = false) →
      ∃ gap body ws, s = gap ++ body ∧ (∀ c ∈ gap, isBlank c = true) ∧ Spaced ws body
  | [], hne, _ => absurd rfl hne
  | [c], _, hlast => by
    have hword : IsWord [c] := ⟨List.cons_ne_nil c [], by simpa using hlast c rfl⟩
    exact ⟨[], [c], [[c]], rfl, by simp, .single hword⟩
  | c :: d :: rest, _, hlast => by
    obtain ⟨gap, body, ws, hs, hblank, hspaced⟩ :=
      exists_spaced (List.cons_ne_nil d rest) fun a ha => hlast a (by simpa using ha)
    cases hc : isBlank c with
    | true =>
      refine ⟨c :: gap, body, ws, by rw [hs]; rfl, ?_, hspaced⟩
      exact List.forall_mem_cons.mpr ⟨hc, hblank⟩
    | false =>
      cases gap with
      | cons b gap =>
        have hword : IsWord [c] := ⟨List.cons_ne_nil c [], by simpa using hc⟩
        refine ⟨[], _, [c] :: ws, ?_, by simp, .cons hword (List.cons_ne_nil b gap) hblank hspaced⟩
        rw [hs]
        rfl
      | nil =>
        -- the first word becomes longer
        have longer : ∀ {w : List Char}, IsWord w → IsWord (c :: w) := fun hw =>
          ⟨List.cons_ne_nil c _, List.forall_mem_cons.mpr ⟨hc, hw.solid⟩⟩
        rw [List.nil_append] at hs
        rw [hs]
        cases hspaced with
        | single hw => exact ⟨[], _, _, rfl, by simp, .single (longer hw)⟩
        | cons hw hgap hblank h => exact ⟨[], _, _, rfl, by simp, .cons (longer hw) hgap hblank h⟩

/-- **The words of a text** without blanks at its ends are those it is made of. -/
theorem words_eq_iff {s : List Char} {ws : List (List Char)} (hs : Trimmed s) (hne : s ≠ []) :
    words s = ws ↔ Spaced ws s := by
  refine ⟨?_, Spaced.words_eq⟩
  rintro rfl
  obtain ⟨gap, body, ws, heq, hblank, hspaced⟩ := exists_spaced hne hs.last
  cases gap with
  | nil =>
    obtain rfl : s = body := heq
    rw [hspaced.words_eq]
    exact hspaced
  | cons c gap =>
    have hfirst := hs.first c (by rw [heq]; rfl)
    rw [hblank c List.mem_cons_self] at hfirst
    exact nomatch hfirst

end Text

end AutomationConfig
