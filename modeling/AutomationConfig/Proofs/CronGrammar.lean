import AutomationConfig.Monitor.Schedule
import AutomationConfig.Proofs.TaskRules
import AutomationConfig.Proofs.Trimming
import Mathlib.Data.List.Basic

/-! # The grammar of cron expressions

`Cron.Expression` says what an expression is, up to the question which texts spell the name of a
descriptor. The check asks for the name once the text is in lower case, and accepts exactly the
expressions in that sense (`Cron.check_eq_ok`).

Read so, the case of ASCII letters does not matter, and there is one spelling more that is not
ASCII: the Kelvin sign is a letter whose lower case is a plain `k`, so it may stand in the one
descriptor that has a `k` (`Cron.schedule_accepts_iff`). -/

namespace AutomationConfig

/-! ### Visible characters of ASCII -/

namespace Text

/-- A character of ASCII that is neither a control nor the space. -/
def IsVisible (c : Char) : Prop := 0x21 ≤ c.toNat ∧ c.toNat < 0x7F

instance (c : Char) : Decidable (IsVisible c) := inferInstanceAs (Decidable (_ ∧ _))

theorem all_isVisible_iff {s : List Char} :
    (s.all fun c => decide (IsVisible c)) = true ↔ ∀ c ∈ s, IsVisible c := by
  simp only [List.all_eq_true, decide_eq_true_eq]

theorem IsVisible.isBlank_eq_false {c : Char} (h : IsVisible c) : isBlank c = false := by
  obtain ⟨hlow, hhigh⟩ := h
  simp only [isBlank, Bool.or_eq_false_iff, Bool.and_eq_false_iff, beq_eq_false_iff_ne,
    decide_eq_false_iff_not]
  omega

theorem lower_of_ne {c : Char} (h : c ≠ '\u212a') : lower c = c.toLower := if_neg h

/-- A character whose lower case is visible ASCII is so itself, the Kelvin sign apart. -/
theorem isVisible_of_toLower {c : Char} (h : IsVisible c.toLower) : IsVisible c := by
  by_cases hupper : c.val ≥ 'A'.val ∧ c.val ≤ 'Z'.val
  · have hlow : 65 ≤ c.toNat := UInt32.le_iff_toNat_le.mp hupper.1
    have hhigh : c.toNat ≤ 90 := UInt32.le_iff_toNat_le.mp hupper.2
    exact ⟨by omega, by omega⟩
  · have hself : c.toLower = c := dif_neg hupper
    rwa [hself] at h

theorem isVisible_or_eq_of_lower {c : Char} (h : IsVisible (lower c)) :
    IsVisible c ∨ c = '\u212a' := by
  by_cases hkelvin : c = '\u212a'
  · exact .inr hkelvin
  · rw [lower_of_ne hkelvin] at h
    exact .inl (isVisible_of_toLower h)

theorem map_lower_eq {s : List Char} (h : '\u212a' ∉ s) : s.map lower = s.map Char.toLower :=
  List.map_congr_left fun _ hc => lower_of_ne fun heq => h (heq ▸ hc)

/-- A text whose lower case is in ASCII has no Kelvin sign, if ASCII letters are all that is put in
lower case. -/
theorem kelvin_notMem {s name : List Char} (h : s.map Char.toLower = name)
    (hname : ∀ c ∈ name, IsVisible c) : '\u212a' ∉ s := by
  intro hmem
  have hlowered : '\u212a'.toLower ∈ name := h ▸ List.mem_map_of_mem hmem
  exact absurd (hname _ hlowered) (by decide)

theorem eq_at_of_lower {c : Char} (h : lower c = '@') : c = '@' := by
  rcases isVisible_or_eq_of_lower (c := c) (by rw [h]; decide) with hvisible | rfl
  · have hne : c ≠ '\u212a' := fun heq => absurd hvisible (by rw [heq]; decide)
    rw [lower_of_ne hne, ← Char.ofNat_toNat c] at h
    have hat := (by decide : ∀ n < 0x7F, (Char.ofNat n).toLower = '@' → Char.ofNat n = '@')
      c.toNat hvisible.2 h
    rwa [Char.ofNat_toNat] at hat
  · exact absurd h (by decide)

end Text

namespace Cron

open Text (AmidBlanks IsVisible IsWord Spaced Trimmed)

/-! ### The grammar -/

/-- A character of a field: a letter or a digit of ASCII, or one of six signs. -/
def IsFieldChar (c : Char) : Prop :=
  Task.IsLetter c ∨ Task.IsDigit c ∨ c ∈ ['*', '/', ',', '?', '#', '-']

/-- A field of an expression. -/
structure IsField (field : List Char) : Prop where
  ne_nil : field ≠ []
  chars : ∀ c ∈ field, IsFieldChar c

/-- **The expressions**, given which texts spell the name of a descriptor: a descriptor, or five to
seven fields with blanks between them. -/
inductive Expression (Spells : List Char → String → Prop) : List Char → Prop
  | descriptor {text : List Char} {name : String}
      (hname : name ∈ ["@yearly", "@annually", "@monthly", "@weekly", "@daily", "@midnight",
        "@hourly"])
      (h : Spells text name) : Expression Spells text
  | fields {text : List Char} {fields : List (List Char)} (hstart : text.head? ≠ some '@')
      (hfew : 5 ≤ fields.length) (hmany : fields.length ≤ 7) (hfields : ∀ f ∈ fields, IsField f)
      (h : Spaced fields text) : Expression Spells text

/-- The name up to the case of ASCII letters. -/
def SpellsInAscii (text : List Char) (name : String) : Prop := text.map Char.toLower = name.toList

/-- The name once the text is in lower case. -/
def SpellsLowered (text : List Char) (name : String) : Prop := text.map Text.lower = name.toList

/-- The weekly descriptor with the Kelvin sign for its `k`. -/
def IsKelvinWeekly (text : List Char) : Prop :=
  ∃ front back, text = front ++ '\u212a' :: back ∧ SpellsInAscii front "@wee" ∧
    SpellsInAscii back "ly"

/-! ### Characters -/

theorem isFieldChar_iff {c : Char} : isFieldChar c = true ↔ IsFieldChar c := by
  simp only [isFieldChar, IsFieldChar, Char.isAlphanum, Bool.or_eq_true, Task.isAlpha_iff,
    Task.isDigit_iff, beq_iff_eq, List.mem_cons, List.not_mem_nil, or_false, or_assoc]

theorem IsFieldChar.isVisible {c : Char} (h : IsFieldChar c) : IsVisible c := by
  rcases h with (⟨hlow, hhigh⟩ | ⟨hlow, hhigh⟩) | ⟨hlow, hhigh⟩ | hsign
  · have hlow : 97 ≤ c.toNat := UInt32.le_iff_toNat_le.mp hlow
    have hhigh : c.toNat ≤ 122 := UInt32.le_iff_toNat_le.mp hhigh
    exact ⟨by omega, by omega⟩
  · have hlow : 65 ≤ c.toNat := UInt32.le_iff_toNat_le.mp hlow
    have hhigh : c.toNat ≤ 90 := UInt32.le_iff_toNat_le.mp hhigh
    exact ⟨by omega, by omega⟩
  · have hlow : 48 ≤ c.toNat := UInt32.le_iff_toNat_le.mp hlow
    have hhigh : c.toNat ≤ 57 := UInt32.le_iff_toNat_le.mp hhigh
    exact ⟨by omega, by omega⟩
  · exact Text.all_isVisible_iff.mp (by decide) c hsign

theorem isVisible_of_mem_descriptors :
    ∀ name ∈ descriptors, ∀ c ∈ name.toList, IsVisible c := fun name hname =>
  Text.all_isVisible_iff.mp ((by decide : ∀ name ∈ descriptors,
    (name.toList.all fun c => decide (IsVisible c)) = true) name hname)

/-- What the texts of descriptors are made of. -/
theorem isVisible_or_eq_of_spellsLowered {text : List Char} {name : String}
    (hname : name ∈ descriptors) (h : SpellsLowered text name) :
    ∀ c ∈ text, IsVisible c ∨ c = '\u212a' := by
  intro c hc
  have hlowered : Text.lower c ∈ name.toList := h ▸ List.mem_map_of_mem hc
  exact Text.isVisible_or_eq_of_lower (isVisible_of_mem_descriptors name hname _ hlowered)

/-- Descriptors start with an at sign. -/
theorem head?_of_spellsLowered {text : List Char} {name : String} (hname : name ∈ descriptors)
    (h : SpellsLowered text name) : text.head? = some '@' := by
  have hfirst : (text.map Text.lower).head? = some '@' := by
    rw [show text.map Text.lower = name.toList from h]
    exact (by decide : ∀ name ∈ descriptors, name.toList.head? = some '@') name hname
  rw [List.head?_map, Option.map_eq_some_iff] at hfirst
  obtain ⟨c, hc, hat⟩ := hfirst
  rw [hc, Text.eq_at_of_lower hat]

theorem Expression.ne_nil {text : List Char} (h : Expression SpellsLowered text) : text ≠ [] := by
  cases h with
  | descriptor hname h =>
    rintro rfl
    exact nomatch head?_of_spellsLowered hname h
  | fields _ _ _ _ h => exact h.ne_nil

theorem Expression.trimmed {text : List Char} (h : Expression SpellsLowered text) :
    Trimmed text := by
  cases h with
  | descriptor hname h =>
    have hsolid : ∀ c ∈ text, Text.isBlank c = false := fun c hc => by
      rcases isVisible_or_eq_of_spellsLowered hname h c hc with hvisible | rfl
      · exact hvisible.isBlank_eq_false
      · decide
    exact ⟨fun c hc => hsolid c (List.mem_of_head? hc),
      fun c hc => hsolid c (List.mem_of_getLast? hc)⟩
  | fields _ _ _ _ h => exact h.trimmed

theorem Expression.kelvin_notMem {text : List Char} (h : Expression SpellsInAscii text) :
    '\u212a' ∉ text := by
  cases h with
  | descriptor hname h => exact Text.kelvin_notMem h (isVisible_of_mem_descriptors _ hname)
  | fields _ _ _ hfields h =>
    intro hmem
    rcases h.mem hmem with hblank | ⟨f, hf, hmem⟩
    · exact absurd hblank (by decide)
    · exact absurd ((hfields f hf).chars _ hmem).isVisible (by decide)

/-- An expression is in ASCII but for blanks and the Kelvin sign. -/
theorem Expression.mem {text : List Char} (h : Expression SpellsLowered text) {c : Char}
    (hc : c ∈ text) : IsVisible c ∨ Text.isBlank c = true ∨ c = '\u212a' := by
  cases h with
  | descriptor hname h =>
    exact (isVisible_or_eq_of_spellsLowered hname h c hc).imp_right .inr
  | fields _ _ _ hfields h =>
    rcases h.mem hc with hblank | ⟨f, hf, hc⟩
    · exact .inr (.inl hblank)
    · exact .inl ((hfields f hf).chars c hc).isVisible

/-! ### The check -/

/-- The fields of a text are in order if there are neither too few nor too many, and each of them
is made of what a field may have. -/
theorem checkFields_eq_ok {text : List Char} (htext : text ≠ []) (hat : text.head? ≠ some '@') :
    checkTrimmed text = .ok () ↔ 5 ≤ (Text.words text).length ∧ (Text.words text).length ≤ 7 ∧
      ∀ f ∈ Text.words text, ∀ c ∈ f, IsFieldChar c := by
  have hout : (decide ((Text.words text).length < 5) || decide (7 < (Text.words text).length)) =
      true ↔ ¬ (5 ≤ (Text.words text).length ∧ (Text.words text).length ≤ 7) := by
    rw [Bool.or_eq_true, decide_eq_true_eq, decide_eq_true_eq]
    omega
  have hnone : ((Text.words text).find? fun field => !field.all isFieldChar) = none ↔
      ∀ f ∈ Text.words text, ∀ c ∈ f, IsFieldChar c := by
    simp only [List.find?_eq_none, Bool.not_eq_true', Bool.not_eq_false, List.all_eq_true,
      isFieldChar_iff]
  rw [checkTrimmed, if_neg (by simp [htext]), if_neg hat]
  by_cases hcount : 5 ≤ (Text.words text).length ∧ (Text.words text).length ≤ 7
  · simp only [if_neg fun h => hout.mp h hcount, hcount, true_and]
    rw [← hnone]
    cases (Text.words text).find? fun field => !field.all isFieldChar <;> simp
  · simp only [if_pos (hout.mpr hcount), reduceCtorEq, false_iff]
    exact fun h => hcount ⟨h.1, h.2.1⟩

/-- Behind an at sign there has to be the name of a descriptor. -/
theorem checkDescriptor_eq_ok {text : List Char} (hat : text.head? = some '@') :
    checkTrimmed text = .ok () ↔ ∃ name ∈ descriptors, SpellsLowered text name := by
  have htext : text ≠ [] := List.ne_nil_of_mem (List.mem_of_head? hat)
  rw [checkTrimmed, if_neg (by simp [htext]), if_pos hat, require_eq_ok, List.any_eq_true]
  simp only [Text.lowersTo, beq_iff_eq, SpellsLowered]

theorem checkTrimmed_eq_ok {text : List Char} (h : Trimmed text) :
    checkTrimmed text = .ok () ↔ Expression SpellsLowered text := by
  by_cases htext : text = []
  · subst htext
    exact iff_of_false (fun hok => nomatch hok) fun hexpr => hexpr.ne_nil rfl
  by_cases hat : text.head? = some '@'
  · rw [checkDescriptor_eq_ok hat]
    constructor
    · rintro ⟨name, hname, hspells⟩
      exact .descriptor hname hspells
    · intro hexpr
      cases hexpr with
      | descriptor hname hspells => exact ⟨_, hname, hspells⟩
      | fields hstart => exact absurd hat hstart
  · rw [checkFields_eq_ok htext hat]
    constructor
    · rintro ⟨hfew, hmany, hfields⟩
      have hspaced := (Text.words_eq_iff h htext).mp rfl
      exact .fields hat hfew hmany (fun f hf => ⟨(hspaced.isWord f hf).ne_nil, hfields f hf⟩)
        hspaced
    · intro hexpr
      cases hexpr with
      | descriptor hname hspells => exact absurd (head?_of_spellsLowered hname hspells) hat
      | fields _ hfew hmany hfields hspaced =>
        rw [hspaced.words_eq]
        exact ⟨hfew, hmany, fun f hf => (hfields f hf).chars⟩

/-- **The check accepts** the expressions, with blanks around them. -/
theorem check_eq_ok {s : String} :
    check s = .ok () ↔ AmidBlanks (Expression SpellsLowered) s.toList := by
  rw [check, checkTrimmed_eq_ok (Text.trimmed_trim s.toList),
    Text.amidBlanks_iff fun _ => Expression.trimmed]

/-! ### Spellings of descriptors -/

/-- In lower case a text comes to the name of a descriptor if it is that name up to the case of
ASCII letters, or the weekly descriptor with the Kelvin sign. -/
theorem spellsLowered_iff {text : List Char} {name : String} (hname : name ∈ descriptors) :
    SpellsLowered text name ↔
      SpellsInAscii text name ∨ name = "@weekly" ∧ IsKelvinWeekly text := by
  have hvisible := isVisible_of_mem_descriptors name hname
  constructor
  · intro h
    by_cases hkelvin : '\u212a' ∈ text
    · obtain ⟨front, back, rfl⟩ := List.append_of_mem hkelvin
      have hsplit : front.map Text.lower ++ 'k' :: back.map Text.lower = name.toList := by
        rw [← h, List.map_append, List.map_cons]
        rfl
      have hk : 'k' ∈ name.toList := hsplit ▸ by simp
      obtain rfl : name = "@weekly" :=
        (by decide : ∀ name ∈ descriptors, 'k' ∈ name.toList → name = "@weekly") name hname hk
      have hweekly : "@weekly".toList = "@wee".toList ++ 'k' :: "ly".toList := rfl
      have hfree : 'k' ∉ "@wee".toList ∧ 'k' ∉ "ly".toList := by decide
      obtain ⟨hfront, -, hback⟩ :=
        (List.append_cons_inj_of_notMem hfree.1 hfree.2).mp (hweekly.symm.trans hsplit.symm)
      have hleft : '\u212a' ∉ front := fun hmem => hfree.1 (hfront ▸ List.mem_map_of_mem hmem)
      have hright : '\u212a' ∉ back := fun hmem => hfree.2 (hback ▸ List.mem_map_of_mem hmem)
      rw [Text.map_lower_eq hleft] at hfront
      rw [Text.map_lower_eq hright] at hback
      exact .inr ⟨rfl, front, back, rfl, hfront.symm, hback.symm⟩
    · exact .inl ((Text.map_lower_eq hkelvin).symm.trans h)
  · rintro (h | ⟨rfl, front, back, rfl, hfront, hback⟩)
    · exact (Text.map_lower_eq (Text.kelvin_notMem h hvisible)).trans h
    · have hends : (∀ c ∈ "@wee".toList, IsVisible c) ∧ ∀ c ∈ "ly".toList, IsVisible c :=
        ⟨Text.all_isVisible_iff.mp (by decide), Text.all_isVisible_iff.mp (by decide)⟩
      have hleft : '\u212a' ∉ front := Text.kelvin_notMem hfront hends.1
      have hright : '\u212a' ∉ back := Text.kelvin_notMem hback hends.2
      rw [SpellsLowered, List.map_append, List.map_cons, Text.map_lower_eq hleft,
        Text.map_lower_eq hright, hfront, hback]
      rfl

/-- The expressions that are accepted are those up to the case of ASCII letters, and the weekly
descriptor with the Kelvin sign. -/
theorem expression_iff {text : List Char} : Expression SpellsLowered text ↔
    Expression SpellsInAscii text ∨ IsKelvinWeekly text := by
  constructor
  · intro h
    cases h with
    | descriptor hname h =>
      rcases (spellsLowered_iff hname).mp h with h | ⟨-, h⟩
      · exact .inl (.descriptor hname h)
      · exact .inr h
    | fields hstart hfew hmany hfields h => exact .inl (.fields hstart hfew hmany hfields h)
  · rintro (h | h)
    · cases h with
      | descriptor hname h => exact .descriptor hname ((spellsLowered_iff hname).mpr (.inl h))
      | fields hstart hfew hmany hfields h => exact .fields hstart hfew hmany hfields h
    · have hname : "@weekly" ∈ descriptors := by decide
      exact .descriptor hname ((spellsLowered_iff hname).mpr (.inr ⟨rfl, h⟩))

/-! ### The schedule -/

/-- **A schedule is accepted** if its expression is one up to the case of ASCII letters, or the
weekly descriptor with the Kelvin sign for its `k`, with any blanks around it. So the Kelvin sign is
the one character beyond ASCII that an accepted expression may have, blanks apart. -/
theorem schedule_accepts_iff (s : String) :
    ((ScheduleMonitor.mk (some s)).check = .ok () ↔
      AmidBlanks (Expression SpellsInAscii) s.toList ∨ AmidBlanks IsKelvinWeekly s.toList) ∧
    ((ScheduleMonitor.mk (some s)).check = .ok () →
      ∀ c ∈ s.toList, c.toNat < 0x80 ∨ Text.isBlank c = true ∨ c = '\u212a') := by
  have hcheck : (ScheduleMonitor.mk (some s)).check = .ok () ↔
      AmidBlanks (Expression SpellsLowered) s.toList := check_eq_ok
  refine ⟨?grammar, fun h c hc => ?ascii⟩
  case grammar =>
    rw [hcheck, Text.amidBlanks_congr fun _ => expression_iff, Text.amidBlanks_or]
  case ascii =>
    rcases (hcheck.mp h).mem hc with hblank | ⟨body, hbody, hc⟩
    · exact .inr (.inl hblank)
    · exact (hbody.mem hc).imp_left fun hvisible => Nat.lt_succ_of_lt hvisible.2

/-- At noon on working days, with a tab in front. -/
theorem schedule_accepts_workingDays :
    (ScheduleMonitor.mk (some "\t0 12 * * MON-FRI")).check = .ok () ∧
      ∀ c ∈ "\t0 12 * * MON-FRI".toList,
        c.toNat < 0x80 ∨ Text.isBlank c = true ∨ c = '\u212a' :=
  have haccepted : (ScheduleMonitor.mk (some "\t0 12 * * MON-FRI")).check = .ok () := by
    decide +kernel
  ⟨haccepted, (schedule_accepts_iff _).2 haccepted⟩

/-- Up to the case of ASCII letters is not all that is accepted. -/
theorem schedule_accepts_kelvin :
    ¬ ∀ s : String, (ScheduleMonitor.mk (some s)).check = .ok () ↔
      AmidBlanks (Expression SpellsInAscii) s.toList := by
  intro h
  have haccepted : (ScheduleMonitor.mk (some "@wee\u212aly")).check = .ok () := by decide +kernel
  have hmem : '\u212a' ∈ "@wee\u212aly".toList := by decide
  rcases ((h "@wee\u212aly").mp haccepted).mem hmem with hblank | ⟨body, hbody, hmem⟩
  · exact absurd hblank (by decide)
  · exact hbody.kelvin_notMem hmem

end Cron

end AutomationConfig
