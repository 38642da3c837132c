import AutomationConfig.Pattern.Meaning
import Mathlib.Data.List.Basic

/-! # What patterns match

A pattern matches parts of a text. `Expr.Matches` says which, part by part of the pattern and by
positions in the text: a character matches one character of the text, a place matches no character,
but only where it is one of its kind, and a pattern made of others matches what these match one
after the other, or what one of them matches. Flags hold from where they are changed to the end of
their group, also across bars (`Expr.modeBehind`). A pattern selects a text if it matches any part
of it (`Expr.Selects`). -/

namespace AutomationConfig.Pattern

open Text (CharSet)

/-! ### Places -/

/-- The character in front of a position. -/
def charBefore? (text : List Char) : Nat → Option Char
  | 0 => none
  | i + 1 => text[i]?

/-- Whether there is a character and it belongs to words. -/
def isWordChar (unicode : Bool) (c : Option Char) : Bool :=
  c.any fun c => (Mode.commonClass { unicode } .word).contains c.toNat

/-- Whether a place lies between two characters. At an end of the text there is only one. -/
def Anchor.holds (before after : Option Char) : Anchor → Bool
  | .textStart => before.isNone
  | .textEnd => after.isNone
  | .lineStart crlf =>
    before.isNone || before == some '\n' || (crlf && before == some '\r' && after != some '\n')
  | .lineEnd crlf =>
    after.isNone || (crlf && after == some '\r') ||
      (after == some '\n' && !(crlf && before == some '\r'))
  | .wordBoundary unicode => isWordChar unicode before != isWordChar unicode after
  | .notWordBoundary unicode => isWordChar unicode before == isWordChar unicode after
  | .wordStart unicode => !isWordChar unicode before && isWordChar unicode after
  | .wordEnd unicode => isWordChar unicode before && !isWordChar unicode after
  | .wordStartHalf unicode => !isWordChar unicode before
  | .wordEndHalf unicode => !isWordChar unicode after

/-! ### Flags -/

mutual

/-- The flags behind a pattern. -/
def Expr.modeBehind (m : Mode) : Expr → Mode
  | .flags changes => m.change changes
  | .repeated part _ _ _ => part.modeBehind m
  | .choice alternatives => modeBehindAll m alternatives
  | .sequence parts => modeBehindAll m parts
  | _ => m

/-- The flags behind patterns one after the other. -/
def modeBehindAll (m : Mode) : List Expr → Mode
  | [] => m
  | e :: rest => modeBehindAll (e.modeBehind m) rest

end

/-! ### Matches -/

/-- One character of a set, if there is a set, lies between two positions. -/
def OneOf (text : List Char) (set? : Option CharSet) (i j : Nat) : Prop :=
  ∃ set c, set? = some set ∧ text[i]? = some c ∧ set.contains c.toNat = true ∧ j = i + 1

/-- A number of matches lead from one position to another one. -/
def Times (matching : Nat → Nat → Prop) : (count : Nat) → Nat → Nat → Prop
  | 0, i, j => i = j
  | count + 1, i, j => ∃ k, matching i k ∧ Times matching count k j

mutual

/-- **What a pattern matches**: the part of the text between two positions, where the pattern is
written under the flags of a mode. -/
def Expr.Matches (text : List Char) (m : Mode) : Expr → Nat → Nat → Prop
  | .empty, i, j => i = j
  | .flags _, i, j => i = j
  | .literal l, i, j => OneOf text (m.closeUnderCase (.ofRange l.char.toNat l.char.toNat)) i j
  | .any, i, j => OneOf text m.any? i j
  | .place kind, i, j =>
    i = j ∧ (m.anchor kind).holds (charBefore? text i) text[i]? = true
  | .common kind negated, i, j => OneOf text (m.common? kind negated) i j
  | .property kind negated, i, j => OneOf text (m.property? kind negated) i j
  | .set negated set, i, j => OneOf text (m.set? negated set) i j
  | .repeated part least most _, i, j =>
    ∃ count, least ≤ count ∧ (∀ n ∈ most, count ≤ n) ∧
      Times (fun i j => part.Matches text m i j) count i j
  | .group _ changes part, i, j => part.Matches text (m.change changes) i j
  | .choice alternatives, i, j => AnyMatches text m alternatives i j
  | .sequence parts, i, j => AllMatch text m parts i j

/-- One of several patterns matches. -/
def AnyMatches (text : List Char) (m : Mode) : List Expr → Nat → Nat → Prop
  | [], _, _ => False
  | e :: rest, i, j => e.Matches text m i j ∨ AnyMatches text (e.modeBehind m) rest i j

/-- Patterns match one after the other. -/
def AllMatch (text : List Char) (m : Mode) : List Expr → Nat → Nat → Prop
  | [], i, j => i = j
  | e :: rest, i, j => ∃ k, e.Matches text m i k ∧ AllMatch text (e.modeBehind m) rest k j

end

/-- **A pattern by itself selects a text** if it matches somewhere in it. -/
def Expr.Selects (e : Expr) (text : List Char) : Prop :=
  ∃ i j, i ≤ text.length ∧ e.Matches text {} i j

/-! ### Matches are parts of the text -/

section Bounds
variable {text : List Char} {i j : Nat}

theorem OneOf.bounds {set? : Option CharSet} (h : OneOf text set? i j) :
    i ≤ j ∧ j ≤ max i text.length := by
  obtain ⟨_, c, -, hc, -, rfl⟩ := h
  have hi : i < text.length := (List.getElem?_eq_some_iff.mp hc).1
  omega

theorem Times.bounds {matching : Nat → Nat → Prop} {count : Nat}
    (hmatching : ∀ {i j}, matching i j → i ≤ j ∧ j ≤ max i text.length)
    (h : Times matching count i j) : i ≤ j ∧ j ≤ max i text.length := by
  induction count generalizing i with
  | zero =>
    cases h
    omega
  | succ count ih =>
    obtain ⟨k, hfirst, hrest⟩ := h
    have := hmatching hfirst
    have := ih hrest
    omega

end Bounds

mutual

/-- **A match does not end before its start**, and it ends within the text if it starts there. -/
theorem Expr.Matches.bounds {text : List Char} {m : Mode} {i j : Nat} :
    ∀ {e : Expr}, e.Matches text m i j → i ≤ j ∧ j ≤ max i text.length
  | .empty, h | .flags _, h => by
    rw [Expr.Matches] at h
    omega
  | .place _, h => by
    rw [Expr.Matches] at h
    omega
  | .literal _, h | .any, h | .common _ _, h | .property _ _, h | .set _ _, h => by
    rw [Expr.Matches] at h
    exact OneOf.bounds h
  | .repeated part _ _ _, h => by
    rw [Expr.Matches] at h
    obtain ⟨_, -, -, h⟩ := h
    exact Times.bounds (fun h => Expr.Matches.bounds h) h
  | .group _ _ part, h => by
    rw [Expr.Matches] at h
    exact Expr.Matches.bounds h
  | .choice alternatives, h => by
    rw [Expr.Matches] at h
    exact AnyMatches.bounds h
  | .sequence parts, h => by
    rw [Expr.Matches] at h
    exact AllMatch.bounds h

theorem AnyMatches.bounds {text : List Char} {m : Mode} {i j : Nat} :
    ∀ {es : List Expr}, AnyMatches text m es i j → i ≤ j ∧ j ≤ max i text.length
  | [], h => by
    rw [AnyMatches] at h
    exact h.elim
  | e :: rest, h => by
    rw [AnyMatches] at h
    rcases h with h | h
    · exact Expr.Matches.bounds h
    · exact AnyMatches.bounds h

theorem AllMatch.bounds {text : List Char} {m : Mode} {i j : Nat} :
    ∀ {es : List Expr}, AllMatch text m es i j → i ≤ j ∧ j ≤ max i text.length
  | [], h => by
    rw [AllMatch] at h
    omega
  | e :: rest, h => by
    rw [AllMatch] at h
    obtain ⟨k, hfirst, hrest⟩ := h
    have := Expr.Matches.bounds hfirst
    have := AllMatch.bounds hrest
    omega

end

/-! ### Matches of some patterns -/

/-- Where case counts, a character matches itself. -/
theorem matches_literal {text : List Char} {m : Mode} (hm : m.ignoreCase = false) {l : Literal}
    {i j : Nat} : (Expr.literal l).Matches text m i j ↔ text[i]? = some l.char ∧ j = i + 1 := by
  have hset (c : Char) :
      (CharSet.ofRange l.char.toNat l.char.toNat).contains c.toNat = true ↔ c = l.char := by
    simp [CharSet.contains, CharSet.ofRange, ← Char.toNat_inj, Nat.le_antisymm_iff, and_comm]
  rw [Expr.Matches, Mode.closeUnderCase, hm]
  simp [OneOf, hset]

/-- Without changes of flags, one of several patterns matches under the flags of all of them. -/
theorem anyMatches_iff {text : List Char} {m : Mode} {es : List Expr}
    (h : ∀ e ∈ es, e.modeBehind m = m) {i j : Nat} :
    AnyMatches text m es i j ↔ ∃ e ∈ es, e.Matches text m i j := by
  induction es with
  | nil => simp [AnyMatches]
  | cons e rest ih =>
    rw [List.forall_mem_cons] at h
    simp [AnyMatches, h.1, ih h.2]

theorem matches_ofAlternatives {text : List Char} {m : Mode} {es : List Expr} (hes : es ≠ [])
    {i j : Nat} :
    (Expr.ofAlternatives es).Matches text m i j ↔ AnyMatches text m es i j := by
  match es, hes with
  | [e], _ => simp [Expr.ofAlternatives, AnyMatches]
  | _ :: _ :: _, _ => simp [Expr.ofAlternatives, Expr.Matches]

end AutomationConfig.Pattern
