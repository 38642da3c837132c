import AutomationConfig.Text.Blank
import AutomationConfig.Text.Hex

/-! # Sets of characters

A set of characters is given by closed ranges of code points in increasing order, none of which
overlaps or touches the next one. Tables write such a set as a text: ranges in base sixteen with
blanks between them, where `/2` behind a range leaves out every second code point. -/

namespace AutomationConfig.Text

/-- A set of characters. -/
structure CharSet where
  ranges : List (Nat × Nat)
deriving DecidableEq, Repr

namespace CharSet

/-- A first range and those behind it, with ranges that overlap or touch joined. -/
def joinFrom (low high : Nat) : List (Nat × Nat) → List (Nat × Nat)
  | [] => [(low, high)]
  | (a, b) :: rest =>
    if a ≤ high + 1 then joinFrom low (max high b) rest else (low, high) :: joinFrom a b rest

/-- The set of the code points in any of the ranges. -/
def ofRanges (ranges : List (Nat × Nat)) : CharSet :=
  match ranges.mergeSort fun r s => r.1 ≤ s.1 with
  | [] => ⟨[]⟩
  | (a, b) :: rest => ⟨joinFrom a b rest⟩

/-- The set without members. -/
def empty : CharSet := ⟨[]⟩

/-- The set of all code points from one to another one. -/
def ofRange (low high : Nat) : CharSet := ⟨[(low, high)]⟩

/-- The set of some code points. -/
def ofCodes (codes : List Nat) : CharSet := .ofRanges (codes.map fun c => (c, c))

/-- Whether a code point is a member. -/
def contains (s : CharSet) (code : Nat) : Bool :=
  s.ranges.any fun r => r.1 ≤ code && code ≤ r.2

/-- Whether all members are characters of ASCII. -/
def isAscii (s : CharSet) : Bool := s.ranges.all fun r => r.2 < 0x80

/-! ### Operations -/

/-- The members of either set. -/
def union (s t : CharSet) : CharSet := .ofRanges (s.ranges ++ t.ranges)

/-- What two ranges have in common. -/
def overlap? (r s : Nat × Nat) : Option (Nat × Nat) :=
  if max r.1 s.1 ≤ min r.2 s.2 then some (max r.1 s.1, min r.2 s.2) else none

/-- The members of both sets. -/
def inter (s t : CharSet) : CharSet := ⟨s.ranges.flatMap fun r => t.ranges.filterMap (overlap? r)⟩

/-- The code point after that of a character; no character is a surrogate. -/
def after (code : Nat) : Nat := if code = 0xD7FF then 0xE000 else code + 1

/-- The code point before that of a character. -/
def before (code : Nat) : Nat := if code = 0xE000 then 0xD7FF else code - 1

/-- The characters from `low` on outside of the ranges. -/
def gapsFrom (low : Nat) : List (Nat × Nat) → List (Nat × Nat)
  | [] => if low ≤ 0x10FFFF then [(low, 0x10FFFF)] else []
  | (a, b) :: rest =>
    if low < a then (low, before a) :: gapsFrom (after b) rest else gapsFrom (after b) rest

/-- The characters that are not members. -/
def complement (s : CharSet) : CharSet := ⟨gapsFrom 0 s.ranges⟩

/-- The members of the first set that are not members of the second one. -/
def diff (s t : CharSet) : CharSet := s.inter t.complement

/-- The members of one set that are not members of the other one. -/
def symmDiff (s t : CharSet) : CharSet := (s.diff t).union (t.diff s)

instance : Union CharSet := ⟨union⟩
instance : Inter CharSet := ⟨inter⟩
instance : SDiff CharSet := ⟨diff⟩

/-! ### Members -/

/-- Whether a code point lies in a range. -/
def inRange (code : Nat) (r : Nat × Nat) : Bool := r.1 ≤ code && code ≤ r.2

theorem contains_eq_any (s : CharSet) (code : Nat) :
    s.contains code = s.ranges.any (inRange code) := rfl

@[simp] theorem contains_empty (code : Nat) : empty.contains code = false := rfl

/-- To join ranges that overlap or touch neither adds nor loses members. -/
theorem any_joinFrom (code low high : Nat) (rest : List (Nat × Nat))
    (h : ∀ r ∈ rest, low ≤ r.1) (sorted : rest.Pairwise fun r s => r.1 ≤ s.1) :
    (joinFrom low high rest).any (inRange code) = ((low, high) :: rest).any (inRange code) := by
  induction rest generalizing low high with
  | nil => rfl
  | cons r rest ih =>
    obtain ⟨a, b⟩ := r
    rw [List.pairwise_cons] at sorted
    have ha : low ≤ a := h (a, b) List.mem_cons_self
    unfold joinFrom
    split
    · rw [ih low (max high b) (fun s hs => h s (List.mem_cons_of_mem _ hs)) sorted.2]
      simp only [List.any_cons, inRange, ← Bool.or_assoc]
      congr 1
      rw [Bool.eq_iff_iff]
      simp only [Bool.or_eq_true, Bool.and_eq_true, decide_eq_true_eq]
      omega
    · simp only [List.any_cons, ih a b (fun s hs => sorted.1 s hs) sorted.2]

/-- The set of ranges holds the code points in any of them. -/
theorem contains_ofRanges (ranges : List (Nat × Nat)) (code : Nat) :
    (ofRanges ranges).contains code = ranges.any (inRange code) := by
  have perm := List.mergeSort_perm ranges fun r s => r.1 ≤ s.1
  have sorted := @List.pairwise_mergeSort _ (fun r s : Nat × Nat => decide (r.1 ≤ s.1))
    (fun r s t h k => by simp only [decide_eq_true_eq] at *; omega)
    (fun r s => by simp only [Bool.or_eq_true, decide_eq_true_eq]; omega) ranges
  rw [contains_eq_any, ← perm.any_eq]
  unfold ofRanges
  split
  · next h => rw [h]
  · next a b rest h =>
    rw [h] at sorted ⊢
    simp only [List.pairwise_cons, decide_eq_true_eq] at sorted
    exact any_joinFrom code a b rest (fun r hr => sorted.1 r hr) sorted.2

theorem contains_union (s t : CharSet) (code : Nat) :
    (s ∪ t).contains code = (s.contains code || t.contains code) := by
  change (ofRanges (s.ranges ++ t.ranges)).contains code = _
  rw [contains_ofRanges, List.any_append, contains_eq_any, contains_eq_any]

theorem contains_inter (s t : CharSet) (code : Nat) :
    (s ∩ t).contains code = (s.contains code && t.contains code) := by
  change (s.ranges.flatMap fun r => t.ranges.filterMap (overlap? r)).any (inRange code) = _
  rw [Bool.eq_iff_iff]
  simp only [List.any_eq_true, List.mem_flatMap, List.mem_filterMap, contains_eq_any,
    Bool.and_eq_true]
  constructor
  · rintro ⟨x, ⟨r, hr, q, hq, h⟩, hx⟩
    unfold overlap? at h
    split at h
    · cases h
      simp only [inRange, Bool.and_eq_true, decide_eq_true_eq] at hx
      refine ⟨⟨r, hr, ?_⟩, ⟨q, hq, ?_⟩⟩
      · simp only [inRange, Bool.and_eq_true, decide_eq_true_eq]; omega
      · simp only [inRange, Bool.and_eq_true, decide_eq_true_eq]; omega
    · cases h
  · rintro ⟨⟨r, hr, h⟩, ⟨q, hq, k⟩⟩
    simp only [inRange, Bool.and_eq_true, decide_eq_true_eq] at h k
    refine ⟨(max r.1 q.1, min r.2 q.2), ⟨r, hr, q, hq, ?_⟩, ?_⟩
    · unfold overlap?
      rw [if_pos (by omega)]
    · simp only [inRange, Bool.and_eq_true, decide_eq_true_eq]; omega

end CharSet

/-! ### Tables -/

/-- The number that digits of base sixteen write. -/
def hexNumber (digits : List Char) : Nat :=
  digits.foldl (fun n c => n * 16 + (hexValue? c).getD 0) 0

/-- The ranges that an entry of a table writes. -/
def rangesOfEntry (entry : List Char) : List (Nat × Nat) :=
  let low := hexNumber (entry.takeWhile (· != '-'))
  match entry.dropWhile (· != '-') with
  | _ :: rest =>
    let high := hexNumber (rest.takeWhile (· != '/'))
    if rest.contains '/' then
      (List.range ((high - low) / 2 + 1)).map fun k => (low + 2 * k, low + 2 * k)
    else [(low, high)]
  | [] => [(low, low)]

/-- The code points that an entry of a table writes. -/
def codesOfEntry (entry : List Char) : List Nat :=
  (rangesOfEntry entry).flatMap fun r => List.range' r.1 (r.2 + 1 - r.1)

/-- The set that a table writes. -/
def CharSet.ofTable (table : String) : CharSet :=
  .ofRanges ((words table.toList).flatMap rangesOfEntry)

/-- The set that a table writes holds the code points in any of the ranges of its entries. -/
theorem CharSet.contains_ofTable (table : String) (code : Nat) :
    (ofTable table).contains code =
      ((words table.toList).flatMap rangesOfEntry).any (inRange code) :=
  contains_ofRanges _ code

end AutomationConfig.Text
