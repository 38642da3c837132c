import AutomationConfig.Text.Quoted

/-! # Paths

A path is a text whose parts are separated by slashes. Repeated slashes, slashes at the end and
single dots do not count as parts, except that a dot at the very start does. Paths are compared part
by part. -/

namespace AutomationConfig

/-- A path, as it was written. -/
structure Path where
  text : String
deriving DecidableEq, Repr, Inhabited

namespace Path

/-- The path between quotation marks. -/
def quoted (p : Path) : String := Text.quote p.text

/-- A part of a path. -/
inductive Part where
  /-- The slash that an absolute path starts with. -/
  | root
  /-- A dot at the start. -/
  | current
  /-- Two dots. -/
  | parent
  /-- Anything else. -/
  | name (s : String)
deriving DecidableEq, Repr

/-- The text of a part. -/
def Part.text : Part → String
  | root => "/"
  | current => "."
  | parent => ".."
  | name s => s

/-- The place of a part among the kinds of parts. -/
def Part.rank : Part → Nat
  | root => 0
  | current => 1
  | parent => 2
  | name _ => 3

/-- Whether a part comes before another one: by its kind, and within a kind by its text. -/
def Part.before (a b : Part) : Bool :=
  a.rank < b.rank || (a.rank = b.rank && a.text < b.text)

/-- The pieces between the slashes of a text. -/
def pieces (s : List Char) : List (List Char) := s.splitOn '/'

/-- The part that a piece stands for, if it counts. -/
def partOf? (piece : List Char) : Option Part :=
  if piece.isEmpty || piece = ['.'] then none
  else if piece = ['.', '.'] then some .parent
  else some (.name (String.ofList piece))

/-- The parts of a path. -/
def parts (p : Path) : List Part :=
  let all := pieces p.text.toList
  let rest := all.filterMap partOf?
  if p.text.toList.head? = some '/' then .root :: rest
  else if all.head? = some ['.'] then .current :: rest
  else rest

/-- Whether a path is absolute. -/
def isAbsolute (p : Path) : Bool := p.text.toList.head? = some '/'

/-- The path with another one behind it, which replaces it if it is absolute. -/
def join (base : Path) (more : String) : Path :=
  let other : Path := ⟨more⟩
  if other.isAbsolute || base.text.isEmpty then other
  else if base.text.toList.getLast? = some '/' then ⟨base.text ++ more⟩
  else ⟨base.text ++ "/" ++ more⟩

/-- The last part, if it is a name. -/
def fileName (p : Path) : Option String :=
  match p.parts.getLast? with
  | some (.name s) => some s
  | _ => none

/-- What follows the last dot of the last name, unless the name starts with that dot. -/
def extension (p : Path) : Option String := do
  let name ← p.fileName
  let backwards := name.toList.reverse
  match backwards.dropWhile (· != '.') with
  | '.' :: _ :: _ => return String.ofList (backwards.takeWhile (· != '.')).reverse
  | _ => none

/-- Whether a path lies at or below another one. -/
def isBelow (p base : Path) : Bool := base.parts.isPrefixOf p.parts

/-- Whether a list of parts comes before another one. -/
def partsBefore : List Part → List Part → Bool
  | [], [] => false
  | [], _ :: _ => true
  | _ :: _, [] => false
  | a :: as, b :: bs => if a = b then partsBefore as bs else a.before b

/-! ### The order of paths -/

theorem Part.before_iff {a b : Part} :
    a.before b = true ↔ a.rank < b.rank ∨ a.rank = b.rank ∧ a.text < b.text := by
  rw [before, Bool.or_eq_true, Bool.and_eq_true, decide_eq_true_iff, decide_eq_true_iff,
    decide_eq_true_iff]

theorem Part.eq_of_rank_eq_of_text_eq {a b : Part} (hrank : a.rank = b.rank)
    (htext : a.text = b.text) : a = b := by
  cases a <;> cases b <;> simp_all [rank, text]

theorem Part.before_irrefl (a : Part) : a.before a = false :=
  Bool.eq_false_iff.mpr fun h =>
    (before_iff.mp h).elim (Nat.lt_irrefl _) fun h => String.lt_irrefl _ h.2

theorem Part.before_trans {a b c : Part} (h : a.before b = true) (k : b.before c = true) :
    a.before c = true := by
  rw [before_iff] at h k ⊢
  rcases h with h | ⟨h, h'⟩
  · exact Or.inl (k.elim (Nat.lt_trans h) fun k => k.1 ▸ h)
  · exact k.imp (fun k => h ▸ k) fun k => ⟨h.trans k.1, String.lt_trans h' k.2⟩

theorem Part.eq_or_before (a b : Part) : a = b ∨ a.before b = true ∨ b.before a = true := by
  rw [before_iff, before_iff]
  rcases Nat.lt_trichotomy a.rank b.rank with hrank | hrank | hrank
  · exact Or.inr (Or.inl (Or.inl hrank))
  · by_cases h : a.text < b.text
    · exact Or.inr (Or.inl (Or.inr ⟨hrank, h⟩))
    · by_cases k : b.text < a.text
      · exact Or.inr (Or.inr (Or.inr ⟨hrank.symm, k⟩))
      · exact Or.inl (eq_of_rank_eq_of_text_eq hrank
          (String.le_antisymm (String.not_lt.mp k) (String.not_lt.mp h)))
  · exact Or.inr (Or.inr (Or.inl hrank))

theorem partsBefore_irrefl : ∀ as : List Part, partsBefore as as = false
  | [] => rfl
  | a :: as => by simp [partsBefore, partsBefore_irrefl as]

theorem partsBefore_trans : ∀ {as bs cs : List Part}, partsBefore as bs = true →
    partsBefore bs cs = true → partsBefore as cs = true
  | [], [], _, h, _ => by simp [partsBefore] at h
  | [], _ :: _, [], _, k => by simp [partsBefore] at k
  | [], _ :: _, _ :: _, _, _ => rfl
  | _ :: _, [], _, h, _ => by simp [partsBefore] at h
  | _ :: _, _ :: _, [], _, k => by simp [partsBefore] at k
  | a :: as, b :: bs, c :: cs, h, k => by
    unfold partsBefore at h k ⊢
    by_cases hab : a = b
    · subst hab
      by_cases hbc : a = c
      · simp only [hbc, if_true] at h k ⊢
        exact partsBefore_trans h k
      · simpa [hbc] using k
    · simp only [hab, if_false] at h
      by_cases hbc : b = c
      · subst hbc
        simpa [hab] using h
      · simp only [hbc, if_false] at k
        have hac : a ≠ c := by
          rintro rfl
          have := Part.before_trans h k
          simp [Part.before_irrefl] at this
        simpa [hac] using Part.before_trans h k

theorem eq_or_partsBefore : ∀ as bs : List Part,
    as = bs ∨ partsBefore as bs = true ∨ partsBefore bs as = true
  | [], [] => Or.inl rfl
  | [], _ :: _ => Or.inr (Or.inl rfl)
  | _ :: _, [] => Or.inr (Or.inr rfl)
  | a :: as, b :: bs => by
    by_cases hab : a = b
    · subst hab
      simpa [partsBefore] using eq_or_partsBefore as bs
    · simpa [partsBefore, hab, Ne.symm hab] using Part.eq_or_before a b

end Path

end AutomationConfig
