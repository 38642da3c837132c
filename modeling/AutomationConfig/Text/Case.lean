/-! # Letter case

Names that the program knows are spelled in ASCII. `lower` gives the lower case of a character as
far as it matters for comparing with such a name: besides the ASCII capitals, the Kelvin sign is
the one character whose lower case is an ASCII letter, and it is a `k`. -/

namespace AutomationConfig.Text

/-- The lower case of an ASCII letter; any other character stays. -/
def lowerAscii (c : Char) : Char := c.toLower

/-- The lower case of a character wherever that is an ASCII letter; any other character stays. -/
def lower (c : Char) : Char := if c = '\u212a' then 'k' else c.toLower

/-- Whether two texts agree up to the case of ASCII letters. -/
def equalsIgnoringAsciiCase (s t : String) : Bool :=
  s.toList.map lowerAscii == t.toList.map lowerAscii

/-- Whether the lower case of a text is the given name, which is in lower case itself. -/
def lowersTo (s : List Char) (name : String) : Bool := s.map lower == name.toList

/-! ### ASCII letters -/

/-- The capitals of ASCII, each with its small letter. -/
def asciiLetters : List (Char × Char) :=
  "ABCDEFGHIJKLMNOPQRSTUVWXYZ".toList.zip "abcdefghijklmnopqrstuvwxyz".toList

/-- The same character, or two that are a capital of ASCII and its small letter. -/
def SameButCase (c d : Char) : Prop :=
  c = d ∨ (c, d) ∈ asciiLetters ∨ (d, c) ∈ asciiLetters

theorem lowerAscii_of_mem {c d : Char} (h : (c, d) ∈ asciiLetters) :
    lowerAscii c = d ∧ lowerAscii d = d :=
  (by decide : ∀ p ∈ asciiLetters, lowerAscii p.1 = p.2 ∧ lowerAscii p.2 = p.2) _ h

theorem capital_unique {c d l : Char} (hc : (c, l) ∈ asciiLetters) (hd : (d, l) ∈ asciiLetters) :
    c = d :=
  (by decide : ∀ p ∈ asciiLetters, ∀ q ∈ asciiLetters, p.2 = q.2 → p.1 = q.1) _ hc _ hd rfl

theorem lowerAscii_cases (c : Char) : (c, lowerAscii c) ∈ asciiLetters ∨ lowerAscii c = c := by
  by_cases hupper : c.val ≥ 'A'.val ∧ c.val ≤ 'Z'.val
  · have hlow : 65 ≤ c.toNat := UInt32.le_iff_toNat_le.mp hupper.1
    have hhigh : c.toNat < 91 := Nat.lt_succ_of_le (UInt32.le_iff_toNat_le.mp hupper.2)
    have hmem := (by decide : ∀ n < 91, 65 ≤ n →
      (Char.ofNat n, lowerAscii (Char.ofNat n)) ∈ asciiLetters) c.toNat hhigh hlow
    rw [Char.ofNat_toNat] at hmem
    exact .inl hmem
  · exact .inr (dif_neg hupper)

theorem lowerAscii_eq_iff {c d : Char} : lowerAscii c = lowerAscii d ↔ SameButCase c d := by
  constructor
  · intro h
    rcases lowerAscii_cases c with hc | hc <;> rcases lowerAscii_cases d with hd | hd
    · exact .inl (capital_unique (h ▸ hc) hd)
    · exact .inr (.inl (by rwa [h, hd] at hc))
    · exact .inr (.inr (by rwa [← h, hc] at hd))
    · exact .inl (by rw [← hc, h, hd])
  · rintro (rfl | h | h)
    · rfl
    · rw [(lowerAscii_of_mem h).1, (lowerAscii_of_mem h).2]
    · rw [(lowerAscii_of_mem h).1, (lowerAscii_of_mem h).2]

theorem map_lowerAscii_eq_iff : ∀ {cs ds : List Char}, cs.map lowerAscii = ds.map lowerAscii ↔
    cs.length = ds.length ∧ ∀ p ∈ cs.zip ds, SameButCase p.1 p.2
  | [], [] => by simp
  | [], d :: ds => by simp
  | c :: cs, [] => by simp
  | c :: cs, d :: ds => by
    rw [List.map_cons, List.map_cons, List.cons.injEq, lowerAscii_eq_iff, map_lowerAscii_eq_iff,
      List.zip_cons_cons, List.forall_mem_cons, List.length_cons, List.length_cons,
      Nat.add_right_cancel_iff]
    exact and_left_comm

/-- **Texts agree up to the case of ASCII letters** if they are of one length and their characters
are, place by place, the same but for their case. -/
theorem equalsIgnoringAsciiCase_iff {s t : String} : equalsIgnoringAsciiCase s t = true ↔
    s.toList.length = t.toList.length ∧ ∀ p ∈ s.toList.zip t.toList, SameButCase p.1 p.2 :=
  beq_iff_eq.trans map_lowerAscii_eq_iff

end AutomationConfig.Text
