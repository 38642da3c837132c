import AutomationConfig.Text.Hex
import AutomationConfig.Text.Quoted
import Mathlib.Tactic.SplitIfs

/-! # Quoted text can be read back

Two texts that look the same between quotation marks are the same text (`Text.quote_injective`), and
whatever stands behind the second mark, it is plain where the text ends (`Text.quote_append_inj`). A
character stands there by itself, as a backslash with one letter, or by its number between braces
(`Shown`), and where several characters are shown in a row it is plain where the first one ends
(`Shown.append_inj`). So messages that differ only in a quoted name differ. -/

namespace AutomationConfig.Text

/-! ### Numbers in base sixteen -/

/-- The number with these digits in base sixteen. -/
def ofHexDigits (digits : List Char) : Nat :=
  digits.foldl (fun n c => 16 * n + (hexValue? c).getD 0) 0

theorem hexValue?_digitChar : ∀ k < 16, hexValue? k.digitChar = some k := by decide

theorem hexDigits_of_lt {k : Nat} (hk : k < 16) : hexDigits k = [k.digitChar] :=
  Nat.toDigits_of_lt_base hk

theorem hexDigits_append {m k : Nat} (hm : 0 < m) (hk : k < 16) :
    hexDigits (16 * m + k) = hexDigits m ++ [k.digitChar] := by
  rw [← hexDigits_of_lt hk]
  exact (Nat.toDigits_append_toDigits (by omega) hm hk).symm

theorem ofHexDigits_hexDigits (n : Nat) : ofHexDigits (hexDigits n) = n := by
  induction n using Nat.base_induction 16 (by omega) with
  | single m hm => simp [hexDigits_of_lt hm, ofHexDigits, hexValue?_digitChar m hm]
  | digit m k hk hm ih =>
    rw [hexDigits_append hm hk, ofHexDigits, List.foldl_append]
    change 16 * ofHexDigits (hexDigits m) + (hexValue? k.digitChar).getD 0 = 16 * m + k
    rw [ih, hexValue?_digitChar k hk]
    rfl

theorem isSome_hexValue?_of_mem {n : Nat} {c : Char} (h : c ∈ hexDigits n) :
    (hexValue? c).isSome = true := by
  induction n using Nat.base_induction 16 (by omega) with
  | single m hm =>
    rw [hexDigits_of_lt hm, List.mem_singleton] at h
    rw [h, hexValue?_digitChar m hm]
    rfl
  | digit m k hk hm ih =>
    rw [hexDigits_append hm hk, List.mem_append, List.mem_singleton] at h
    rcases h with h | rfl
    · exact ih h
    · rw [hexValue?_digitChar k hk]
      rfl

/-- The digits of a number end at the first character that is not one. -/
theorem takeWhile_hexDigits_append (n : Nat) (s : List Char) :
    (hexDigits n ++ '\x7d' :: s).takeWhile (fun c => (hexValue? c).isSome) = hexDigits n := by
  rw [List.takeWhile_append_of_pos fun c hc => isSome_hexValue?_of_mem hc,
    List.takeWhile_cons_of_neg, List.append_nil]
  decide

/-! ### Characters -/

/-- The letters that stand behind a backslash, with the characters that they stand for. -/
def letterEscapes : List (Char × Char) :=
  [('0', '\x00'), ('t', '\t'), ('r', '\r'), ('n', '\n'), ('\\', '\\'), ('"', '"')]

/-- The ways in which a character is shown between quotation marks. -/
inductive Shown (c : Char) : List Char → Prop
  /-- By itself. -/
  | plain (h : c ≠ '\\') : Shown c [c]
  /-- As a backslash with a letter. -/
  | letter {e : Char} (h : (e, c) ∈ letterEscapes) : Shown c ['\\', e]
  /-- By its number between braces. -/
  | number : Shown c ('\\' :: 'u' :: '\x7b' :: (hexDigits c.toNat ++ ['\x7d']))

theorem shown_quoteChar (c : Char) : Shown c (quoteChar c) := by
  unfold quoteChar
  split_ifs with hnul htab hreturn hnewline hbackslash hquote hprinted hhidden
  · exact .letter (by simp [letterEscapes, hnul])
  · exact .letter (by simp [letterEscapes, htab])
  · exact .letter (by simp [letterEscapes, hreturn])
  · exact .letter (by simp [letterEscapes, hnewline])
  · exact .letter (by simp [letterEscapes, hbackslash])
  · exact .letter (by simp [letterEscapes, hquote])
  · exact .plain hbackslash
  · exact .number
  · exact .plain hbackslash

theorem letterEscapes_inj {e c d : Char} (hc : (e, c) ∈ letterEscapes)
    (hd : (e, d) ∈ letterEscapes) : c = d := by
  have hall : ∀ p ∈ letterEscapes, ∀ q ∈ letterEscapes, p.1 = q.1 → p.2 = q.2 := by decide
  exact hall _ hc _ hd rfl

theorem not_mem_letterEscapes (c : Char) : ('u', c) ∉ letterEscapes := fun h => by
  have hall : ∀ p ∈ letterEscapes, p.1 ≠ 'u' := by decide
  exact hall _ h rfl

namespace Shown

variable {c d : Char} {x y s t : List Char}

theorem number_append_inj
    (h : hexDigits c.toNat ++ '\x7d' :: s = hexDigits d.toNat ++ '\x7d' :: t) : c = d ∧ s = t := by
  have hdigits : hexDigits c.toNat = hexDigits d.toNat := by
    rw [← takeWhile_hexDigits_append c.toNat s, h, takeWhile_hexDigits_append]
  have hnumber : c.toNat = d.toNat := by
    rw [← ofHexDigits_hexDigits c.toNat, hdigits, ofHexDigits_hexDigits]
  have hrest : '\x7d' :: s = '\x7d' :: t := by
    rw [hdigits] at h
    exact List.append_cancel_left h
  exact ⟨Char.toNat_inj.mp hnumber, (List.cons.inj hrest).2⟩

/-- A character in front of other text can be told from how the whole is shown. -/
theorem append_inj (hx : Shown c x) (hy : Shown d y) (h : x ++ s = y ++ t) : c = d ∧ s = t := by
  -- a plain character is no backslash, and no letter behind a backslash is the one of a number
  cases hx with
  | plain hc =>
    cases hy with
    | plain hd => exact List.cons.inj h
    | letter hd => exact absurd (List.cons.inj h).1 hc
    | number => exact absurd (List.cons.inj h).1 hc
  | letter hc =>
    cases hy with
    | plain hd => exact absurd (List.cons.inj h).1.symm hd
    | letter hd =>
      obtain ⟨rfl, hrest⟩ := List.cons.inj (List.cons.inj h).2
      exact ⟨letterEscapes_inj hc hd, hrest⟩
    | number =>
      obtain ⟨rfl, -⟩ := List.cons.inj (List.cons.inj h).2
      exact absurd hc (not_mem_letterEscapes c)
  | number =>
    cases hy with
    | plain hd => exact absurd (List.cons.inj h).1.symm hd
    | letter hd =>
      obtain ⟨rfl, -⟩ := List.cons.inj (List.cons.inj h).2
      exact absurd hd (not_mem_letterEscapes d)
    | number =>
      simp only [List.cons_append, List.append_assoc, List.cons.injEq, true_and] at h
      exact number_append_inj h

end Shown

/-! ### Texts -/

/-- No character is shown with a quotation mark in front. -/
theorem exists_quoteChar (c : Char) : ∃ d rest, quoteChar c = d :: rest ∧ d ≠ '"' := by
  have hbackslash : '\\' ≠ '"' := by decide
  unfold quoteChar
  split_ifs with hnul htab hreturn hnewline hslash hquote hprinted hhidden
  · exact ⟨_, _, rfl, hbackslash⟩
  · exact ⟨_, _, rfl, hbackslash⟩
  · exact ⟨_, _, rfl, hbackslash⟩
  · exact ⟨_, _, rfl, hbackslash⟩
  · exact ⟨_, _, rfl, hbackslash⟩
  · exact ⟨_, _, rfl, hbackslash⟩
  · exact ⟨_, _, rfl, hquote⟩
  · exact ⟨_, _, rfl, hbackslash⟩
  · exact ⟨_, _, rfl, hquote⟩

/-- The first quotation mark that no backslash stands before ends the text. -/
theorem flatMap_quoteChar_append_inj : ∀ {s t x y : List Char},
    s.flatMap quoteChar ++ '"' :: x = t.flatMap quoteChar ++ '"' :: y → s = t ∧ x = y
  | [], [], _, _, h => ⟨rfl, (List.cons.inj h).2⟩
  | [], d :: t, _, _, h => by
    obtain ⟨first, rest, hd, hfirst⟩ := exists_quoteChar d
    rw [List.flatMap_cons, hd] at h
    exact absurd (List.cons.inj h).1.symm hfirst
  | c :: s, [], _, _, h => by
    obtain ⟨first, rest, hc, hfirst⟩ := exists_quoteChar c
    rw [List.flatMap_cons, hc] at h
    exact absurd (List.cons.inj h).1 hfirst
  | c :: s, d :: t, _, _, h => by
    rw [List.flatMap_cons, List.flatMap_cons, List.append_assoc, List.append_assoc] at h
    obtain ⟨rfl, hbehind⟩ := (shown_quoteChar c).append_inj (shown_quoteChar d) h
    obtain ⟨rfl, hrest⟩ := flatMap_quoteChar_append_inj hbehind
    exact ⟨rfl, hrest⟩

/-- A quoted text in front of other text can be told from the whole. -/
theorem quote_append_inj {s t : String} {x y : List Char}
    (h : (quote s).toList ++ x = (quote t).toList ++ y) : s = t ∧ x = y := by
  simp only [quote, String.toList_ofList, List.cons_append, List.append_assoc, List.nil_append,
    List.cons.injEq, true_and] at h
  obtain ⟨hshown, hrest⟩ := flatMap_quoteChar_append_inj h
  exact ⟨String.toList_injective hshown, hrest⟩

/-- **Quoting loses nothing**: a text is determined by how it stands between quotation marks. -/
theorem quote_injective : Function.Injective quote := fun _ _ h =>
  (quote_append_inj (congrArg (fun q => q.toList ++ []) h)).1

end AutomationConfig.Text
