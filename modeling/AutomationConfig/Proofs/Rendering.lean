import AutomationConfig.Outline
import AutomationConfig.Proofs.Quoting
import Mathlib

/-! # Documents can be read back from their outlines

An outline with one part on each line has a comma at the end of every line. What stands between the
margin and that comma can be told from everything else that could stand there, and where it ends can
be told as well (`Outline.ToldApart`): texts stand between quotation marks, words hold no comma, and
after the last part comes a closing mark where one more blank would start the next part. So the
outline of a document, at whatever depth it is rendered, can be read back from the lines
(`Document.toldApart_toOutline`), and with it the document, unless there are floats in it, of which
only the decimal text is shown (`Document.toOutline_inj`). -/

namespace AutomationConfig

namespace Outline

/-! ### Told apart -/

/-- **Told apart in front of a comma**: from how one of two is written, with a comma and more behind
it, one can tell which of them it is and where it ends. -/
def ToldApart {α : Type} (line : α → String) (a b : α) : Prop :=
  ∀ s t : List Char, (line a).toList ++ ',' :: s = (line b).toList ++ ',' :: t → a = b ∧ s = t

section ToldApart

variable {α : Type} {line : α → String} {a b : α}

theorem ToldApart.eq (h : ToldApart line a b) (heq : line a = line b) : a = b :=
  (h [] [] (by rw [heq])).1

/-- The first characters are enough if they differ. -/
theorem toldApart_of_head?_ne {c d : Char} (ha : (line a).toList.head? = some c)
    (hb : (line b).toList.head? = some d) (h : c ≠ d) : ToldApart line a b := by
  intro s t heq
  have hheads := congrArg List.head? heq
  rw [List.head?_append, List.head?_append, ha, hb] at hheads
  exact absurd (Option.some.inj hheads) h

end ToldApart

/-- What holds no comma ends at the first comma. -/
theorem append_comma_inj {v w s t : List Char} (hv : ',' ∉ v) (hw : ',' ∉ w)
    (h : v ++ ',' :: s = w ++ ',' :: t) : v = w ∧ s = t := by
  have hfront : ∀ u r : List Char, ',' ∉ u → (u ++ ',' :: r).takeWhile (· != ',') = u := by
    intro u r hu
    have hall : ∀ c ∈ u, (c != ',') = true := fun c hc => bne_iff_ne.mpr fun heq => hu (heq ▸ hc)
    rw [List.takeWhile_append_of_pos hall, List.takeWhile_cons_of_neg (by simp), List.append_nil]
  have hwords : v = w := by rw [← hfront v s hv, h, hfront w t hw]
  rw [hwords] at h
  exact ⟨hwords, (List.cons.inj (List.append_cancel_left h)).2⟩

/-! ### Lines -/

section Lines

variable {α : Type} {line : α → String} {depth : Nat} {s t : List Char}

theorem toList_margin_succ (depth : Nat) :
    (margin (depth + 1)).toList = (margin depth).toList ++ [' ', ' ', ' ', ' '] := by
  have hcount : 4 * (depth + 1) = 4 * depth + 4 := by omega
  have hblanks : List.replicate 4 ' ' = [' ', ' ', ' ', ' '] := rfl
  rw [margin, margin, hcount, List.replicate_add, hblanks]
  simp

/-- The lines below an opening mark. -/
def lines (line : α → String) (depth : Nat) (as : List α) : List Char :=
  (String.join ((as.map line).map fun l => margin (depth + 1) ++ l ++ ",")).toList

theorem lines_cons (a : α) (as : List α) : lines line depth (a :: as) =
    (margin depth).toList ++
      ' ' :: ' ' :: ' ' :: ' ' :: ((line a).toList ++ ',' :: lines line depth as) := by
  simp [lines, toList_margin_succ]

/-- Lines end where the closing mark stands in place of one more blank. -/
theorem lines_append_inj {c : Char} (hc : c ≠ ' ') : ∀ {as bs : List α},
    (∀ a ∈ as, ∀ b ∈ bs, ToldApart line a b) →
    lines line depth as ++ ((margin depth).toList ++ c :: s) =
      lines line depth bs ++ ((margin depth).toList ++ c :: t) → as = bs ∧ s = t
  | [], [], _, h => ⟨rfl, (List.cons.inj (List.append_cancel_left h)).2⟩
  | [], b :: bs, _, h => by
    rw [lines_cons, List.append_assoc] at h
    exact absurd (List.cons.inj (List.append_cancel_left h)).1 hc
  | a :: as, [], _, h => by
    rw [lines_cons, List.append_assoc] at h
    exact absurd (List.cons.inj (List.append_cancel_left h)).1.symm hc
  | a :: as, b :: bs, htold, h => by
    rw [lines_cons, lines_cons, List.append_assoc, List.append_assoc] at h
    have hline := List.append_cancel_left h
    simp only [List.cons_append, List.append_assoc, List.cons.injEq, true_and] at hline
    obtain ⟨rfl, hrest⟩ := htold a List.mem_cons_self b List.mem_cons_self _ _ hline
    obtain ⟨rfl, hst⟩ := lines_append_inj hc (fun a ha b hb =>
      htold a (List.mem_cons_of_mem _ ha) b (List.mem_cons_of_mem _ hb)) hrest
    exact ⟨rfl, hst⟩

theorem toList_enclose_nil (opening closing : String) :
    (enclose opening closing depth []).toList = opening.toList ++ closing.toList :=
  String.toList_append

theorem toList_enclose_cons (opening closing : String) (a : α) (as : List α) :
    (enclose opening closing depth ((a :: as).map line)).toList =
      opening.toList ++
        (lines line depth (a :: as) ++ ((margin depth).toList ++ closing.toList)) := by
  rw [enclose, if_neg (by simp)]
  simp only [String.toList_append, List.append_assoc]
  rfl

/-- Where the parts can be told apart in front of commas, what encloses them ends them. -/
theorem enclose_append_inj {opening closing : String} {c : Char} (hclosing : closing.toList = [c])
    (hblank : c ≠ ' ') (hline : c ≠ '\n') {as bs : List α}
    (htold : ∀ a ∈ as, ∀ b ∈ bs, ToldApart line a b)
    (h : (enclose opening closing depth (as.map line)).toList ++ s =
      (enclose opening closing depth (bs.map line)).toList ++ t) : as = bs ∧ s = t := by
  -- the first line starts below the opening mark, and the closing mark stands beside it
  have hbelow : ∀ (a : α) (as : List α) (x y : List Char),
      lines line depth (a :: as) ++ x ≠ c :: y := by
    intro a as x y heq
    rw [lines_cons, margin] at heq
    simp only [String.toList_append, List.append_assoc] at heq
    exact hline (List.cons.inj heq).1.symm
  rcases as with _ | ⟨a, as⟩ <;> rcases bs with _ | ⟨b, bs⟩
  · exact ⟨rfl, List.append_cancel_left h⟩
  · rw [List.map_nil, toList_enclose_nil, toList_enclose_cons, hclosing] at h
    simp only [List.append_assoc] at h
    exact absurd (List.append_cancel_left h).symm (hbelow b bs _ _)
  · rw [List.map_nil, toList_enclose_nil, toList_enclose_cons, hclosing] at h
    simp only [List.append_assoc] at h
    exact absurd (List.append_cancel_left h) (hbelow a as _ _)
  · rw [toList_enclose_cons, toList_enclose_cons, hclosing] at h
    simp only [List.append_assoc] at h
    exact lines_append_inj hblank htold (List.append_cancel_left h)

end Lines

/-! ### Outlines -/

section Outlines

variable {depth : Nat}

theorem indentedItems_eq_map (depth : Nat) :
    ∀ items : List Outline, indentedItems depth items = items.map (indentedAt depth)
  | [] => rfl
  | o :: items => by rw [indentedItems, indentedItems_eq_map depth items, List.map_cons]

/-- How an entry of a map is written. -/
def entryLine (depth : Nat) (e : String × Outline) : String :=
  Text.quote e.1 ++ ": " ++ indentedAt depth e.2

theorem indentedEntries_eq_map (depth : Nat) : ∀ entries : List (String × Outline),
    indentedEntries depth entries = entries.map (entryLine depth)
  | [] => rfl
  | (key, o) :: entries => by
    rw [indentedEntries, indentedEntries_eq_map depth entries, List.map_cons, entryLine]

theorem toldApart_word {v w : String} (hv : ',' ∉ v.toList) (hw : ',' ∉ w.toList) :
    ToldApart (indentedAt depth) (word v) (word w) := by
  intro s t h
  obtain ⟨hwords, hrest⟩ := append_comma_inj hv hw h
  exact ⟨congrArg word (String.toList_injective hwords), hrest⟩

theorem toldApart_tagged {w : String} {o p : Outline} (h : ToldApart (indentedAt depth) o p) :
    ToldApart (indentedAt depth) (tagged w o) (tagged w p) := by
  intro s t heq
  simp only [indentedAt, String.toList_append, List.append_assoc] at heq
  have hparts := List.append_cancel_left (List.append_cancel_left heq)
  obtain ⟨rfl, hrest⟩ := h s t hparts
  exact ⟨rfl, hrest⟩

theorem toldApart_list {items others : List Outline}
    (h : ∀ o ∈ items, ∀ p ∈ others, ToldApart (indentedAt (depth + 1)) o p) :
    ToldApart (indentedAt depth) (list items) (list others) := by
  intro s t heq
  simp only [indentedAt, indentedItems_eq_map] at heq
  obtain ⟨hitems, hrest⟩ := enclose_append_inj (c := ']') rfl (by decide) (by decide) h heq
  exact ⟨congrArg list hitems, (List.cons.inj hrest).2⟩

theorem toldApart_entry {e f : String × Outline} (h : ToldApart (indentedAt depth) e.2 f.2) :
    ToldApart (entryLine depth) e f := by
  intro s t heq
  simp only [entryLine, String.toList_append, List.append_assoc] at heq
  obtain ⟨hkey, hparts⟩ := Text.quote_append_inj heq
  obtain ⟨hpart, hrest⟩ := h s t (List.append_cancel_left hparts)
  exact ⟨Prod.ext hkey hpart, hrest⟩

theorem toldApart_map {entries others : List (String × Outline)}
    (h : ∀ e ∈ entries, ∀ f ∈ others, ToldApart (indentedAt (depth + 1)) e.2 f.2) :
    ToldApart (indentedAt depth) (map entries) (map others) := by
  intro s t heq
  simp only [indentedAt, indentedEntries_eq_map] at heq
  have hentries : ∀ e ∈ entries, ∀ f ∈ others, ToldApart (entryLine (depth + 1)) e f :=
    fun e he f hf => toldApart_entry (h e he f hf)
  obtain ⟨hall, hrest⟩ := enclose_append_inj (c := '\x7d') rfl (by decide) (by decide) hentries heq
  exact ⟨congrArg map hall, (List.cons.inj hrest).2⟩

end Outlines

end Outline

/-! ### Numbers -/

theorem comma_notMem_toDigits (n : Nat) : ',' ∉ Nat.toDigits 10 n := by
  intro h
  have hdigit : ','.isDigit = true := Nat.isDigit_of_mem_toDigits (by omega) (by omega) h
  exact absurd hdigit (by decide)

theorem comma_notMem_repr (n : Int) : ',' ∉ n.repr.toList := by
  rw [Int.repr_eq_if]
  split
  · rw [Nat.toList_repr]
    exact comma_notMem_toDigits _
  · rw [String.toList_append, Nat.toList_repr, List.mem_append]
    rintro (h | h)
    · exact absurd h (by decide)
    · exact comma_notMem_toDigits _ h

theorem Binary64.comma_notMem_text (x : Binary64) : ',' ∉ x.text.toList := by
  have hdigits := comma_notMem_toDigits
  have hzeros : ∀ n : Nat, ',' ∉ List.replicate n '0' := fun n h =>
    absurd (List.eq_of_mem_replicate h) (by decide)
  have htake : ∀ n k : Nat, ',' ∉ (Nat.toDigits 10 n).take k := fun n k h =>
    hdigits n (List.mem_of_mem_take h)
  have hdrop : ∀ n k : Nat, ',' ∉ (Nat.toDigits 10 n).drop k := fun n k h =>
    hdigits n (List.mem_of_mem_drop h)
  have hexponent : ∀ power, ',' ∉ (exponentText power).toList := by
    intro power
    unfold exponentText
    split <;> simp [hdigits]
  unfold text
  simp only [String.toList_ofList]
  split_ifs <;> simp [hdigits, hzeros, htake, hdrop, hexponent, -List.drop_one]

/-! ### Documents -/

namespace Document

/-- The character with which the outline of a document starts. -/
def initial : Document → Char
  | null | int _ | float _ => 'N'
  | bool _ => 'B'
  | text _ => 'S'
  | list _ => 'A'
  | map _ => 'O'

theorem head?_toOutline (d : Document) (depth : Nat) :
    (d.toOutline.indentedAt depth).toList.head? = some d.initial := by
  cases d with
  | bool b => cases b <;> simp [toOutline, Outline.indentedAt, initial]
  | _ => simp [toOutline, Outline.indentedAt, initial]

/-- What starts as a number or a truth value does is a word without a comma. -/
theorem exists_word {d : Document} (h : d.initial = 'N' ∨ d.initial = 'B') :
    ∃ w, d.toOutline = .word w ∧ ',' ∉ w.toList := by
  cases d with
  | null => exact ⟨_, rfl, by decide⟩
  | bool b => exact ⟨_, rfl, by cases b <;> decide⟩
  | int n => exact ⟨_, rfl, by simp [comma_notMem_repr]⟩
  | float x => exact ⟨_, rfl, by simp [x.comma_notMem_text]⟩
  | text s => exact absurd h (by simp [initial])
  | list items => exact absurd h (by simp [initial])
  | map entries => exact absurd h (by simp [initial])

section ToldApart

open Outline

variable {a b : Document} {depth : Nat}

theorem toldApart_of_initial_ne (h : a.initial ≠ b.initial) :
    ToldApart (indentedAt depth) a.toOutline b.toOutline :=
  toldApart_of_head?_ne (head?_toOutline a depth) (head?_toOutline b depth) h

theorem toldApart_of_word (h : a.initial = 'N' ∨ a.initial = 'B') :
    ToldApart (indentedAt depth) a.toOutline b.toOutline := by
  by_cases hinitial : a.initial = b.initial
  · obtain ⟨v, hv, hcomma⟩ := exists_word h
    obtain ⟨w, hw, hnocomma⟩ := exists_word (hinitial ▸ h)
    rw [hv, hw]
    exact toldApart_word hcomma hnocomma
  · exact toldApart_of_initial_ne hinitial

theorem toldApart_text (s t : String) :
    ToldApart (indentedAt depth) (text s).toOutline (text t).toOutline := by
  intro x y h
  simp only [toOutline, indentedAt, String.toList_append, List.append_assoc] at h
  obtain ⟨rfl, hrest⟩ := Text.quote_append_inj (List.append_cancel_left h)
  exact ⟨rfl, (List.cons.inj (List.append_cancel_left hrest)).2⟩

theorem toOutlines_eq_map : ∀ items : List Document, toOutlines items = items.map toOutline
  | [] => rfl
  | d :: items => by rw [toOutlines, toOutlines_eq_map items, List.map_cons]

theorem toOutlineEntries_eq_map : ∀ entries : List (String × Document),
    toOutlineEntries entries = entries.map fun e => (e.1, e.2.toOutline)
  | [] => rfl
  | (key, d) :: entries => by
    rw [toOutlineEntries, toOutlineEntries_eq_map entries, List.map_cons]

mutual

/-- **Documents are told apart** from how their outlines are rendered, at any depth. -/
theorem toldApart_toOutline : ∀ (a b : Document) (depth : Nat),
    ToldApart (indentedAt depth) a.toOutline b.toOutline
  | .text s, b, depth => by
    cases b with
    | text t => exact toldApart_text s t
    | _ => exact toldApart_of_initial_ne (by simp [initial])
  | .list items, b, depth => by
    cases b with
    | list others =>
      refine toldApart_tagged (toldApart_list fun o ho p hp => ?_)
      rw [toOutlines_eq_map] at hp
      obtain ⟨e, -, rfl⟩ := List.mem_map.mp hp
      exact toldApart_toOutlines items o ho e (depth + 1)
    | _ => exact toldApart_of_initial_ne (by simp [initial])
  | .map entries, b, depth => by
    cases b with
    | map others =>
      refine toldApart_tagged (toldApart_map fun o ho p hp => ?_)
      rw [toOutlineEntries_eq_map] at hp
      obtain ⟨e, -, rfl⟩ := List.mem_map.mp hp
      exact toldApart_toOutlineEntries entries o ho e.2 (depth + 1)
    | _ => exact toldApart_of_initial_ne (by simp [initial])
  | .null, _, _ => toldApart_of_word (.inl rfl)
  | .bool _, _, _ => toldApart_of_word (.inr rfl)
  | .int _, _, _ => toldApart_of_word (.inl rfl)
  | .float _, _, _ => toldApart_of_word (.inl rfl)

theorem toldApart_toOutlines : ∀ (items : List Document), ∀ o ∈ toOutlines items,
    ∀ (b : Document) (depth : Nat), ToldApart (indentedAt depth) o b.toOutline
  | d :: items, o, ho, b, depth => by
    rcases List.mem_cons.mp ho with rfl | ho
    · exact toldApart_toOutline d b depth
    · exact toldApart_toOutlines items o ho b depth

theorem toldApart_toOutlineEntries : ∀ (entries : List (String × Document)),
    ∀ e ∈ toOutlineEntries entries, ∀ (b : Document) (depth : Nat),
      ToldApart (indentedAt depth) e.2 b.toOutline
  | (_, d) :: entries, e, he, b, depth => by
    rcases List.mem_cons.mp he with rfl | he
    · exact toldApart_toOutline d b depth
    · exact toldApart_toOutlineEntries entries e he b depth

end

end ToldApart

/-! ### Documents without floats -/

/-- A document without floats, at whatever depth. -/
inductive FloatFree : Document → Prop
  | null : FloatFree null
  | bool {b : Bool} : FloatFree (bool b)
  | int {n : Int} : FloatFree (int n)
  | text {s : String} : FloatFree (text s)
  | list {items : List Document} (h : ∀ d ∈ items, FloatFree d) : FloatFree (list items)
  | map {entries : List (String × Document)} (h : ∀ e ∈ entries, FloatFree e.2) :
    FloatFree (map entries)

theorem initial_eq_of_toOutline_eq {a b : Document} (h : a.toOutline = b.toOutline) :
    a.initial = b.initial := by
  have hinitial := head?_toOutline a 0
  rw [h, head?_toOutline b 0] at hinitial
  exact (Option.some.inj hinitial).symm

mutual

/-- **Outlines lose nothing but floats**: documents without floats are the same if their outlines
are. -/
theorem toOutline_inj : ∀ {a b : Document}, a.FloatFree → b.FloatFree →
    a.toOutline = b.toOutline → a = b
  | .null, b, _, hb, h => by
    cases b with
    | null => rfl
    | int n => exact absurd (Outline.word.inj h) (by simp [String.ext_iff])
    | float x => exact nomatch hb
    | _ => exact absurd (initial_eq_of_toOutline_eq h) (by simp [initial])
  | .bool v, b, _, _, h => by
    cases b with
    | bool w => cases v <;> cases w <;> simp [toOutline] at h ⊢
    | _ => exact absurd (initial_eq_of_toOutline_eq h) (by simp [initial])
  | .int n, b, _, hb, h => by
    cases b with
    | null => exact absurd (Outline.word.inj h) (by simp [String.ext_iff])
    | int m =>
      have hword := Outline.word.inj h
      rw [String.append_left_inj, String.append_right_inj] at hword
      exact congrArg int (Int.repr_inj.mp hword)
    | float x => exact nomatch hb
    | _ => exact absurd (initial_eq_of_toOutline_eq h) (by simp [initial])
  | .text s, b, _, _, h => by
    cases b with
    | text t =>
      have hword := Outline.word.inj h
      rw [String.append_left_inj, String.append_right_inj] at hword
      exact congrArg text (Text.quote_injective hword)
    | _ => exact absurd (initial_eq_of_toOutline_eq h) (by simp [initial])
  | .list items, b, .list ha, hb, h => by
    cases hb with
    | list hb =>
      have hitems := Outline.list.inj (Outline.tagged.inj h).2
      exact congrArg list (toOutlines_inj ha hb hitems)
    | _ => exact absurd (initial_eq_of_toOutline_eq h) (by simp [initial])
  | .map entries, b, .map ha, hb, h => by
    cases hb with
    | map hb =>
      have hentries := Outline.map.inj (Outline.tagged.inj h).2
      exact congrArg map (toOutlineEntries_inj ha hb hentries)
    | _ => exact absurd (initial_eq_of_toOutline_eq h) (by simp [initial])

theorem toOutlines_inj : ∀ {as bs : List Document}, (∀ a ∈ as, a.FloatFree) →
    (∀ b ∈ bs, b.FloatFree) → toOutlines as = toOutlines bs → as = bs
  | [], [], _, _, _ => rfl
  | a :: as, b :: bs, has, hbs, h => by
    obtain ⟨hfirst, hrest⟩ := List.cons.inj h
    obtain ⟨ha, hothers⟩ := List.forall_mem_cons.mp has
    obtain ⟨hb, hmore⟩ := List.forall_mem_cons.mp hbs
    rw [toOutline_inj ha hb hfirst, toOutlines_inj hothers hmore hrest]

theorem toOutlineEntries_inj : ∀ {as bs : List (String × Document)},
    (∀ e ∈ as, e.2.FloatFree) → (∀ e ∈ bs, e.2.FloatFree) →
      toOutlineEntries as = toOutlineEntries bs → as = bs
  | [], [], _, _, _ => rfl
  | (key, a) :: as, (other, b) :: bs, has, hbs, h => by
    obtain ⟨hfirst, hrest⟩ := List.cons.inj h
    obtain ⟨hkey, hpart⟩ := Prod.mk.inj hfirst
    obtain ⟨ha, hothers⟩ := List.forall_mem_cons.mp has
    obtain ⟨hb, hmore⟩ := List.forall_mem_cons.mp hbs
    have hvalue : a = b := toOutline_inj ha hb hpart
    rw [hkey, hvalue, toOutlineEntries_inj hothers hmore hrest]

end

end Document

/-! ### Tables of documents -/

namespace Table

variable {a b : Table Document}

theorem outline_eq_map (a : Table Document) :
    outline a = .map (Document.toOutlineEntries a.entries) := by
  rw [Document.toOutlineEntries_eq_map]
  rfl

/-- A table of documents can be read back as far as their outlines go. -/
theorem indentedAt_outline_eq_iff {depth : Nat} :
    (outline a).indentedAt depth = (outline b).indentedAt depth ↔ outline a = outline b := by
  refine ⟨fun h => ?_, congrArg _⟩
  have htold : Outline.ToldApart (Outline.indentedAt depth) (outline a) (outline b) := by
    rw [outline_eq_map, outline_eq_map]
    refine Outline.toldApart_map fun e he f hf => ?_
    rw [Document.toOutlineEntries_eq_map] at hf
    obtain ⟨g, -, rfl⟩ := List.mem_map.mp hf
    exact Document.toldApart_toOutlineEntries _ e he g.2 _
  exact htold.eq h

/-- Without floats it is the same table. -/
theorem outline_eq_iff (ha : ∀ d ∈ a.values, d.FloatFree) (hb : ∀ d ∈ b.values, d.FloatFree) :
    outline a = outline b ↔ a = b := by
  refine ⟨fun h => ext_entries ?_, congrArg _⟩
  rw [outline_eq_map, outline_eq_map] at h
  exact Document.toOutlineEntries_inj (fun e he => ha e.2 (List.mem_map_of_mem he))
    (fun e he => hb e.2 (List.mem_map_of_mem he)) (Outline.map.inj h)

end Table

end AutomationConfig
