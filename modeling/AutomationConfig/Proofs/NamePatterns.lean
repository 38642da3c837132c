import AutomationConfig.Pattern.Acceptance
import AutomationConfig.Proofs.Matching

/-! # Patterns for names select these names

The pattern of a list of names selects exactly the names of the list, whatever characters they have
(`Pattern.ofNames_selects`). It is read piece by piece: a piece takes the reader from one progress
to another one, whatever stands behind it (`Progress.Reads`), so that what is read of escaped
characters, of a name between its two ends and of names with bars between them can be put together.
The pattern of a name then matches a text only as a whole, since nothing comes before the start of a
text or behind its end. -/

namespace AutomationConfig.Pattern

/-! ### The patterns of names -/

/-- The parts of the pattern of a name. -/
def nameParts (name : List Char) : List Expr :=
  .place .lineStart :: (name.map (.literal ⟨·, false⟩) ++ [.place .lineEnd])

/-- The pattern of a name. -/
def Expr.ofName (name : List Char) : Expr := .sequence (nameParts name)

/-- The pattern of several names. -/
def Expr.ofNames (names : List String) : Expr := .ofAlternatives (names.map (.ofName ·.toList))

theorem ofParts_nameParts (name : List Char) : .ofParts (nameParts name) = Expr.ofName name := by
  cases name <;> rfl

theorem mem_nameParts {name : List Char} {e : Expr} : e ∈ nameParts name ↔
    e = .place .lineStart ∨ (∃ c ∈ name, .literal ⟨c, false⟩ = e) ∨ e = .place .lineEnd := by
  simp [nameParts]

/-! ### Reading piece by piece -/

namespace Progress

/-- Adds parts to the current sequence, one after the other. -/
def addAll (p : Progress) (es : List Expr) : Progress := { p with parts := es.reverse ++ p.parts }

theorem addAll_cons (p : Progress) (e : Expr) (es : List Expr) :
    p.addAll (e :: es) = (p.add e).addAll es := by
  simp [addAll, add]

theorem addAll_append (p : Progress) (es es' : List Expr) :
    p.addAll (es ++ es') = (p.addAll es).addAll es' := by
  simp [addAll]

/-- A piece of a pattern takes the reader from one progress to another one. Some of the steps that
the characters of the piece give may be left over. -/
def Reads (p : Progress) (piece : List Char) (q : Progress) : Prop :=
  ∃ spare, ∀ steps rest,
    readParts (steps + piece.length) p (piece ++ rest) = readParts (steps + spare) q rest

theorem Reads.refl (p : Progress) : p.Reads [] p := ⟨0, fun _ _ => rfl⟩

theorem Reads.trans {p q r : Progress} {piece piece' : List Char} (h : p.Reads piece q)
    (h' : q.Reads piece' r) : p.Reads (piece ++ piece') r := by
  obtain ⟨spare, h⟩ := h
  obtain ⟨spare', h'⟩ := h'
  refine ⟨spare + spare', fun steps rest => ?_⟩
  calc readParts (steps + (piece ++ piece').length) p (piece ++ piece' ++ rest)
      = readParts (steps + piece'.length + piece.length) p (piece ++ (piece' ++ rest)) := by
        rw [List.length_append, List.append_assoc, Nat.add_assoc, Nat.add_comm piece'.length]
    _ = readParts (steps + spare + piece'.length) q (piece' ++ rest) := by
        rw [h, Nat.add_right_comm]
    _ = readParts (steps + (spare + spare')) r rest := by rw [h', Nat.add_assoc]

/-- A pattern that is read to its end is what has been read by then. -/
theorem Reads.ofText? {source : List Char} {q : Progress} (h : Reads {} source q) :
    Expr.ofText? source = q.finish? := by
  obtain ⟨spare, h⟩ := h
  have hread := h 1 []
  rw [List.append_nil, Nat.add_comm 1, Nat.add_comm 1] at hread
  rw [Expr.ofText?, hread, readParts]
  cases q.ignoring <;> rfl

-- The names are not escaped for a reader that passes over blanks and comments.
variable {p : Progress} (hp : p.ignoring = false)
include hp

/-- A sign without a meaning for the structure of the pattern is read with the signs it takes. -/
theorem reads_of_readAtom {c : Char} {piece : List Char} {e : Expr}
    (hplain : c ∉ ['(', ')', '|', '?', '*', '+', '\x7b'])
    (hread : ∀ rest, readAtom false c (piece ++ rest) = some (e, rest)) :
    p.Reads (c :: piece) (p.add e) := by
  refine ⟨piece.length, fun steps rest => ?_⟩
  simp only [List.mem_cons, List.not_mem_nil, or_false, not_or] at hplain
  simp [readParts, hp, hplain, hread, ← Nat.add_assoc]

/-- A character of a name is read as itself. -/
theorem reads_escape_char (c : Char) : p.Reads (escape [c]) (p.add (.literal ⟨c, false⟩)) := by
  cases hc : isMeta c with
  | true =>
    have hescape : escape [c] = ['\\', c] := by simp [escape, hc]
    rw [hescape]
    exact reads_of_readAtom hp (by decide) fun rest => by simp [readAtom, readEscape, hc]
  | false =>
    have hescape : escape [c] = [c] := by simp [escape, hc]
    rw [hescape]
    simp only [isMeta, List.contains_eq_mem, decide_eq_false_iff_not, List.mem_cons,
      List.not_mem_nil, or_false, not_or] at hc
    exact reads_of_readAtom hp (by simp [hc]) fun rest => by simp [readAtom, hc]

/-- A name is read as its characters. -/
theorem reads_escape (name : List Char) :
    p.Reads (escape name) (p.addAll (name.map (.literal ⟨·, false⟩))) := by
  induction name generalizing p with
  | nil => exact .refl p
  | cons c cs ih =>
    rw [List.map_cons, addAll_cons]
    simpa [escape] using (reads_escape_char hp c).trans (ih (p := p.add (.literal ⟨c, false⟩)) hp)

theorem reads_start : p.Reads ['^'] (p.add (.place .lineStart)) :=
  reads_of_readAtom hp (by decide) fun _ => rfl

theorem reads_end : p.Reads ['$'] (p.add (.place .lineEnd)) :=
  reads_of_readAtom hp (by decide) fun _ => rfl

theorem reads_bar : p.Reads ['|'] p.nextAlternative :=
  ⟨0, fun steps rest => by simp [readParts, hp]⟩

/-- A name between its ends is read as the parts of its pattern. -/
theorem reads_whole (name : List Char) : p.Reads (whole name) (p.addAll (nameParts name)) := by
  have hname := reads_escape (p := p.add (.place .lineStart)) hp name
  rw [nameParts, addAll_cons, addAll_append]
  exact ((reads_start hp).trans hname).trans (reads_end hp)

/-- Names with bars between them are read as alternatives. -/
theorem reads_names (hparts : p.parts = []) (name : String) (names : List String) :
    ∃ q, p.Reads (['|'].intercalate ((name :: names).map fun name => whole name.toList)) q ∧
      q.outer = p.outer ∧
      q.inner =
        .ofAlternatives (p.alternatives.reverse ++ (name :: names).map (.ofName ·.toList)) := by
  induction names generalizing p name with
  | nil =>
    refine ⟨p.addAll (nameParts name.toList), ?_, rfl, ?_⟩
    · simpa [List.intercalate] using reads_whole hp name.toList
    · simp [inner, addAll, hparts, ofParts_nameParts]
  | cons name' names ih =>
    -- The bar makes the parts of the first name an alternative and leaves no parts behind.
    obtain ⟨q, hq, houter, hinner⟩ :=
      ih (p := (p.addAll (nameParts name.toList)).nextAlternative) hp rfl name'
    have hbar : (p.addAll (nameParts name.toList)).Reads ['|'] _ := reads_bar hp
    refine ⟨q, ?_, houter, ?_⟩
    · simpa [List.intercalate] using (reads_whole hp name.toList).trans (hbar.trans hq)
    · simpa [nextAlternative, addAll, hparts, ofParts_nameParts] using hinner

end Progress

/-- **The pattern of names is read** as a choice of the patterns of the names. -/
theorem ofText?_ofNames {names : List String} (h : names ≠ []) :
    Expr.ofText? (ofNames names).toList = some (.ofNames names) := by
  obtain ⟨name, names, rfl⟩ := List.exists_cons_of_ne_nil h
  obtain ⟨q, hq, houter, hinner⟩ := Progress.reads_names (p := {}) rfl rfl name names
  rw [ofNames, String.toList_ofList, hq.ofText?, Progress.finish?, houter, hinner]
  rfl

/-! ### Well-formedness -/

theorem partsDepth_le {es : List Expr} {n : Nat} (h : ∀ e ∈ es, e.depth ≤ n) :
    partsDepth es ≤ n := by
  induction es with
  | nil => exact Nat.zero_le n
  | cons e rest ih =>
    rw [List.forall_mem_cons] at h
    exact Nat.max_le.mpr ⟨h.1, ih h.2⟩

theorem depth_ofAlternatives_le {es : List Expr} {n : Nat} (h : ∀ e ∈ es, e.depth ≤ n) :
    (Expr.ofAlternatives es).depth ≤ n + 1 := by
  match es, h with
  | [], _ => exact Nat.zero_le _
  | [e], h => exact Nat.le_succ_of_le (h e (List.mem_singleton_self e))
  | e :: e' :: rest, h => simpa [Expr.ofAlternatives, Expr.depth] using partsDepth_le h

theorem depth_ofName_le (name : List Char) : (Expr.ofName name).depth ≤ 1 := by
  have hparts : partsDepth (nameParts name) ≤ 0 := partsDepth_le fun e he => by
    rcases mem_nameParts.mp he with rfl | ⟨c, -, rfl⟩ | rfl <;> exact Nat.le_refl 0
  rw [Expr.ofName, Expr.depth]
  omega

theorem depth_ofNames_le (names : List String) : (Expr.ofNames names).depth ≤ maxDepth := by
  have hdepth : (Expr.ofNames names).depth ≤ 1 + 1 :=
    depth_ofAlternatives_le (by simp [depth_ofName_le])
  exact Nat.le_trans hdepth (by decide)

/-- A pattern may be written in a scope, and the scope behind it is the same. -/
def Expr.IsWritable (s : Scope) (e : Expr) : Prop := ∃ matcher, e.matcher? s = some (matcher, s)

section
variable {s : Scope}

theorem exists_matchers {es : List Expr} (h : ∀ e ∈ es, e.IsWritable s) :
    ∃ matchers, matchers? s es = some (matchers, s) := by
  induction es with
  | nil => exact ⟨[], rfl⟩
  | cons e rest ih =>
    rw [List.forall_mem_cons] at h
    obtain ⟨⟨matcher, hm⟩, hrest⟩ := h
    obtain ⟨matchers, hms⟩ := ih hrest
    exact ⟨matcher :: matchers, by simp [matchers?, hm, hms]⟩

theorem isWritable_sequence {parts : List Expr} (h : ∀ e ∈ parts, e.IsWritable s) :
    (Expr.sequence parts).IsWritable s := by
  obtain ⟨matchers, hms⟩ := exists_matchers h
  exact ⟨.ofSequence matchers, by simp [Expr.matcher?, hms]⟩

theorem isWritable_ofAlternatives {es : List Expr} (h : ∀ e ∈ es, e.IsWritable s) :
    (Expr.ofAlternatives es).IsWritable s := by
  match es, h with
  | [], _ => exact ⟨_, rfl⟩
  | [e], h => exact h e (List.mem_singleton_self e)
  | e :: e' :: rest, h =>
    obtain ⟨matchers, hms⟩ := exists_matchers h
    exact ⟨.ofChoice matchers, by simp [Expr.ofAlternatives, Expr.matcher?, hms]⟩

/-- A character may be written under all flags if it is not written as a byte. -/
theorem isWritable_literal (c : Char) : (Expr.literal ⟨c, false⟩).IsWritable s := by
  obtain ⟨matcher, hm⟩ : ∃ matcher, s.mode.literal? ⟨c, false⟩ = some matcher := by
    simp [Mode.literal?]
  exact ⟨matcher, by simp [Expr.matcher?, hm]⟩

theorem isWritable_ofName (name : List Char) : (Expr.ofName name).IsWritable s := by
  refine isWritable_sequence fun e he => ?_
  rcases mem_nameParts.mp he with rfl | ⟨c, -, rfl⟩ | rfl
  · exact ⟨_, rfl⟩
  · exact isWritable_literal c
  · exact ⟨_, rfl⟩

theorem isWritable_ofNames (names : List String) : (Expr.ofNames names).IsWritable s :=
  isWritable_ofAlternatives (by simp [isWritable_ofName])

end

/-! ### Matches -/

section
variable {text : List Char} {m : Mode} {i j : Nat}

theorem cons_prefix_drop {c : Char} {cs : List Char} :
    c :: cs <+: text.drop i ↔ text[i]? = some c ∧ cs <+: text.drop (i + 1) := by
  rcases Nat.lt_or_ge i text.length with h | h
  · rw [List.drop_eq_getElem_cons h, List.cons_prefix_cons, List.getElem?_eq_getElem h,
      Option.some_inj, eq_comm]
  · simp [List.drop_eq_nil_of_le h, List.getElem?_eq_none h]

/-- Characters match a part of the text that they are. -/
theorem allMatch_literals (hm : m.ignoreCase = false) (name : List Char) (rest : List Expr) :
    AllMatch text m (name.map (.literal ⟨·, false⟩) ++ rest) i j ↔
      name <+: text.drop i ∧ AllMatch text m rest (i + name.length) j := by
  induction name generalizing i with
  | nil => simp
  | cons c cs ih =>
    have hstep (k : Nat) : i + 1 + k = i + (k + 1) := by omega
    simp [AllMatch, matches_literal hm, Expr.modeBehind, ih, cons_prefix_drop, hstep, and_assoc]

theorem matches_lineStart (hi : i ≤ text.length) :
    (Expr.place .lineStart).Matches text {} i j ↔ i = j ∧ i = 0 := by
  rw [Expr.Matches]
  refine and_congr_right fun _ => ?_
  match i with
  | 0 => exact iff_of_true rfl rfl
  | i + 1 =>
    have hbefore : charBefore? text (i + 1) = some text[i] := List.getElem?_eq_getElem hi
    simp [Mode.anchor, Anchor.holds, hbefore]

theorem matches_lineEnd :
    (Expr.place .lineEnd).Matches text {} i j ↔ i = j ∧ text.length ≤ i := by
  rw [Expr.Matches]
  simp [Mode.anchor, Anchor.holds]

/-- A name up to the end of the text is all that is left of the text. -/
theorem allMatch_name_end (name : List Char) (hi : i ≤ text.length) :
    AllMatch text {} (name.map (.literal ⟨·, false⟩) ++ [.place .lineEnd]) i j ↔
      text.drop i = name ∧ j = text.length := by
  have hend (k : Nat) : AllMatch text {} [.place .lineEnd] k j ↔ text.length ≤ k ∧ k = j := by
    simp only [AllMatch, matches_lineEnd]
    exact ⟨fun ⟨_, ⟨hk, hle⟩, hj⟩ => ⟨hle, hk.trans hj⟩, fun ⟨hle, hj⟩ => ⟨k, ⟨rfl, hle⟩, hj⟩⟩
  rw [allMatch_literals rfl, hend]
  constructor
  · rintro ⟨hname, hle, rfl⟩
    have heq : name = text.drop i := hname.eq_of_length_le (by rw [List.length_drop]; omega)
    rw [heq, List.length_drop]
    exact ⟨rfl, by omega⟩
  · rintro ⟨rfl, rfl⟩
    rw [List.length_drop]
    exact ⟨List.prefix_refl _, by omega, by omega⟩

/-- **The pattern of a name matches the name only**, and only from end to end. -/
theorem matches_ofName (name : List Char) (hi : i ≤ text.length) :
    (Expr.ofName name).Matches text {} i j ↔ i = 0 ∧ j = text.length ∧ text = name := by
  rw [Expr.ofName, Expr.Matches, nameParts, AllMatch]
  constructor
  · rintro ⟨k, hstart, hrest⟩
    obtain ⟨rfl, rfl⟩ := (matches_lineStart hi).mp hstart
    obtain ⟨hname, hj⟩ := (allMatch_name_end name hi).mp hrest
    exact ⟨rfl, hj, hname⟩
  · rintro ⟨rfl, rfl, rfl⟩
    exact ⟨0, (matches_lineStart hi).mpr ⟨rfl, rfl⟩, (allMatch_name_end text hi).mpr ⟨rfl, rfl⟩⟩

end

theorem modeBehind_ofName (name : List Char) (m : Mode) : (Expr.ofName name).modeBehind m = m := by
  have hliterals (cs : List Char) :
      modeBehindAll m (cs.map (.literal ⟨·, false⟩) ++ [.place .lineEnd]) = m := by
    induction cs with
    | nil => rfl
    | cons c cs ih => simpa [modeBehindAll, Expr.modeBehind] using ih
  simpa [Expr.ofName, nameParts, Expr.modeBehind, modeBehindAll] using hliterals name

/-- The choice of the patterns of names selects these names. -/
theorem selects_ofNames {names : List String} (h : names ≠ []) (text : String) :
    (Expr.ofNames names).Selects text.toList ↔ text ∈ names := by
  have hmode : ∀ e ∈ names.map fun name => Expr.ofName name.toList, e.modeBehind {} = {} := by
    simp [modeBehind_ofName]
  have hmatches {i j : Nat} (hi : i ≤ text.toList.length) :
      (Expr.ofNames names).Matches text.toList {} i j ↔
        i = 0 ∧ j = text.toList.length ∧ text ∈ names := by
    rw [Expr.ofNames, matches_ofAlternatives (by simpa using h), anyMatches_iff hmode]
    simp only [List.mem_map, exists_exists_and_eq_and, matches_ofName _ hi, String.toList_inj]
    exact ⟨fun ⟨_, hmem, hstart, hend, heq⟩ => ⟨hstart, hend, heq ▸ hmem⟩,
      fun ⟨hstart, hend, hmem⟩ => ⟨text, hmem, hstart, hend, rfl⟩⟩
  constructor
  · rintro ⟨i, j, hi, hij⟩
    exact ((hmatches hi).mp hij).2.2
  · exact fun hmem => ⟨0, _, Nat.zero_le _, (hmatches (Nat.zero_le _)).mpr ⟨rfl, rfl, hmem⟩⟩

/-- **The pattern of names selects these names and nothing else.** It can be read, it obeys the
rules for its parts, and it is accepted unless what it is compiled to is too large. -/
theorem ofNames_selects {names : List String} (h : names ≠ []) :
    ∃ e matcher, Expr.ofText? (ofNames names).toList = some e ∧ e.depth ≤ maxDepth ∧
      e.toMatcher? = some matcher ∧ accepts (ofNames names) = matcher.isUsable ∧
      ∀ text : String, e.Selects text.toList ↔ text ∈ names := by
  have hread := ofText?_ofNames h
  have hdepth := depth_ofNames_le names
  obtain ⟨matcher, hm⟩ : (Expr.ofNames names).IsWritable {} := isWritable_ofNames names
  have hto : (Expr.ofNames names).toMatcher? = some matcher := by
    rw [Expr.toMatcher?, hm]
    rfl
  refine ⟨.ofNames names, matcher, hread, hdepth, hto, ?_, selects_ofNames h⟩
  simp [accepts, hread, Expr.isAllowed, hdepth, hto]

/-- A bar in a name does not come between two names, and the empty name is one. -/
theorem ofNames_selects_withBar :
    ["a|b", ""] ≠ [] ∧ ∃ e, Expr.ofText? (ofNames ["a|b", ""]).toList = some e ∧
      e.Selects "a|b".toList ∧ e.Selects "".toList ∧ ¬ e.Selects "a".toList := by
  have hnames : ["a|b", ""] ≠ [] := List.cons_ne_nil _ _
  obtain ⟨e, _, hread, -, -, -, hselects⟩ := ofNames_selects hnames
  exact ⟨hnames, e, hread, (hselects _).mpr (by decide), (hselects _).mpr (by decide),
    fun h => absurd ((hselects _).mp h) (by decide)⟩

end AutomationConfig.Pattern
