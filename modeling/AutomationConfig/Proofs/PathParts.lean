import AutomationConfig.Path
import Mathlib.Data.List.Basic
import Mathlib.Tactic.SplitIfs

/-! # Parts of joined paths

The parts of a path are those that its pieces between slashes stand for, behind the one in front if
the path is absolute or starts with a dot (`Path.parts_eq`). Joining a piece that stands for a part
by itself adds that part and keeps the others (`Path.parts_join`), and every part of a path but the
first is written by such a piece (`Path.standsFor_of_mem_tail`). So a path joined with the text of
the part that follows in some path below it has that part as its only further one
(`Path.parts_join_of_prefix`). -/

namespace AutomationConfig.Path

/-! ### Pieces -/

theorem pieces_append_slash (s t : List Char) : pieces (s ++ '/' :: t) = pieces s ++ pieces t :=
  List.splitOn_append_cons_self s t

/-- Behind a slash at the end there is no part. -/
theorem filterMap_pieces_nil : (pieces []).filterMap partOf? = [] := rfl

/-- No piece holds a slash: those before a slash and behind it are pieces of shorter texts. -/
theorem slash_not_mem_of_mem_pieces (s : List Char) {piece : List Char} (h : piece ∈ pieces s) :
    '/' ∉ piece := by
  by_cases hslash : '/' ∈ s
  · obtain ⟨front, back, hs⟩ := List.append_of_mem hslash
    rw [hs, pieces_append_slash, List.mem_append] at h
    rcases h with h | h
    · exact slash_not_mem_of_mem_pieces front h
    · exact slash_not_mem_of_mem_pieces back h
  · have hwhole : pieces s = [s] := List.splitOn_eq_singleton hslash
    rw [hwhole, List.mem_singleton] at h
    exact h ▸ hslash
termination_by s.length
decreasing_by
  all_goals
    rw [hs, List.length_append, List.length_cons]
    omega

/-- The part in front of those between the slashes, if there is one. -/
def lead (s : List Char) : List Part :=
  if s.head? = some '/' then [.root]
  else if (pieces s).head? = some ['.'] then [.current]
  else []

theorem parts_eq (p : Path) :
    p.parts = lead p.text.toList ++ (pieces p.text.toList).filterMap partOf? := by
  unfold parts lead
  dsimp only
  split_ifs <;> rfl

/-- What stands behind a slash does not count for the part in front. -/
theorem lead_append_slash (s t : List Char) : lead (s ++ '/' :: t) = lead (s ++ ['/']) := by
  have hhead : (s ++ '/' :: t).head? = (s ++ ['/']).head? := by cases s <;> rfl
  have hpieces : (pieces (s ++ '/' :: t)).head? = (pieces (s ++ ['/'])).head? := by
    have hne : pieces s ≠ [] := List.splitOn_ne_nil _ _
    rw [pieces_append_slash, pieces_append_slash, List.head?_append_of_ne_nil _ hne,
      List.head?_append_of_ne_nil _ hne]
  rw [lead, lead, hhead, hpieces]

theorem lead_append_final {s : List Char} (hs : s ≠ []) : lead (s ++ ['/']) = lead s := by
  have hne : pieces s ≠ [] := List.splitOn_ne_nil _ _
  rw [lead, lead, pieces_append_slash, List.head?_append_of_ne_nil _ hs,
    List.head?_append_of_ne_nil _ hne]

/-- A slash at the end counts for nothing, unless it is all. -/
theorem parts_append_final {text : String} (h : text ≠ "") :
    (Path.mk (text ++ "/")).parts = (Path.mk text).parts := by
  have hs : text.toList ≠ [] := by simpa using h
  have htext : (text ++ "/").toList = text.toList ++ ['/'] := by simp [String.toList_append]
  rw [parts_eq, parts_eq, htext, lead_append_final hs, pieces_append_slash, List.filterMap_append,
    filterMap_pieces_nil, List.append_nil]

/-- Only the empty text has no parts. -/
theorem text_eq_of_parts_eq_nil {p : Path} (h : p.parts = []) : p.text = "" := by
  by_contra hne
  have hs : p.text.toList ≠ [] := by simpa using hne
  rw [parts_eq, List.append_eq_nil_iff] at h
  obtain ⟨hlead, hrest⟩ := h
  unfold lead at hlead
  split_ifs at hlead with hslash hdot
  obtain ⟨front, more, hpieces⟩ : ∃ front more, pieces p.text.toList = front :: more :=
    List.exists_cons_of_ne_nil (List.splitOn_ne_nil _ _)
  rw [hpieces] at hrest hdot
  -- the first piece is neither empty nor a dot, so it stands for a part
  have hfront : front ≠ [] := by
    rintro rfl
    by_cases hmem : '/' ∈ p.text.toList
    · obtain ⟨first, rest, hsplit, hfree⟩ := List.eq_append_cons_of_mem hmem
      have hfirst : pieces first = [first] := List.splitOn_eq_singleton hfree
      rw [hsplit, pieces_append_slash, hfirst] at hpieces
      obtain ⟨rfl, -⟩ := List.cons.inj hpieces
      exact hslash (by rw [hsplit]; rfl)
    · have hwhole : pieces p.text.toList = [p.text.toList] := List.splitOn_eq_singleton hmem
      rw [hwhole] at hpieces
      exact hs (List.cons.inj hpieces).1
  have hpart : (partOf? front).isSome = true := by
    have hcurrent : front ≠ ['.'] := fun heq => hdot (by rw [heq]; rfl)
    unfold partOf?
    rw [if_neg (by simp [hfront, hcurrent])]
    split_ifs <;> rfl
  obtain ⟨part, hpart⟩ := Option.isSome_iff_exists.mp hpart
  rw [List.filterMap_cons_some hpart] at hrest
  exact nomatch hrest

/-! ### Joining -/

/-- **A text that stands for a part** by itself, wherever it is joined: it holds no slash and it is
that part between two slashes. -/
structure StandsFor (piece : String) (part : Part) : Prop where
  slashless : '/' ∉ piece.toList
  part : partOf? piece.toList = some part

variable {piece : String} {part : Part}

namespace StandsFor

theorem pieces_eq (h : StandsFor piece part) : pieces piece.toList = [piece.toList] :=
  List.splitOn_eq_singleton h.slashless

theorem toList_ne_current (h : StandsFor piece part) : piece.toList ≠ ['.'] := fun heq => by
  have hpart := h.part
  rw [heq] at hpart
  exact nomatch hpart

theorem head?_ne (h : StandsFor piece part) : piece.toList.head? ≠ some '/' := fun hslash =>
  h.slashless (List.mem_of_mem_head? hslash)

theorem filterMap_eq (h : StandsFor piece part) :
    (pieces piece.toList).filterMap partOf? = [part] := by
  rw [h.pieces_eq, List.filterMap_cons_some h.part, List.filterMap_nil]

/-- Alone it is that part. -/
theorem parts_eq (h : StandsFor piece part) : (Path.mk piece).parts = [part] := by
  have hlead : lead piece.toList = [] := by
    simp [lead, h.head?_ne, h.pieces_eq, h.toList_ne_current]
  rw [Path.parts_eq, hlead, h.filterMap_eq, List.nil_append]

/-- Behind a slash it adds that part. -/
theorem parts_append (h : StandsFor piece part) (text : String) :
    (Path.mk (text ++ "/" ++ piece)).parts = (Path.mk (text ++ "/")).parts ++ [part] := by
  have htext : (text ++ "/" ++ piece).toList = text.toList ++ '/' :: piece.toList := by
    simp [String.toList_append]
  have hslash : (text ++ "/").toList = text.toList ++ ['/'] := by simp [String.toList_append]
  rw [Path.parts_eq, Path.parts_eq, htext, hslash, lead_append_slash, pieces_append_slash,
    pieces_append_slash, List.filterMap_append, List.filterMap_append, h.filterMap_eq,
    filterMap_pieces_nil, List.append_nil, List.append_assoc]

end StandsFor

/-- What joining a piece comes to: the piece alone below nothing, and otherwise the piece behind a
slash, which is added if there is none. -/
theorem join_cases (h : StandsFor piece part) (root : Path) :
    (root.text = "" ∧ root.join piece = ⟨piece⟩) ∨
      (∃ text, root.text = text ++ "/" ∧ root.join piece = ⟨text ++ "/" ++ piece⟩) ∨
      (root.text ≠ "" ∧ root.join piece = ⟨root.text ++ "/" ++ piece⟩) := by
  have hrelative : (Path.mk piece).isAbsolute = false := by simp [isAbsolute, h.head?_ne]
  by_cases hempty : root.text = ""
  · exact .inl ⟨hempty, by simp [join, hempty]⟩
  by_cases hslash : root.text.toList.getLast? = some '/'
  · obtain ⟨front, hfront⟩ := List.getLast?_eq_some_iff.mp hslash
    have htext : root.text = String.ofList front ++ "/" :=
      String.toList_injective (by simp [hfront, String.toList_append])
    refine .inr (.inl ⟨String.ofList front, htext, ?_⟩)
    rw [← htext]
    simp [join, hrelative, hempty, hslash]
  · exact .inr (.inr ⟨hempty, by simp [join, hrelative, hempty, hslash]⟩)

/-- **Joining a piece** that stands for a part adds that part and keeps the others. -/
theorem parts_join (h : StandsFor piece part) (root : Path) :
    (root.join piece).parts = root.parts ++ [part] := by
  obtain ⟨hempty, hjoin⟩ | ⟨text, htext, hjoin⟩ | ⟨hgiven, hjoin⟩ := join_cases h root
  · have hnone : root.parts = [] := by
      rw [parts_eq, hempty]
      rfl
    rw [hjoin, hnone, h.parts_eq, List.nil_append]
  · rw [hjoin, h.parts_append, ← htext]
  · rw [hjoin, h.parts_append, parts_append_final hgiven]

theorem isAbsolute_join (h : StandsFor piece part) (root : Path) :
    (root.join piece).isAbsolute = root.isAbsolute := by
  have hfront : ∀ text more : String, text ≠ "" →
      (Path.mk (text ++ more)).isAbsolute = (Path.mk text).isAbsolute := by
    intro text more htext
    have hne : text.toList ≠ [] := by simpa using htext
    rw [isAbsolute, isAbsolute, String.toList_append, List.head?_append_of_ne_nil _ hne]
  obtain ⟨hempty, hjoin⟩ | ⟨text, htext, hjoin⟩ | ⟨hgiven, hjoin⟩ := join_cases h root
  · simp [hjoin, isAbsolute, hempty, h.head?_ne]
  · have hslash : text ++ "/" ≠ "" := by simp
    rw [hjoin, hfront _ _ hslash, ← htext]
  · rw [hjoin, String.append_assoc, hfront _ _ hgiven]

/-! ### The parts that paths have -/

/-- A part that a piece stands for is written by its own text. -/
theorem standsFor_of_mem_filterMap {s : List Char} (h : part ∈ (pieces s).filterMap partOf?) :
    StandsFor part.text part := by
  obtain ⟨piece, hpiece, hpart⟩ := List.mem_filterMap.mp h
  have hslash : '/' ∉ piece := slash_not_mem_of_mem_pieces s hpiece
  have htext : part.text.toList = piece := by
    unfold partOf? at hpart
    split_ifs at hpart with hnone hparent
    · obtain rfl := Option.some.inj hpart
      exact hparent.symm
    · obtain rfl := Option.some.inj hpart
      exact String.toList_ofList
  exact ⟨htext ▸ hslash, htext ▸ hpart⟩

theorem standsFor_of_mem_tail {p : Path} (h : part ∈ p.parts.tail) :
    StandsFor part.text part := by
  rw [parts_eq] at h
  unfold lead at h
  split_ifs at h
  · exact standsFor_of_mem_filterMap h
  · exact standsFor_of_mem_filterMap h
  · exact standsFor_of_mem_filterMap (List.mem_of_mem_tail h)

/-- The first part may also be the one in front. -/
theorem standsFor_of_head {p : Path} (h : p.parts.head? = some part) :
    StandsFor part.text part ∨ part = .root ∨ part = .current := by
  rw [parts_eq] at h
  unfold lead at h
  split_ifs at h
  · exact .inr (.inl (Option.some.inj h).symm)
  · exact .inr (.inr (Option.some.inj h).symm)
  · exact .inl (standsFor_of_mem_filterMap (List.mem_of_mem_head? h))

/-- **Joining the part that follows** in a path below adds that part and keeps the others. -/
theorem parts_join_of_prefix {d p : Path} (h : d.parts ++ [part] <+: p.parts) :
    (d.join part.text).parts = d.parts ++ [part] := by
  obtain ⟨rest, hp⟩ := h
  rcases hd : d.parts with _ | ⟨first, more⟩
  · have htext : d.text = "" := text_eq_of_parts_eq_nil hd
    have hhead : p.parts.head? = some part := by rw [← hp, hd]; rfl
    rcases standsFor_of_head hhead with hstands | rfl | rfl
    · rw [parts_join hstands, hd]
    · have hroot : d.join Part.root.text = ⟨"/"⟩ := rfl
      rw [hroot]
      decide
    · have hdot : d.join Part.current.text = ⟨"."⟩ := by
        obtain ⟨text⟩ := d
        obtain rfl : text = "" := htext
        rfl
      rw [hdot]
      decide
  · have hmem : part ∈ p.parts.tail := by
      rw [← hp, hd]
      simp
    rw [parts_join (standsFor_of_mem_tail hmem), hd]

end AutomationConfig.Path
