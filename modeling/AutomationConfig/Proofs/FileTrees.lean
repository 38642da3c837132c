import AutomationConfig.Proofs.PathParts
import AutomationConfig.Storage.FileTree
import Mathlib.Data.List.Induction
import Mathlib.Data.List.Nodup
import Mathlib.Data.List.Pairwise

/-! # File trees are trees

However files are added (`FileTree.ofAdded`), what is at a path is a file, a directory or nothing. A
file holds what was added for its path last (`LastAdded`), and a directory lists the parts that
follow it in the paths of files below it, each once and in order (`FileTree.IsListing`); what it
lists is there, as a file or as a directory (`FileTree.ofAdded_isTree`).

The listing comes from the files in the order of their paths, and only neighbours are compared to
leave repetitions out. That is enough because paths are compared part by part: below one directory
the parts that follow it never decrease (`Path.before_of_partsBefore`), so what is the same stands
together (`FileTree.pairwise_withoutRepeats`). -/

namespace AutomationConfig

/-! ### Paths below a directory -/

namespace Path

theorem isBelow_iff {p d : Path} : p.isBelow d = true ↔ d.parts <+: p.parts := by
  rw [isBelow, List.isPrefixOf_iff_prefix]

/-- What two paths have in common in front does not count for their order. -/
theorem partsBefore_append (front as bs : List Part) :
    partsBefore (front ++ as) (front ++ bs) = partsBefore as bs := by
  induction front with
  | nil => rfl
  | cons a front ih =>
    rw [List.cons_append, List.cons_append, partsBefore, if_pos rfl, ih]

/-- Behind a common front the next parts of two paths are in order. -/
theorem before_of_partsBefore {front as bs : List Part} {a b : Part}
    (h : partsBefore (front ++ a :: as) (front ++ b :: bs) = true) : a = b ∨ a.before b = true := by
  rw [partsBefore_append, partsBefore] at h
  by_cases hab : a = b
  · exact Or.inl hab
  · rw [if_neg hab] at h
    exact Or.inr h

end Path

/-- **What was added last** for a path: after it nothing was added there. -/
def LastAdded (added : List (Path × String)) (p : Path) (content : String) : Prop :=
  ∃ front q back, added = front ++ (q, content) :: back ∧ q.parts = p.parts ∧
    ∀ f, f ∈ back → f.1.parts ≠ p.parts

namespace FileTree

variable {t : FileTree} {d p : Path} {content : String} {added : List (Path × String)}

/-! ### What is at a path -/

theorem find?_insertFile (path : Path) (content : String) (p : Path) :
    ∀ files : List (Path × String),
      ((insertFile path content files).find? fun f => f.1.parts = p.parts).map (·.2) =
        if p.parts = path.parts then some content
        else (files.find? fun f => f.1.parts = p.parts).map (·.2)
  | [] => by
    by_cases h : p.parts = path.parts
    · simp [insertFile, h]
    · simp [insertFile, h, Ne.symm h]
  | (q, text) :: rest => by
    have ih := find?_insertFile path content p rest
    unfold insertFile
    by_cases hp : p.parts = path.parts
    · rw [if_pos hp] at ih ⊢
      split_ifs with hsame hbefore
      · simp [hsame, hp]
      · simp [hp]
      · have hq : ¬ q.parts = p.parts := fun hq => hsame (hq.trans hp)
        rw [List.find?_cons_of_neg (by simpa using hq), ih]
    · have hpath : ¬ path.parts = p.parts := fun h => hp h.symm
      rw [if_neg hp] at ih ⊢
      split_ifs with hsame hbefore
      · have hq : ¬ q.parts = p.parts := fun hq => hp (hq.symm.trans hsame)
        rw [List.find?_cons_of_neg (by simpa using hq), List.find?_cons_of_neg (by simpa using hq)]
      · rw [List.find?_cons_of_neg (by simpa using hpath)]
      · by_cases hq : q.parts = p.parts
        · simp [hq]
        · rw [List.find?_cons_of_neg (by simpa using hq), ih,
            List.find?_cons_of_neg (by simpa using hq)]

/-- Adding a file changes what is at its path, and at no other one. -/
theorem content?_addFile (t : FileTree) (path : Path) (content : String) (p : Path) :
    (t.addFile path content).content? p =
      if p.parts = path.parts then some content else t.content? p :=
  find?_insertFile path content p t.files

/-- The tree after files have been added one after the other. -/
def ofAdded (added : List (Path × String)) : FileTree :=
  added.foldl (fun t f => t.addFile f.1 f.2) empty

theorem ofAdded_append (added : List (Path × String)) (f : Path × String) :
    ofAdded (added ++ [f]) = (ofAdded added).addFile f.1 f.2 :=
  List.foldl_concat _ _ _ _

theorem content?_ofAdded (added : List (Path × String)) (p : Path) :
    (ofAdded added).content? p =
      (added.reverse.find? fun f => f.1.parts = p.parts).map (·.2) := by
  induction added using List.reverseRecOn with
  | nil => rfl
  | append_singleton added f ih =>
    rw [ofAdded_append, content?_addFile, ih, List.reverse_append, List.reverse_singleton,
      List.singleton_append]
    by_cases hf : f.1.parts = p.parts
    · simp [hf]
    · simp [hf, Ne.symm hf]

theorem content?_ofAdded_eq_some_iff :
    (ofAdded added).content? p = some content ↔ LastAdded added p content := by
  rw [content?_ofAdded, Option.map_eq_some_iff]
  constructor
  · rintro ⟨⟨q, text⟩, hfind, rfl⟩
    obtain ⟨hq, back, front, hadded, hback⟩ := List.find?_eq_some_iff_append.mp hfind
    refine ⟨front.reverse, q, back.reverse, ?_, by simpa using hq, fun f hf => ?_⟩
    · rw [← List.reverse_reverse added, hadded]
      simp
    · simpa using hback f (List.mem_reverse.mp hf)
  · rintro ⟨front, q, back, rfl, hq, hback⟩
    refine ⟨(q, content), List.find?_eq_some_iff_append.mpr
      ⟨by simpa using hq, back.reverse, front.reverse, by simp, fun f hf => ?_⟩, rfl⟩
    simpa using hback f (List.mem_reverse.mp hf)

theorem isFile_iff : t.isFile p = true ↔ ∃ f ∈ t.files, f.1.parts = p.parts := by
  rw [isFile, content?, Option.isSome_map, List.find?_isSome]
  simp only [decide_eq_true_eq]

theorem isFile_ofAdded_iff :
    (ofAdded added).isFile p = true ↔ ∃ f ∈ added, f.1.parts = p.parts := by
  rw [isFile, content?_ofAdded, Option.isSome_map, List.find?_isSome]
  simp only [List.mem_reverse, decide_eq_true_eq]

/-- The paths of the files are those that files were added for, part by part. -/
theorem exists_file_iff {P : List Path.Part → Prop} :
    (∃ f ∈ (ofAdded added).files, P f.1.parts) ↔ ∃ f ∈ added, P f.1.parts := by
  constructor
  · rintro ⟨f, hf, hP⟩
    obtain ⟨g, hg, hparts⟩ := isFile_ofAdded_iff.mp (isFile_iff.mpr ⟨f, hf, rfl⟩)
    exact ⟨g, hg, hparts ▸ hP⟩
  · rintro ⟨f, hf, hP⟩
    obtain ⟨g, hg, hparts⟩ := isFile_iff.mp (isFile_ofAdded_iff.mpr ⟨f, hf, rfl⟩)
    exact ⟨g, hg, hparts ▸ hP⟩

theorem isDirectory_iff :
    t.isDirectory p = true ↔ t.isFile p = false ∧ ∃ f ∈ t.files, p.parts <+: f.1.parts := by
  rw [isDirectory, Bool.and_eq_true, Bool.not_eq_true', List.any_eq_true]
  simp only [Path.isBelow_iff]

theorem isDirectory_eq_not_isFile (h : ∃ f ∈ t.files, p.parts <+: f.1.parts) :
    t.isDirectory p = !t.isFile p := by
  cases hfile : t.isFile p with
  | true =>
    refine Bool.eq_false_iff.mpr fun hdirectory => ?_
    rw [isDirectory_iff, hfile] at hdirectory
    exact nomatch hdirectory.1
  | false => exact isDirectory_iff.mpr ⟨hfile, h⟩

theorem readText_eq_ok_iff : t.readText p = .ok content ↔ t.content? p = some content := by
  unfold readText
  cases t.content? p <;> simp

/-! ### Neighbours -/

section Neighbours

open AutomationConfig.Path (Part)

theorem mem_withoutRepeats {a : Part} : ∀ {l : List Part}, a ∈ withoutRepeats l ↔ a ∈ l
  | [] => Iff.rfl
  | [_] => Iff.rfl
  | b :: c :: rest => by
    have ih : a ∈ withoutRepeats (c :: rest) ↔ a ∈ c :: rest := mem_withoutRepeats
    rw [withoutRepeats]
    split_ifs with hbc
    · rw [ih, hbc]
      simp
    · rw [List.mem_cons, ih, ← List.mem_cons]

/-- Where parts never decrease, what is the same stands together, so no part is left twice. -/
theorem pairwise_withoutRepeats : ∀ {l : List Part},
    (l.Pairwise fun a b => a = b ∨ a.before b = true) →
      (withoutRepeats l).Pairwise fun a b => a.before b = true
  | [], _ => List.Pairwise.nil
  | [a], _ => List.pairwise_singleton _ a
  | a :: b :: rest, h => by
    obtain ⟨ha, hrest⟩ := List.pairwise_cons.mp h
    have ih := pairwise_withoutRepeats hrest
    rw [withoutRepeats]
    split_ifs with hab
    · exact ih
    · have hless : a.before b = true := (ha b List.mem_cons_self).resolve_left hab
      refine List.pairwise_cons.mpr ⟨fun c hc => ?_, ih⟩
      have hc : c ∈ b :: rest := mem_withoutRepeats.mp hc
      rcases List.mem_cons.mp hc with rfl | hc
      · exact hless
      · rcases (List.pairwise_cons.mp hrest).1 c hc with rfl | hbc
        · exact hless
        · exact Part.before_trans hless hbc

end Neighbours

/-! ### Listings -/

theorem nextPart?_eq_some_iff {c : Path.Part} :
    nextPart? d p = some c ↔ d.parts ++ [c] <+: p.parts := by
  unfold nextPart?
  split_ifs with hbelow
  · obtain ⟨rest, hrest⟩ := Path.isBelow_iff.mp hbelow
    rw [← hrest, List.prefix_append_right_inj, List.getElem?_append_right (Nat.le_refl _),
      Nat.sub_self]
    cases rest <;> simp [List.cons_prefix_cons, eq_comm]
  · refine iff_of_false nofun fun hprefix => hbelow (Path.isBelow_iff.mpr ?_)
    exact (List.prefix_append _ _).trans hprefix

theorem mem_children {c : Path.Part} :
    c ∈ t.children d ↔ ∃ f ∈ t.files, d.parts ++ [c] <+: f.1.parts := by
  rw [children, mem_withoutRepeats, List.mem_filterMap]
  simp only [nextPart?_eq_some_iff]

/-- Below one directory the next parts of files in order never decrease. -/
theorem pairwise_children (t : FileTree) (d : Path) :
    (t.children d).Pairwise fun a b => a.before b = true := by
  refine pairwise_withoutRepeats (List.pairwise_filterMap.mpr (t.ordered.imp ?_))
  intro f g hfg a ha b hb
  obtain ⟨as, has⟩ := nextPart?_eq_some_iff.mp ha
  obtain ⟨bs, hbs⟩ := nextPart?_eq_some_iff.mp hb
  rw [← has, ← hbs, List.append_assoc, List.append_assoc, List.singleton_append,
    List.singleton_append] at hfg
  exact Path.before_of_partsBefore hfg

/-- **The listing of a directory** after files have been added: the parts that follow it in the
path of some file, in increasing order. Joined with the directory, each of them is one further
part of its path. -/
structure IsListing (added : List (Path × String)) (d : Path) (parts : List Path.Part) : Prop where
  ascending : parts.Pairwise fun a b => a.before b = true
  mem_iff : ∀ c, c ∈ parts ↔ (d.join c.text).parts = d.parts ++ [c] ∧
    ∃ f, f ∈ added ∧ f.1.isBelow (d.join c.text) = true

theorem parts_join_of_mem_children {c : Path.Part} (h : c ∈ t.children d) :
    (d.join c.text).parts = d.parts ++ [c] := by
  obtain ⟨f, -, hprefix⟩ := mem_children.mp h
  exact Path.parts_join_of_prefix hprefix

theorem isListing_children (added : List (Path × String)) (d : Path) :
    IsListing added d ((ofAdded added).children d) where
  ascending := pairwise_children _ d
  mem_iff := fun c => by
    have hchild : c ∈ (ofAdded added).children d ↔
        ∃ f ∈ added, d.parts ++ [c] <+: f.1.parts := by
      rw [mem_children]
      exact exists_file_iff
    constructor
    · intro hc
      have hparts := parts_join_of_mem_children hc
      obtain ⟨f, hf, hprefix⟩ := hchild.mp hc
      exact ⟨hparts, f, hf, Path.isBelow_iff.mpr (hparts ▸ hprefix)⟩
    · rintro ⟨hparts, f, hf, hbelow⟩
      exact hchild.mpr ⟨f, hf, hparts ▸ Path.isBelow_iff.mp hbelow⟩

/-- The paths of a listing differ in their last parts. -/
theorem nodup_map_join {parts : List Path.Part} (h : IsListing added d parts) :
    (parts.map fun c => (d.join c.text).parts).Nodup := by
  refine List.pairwise_map.mpr (h.ascending.imp_of_mem fun {a b} ha hb hab heq => ?_)
  rw [((h.mem_iff a).mp ha).1, ((h.mem_iff b).mp hb).1] at heq
  obtain rfl : a = b := by simpa using heq
  rw [Path.Part.before_irrefl] at hab
  exact nomatch hab

/-- What a directory lists is there: a file or a directory. -/
theorem isDirectory_join_of_mem_children {c : Path.Part} (h : c ∈ t.children d) :
    t.isDirectory (d.join c.text) = !t.isFile (d.join c.text) := by
  obtain ⟨f, hf, hprefix⟩ := mem_children.mp h
  exact isDirectory_eq_not_isFile ⟨f, hf, (parts_join_of_mem_children h) ▸ hprefix⟩

/-- **A file tree is a tree**, whatever files are added and in whatever order. Every directory can
be listed, and its listing has the parts that follow it in the paths of files, joined with it, each
once and in order; each entry is a file or a directory, and not both. No path is both, and what is
read at a path is what was added for it last, which is there for files and only for them. -/
theorem ofAdded_isTree (added : List (Path × String)) :
    (∀ d, (ofAdded added).isDirectory d = true → ∃ parts,
      (ofAdded added).entries d = .ok (parts.map fun c => d.join c.text) ∧
        IsListing added d parts ∧ (parts.map fun c => (d.join c.text).parts).Nodup ∧
        ∀ c, c ∈ parts →
          (ofAdded added).isDirectory (d.join c.text) = !(ofAdded added).isFile (d.join c.text)) ∧
    (∀ p, ¬ ((ofAdded added).isFile p = true ∧ (ofAdded added).isDirectory p = true)) ∧
    (∀ p content, (ofAdded added).readText p = .ok content ↔ LastAdded added p content) ∧
    ∀ p, (∃ content, (ofAdded added).readText p = .ok content) ↔
      (ofAdded added).isFile p = true := by
  refine ⟨fun d hd => ?listing, fun p => ?apart, fun p content => ?content, fun p => ?readable⟩
  case listing =>
    have hentries : (ofAdded added).entries d =
        .ok (((ofAdded added).children d).map fun c => d.join c.text) := if_pos hd
    have hlisting := isListing_children added d
    exact ⟨_, hentries, hlisting, nodup_map_join hlisting,
      fun c hc => isDirectory_join_of_mem_children hc⟩
  case apart =>
    rintro ⟨hfile, hdirectory⟩
    rw [isDirectory_iff, hfile] at hdirectory
    exact nomatch hdirectory.1
  case content => rw [readText_eq_ok_iff, content?_ofAdded_eq_some_iff]
  case readable =>
    simp only [readText_eq_ok_iff]
    exact Option.isSome_iff_exists.symm

/-- Files in a nested directory whose path is written in several ways, and a file that is added
twice. -/
def nestedFiles : List (Path × String) :=
  [(⟨"conf/nested/b.toml"⟩, "b = 2"), (⟨"conf/a.toml"⟩, "a = 1"), (⟨"conf/./nested//c.json"⟩, "{}"),
    (⟨"conf//a.toml"⟩, "a = 3")]

/-- The directory lists the file and the nested directory, and the file holds what was added
last. -/
theorem ofAdded_isTree_nested :
    (ofAdded nestedFiles).entries ⟨"conf/"⟩ = .ok [⟨"conf/a.toml"⟩, ⟨"conf/nested"⟩] ∧
      (∃ parts, (ofAdded nestedFiles).entries ⟨"conf/"⟩ =
          .ok (parts.map fun c => Path.join ⟨"conf/"⟩ c.text) ∧
        IsListing nestedFiles ⟨"conf/"⟩ parts) ∧
      LastAdded nestedFiles ⟨"conf/a.toml"⟩ "a = 3" := by
  obtain ⟨hlisting, -, hcontent, -⟩ := ofAdded_isTree nestedFiles
  obtain ⟨parts, hentries, hparts, -⟩ := hlisting ⟨"conf/"⟩ (by decide +kernel)
  refine ⟨by decide +kernel, ⟨parts, hentries, hparts⟩, (hcontent _ _).mp ?_⟩
  decide +kernel

end FileTree

end AutomationConfig
