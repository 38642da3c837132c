import AutomationConfig.Storage

/-! # File trees

A file tree is given by its files. Its directories are what lies above them, so there are no empty
ones. Files are kept in the order of their paths, part by part. -/

namespace AutomationConfig

/-- Puts a file in its place, or its content in place of that of a file at the same path. -/
def insertFile (path : Path) (content : String) : List (Path × String) → List (Path × String)
  | [] => [(path, content)]
  | (p, text) :: rest =>
    if p.parts = path.parts then (p, content) :: rest
    else if Path.partsBefore path.parts p.parts then (path, content) :: (p, text) :: rest
    else (p, text) :: insertFile path content rest

/-- Files in increasing order of their paths. -/
abbrev OrderedFiles (files : List (Path × String)) : Prop :=
  files.Pairwise fun f g => Path.partsBefore f.1.parts g.1.parts = true

theorem parts_mem_insertFile {path : Path} {content : String} {f : Path × String} :
    ∀ {files : List (Path × String)}, f ∈ insertFile path content files →
      f.1.parts = path.parts ∨ ∃ g ∈ files, g.1.parts = f.1.parts
  | [], h => by simp_all [insertFile]
  | (p, text) :: rest, h => by
    unfold insertFile at h
    split at h
    · rcases List.mem_cons.mp h with rfl | h
      · exact Or.inr ⟨_, List.mem_cons_self, rfl⟩
      · exact Or.inr ⟨f, List.mem_cons_of_mem _ h, rfl⟩
    · split at h
      · rcases List.mem_cons.mp h with rfl | h
        · exact Or.inl rfl
        · exact Or.inr ⟨f, h, rfl⟩
      · rcases List.mem_cons.mp h with rfl | h
        · exact Or.inr ⟨_, List.mem_cons_self, rfl⟩
        · rcases parts_mem_insertFile h with h | ⟨g, hg, h⟩
          · exact Or.inl h
          · exact Or.inr ⟨g, List.mem_cons_of_mem _ hg, h⟩

theorem OrderedFiles.insertFile {path : Path} {content : String} :
    ∀ {files : List (Path × String)}, OrderedFiles files →
      OrderedFiles (insertFile path content files)
  | [], _ => by simp [AutomationConfig.insertFile]
  | (p, text) :: rest, h => by
    obtain ⟨hp, hrest⟩ := List.pairwise_cons.mp h
    unfold AutomationConfig.insertFile
    split
    · exact List.pairwise_cons.mpr ⟨hp, hrest⟩
    next hne =>
      split
      next hlt =>
        refine List.pairwise_cons.mpr ⟨fun g hg => ?_, h⟩
        rcases List.mem_cons.mp hg with rfl | hg
        · exact hlt
        · exact Path.partsBefore_trans hlt (hp g hg)
      next hge =>
        refine List.pairwise_cons.mpr ⟨fun g hg => ?_, OrderedFiles.insertFile hrest⟩
        rcases parts_mem_insertFile hg with hg | ⟨f, hf, hg⟩
        · rw [hg]
          exact ((Path.eq_or_partsBefore p.parts path.parts).resolve_left hne).resolve_right hge
        · rw [← hg]
          exact hp f hf

/-- Files by their paths, in order and with no path twice. -/
structure FileTree where
  files : List (Path × String) := []
  ordered : OrderedFiles files := by exact List.Pairwise.nil

namespace FileTree

/-- The tree without files. -/
def empty : FileTree := {}

instance : Inhabited FileTree := ⟨empty⟩

/-- The tree with a file at the path. -/
def addFile (t : FileTree) (path : Path) (content : String) : FileTree :=
  ⟨insertFile path content t.files, t.ordered.insertFile⟩

/-- The content of the file at the path. -/
def content? (t : FileTree) (path : Path) : Option String :=
  (t.files.find? fun f => f.1.parts = path.parts).map (·.2)

/-- Whether there is a file at the path. -/
def isFile (t : FileTree) (path : Path) : Bool := (t.content? path).isSome

/-- Whether there is a directory at the path: some file lies below it. -/
def isDirectory (t : FileTree) (path : Path) : Bool :=
  !t.isFile path && t.files.any fun f => f.1.isBelow path

/-- The first part of a path behind that of a directory above it. -/
def nextPart? (directory path : Path) : Option Path.Part :=
  if path.isBelow directory then path.parts[directory.parts.length]? else none

/-- The list without items that are the same as the one before them. -/
def withoutRepeats {α : Type} [DecidableEq α] : List α → List α
  | a :: b :: rest => if a = b then withoutRepeats (b :: rest) else a :: withoutRepeats (b :: rest)
  | as => as

/-- The parts behind a directory, in order. -/
def children (t : FileTree) (directory : Path) : List Path.Part :=
  withoutRepeats (t.files.filterMap fun f => nextPart? directory f.1)

/-- The paths of what a directory holds. -/
def entries (t : FileTree) (path : Path) : Except StorageError (List Path) :=
  if t.isDirectory path then .ok ((t.children path).map fun part => path.join part.text)
  else .error (.notDirectory path)

/-- The content of a file. -/
def readText (t : FileTree) (path : Path) : Except StorageError String :=
  match t.content? path with
  | some content => .ok content
  | none => .error (if t.isDirectory path then .isDirectory path else .fileNotFound path)

/-- The tree as a storage. -/
def toStorage (t : FileTree) : Storage where
  isFile := t.isFile
  isDirectory := t.isDirectory
  entries := t.entries
  readText := t.readText

end FileTree

end AutomationConfig
