import AutomationConfig.Proofs.ByteOrder
import AutomationConfig.Proofs.Loading
import AutomationConfig.Storage.Snapshot
import Mathlib.Data.List.Nodup
import Mathlib.Data.List.Pairwise
import Mathlib.Data.List.Perm.Basic
import Mathlib.Tactic.SplitIfs

/-! # Directories and their fragments

A directory stands for the files in it whose names end as those of fragments do, in the order of
their names, byte by byte (`Storage.FragmentsOf`). Where no two entries have the same name this
leaves nothing open: the fragments do not depend on the order in which the directory is listed, and
neither does the configuration (`Storage.fragmentPaths_exact`).

By the ending of its name a fragment is selected as one in TOML or in JSON (`Path.SelectedAs`), and
by its extension it is loaded as one (`Storage.LoadsAs`). The two agree on all names but one: the
name `.json` ends as names in JSON do, but a name that starts with its only dot has no extension
(`Storage.fragment_language`). -/

namespace AutomationConfig

/-! ### Languages -/

/-- A language that fragments are written in. -/
inductive Language where
  | toml
  | json
deriving DecidableEq

namespace Language

/-- The name of a language, which is the extension of its fragments. -/
def name : Language → String
  | toml => "toml"
  | json => "json"

/-- How the names of fragments in a language end. -/
def ending : Language → String
  | toml => ".toml"
  | json => ".json"

/-- The document that a text writes in a language. -/
def document? : Language → String → Option Document
  | toml => Document.ofToml?
  | json => Document.ofJson?

/-- What is wrong with a text that is not in a language. -/
def fault : Language → FragmentFault
  | toml => .tomlText
  | json => .jsonText

theorem ending_eq (language : Language) : language.ending = "." ++ language.name := by
  cases language <;> decide

theorem dot_notMem_name (language : Language) : '.' ∉ language.name.toList := by
  cases language <;> decide

end Language

/-- The path is selected as that of a fragment in a language: its name ends as such names do. -/
def Path.SelectedAs (p : Path) (language : Language) : Prop :=
  ∃ stem, p.fileName = some (stem ++ language.ending)

theorem isSuffixOf_toList_iff {ending name : String} :
    ending.toList.isSuffixOf name.toList = true ↔ ∃ stem, name = stem ++ ending := by
  rw [List.isSuffixOf_iff_suffix]
  constructor
  · rintro ⟨front, hfront⟩
    refine ⟨String.ofList front, String.toList_injective ?_⟩
    rw [String.toList_append, String.toList_ofList, hfront]
  · rintro ⟨stem, rfl⟩
    rw [String.toList_append]
    exact List.suffix_append _ _

theorem isFragmentName_iff {name : String} :
    isFragmentName name = true ↔ ∃ (language : Language) (stem : String),
      name = stem ++ language.ending := by
  rw [isFragmentName, Bool.or_eq_true, isSuffixOf_toList_iff, isSuffixOf_toList_iff]
  constructor
  · exact fun h => h.elim (fun h => ⟨.toml, h⟩) fun h => ⟨.json, h⟩
  · rintro ⟨language, h⟩
    cases language
    · exact .inl h
    · exact .inr h

theorem Language.getLast?_append_ending (stem : String) (language : Language) :
    (stem ++ language.ending).toList.getLast? = language.ending.toList.getLast? := by
  rw [String.toList_append, List.getLast?_append]
  cases language <;> rfl

/-- The endings differ in their last character, so no name is one of fragments in both languages. -/
theorem Path.SelectedAs.unique {p : Path} {a b : Language} (ha : p.SelectedAs a)
    (hb : p.SelectedAs b) : a = b := by
  obtain ⟨stem, hstem⟩ := ha
  obtain ⟨stem', hstem'⟩ := hb
  have hname : stem ++ a.ending = stem' ++ b.ending :=
    Option.some.inj (hstem.symm.trans hstem')
  have hlast : a.ending.toList.getLast? = b.ending.toList.getLast? := by
    rw [← Language.getLast?_append_ending stem a, hname, Language.getLast?_append_ending]
  revert hlast
  cases a <;> cases b <;> decide

/-! ### The order of names -/

namespace Path

/-- The name of one path comes before that of another, byte by byte. -/
def NamedBefore (a b : Path) : Prop :=
  ∃ x y, a.fileName = some x ∧ b.fileName = some y ∧ Text.bytes x < Text.bytes y

theorem namedBefore_asymm {a b : Path} (h : a.NamedBefore b) : ¬ b.NamedBefore a := by
  rintro ⟨y, x, hy, hx, hback⟩
  obtain ⟨x', y', hx', hy', hlt⟩ := h
  obtain rfl : x' = x := Option.some.inj (hx'.symm.trans hx)
  obtain rfl : y' = y := Option.some.inj (hy'.symm.trans hy)
  exact List.lt_asymm hlt hback

theorem namedBefore_irrefl (p : Path) : ¬ p.NamedBefore p := fun h => namedBefore_asymm h h

/-! ### Extensions -/

/-- A name with something in front of its last dot has what follows it as its extension; a name that
only starts with a dot has none. -/
theorem extension_eq {p : Path} {stem ext : String} (hname : p.fileName = some (stem ++ "." ++ ext))
    (hext : '.' ∉ ext.toList) : p.extension = if stem = "" then none else some ext := by
  have hbackwards : (stem ++ "." ++ ext).toList.reverse =
      ext.toList.reverse ++ '.' :: stem.toList.reverse := by
    simp [String.toList_append]
  have hplain : ∀ c ∈ ext.toList.reverse, (c != '.') = true := fun c hc =>
    bne_iff_ne.mpr fun hdot => hext (hdot ▸ List.mem_reverse.mp hc)
  have hdrop : (stem ++ "." ++ ext).toList.reverse.dropWhile (· != '.') =
      '.' :: stem.toList.reverse := by
    rw [hbackwards, List.dropWhile_append_of_pos hplain]
    rfl
  have htake : (stem ++ "." ++ ext).toList.reverse.takeWhile (· != '.') = ext.toList.reverse := by
    rw [hbackwards, List.takeWhile_append_of_pos hplain]
    simp
  unfold extension
  simp only [hname, hdrop, htake, Option.bind_eq_bind, Option.bind_some]
  split_ifs with hstem
  · rw [hstem]
    rfl
  · obtain ⟨c, rest, hrest⟩ : ∃ c rest, stem.toList.reverse = c :: rest :=
      List.exists_cons_of_ne_nil (by simpa using hstem)
    rw [hrest]
    simp

/-- A path that is selected as that of a fragment in a language is taken for one in JSON if that is
the language, unless its name is nothing but the ending. -/
theorem SelectedAs.isJson_iff {p : Path} {language : Language} (h : p.SelectedAs language) :
    p.isJson = true ↔ language = .json ∧ p.fileName ≠ some ".json" := by
  obtain ⟨stem, hname⟩ := h
  rw [language.ending_eq, ← String.append_assoc] at hname
  have hextension := extension_eq hname language.dot_notMem_name
  have hjson : Text.equalsIgnoringAsciiCase language.name "json" = true ↔ language = .json := by
    cases language <;> decide
  by_cases hstem : stem = ""
  · -- the name is the ending of the language
    rw [isJson, hextension, if_pos hstem, hname, hstem]
    cases language <;> decide
  · have hending : ".".length + language.name.length = ".json".length := by
      cases language <;> decide
    have hlength : (stem ++ "." ++ language.name).length = stem.length + ".json".length := by
      rw [String.length_append, String.length_append, Nat.add_assoc, hending]
    have hlonger : stem ++ "." ++ language.name ≠ ".json" := fun heq => by
      rw [heq] at hlength
      exact hstem (String.length_eq_zero_iff.mp (by omega))
    rw [isJson, hextension, if_neg hstem, hname]
    simpa [hlonger] using hjson

end Path

namespace Storage

variable {s : Storage}

theorem isFragment_iff {p : Path} : s.isFragment p = true ↔
    s.isFile p = true ∧ ∃ language, p.SelectedAs language := by
  rw [isFragment, Bool.and_eq_true]
  refine and_congr_right fun _ => ?_
  cases hname : p.fileName with
  | none => simp [Path.SelectedAs, hname]
  | some name => simp [Path.SelectedAs, hname, isFragmentName_iff]

/-! ### The fragments of a directory -/

/-- **The fragments of a directory**, given what it holds: the files in it whose names end as those
of fragments do, in increasing order of the bytes of their names, and so each once. -/
structure FragmentsOf (s : Storage) (entries files : List Path) : Prop where
  mem_iff : ∀ p, p ∈ files ↔ p ∈ entries ∧ s.isFile p = true ∧ ∃ language, p.SelectedAs language
  ascending : files.Pairwise Path.NamedBefore

theorem FragmentsOf.nodup {entries files : List Path} (h : s.FragmentsOf entries files) :
    files.Nodup := by
  refine List.Pairwise.imp ?_ h.ascending
  rintro a _ hbefore rfl
  exact Path.namedBefore_irrefl a hbefore

/-- What a directory holds determines its fragments, whatever the order in which it is listed. -/
theorem FragmentsOf.eq_of_perm {other : Storage} (hfile : other.isFile = s.isFile)
    {entries relisted files refiles : List Path} (hperm : relisted.Perm entries)
    (h : s.FragmentsOf entries files) (hother : other.FragmentsOf relisted refiles) :
    refiles = files := by
  have hmem : ∀ p, p ∈ refiles ↔ p ∈ files := fun p => by
    rw [h.mem_iff, hother.mem_iff, hperm.mem_iff, hfile]
  have hfiles : refiles.Perm files := (List.perm_ext_iff_of_nodup hother.nodup h.nodup).mpr hmem
  refine hfiles.eq_of_pairwise (fun a b _ _ hab hba => ?_) hother.ascending h.ascending
  exact absurd hba (Path.namedBefore_asymm hab)

theorem byFileName_trans (a b c : Path) (hab : byFileName a b = true)
    (hbc : byFileName b c = true) : byFileName a c = true := by
  simp only [byFileName, decide_eq_true_eq] at *
  exact hab.trans hbc

theorem byFileName_total (a b : Path) : (byFileName a b || byFileName b a) = true := by
  simp only [byFileName, Bool.or_eq_true, decide_eq_true_eq]
  exact le_total _ _

/-- Of two fragments with different names, the one that sorting puts first has the smaller name. -/
theorem namedBefore_of_byFileName {a b : Path} (ha : s.isFragment a = true)
    (hb : s.isFragment b = true) (hne : a.fileName ≠ b.fileName) (h : byFileName a b = true) :
    a.NamedBefore b := by
  obtain ⟨-, _, x, hx⟩ := isFragment_iff.mp ha
  obtain ⟨-, _, y, hy⟩ := isFragment_iff.mp hb
  simp only [byFileName, hx, hy, Option.getD_some, decide_eq_true_eq] at h
  refine ⟨_, _, hx, hy, Text.bytes_lt_iff.mpr (lt_of_le_of_ne h fun heq => hne ?_)⟩
  rw [hx, hy, heq]

theorem fragmentsOf_mergeSort {entries : List Path}
    (hnames : (entries.map Path.fileName).Nodup) :
    s.FragmentsOf entries ((entries.filter s.isFragment).mergeSort byFileName) where
  mem_iff := fun p => by
    rw [List.mem_mergeSort, List.mem_filter, isFragment_iff]
  ascending := by
    have hperm := List.mergeSort_perm (entries.filter s.isFragment) byFileName
    have hsorted := List.pairwise_mergeSort byFileName_trans byFileName_total
      (entries.filter s.isFragment)
    have hdistinct : (entries.filter s.isFragment).Pairwise
        fun a b => a.fileName ≠ b.fileName :=
      (List.pairwise_map.mp hnames).filter _
    have hapart := (hperm.pairwise_iff fun h => h.symm).mpr hdistinct
    have hfragment : ∀ p ∈ (entries.filter s.isFragment).mergeSort byFileName,
        s.isFragment p = true := fun p hp => (List.mem_filter.mp (hperm.mem_iff.mp hp)).2
    refine (hsorted.and hapart).imp_of_mem fun ha hb h => ?_
    exact namedBefore_of_byFileName (hfragment _ ha) (hfragment _ hb) h.2 h.1

/-- What is no file stands for fragments if it is a directory that can be listed: for those of its
entries that are fragments, sorted by their names. -/
theorem fragmentPaths_eq_ok_iff {d : Path} {files : List Path} (hfile : s.isFile d = false) :
    s.fragmentPaths d = .ok files ↔ s.isDirectory d = true ∧ ∃ entries,
      s.entries d = .ok entries ∧ (entries.filter s.isFragment).mergeSort byFileName = files := by
  rw [fragmentPaths, if_neg (Bool.eq_false_iff.mp hfile)]
  split
  next hdirectory =>
    rw [and_iff_right hdirectory]
    cases s.entries d with
    | error e => simp [Except.mapError, Functor.map, Except.map]
    | ok entries =>
      constructor
      · intro h
        exact ⟨entries, rfl, Except.ok.inj h⟩
      · rintro ⟨found, hfound, hsorted⟩
        obtain rfl := Except.ok.inj hfound
        exact congrArg Except.ok hsorted
  next hother => simp [hother]

/-! ### The order of a listing -/

/-- Another storage that has the same files and lists the directory in another order. -/
structure Relists (s : Storage) (d : Path) (other : Storage) : Prop where
  isFile : other.isFile = s.isFile
  isDirectory : other.isDirectory = s.isDirectory
  readText : other.readText = s.readText
  entries : ∀ entries, s.entries d = .ok entries →
    ∃ relisted, other.entries d = .ok relisted ∧ relisted.Perm entries

variable {other : Storage}

theorem loadFragment_congr (h : other.readText = s.readText) (p : Path) :
    other.loadFragment p = s.loadFragment p := by
  rw [loadFragment, loadFragment, h]

theorem mergeFragments_congr (h : other.readText = s.readText) (config : Config)
    (files : List Path) : other.mergeFragments config files = s.mergeFragments config files := by
  induction files generalizing config with
  | nil => rfl
  | cons p rest ih =>
    rw [mergeFragments, mergeFragments, loadFragment_congr h]
    exact bind_congr fun fragment => ih _

/-- What a path gives comes of the fragments that it stands for. -/
theorem buildConfig_of_fragmentPaths {p : Path} {files : List Path}
    (h : s.fragmentPaths p = .ok files) : s.buildConfig [p] = s.mergeFragments {} files := by
  rw [buildConfig_singleton, h]
  exact s.mergePaths_of_isFile {} fun file hfile => s.isFile_of_mem_fragmentPaths h hfile

/-- **Directories.** A directory in which no two entries have the same name stands for its
fragments, each once and in the order of their names, and neither they nor the configuration depend
on the order in which the directory is listed. A file stands for itself, and a path at which there
is neither fails. -/
theorem fragmentPaths_exact (s : Storage) :
    (∀ d entries, s.isFile d = false → s.isDirectory d = true → s.entries d = .ok entries →
      (entries.map Path.fileName).Nodup →
        ∃ files, s.fragmentPaths d = .ok files ∧ s.FragmentsOf entries files ∧
          ∀ other, s.Relists d other → other.fragmentPaths d = .ok files ∧
            other.buildConfig [d] = s.buildConfig [d]) ∧
    (∀ p, s.isFile p = true → s.fragmentPaths p = .ok [p]) ∧
    ∀ p, s.isFile p = false → s.isDirectory p = false →
      s.fragmentPaths p = .error (.missing p) ∧
        (Failure.missing p).report =
          "Decode error: " ++ (p.text ++ ": no such file or directory") := by
  refine ⟨fun d entries hfile hdirectory hentries hnames => ?directory,
    fun p => s.fragmentPaths_of_isFile, fun p hfile hdirectory => ⟨?neither, rfl⟩⟩
  case directory =>
    have hpaths := (fragmentPaths_eq_ok_iff hfile).mpr ⟨hdirectory, entries, hentries, rfl⟩
    refine ⟨_, hpaths, fragmentsOf_mergeSort hnames, fun other hother => ?_⟩
    obtain ⟨relisted, hrelisted, hperm⟩ := hother.entries entries hentries
    have hnames' : (relisted.map Path.fileName).Nodup := (hperm.map _).nodup_iff.mpr hnames
    have hpaths' : other.fragmentPaths d =
        .ok ((entries.filter s.isFragment).mergeSort byFileName) :=
      (fragmentPaths_eq_ok_iff (hother.isFile ▸ hfile)).mpr
        ⟨hother.isDirectory ▸ hdirectory, relisted, hrelisted,
          (fragmentsOf_mergeSort hnames).eq_of_perm hother.isFile hperm
            (fragmentsOf_mergeSort hnames')⟩
    refine ⟨hpaths', ?_⟩
    rw [buildConfig_of_fragmentPaths hpaths', buildConfig_of_fragmentPaths hpaths,
      mergeFragments_congr hother.readText]
  case neither =>
    rw [fragmentPaths, hfile, hdirectory]
    rfl

/-- The storage that lists every directory backwards. -/
def listedBackwards (s : Storage) : Storage :=
  { s with entries := fun d => List.reverse <$> s.entries d }

theorem relists_listedBackwards (s : Storage) (d : Path) : s.Relists d s.listedBackwards where
  isFile := rfl
  isDirectory := rfl
  readText := rfl
  entries := fun entries h => ⟨entries.reverse, congrArg (List.reverse <$> ·) h,
    List.reverse_perm entries⟩

/-- What a directory holds: three fragments, one of them without a name in front of its ending, and
a file that is none. -/
def confEntries : List Path :=
  [⟨"conf/b.toml"⟩, ⟨"conf/README.md"⟩, ⟨"conf/.json"⟩, ⟨"conf/a.json"⟩]

/-- The directory with its files. -/
def confDirectory : Storage :=
  Snapshot.toStorage {
    findings := [
      (⟨"conf"⟩, .directory (.ok confEntries)),
      (⟨"conf/b.toml"⟩, .file (.ok "port = 2".toUTF8)),
      (⟨"conf/README.md"⟩, .file (.ok "not a fragment".toUTF8)),
      (⟨"conf/.json"⟩, .file (.ok "\x7b\x7d".toUTF8)),
      (⟨"conf/a.json"⟩, .file (.ok "\x7b\"port\": 1\x7d".toUTF8))] }

theorem fragmentPaths_confDirectory : confDirectory.fragmentPaths ⟨"conf"⟩ =
    .ok [⟨"conf/.json"⟩, ⟨"conf/a.json"⟩, ⟨"conf/b.toml"⟩] := by
  have hfragments : confEntries.filter confDirectory.isFragment =
      [⟨"conf/b.toml"⟩, ⟨"conf/.json"⟩, ⟨"conf/a.json"⟩] := by decide
  have hbj : byFileName ⟨"conf/b.toml"⟩ ⟨"conf/.json"⟩ = false := by decide
  have hja : byFileName ⟨"conf/.json"⟩ ⟨"conf/a.json"⟩ = true := by decide
  have hba : byFileName ⟨"conf/b.toml"⟩ ⟨"conf/a.json"⟩ = false := by decide
  refine (fragmentPaths_eq_ok_iff (by decide)).mpr ⟨by decide, confEntries, rfl, ?_⟩
  rw [hfragments]
  simp [List.mergeSort, hbj, hja, hba]

/-- The directory stands for its fragments also where it is listed backwards, the file that is no
fragment stands for itself, and there is nothing elsewhere. -/
theorem fragmentPaths_exact_confDirectory :
    confDirectory.isFile ⟨"conf"⟩ = false ∧ confDirectory.isDirectory ⟨"conf"⟩ = true ∧
    confDirectory.entries ⟨"conf"⟩ = .ok confEntries ∧ (confEntries.map Path.fileName).Nodup ∧
    confDirectory.listedBackwards.fragmentPaths ⟨"conf"⟩ =
      .ok [⟨"conf/.json"⟩, ⟨"conf/a.json"⟩, ⟨"conf/b.toml"⟩] ∧
    confDirectory.fragmentPaths ⟨"conf/README.md"⟩ = .ok [⟨"conf/README.md"⟩] ∧
    confDirectory.fragmentPaths ⟨"other"⟩ = .error (.missing ⟨"other"⟩) := by
  obtain ⟨hdirectory, hfile, hneither⟩ := fragmentPaths_exact confDirectory
  have hnames : (confEntries.map Path.fileName).Nodup := by decide
  obtain ⟨files, hfiles, -, hrelisted⟩ :=
    hdirectory ⟨"conf"⟩ confEntries (by decide) (by decide) rfl hnames
  refine ⟨by decide, by decide, rfl, hnames, ?_, hfile _ (by decide),
    (hneither _ (by decide) (by decide)).1⟩
  rw [(hrelisted _ (relists_listedBackwards _ _)).1, ← hfiles, fragmentPaths_confDirectory]

/-! ### The language of a fragment -/

/-- **How a fragment in a language is loaded**: what its text writes in the language is read as a
configuration, and a text that is not in the language is refused for that. -/
def LoadsAs (s : Storage) (language : Language) (p : Path) : Prop :=
  ∀ text, s.readText p = .ok text → s.loadFragment p =
    match language.document? text with
    | some d => (read d).mapError fun cause => .fragment p (.schema cause)
    | none => .error (.fragment p language.fault)

theorem loadsAs_of_isJson_iff {language : Language} {p : Path}
    (h : p.isJson = true ↔ language = .json) : s.LoadsAs language p := by
  intro text htext
  have hload : s.loadFragment p = (documentOf p text).mapError (.fragment p) >>= fun document =>
      (read document).mapError fun cause => .fragment p (.schema cause) := by
    rw [loadFragment, htext]
    rfl
  rw [hload, documentOf]
  cases language with
  | toml =>
    rw [if_neg fun hjson => nomatch h.mp hjson]
    change _ = match Document.ofToml? text with | some d => _ | none => _
    cases Document.ofToml? text <;> rfl
  | json =>
    rw [if_pos (h.mpr rfl)]
    change _ = match Document.ofJson? text with | some d => _ | none => _
    cases Document.ofJson? text <;> rfl

/-- **The language of a fragment.** Each fragment of a directory is selected as one in exactly one
language and loaded as one in that language, unless its name is nothing but the ending for JSON: it
is loaded as TOML then. -/
theorem fragment_language {d p : Path} {files : List Path} (hd : s.isFile d = false)
    (hfiles : s.fragmentPaths d = .ok files) (hp : p ∈ files) :
    (∃! language, p.SelectedAs language) ∧
    (∀ language, p.SelectedAs language → p.fileName ≠ some ".json" → s.LoadsAs language p) ∧
    (p.fileName = some ".json" → s.LoadsAs .toml p) := by
  refine ⟨?selected, fun language hlanguage hname => ?named, fun hname => ?bare⟩
  case selected =>
    obtain ⟨-, entries, -, rfl⟩ := (fragmentPaths_eq_ok_iff hd).mp hfiles
    have hfragment : s.isFragment p = true := (List.mem_filter.mp (List.mem_mergeSort.mp hp)).2
    obtain ⟨-, language, hlanguage⟩ := isFragment_iff.mp hfragment
    exact ⟨language, hlanguage, fun _ hother => hother.unique hlanguage⟩
  case named =>
    exact loadsAs_of_isJson_iff (hlanguage.isJson_iff.trans (and_iff_left hname))
  case bare =>
    have hjson : p.SelectedAs .json := ⟨"", hname⟩
    refine loadsAs_of_isJson_iff (hjson.isJson_iff.trans ?_)
    simp [hname]

/-- Of the fragments of the directory, the two with names are loaded as what these say. -/
theorem fragment_language_confDirectory :
    confDirectory.isFile ⟨"conf"⟩ = false ∧
    confDirectory.LoadsAs .json ⟨"conf/a.json"⟩ ∧ confDirectory.LoadsAs .toml ⟨"conf/b.toml"⟩ := by
  have hd : confDirectory.isFile ⟨"conf"⟩ = false := by decide
  obtain ⟨-, hjson, -⟩ := fragment_language (p := ⟨"conf/a.json"⟩) hd fragmentPaths_confDirectory
    (by decide)
  obtain ⟨-, htoml, -⟩ := fragment_language (p := ⟨"conf/b.toml"⟩) hd fragmentPaths_confDirectory
    (by decide)
  exact ⟨hd, hjson .json ⟨"a", rfl⟩ (by decide), htoml .toml ⟨"b", rfl⟩ (by decide)⟩

/-- The third one is selected as one in JSON, and its text is in JSON, but it is refused for not
being TOML. -/
theorem fragment_language_bareEnding :
    ¬ ∀ (s : Storage) (d p : Path) (files : List Path) (language : Language),
      s.isFile d = false → s.fragmentPaths d = .ok files → p ∈ files → p.SelectedAs language →
        s.LoadsAs language p := by
  intro h
  have hjson := h confDirectory ⟨"conf"⟩ ⟨"conf/.json"⟩ _ .json (by decide)
    fragmentPaths_confDirectory (by decide) ⟨"", rfl⟩ "\x7b\x7d" rfl
  have htoml : confDirectory.LoadsAs .toml ⟨"conf/.json"⟩ := loadsAs_of_isJson_iff (by decide)
  have hisJson : Language.json.document? "\x7b\x7d" = some (.map []) := rfl
  have hnotToml : Language.toml.document? "\x7b\x7d" = none := rfl
  rw [htoml "\x7b\x7d" rfl, hisJson, hnotToml] at hjson
  cases hread : (read (.map []) : Except Mismatch Config) with
  | ok c => simp [hread, Except.mapError] at hjson
  | error cause => simp [hread, Except.mapError, Language.fault] at hjson

end Storage

end AutomationConfig
