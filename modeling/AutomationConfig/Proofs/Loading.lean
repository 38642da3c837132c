import AutomationConfig.Loading
import AutomationConfig.Proofs.Merging

/-! # Loading in parts

Loading goes through paths and, for each of them, through the fragments that it stands for, and puts
every fragment behind what has been merged so far. Since merging may be grouped, what a part of the
paths gives does not depend on what has been merged before it: it is merged behind that as a whole
(`Storage.mergeFragments_eq`, `Storage.mergePaths_eq`). A file is loaded as its fragment
(`Storage.buildConfig_of_isFile`), and loading composes, with its failures
(`Storage.buildConfig_composes`). -/

namespace AutomationConfig.Storage

variable (s : Storage)

/-! ### Fragments behind a configuration -/

theorem mergeFragments_eq (config : Config) (paths : List Path) :
    s.mergeFragments config paths = config.merge <$> s.mergeFragments {} paths := by
  induction paths generalizing config with
  | nil => exact congrArg Except.ok config.merge_empty.symm
  | cons path rest ih =>
    rw [mergeFragments, mergeFragments, map_bind]
    refine bind_congr fun fragment => ?_
    rw [ih (config.merge fragment), ih (({} : Config).merge fragment), Config.empty_merge,
      Functor.map_map]
    exact congrArg (· <$> _) (funext fun merged => Config.merge_assoc config fragment merged)

theorem mergePaths_eq (config : Config) (paths : List Path) :
    s.mergePaths config paths = config.merge <$> s.mergePaths {} paths := by
  induction paths generalizing config with
  | nil => exact congrArg Except.ok config.merge_empty.symm
  | cons path rest ih =>
    rw [mergePaths, mergePaths, map_bind]
    refine bind_congr fun fragments => ?_
    rw [mergeFragments_eq, bind_map_left, map_bind]
    refine bind_congr fun merged => ?_
    rw [ih (config.merge merged), ih merged, Functor.map_map]
    exact congrArg (· <$> _) (funext fun last => Config.merge_assoc config merged last)

theorem mergePaths_append (config : Config) (ps qs : List Path) :
    s.mergePaths config (ps ++ qs) =
      s.mergePaths config ps >>= fun merged => s.mergePaths merged qs := by
  induction ps generalizing config with
  | nil => rfl
  | cons path rest ih =>
    rw [List.cons_append, mergePaths, mergePaths, bind_assoc]
    refine bind_congr fun fragments => ?_
    rw [bind_assoc]
    exact bind_congr fun merged => ih merged

/-- The paths in front are loaded first, and what the others give is merged behind them. -/
theorem buildConfig_append (ps qs : List Path) :
    s.buildConfig (ps ++ qs) =
      s.buildConfig ps >>= fun a => a.merge <$> s.buildConfig qs := by
  rw [buildConfig, mergePaths_append]
  exact bind_congr fun a => s.mergePaths_eq a qs

/-! ### Directories -/

theorem fragmentPaths_of_isFile {path : Path} (h : s.isFile path = true) :
    s.fragmentPaths path = .ok [path] := by
  rw [fragmentPaths, if_pos h]

/-- The fragments that a path stands for are files. -/
theorem isFile_of_mem_fragmentPaths {path file : Path} {files : List Path}
    (h : s.fragmentPaths path = .ok files) (hfile : file ∈ files) : s.isFile file = true := by
  unfold fragmentPaths at h
  split at h
  next hpath =>
    obtain rfl : [path] = files := Except.ok.inj h
    rwa [List.mem_singleton.mp hfile]
  next =>
    split at h
    next =>
      cases hentries : s.entries path with
      | error e =>
        rw [hentries] at h
        exact absurd h nofun
      | ok entries =>
        rw [hentries] at h
        obtain rfl : (entries.filter s.isFragment).mergeSort byFileName = files := Except.ok.inj h
        have hfragment : s.isFragment file = true :=
          (List.mem_filter.mp (List.mem_mergeSort.mp hfile)).2
        exact (Bool.and_eq_true_iff.mp hfragment).1
    next => exact absurd h nofun

/-- A file stands for itself, so the paths of files are the fragments. -/
theorem mergePaths_of_isFile {files : List Path} (config : Config)
    (h : ∀ file ∈ files, s.isFile file = true) :
    s.mergePaths config files = s.mergeFragments config files := by
  induction files generalizing config with
  | nil => rfl
  | cons file rest ih =>
    obtain ⟨hfile, hrest⟩ := List.forall_mem_cons.mp h
    rw [mergePaths, s.fragmentPaths_of_isFile hfile, mergeFragments]
    refine (bind_assoc (s.loadFragment file) _ _).trans ?_
    exact bind_congr fun fragment => ih (config.merge fragment) hrest

/-- **A file is loaded as its fragment.** -/
theorem buildConfig_of_isFile {path : Path} (h : s.isFile path = true) :
    s.buildConfig [path] = s.loadFragment path := by
  have hfiles : ∀ file ∈ [path], s.isFile file = true := List.forall_mem_singleton.mpr h
  rw [buildConfig, s.mergePaths_of_isFile {} hfiles, mergeFragments]
  cases s.loadFragment path with
  | error e => rfl
  | ok fragment => exact congrArg Except.ok (Config.empty_merge fragment)

/-- A path that stands for fragments is loaded as these fragments, and one that stands for none
fails. -/
theorem buildConfig_singleton (path : Path) :
    s.buildConfig [path] = s.fragmentPaths path >>= s.buildConfig := by
  cases h : s.fragmentPaths path with
  | error e =>
    rw [buildConfig, mergePaths, h]
    rfl
  | ok files =>
    have hfiles : s.buildConfig files = s.mergeFragments {} files :=
      s.mergePaths_of_isFile {} fun file hfile => s.isFile_of_mem_fragmentPaths h hfile
    rw [buildConfig, mergePaths, h]
    exact (bind_pure _).trans hfiles.symm

/-- **Loading composes.** Of two lists of paths the first failure counts, and if there is none, the
second configuration is merged behind the first one. A path, such as that of a directory, gives what
the fragments that it stands for give. -/
theorem buildConfig_composes :
    (∀ ps qs, s.buildConfig (ps ++ qs) =
      match s.buildConfig ps, s.buildConfig qs with
      | .ok a, .ok b => .ok (a.merge b)
      | .ok _, .error e => .error e
      | .error e, _ => .error e) ∧
    ∀ path, s.buildConfig [path] = s.fragmentPaths path >>= s.buildConfig := by
  refine ⟨fun ps qs => ?_, s.buildConfig_singleton⟩
  rw [buildConfig_append]
  cases s.buildConfig ps with
  | error e => rfl
  | ok a => cases s.buildConfig qs <;> rfl

end AutomationConfig.Storage
