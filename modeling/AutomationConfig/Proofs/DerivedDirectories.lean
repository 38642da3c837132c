import AutomationConfig.Proofs.PathParts
import AutomationConfig.Proofs.Stability

/-! # Working directories that are derived

A task that is given no working directory works in one below that of the program, under its own
name. Defaults are filled in before the name is checked, and a name that is absolute, a dot or two
dots would lead elsewhere. In a configuration that is accepted it does not
(`Config.working_dirs_derived`): whatever the working directory of the program is, what is derived
from it lies right below it (`Path.IsChild`), and no two tasks are given one directory.

The name of a valid task is a part of a path by itself (`Path.IsPlain`), so that joining it adds
that part and keeps the others (`Path.IsPlain.isChild`). -/

namespace AutomationConfig

/-! ### Plain names -/

namespace Path

/-- **A text that is one part of a path by itself**: it is not empty, holds no slash and is neither
a dot nor two dots. -/
structure IsPlain (name : String) : Prop where
  nonempty : name ≠ ""
  slashless : '/' ∉ name.toList
  notCurrent : name ≠ "."
  notParent : name ≠ ".."

variable {root : Path} {name : String}

theorem IsPlain.standsFor (h : IsPlain name) : StandsFor name (.name name) where
  slashless := h.slashless
  part := by
    have hempty : name.toList ≠ [] := by simpa using h.nonempty
    have hcurrent : name.toList ≠ ['.'] := fun heq =>
      h.notCurrent (String.toList_injective heq)
    have hparent : name.toList ≠ ['.', '.'] := fun heq => h.notParent (String.toList_injective heq)
    simp [partOf?, hempty, hcurrent, hparent]

/-- **A path right below another one**: the other one joined with a plain name, which lies below it,
has that name as its only further part, and is absolute only if the other one is. -/
structure IsChild (root : Path) (name : String) (p : Path) : Prop where
  joined : p = root.join name
  plain : IsPlain name
  parts : p.parts = root.parts ++ [.name name]
  below : p.isBelow root = true
  isAbsolute : p.isAbsolute = root.isAbsolute

theorem IsPlain.isChild (h : IsPlain name) (root : Path) : IsChild root name (root.join name) where
  joined := rfl
  plain := h
  parts := parts_join h.standsFor root
  below := by
    rw [isBelow, parts_join h.standsFor, List.isPrefixOf_iff_prefix]
    exact List.prefix_append _ _
  isAbsolute := isAbsolute_join h.standsFor root

theorem IsChild.name_eq_of_parts_eq {name' : String} {p q : Path} (hp : IsChild root name p)
    (hq : IsChild root name' q) (h : p.parts = q.parts) : name = name' := by
  rw [hp.parts, hq.parts] at h
  simpa using h

end Path

/-! ### The directories of tasks -/

namespace Task

/-- The name of a valid task is a part of a path by itself. -/
theorem IsIdentifier.isPlain {s : String} (h : IsIdentifier s) : Path.IsPlain s := by
  obtain ⟨c, hc, hstart⟩ := h.start
  have hfirst : isNameChar c = true :=
    isNameChar_iff.mpr (hstart.imp_right fun hunderscore => .inr (.inl hunderscore))
  have hchars : ∀ d ∈ s.toList, isNameChar d = true := by
    intro d hd
    rw [List.eq_cons_of_mem_head? hc] at hd
    rcases List.mem_cons.mp hd with rfl | hd
    · exact hfirst
    · exact isNameChar_iff.mpr (h.rest d hd)
  have hdotless : '.' ∉ s.toList := fun hdot => nomatch hchars _ hdot
  exact {
    nonempty := by
      rintro rfl
      exact nomatch hc
    slashless := fun hslash => nomatch hchars _ hslash
    notCurrent := fun heq => hdotless (heq ▸ by decide)
    notParent := fun heq => hdotless (heq ▸ by decide) }

theorem name_finalize (t : Task) (global : BufferPeriod) (root : String) :
    (t.finalize global root).name.value = t.name.value := rfl

theorem workingDir_finalize {t : Task} (h : t.workingDir = none) (global : BufferPeriod)
    (root : String) :
    (t.finalize global root).workingDir = some ((Path.mk root).join t.name.value).text := by
  rw [finalize, h]
  rfl

end Task

namespace Config

variable {c : Config} {processors : UInt64}

/-- **A directory derived in a place**: the task there has that name and works in that directory,
which lies right below the root, under the name. -/
structure DerivedAt (c : Config) (root : String) (i : Nat) (name dir : String) : Prop where
  task : ∃ t, c.tasks[i]? = some t ∧ t.name.value = name ∧ t.workingDir = some dir
  child : Path.IsChild ⟨root⟩ name ⟨dir⟩

/-- The task that validation leaves in a place, where one had its defaults filled in. -/
theorem validated_task (c : Config) (processors : UInt64) {i : Nat} {t : Task}
    (ht : c.tasks[i]? = some t) :
    ∃ u, (c.finalize processors).validate.value.tasks[i]? = some u ∧
      u.fixed = (t.finalize c.finalBufferPeriod c.finalWorkingDir).fixed := by
  have hfixed : (c.finalize processors).validate.value.tasks.map Task.fixed =
      (c.finalize processors).tasks.map Task.fixed := by
    rw [← List.forall₂_eq_eq_eq, List.forall₂_map_left_iff, List.forall₂_map_right_iff]
    exact (settles_validate (c.finalize processors)).tasks.flip.imp fun _ _ h => h.rest
  have hplace := congrArg (·[i]?) hfixed
  simp only [List.getElem?_map, finalize, ht, Option.map_some, Option.map_eq_some_iff] at hplace
  exact hplace

/-- The names of tasks that pass validation are identifiers. -/
theorem isIdentifier_of_mem (h : (c.finalize processors).validate.outcome = .ok ()) {t : Task}
    (ht : t ∈ c.tasks) : Task.IsIdentifier t.name.value := by
  obtain ⟨-, htasks, -⟩ := outcome_validate_eq_ok.mp h
  have hvalid := htasks _ (List.mem_map_of_mem ht)
  have hname := Task.checkName_eq_ok.mp (Task.outcome_validate_eq_ok.mp hvalid).1
  rwa [Task.name_finalize] at hname

/-- The names of tasks that pass validation differ. -/
theorem nodup_names (h : (c.finalize processors).validate.outcome = .ok ()) :
    (c.tasks.map (·.name.value)).Nodup := by
  obtain ⟨-, -, htail⟩ := outcome_validate_eq_ok.mp h
  obtain ⟨-, -, -, -, hnames, -⟩ := checkTail_eq_ok.mp htail
  have hdistinct := checkTaskNames_eq_ok.mp hnames
  simpa only [finalize, List.map_map, Function.comp_def, Task.name_finalize] using hdistinct

/-- In a configuration that is accepted the directory of a task that was given none is derived. -/
theorem derivedAt_of_unset (h : (c.finalize processors).validate.outcome = .ok ()) {i : Nat}
    {t : Task} (ht : c.tasks[i]? = some t) (hunset : t.workingDir = none) :
    (c.finalize processors).validate.value.DerivedAt c.finalWorkingDir i t.name.value
      ((Path.mk c.finalWorkingDir).join t.name.value).text := by
  have hplain : Path.IsPlain t.name.value :=
    (isIdentifier_of_mem h (List.mem_of_getElem? ht)).isPlain
  obtain ⟨u, hu, hfixed⟩ := c.validated_task processors ht
  have hname : u.name.value = t.name.value := (congrArg (·.name.value) hfixed :)
  have hdir : u.workingDir = (t.finalize c.finalBufferPeriod c.finalWorkingDir).workingDir :=
    (congrArg Task.workingDir hfixed :)
  exact ⟨⟨u, hu, hname, hdir.trans (Task.workingDir_finalize hunset _ _)⟩, hplain.isChild _⟩

/-- **Working directories that are derived** lie right below that of the program, and each under a
part of its own. In a configuration that is accepted, whatever its working directory is, every task
that was given none works in that directory joined with its name and nothing else, and two such
tasks work in different ones. -/
theorem working_dirs_derived (h : (c.finalize processors).validate.outcome = .ok ()) :
    ∃ root, (c.finalize processors).validate.value.workingDir = some root ∧
      (∀ i t, c.tasks[i]? = some t → t.workingDir = none →
        ∃ dir, (c.finalize processors).validate.value.DerivedAt root i t.name.value dir) ∧
      ∀ i j t u, i ≠ j → c.tasks[i]? = some t → c.tasks[j]? = some u →
        t.workingDir = none → u.workingDir = none →
        ∃ dir dir', (c.finalize processors).validate.value.DerivedAt root i t.name.value dir ∧
          (c.finalize processors).validate.value.DerivedAt root j u.name.value dir' ∧
          (Path.mk dir).parts ≠ (Path.mk dir').parts := by
  have hroot : (c.finalize processors).validate.value.workingDir = some c.finalWorkingDir :=
    (congrArg Config.workingDir (settles_validate (c.finalize processors)).rest :)
  refine ⟨c.finalWorkingDir, hroot, fun i t ht hunset => ⟨_, derivedAt_of_unset h ht hunset⟩, ?_⟩
  intro i j t u hne ht hu htunset huunset
  have htdir := derivedAt_of_unset h ht htunset
  have hudir := derivedAt_of_unset h hu huunset
  refine ⟨_, _, htdir, hudir, fun hparts => hne ?_⟩
  -- directories with the same parts belong to tasks of one name, which stand in one place
  have hnames : t.name.value = u.name.value := htdir.child.name_eq_of_parts_eq hudir.child hparts
  have hi : i < (c.tasks.map (·.name.value)).length := by
    rw [List.length_map]
    exact (List.getElem?_eq_some_iff.mp ht).1
  exact (List.getElem?_inj hi (nodup_names h)).mp (by simp [ht, hu, hnames])

/-- Two tasks that were given no directory, below one that is named with a slash at its end. -/
def belowSlash : Config where
  workingDir := some "/srv/tasks/"
  tasks := [
    { name := some "web", module := some "org/web", services := ["web"] },
    { name := some "_db-1", module := some "org/db", services := ["db"] }]

/-- They work in `/srv/tasks/web` and `/srv/tasks/_db-1`. -/
theorem working_dirs_derived_belowSlash :
    (belowSlash.finalize 4).validate.outcome = .ok () ∧
      (belowSlash.finalize 4).validate.value.DerivedAt "/srv/tasks/" 0 "web" "/srv/tasks/web" ∧
      (belowSlash.finalize 4).validate.value.DerivedAt "/srv/tasks/" 1 "_db-1"
        "/srv/tasks/_db-1" := by
  have hok : (belowSlash.finalize 4).validate.outcome = .ok () := rfl
  obtain ⟨root, hroot, -, hapart⟩ := working_dirs_derived hok
  obtain rfl : "/srv/tasks/" = root := Option.some.inj hroot
  obtain ⟨dir, dir', hdir, hdir', -⟩ := hapart 0 1 _ _ Nat.zero_ne_one rfl rfl rfl rfl
  obtain rfl : dir = "/srv/tasks/web" := congrArg Path.text hdir.child.joined
  obtain rfl : dir' = "/srv/tasks/_db-1" := congrArg Path.text hdir'.child.joined
  exact ⟨hok, hdir, hdir'⟩

end Config

end AutomationConfig
