import AutomationConfig.Proofs.Checking
import AutomationConfig.Task.Validation

/-! # Which tasks are valid

`Task.IsValid` says field by field what a task must be like. Validation accepts exactly the tasks
that are like that (`Task.validate_eq_ok_iff`), and no two monitors of such a task watch one type of
variables.

Validation settles monitors while it checks, but no check sees what an earlier one has settled. So
its outcome is the first violation of a list of checks on the task as it was given
(`Task.outcome_validate`), and each of these checks has a lemma that says when it passes. -/

namespace AutomationConfig

/-! ### Monitors and what they watch -/

@[simp] theorem Monitor.kind?_settle (m : Monitor) : m.settle.kind? = m.kind? := by
  cases m <;> rfl

theorem Monitor.kind?_eq_none_iff {m : Monitor} : m.kind? = .none ↔ m = .none := by
  cases m <;> simp [kind?]

theorem Monitor.isNone_iff {m : Monitor} : m.isNone = true ↔ m = .none := by
  rw [isNone, Option.isNone_iff_eq_none, kind?_eq_none_iff]

theorem Monitor.variableType_of_kind? {m : Monitor} {kind : MonitorKind}
    (h : m.kind? = some kind) : m.variableType = kind.name := by
  simp [variableType, h]

theorem BufferPeriod.check_eq_ok {b : BufferPeriod} :
    b.check = .ok () ↔ b.min.value ≤ b.max.value := by
  rw [check, require_eq_ok, decide_eq_true_eq]

namespace ModuleInputs

theorem watchersOf_settle (services : List String) (c : Condition) :
    watchersOf services { c with monitor := c.monitor.settle } = watchersOf services c := by
  simp [watchersOf]

/-- The inputs pass if each of them watches something, and nothing that an earlier one or one of the
watchers watches. -/
theorem checkWatchers_eq_ok {watchers : List Watcher} {inputs : List ModuleInput} :
    checkWatchers watchers inputs = .ok () ↔
      (∀ i ∈ inputs, i.monitor ≠ .none) ∧ (inputs.map (·.monitor.variableType)).Nodup ∧
        ∀ i ∈ inputs, i.monitor.variableType ∉ watchers.map (·.kind.name) := by
  induction inputs generalizing watchers with
  | nil => simp [checkWatchers]
  | cons i inputs ih =>
    rw [checkWatchers, List.forall_mem_cons, List.forall_mem_cons, List.map_cons, List.nodup_cons]
    cases hkind : i.monitor.kind? with
    | none => simp [Monitor.kind?_eq_none_iff.mp hkind]
    | some kind =>
      have hne : i.monitor ≠ .none := fun h => by simp [h, Monitor.kind?] at hkind
      have htype : i.monitor.variableType = kind.name := Monitor.variableType_of_kind? hkind
      have hfree : watchers.find? (fun w => w.kind = kind) = none ↔
          kind.name ∉ watchers.map (·.kind.name) := by
        simp only [List.find?_eq_none, decide_eq_true_eq, List.mem_map, not_exists, not_and]
        exact ⟨fun h w hw heq => h w hw (MonitorKind.name_inj heq),
          fun h w hw heq => h w hw (heq ▸ rfl)⟩
      simp only [htype]
      cases hfind : watchers.find? fun w => w.kind = kind with
      | some w =>
        have hclash : ¬ kind.name ∉ watchers.map (·.kind.name) := fun h => by
          simp [hfree.mpr h] at hfind
        simp only [reduceCtorEq, false_iff]
        exact fun h => hclash h.2.2.1
      | none =>
        simp only [ih, List.map_append, List.map_cons, List.map_nil, Watcher.kind, List.mem_append,
          List.mem_singleton, not_or, List.mem_map (f := fun j : ModuleInput => _), not_exists,
          not_and]
        constructor
        · rintro ⟨htyped, hnodup, hrest⟩
          exact ⟨⟨hne, htyped⟩, ⟨fun j hj => (hrest j hj).2, hnodup⟩, hfree.mp hfind,
            fun j hj => (hrest j hj).1⟩
        · rintro ⟨⟨-, htyped⟩, ⟨hnew, hnodup⟩, -, hrest⟩
          exact ⟨htyped, hnodup, fun j hj => ⟨hrest j hj, hnew j hj⟩⟩

theorem outcome_validate (services : List String) (c : Condition) (inputs : ModuleInputs) :
    (inputs.validate services c).outcome =
      firstViolation (checkWatchers (watchersOf services c) inputs.items ::
        inputs.items.map fun i => i.monitor.check) := by
  simp only [validate, Checked.outcome_andThen, Checked.outcome_map, Checked.outcome_keep,
    Checked.value_keep, Checked.outcome_each, firstViolation_cons]
  rfl

end ModuleInputs

namespace Task

/-! ### The checks in order -/

/-- The checks of a task behind that of its name, in order. -/
def bodyChecks (t : Task) : List (Except Violation Unit) :=
  [t.checkHead, t.condition.monitor.check,
    ModuleInputs.checkWatchers (ModuleInputs.watchersOf t.services t.condition)
      t.moduleInputs.items] ++
    t.moduleInputs.items.map (fun i => i.monitor.check) ++ [t.checkTail]

/-- The checks of a task, in order. What breaks a rule behind the name is said of the task. -/
def orderedChecks (t : Task) : List (Except Violation Unit) :=
  t.checkName :: t.bodyChecks.map (·.mapError (.inTask t.name.value))

theorem outcome_validateInputs (t : Task) :
    t.validateInputs.outcome =
      firstViolation (ModuleInputs.checkWatchers (ModuleInputs.watchersOf t.services t.condition)
        t.moduleInputs.items :: t.moduleInputs.items.map fun i => i.monitor.check) :=
  ModuleInputs.outcome_validate t.services t.condition t.moduleInputs

theorem outcome_validateBody (t : Task) :
    t.validateBody.outcome = firstViolation t.bodyChecks := by
  -- settling the condition changes no more than a pattern, which no later check looks at
  have hcondition :
      t.validateCondition.value.validateInputs.outcome = t.validateInputs.outcome := by
    rw [outcome_validateInputs, outcome_validateInputs]
    exact congrArg (fun ws => firstViolation (ModuleInputs.checkWatchers ws t.moduleInputs.items ::
      t.moduleInputs.items.map fun i => i.monitor.check))
      (ModuleInputs.watchersOf_settle t.services t.condition)
  have htail : t.validateCondition.value.validateInputs.value.checkTail = t.checkTail := rfl
  have hmonitor : t.validateCondition.outcome = t.condition.monitor.check := rfl
  rw [validateBody, Checked.andThen_assoc, Checked.andThen_assoc]
  simp only [Checked.outcome_andThen, Checked.outcome_keep, Checked.value_keep]
  rw [hcondition, htail, hmonitor, outcome_validateInputs]
  simp [bodyChecks]

/-- **The outcome of validation** is the first violation of the checks on the task as it was
given. -/
theorem outcome_validate (t : Task) : t.validate.outcome = firstViolation t.orderedChecks := by
  rw [validate, Checked.outcome_andThen, Checked.outcome_keep, Checked.value_keep,
    Checked.outcome_inTask, outcome_validateBody, orderedChecks, firstViolation_cons,
    firstViolation_map_mapError]

/-! ### What a task must be like -/

/-- A letter of ASCII. -/
def IsLetter (c : Char) : Prop := ('a' ≤ c ∧ c ≤ 'z') ∨ ('A' ≤ c ∧ c ≤ 'Z')

/-- A digit of ASCII. -/
def IsDigit (c : Char) : Prop := '0' ≤ c ∧ c ≤ '9'

/-- A text of letters, digits, underscores and dashes that starts with a letter or an underscore. -/
structure IsIdentifier (s : String) : Prop where
  start : ∃ c, s.toList.head? = some c ∧ (IsLetter c ∨ c = '_')
  rest : ∀ c ∈ s.toList.tail, IsLetter c ∨ IsDigit c ∨ c = '_' ∨ c = '-'

/-- The variable types that a task watches: that of its list of services, unless it is empty, that
of its condition, if there is one, and those of its inputs. -/
def watchedTypes (t : Task) : List String :=
  (if t.services = [] then [] else ["services"]) ++
    (if t.condition.monitor = .none then [] else [t.condition.monitor.variableType]) ++
    t.moduleInputs.items.map (·.monitor.variableType)

/-- The monitors of a task: that of its condition, if there is one, and those of its inputs. -/
def monitors (t : Task) : List Monitor :=
  (if t.condition.monitor = .none then [] else [t.condition.monitor]) ++
    t.moduleInputs.items.map (·.monitor)

/-- **What a task must be like** to pass validation. -/
structure IsValid (t : Task) : Prop where
  name : IsIdentifier t.name.value
  module : t.module.value ≠ ""
  /-- There is something to watch. -/
  trigger : t.services ≠ [] ∨ t.condition.monitor ≠ .none
  catalog : ∀ m, t.condition.monitor = .catalogServices m → m.pattern = none → t.services ≠ []
  schedule : ∀ m, t.condition.monitor = .schedule m →
    t.services ≠ [] ∨ t.moduleInputs.items ≠ []
  /-- No service is blank. -/
  services : ∀ s ∈ t.services, ∃ c ∈ s.toList, Text.isBlank c = false
  typed : ∀ i ∈ t.moduleInputs.items, i.monitor ≠ .none
  /-- No type of variables is watched twice. -/
  distinct : t.watchedTypes.Nodup
  condition : t.condition.monitor.validate.outcome = .ok ()
  inputs : ∀ i ∈ t.moduleInputs.items, i.monitor.validate.outcome = .ok ()
  providerNames : ∀ id ∈ t.providers, providerBaseName id ≠ ""
  providersDistinct : (t.providers.map providerBaseName).Nodup
  bufferPeriod : ∀ b, t.bufferPeriod = some b → b.min.value ≤ b.max.value

/-! ### Names -/

theorem isUpper_iff {c : Char} : c.isUpper = true ↔ 'A' ≤ c ∧ c ≤ 'Z' := decide_eq_true_iff

theorem isLower_iff {c : Char} : c.isLower = true ↔ 'a' ≤ c ∧ c ≤ 'z' := by
  have hbounds : c.isLower = (decide ('a' ≤ c) && decide (c ≤ 'z')) := rfl
  rw [hbounds, Bool.and_eq_true, decide_eq_true_iff, decide_eq_true_iff]

theorem isAlpha_iff {c : Char} : c.isAlpha = true ↔ IsLetter c := by
  have hcases : c.isAlpha = (c.isUpper || c.isLower) := rfl
  rw [hcases, Bool.or_eq_true, isUpper_iff, isLower_iff]
  exact or_comm

theorem isDigit_iff {c : Char} : c.isDigit = true ↔ IsDigit c := by
  have hbounds : c.isDigit = (decide ('0' ≤ c) && decide (c ≤ '9')) := rfl
  rw [hbounds, Bool.and_eq_true, decide_eq_true_iff, decide_eq_true_iff]
  exact Iff.rfl

theorem isNameStart_iff {c : Char} : isNameStart c = true ↔ IsLetter c ∨ c = '_' := by
  rw [isNameStart, Bool.or_eq_true, isAlpha_iff, beq_iff_eq]

theorem isNameChar_iff {c : Char} :
    isNameChar c = true ↔ IsLetter c ∨ IsDigit c ∨ c = '_' ∨ c = '-' := by
  simp only [isNameChar, Char.isAlphanum, Bool.or_eq_true, isAlpha_iff, isDigit_iff, beq_iff_eq,
    or_assoc]

theorem isName_iff {s : String} : isName s = true ↔ IsIdentifier s := by
  unfold isName
  split
  next h =>
    refine ⟨fun hfalse => absurd hfalse Bool.false_ne_true, fun hs => ?_⟩
    obtain ⟨c, hc, -⟩ := hs.start
    simp [h] at hc
  next c rest h =>
    rw [Bool.and_eq_true, List.all_eq_true, isNameStart_iff]
    constructor
    · rintro ⟨hc, hrest⟩
      refine ⟨⟨c, by simp [h], hc⟩, fun d hd => ?_⟩
      rw [h, List.tail_cons] at hd
      exact isNameChar_iff.mp (hrest d hd)
    · rintro ⟨⟨d, hd, hstart⟩, hrest⟩
      rw [h, List.tail_cons] at hrest
      obtain rfl : c = d := by simpa [h] using hd
      exact ⟨hstart, fun d hd => isNameChar_iff.mpr (hrest d hd)⟩

theorem checkName_eq_ok {t : Task} : t.checkName = .ok () ↔ IsIdentifier t.name.value := by
  rw [checkName, bind_eq_ok, require_eq_ok, require_eq_ok, isName_iff, Setting.isGiven_iff]
  refine ⟨And.right, fun h => ⟨fun hempty => ?_, h⟩⟩
  obtain ⟨c, hc, -⟩ := h.start
  rw [hempty] at hc
  exact nomatch hc

/-! ### Triggers -/

theorem checkTrigger_eq_ok {t : Task} :
    t.checkTrigger = .ok () ↔ (t.services ≠ [] ∨ t.condition.monitor ≠ .none) ∧
      (∀ m, t.condition.monitor = .catalogServices m → m.pattern = none → t.services ≠ []) ∧
      (∀ m, t.condition.monitor = .services m → t.services = []) ∧
      (∀ m, t.condition.monitor = .schedule m → t.services ≠ [] ∨ t.moduleInputs.items ≠ []) := by
  have htrigger : (!t.services.isEmpty || !t.condition.isNone) = true ↔
      t.services ≠ [] ∨ t.condition.monitor ≠ .none := by
    rw [Bool.or_eq_true, Bool.not_eq_true', Bool.not_eq_true', List.isEmpty_eq_false_iff,
      Condition.isNone, ← Bool.not_eq_true, Monitor.isNone_iff]
  rw [checkTrigger, bind_eq_ok, require_eq_ok, htrigger]
  refine and_congr_right fun _ => ?_
  cases t.condition.monitor with
  | none => simp
  | services m => simp [require_eq_ok]
  | catalogServices m =>
    simp only [require_eq_ok, Bool.or_eq_true, Bool.not_eq_true', List.isEmpty_eq_false_iff,
      Monitor.catalogServices.injEq, forall_eq', reduceCtorEq, false_implies, implies_true,
      and_true]
    rw [Option.isSome_iff_ne_none, ← Decidable.imp_iff_not_or]
  | consulKv m => simp
  | schedule m => simp [require_eq_ok, ModuleInputs.isEmpty]
  | intentions m => simp

theorem checkHead_eq_ok {t : Task} :
    t.checkHead = .ok () ↔ t.module.value ≠ "" ∧ t.checkTrigger = .ok () ∧
      ∀ s ∈ t.services, ∃ c ∈ s.toList, Text.isBlank c = false := by
  rw [checkHead, bind_eq_ok, bind_eq_ok, require_eq_ok, require_eq_ok, Setting.isGiven_iff]
  simp [Text.isAllBlank, Scalar.zero]

theorem checkProviders_eq_ok {t : Task} :
    t.checkProviders = .ok () ↔ (∀ id ∈ t.providers, providerBaseName id ≠ "") ∧
      (t.providers.map providerBaseName).Nodup := by
  rw [checkProviders, checkDistinct_eq_ok]
  simp only [require_eq_ok, bne_iff_ne, List.not_mem_nil, not_false_eq_true, implies_true,
    and_true]

theorem checkTail_eq_ok {t : Task} :
    t.checkTail = .ok () ↔ (∀ id ∈ t.providers, providerBaseName id ≠ "") ∧
      (t.providers.map providerBaseName).Nodup ∧
      ∀ b, t.bufferPeriod = some b → b.min.value ≤ b.max.value := by
  rw [checkTail, bind_eq_ok, checkProviders_eq_ok, and_assoc]
  refine and_congr_right fun _ => and_congr_right fun _ => ?_
  cases t.bufferPeriod with
  | none => simp
  | some b => simp [BufferPeriod.check_eq_ok]

/-! ### Variable types -/

theorem watchedTypes_eq (t : Task) :
    t.watchedTypes = (ModuleInputs.watchersOf t.services t.condition).map (·.kind.name) ++
      t.moduleInputs.items.map (·.monitor.variableType) := by
  have hservices : (if t.services = [] then [] else ["services"]) =
      (if t.services.isEmpty then [] else [Watcher.servicesField]).map (·.kind.name) := by
    cases t.services <;> rfl
  have hcondition :
      (if t.condition.monitor = .none then [] else [t.condition.monitor.variableType]) =
        (t.condition.monitor.kind?.map Watcher.condition).toList.map (·.kind.name) := by
    cases t.condition.monitor <;> rfl
  rw [watchedTypes, hservices, hcondition, ← List.map_append]
  rfl

/-- No type is watched twice if the list of services and the condition do not watch the same one,
the inputs watch different ones, and none that the list or the condition watches. -/
theorem nodup_watchedTypes_iff {t : Task} :
    t.watchedTypes.Nodup ↔ (∀ m, t.condition.monitor = .services m → t.services = []) ∧
      (t.moduleInputs.items.map (·.monitor.variableType)).Nodup ∧
      ∀ i ∈ t.moduleInputs.items, i.monitor.variableType ∉
        (ModuleInputs.watchersOf t.services t.condition).map (·.kind.name) := by
  have hwatchers : ((ModuleInputs.watchersOf t.services t.condition).map (·.kind.name)).Nodup ↔
      ∀ m, t.condition.monitor = .services m → t.services = [] := by
    unfold ModuleInputs.watchersOf
    cases t.services <;> cases t.condition.monitor <;>
      simp [Monitor.kind?, Watcher.kind, MonitorKind.name]
  rw [watchedTypes_eq, List.nodup_append, hwatchers]
  refine and_congr_right fun _ => and_congr_right fun _ => ?_
  simp only [List.mem_map (f := fun i : ModuleInput => _)]
  constructor
  · intro h i hi hmem
    exact h _ hmem _ ⟨i, hi, rfl⟩ rfl
  · rintro h a ha _ ⟨i, hi, rfl⟩ rfl
    exact h i hi ha

/-- No type is watched by two monitors if no type is watched twice. -/
theorem pairwise_monitors {t : Task} (h : t.watchedTypes.Nodup) :
    t.monitors.Pairwise fun m n => m.variableType ≠ n.variableType := by
  have hmap : t.monitors.map Monitor.variableType =
      (if t.condition.monitor = .none then [] else [t.condition.monitor.variableType]) ++
        t.moduleInputs.items.map (·.monitor.variableType) := by
    unfold monitors
    split <;> simp [Function.comp_def]
  rw [watchedTypes, List.append_assoc, ← hmap] at h
  exact List.pairwise_map.mp (List.nodup_append.mp h).2.1

/-! ### Validation -/

theorem outcome_validate_eq_ok {t : Task} : t.validate.outcome = .ok () ↔
    t.checkName = .ok () ∧ t.checkHead = .ok () ∧ t.condition.monitor.check = .ok () ∧
      ModuleInputs.checkWatchers (ModuleInputs.watchersOf t.services t.condition)
        t.moduleInputs.items = .ok () ∧
      (∀ i ∈ t.moduleInputs.items, i.monitor.check = .ok ()) ∧ t.checkTail = .ok () := by
  rw [outcome_validate, orderedChecks, firstViolation_cons, firstViolation_map_mapError,
    bind_eq_ok, mapError_eq_ok, firstViolation_eq_ok]
  simp only [bodyChecks, List.forall_mem_append, List.forall_mem_cons, List.forall_mem_map,
    List.not_mem_nil, false_implies, implies_true, and_true, and_assoc]

/-- **Validation accepts a task** if and only if it is valid, and then no two of its monitors watch
one type of variables. -/
theorem validate_eq_ok_iff (t : Task) :
    (t.validate.outcome = .ok () ↔ t.IsValid) ∧
      (t.validate.outcome = .ok () →
        t.monitors.Pairwise fun m n => m.variableType ≠ n.variableType) := by
  have hvalid : t.validate.outcome = .ok () ↔ t.IsValid := by
    rw [outcome_validate_eq_ok, checkName_eq_ok, checkHead_eq_ok, checkTrigger_eq_ok,
      ModuleInputs.checkWatchers_eq_ok, checkTail_eq_ok]
    constructor
    · rintro ⟨hname, ⟨hmodule, ⟨htrigger, hcatalog, hclash, hschedule⟩, hservices⟩, hcondition,
        ⟨htyped, hnodup, hfree⟩, hinputs, hnames, hproviders, hperiod⟩
      exact ⟨hname, hmodule, htrigger, hcatalog, hschedule, hservices, htyped,
        nodup_watchedTypes_iff.mpr ⟨hclash, hnodup, hfree⟩, hcondition, hinputs, hnames,
        hproviders, hperiod⟩
    · intro h
      obtain ⟨hclash, hnodup, hfree⟩ := nodup_watchedTypes_iff.mp h.distinct
      exact ⟨h.name, ⟨h.module, ⟨h.trigger, h.catalog, hclash, h.schedule⟩, h.services⟩,
        h.condition, ⟨h.typed, hnodup, hfree⟩, h.inputs, h.providerNames, h.providersDistinct,
        h.bufferPeriod⟩
  exact ⟨hvalid, fun h => pairwise_monitors (hvalid.mp h).distinct⟩

end Task

end AutomationConfig
