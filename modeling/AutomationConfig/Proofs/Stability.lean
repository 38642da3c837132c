import AutomationConfig.Proofs.ConfigRules
import AutomationConfig.Proofs.Defaults
import Mathlib.Data.List.Forall2

/-! # Validation changes little, and only once

All that validation changes are patterns for the catalog: one that is unset when its monitor is
reached becomes the empty one (`Config.Settles`). What it leaves behind a task that fails is as it
was. Validating again comes to the same outcome and changes nothing more, wherever the first run has
stopped, and the defaults of a finished configuration stay as they are (`Config.validate_stable`).

Validation is put together from steps that settle a part and check it. A step is stable if a second
run of it repeats the first one (`Checked.Stable`), and steps in a row are stable if each of them
is and none spoils what an earlier one has accepted (`Checked.Stable.andThen`). -/

namespace AutomationConfig

/-! ### Steps that settle a value -/

namespace Checked

variable {α β : Type}

/-- A second run of the step repeats the first one: the same outcome, and nothing is changed. -/
def Stable (step : α → Checked α) : Prop := ∀ a, step (step a).value = step a

/-- The step accepts the value as it is. -/
def Accepts (step : α → Checked α) (a : α) : Prop := step a = keep a (.ok ())

theorem stable_keep (check : α → Except Violation Unit) : Stable fun a => keep a (check a) :=
  fun _ => rfl

theorem accepts_keep_iff {check : α → Except Violation Unit} {a : α} :
    Accepts (fun a => keep a (check a)) a ↔ check a = .ok () :=
  ⟨fun h => congrArg outcome h, fun h => congrArg (Checked.mk a) h⟩

theorem andThen_of_ok {c : Checked α} (h : c.outcome = .ok ()) (next : α → Checked α) :
    c.andThen next = next c.value := by
  rw [andThen, h]

theorem andThen_of_error {c : Checked α} {v : Violation} (h : c.outcome = .error v)
    (next : α → Checked α) : c.andThen next = c := by
  rw [andThen, h]

theorem Stable.accepts {step : α → Checked α} (h : Stable step) {a : α}
    (ha : (step a).outcome = .ok ()) : Accepts step (step a).value :=
  (h a).trans (congrArg (Checked.mk _) ha)

/-- Steps in a row are stable if the later one leaves what the earlier one has accepted
acceptable. -/
theorem Stable.andThen {first second : α → Checked α} (hfirst : Stable first)
    (hsecond : Stable second)
    (hkeeps : ∀ a, Accepts first a → Accepts first (second a).value) :
    Stable fun a => (first a).andThen second := by
  intro a
  cases h : (first a).outcome with
  | error v =>
    have hstop : (first a).andThen second = first a := andThen_of_error h second
    simp only [hstop, hfirst a]
  | ok =>
    have hgo : (first a).andThen second = second (first a).value := andThen_of_ok h second
    have haccepts : Accepts first (second (first a).value).value := hkeeps _ (hfirst.accepts h)
    have hagain : (first (second (first a).value).value).andThen second =
        second (second (first a).value).value := by
      rw [haccepts]
      rfl
    simp only [hgo, hagain]
    exact hsecond _

/-- What every step keeps true of a value stays true of it. -/
theorem holds_value_andThen {P : α → Prop} {c : Checked α} {next : α → Checked α}
    (hc : P c.value) (hnext : ∀ a, P a → P (next a).value) : P (c.andThen next).value := by
  unfold Checked.andThen
  split
  · exact hnext _ hc
  · exact hc

/-! ### Lists -/

theorem each_of_ok {step : α → Checked α} {a : α} (h : (step a).outcome = .ok ())
    (as : List α) : each step (a :: as) = (each step as).map ((step a).value :: ·) := by
  rw [each, h]

theorem each_of_error {step : α → Checked α} {a : α} {v : Violation}
    (h : (step a).outcome = .error v) (as : List α) :
    each step (a :: as) = ⟨(step a).value :: as, .error v⟩ := by
  rw [each, h]

theorem Stable.each {step : α → Checked α} (h : Stable step) : Stable (each step) := by
  intro as
  induction as with
  | nil => rfl
  | cons a as ih =>
    have hagain : step (step a).value = step a := h a
    cases ha : (step a).outcome with
    | error v =>
      rw [each_of_error ha, each_of_error (by rw [hagain, ha]), hagain]
    | ok =>
      rw [each_of_ok ha, value_map, each_of_ok (by rw [hagain, ha]), hagain, ih]

/-- What a step keeps between an item and what has come of it is kept item by item. -/
theorem forall₂_value_each {R : β → α → Prop} {step : α → Checked α}
    (hstep : ∀ b a, R b a → R b (step a).value) {bs : List β} {as : List α}
    (h : List.Forall₂ R bs as) : List.Forall₂ R bs (each step as).value := by
  induction h with
  | nil => exact .nil
  | @cons b a bs as hba hrest ih =>
    cases ha : (step a).outcome with
    | error v =>
      rw [each_of_error ha]
      exact .cons (hstep b a hba) hrest
    | ok =>
      rw [each_of_ok ha]
      exact .cons (hstep b a hba) ih

/-- What stands behind an item that fails is not reached. -/
theorem drop_value_each {step : α → Checked α} {a : α} (ha : (step a).outcome ≠ .ok ()) :
    ∀ {as : List α} {i : Nat}, as[i]? = some a →
      (each step as).value.drop (i + 1) = as.drop (i + 1)
  | [], _, h => by simp at h
  | b :: as, i, h => by
    cases hb : (step b).outcome with
    | error v =>
      rw [each_of_error hb, List.drop_succ_cons, List.drop_succ_cons]
    | ok =>
      rw [each_of_ok hb, value_map, List.drop_succ_cons, List.drop_succ_cons]
      cases i with
      | zero =>
        obtain rfl : b = a := by simpa using h
        exact absurd hb ha
      | succ i => exact drop_value_each ha (by simpa using h)

end Checked

/-- Items that have come of items that a function leaves alone are left alone as well, if that holds
of each. -/
theorem map_eq_self_of_forall₂ {α : Type} {R : α → α → Prop} {f : α → α}
    (hstep : ∀ a b, R a b → f a = a → f b = b) {as bs : List α} (h : List.Forall₂ R as bs)
    (has : as.map f = as) : bs.map f = bs := by
  induction h with
  | nil => rfl
  | cons hab _ ih =>
    obtain ⟨ha, hrest⟩ := List.cons.inj has
    rw [List.map_cons, hstep _ _ hab ha, ih hrest]

/-! ### Monitors -/

/-- A monitor as validation may leave it: as it was, or with the empty pattern where a pattern for
the catalog was unset. -/
inductive Monitor.Settles : Monitor → Monitor → Prop
  | same (m : Monitor) : Settles m m
  | pattern {m : CatalogServicesMonitor} (h : m.pattern = .none) :
      Settles (.catalogServices m) (.catalogServices { m with pattern := some "" })

namespace Monitor

theorem stable_validate : Checked.Stable validate := by
  intro m
  cases m <;> rfl

theorem settles_settle (m : Monitor) : m.Settles m.settle := by
  cases m with
  | catalogServices m =>
    change (catalogServices m).Settles (catalogServices m.settle)
    cases hpattern : m.pattern with
    | none =>
      have hsettle : m.settle = { m with pattern := some "" } := by
        rw [CatalogServicesMonitor.settle, hpattern, Setting.orDefault_none]
      rw [hsettle]
      exact .pattern hpattern
    | some p =>
      have hsettle : m.settle = m := by
        rw [CatalogServicesMonitor.settle, hpattern, Setting.orDefault_some, ← hpattern]
      rw [hsettle]
      exact .same _
  | _ => exact .same _

namespace Settles

variable {m n : Monitor}

theorem settle (h : m.Settles n) : m.Settles n.settle := by
  cases h with
  | same => exact m.settles_settle
  | pattern hpattern => exact .pattern hpattern

theorem kind?_eq (h : m.Settles n) : n.kind? = m.kind? := by
  cases h <;> rfl

/-- A pattern that has been settled is no gap for a default to fill. -/
theorem finalize_eq (h : m.Settles n) (hm : m.finalize = m) : n.finalize = n := by
  cases h with
  | same => exact hm
  | @pattern m =>
    have hblock : m.finalize = m := catalogServices.inj hm
    have hsettled : ({ m with pattern := some "" } : CatalogServicesMonitor).finalize =
        { m.finalize with pattern := some "" } := rfl
    rw [finalize, hsettled, hblock]

theorem derivePattern_eq {services : List String} (h : m.Settles n)
    (hm : Task.derivePattern services m = m) : Task.derivePattern services n = n := by
  cases h with
  | same => exact hm
  | pattern => rfl

end Settles

end Monitor

/-! ### Conditions and module inputs -/

theorem Condition.stable_validate : Checked.Stable validate := fun c =>
  congrArg (Checked.map fun m => Condition.mk m c.useAsModuleInput c.sourceIncludesVar)
    (Monitor.stable_validate c.monitor)

theorem ModuleInput.stable_validate : Checked.Stable validate := fun i =>
  congrArg (Checked.map mk) (Monitor.stable_validate i.monitor)

namespace ModuleInputs

/-- Validation keeps the kinds of the inputs. -/
theorem map_kind?_value_each (inputs : List ModuleInput) :
    (Checked.each ModuleInput.validate inputs).value.map (·.monitor.kind?) =
      inputs.map (·.monitor.kind?) :=
  Checked.map_value_each (fun i => i.monitor.kind?_settle) inputs

/-- Whether anything is watched twice is a matter of kinds. -/
theorem checkWatchers_congr : ∀ {inputs others : List ModuleInput} (watchers : List Watcher),
    inputs.map (·.monitor.kind?) = others.map (·.monitor.kind?) →
      checkWatchers watchers inputs = checkWatchers watchers others
  | [], [], _, _ => rfl
  | i :: inputs, j :: others, watchers, h => by
    obtain ⟨hij, hrest⟩ := List.cons.inj h
    have ih : ∀ kind, checkWatchers (watchers ++ [.moduleInput kind]) inputs =
        checkWatchers (watchers ++ [.moduleInput kind]) others :=
      fun kind => checkWatchers_congr _ hrest
    simp only at hij
    simp only [checkWatchers, hij, ih]

theorem stable_each : Checked.Stable fun inputs : ModuleInputs =>
    (Checked.each ModuleInput.validate inputs.items).map mk := fun inputs =>
  congrArg (Checked.map mk) (ModuleInput.stable_validate.each inputs.items)

theorem stable_validate (services : List String) (condition : Condition) :
    Checked.Stable (validate services condition) := by
  refine (Checked.stable_keep _).andThen stable_each fun inputs h => ?_
  rw [Checked.accepts_keep_iff] at h ⊢
  exact (checkWatchers_congr _ (map_kind?_value_each inputs.items)).trans h

end ModuleInputs

/-! ### Tasks -/

namespace Task

/-- **A task as validation may leave it**: its condition and its inputs may have settled, and
nothing else has changed. -/
structure Settles (before after : Task) : Prop where
  rest : after.fixed = before.fixed
  useAsModuleInput : after.condition.useAsModuleInput = before.condition.useAsModuleInput
  sourceIncludesVar : after.condition.sourceIncludesVar = before.condition.sourceIncludesVar
  monitor : before.condition.monitor.Settles after.condition.monitor
  moduleInputs : List.Forall₂ (fun i j => i.monitor.Settles j.monitor) before.moduleInputs.items
    after.moduleInputs.items

theorem settles_self (t : Task) : t.Settles t where
  rest := rfl
  useAsModuleInput := rfl
  sourceIncludesVar := rfl
  monitor := .same _
  moduleInputs := List.forall₂_same.mpr fun _ _ => .same _

namespace Settles

variable {t u : Task}

theorem validateCondition (h : t.Settles u) : t.Settles u.validateCondition.value where
  rest := h.rest
  useAsModuleInput := h.useAsModuleInput
  sourceIncludesVar := h.sourceIncludesVar
  monitor := h.monitor.settle
  moduleInputs := h.moduleInputs

theorem validateInputs (h : t.Settles u) : t.Settles u.validateInputs.value where
  rest := h.rest
  useAsModuleInput := h.useAsModuleInput
  sourceIncludesVar := h.sourceIncludesVar
  monitor := h.monitor
  moduleInputs := by
    let kept (inputs : ModuleInputs) : Prop :=
      List.Forall₂ (fun i j => i.monitor.Settles j.monitor) t.moduleInputs.items inputs.items
    have hinputs : kept (u.moduleInputs.validate u.services u.condition).value :=
      Checked.holds_value_andThen (P := kept) h.moduleInputs fun inputs hinputs =>
        Checked.forall₂_value_each (fun _ _ hij => hij.settle) hinputs
    exact hinputs

theorem validateBody (h : t.Settles u) : t.Settles u.validateBody.value := by
  have hhead : t.Settles (Checked.keep u u.checkHead).value := h
  have hcondition := Checked.holds_value_andThen hhead fun _ => validateCondition
  have hinputs := Checked.holds_value_andThen hcondition fun _ => validateInputs
  exact Checked.holds_value_andThen hinputs fun _ => id

theorem validate (h : t.Settles u) : t.Settles u.validate.value := by
  have hname : t.Settles (Checked.keep u u.checkName).value := h
  exact Checked.holds_value_andThen hname fun _ => validateBody

/-- A task that has something to run and to watch still has it. -/
theorem checkHead_eq_ok (h : t.Settles u) (ht : t.checkHead = .ok ()) : u.checkHead = .ok () := by
  have hmodule : u.module = t.module := (congrArg Task.module h.rest :)
  have hservices : u.services = t.services := (congrArg Task.services h.rest :)
  have hinputs : t.moduleInputs.items ≠ [] → u.moduleInputs.items ≠ [] := fun hne hnil =>
    hne (List.eq_nil_of_length_eq_zero (by rw [h.moduleInputs.length_eq, hnil, List.length_nil]))
  have hmonitor := h.monitor
  rw [Task.checkHead_eq_ok, checkTrigger_eq_ok] at ht ⊢
  rw [hmodule, hservices]
  obtain ⟨hrun, ⟨htrigger, hcatalog, hclash, hschedule⟩, hblank⟩ := ht
  refine ⟨hrun, ?_, hblank⟩
  generalize t.condition.monitor = m at *
  generalize u.condition.monitor = n at *
  cases hmonitor with
  | same => exact ⟨htrigger, hcatalog, hclash, fun m hm => (hschedule m hm).imp_right hinputs⟩
  | pattern => simp

end Settles

/-! ### Validating a task again -/

/-- The steps of validation from the module inputs on. -/
def validateFromInputs (t : Task) : Checked Task :=
  t.validateInputs.andThen fun t => .keep t t.checkTail

/-- The steps of validation from the condition on. -/
def validateFromCondition (t : Task) : Checked Task :=
  t.validateCondition.andThen validateFromInputs

theorem validateBody_eq (t : Task) :
    t.validateBody = (Checked.keep t t.checkHead).andThen validateFromCondition := by
  rw [validateBody, Checked.andThen_assoc, Checked.andThen_assoc]
  rfl

theorem stable_validateCondition : Checked.Stable validateCondition := fun t =>
  congrArg (Checked.map fun c => ({ t with condition := c } : Task))
    (Condition.stable_validate t.condition)

theorem stable_validateInputs : Checked.Stable validateInputs := fun t =>
  congrArg (Checked.map fun i => ({ t with moduleInputs := i } : Task))
    (ModuleInputs.stable_validate t.services t.condition t.moduleInputs)

theorem accepts_validateCondition_iff {t : Task} :
    Checked.Accepts validateCondition t ↔ Checked.Accepts Condition.validate t.condition :=
  ⟨fun h => congrArg (Checked.map Task.condition) h,
    fun h => congrArg (Checked.map fun c => ({ t with condition := c } : Task)) h⟩

theorem stable_validateFromInputs : Checked.Stable validateFromInputs :=
  stable_validateInputs.andThen (Checked.stable_keep _) fun _ h => h

theorem stable_validateFromCondition : Checked.Stable validateFromCondition := by
  refine stable_validateCondition.andThen stable_validateFromInputs fun t ht => ?_
  have hkept : t.validateFromInputs.value.condition = t.condition :=
    Checked.apply_value_andThen condition rfl fun _ => rfl
  rw [accepts_validateCondition_iff] at ht ⊢
  rwa [hkept]

theorem settles_validateFromCondition (t : Task) : t.Settles t.validateFromCondition.value :=
  Checked.holds_value_andThen t.settles_self.validateCondition fun _ h =>
    Checked.holds_value_andThen h.validateInputs fun _ => id

theorem stable_validateBody : Checked.Stable validateBody := by
  have hbody : Checked.Stable fun t : Task =>
      (Checked.keep t t.checkHead).andThen validateFromCondition := by
    refine (Checked.stable_keep _).andThen stable_validateFromCondition fun t ht => ?_
    rw [Checked.accepts_keep_iff] at ht ⊢
    exact t.settles_validateFromCondition.checkHead_eq_ok ht
  intro t
  rw [validateBody_eq, validateBody_eq]
  exact hbody t

/-- Validating a task again repeats the first validation. -/
theorem stable_validate : Checked.Stable validate := by
  have hname : ∀ t : Task, t.validateBody.value.name = t.name := fun t =>
    (congrArg Task.name t.fixed_validateBody :)
  have hbody : Checked.Stable fun t : Task => t.validateBody.inTask t.name.value := by
    intro t
    change t.validateBody.value.validateBody.inTask t.validateBody.value.name.value = _
    rw [stable_validateBody t, hname]
  refine (Checked.stable_keep _).andThen hbody fun t ht => ?_
  rw [Checked.accepts_keep_iff] at ht ⊢
  change t.validateBody.value.checkName = .ok ()
  rwa [checkName, hname]

/-! ### Defaults of a task that has settled -/

theorem ext_fixed {t u : Task} (hrest : t.fixed = u.fixed) (hcondition : t.condition = u.condition)
    (hinputs : t.moduleInputs = u.moduleInputs) : t = u := by
  obtain ⟨⟩ := t
  obtain ⟨⟩ := u
  simp_all [fixed]

namespace Settles

variable {t u : Task} {global : BufferPeriod} {root : String}

theorem isScheduled_eq (h : t.Settles u) : u.isScheduled = t.isScheduled := by
  rw [isScheduled, isScheduled, h.monitor.kind?_eq]

theorem finalizeBufferPeriod_eq (h : t.Settles u) :
    u.finalizeBufferPeriod global = t.finalizeBufferPeriod global := by
  have hperiod : u.bufferPeriod = t.bufferPeriod := (congrArg Task.bufferPeriod h.rest :)
  rw [finalizeBufferPeriod, finalizeBufferPeriod, h.isScheduled_eq, hperiod]

theorem fixed_finalize_eq (h : t.Settles u) :
    (u.finalize global root).fixed = (t.finalize global root).fixed := by
  -- of what settles, the defaults of the other fields look at whether the task is scheduled only
  have hfixed : ∀ v : Task, (v.finalize global root).fixed =
      { (v.fixed.finalize global root).fixed with
        bufferPeriod := some (v.finalizeBufferPeriod global) } := fun _ => rfl
  rw [hfixed u, hfixed t, h.rest, h.finalizeBufferPeriod_eq]

theorem isComplete (h : t.Settles u) (ht : t.condition.IsComplete) : u.condition.IsComplete := by
  have hfeeds : u.condition.monitor.feedsModule = t.condition.monitor.feedsModule := by
    rw [Monitor.feedsModule, Monitor.feedsModule, h.monitor.kind?_eq]
  constructor
  case monitor => exact h.monitor.finalize_eq ht.monitor
  case flag =>
    intro hu
    rw [h.useAsModuleInput]
    exact ht.flag (hfeeds ▸ hu)
  case moved =>
    intro hu
    rw [h.sourceIncludesVar]
    exact ht.moved (hfeeds ▸ hu)

theorem finalizeCondition_eq (h : t.Settles u) (ht : t.finalizeCondition = t.condition) :
    u.finalizeCondition = u.condition := by
  have hservices : u.services = t.services := (congrArg Task.services h.rest :)
  have hcomplete : t.condition.IsComplete := ht ▸ t.isComplete_finalizeCondition
  have hderived : derivePattern t.services t.condition.monitor = t.condition.monitor := by
    rw [finalizeCondition, hcomplete.finalize_eq] at ht
    exact congrArg Condition.monitor ht
  rw [finalizeCondition, (h.isComplete hcomplete).finalize_eq, hservices]
  exact congrArg (fun m => { u.condition with monitor := m }) (h.monitor.derivePattern_eq hderived)

theorem finalize_eq (h : t.Settles u) (ht : t.finalize global root = t) :
    u.finalize global root = u := by
  refine ext_fixed ?fixed ?condition ?inputs
  case fixed =>
    exact h.fixed_finalize_eq.trans ((congrArg fixed ht).trans h.rest.symm)
  case condition => exact h.finalizeCondition_eq (congrArg condition ht)
  case inputs =>
    have hmoved : t.sourceInputs = {} := (congrArg sourceInputs ht).symm
    have hsource : u.sourceInputs = {} := (congrArg Task.sourceInputs h.rest :).trans hmoved
    have hitems : t.moduleInputs.items.map ModuleInput.finalize = t.moduleInputs.items := by
      have hinputs : (t.moduleInputs.merge t.sourceInputs).finalize = t.moduleInputs :=
        congrArg Task.moduleInputs ht
      rw [hmoved, ModuleInputs.merge_empty] at hinputs
      exact congrArg ModuleInputs.items hinputs
    change (u.moduleInputs.merge u.sourceInputs).finalize = u.moduleInputs
    rw [hsource, ModuleInputs.merge_empty]
    exact congrArg ModuleInputs.mk (map_eq_self_of_forall₂ (fun i j hij hi =>
      congrArg ModuleInput.mk (hij.finalize_eq (congrArg ModuleInput.monitor hi)))
      h.moduleInputs hitems)

end Settles

end Task

/-! ### The whole configuration -/

namespace Config

/-- **A configuration as validation may leave it**: its tasks may have settled, and nothing else has
changed. -/
structure Settles (before after : Config) : Prop where
  rest : { after with tasks := [] } = { before with tasks := [] }
  tasks : List.Forall₂ Task.Settles before.tasks after.tasks

theorem settles_validateTasks (c : Config) : c.Settles c.validateTasks.value where
  rest := rfl
  tasks := Checked.forall₂_value_each (fun _ _ h => h.validate)
    (List.forall₂_same.mpr fun t _ => t.settles_self)

theorem stable_validateTasks : Checked.Stable validateTasks := fun c =>
  congrArg (Checked.map fun tasks => ({ c with tasks } : Config))
    (Task.stable_validate.each c.tasks)

theorem validate_eq (c : Config) :
    c.validate = (Checked.keep c c.checkHead).andThen fun c =>
      c.validateTasks.andThen fun c => .keep c c.checkTail := by
  rw [validate, Checked.andThen_assoc]

theorem settles_validate (c : Config) : c.Settles c.validate.value := by
  have hself : c.Settles c := ⟨rfl, List.forall₂_same.mpr fun t _ => t.settles_self⟩
  have htasks : c.Settles ((Checked.keep c c.checkHead).andThen validateTasks).value := by
    cases h : c.checkHead with
    | error v => exact hself
    | ok => exact c.settles_validateTasks
  exact Checked.holds_value_andThen htasks fun _ h => h

theorem stable_validate : Checked.Stable validate := by
  have hbody : Checked.Stable fun c : Config =>
      c.validateTasks.andThen fun c => .keep c c.checkTail :=
    stable_validateTasks.andThen (Checked.stable_keep _) fun _ h => h
  have hall : Checked.Stable fun c : Config => (Checked.keep c c.checkHead).andThen fun c =>
      c.validateTasks.andThen fun c => .keep c c.checkTail := by
    refine (Checked.stable_keep _).andThen hbody fun c hc => ?_
    have hkept : (c.validateTasks.andThen fun c => .keep c c.checkTail).value.checkHead =
        c.checkHead :=
      Checked.apply_value_andThen checkHead rfl fun _ => rfl
    rw [Checked.accepts_keep_iff] at hc ⊢
    exact hkept.trans hc
  intro c
  rw [validate_eq, validate_eq]
  exact hall c

/-- Behind a task that fails validation changes nothing. -/
theorem drop_tasks_validate {c : Config} {i : Nat} {t : Task} (ht : c.tasks[i]? = some t)
    (hfails : t.validate.outcome ≠ .ok ()) :
    c.validate.value.tasks.drop (i + 1) = c.tasks.drop (i + 1) := by
  have htasks : ((Checked.keep c c.checkHead).andThen validateTasks).value.tasks.drop (i + 1) =
      c.tasks.drop (i + 1) := by
    cases h : c.checkHead with
    | error v => rfl
    | ok => exact Checked.drop_value_each hfails ht
  exact Checked.apply_value_andThen (fun c : Config => c.tasks.drop (i + 1)) htasks fun _ => rfl

theorem ext_tasks {c d : Config} (hrest : { c with tasks := [] } = { d with tasks := [] })
    (htasks : c.tasks = d.tasks) : c = d := by
  obtain ⟨⟩ := c
  obtain ⟨⟩ := d
  simp_all

theorem Settles.finalize_eq {c d : Config} {processors : UInt64} (h : c.Settles d)
    (hc : c.finalize processors = c) : d.finalize processors = d := by
  have hglobal : d.finalBufferPeriod = c.finalBufferPeriod :=
    (congrArg finalBufferPeriod h.rest :)
  have hroot : d.finalWorkingDir = c.finalWorkingDir := (congrArg finalWorkingDir h.rest :)
  refine ext_tasks ?rest ?tasks
  case rest =>
    have hrest : { d.finalize processors with tasks := [] } =
        { c.finalize processors with tasks := [] } :=
      (congrArg (finalize · processors) h.rest :)
    rw [hrest, hc, h.rest]
  case tasks =>
    change d.tasks.map (Task.finalize d.finalBufferPeriod d.finalWorkingDir) = d.tasks
    rw [hglobal, hroot]
    exact map_eq_self_of_forall₂ (fun _ _ htu => htu.finalize_eq) h.tasks
      (congrArg Config.tasks hc)

/-- **Validation is stable.** It changes nothing but patterns of monitors for the catalog that are
unset, and behind a task that fails nothing at all. Validating what it leaves comes to the same
outcome and leaves the same, and if defaults had been filled in, there are none left to fill in. -/
theorem validate_stable (c : Config) (processors : UInt64) :
    c.Settles c.validate.value ∧
      (∀ i t, c.tasks[i]? = some t → t.validate.outcome ≠ .ok () →
        c.validate.value.tasks.drop (i + 1) = c.tasks.drop (i + 1)) ∧
      c.validate.value.validate = c.validate ∧
      (c.finalize processors).validate.value.finalize processors =
        (c.finalize processors).validate.value :=
  ⟨c.settles_validate, fun _ _ => drop_tasks_validate, stable_validate c,
    (settles_validate (c.finalize processors)).finalize_eq
      (c.finalize_finalize processors processors)⟩

/-- A task without a name in front of a task whose pattern is unset. -/
def namelessFirst : Config :=
  { tasks := [{}, { name := some "second", condition := { monitor := .catalogServices {} } }] }

/-- The pattern behind the task without a name stays unset. -/
theorem validate_stable_namelessFirst :
    ({} : Task).validate.outcome ≠ .ok () ∧
      namelessFirst.validate.value.tasks.drop 1 = namelessFirst.tasks.drop 1 :=
  have hfails : ({} : Task).validate.outcome ≠ .ok () := nofun
  ⟨hfails, (validate_stable namelessFirst 4).2.1 0 {} rfl hfails⟩

end Config

end AutomationConfig
