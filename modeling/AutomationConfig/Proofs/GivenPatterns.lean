import AutomationConfig.Proofs.Keeping
import AutomationConfig.Proofs.Stability

/-! # What becomes of patterns

A pattern that is unset, the empty pattern and a pattern with something in it are three different
things: names may select instead of the first one, the second one selects everything. In a task that
is accepted with its defaults filled in every pattern is the one that was given
(`Task.PatternsSurvive`). The one thing that fills a gap is the kind of the catalog, and what it
takes depends on where it stands: the condition takes a pattern for the listed services, and is
refused if none are listed; a module input takes the empty pattern (`Task.finalize_keeps_patterns`).

Validation may stop anywhere, so its value is known in part only. Where it accepts it has reached
every monitor, and its value is `Task.settle`. -/

namespace AutomationConfig

/-! ### Values of validations that accept -/

namespace Checked

variable {α : Type}

theorem value_andThen_of_ok {c : Checked α} {next : α → Checked α}
    (h : (c.andThen next).outcome = .ok ()) : (c.andThen next).value = (next c.value).value := by
  rw [outcome_andThen, bind_eq_ok] at h
  rw [andThen_of_ok h.1]

/-- A step that accepts all items of a list has been made on each of them. -/
theorem value_each_of_ok {step : α → Checked α} : ∀ {as : List α},
    (each step as).outcome = .ok () → (each step as).value = as.map fun a => (step a).value
  | [], _ => rfl
  | a :: as, h => by
    cases ha : (step a).outcome with
    | error v =>
      rw [each_of_error ha] at h
      exact nomatch h
    | ok =>
      rw [each_of_ok ha] at h ⊢
      rw [value_map, value_each_of_ok h, List.map_cons]

end Checked

theorem ModuleInputs.value_validate_of_ok {services : List String} {c : Condition}
    {inputs : ModuleInputs} (h : (inputs.validate services c).outcome = .ok ()) :
    (inputs.validate services c).value = ⟨inputs.items.map fun i => ⟨i.monitor.settle⟩⟩ := by
  have heach : (Checked.each ModuleInput.validate inputs.items).outcome = .ok () := by
    rw [validate, Checked.outcome_andThen, bind_eq_ok] at h
    exact h.2
  rw [validate, Checked.value_andThen_of_ok h]
  exact congrArg mk (Checked.value_each_of_ok heach)

namespace Task

/-- The task with all its monitors settled. -/
def settle (t : Task) : Task := { t with
  condition := { t.condition with monitor := t.condition.monitor.settle }
  moduleInputs := ⟨t.moduleInputs.items.map fun i => ⟨i.monitor.settle⟩⟩ }

theorem value_validateBody_of_ok {t : Task} (h : t.validateBody.outcome = .ok ()) :
    t.validateBody.value = t.settle := by
  have htail := Checked.value_andThen_of_ok h
  rw [validateBody, Checked.outcome_andThen, bind_eq_ok] at h
  have hinputs := Checked.value_andThen_of_ok h.1
  have hreached := h.1
  rw [Checked.outcome_andThen, bind_eq_ok] at hreached
  have hcondition := Checked.value_andThen_of_ok hreached.1
  rw [hcondition] at hreached hinputs
  have hsettled := ModuleInputs.value_validate_of_ok hreached.2
  rw [validateBody, htail, Checked.value_keep, hinputs]
  exact congrArg (fun i => ({ t.validateCondition.value with moduleInputs := i } : Task)) hsettled

/-- An accepted task has settled as a whole. -/
theorem value_validate_of_ok {t : Task} (h : t.validate.outcome = .ok ()) :
    t.validate.value = t.settle := by
  have hvalue := Checked.value_andThen_of_ok h
  rw [validate, Checked.outcome_andThen, bind_eq_ok, Checked.outcome_inTask, mapError_eq_ok] at h
  rw [validate, hvalue]
  exact value_validateBody_of_ok h.2

end Task

/-! ### Patterns of monitors -/

/-- **What a pattern comes to**, given before and after: it is the one that was given, on both sides
of an intention too, and a monitor of the catalog without one has the one it falls back to. -/
inductive Monitor.KeepsPatterns (fallback : String) : Monitor → Monitor → Prop
  | none : KeepsPatterns fallback .none .none
  | services {m n : ServicesMonitor} (h : n.pattern = m.pattern) :
      KeepsPatterns fallback (.services m) (.services n)
  | catalogServices {m n : CatalogServicesMonitor} (h : n.pattern = m.pattern.orDefault fallback) :
      KeepsPatterns fallback (.catalogServices m) (.catalogServices n)
  | consulKv (m n : KeyValueMonitor) : KeepsPatterns fallback (.consulKv m) (.consulKv n)
  | schedule (m n : ScheduleMonitor) : KeepsPatterns fallback (.schedule m) (.schedule n)
  | intentions {m n : IntentionsMonitor} (hsource : n.source = m.source)
      (hdestination : n.destination = m.destination) :
      KeepsPatterns fallback (.intentions m) (.intentions n)

namespace Monitor

/-- By itself a monitor of the catalog falls back to everything. -/
theorem keepsPatterns_settle (m : Monitor) : m.KeepsPatterns "" m.finalize.settle := by
  cases m with
  | none => exact .none
  | services m => exact .services rfl
  | catalogServices m => exact .catalogServices rfl
  | consulKv m => exact .consulKv m m.finalize
  | schedule m => exact .schedule m m.finalize
  | intentions m => exact .intentions rfl rfl

/-- With services to derive a pattern from, a monitor of the catalog falls back to that pattern. -/
theorem keepsPatterns_derivePattern {services : List String} {m : Monitor}
    (h : ∀ c, m = .catalogServices c → c.pattern = Option.none → services ≠ []) :
    m.KeepsPatterns (Pattern.ofNames services)
      (Task.derivePattern services m.finalize).settle := by
  cases m with
  | none => exact .none
  | services m => exact .services rfl
  | catalogServices m =>
    cases hpattern : m.pattern with
    | none =>
      have hlisted : services.isEmpty = false := List.isEmpty_eq_false_iff.mpr (h m rfl hpattern)
      have hderived : Task.derivePattern services (catalogServices m).finalize =
          catalogServices { m.finalize with pattern := some (Pattern.ofNames services) } := by
        simp [Task.derivePattern, finalize, CatalogServicesMonitor.finalize, hpattern, hlisted]
      rw [hderived]
      refine .catalogServices ?_
      rw [hpattern]
      rfl
    | some p =>
      have hkept : Task.derivePattern services (catalogServices m).finalize =
          catalogServices m.finalize := by
        simp [Task.derivePattern, finalize, CatalogServicesMonitor.finalize, hpattern]
      rw [hkept]
      refine .catalogServices ?_
      have hgiven : m.finalize.settle.pattern = m.pattern.orDefault "" := rfl
      rw [hgiven, hpattern]
      rfl
  | consulKv m => exact .consulKv m m.finalize
  | schedule m => exact .schedule m m.finalize
  | intentions m => exact .intentions rfl rfl

/-- The empty pattern is one that was given, if it is not what a monitor falls back to. -/
theorem KeepsPatterns.eq_empty {fallback : String} {m n : CatalogServicesMonitor}
    (h : KeepsPatterns fallback (.catalogServices m) (.catalogServices n))
    (hfallback : m.pattern = Option.none → fallback ≠ "") (hempty : n.pattern = some "") :
    m.pattern = some "" := by
  cases h with
  | catalogServices hpattern =>
    rw [hempty] at hpattern
    cases hgiven : m.pattern with
    | none =>
      rw [hgiven] at hpattern
      exact absurd (Option.some.inj hpattern).symm (hfallback hgiven)
    | some p =>
      rw [hgiven] at hpattern
      exact hpattern.symm

end Monitor

/-- A pattern that is derived is not the empty one. -/
theorem Pattern.ofNames_ne_empty {names : List String} (h : names ≠ []) : ofNames names ≠ "" := by
  obtain ⟨name, names, rfl⟩ := List.exists_cons_of_ne_nil h
  have hstart : (ofNames (name :: names)).toList.head? = some '^' := by
    cases names <;> simp [ofNames, whole, List.intercalate]
  intro hempty
  rw [hempty] at hstart
  exact nomatch hstart

/-! ### Tasks -/

/-- **What the patterns of a task come to** once it is accepted. -/
structure Task.PatternsSurvive (before after : Task) : Prop where
  condition : before.condition.monitor.KeepsPatterns (Pattern.ofNames before.services)
    after.condition.monitor
  /-- A condition that derives its pattern has services to derive it from. -/
  derivable : ∀ m, before.condition.monitor = .catalogServices m → m.pattern = none →
    before.services ≠ []
  /-- No condition selects the whole catalog unless it says so. -/
  selective : ∀ m n, before.condition.monitor = .catalogServices m →
    after.condition.monitor = .catalogServices n → n.pattern = some "" → m.pattern = some ""
  inputs : List.Forall₂ (fun i j => i.monitor.KeepsPatterns "" j.monitor)
    (before.moduleInputs.items ++ before.sourceInputs.items) after.moduleInputs.items

namespace Task

variable {t : Task} {global : BufferPeriod} {root : String}

theorem monitor_finalize (t : Task) (global : BufferPeriod) (root : String) :
    (t.finalize global root).condition.monitor =
      derivePattern t.services t.condition.monitor.finalize := by
  rw [← Condition.monitor_finalize]
  rfl

/-- A condition on the catalog without a pattern is accepted only if services are listed. -/
theorem services_ne_nil_of_ok (h : (t.finalize global root).validate.outcome = .ok ())
    {m : CatalogServicesMonitor} (hm : t.condition.monitor = .catalogServices m)
    (hpattern : m.pattern = none) : t.services ≠ [] := by
  intro hnil
  obtain ⟨-, hhead, -⟩ := outcome_validate_eq_ok.mp h
  obtain ⟨-, hcatalog, -⟩ := checkTrigger_eq_ok.mp (checkHead_eq_ok.mp hhead).2.1
  have hmonitor : (t.finalize global root).condition.monitor = .catalogServices m.finalize := by
    rw [monitor_finalize, hm, hnil]
    simp [derivePattern, Monitor.finalize]
  exact hcatalog m.finalize hmonitor hpattern hnil

theorem keepsPatterns_condition (global : BufferPeriod) (root : String)
    (hlisted : ∀ m, t.condition.monitor = .catalogServices m → m.pattern = none →
      t.services ≠ []) :
    t.condition.monitor.KeepsPatterns (Pattern.ofNames t.services)
      (t.finalize global root).settle.condition.monitor := by
  change t.condition.monitor.KeepsPatterns _ (t.finalize global root).condition.monitor.settle
  rw [monitor_finalize]
  exact Monitor.keepsPatterns_derivePattern hlisted

theorem patternsSurvive_settle (hlisted : ∀ m, t.condition.monitor = .catalogServices m →
    m.pattern = none → t.services ≠ []) : t.PatternsSurvive (t.finalize global root).settle where
  condition := keepsPatterns_condition global root hlisted
  derivable := hlisted
  selective := by
    intro m n hm hn
    have hkept := keepsPatterns_condition global root hlisted
    rw [hm, hn] at hkept
    exact hkept.eq_empty fun hgiven => Pattern.ofNames_ne_empty (hlisted m hm hgiven)
  inputs := by
    change List.Forall₂ _ _ (((t.moduleInputs.items ++ t.sourceInputs.items).map
      ModuleInput.finalize).map fun i => (⟨i.monitor.settle⟩ : ModuleInput))
    rw [List.map_map]
    exact forall₂_map (fun i => i.monitor.keepsPatterns_settle) _

/-- **Patterns survive.** In a task that is accepted with its defaults filled in every pattern is
the one that was given, but for monitors of the catalog without one: the condition has the pattern
of the listed services then, and an input the empty one. A condition on the catalog with neither a
pattern nor services is refused. -/
theorem finalize_keeps_patterns (t : Task) (global : BufferPeriod) (root : String) :
    ((t.finalize global root).validate.outcome = .ok () →
      t.PatternsSurvive (t.finalize global root).validate.value) ∧
    (∀ m, t.condition.monitor = .catalogServices m → m.pattern = none → t.services = [] →
      (t.finalize global root).validate.outcome ≠ .ok ()) := by
  refine ⟨fun h => ?survives, fun m hm hpattern hnil h => ?refused⟩
  case survives =>
    rw [value_validate_of_ok h]
    exact patternsSurvive_settle fun _ => services_ne_nil_of_ok h
  case refused => exact services_ne_nil_of_ok h hm hpattern hnil

/-- A condition on the catalog that leaves its pattern to the listed services, and intentions from
any service to one. -/
def patternsUnset : Task where
  name := some "sync"
  module := some "m"
  services := ["api", "a.b"]
  condition := { monitor := .catalogServices {} }
  moduleInputs := ⟨[⟨.intentions {
    source := some { pattern := some "" }
    destination := some { names := ["db"] } }⟩]⟩

/-- The task is accepted and watches the two services; without its services it is refused. -/
theorem finalize_keeps_patterns_patternsUnset :
    (patternsUnset.finalize .builtIn "work").validate.outcome = .ok () ∧
      patternsUnset.PatternsSurvive (patternsUnset.finalize .builtIn "work").validate.value ∧
      (({ patternsUnset with services := [] } : Task).finalize .builtIn "work").validate.outcome ≠
        .ok () := by
  have haccepted : (patternsUnset.finalize .builtIn "work").validate.outcome = .ok () := by
    decide +kernel
  exact ⟨haccepted, (finalize_keeps_patterns patternsUnset .builtIn "work").1 haccepted,
    (finalize_keeps_patterns { patternsUnset with services := [] } .builtIn "work").2 {} rfl rfl
      rfl⟩

end Task

end AutomationConfig
