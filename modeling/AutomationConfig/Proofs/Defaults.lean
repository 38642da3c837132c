import AutomationConfig.Config
import AutomationConfig.Proofs.Quoting
import AutomationConfig.Proofs.Recording

/-! # Filling in defaults twice

Filling in the defaults of a block a second time changes nothing: a default that is inferred from
other settings is a setting once it is there, and a deprecated field is empty once it has been
moved. So a second run over a whole configuration changes nothing, and it repeats no advice but that
on the list of services, the one deprecated field that stays (`Config.finalize_twice`). -/

namespace AutomationConfig

/-! ### Blocks whose settings have defaults of their own -/

theorem Syslog.finalize_finalize (s : Syslog) : s.finalize.finalize = s.finalize := rfl

theorem Consul.finalize_finalize (c : Consul) (processors other : UInt64) :
    (c.finalize processors).finalize other = c.finalize processors := rfl

theorem Vault.finalize_finalize (v : Vault) (processors other : UInt64) :
    (v.finalize processors).finalize other = v.finalize processors := rfl

theorem ServerTls.finalize_finalize (t : ServerTls) : t.finalize.finalize = t.finalize := rfl

theorem Service.finalize_finalize (s : Service) : s.finalize.finalize = s.finalize := rfl

/-! ### Buffer periods -/

namespace BufferPeriod

/-- A buffer period with its defaults filled in does not wait, or it is enabled with two bounds. -/
theorem finalize_cases (b parent : BufferPeriod) :
    b.finalize parent = disabled ∨ ∃ lo hi, b.finalize parent = ⟨some true, some lo, some hi⟩ := by
  unfold finalize
  split
  · exact Or.inr ⟨_, _, rfl⟩
  · exact Or.inl rfl

/-- A second parent has nothing left to give. -/
theorem finalize_finalize (b parent other : BufferPeriod) :
    (b.finalize parent).finalize other = b.finalize parent := by
  rcases finalize_cases b parent with h | ⟨lo, hi, h⟩
  · rw [h]
    rfl
  · rw [h]
    rfl

end BufferPeriod

/-! ### The driver -/

theorem Backend.isEmpty_ofConsul (c : Consul) : (ofConsul c).isEmpty = false := rfl

theorem Terraform.isEmpty_backend_finalize (t : Terraform) (consul : Consul) :
    (t.finalize consul).backend.isEmpty = false := by
  change (if t.backend.isEmpty then Backend.ofConsul consul else t.backend).isEmpty = false
  split
  next => exact Backend.isEmpty_ofConsul consul
  next hgiven => exact Bool.eq_false_iff.mpr hgiven

theorem Terraform.finalize_finalize (t : Terraform) (consul : Consul) :
    (t.finalize consul).finalize consul = t.finalize consul := by
  rw [finalize, t.isEmpty_backend_finalize consul]
  rfl

theorem Driver.finalize_finalize (d : Driver) (consul : Consul) :
    (d.finalize consul).finalize consul = d.finalize consul :=
  congrArg (fun t => Driver.mk (some t)) (Terraform.finalize_finalize _ consul)

/-! ### Monitors and conditions -/

namespace Monitor

@[simp] theorem kind?_finalize (m : Monitor) : m.finalize.kind? = m.kind? := by
  cases m <;> rfl

@[simp] theorem feedsModule_finalize (m : Monitor) : m.finalize.feedsModule = m.feedsModule :=
  congrArg (fun kind? => kind?.any MonitorKind.feedsModule) m.kind?_finalize

@[simp] theorem finalize_finalize (m : Monitor) : m.finalize.finalize = m.finalize := by
  cases m <;> rfl

end Monitor

/-- A condition that filling in defaults leaves as it is and gives no advice on: its monitor has its
defaults, and if what is watched can be handed to the module, the flag says whether it is. -/
structure Condition.IsComplete (c : Condition) : Prop where
  monitor : c.monitor.finalize = c.monitor
  flag : c.monitor.feedsModule = true → c.useAsModuleInput ≠ none
  moved : c.monitor.feedsModule = true → c.sourceIncludesVar = none

namespace Condition

theorem monitor_finalize (c : Condition) : c.finalize.monitor = c.monitor.finalize := by
  unfold finalize
  split <;> rfl

theorem isComplete_finalize (c : Condition) : c.finalize.IsComplete := by
  unfold finalize
  split
  next hfeeds => exact ⟨c.monitor.finalize_finalize, fun _ => Option.some_ne_none _, fun _ => rfl⟩
  next hfeeds =>
    have hkept : ¬ c.monitor.finalize.feedsModule = true := by rwa [c.monitor.feedsModule_finalize]
    exact ⟨c.monitor.finalize_finalize, fun h => absurd h hkept, fun h => absurd h hkept⟩

namespace IsComplete

variable {c : Condition}

theorem finalize_eq (h : c.IsComplete) : c.finalize = c := by
  obtain ⟨monitor, use, old⟩ := c
  unfold finalize
  split
  next hfeeds =>
    obtain ⟨flag, hflag⟩ := Option.ne_none_iff_exists'.mp (h.flag hfeeds)
    have hmoved := h.moved hfeeds
    simp only at hflag hmoved
    subst hflag hmoved
    exact congrArg (fun m => Condition.mk m (some flag) none) h.monitor
  next => exact congrArg (fun m => Condition.mk m use old) h.monitor

theorem warnings_eq_nil (h : c.IsComplete) : c.warnings = [] := by
  unfold warnings
  split
  next hfeeds => rw [h.moved hfeeds]
  next => rfl

end IsComplete

end Condition

/-! ### Tasks -/

theorem ModuleInputs.finalize_finalize (inputs : ModuleInputs) :
    inputs.finalize.finalize = inputs.finalize := by
  have htwice : ModuleInput.finalize ∘ ModuleInput.finalize = ModuleInput.finalize :=
    funext fun i => congrArg ModuleInput.mk i.monitor.finalize_finalize
  rw [finalize, finalize, List.map_map, htwice]

theorem ModuleInputs.merge_empty (inputs : ModuleInputs) : inputs.merge {} = inputs :=
  congrArg ModuleInputs.mk (List.append_nil inputs.items)

namespace Task

variable {t : Task} {global : BufferPeriod} {root : String}

@[simp] theorem kind?_derivePattern (services : List String) (m : Monitor) :
    (derivePattern services m).kind? = m.kind? := by
  cases m with
  | catalogServices m =>
    rw [derivePattern]
    split <;> rfl
  | _ => rfl

theorem finalize_derivePattern (services : List String) (m : Monitor) :
    (derivePattern services m).finalize = derivePattern services m.finalize := by
  cases m with
  | catalogServices m =>
    rw [Monitor.finalize, derivePattern, derivePattern]
    split
    next hunset =>
      rw [if_pos (show (m.finalize.pattern.isNone && !services.isEmpty) from hunset)]
      rfl
    next hset =>
      rw [if_neg (show ¬ (m.finalize.pattern.isNone && !services.isEmpty) from hset)]
      rfl
  | _ => rfl

/-- A pattern that has been derived is set. -/
theorem derivePattern_derivePattern (services : List String) (m : Monitor) :
    derivePattern services (derivePattern services m) = derivePattern services m := by
  cases m with
  | catalogServices m =>
    by_cases hunset : (m.pattern.isNone && !services.isEmpty) = true
    · rw [derivePattern, if_pos hunset]
      rfl
    · have hkept : derivePattern services (.catalogServices m) = .catalogServices m := by
        rw [derivePattern, if_neg hunset]
      rw [hkept, hkept]
  | _ => rfl

theorem isComplete_finalizeCondition (t : Task) : t.finalizeCondition.IsComplete := by
  have hfeeds :
      t.finalizeCondition.monitor.feedsModule = t.condition.finalize.monitor.feedsModule :=
    congrArg (fun kind? => kind?.any MonitorKind.feedsModule) (kind?_derivePattern _ _)
  have hcomplete := t.condition.isComplete_finalize
  constructor
  case monitor =>
    exact (finalize_derivePattern _ _).trans (congrArg (derivePattern _) hcomplete.monitor)
  case flag =>
    intro h
    exact hcomplete.flag (hfeeds ▸ h)
  case moved =>
    intro h
    exact hcomplete.moved (hfeeds ▸ h)

theorem finalizeCondition_finalize :
    (t.finalize global root).finalizeCondition = t.finalizeCondition := by
  have hcondition : t.finalizeCondition.finalize = t.finalizeCondition :=
    t.isComplete_finalizeCondition.finalize_eq
  change { t.finalizeCondition.finalize with
    monitor := derivePattern t.services t.finalizeCondition.finalize.monitor } = t.finalizeCondition
  rw [hcondition]
  exact congrArg (fun m => { t.condition.finalize with monitor := m })
    (derivePattern_derivePattern _ _)

theorem isScheduled_finalize : (t.finalize global root).isScheduled = t.isScheduled := by
  have hkind : t.finalizeCondition.monitor.kind? = t.condition.monitor.kind? := by
    change (derivePattern t.services t.condition.finalize.monitor).kind? = _
    rw [kind?_derivePattern, Condition.monitor_finalize, Monitor.kind?_finalize]
  exact congrArg (fun kind? => decide (kind? = some MonitorKind.schedule)) hkind

theorem finalizeBufferPeriod_finalize :
    (t.finalize global root).finalizeBufferPeriod global = t.finalizeBufferPeriod global := by
  have hperiod : (t.finalize global root).bufferPeriod = some (t.finalizeBufferPeriod global) := rfl
  rw [finalizeBufferPeriod, isScheduled_finalize, hperiod, Option.getD_some]
  split
  next hscheduled => rw [finalizeBufferPeriod, if_pos hscheduled]
  next hfree =>
    rw [finalizeBufferPeriod, if_neg hfree]
    exact BufferPeriod.finalize_finalize _ _ _

theorem finalize_finalize :
    (t.finalize global root).finalize global root = t.finalize global root := by
  have hinputs : ((t.finalize global root).moduleInputs.merge
      (t.finalize global root).sourceInputs).finalize =
        (t.moduleInputs.merge t.sourceInputs).finalize :=
    (congrArg ModuleInputs.finalize (ModuleInputs.merge_empty _)).trans
      (ModuleInputs.finalize_finalize _)
  rw [finalize, finalizeCondition_finalize, finalizeBufferPeriod_finalize, hinputs]
  rfl

/-! ### Advice on tasks -/

/-- The advice on the deprecated list of services in a task of this name. -/
def servicesAdvice (name : String) : Diagnostic :=
  ⟨.deprecatedField, "task " ++ Text.quote name ++
    ": the `services` field is deprecated; use a `condition \"services\"` or " ++
      "`module_input \"services\"` block instead"⟩

theorem servicesAdvice_injective : Function.Injective servicesAdvice := fun a b h => by
  have hmessage := congrArg (fun d : Diagnostic => d.message.toList) h
  simp only [servicesAdvice, String.toList_append, List.append_assoc] at hmessage
  have hquoted := List.append_cancel_right (List.append_cancel_left hmessage)
  exact Text.quote_injective (String.toList_injective hquoted)

theorem servicesWarnings_eq (t : Task) :
    t.servicesWarnings = if t.services.isEmpty then [] else [servicesAdvice t.name.value] := rfl

/-- What is left to say of a task with its defaults filled in. -/
theorem warnings_finalize :
    (t.finalize global root).warnings =
      if t.services.isEmpty then [] else [servicesAdvice t.name.value] := by
  have hcondition : (t.finalize global root).condition.warnings = [] :=
    t.isComplete_finalizeCondition.warnings_eq_nil
  have hoverride : (t.finalize global root).overrideWarnings = [] := by
    have hperiod :
        (t.finalize global root).bufferPeriod = some (t.finalizeBufferPeriod global) := rfl
    rw [overrideWarnings, isScheduled_finalize, hperiod, finalizeBufferPeriod]
    by_cases hscheduled : t.isScheduled = true <;> simp [hscheduled]
  rw [warnings, hcondition, hoverride, List.append_nil, List.append_nil, servicesWarnings_eq]
  rfl

end Task

/-! ### The whole configuration -/

namespace Config

/-- The names of the tasks with a list of services, in order. -/
def tasksWithServices (c : Config) : List String :=
  (c.tasks.filter fun t => !t.services.isEmpty).map fun t => t.name.value

theorem finalBufferPeriod_finalize (c : Config) (processors : UInt64) :
    (c.finalize processors).finalBufferPeriod = c.finalBufferPeriod :=
  BufferPeriod.finalize_finalize _ _ _

theorem finalConsul_finalize (c : Config) (processors other : UInt64) :
    (c.finalize processors).finalConsul other = c.finalConsul processors :=
  Consul.finalize_finalize _ _ _

/-- A second run has nothing left to fill in, on whatever number of processors. -/
theorem finalize_finalize (c : Config) (processors other : UInt64) :
    (c.finalize processors).finalize other = c.finalize processors := by
  have htasks : (c.finalize processors).tasks.map
      (Task.finalize c.finalBufferPeriod c.finalWorkingDir) = (c.finalize processors).tasks := by
    change (c.tasks.map _).map _ = c.tasks.map _
    rw [List.map_map]
    exact List.map_congr_left fun t _ => Task.finalize_finalize
  have hservices : (c.finalize processors).services.map Service.finalize =
      (c.finalize processors).services := by
    change (c.services.map _).map _ = c.services.map _
    rw [List.map_map]
    exact List.map_congr_left fun s _ => s.finalize_finalize
  have hsyslog : ((c.finalize processors).syslog.getD {}).finalize =
      (c.syslog.getD {}).finalize :=
    Syslog.finalize_finalize _
  have hvault : ((c.finalize processors).vault.getD {}).finalize other =
      (c.vault.getD {}).finalize processors :=
    Vault.finalize_finalize _ _ _
  have hdriver : ((c.finalize processors).driver.getD {}).finalize (c.finalConsul processors) =
      (c.driver.getD {}).finalize (c.finalConsul processors) :=
    Driver.finalize_finalize _ _
  have htls : ((c.finalize processors).tls.getD {}).finalize = (c.tls.getD {}).finalize :=
    ServerTls.finalize_finalize _
  have hroot : (c.finalize processors).finalWorkingDir = c.finalWorkingDir := rfl
  rw [finalize, finalBufferPeriod_finalize, finalConsul_finalize, hroot, hsyslog, hvault, hdriver,
    htasks, hservices, htls]
  rfl

theorem flatMap_warnings_finalize (global : BufferPeriod) (root : String) (tasks : List Task) :
    (tasks.map (Task.finalize global root)).flatMap Task.warnings =
      ((tasks.filter fun t => !t.services.isEmpty).map fun t => t.name.value).map
        Task.servicesAdvice := by
  induction tasks with
  | nil => rfl
  | cons t tasks ih =>
    rw [List.map_cons, List.flatMap_cons, ih, Task.warnings_finalize]
    cases hservices : t.services.isEmpty <;> simp [hservices]

/-- **Filling in defaults twice is the same as once**, and the second run advises only on the lists
of services, once for each name of a task that has one. -/
theorem finalize_twice (c : Config) (processors : UInt64) :
    (c.finalize processors).finalize processors = c.finalize processors ∧
      (c.finalize processors).warnings.entries =
        c.tasksWithServices.eraseDups.map Task.servicesAdvice := by
  refine ⟨c.finalize_finalize processors processors, ?_⟩
  have hfound : (c.finalize processors).tasks.flatMap Task.warnings =
      c.tasksWithServices.map Task.servicesAdvice :=
    flatMap_warnings_finalize _ _ _
  rw [warnings, hfound]
  exact Diagnostics.entries_ofList_map Task.servicesAdvice_injective _

end Config

end AutomationConfig
