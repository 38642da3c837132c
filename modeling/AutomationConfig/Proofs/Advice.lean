import AutomationConfig.CommandLine.Run
import AutomationConfig.Proofs.Keeping
import AutomationConfig.Proofs.Recording

/-! # When there is nothing to advise

A task is up to date if it uses none of the deprecated words and has no buffer period that its
schedule overrides (`Task.IsUpToDate`). There is advice on a configuration unless all of its tasks
are up to date, since recording each piece of advice once loses all of it only where there is none.

Where advice is a failure, a run succeeds if it succeeds without that and the tasks of the merged
configuration are up to date; whether the configuration is printed makes no difference
(`strict_run_succeeds_iff`). -/

namespace AutomationConfig

namespace Diagnostics

theorem entries_ofList_eq_nil_iff {found : List Diagnostic} :
    (ofList found).entries = [] ↔ found = [] := by
  rw [entries_ofList]
  cases found with
  | nil => exact Iff.rfl
  | cons d found =>
    rw [List.eraseDups_cons]
    exact ⟨nofun, nofun⟩

theorem isEmpty_iff {ds : Diagnostics} : ds.isEmpty = true ↔ ds.entries = [] :=
  List.isEmpty_iff

end Diagnostics

/-! ### Conditions -/

/-- A condition gives advice only on the earlier name of its flag, and only where it can have the
flag. -/
theorem Condition.warnings_eq_nil_iff {c : Condition} : c.warnings = [] ↔
    ∀ kind ∈ [MonitorKind.services, .catalogServices, .consulKv],
      c.monitor.kind? = some kind → c.sourceIncludesVar = none := by
  constructor
  · intro h kind hkind hmonitor
    have hfeeds : c.monitor.feedsModule = true := feedsModule_iff.mpr ⟨kind, hkind, hmonitor⟩
    rw [warnings, if_pos hfeeds] at h
    cases hflag : c.sourceIncludesVar with
    | none => rfl
    | some old => simp [hflag] at h
  · intro h
    unfold warnings
    split
    next hfeeds =>
      obtain ⟨kind, hkind, hmonitor⟩ := feedsModule_iff.mp hfeeds
      rw [h kind hkind hmonitor]
    next => rfl

/-! ### Tasks -/

namespace Task

/-- **A task that needs no advice**: no source, no source inputs, no list of services, no earlier
name for the flag of its condition, and no buffer period beside a schedule but the one that does not
wait. -/
structure IsUpToDate (t : Task) : Prop where
  source : t.source = none ∨ t.source = some ""
  sourceInputs : t.sourceInputs.items = []
  services : t.services = []
  sourceIncludesVar : ∀ kind ∈ [MonitorKind.services, .catalogServices, .consulKv],
    t.condition.monitor.kind? = some kind → t.condition.sourceIncludesVar = none
  bufferPeriod : ∀ m, t.condition.monitor = .schedule m →
    t.bufferPeriod = none ∨ t.bufferPeriod = some .disabled

variable {t : Task}

theorem sourceWarnings_eq_nil_iff :
    t.sourceWarnings = [] ↔ t.source = none ∨ t.source = some "" := by
  unfold sourceWarnings
  cases hsource : t.source with
  | none => simp [Setting.isGiven]
  | some source =>
    by_cases hempty : source = ""
    · simp [Setting.isGiven, Scalar.zero, hempty]
    · simp [Setting.isGiven, Scalar.zero, hempty]

theorem sourceInputWarnings_eq_nil_iff :
    t.sourceInputWarnings = [] ↔ t.sourceInputs.items = [] := by
  unfold sourceInputWarnings ModuleInputs.isEmpty
  cases t.sourceInputs.items <;> simp

theorem servicesWarnings_eq_nil_iff : t.servicesWarnings = [] ↔ t.services = [] := by
  unfold servicesWarnings
  cases t.services <;> simp

theorem overrideWarnings_eq_nil_iff : t.overrideWarnings = [] ↔
    ∀ m, t.condition.monitor = .schedule m →
      t.bufferPeriod = none ∨ t.bufferPeriod = some .disabled := by
  have hscheduled := isScheduled_iff (t := t)
  have hperiod : t.bufferPeriod.any (· ≠ BufferPeriod.disabled) = false ↔
      t.bufferPeriod = none ∨ t.bufferPeriod = some .disabled := by
    cases t.bufferPeriod <;> simp
  unfold overrideWarnings
  split
  next hoverridden =>
    obtain ⟨hs, hp⟩ := Bool.and_eq_true_iff.mp hoverridden
    obtain ⟨m, hm⟩ := hscheduled.mp hs
    refine ⟨nofun, fun h => ?_⟩
    rw [hperiod.mpr (h m hm)] at hp
    exact nomatch hp
  next hkept =>
    refine ⟨fun _ m hm => hperiod.mp ?_, fun _ => rfl⟩
    rw [hscheduled.mpr ⟨m, hm⟩, Bool.true_and, Bool.not_eq_true] at hkept
    exact hkept

/-- There is no advice on a task if and only if it is up to date. -/
theorem warnings_eq_nil_iff : t.warnings = [] ↔ t.IsUpToDate := by
  simp only [warnings, List.append_eq_nil_iff, sourceWarnings_eq_nil_iff,
    sourceInputWarnings_eq_nil_iff, servicesWarnings_eq_nil_iff, Condition.warnings_eq_nil_iff,
    overrideWarnings_eq_nil_iff]
  constructor
  · rintro ⟨⟨⟨⟨hsource, hinputs⟩, hservices⟩, hflag⟩, hperiod⟩
    exact ⟨hsource, hinputs, hservices, hflag, hperiod⟩
  · rintro ⟨hsource, hinputs, hservices, hflag, hperiod⟩
    exact ⟨⟨⟨⟨hsource, hinputs⟩, hservices⟩, hflag⟩, hperiod⟩

end Task

/-- There is no advice on a configuration if and only if its tasks are up to date. -/
theorem Config.warnings_eq_nil_iff {c : Config} :
    c.warnings.entries = [] ↔ ∀ t ∈ c.tasks, t.IsUpToDate := by
  rw [warnings, Diagnostics.entries_ofList_eq_nil_iff, List.flatMap_eq_nil_iff]
  exact forall₂_congr fun _ _ => Task.warnings_eq_nil_iff

/-! ### Runs -/

namespace Storage

variable {s : Storage} {paths : List Path} {processors : UInt64}

/-- What has been merged is finished and validated, and the advice is that on what has been
merged. -/
theorem loadAndValidate_of_buildConfig {merged : Config} (h : s.buildConfig paths = .ok merged) :
    s.loadAndValidate paths processors =
      ((merged.finalize processors).validate.outcome.mapError .invalid >>= fun _ =>
        .ok ((merged.finalize processors).validate.value, merged.warnings)) := by
  rw [loadAndValidate, h]
  rfl

theorem exists_of_loadAndValidate {c : Config} {ds : Diagnostics}
    (h : s.loadAndValidate paths processors = .ok (c, ds)) :
    ∃ merged, s.buildConfig paths = .ok merged ∧ ds = merged.warnings := by
  cases hmerged : s.buildConfig paths with
  | error failure =>
    rw [loadAndValidate, hmerged] at h
    exact nomatch h
  | ok merged =>
    rw [loadAndValidate_of_buildConfig hmerged] at h
    cases hvalid : (merged.finalize processors).validate.outcome with
    | error v =>
      rw [hvalid] at h
      exact nomatch h
    | ok =>
      rw [hvalid] at h
      exact ⟨merged, rfl, (Prod.mk.inj (Except.ok.inj h)).2.symm⟩

end Storage

namespace Arguments

variable {a : Arguments} {s : Storage} {environment : Option String} {processors : UInt64}

/-- A run succeeds if and only if there is a configuration. -/
theorem exitCode_run_eq_zero_iff :
    (a.run environment s processors).exitCode = 0 ↔ ∃ c, a.load s processors = .ok c := by
  unfold run
  cases a.load s processors with
  | ok c => exact iff_of_true rfl ⟨c, rfl⟩
  | error failure =>
    have hfails : (1 : UInt8) ≠ 0 := by decide
    refine iff_of_false hfails ?_
    rintro ⟨c, hc⟩
    exact nomatch hc

/-- Advice stands in the way of a configuration only where it is a failure. -/
theorem load_eq_ok_iff {c : Config} : a.load s processors = .ok c ↔
    ∃ ds, s.loadAndValidate a.paths processors = .ok (c, ds) ∧
      (a.strict = true → ds.entries = []) := by
  unfold load
  cases s.loadAndValidate a.paths processors with
  | error failure => exact ⟨nofun, nofun⟩
  | ok loaded =>
    obtain ⟨config, ds⟩ := loaded
    change (if a.strict && !ds.isEmpty then Except.error (RunFailure.strict ds.messages)
      else Except.ok config) = Except.ok c ↔ _
    split
    next hadvice =>
      obtain ⟨hstrict, hds⟩ := Bool.and_eq_true_iff.mp hadvice
      refine ⟨nofun, ?_⟩
      rintro ⟨ds', hload, hnone⟩
      obtain ⟨-, rfl⟩ := Prod.mk.inj (Except.ok.inj hload)
      rw [Diagnostics.isEmpty_iff.mpr (hnone hstrict)] at hds
      exact nomatch hds
    next hquiet =>
      constructor
      · intro h
        obtain rfl := Except.ok.inj h
        refine ⟨ds, rfl, fun hstrict => ?_⟩
        rw [hstrict, Bool.true_and, Bool.not_eq_true, Bool.not_eq_false'] at hquiet
        exact Diagnostics.isEmpty_iff.mp hquiet
      · rintro ⟨ds', hload, -⟩
        obtain ⟨rfl, -⟩ := Prod.mk.inj (Except.ok.inj hload)
        rfl

/-- Where advice is a failure, there is a configuration if there is one otherwise and the tasks that
have been merged are up to date. -/
theorem exists_load_strict_iff : (∃ c, { a with strict := true }.load s processors = .ok c) ↔
    (∃ c, { a with strict := false }.load s processors = .ok c) ∧
      ∃ merged, s.buildConfig a.paths = .ok merged ∧ ∀ t ∈ merged.tasks, t.IsUpToDate := by
  constructor
  · rintro ⟨c, hc⟩
    obtain ⟨ds, hload, hnone⟩ := load_eq_ok_iff.mp hc
    obtain ⟨merged, hmerged, rfl⟩ := Storage.exists_of_loadAndValidate hload
    exact ⟨⟨c, load_eq_ok_iff.mpr ⟨merged.warnings, hload, nofun⟩⟩, merged, hmerged,
      Config.warnings_eq_nil_iff.mp (hnone rfl)⟩
  · rintro ⟨⟨c, hc⟩, merged, hmerged, huptodate⟩
    obtain ⟨ds, hload, -⟩ := load_eq_ok_iff.mp hc
    obtain ⟨merged', hmerged', rfl⟩ := Storage.exists_of_loadAndValidate hload
    obtain rfl : merged = merged' := Except.ok.inj (hmerged.symm.trans hmerged')
    exact ⟨c, load_eq_ok_iff.mpr ⟨merged.warnings, hload, fun _ =>
      Config.warnings_eq_nil_iff.mpr huptodate⟩⟩

/-- **Advice and success.** There is no advice on a configuration if and only if all of its tasks
are up to date. A run for which advice is a failure succeeds if and only if the run for which it is
none succeeds and the tasks of the merged configuration are up to date, and printing the
configuration changes nothing about success. -/
theorem strict_run_succeeds_iff :
    (∀ c : Config, c.warnings.entries = [] ↔ ∀ t ∈ c.tasks, t.IsUpToDate) ∧
    (∀ (a : Arguments) environment s processors,
      ({ a with strict := true }.run environment s processors).exitCode = 0 ↔
        ({ a with strict := false }.run environment s processors).exitCode = 0 ∧
          ∃ merged, s.buildConfig a.paths = .ok merged ∧ ∀ t ∈ merged.tasks, t.IsUpToDate) ∧
    ∀ (a : Arguments) environment s processors inspect,
      ({ a with inspect }.run environment s processors).exitCode = 0 ↔
        (a.run environment s processors).exitCode = 0 := by
  refine ⟨fun c => Config.warnings_eq_nil_iff, fun a environment s processors => ?strict,
    fun a environment s processors inspect => ?inspect⟩
  case strict =>
    rw [exitCode_run_eq_zero_iff, exitCode_run_eq_zero_iff]
    exact exists_load_strict_iff
  case inspect =>
    -- what is loaded does not depend on whether it is printed
    rw [exitCode_run_eq_zero_iff, exitCode_run_eq_zero_iff]
    exact Iff.rfl

end Arguments

end AutomationConfig
