import AutomationConfig.Monitor
import AutomationConfig.Proofs.CronGrammar

/-! # Which monitors are valid

`Monitor.IsAcceptable` says kind by kind what a monitor must be like. Validation accepts exactly the
monitors that are like that (`Monitor.validate_accepts_iff`).

Instances of services and both sides of an intention are selected under one rule (`Selects`): a
pattern is set, or names are listed, and not both. The empty pattern counts as set. -/

namespace AutomationConfig

/-! ### Selections -/

/-- **Services are selected in exactly one way**: a pattern is set, which can be compiled, or there
are names, none of which is blank. -/
structure Selects (pattern : Setting String) (names : List String) : Prop where
  /-- A pattern is set if and only if there are no names. -/
  one : pattern ≠ none ↔ names = []
  compiles : ∀ p, pattern = some p → Pattern.accepts p = true
  named : ∀ n ∈ names, ∃ c ∈ n.toList, Text.isBlank c = false

theorem checkPattern_eq_ok {block field pattern : String} :
    checkPattern block field pattern = .ok () ↔ Pattern.accepts pattern = true := require_eq_ok

theorem checkNames_eq_ok {block field : String} {names : List String} :
    checkNames block field names = .ok () ↔
      ∀ n ∈ names, ∃ c ∈ n.toList, Text.isBlank c = false := by
  rw [checkNames, require_eq_ok]
  simp [Text.isAllBlank]

theorem checkSelection_eq_ok {block patternField namesField : String} {both neither : Violation}
    {pattern : Setting String} {names : List String} :
    checkSelection block patternField namesField both neither pattern names = .ok () ↔
      Selects pattern names := by
  cases pattern with
  | none =>
    cases names with
    | nil =>
      -- nothing is selected
      refine iff_of_false (fun h => nomatch h) fun h => ?_
      exact h.one.mpr rfl rfl
    | cons n names =>
      have hlisted : checkSelection block patternField namesField both neither none (n :: names) =
          checkNames block namesField (n :: names) := rfl
      rw [hlisted, checkNames_eq_ok]
      exact ⟨fun h => ⟨by simp, nofun, h⟩, Selects.named⟩
  | some p =>
    cases names with
    | nil =>
      have hset : checkSelection block patternField namesField both neither (some p) [] =
          checkPattern block patternField p := rfl
      rw [hset, checkPattern_eq_ok]
      refine ⟨fun h => ⟨by simp, fun q hq => ?_, by simp⟩, fun h => h.compiles p rfl⟩
      exact Option.some.inj hq ▸ h
    | cons n names =>
      -- what is selected is selected twice
      refine iff_of_false (fun h => nomatch h) fun h => ?_
      exact absurd (h.one.mp (Option.some_ne_none p)) (List.cons_ne_nil n names)

theorem accepts_empty : Pattern.accepts "" = true := by decide +kernel

/-- The empty pattern is a pattern, so it selects where there are no names. -/
theorem selects_empty_iff {names : List String} : Selects (some "") names ↔ names = [] := by
  refine ⟨fun h => h.one.mp (Option.some_ne_none ""), ?_⟩
  rintro rfl
  exact ⟨by simp, fun p hp => Option.some.inj hp ▸ accepts_empty, by simp⟩

/-! ### Monitors -/

/-- **What a monitor must be like** to pass validation. -/
inductive Monitor.IsAcceptable : Monitor → Prop
  | none : IsAcceptable .none
  | services {m : ServicesMonitor} (h : Selects m.pattern m.names) : IsAcceptable (.services m)
  | catalogServices {m : CatalogServicesMonitor}
      (h : ∀ p, m.pattern = some p → Pattern.accepts p = true) : IsAcceptable (.catalogServices m)
  | consulKv {m : KeyValueMonitor} {path : String} (h : m.path = some path) (hne : path ≠ "") :
      IsAcceptable (.consulKv m)
  | schedule {m : ScheduleMonitor} {cron : String} (h : m.cron = some cron)
      (hcron : Text.AmidBlanks (Cron.Expression Cron.SpellsLowered) cron.toList) :
      IsAcceptable (.schedule m)
  | intentions {m : IntentionsMonitor} {source destination : IntentionSide}
      (hsource : m.source = some source) (hdestination : m.destination = some destination)
      (hfrom : Selects source.pattern source.names)
      (hto : Selects destination.pattern destination.names) : IsAcceptable (.intentions m)

theorem CatalogServicesMonitor.check_eq_ok {m : CatalogServicesMonitor} :
    m.check = .ok () ↔ ∀ p, m.pattern = some p → Pattern.accepts p = true := by
  rw [check, checkPattern_eq_ok]
  cases m.pattern with
  | none => exact iff_of_true accepts_empty nofun
  | some p => exact ⟨fun h q hq => Option.some.inj hq ▸ h, fun h => h p rfl⟩

theorem KeyValueMonitor.check_eq_ok {m : KeyValueMonitor} :
    m.check = .ok () ↔ ∃ path, m.path = some path ∧ path ≠ "" := by
  rw [check, require_eq_ok]
  cases m.path <;> simp [Setting.isGiven, Scalar.zero]

/-- A schedule that is unset has no expression. -/
theorem ScheduleMonitor.check_eq_ok {m : ScheduleMonitor} :
    m.check = .ok () ↔ ∃ cron, m.cron = some cron ∧
      Text.AmidBlanks (Cron.Expression Cron.SpellsLowered) cron.toList := by
  cases hcron : m.cron with
  | none =>
    have hmissing : m.check = .error .cronMissing := by
      rw [check, hcron]
      rfl
    simp [hmissing]
  | some cron =>
    have hgiven : m.check = Cron.check cron := by rw [check, hcron]; rfl
    rw [hgiven, Cron.check_eq_ok]
    exact ⟨fun h => ⟨cron, rfl, h⟩, fun ⟨_, heq, h⟩ => Option.some.inj heq ▸ h⟩

theorem IntentionsMonitor.check_eq_ok {m : IntentionsMonitor} :
    m.check = .ok () ↔ ∃ source destination, m.source = some source ∧
      m.destination = some destination ∧ Selects source.pattern source.names ∧
        Selects destination.pattern destination.names := by
  cases hsource : m.source with
  | none => simp [check, hsource]
  | some source =>
    cases hdestination : m.destination with
    | none => simp [check, hsource, hdestination]
    | some destination =>
      have hsides : m.check = (source.check "source_services" >>= fun _ =>
          destination.check "destination_services") := by
        rw [check, hsource, hdestination]
      rw [hsides, bind_eq_ok, IntentionSide.check, IntentionSide.check, checkSelection_eq_ok,
        checkSelection_eq_ok]
      simp

namespace Monitor

/-- Checking a monitor of any kind is the check of that kind. -/
theorem check_eq_ok {m : Monitor} : m.check = .ok () ↔ m.IsAcceptable := by
  cases m with
  | none => exact iff_of_true rfl .none
  | services m =>
    refine Iff.trans checkSelection_eq_ok ⟨.services, fun h => ?_⟩
    cases h with
    | services h => exact h
  | catalogServices m =>
    refine Iff.trans CatalogServicesMonitor.check_eq_ok ⟨.catalogServices, fun h => ?_⟩
    cases h with
    | catalogServices h => exact h
  | consulKv m =>
    refine Iff.trans KeyValueMonitor.check_eq_ok ⟨fun ⟨_, h, hne⟩ => .consulKv h hne, fun h => ?_⟩
    cases h with
    | consulKv h hne => exact ⟨_, h, hne⟩
  | schedule m =>
    refine Iff.trans ScheduleMonitor.check_eq_ok
      ⟨fun ⟨_, h, hcron⟩ => .schedule h hcron, fun h => ?_⟩
    cases h with
    | schedule h hcron => exact ⟨_, h, hcron⟩
  | intentions m =>
    refine Iff.trans IntentionsMonitor.check_eq_ok ⟨?_, fun h => ?_⟩
    · rintro ⟨source, destination, hsource, hdestination, hfrom, hto⟩
      exact .intentions hsource hdestination hfrom hto
    · cases h with
      | intentions hsource hdestination hfrom hto =>
        exact ⟨_, _, hsource, hdestination, hfrom, hto⟩

/-- **Validation accepts a monitor** if and only if it is as its kind must be. The empty pattern is
one that is set: it is refused beside names and accepted without, for services and on either side of
an intention. -/
theorem validate_accepts_iff (m : Monitor) :
    (m.validate.outcome = .ok () ↔ m.IsAcceptable) ∧
    (∀ s : ServicesMonitor, s.pattern = some "" →
      ((services s).validate.outcome = .ok () ↔ s.names = [])) ∧
    ∀ (i : IntentionsMonitor) (source destination : IntentionSide),
      i.source = some source → i.destination = some destination →
        (source.pattern = some "" → ((intentions i).validate.outcome = .ok () ↔
          source.names = [] ∧ Selects destination.pattern destination.names)) ∧
        (destination.pattern = some "" → ((intentions i).validate.outcome = .ok () ↔
          Selects source.pattern source.names ∧ destination.names = [])) := by
  refine ⟨check_eq_ok, fun s hs => ?services, fun i source destination hsource hdestination => ?_⟩
  case services =>
    refine Iff.trans checkSelection_eq_ok ?_
    rw [hs]
    exact selects_empty_iff
  have hsides : (intentions i).validate.outcome = .ok () ↔
      Selects source.pattern source.names ∧ Selects destination.pattern destination.names := by
    refine Iff.trans IntentionsMonitor.check_eq_ok ?_
    simp [hsource, hdestination]
  refine ⟨fun h => ?source, fun h => ?destination⟩
  case source => rw [hsides, h, selects_empty_iff]
  case destination => rw [hsides, h, selects_empty_iff]

/-- The empty pattern beside a name. -/
def emptyPatternAndName : ServicesMonitor where
  pattern := some ""
  names := ["api"]

/-- Intentions from any service to one with a name. -/
def anyToNamed : IntentionsMonitor where
  source := some { pattern := some "" }
  destination := some { names := ["db"] }

/-- The one is refused and the other is accepted. -/
theorem validate_accepts_anyToNamed :
    emptyPatternAndName.pattern = some "" ∧
      (services emptyPatternAndName).validate.outcome ≠ .ok () ∧
      (intentions anyToNamed).validate.outcome = .ok () := by
  obtain ⟨-, hservices, hintentions⟩ := validate_accepts_iff (intentions anyToNamed)
  refine ⟨rfl, fun h => ?refused, ?accepted⟩
  case refused => exact nomatch (hservices emptyPatternAndName rfl).mp h
  case accepted =>
    refine ((hintentions anyToNamed _ _ rfl rfl).1 rfl).mpr ⟨rfl, by simp, nofun, ?_⟩
    exact List.forall_mem_singleton.mpr ⟨'d', by decide, by decide⟩

end Monitor

end AutomationConfig
