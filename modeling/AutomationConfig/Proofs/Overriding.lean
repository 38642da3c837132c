import AutomationConfig.Proofs.Advice
import AutomationConfig.Proofs.Modernizing

/-! # When a schedule overrides a buffer period

The buffer period of a task with a schedule becomes the disabled one, and there is advice on that if
the period that is given is another one. A period may come to the disabled one without being it: it
is switched off, or it says nothing and the global period is not enabled
(`BufferPeriod.finalize_eq_disabled_iff`). So advice is given on every period that the schedule
changes, and also on those that would have come to the same without it
(`Task.override_advised_iff`). -/

namespace AutomationConfig

/-! ### Periods that come to the disabled one -/

namespace BufferPeriod

variable {b parent : BufferPeriod}

theorem finalize_eq_disabled_iff_resolvesEnabled :
    b.finalize parent = .disabled ↔ b.resolvesEnabled parent = false := by
  unfold finalize
  split
  next henabled =>
    refine iff_of_false (fun heq => ?_) (by rw [henabled]; exact Bool.noConfusion)
    exact nomatch congrArg enabled heq
  next hdisabled => exact iff_of_true rfl (Bool.eq_false_iff.mpr hdisabled)

/-- A period comes to the disabled one if it is switched off, or if it says nothing and its parent
is not enabled. -/
theorem finalize_eq_disabled_iff : b.finalize parent = .disabled ↔
    b.enabled = some false ∨ b = {} ∧ parent.isEnabled = false := by
  rw [finalize_eq_disabled_iff_resolvesEnabled]
  constructor
  · intro h
    by_cases hoff : b.enabled = some false
    · exact .inl hoff
    · obtain ⟨hmin, hmax⟩ := eq_none_of_resolvesEnabled hoff h
      obtain ⟨enabled, min, max⟩ := b
      obtain rfl : min = none := hmin
      obtain rfl : max = none := hmax
      cases enabled with
      | none => exact .inr ⟨rfl, h⟩
      | some enabled => exact absurd (congrArg some h) hoff
  · rintro (hoff | ⟨rfl, hparent⟩)
    · rw [resolvesEnabled, hoff]
      rfl
    · exact hparent

end BufferPeriod

/-! ### The advice on them -/

/-- Advice on a moved field is no advice on a value that is overridden. -/
theorem Diagnostic.kind_ne_of_concernsMovedField {d : Diagnostic}
    (h : d.concernsMovedField = true) : d.kind ≠ .overriddenValue := fun hkind => by
  rw [concernsMovedField, hkind] at h
  exact Bool.false_ne_true h

namespace Task

variable {t : Task}

theorem kind_ne_of_mem_servicesWarnings {d : Diagnostic} (h : d ∈ t.servicesWarnings) :
    d.kind ≠ .overriddenValue := by
  unfold servicesWarnings at h
  split at h
  · exact absurd h List.not_mem_nil
  · rw [List.mem_singleton.mp h]
    exact nofun

/-- The advice on an overridden value is that on the buffer period. -/
theorem mem_warnings_and_overridden_iff {d : Diagnostic} :
    d ∈ t.warnings ∧ d.kind = .overriddenValue ↔ d ∈ t.overrideWarnings := by
  constructor
  · rintro ⟨hd, hkind⟩
    simp only [warnings, List.mem_append] at hd
    rcases hd with (((h | h) | h) | h) | h
    · exact absurd hkind (Diagnostic.kind_ne_of_concernsMovedField
        (t.concernsMovedField_of_mem_sourceWarnings h))
    · exact absurd hkind (Diagnostic.kind_ne_of_concernsMovedField
        (t.concernsMovedField_of_mem_sourceInputWarnings h))
    · exact absurd hkind (kind_ne_of_mem_servicesWarnings h)
    · exact absurd hkind (Diagnostic.kind_ne_of_concernsMovedField
        (t.condition.concernsMovedField_of_mem_warnings h))
    · exact h
  · exact fun h => ⟨List.mem_append_right _ h, kind_of_mem_overrideWarnings h⟩

theorem hasKind_overriddenValue_iff :
    (Diagnostics.ofList t.warnings).hasKind .overriddenValue = true ↔ t.overrideWarnings ≠ [] := by
  simp only [Diagnostics.hasKind, Diagnostics.entries_ofList, List.any_eq_true, List.mem_eraseDups,
    beq_iff_eq, mem_warnings_and_overridden_iff]
  exact ⟨fun ⟨_, hd⟩ => List.ne_nil_of_mem hd, List.exists_mem_of_ne_nil _⟩

/-- With a schedule there is advice on every period but the disabled one. -/
theorem hasKind_overriddenValue_of_schedule {m : ScheduleMonitor} {b : BufferPeriod}
    (hschedule : t.condition.monitor = .schedule m) (hperiod : t.bufferPeriod = some b) :
    (Diagnostics.ofList t.warnings).hasKind .overriddenValue = true ↔ b ≠ .disabled := by
  rw [hasKind_overriddenValue_iff, Ne, Ne, overrideWarnings_eq_nil_iff, not_iff_not, hperiod]
  constructor
  · intro h
    exact Option.some.inj ((h m hschedule).resolve_left (Option.some_ne_none b))
  · exact fun h _ _ => .inr (congrArg some h)

/-- **Every period that the schedule overrides is advised on, and some others.** There is advice on
the buffer period of a task with a schedule if it would come to another period than the disabled
one, or if it comes to that one, being switched off or saying nothing under a global period that is
not enabled, but does not spell it out. -/
theorem override_advised_iff {m : ScheduleMonitor} {b : BufferPeriod}
    (hschedule : t.condition.monitor = .schedule m) (hperiod : t.bufferPeriod = some b)
    (global : BufferPeriod) :
    (Diagnostics.ofList t.warnings).hasKind .overriddenValue = true ↔
      b.finalize global ≠ .disabled ∨
        b ≠ .disabled ∧ (b.enabled = some false ∨ b = {} ∧ global.isEnabled = false) := by
  rw [hasKind_overriddenValue_of_schedule hschedule hperiod,
    ← BufferPeriod.finalize_eq_disabled_iff]
  constructor
  · intro hother
    by_cases hfinal : b.finalize global = .disabled
    · exact .inr ⟨hother, hfinal⟩
    · exact .inl hfinal
  · rintro (hfinal | ⟨hother, -⟩) rfl
    · exact hfinal rfl
    · exact hother rfl

/-- A task that runs every day, with this buffer period. -/
def daily (b : BufferPeriod) : Task where
  bufferPeriod := some b
  condition := { monitor := .schedule { cron := some "@daily" } }

/-- There is advice on a period of five seconds, which the schedule overrides. -/
theorem override_advised_iff_daily :
    ((daily ⟨none, some (.ofSeconds 5), none⟩).condition.monitor =
        .schedule { cron := some "@daily" } ∧
      (daily ⟨none, some (.ofSeconds 5), none⟩).bufferPeriod =
        some ⟨none, some (.ofSeconds 5), none⟩) ∧
    (Diagnostics.ofList (daily ⟨none, some (.ofSeconds 5), none⟩).warnings).hasKind
      .overriddenValue = true :=
  ⟨⟨rfl, rfl⟩, (override_advised_iff rfl rfl .builtIn).mpr (.inl (by decide))⟩

/-- There is also advice on a period that is only switched off, which comes to the disabled one by
itself. -/
theorem override_advised_switchedOff :
    ¬ ∀ (t : Task) (m : ScheduleMonitor) (b given origin : BufferPeriod),
      t.condition.monitor = .schedule m → t.bufferPeriod = some b →
        ((Diagnostics.ofList t.warnings).hasKind .overriddenValue = true ↔
          b.finalize (given.finalize origin) ≠ .disabled) := by
  intro h
  have hadvised : (Diagnostics.ofList (daily { enabled := some false }).warnings).hasKind
      .overriddenValue = true :=
    (hasKind_overriddenValue_of_schedule rfl rfl).mpr (by decide)
  exact (h _ _ _ {} .builtIn rfl rfl).mp hadvised rfl

end Task

end AutomationConfig
