import AutomationConfig.Proofs.Defaults
import AutomationConfig.Proofs.Keeping
import AutomationConfig.Proofs.TaskRules

/-! # Which buffer period a task gets

The buffer period of a task comes from three places: a schedule has none, a block of its own says
what it says, and what it leaves unset comes from the global period, which in turn takes what it
leaves unset from the built-in one. `Task.Buffered` lists what comes of it, and
`Config.finalize_resolves_periods` says that the defaults of a configuration come to that for each
of its tasks, and that a period without effect has no bounds left.

A period with its defaults filled in is resolved (`BufferPeriod.Resolved`): it does not wait, or it
is enabled with two bounds. All else that is said here of the global period as a parent rests on
that.

What a period takes from its parent fits what it gives itself, but for one thing: a greatest time
that is given may be below the least time that is inherited (`BufferPeriod.check_inherited_iff`). -/

namespace AutomationConfig

theorem Duration.longer_eq_left {lo hi : Duration} (h : lo ≤ hi) : hi.longer lo = hi :=
  congrArg mk (Nat.max_eq_left h)

/-! ### Resolved periods -/

namespace BufferPeriod

/-- A period that leaves nothing to inherit: it does not wait, or it is enabled with two bounds. -/
inductive Resolved : BufferPeriod → Prop
  | disabled : Resolved disabled
  | bounds (lo hi : Duration) : Resolved ⟨some true, some lo, some hi⟩

theorem resolved_finalize (b parent : BufferPeriod) : (b.finalize parent).Resolved := by
  rcases finalize_cases b parent with h | ⟨lo, hi, h⟩
  · rw [h]
    exact .disabled
  · rw [h]
    exact .bounds lo hi

/-- A resolved period that is not enabled has no bounds but zero. -/
theorem Resolved.bounds_eq_zero {b : BufferPeriod} (h : b.Resolved) (hoff : b.enabled ≠ some true) :
    b.min = some .zero ∧ b.max = some .zero := by
  cases h with
  | disabled => exact ⟨rfl, rfl⟩
  | bounds lo hi => exact absurd rfl hoff

/-- A resolved period has nothing to take from a parent. -/
theorem Resolved.finalize_eq {b : BufferPeriod} (h : b.Resolved) (parent : BufferPeriod) :
    b.finalize parent = b := by
  cases h <;> rfl

/-- Giving both bounds enables a period that is not switched off, and the parent has no say. -/
theorem finalize_of_bounds {enabled : Setting Bool} (henabled : enabled ≠ some false)
    (lo hi : Duration) (parent : BufferPeriod) :
    (⟨enabled, some lo, some hi⟩ : BufferPeriod).finalize parent =
      ⟨some true, some lo, some hi⟩ := by
  have hresolves : resolvesEnabled ⟨enabled, some lo, some hi⟩ parent = true := by
    cases enabled with
    | none => rfl
    | some b => simpa [resolvesEnabled] using henabled
  rw [finalize, if_pos hresolves]
  rfl

/-- A period that says nothing is what its parent is, if the bounds of that are in order. -/
theorem Resolved.finalize_empty {parent : BufferPeriod} (h : parent.Resolved)
    (hbounds : parent.min.value ≤ parent.max.value) :
    ({} : BufferPeriod).finalize parent = parent := by
  cases h with
  | disabled => rfl
  | bounds lo hi =>
    have hinherited : ({} : BufferPeriod).finalize ⟨some true, some lo, some hi⟩ =
        ⟨some true, some lo, some (hi.longer lo)⟩ := rfl
    have hordered : lo ≤ hi := hbounds
    rw [hinherited, Duration.longer_eq_left hordered]

/-! ### Bounds in order -/

theorem Resolved.min_eq {b : BufferPeriod} (h : b.Resolved) : b.min = some b.min.value := by
  cases h <;> rfl

/-- A greatest time that is inherited is not below the least time. -/
theorem check_inheritBounds_of_max_eq_none {b : BufferPeriod} (hmax : b.max = none)
    (parent : BufferPeriod) : (b.inheritBounds parent).check = .ok () := by
  have hinherited : (b.inheritBounds parent).max.value =
      (parent.max.getD defaultMax).longer (b.inheritBounds parent).min.value := by
    rw [inheritBounds, hmax]
    rfl
  rw [check_eq_ok, hinherited]
  exact Nat.le_max_right _ _

/-- A least time that is inherited stays as it is, whatever the greatest time is. -/
theorem check_inheritBounds_of_min_eq_none {b parent : BufferPeriod} {hi : Duration}
    (hmin : b.min = none) (hmax : b.max = some hi) (hparent : parent.Resolved) :
    (b.inheritBounds parent).check = .ok () ↔ parent.min.value ≤ hi := by
  have hlo : (b.inheritBounds parent).min.value = parent.min.value := by
    rw [inheritBounds, hmin, hparent.min_eq]
    rfl
  have hhi : (b.inheritBounds parent).max.value = hi := by
    rw [inheritBounds, hmax]
    rfl
  rw [check_eq_ok, hlo, hhi]

/-- **Inheriting keeps the bounds in order but in one case.** A period that gives one bound at most
is valid once it has inherited from a finished parent, unless it gives a greatest time below the
least time of the parent and is not switched off. -/
theorem check_inherited_iff (b given origin : BufferPeriod) (hone : b.min = none ∨ b.max = none) :
    (b.finalize (given.finalize origin)).check = .ok () ↔
      b.enabled = some false ∨ ∀ hi, b.max = some hi → (given.finalize origin).min.value ≤ hi := by
  have hparent : (given.finalize origin).Resolved := resolved_finalize given origin
  generalize given.finalize origin = parent at *
  cases hresolves : b.resolvesEnabled parent with
  | false =>
    have hperiod : b.finalize parent = disabled := by rw [finalize, hresolves]; rfl
    have hunset : b.enabled = some false ∨ b.max = none := by
      by_cases hoff : b.enabled = some false
      · exact .inl hoff
      · exact .inr (eq_none_of_resolvesEnabled hoff hresolves).2
    rw [hperiod]
    refine iff_of_true rfl (hunset.imp_right fun hmax hi hhi => ?_)
    exact absurd (hhi.symm.trans hmax) (Option.some_ne_none hi)
  | true =>
    have hperiod : b.finalize parent = b.inheritBounds parent := by rw [finalize, hresolves]; rfl
    have hon : b.enabled ≠ some false := fun hoff => by
      rw [resolvesEnabled, hoff] at hresolves
      exact Bool.false_ne_true hresolves
    rw [hperiod, or_iff_right hon]
    cases hmax : b.max with
    | none =>
      exact iff_of_true (check_inheritBounds_of_max_eq_none hmax parent) fun hi hhi =>
        absurd hhi.symm (Option.some_ne_none hi)
    | some hi =>
      have hmin : b.min = none := hone.resolve_right fun hnone =>
        Option.some_ne_none hi (hmax.symm.trans hnone)
      rw [check_inheritBounds_of_min_eq_none hmin hmax hparent]
      exact ⟨fun h _ heq => Option.some.inj heq ▸ h, fun h => h hi rfl⟩

/-- A greatest time of six seconds is enough for the least time that is built in. -/
theorem check_inherited_maxOfSix :
    (({ max := some (.ofSeconds 6) } : BufferPeriod).min = none ∨
      ({ max := some (.ofSeconds 6) } : BufferPeriod).max = none) ∧
    (({ max := some (.ofSeconds 6) } : BufferPeriod).finalize (builtIn.finalize builtIn)).check =
      .ok () :=
  ⟨.inl rfl, (check_inherited_iff _ _ _ (.inl rfl)).mpr
    (.inr fun hi heq => Option.some.inj heq ▸ (by decide))⟩

/-- One of three seconds is not: the period is refused for the least time that it has inherited from
a parent that is valid. -/
theorem check_inherited_maxOfThree :
    ¬ ∀ b given origin : BufferPeriod, b.min = none ∨ b.max = none →
      (given.finalize origin).min.value ≤ (given.finalize origin).max.value →
        (b.finalize (given.finalize origin)).check = .ok () := by
  intro h
  have hrefused : (({ max := some (.ofSeconds 3) } : BufferPeriod).finalize
      (builtIn.finalize builtIn)).check = .error (.bufferBounds (.ofSeconds 5) (.ofSeconds 3)) :=
    rfl
  rw [h { max := some (.ofSeconds 3) } builtIn builtIn (.inl rfl) (by decide)] at hrefused
  exact nomatch hrefused

end BufferPeriod

/-! ### Tasks -/

/-- **What the buffer period of a task comes to**, given the global one: a schedule does not wait, a
task without a period has the global one, two bounds stay as they are unless the period is switched
off, and a period that says nothing is the global one. -/
structure Task.Buffered (global : BufferPeriod) (before after : Task) : Prop where
  scheduled : ∀ m, before.condition.monitor = .schedule m → after.bufferPeriod = some .disabled
  inherited : (∀ m, before.condition.monitor ≠ .schedule m) → before.bufferPeriod = none →
    after.bufferPeriod = some global
  own : (∀ m, before.condition.monitor ≠ .schedule m) → ∀ enabled lo hi,
    before.bufferPeriod = some ⟨enabled, some lo, some hi⟩ → enabled ≠ some false →
      after.bufferPeriod = some ⟨some true, some lo, some hi⟩
  empty : (∀ m, before.condition.monitor ≠ .schedule m) → before.bufferPeriod = some {} →
    global.min.value ≤ global.max.value → after.bufferPeriod = some global

namespace Task

/-- The clock does not wait for changes. -/
theorem finalizeBufferPeriod_of_schedule {t : Task} {m : ScheduleMonitor}
    (h : t.condition.monitor = .schedule m) (global : BufferPeriod) :
    t.finalizeBufferPeriod global = .disabled := by
  rw [finalizeBufferPeriod, if_pos (isScheduled_iff.mpr ⟨m, h⟩)]

/-- Without a schedule the period is that of the task, or else the global one. -/
theorem finalizeBufferPeriod_of_not_schedule {t : Task}
    (h : ∀ m, t.condition.monitor ≠ .schedule m) (global : BufferPeriod) :
    t.finalizeBufferPeriod global = (t.bufferPeriod.getD global).finalize global := by
  have hfree : ¬ t.isScheduled = true := fun hscheduled =>
    (isScheduled_iff.mp hscheduled).elim h
  rw [finalizeBufferPeriod, if_neg hfree]

theorem resolved_finalizeBufferPeriod (t : Task) (global : BufferPeriod) :
    (t.finalizeBufferPeriod global).Resolved := by
  unfold finalizeBufferPeriod
  split
  next => exact .disabled
  next => exact BufferPeriod.resolved_finalize _ _

theorem buffered_finalize {global : BufferPeriod} (hglobal : global.Resolved) (root : String)
    (t : Task) : t.Buffered global (t.finalize global root) where
  scheduled := fun m hm => congrArg some (finalizeBufferPeriod_of_schedule hm global)
  inherited := fun hfree hnone => by
    have hperiod := finalizeBufferPeriod_of_not_schedule hfree global
    rw [hnone, Option.getD_none, hglobal.finalize_eq] at hperiod
    exact congrArg some hperiod
  own := fun hfree enabled lo hi hown henabled => by
    have hperiod := finalizeBufferPeriod_of_not_schedule hfree global
    rw [hown, Option.getD_some, BufferPeriod.finalize_of_bounds henabled] at hperiod
    exact congrArg some hperiod
  empty := fun hfree hempty hbounds => by
    have hperiod := finalizeBufferPeriod_of_not_schedule hfree global
    rw [hempty, Option.getD_some, hglobal.finalize_empty hbounds] at hperiod
    exact congrArg some hperiod

end Task

/-! ### The whole configuration -/

namespace Config

/-- The buffer periods of a configuration: the global one and those of its tasks. -/
inductive HasPeriod (c : Config) (b : BufferPeriod) : Prop
  | global (h : c.bufferPeriod = some b)
  | ofTask {t : Task} (ht : t ∈ c.tasks) (h : t.bufferPeriod = some b)

theorem resolved_of_hasPeriod {c : Config} {processors : UInt64} {b : BufferPeriod}
    (h : (c.finalize processors).HasPeriod b) : b.Resolved := by
  cases h with
  | global h =>
    obtain rfl : c.finalBufferPeriod = b := Option.some.inj h
    exact BufferPeriod.resolved_finalize _ _
  | ofTask ht h =>
    obtain ⟨given, -, rfl⟩ := List.mem_map.mp ht
    obtain rfl : given.finalizeBufferPeriod c.finalBufferPeriod = b := Option.some.inj h
    exact given.resolved_finalizeBufferPeriod _

/-- **Buffer periods are resolved.** Every task gets the buffer period that `Task.Buffered` says,
with the global period of the finished configuration, and a period that is not enabled has no bounds
but zero, the global one and that of a task. -/
theorem finalize_resolves_periods (c : Config) (processors : UInt64) :
    (∃ global, (c.finalize processors).bufferPeriod = some global ∧
      List.Forall₂ (Task.Buffered global) c.tasks (c.finalize processors).tasks) ∧
    ∀ b, (c.finalize processors).HasPeriod b → b.enabled ≠ some true →
      b.min = some .zero ∧ b.max = some .zero := by
  refine ⟨⟨c.finalBufferPeriod, rfl, ?tasks⟩, fun b hb hoff =>
    (resolved_of_hasPeriod hb).bounds_eq_zero hoff⟩
  have hglobal : c.finalBufferPeriod.Resolved := BufferPeriod.resolved_finalize _ _
  exact forall₂_map (Task.buffered_finalize hglobal c.finalWorkingDir) c.tasks

/-- The global period is switched off, and a task has bounds of its own. -/
def boundsOfOneTask : Config where
  bufferPeriod := some { enabled := some false }
  tasks := [{ bufferPeriod := some ⟨none, some (.ofSeconds 3), some (.ofSeconds 4)⟩ }]

/-- The task waits nevertheless, and the global period has lost its bounds. -/
theorem finalize_resolves_periods_boundsOfOneTask :
    (∃ t ∈ (boundsOfOneTask.finalize 4).tasks, t.bufferPeriod =
      some ⟨some true, some (.ofSeconds 3), some (.ofSeconds 4)⟩) ∧
    BufferPeriod.disabled.min = some .zero ∧ BufferPeriod.disabled.max = some .zero := by
  obtain ⟨⟨global, hglobal, htasks⟩, hoff⟩ := finalize_resolves_periods boundsOfOneTask 4
  refine ⟨?own, hoff .disabled (.global rfl) nofun⟩
  cases htasks with
  | cons h _ => exact ⟨_, List.mem_cons_self, h.own nofun none _ _ rfl nofun⟩

end Config

end AutomationConfig
