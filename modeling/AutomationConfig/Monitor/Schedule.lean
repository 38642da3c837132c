import AutomationConfig.Monitor.Cron
import AutomationConfig.Schema
import AutomationConfig.Setting

/-! # Schedules

Runs a task by the clock and not on changes. -/

namespace AutomationConfig

/-- A schedule. -/
structure ScheduleMonitor where
  cron : Setting String := none
deriving DecidableEq, Inhabited

namespace ScheduleMonitor

/-- The later of the settings of two fragments. -/
def merge (base other : ScheduleMonitor) : ScheduleMonitor := ⟨base.cron.merge other.cron⟩

/-- The block with its defaults filled in. -/
def finalize (m : ScheduleMonitor) : ScheduleMonitor := ⟨m.cron.orDefault ""⟩

/-- There is a cron expression, and it is one. -/
def check (m : ScheduleMonitor) : Except Violation Unit := Cron.check m.cron.value

instance : Block ScheduleMonitor where
  name := "ScheduleMonitorConfig"
  blank := {}
  fields := [Field.of "cron" cron fun v b => { b with cron := v }]

end ScheduleMonitor

end AutomationConfig
