import AutomationConfig.Schema
import AutomationConfig.Setting
import AutomationConfig.Violation

/-! # Buffer periods

A task waits after a change until nothing has changed for the least time of its buffer period, but
not longer than the greatest time. What a period leaves unset comes from its parent: for the period
of a task that is the global one. Giving a bound enables the period, and a period that is not
enabled has no bounds. -/

namespace AutomationConfig

/-- How long changes are gathered before a task runs. -/
structure BufferPeriod where
  enabled : Setting Bool := none
  min : Setting Duration := none
  max : Setting Duration := none
deriving DecidableEq, Inhabited

namespace BufferPeriod

/-- The least time where nothing else is given. -/
def defaultMin : Duration := .ofSeconds 5

/-- The greatest time where nothing else is given. -/
def defaultMax : Duration := .ofSeconds 20

/-- The period that the global one inherits from. -/
def builtIn : BufferPeriod := ⟨some true, some defaultMin, some defaultMax⟩

/-- The period that does not wait. -/
def disabled : BufferPeriod := ⟨some false, some .zero, some .zero⟩

/-- Whether the period is enabled. -/
def isEnabled (b : BufferPeriod) : Bool := b.enabled.value

/-- Whether the period gives no bound. -/
def isUnbounded (b : BufferPeriod) : Bool := b.min.isNone && b.max.isNone

/-- The later of the settings of two fragments. -/
def merge (base other : BufferPeriod) : BufferPeriod where
  enabled := base.enabled.merge other.enabled
  min := base.min.merge other.min
  max := base.max.merge other.max

/-- Whether the period is enabled once it has inherited from its parent. -/
def resolvesEnabled (b parent : BufferPeriod) : Bool :=
  b.enabled.getD (if b.isUnbounded then parent.isEnabled else true)

/-- The bounds of an enabled period. A greatest time that is inherited is not below the least
time. -/
def inheritBounds (b parent : BufferPeriod) : BufferPeriod :=
  let min := b.min.getD (parent.min.getD defaultMin)
  ⟨some true, some min, b.max.orDefault ((parent.max.getD defaultMax).longer min)⟩

/-- The period with what it inherits from its parent. -/
def finalize (b parent : BufferPeriod) : BufferPeriod :=
  if b.resolvesEnabled parent then b.inheritBounds parent else disabled

/-- The least time is not above the greatest time. -/
def check (b : BufferPeriod) : Except Violation Unit :=
  require (b.min.value ≤ b.max.value) (.bufferBounds b.min.value b.max.value)

instance : Block BufferPeriod where
  name := "BufferPeriodConfig"
  blank := {}
  fields := [
    Field.of "enabled" enabled fun v b => { b with enabled := v },
    (Field.of "min" BufferPeriod.min fun v b => { b with min := v }).optional,
    (Field.of "max" BufferPeriod.max fun v b => { b with max := v }).optional]

end BufferPeriod

end AutomationConfig
