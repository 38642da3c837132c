import AutomationConfig.Duration

/-! # Settings

A setting is a scalar that a configuration may leave unset. Being unset differs from being set to
the zero value: merging and filling in defaults look only at whether a setting is set, and a setting
is given when it is set to something other than the zero value. -/

namespace AutomationConfig

/-- A type of scalars, with the value that stands for nothing. -/
class Scalar (α : Type) where
  zero : α

instance : Scalar String := ⟨""⟩
instance : Scalar Bool := ⟨false⟩
instance : Scalar Int := ⟨0⟩
instance : Scalar Duration := ⟨.zero⟩

/-- A scalar that may be unset. -/
abbrev Setting (α : Type) := Option α

namespace Setting

variable {α : Type}

/-- The value, or the zero value if there is none. -/
def value [Scalar α] (s : Setting α) : α := s.getD Scalar.zero

/-- Whether the setting is set to something other than the zero value. -/
def isGiven [Scalar α] [DecidableEq α] (s : Setting α) : Bool := s.any (· ≠ Scalar.zero)

/-- The setting, set to a default if it is unset. -/
def orDefault (s : Setting α) (default : α) : Setting α := some (s.getD default)

/-- The later of two settings that is set. -/
def merge (base other : Setting α) : Setting α := Option.or other base

@[simp] theorem orDefault_some (a default : α) : orDefault (some a) default = some a := rfl

@[simp] theorem orDefault_none (default : α) : orDefault none default = some default := rfl

@[simp] theorem merge_none (s : Setting α) : merge s none = s := Option.none_or

@[simp] theorem none_merge (s : Setting α) : merge none s = s := Option.or_none

theorem merge_assoc (a b c : Setting α) : merge (merge a b) c = merge a (merge b c) :=
  Option.or_assoc.symm

@[simp] theorem merge_self (s : Setting α) : merge s s = s := Option.or_self

theorem isGiven_iff [Scalar α] [DecidableEq α] {s : Setting α} :
    s.isGiven = true ↔ s.value ≠ Scalar.zero := by
  cases s <;> simp [isGiven, value]

end Setting

end AutomationConfig
