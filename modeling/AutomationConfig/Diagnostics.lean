/-! # Diagnostics

A diagnostic is advice on a configuration that does not make it invalid. Diagnostics are collected
in the order in which they arise, each once. -/

namespace AutomationConfig

/-- What a diagnostic is about. -/
inductive DiagnosticKind where
  /-- A field is used that another one supersedes. -/
  | deprecatedField
  /-- A deprecated field and its replacement are both set; the replacement counts. -/
  | conflictingDeprecatedField
  /-- A rule overrides a value that is set. -/
  | overriddenValue
deriving DecidableEq, Repr, Inhabited

namespace DiagnosticKind

/-- The name of a kind. -/
def name : DiagnosticKind → String
  | deprecatedField => "DeprecatedField"
  | conflictingDeprecatedField => "ConflictingDeprecatedField"
  | overriddenValue => "OverriddenValue"

/-- The kinds, in order. -/
def all : List DiagnosticKind := [deprecatedField, conflictingDeprecatedField, overriddenValue]

/-- The kind of a name. -/
def ofName? (name : String) : Option DiagnosticKind := all.find? fun k => k.name == name

/-- The place of a kind among all kinds. -/
def rank : DiagnosticKind → Nat
  | deprecatedField => 0
  | conflictingDeprecatedField => 1
  | overriddenValue => 2

instance : Ord DiagnosticKind := ⟨fun a b => compare a.rank b.rank⟩

end DiagnosticKind

/-- A piece of advice. -/
structure Diagnostic where
  kind : DiagnosticKind
  message : String
deriving DecidableEq, Repr, Inhabited

/-- Diagnostics in the order in which they were recorded, each once. -/
structure Diagnostics where
  entries : List Diagnostic := []
  nodup : entries.Nodup := by exact List.nodup_nil

namespace Diagnostics

/-- No diagnostics. -/
def empty : Diagnostics := {}

instance : EmptyCollection Diagnostics := ⟨empty⟩
instance : Inhabited Diagnostics := ⟨empty⟩

theorem ext_entries {a b : Diagnostics} (h : a.entries = b.entries) : a = b := by
  cases a; cases b; simpa using h

instance : DecidableEq Diagnostics := fun a b =>
  if h : a.entries = b.entries then isTrue (ext_entries h)
  else isFalse fun hab => h (hab ▸ rfl)

/-- Records a diagnostic unless it has been recorded. -/
def record (ds : Diagnostics) (d : Diagnostic) : Diagnostics :=
  if h : d ∈ ds.entries then ds
  else ⟨ds.entries ++ [d], by
    simp only [List.nodup_append, ds.nodup, List.nodup_cons, List.not_mem_nil, not_false_eq_true,
      List.nodup_nil, and_self, List.mem_singleton, forall_eq, true_and]
    exact fun a ha he => h (he ▸ ha)⟩

/-- Records diagnostics in order. -/
def recordAll (ds : Diagnostics) (found : List Diagnostic) : Diagnostics := found.foldl record ds

/-- The diagnostics of a list, in order and each once. -/
def ofList (found : List Diagnostic) : Diagnostics := recordAll ∅ found

/-- Records the diagnostics of another collection. -/
def extend (ds other : Diagnostics) : Diagnostics := ds.recordAll other.entries

/-- Whether some diagnostic is of the kind. -/
def hasKind (ds : Diagnostics) (kind : DiagnosticKind) : Bool := ds.entries.any (·.kind == kind)

/-- The number of diagnostics. -/
def size (ds : Diagnostics) : Nat := ds.entries.length

/-- Whether there are no diagnostics. -/
def isEmpty (ds : Diagnostics) : Bool := ds.entries.isEmpty

/-- The texts of the diagnostics. -/
def messages (ds : Diagnostics) : List String := ds.entries.map (·.message)

theorem entries_record (ds : Diagnostics) (d : Diagnostic) :
    (ds.record d).entries = if d ∈ ds.entries then ds.entries else ds.entries ++ [d] := by
  unfold record
  split <;> rfl

end Diagnostics

end AutomationConfig
