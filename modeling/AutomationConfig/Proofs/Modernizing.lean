import AutomationConfig.Proofs.Recording
import AutomationConfig.Task.Warnings

/-! # Tasks in modern words

A task may use deprecated words: a source for its module, source inputs for its module inputs, and
an earlier name for the flag of its condition. `Task.modernize` says the same in the words that
replaced them. Filling in the defaults makes one task of both, and the advice on the modern task is
the advice on the other one without that on the fields that have moved
(`Task.modernize_equivalent`).

Advice on a moved field is told by how it ends (`Diagnostic.concernsMovedField`), since it starts
with the name of a task, which may be any text. -/

namespace AutomationConfig

/-! ### Advice on moved fields -/

namespace Diagnostic

/-- How the advice on a deprecated field ends if another field has taken its place. -/
def movedFieldEndings : List String :=
  [": the `source` field is deprecated; use `module` instead",
    ": the `source_input` block is deprecated; use `module_input` instead",
    " is deprecated; use `use_as_module_input` instead"]

/-- Whether advice is on a field that has moved: on its use, or on a conflict with the field that
took its place. -/
def concernsMovedField (d : Diagnostic) : Bool :=
  match d.kind with
  | .deprecatedField =>
    movedFieldEndings.any fun ending => ending.toList.isSuffixOf d.message.toList
  | .conflictingDeprecatedField => true
  | .overriddenValue => false

theorem concernsMovedField_of_ending {ending : String} (h : ending ∈ movedFieldEndings)
    (start : String) : concernsMovedField ⟨.deprecatedField, start ++ ending⟩ = true := by
  refine List.any_eq_true.mpr ⟨ending, h, ?_⟩
  rw [List.isSuffixOf_iff_suffix, String.toList_append]
  exact List.suffix_append _ _

/-- An ending that is no longer than the last part of a text is one of that part. -/
theorem isSuffixOf_append {ending rest : String} (start : String)
    (h : ending.toList.length ≤ rest.toList.length) :
    ending.toList.isSuffixOf (start ++ rest).toList = ending.toList.isSuffixOf rest.toList := by
  rw [Bool.eq_iff_iff, List.isSuffixOf_iff_suffix, List.isSuffixOf_iff_suffix,
    String.toList_append]
  exact ⟨fun hsuffix => List.suffix_of_suffix_length_le hsuffix (List.suffix_append _ _) h,
    fun hsuffix => hsuffix.trans (List.suffix_append _ _)⟩

variable {found : List Diagnostic}

theorem filter_moved (h : ∀ d ∈ found, d.concernsMovedField = true) :
    (found.filter fun d => !d.concernsMovedField) = [] :=
  List.filter_eq_nil_iff.mpr fun d hd => by simp [h d hd]

theorem filter_kept (h : ∀ d ∈ found, d.concernsMovedField = false) :
    (found.filter fun d => !d.concernsMovedField) = found :=
  List.filter_eq_self.mpr fun d hd => by simp [h d hd]

end Diagnostic

/-! ### Conditions -/

namespace Condition

/-- The condition with its flag under the modern name. Where both names are used, what the modern
one says stays. -/
def modernize (c : Condition) : Condition :=
  match c.monitor with
  | .services _ | .catalogServices _ | .consulKv _ =>
    { c with
      useAsModuleInput := c.useAsModuleInput.or c.sourceIncludesVar
      sourceIncludesVar := none }
  | .none | .schedule _ | .intentions _ => c

/-- The kinds whose flag has moved are those that can feed a module. -/
theorem modernize_eq (c : Condition) :
    c.modernize =
      if c.monitor.feedsModule then
        ⟨c.monitor, c.useAsModuleInput.or c.sourceIncludesVar, none⟩
      else c := by
  obtain ⟨monitor, use, old⟩ := c
  cases monitor <;> rfl

@[simp] theorem monitor_modernize (c : Condition) : c.modernize.monitor = c.monitor := by
  rw [modernize_eq]
  split <;> rfl

theorem finalize_modernize (c : Condition) : c.modernize.finalize = c.finalize := by
  rw [modernize_eq]
  split
  next hfeeds =>
    rw [finalize, finalize, if_pos hfeeds, if_pos hfeeds, Setting.none_merge]
    rfl
  next => rfl

theorem warnings_modernize (c : Condition) : c.modernize.warnings = [] := by
  rw [modernize_eq]
  split
  next hfeeds => rw [warnings, if_pos hfeeds]
  next hkept => rw [warnings, if_neg hkept]

theorem concernsMovedField_of_mem_warnings (c : Condition) {d : Diagnostic}
    (h : d ∈ c.warnings) : d.concernsMovedField = true := by
  unfold warnings at h
  split at h
  next =>
    cases hold : c.sourceIncludesVar with
    | none => simp [hold] at h
    | some old =>
      simp only [hold] at h
      rcases List.mem_cons.mp h with rfl | h
      · exact Diagnostic.concernsMovedField_of_ending (by decide) _
      · split at h
        · rw [List.mem_singleton.mp h]
          rfl
        · exact absurd h List.not_mem_nil
  next => exact absurd h List.not_mem_nil

end Condition

/-! ### Tasks -/

namespace Task

/-- The module in modern words: a source that is not empty counts if the module is unset or
empty. -/
def modernModule (t : Task) : Setting String :=
  if t.source.value ≠ "" ∧ t.module.value = "" then t.source else t.module

/-- The task in modern words. -/
def modernize (t : Task) : Task := { t with
  module := t.modernModule
  source := none
  condition := t.condition.modernize
  moduleInputs := ⟨t.moduleInputs.items ++ t.sourceInputs.items⟩
  sourceInputs := {} }

theorem effectiveModule_eq (t : Task) : t.effectiveModule = t.modernModule := by
  have hgiven : (t.source.isGiven && !t.module.isGiven) = true ↔
      t.source.value ≠ "" ∧ t.module.value = "" := by
    rw [Bool.and_eq_true, Bool.not_eq_true', ← Bool.not_eq_true, Setting.isGiven_iff,
      Setting.isGiven_iff, ne_eq, ne_eq, not_not]
    rfl
  unfold effectiveModule modernModule
  simp only [hgiven]

theorem effectiveModule_modernize (t : Task) : t.modernize.effectiveModule = t.effectiveModule :=
  (effectiveModule_eq t).symm

theorem isScheduled_modernize (t : Task) : t.modernize.isScheduled = t.isScheduled := by
  have hmonitor : t.modernize.condition.monitor = t.condition.monitor :=
    t.condition.monitor_modernize
  rw [isScheduled, hmonitor, isScheduled]

theorem finalizeCondition_modernize (t : Task) :
    t.modernize.finalizeCondition = t.finalizeCondition := by
  have hcondition : t.modernize.condition.finalize = t.condition.finalize :=
    t.condition.finalize_modernize
  rw [finalizeCondition, hcondition, finalizeCondition]
  rfl

theorem finalizeBufferPeriod_modernize (t : Task) (global : BufferPeriod) :
    t.modernize.finalizeBufferPeriod global = t.finalizeBufferPeriod global := by
  rw [finalizeBufferPeriod, isScheduled_modernize, finalizeBufferPeriod]
  rfl

theorem finalize_modernize (t : Task) (global : BufferPeriod) (root : String) :
    t.modernize.finalize global root = t.finalize global root := by
  have hinputs : t.modernize.moduleInputs.merge t.modernize.sourceInputs =
      t.moduleInputs.merge t.sourceInputs :=
    congrArg ModuleInputs.mk (List.append_nil _)
  rw [finalize, effectiveModule_modernize, finalizeBufferPeriod_modernize,
    finalizeCondition_modernize, hinputs, finalize]
  rfl

/-! ### The advice on them -/

theorem concernsMovedField_of_mem_sourceWarnings (t : Task) {d : Diagnostic}
    (h : d ∈ t.sourceWarnings) : d.concernsMovedField = true := by
  unfold sourceWarnings at h
  split at h
  · rcases List.mem_cons.mp h with rfl | h
    · exact Diagnostic.concernsMovedField_of_ending (by decide) _
    · split at h
      · rw [List.mem_singleton.mp h]
        rfl
      · exact absurd h List.not_mem_nil
  · exact absurd h List.not_mem_nil

theorem concernsMovedField_of_mem_sourceInputWarnings (t : Task) {d : Diagnostic}
    (h : d ∈ t.sourceInputWarnings) : d.concernsMovedField = true := by
  unfold sourceInputWarnings at h
  split at h
  · exact absurd h List.not_mem_nil
  · rw [List.mem_singleton.mp h]
    exact Diagnostic.concernsMovedField_of_ending (by decide) _

/-- The list of services is deprecated, but no field has taken its place. -/
theorem not_concernsMovedField_of_mem_servicesWarnings (t : Task) {d : Diagnostic}
    (h : d ∈ t.servicesWarnings) : d.concernsMovedField = false := by
  unfold servicesWarnings at h
  split at h
  · exact absurd h List.not_mem_nil
  · rw [List.mem_singleton.mp h, String.append_assoc]
    refine List.any_eq_false.mpr fun ending hending => ?_
    -- what follows the title is longer than each of the endings, so the title does not matter
    rw [Diagnostic.isSuffixOf_append _ (by revert ending; decide)]
    revert ending
    decide

theorem kind_of_mem_overrideWarnings {t : Task} {d : Diagnostic} (h : d ∈ t.overrideWarnings) :
    d.kind = .overriddenValue := by
  unfold overrideWarnings at h
  split at h
  · rw [List.mem_singleton.mp h]
  · exact absurd h List.not_mem_nil

theorem not_concernsMovedField_of_mem_overrideWarnings (t : Task) {d : Diagnostic}
    (h : d ∈ t.overrideWarnings) : d.concernsMovedField = false := by
  rw [Diagnostic.concernsMovedField, kind_of_mem_overrideWarnings h]

theorem warnings_modernize (t : Task) :
    t.modernize.warnings = t.servicesWarnings ++ t.overrideWarnings := by
  have hsource : t.modernize.sourceWarnings = [] := rfl
  have hinputs : t.modernize.sourceInputWarnings = [] := rfl
  have hservices : t.modernize.servicesWarnings = t.servicesWarnings := rfl
  have hcondition : t.modernize.condition.warnings = [] := t.condition.warnings_modernize
  have hoverride : t.modernize.overrideWarnings = t.overrideWarnings := by
    rw [overrideWarnings, isScheduled_modernize, overrideWarnings]
    rfl
  rw [warnings, hsource, hinputs, hservices, hcondition, hoverride, List.nil_append,
    List.nil_append, List.append_nil]

theorem filter_warnings (t : Task) :
    (t.warnings.filter fun d => !d.concernsMovedField) =
      t.servicesWarnings ++ t.overrideWarnings := by
  have hsource := Diagnostic.filter_moved fun _ => t.concernsMovedField_of_mem_sourceWarnings
  have hinputs := Diagnostic.filter_moved fun _ => t.concernsMovedField_of_mem_sourceInputWarnings
  have hservices := Diagnostic.filter_kept fun _ => t.not_concernsMovedField_of_mem_servicesWarnings
  have hcondition := Diagnostic.filter_moved fun _ => t.condition.concernsMovedField_of_mem_warnings
  have hoverride := Diagnostic.filter_kept fun _ => t.not_concernsMovedField_of_mem_overrideWarnings
  simp only [warnings, List.filter_append, hsource, hinputs, hservices, hcondition, hoverride,
    List.nil_append, List.append_nil]

/-- **A task means the same in modern words**: filling in its defaults gives the same task, whatever
the global buffer period and the directory for working directories, and of the advice on it only
that on moved fields is gone. -/
theorem modernize_equivalent (t : Task) (global : BufferPeriod) (root : String) :
    t.modernize.finalize global root = t.finalize global root ∧
      (∀ d ∈ (Diagnostics.ofList t.modernize.warnings).entries, d.concernsMovedField = false) ∧
      (Diagnostics.ofList t.modernize.warnings).entries =
        (Diagnostics.ofList t.warnings).entries.filter fun d => !d.concernsMovedField := by
  have hentries : (Diagnostics.ofList t.modernize.warnings).entries =
      (Diagnostics.ofList t.warnings).entries.filter fun d => !d.concernsMovedField := by
    rw [Diagnostics.entries_ofList, Diagnostics.entries_ofList, ← eraseDups_filter,
      filter_warnings, warnings_modernize]
  refine ⟨t.finalize_modernize global root, fun d hd => ?_, hentries⟩
  rw [hentries] at hd
  simpa using (List.mem_filter.mp hd).2

end Task

end AutomationConfig
