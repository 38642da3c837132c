import AutomationConfig.Proofs.Keeping
import AutomationConfig.Proofs.Modernizing
import AutomationConfig.Proofs.Quoting
import AutomationConfig.Proofs.TaskRules
import Mathlib.Data.List.Nodup
import Mathlib.Data.List.Perm.Subperm
import Mathlib.Data.List.ProdSigma

/-! # How many deprecated words are reported

A task may use four deprecated words (`DeprecatedWord`), and what it uses (`Task.Uses`) is what it
gets advice on. The advice of a configuration has every piece once, so it is as long as the uses are
many only if no two of them have the same piece. The advice on a word tells which word it is, and
for three of the words it names the task; on the flag of a condition it names only the kind of the
condition (`Task.subject`). With distinct names of tasks that is the one way for a use to go
unreported: two tasks have the flag on conditions of the same kind (`Config.deprecations_counted`).
-/

namespace AutomationConfig

/-- A list without repetition that has the members of another one is as long as that one if and only
if that one has no repetition either. -/
theorem length_eq_iff_nodup {α : Type} {l m : List α} (hl : l.Nodup) (hmem : ∀ a, a ∈ l ↔ a ∈ m) :
    l.length = m.length ↔ m.Nodup := by
  constructor
  · intro hlength
    have hsub : l.Subperm m := hl.subperm fun a ha => (hmem a).mp ha
    exact (hsub.perm_of_length_le (Nat.le_of_eq hlength.symm)).nodup_iff.mp hl
  · intro hm
    exact ((List.perm_ext_iff_of_nodup hl hm).mpr hmem).length_eq

/-! ### Words -/

/-- A deprecated word that a task may use. -/
inductive DeprecatedWord where
  | source
  | sourceInput
  | services
  | sourceIncludesVar
deriving DecidableEq

namespace DeprecatedWord

/-- The deprecated words. -/
def all : List DeprecatedWord := [source, sourceInput, services, sourceIncludesVar]

/-- What the advice on a word says before it names what uses the word. -/
def front : DeprecatedWord → String
  | source | sourceInput | services => "task "
  | sourceIncludesVar => "the `source_includes_var` field in condition "

/-- What it says next. -/
def middle : DeprecatedWord → String
  | source => ": the `source` field is deprecated; use "
  | sourceInput => ": the `source_input` block is deprecated; use "
  | services => ": the `services` field is deprecated; use a `condition \"services\"` or "
  | sourceIncludesVar => " is deprecated; use "

/-- What it names at last as to be used instead. -/
def successor : DeprecatedWord → String
  | source => "`module`"
  | sourceInput => "`module_input`"
  | services => "`module_input \"services\"` block"
  | sourceIncludesVar => "`use_as_module_input`"

/-- The advice on a word that something of this name uses. -/
def advice (word : DeprecatedWord) (subject : String) : Diagnostic :=
  ⟨.deprecatedField, word.front ++ Text.quote subject ++
    (word.middle ++ word.successor ++ " instead")⟩

theorem mem_all (word : DeprecatedWord) : word ∈ all := by
  cases word <;> decide

theorem exists_iff {p : DeprecatedWord → Prop} :
    (∃ word, p word) ↔ p source ∨ p sourceInput ∨ p services ∨ p sourceIncludesVar := by
  constructor
  · rintro ⟨word, h⟩
    cases word <;> simp [h]
  · rintro (h | h | h | h) <;> exact ⟨_, h⟩

theorem eq_of_successor_suffix : ∀ v ∈ all, ∀ w ∈ all,
    v.successor.toList <:+ w.successor.toList → v = w := by
  decide +kernel

/-- The advice tells which word it is about, and what uses the word. -/
theorem advice_inj {v w : DeprecatedWord} {a b : String} (h : v.advice a = w.advice b) :
    v = w ∧ a = b := by
  have hmessage := congrArg (fun d : Diagnostic => d.message.toList) h
  simp only [advice, String.toList_append, ← List.append_assoc] at hmessage
  -- no word for what is to be used instead ends in another one, so the end of the message tells
  -- which word it is, and what is left between its fixed parts is the name in quotes
  have hsuccessor := List.append_cancel_right hmessage
  have hsuffix : v.successor.toList <:+ w.successor.toList ∨
      w.successor.toList <:+ v.successor.toList :=
    List.suffix_or_suffix_of_suffix ⟨_, hsuccessor⟩ (List.suffix_append _ _)
  have hword : v = w := hsuffix.elim (eq_of_successor_suffix v (mem_all v) w (mem_all w))
    fun h => (eq_of_successor_suffix w (mem_all w) v (mem_all v) h).symm
  subst hword
  have hquoted := List.append_cancel_left
    (List.append_cancel_right (List.append_cancel_right hsuccessor))
  exact ⟨rfl, Text.quote_injective (String.toList_injective hquoted)⟩

end DeprecatedWord

/-! ### Tasks -/

namespace Task

/-- **A task uses a deprecated word**: it has a source, source inputs, a list of services, or the
earlier name for the flag of a condition that can have the flag. -/
def Uses (t : Task) : DeprecatedWord → Prop
  | .source => t.source ≠ none ∧ t.source ≠ some ""
  | .sourceInput => t.sourceInputs.items ≠ []
  | .services => t.services ≠ []
  | .sourceIncludesVar =>
    (∃ kind ∈ [MonitorKind.services, .catalogServices, .consulKv],
      t.condition.monitor.kind? = some kind) ∧ t.condition.sourceIncludesVar ≠ none

instance (t : Task) : DecidablePred t.Uses
  | .source => inferInstanceAs (Decidable (t.source ≠ none ∧ t.source ≠ some ""))
  | .sourceInput => inferInstanceAs (Decidable (t.sourceInputs.items ≠ []))
  | .services => inferInstanceAs (Decidable (t.services ≠ []))
  | .sourceIncludesVar => inferInstanceAs (Decidable
      ((∃ kind ∈ [MonitorKind.services, .catalogServices, .consulKv],
        t.condition.monitor.kind? = some kind) ∧ t.condition.sourceIncludesVar ≠ none))

/-- What the advice on a word names: the task, or for the flag the kind of its condition. -/
def subject (t : Task) : DeprecatedWord → String
  | .source | .sourceInput | .services => t.name.value
  | .sourceIncludesVar => t.condition.monitor.variableType

variable {t : Task} {d : Diagnostic}

theorem subject_of_ne {word : DeprecatedWord} (h : word ≠ .sourceIncludesVar) :
    t.subject word = t.name.value := by
  cases word <;> first | rfl | exact absurd rfl h

/-- A conflict between a deprecated word and its successor is no advice on the word itself. -/
theorem mem_cons_conflict_iff {use conflict : String} {p : Prop} [Decidable p] :
    (d ∈ (⟨.deprecatedField, use⟩ : Diagnostic) ::
        if p then [⟨.conflictingDeprecatedField, conflict⟩] else []) ∧
      d.kind = .deprecatedField ↔ d = ⟨.deprecatedField, use⟩ := by
  have hkinds : DiagnosticKind.conflictingDeprecatedField ≠ .deprecatedField := by decide
  constructor
  · rintro ⟨hd, hkind⟩
    rcases List.mem_cons.mp hd with rfl | hd
    · rfl
    · split at hd
      · rw [List.mem_singleton.mp hd] at hkind
        exact absurd hkind hkinds
      · exact absurd hd List.not_mem_nil
  · rintro rfl
    exact ⟨List.mem_cons_self, rfl⟩

theorem mem_sourceWarnings_iff : d ∈ t.sourceWarnings ∧ d.kind = .deprecatedField ↔
    t.Uses .source ∧ d = DeprecatedWord.source.advice (t.subject .source) := by
  have hgiven : t.source.isGiven = true ↔ t.Uses .source := by
    unfold Uses
    cases t.source <;> simp [Setting.isGiven, Scalar.zero]
  unfold sourceWarnings
  split
  next hsource =>
    rw [and_iff_right (hgiven.mp hsource)]
    exact mem_cons_conflict_iff
  next hnone =>
    rw [hgiven] at hnone
    simp [hnone]

theorem mem_sourceInputWarnings_iff : d ∈ t.sourceInputWarnings ∧ d.kind = .deprecatedField ↔
    t.Uses .sourceInput ∧ d = DeprecatedWord.sourceInput.advice (t.subject .sourceInput) := by
  unfold sourceInputWarnings ModuleInputs.isEmpty Uses
  cases t.sourceInputs.items with
  | nil => simp
  | cons input inputs =>
    rw [List.isEmpty_cons, if_neg Bool.false_ne_true, List.mem_singleton,
      and_iff_right (List.cons_ne_nil _ _)]
    exact and_iff_left_of_imp fun h => h ▸ rfl

theorem mem_servicesWarnings_iff : d ∈ t.servicesWarnings ∧ d.kind = .deprecatedField ↔
    t.Uses .services ∧ d = DeprecatedWord.services.advice (t.subject .services) := by
  unfold servicesWarnings Uses
  cases t.services with
  | nil => simp
  | cons service services =>
    rw [List.isEmpty_cons, if_neg Bool.false_ne_true, List.mem_singleton,
      and_iff_right (List.cons_ne_nil _ _), String.append_assoc]
    exact and_iff_left_of_imp fun h => h ▸ rfl

theorem uses_sourceIncludesVar_iff : t.Uses .sourceIncludesVar ↔
    t.condition.monitor.feedsModule = true ∧ t.condition.sourceIncludesVar ≠ none :=
  and_congr_left fun _ => Condition.feedsModule_iff.symm

theorem mem_conditionWarnings_iff : d ∈ t.condition.warnings ∧ d.kind = .deprecatedField ↔
    t.Uses .sourceIncludesVar ∧
      d = DeprecatedWord.sourceIncludesVar.advice (t.subject .sourceIncludesVar) := by
  rw [uses_sourceIncludesVar_iff]
  unfold Condition.warnings
  split
  next hfeeds =>
    cases hflag : t.condition.sourceIncludesVar with
    | none => simp
    | some old =>
      have huses : t.condition.monitor.feedsModule = true ∧ some old ≠ none :=
        ⟨hfeeds, Option.some_ne_none old⟩
      rw [and_iff_right huses]
      exact mem_cons_conflict_iff
  next hother => simp [hother]

/-- The advice on the deprecated words of a task. -/
theorem mem_warnings_and_deprecated_iff : d ∈ t.warnings ∧ d.kind = .deprecatedField ↔
    ∃ word, t.Uses word ∧ d = word.advice (t.subject word) := by
  have hoverride : ¬ (d ∈ t.overrideWarnings ∧ d.kind = .deprecatedField) := fun h =>
    nomatch (kind_of_mem_overrideWarnings h.1).symm.trans h.2
  simp only [warnings, List.mem_append, or_and_right, mem_sourceWarnings_iff,
    mem_sourceInputWarnings_iff, mem_servicesWarnings_iff, mem_conditionWarnings_iff, hoverride,
    or_false, DeprecatedWord.exists_iff, or_assoc]

end Task

/-! ### Configurations -/

namespace Config

/-- The advice on deprecated words. -/
def deprecations (c : Config) : List Diagnostic :=
  c.warnings.entries.filter fun d => d.kind = .deprecatedField

/-- The tasks, each with the deprecated words that it uses. -/
def deprecatedUses (c : Config) : List (Task × DeprecatedWord) :=
  (c.tasks ×ˢ DeprecatedWord.all).filter fun use => use.1.Uses use.2

/-- The uses of words whose advice names the task. -/
def namedUses (c : Config) : List (Task × DeprecatedWord) :=
  c.deprecatedUses.filter fun use => use.2 ≠ .sourceIncludesVar

/-- The uses of the word whose advice does not name the task. -/
def flagUses (c : Config) : List (Task × DeprecatedWord) :=
  c.deprecatedUses.filter fun use => use.2 = .sourceIncludesVar

/-- The kinds of the conditions with the earlier name for their flag. -/
def flaggedKinds (c : Config) : List MonitorKind :=
  [MonitorKind.services, .catalogServices, .consulKv].filter fun kind =>
    ∃ t ∈ c.tasks, t.Uses .sourceIncludesVar ∧ t.condition.monitor.kind? = some kind

variable {c : Config}

theorem mem_deprecations_iff {d : Diagnostic} : d ∈ c.deprecations ↔
    ∃ t ∈ c.tasks, ∃ word, t.Uses word ∧ d = word.advice (t.subject word) := by
  rw [deprecations, List.mem_filter, warnings, Diagnostics.entries_ofList, List.mem_eraseDups,
    List.mem_flatMap, decide_eq_true_iff]
  simp only [← Task.mem_warnings_and_deprecated_iff]
  constructor
  · rintro ⟨⟨t, ht, hd⟩, hkind⟩
    exact ⟨t, ht, hd, hkind⟩
  · rintro ⟨t, ht, hd, hkind⟩
    exact ⟨⟨t, ht, hd⟩, hkind⟩

theorem mem_deprecatedUses_iff {t : Task} {word : DeprecatedWord} :
    (t, word) ∈ c.deprecatedUses ↔ t ∈ c.tasks ∧ t.Uses word := by
  rw [deprecatedUses, List.mem_filter, decide_eq_true_iff, List.mem_product,
    and_iff_left (DeprecatedWord.mem_all word)]

theorem mem_namedUses_iff {t : Task} {word : DeprecatedWord} :
    (t, word) ∈ c.namedUses ↔ (t ∈ c.tasks ∧ t.Uses word) ∧ word ≠ .sourceIncludesVar := by
  rw [namedUses, List.mem_filter, mem_deprecatedUses_iff, decide_eq_true_iff]

theorem mem_flagUses_iff {t : Task} {word : DeprecatedWord} :
    (t, word) ∈ c.flagUses ↔ (t ∈ c.tasks ∧ t.Uses word) ∧ word = .sourceIncludesVar := by
  rw [flagUses, List.mem_filter, mem_deprecatedUses_iff, decide_eq_true_iff]

theorem length_deprecatedUses :
    c.deprecatedUses.length = c.namedUses.length + c.flagUses.length := by
  rw [List.length_eq_length_filter_add fun use => decide (use.2 ≠ .sourceIncludesVar)]
  simp [namedUses, flagUses]

theorem mem_flaggedKinds_iff {kind : MonitorKind} : kind ∈ c.flaggedKinds ↔
    ∃ t ∈ c.tasks, t.Uses .sourceIncludesVar ∧ t.condition.monitor.kind? = some kind := by
  rw [flaggedKinds, List.mem_filter, decide_eq_true_iff]
  refine and_iff_right_of_imp ?_
  rintro ⟨t, -, ⟨⟨found, hfound, hkind⟩, -⟩, hkind'⟩
  exact Option.some.inj (hkind.symm.trans hkind') ▸ hfound

theorem mem_map_flaggedKinds_iff {found : Option MonitorKind} :
    found ∈ c.flaggedKinds.map some ↔
      found ∈ c.flagUses.map fun use => use.1.condition.monitor.kind? := by
  rw [List.mem_map, List.mem_map]
  constructor
  · rintro ⟨kind, hkind, rfl⟩
    obtain ⟨t, ht, huses, hkind⟩ := mem_flaggedKinds_iff.mp hkind
    exact ⟨(t, .sourceIncludesVar), mem_flagUses_iff.mpr ⟨⟨ht, huses⟩, rfl⟩, hkind⟩
  · rintro ⟨⟨t, word⟩, huse, rfl⟩
    obtain ⟨⟨ht, huses⟩, rfl⟩ := mem_flagUses_iff.mp huse
    obtain ⟨kind, -, hkind⟩ := huses.1
    exact ⟨kind, mem_flaggedKinds_iff.mpr ⟨t, ht, huses, hkind⟩, hkind.symm⟩

theorem nodup_deprecations : c.deprecations.Nodup := c.warnings.nodup.filter _

theorem nodup_flaggedKinds : c.flaggedKinds.Nodup :=
  List.Nodup.filter _ (by decide)

/-- What each piece of advice on a deprecated word is about: the word and the name that it gives, of
a task or of a kind of condition. -/
def advised (c : Config) : List (DeprecatedWord × String) :=
  c.namedUses.map (fun use => (use.2, use.1.name.value)) ++
    c.flaggedKinds.map fun kind => (.sourceIncludesVar, kind.name)

theorem mem_advised_iff {word : DeprecatedWord} {subject : String} : (word, subject) ∈ c.advised ↔
    ∃ t ∈ c.tasks, t.Uses word ∧ t.subject word = subject := by
  rw [advised, List.mem_append, List.mem_map, List.mem_map]
  constructor
  · rintro (⟨⟨t, used⟩, huse, heq⟩ | ⟨kind, hkind, heq⟩)
    · obtain ⟨rfl, rfl⟩ := Prod.mk.inj heq
      obtain ⟨⟨ht, huses⟩, hnamed⟩ := mem_namedUses_iff.mp huse
      exact ⟨t, ht, huses, Task.subject_of_ne hnamed⟩
    · obtain ⟨rfl, rfl⟩ := Prod.mk.inj heq
      obtain ⟨t, ht, huses, hkind⟩ := mem_flaggedKinds_iff.mp hkind
      exact ⟨t, ht, huses, Monitor.variableType_of_kind? hkind⟩
  · rintro ⟨t, ht, huses, rfl⟩
    by_cases hword : word = .sourceIncludesVar
    · subst hword
      obtain ⟨kind, -, hkind⟩ := huses.1
      exact .inr ⟨kind, mem_flaggedKinds_iff.mpr ⟨t, ht, huses, hkind⟩,
        Prod.ext rfl (Monitor.variableType_of_kind? hkind).symm⟩
    · exact .inl ⟨(t, word), mem_namedUses_iff.mpr ⟨⟨ht, huses⟩, hword⟩,
        Prod.ext rfl (Task.subject_of_ne hword).symm⟩

section DistinctNames

variable (hnames : (c.tasks.map fun t => t.name.value).Nodup)

include hnames

theorem nodup_deprecatedUses : c.deprecatedUses.Nodup :=
  ((hnames.of_map _).product (by decide)).filter _

theorem nodup_advised : c.advised.Nodup := by
  refine List.nodup_append.mpr ⟨?named, ?flagged, ?apart⟩
  case named =>
    refine ((nodup_deprecatedUses hnames).filter _).map_on ?_
    rintro ⟨t, v⟩ ht ⟨u, w⟩ hu heq
    obtain ⟨rfl, hname⟩ := Prod.mk.inj heq
    have htask : t = u := List.inj_on_of_nodup_map hnames (mem_namedUses_iff.mp ht).1.1
      (mem_namedUses_iff.mp hu).1.1 hname
    rw [htask]
  case flagged =>
    exact nodup_flaggedKinds.map fun _ _ heq => MonitorKind.name_inj (Prod.mk.inj heq).2
  case apart =>
    intro named hnamed flagged hflagged heq
    obtain ⟨⟨t, word⟩, huse, rfl⟩ := List.mem_map.mp hnamed
    obtain ⟨kind, -, rfl⟩ := List.mem_map.mp hflagged
    exact (mem_namedUses_iff.mp huse).2 (Prod.mk.inj heq).1

/-- Advice is given once for each thing that it is about. -/
theorem length_deprecations :
    c.deprecations.length = c.namedUses.length + c.flaggedKinds.length := by
  have hmem : ∀ d, d ∈ c.deprecations ↔
      d ∈ c.advised.map fun about => about.1.advice about.2 := fun d => by
    rw [mem_deprecations_iff, List.mem_map]
    constructor
    · rintro ⟨t, ht, word, huses, rfl⟩
      exact ⟨(word, t.subject word), mem_advised_iff.mpr ⟨t, ht, huses, rfl⟩, rfl⟩
    · rintro ⟨⟨word, subject⟩, habout, rfl⟩
      obtain ⟨t, ht, huses, rfl⟩ := mem_advised_iff.mp habout
      exact ⟨t, ht, word, huses, rfl⟩
  have hnodup : (c.advised.map fun about => about.1.advice about.2).Nodup :=
    (nodup_advised hnames).map fun a b heq =>
      Prod.ext (DeprecatedWord.advice_inj heq).1 (DeprecatedWord.advice_inj heq).2
  rw [(length_eq_iff_nodup nodup_deprecations hmem).mpr hnodup, List.length_map, advised,
    List.length_append, List.length_map, List.length_map]

/-- The flags are on as many kinds of conditions as there are flags, if and only if no two of them
are on one kind. -/
theorem length_flaggedKinds_eq_iff :
    c.flaggedKinds.length = c.flagUses.length ↔
      ∀ t ∈ c.tasks, ∀ u ∈ c.tasks, t.Uses .sourceIncludesVar → u.Uses .sourceIncludesVar →
        t.condition.monitor.kind? = u.condition.monitor.kind? → t = u := by
  have hkinds := length_eq_iff_nodup (nodup_flaggedKinds.map fun _ _ => Option.some.inj)
    fun _ => c.mem_map_flaggedKinds_iff
  have hnodup : c.flagUses.Nodup := (nodup_deprecatedUses hnames).filter _
  rw [List.length_map, List.length_map, List.nodup_map_iff_inj_on hnodup] at hkinds
  rw [hkinds]
  constructor
  · intro h t ht u hu htuses huuses hkind
    exact congrArg Prod.fst (h (t, .sourceIncludesVar) (mem_flagUses_iff.mpr ⟨⟨ht, htuses⟩, rfl⟩)
      (u, .sourceIncludesVar) (mem_flagUses_iff.mpr ⟨⟨hu, huuses⟩, rfl⟩) hkind)
  · rintro h ⟨t, v⟩ huset ⟨u, w⟩ huseu hkind
    obtain ⟨⟨ht, htuses⟩, rfl⟩ := mem_flagUses_iff.mp huset
    obtain ⟨⟨hu, huuses⟩, rfl⟩ := mem_flagUses_iff.mp huseu
    rw [h t ht u hu htuses huuses hkind]

end DistinctNames

/-- **Deprecated words are reported once for each task, but for the flag.** Where no two tasks have
the same name, the advice on deprecated words is one piece for each use of a word by a task, except
that the flags on conditions of one kind share theirs: every use is reported if and only if no two
tasks have the flag on conditions of one kind. -/
theorem deprecations_counted (c : Config) (hnames : (c.tasks.map fun t => t.name.value).Nodup) :
    c.deprecations.length = c.namedUses.length + c.flaggedKinds.length ∧
    (c.deprecations.length = c.deprecatedUses.length ↔
      ∀ t ∈ c.tasks, ∀ u ∈ c.tasks, t.Uses .sourceIncludesVar → u.Uses .sourceIncludesVar →
        t.condition.monitor.kind? = u.condition.monitor.kind? → t = u) := by
  have hcount := length_deprecations hnames
  refine ⟨hcount, ?_⟩
  rw [hcount, length_deprecatedUses, Nat.add_left_cancel_iff]
  exact length_flaggedKinds_eq_iff hnames

/-- Two tasks with five uses of deprecated words, two of them the flag on a condition on keys. -/
def flaggedTwice : Config where
  tasks := [
    { name := some "web", source := some "m",
      condition := { monitor := .consulKv {}, sourceIncludesVar := some true } },
    { name := some "db", sourceInputs := ⟨[{ monitor := .consulKv {} }]⟩, services := ["api"],
      condition := { monitor := .consulKv {}, sourceIncludesVar := some true } }]

/-- Four of the five uses are reported. -/
theorem deprecations_counted_flaggedTwice :
    (flaggedTwice.tasks.map fun t => t.name.value).Nodup ∧
    flaggedTwice.deprecations.length = 4 ∧ flaggedTwice.deprecatedUses.length = 5 := by
  have hnames : (flaggedTwice.tasks.map fun t => t.name.value).Nodup := by decide
  obtain ⟨hcount, -⟩ := deprecations_counted flaggedTwice hnames
  exact ⟨hnames, hcount.trans rfl, rfl⟩

/-- So distinct names are not enough for every use to be reported. -/
theorem length_deprecations_ne_flaggedTwice :
    ¬ ∀ c : Config, (c.tasks.map fun t => t.name.value).Nodup →
      c.deprecations.length = c.deprecatedUses.length := by
  intro h
  have hlength := h flaggedTwice (by decide)
  exact absurd hlength (by decide +kernel)

end Config

end AutomationConfig
