import AutomationConfig.Proofs.Keeping
import AutomationConfig.Proofs.Stability
import AutomationConfig.Proofs.TypedBlocks

/-! # Which kinds of monitors stand where

A condition may be on services, the catalog, keys or the clock, and a module input on services, the
catalog, keys or intentions. The readers take nothing else, and no step of a run spoils it: merging
keeps one of two conditions or merges two of one kind, defaults move source inputs among the module
inputs, and validation settles patterns. So it holds of every configuration that such steps come to
from documents (`Config.Reachable`, `Task.Reachable`), in whatever order they are taken
(`reachable_wellKinded`).

What holds of the blank block and is kept by the reader of each field holds of every block that is
read (`Block.holds_of_read`). -/

namespace AutomationConfig

/-! ### What readers keep -/

section Readers

variable {α β : Type} {P : β → Prop}

/-- Reading the field keeps a property of the block. -/
def Field.Keeps (P : β → Prop) (f : Field β) : Prop :=
  ∀ d b b', P b → f.read d b = .ok b' → P b'

namespace Field

/-- A field keeps a property if putting in any value that can be read does. -/
theorem keeps_of_read [Readable α] [Outlined α] {name : String} {get : β → α} {put : α → β → β}
    (h : ∀ d v b, Readable.read d = .ok v → P b → P (put v b)) :
    (of name get put).Keeps P := by
  intro d b b' hb hread
  obtain ⟨v, hv, hb'⟩ := Mismatch.bind_eq_ok.mp hread
  obtain rfl := Except.ok.inj hb'
  exact h d v b hv hb

theorem keeps_of [Readable α] [Outlined α] {name : String} {get : β → α} {put : α → β → β}
    (h : ∀ v b, P b → P (put v b)) : (of name get put).Keeps P :=
  keeps_of_read fun _ v b _ hb => h v b hb

theorem keeps_optional {f : Field β} : f.optional.Keeps P ↔ f.Keeps P := Iff.rfl

theorem keeps_labelled {f : Field β} {label : String} : (f.labelled label).Keeps P ↔ f.Keeps P :=
  Iff.rfl

end Field

namespace Block

theorem holds_of_readEntries {fields : List (Field β)} (hfields : ∀ f ∈ fields, f.Keeps P) :
    ∀ {entries : List (String × Document)} {a b : β}, P a → readEntries fields entries a = .ok b →
      P b
  | [], _, _, ha, h => Except.ok.inj h ▸ ha
  | (key, d) :: rest, a, b, ha, h => by
    rw [readEntries] at h
    cases hfind : fields.find? fun f => f.key == key with
    | none => simp [hfind] at h
    | some f =>
      rw [hfind] at h
      obtain ⟨a', ha', hrest⟩ := Mismatch.bind_eq_ok.mp h
      have hf : f.Keeps P := hfields f (List.mem_of_find?_eq_some hfind)
      exact holds_of_readEntries hfields (hf d a a' ha ha') hrest

theorem holds_of_readPositions {name : String} {total count : Nat} :
    ∀ {position : Nat} {fields : List (Field β)} {items : List Document} {a b : β},
      (∀ f ∈ fields, f.Keeps P) → P a →
        readPositions name total count position fields items a = .ok b → P b
  | _, [], [], _, _, _, ha, h => Except.ok.inj h ▸ ha
  | _, [], _ :: _, _, _, _, _, h => nomatch h
  | _, f :: fs, d :: ds, a, b, hfields, ha, h => by
    obtain ⟨hf, hfs⟩ := List.forall_mem_cons.mp hfields
    obtain ⟨a', ha', hrest⟩ := Mismatch.bind_eq_ok.mp h
    exact holds_of_readPositions hfs (hf d a a' ha ha') hrest
  | _, f :: fs, [], a, b, hfields, ha, h => by
    rw [readPositions] at h
    split at h
    next => exact nomatch h
    next => exact holds_of_readPositions (List.forall_mem_cons.mp hfields).2 ha h

/-- What holds of the blank block and is kept by every field holds of a block that is read. -/
theorem holds_of_read [Block β] (hblank : P blank) (hfields : ∀ f ∈ fields (β := β), f.Keeps P)
    {d : Document} {b : β} (h : read d = .ok b) : P b := by
  cases d with
  | map entries => exact holds_of_readEntries hfields hblank h
  | list items => exact holds_of_readPositions hfields hblank h
  | _ => exact nomatch h

end Block

/-- What passes from each item to the item at its place passes from all items to all. -/
theorem forall_mem_of_forall₂ {R : α → β → Prop} {Q : α → Prop}
    (hpass : ∀ a b, R a b → Q a → P b) {as : List α} {bs : List β} (h : List.Forall₂ R as bs) :
    (∀ a ∈ as, Q a) → ∀ b ∈ bs, P b := by
  induction h with
  | nil => exact fun _ _ hb => nomatch hb
  | cons hab _ ih =>
    intro has
    obtain ⟨ha, has⟩ := List.forall_mem_cons.mp has
    exact List.forall_mem_cons.mpr ⟨hpass _ _ hab ha, ih has⟩

theorem holds_of_readItems [Readable α] {P : α → Prop} (hread : ∀ d a, read d = .ok a → P a) :
    ∀ {ds : List Document} {as : List α}, readItems ds = .ok as → ∀ a ∈ as, P a
  | [], as, h => by
    obtain rfl := Except.ok.inj h
    exact fun _ ha => nomatch ha
  | d :: ds, as, h => by
    obtain ⟨a, ha, h⟩ := Mismatch.bind_eq_ok.mp h
    obtain ⟨rest, hrest, h⟩ := Mismatch.bind_eq_ok.mp h
    obtain rfl := Except.ok.inj h
    exact List.forall_mem_cons.mpr ⟨hread d a ha, holds_of_readItems hread hrest⟩

/-- What holds of everything that is read holds of the items of a list. -/
theorem holds_of_readList [Readable α] {P : α → Prop} (hread : ∀ d a, read d = .ok a → P a)
    {d : Document} {as : List α} (h : read d = .ok as) : ∀ a ∈ as, P a := by
  cases d with
  | list items => exact holds_of_readItems hread h
  | _ => exact nomatch h

end Readers

/-! ### Conditions -/

theorem Monitor.kind?_of_spells {kind : MonitorKind} {entries : Entries} {m : Monitor}
    (h : Spells kind entries m) : m.kind? = some kind := by
  cases kind <;> obtain ⟨b, -, rfl⟩ := h <;> rfl

/-- **A condition of a kind that conditions have**: on nothing, services, the catalog, keys or the
clock, with a flag, in earlier or later words, only on services, the catalog or keys. -/
structure Condition.WellKinded (c : Condition) : Prop where
  kind : ∀ kind, c.monitor.kind? = some kind →
    kind ∈ [MonitorKind.services, .catalogServices, .consulKv, .schedule]
  flags : c.useAsModuleInput ≠ none ∨ c.sourceIncludesVar ≠ none →
    ∃ kind ∈ [MonitorKind.services, .catalogServices, .consulKv], c.monitor.kind? = some kind

namespace Condition

variable {a b c : Condition}

theorem wellKinded_of_blockIs {d : Document} (h : BlockIs d c) : c.WellKinded := by
  cases h with
  | @flagged kind body block feeds use source fields =>
    have hmonitor := Monitor.kind?_of_spells fields
    have hfeeds : c.monitor.feedsModule = true := by
      rw [Monitor.feedsModule, hmonitor]
      exact feeds
    constructor
    case kind =>
      intro k hk
      obtain rfl : kind = k := Option.some.inj (hmonitor.symm.trans hk)
      exact block.allowed
    case flags => exact fun _ => feedsModule_iff.mp hfeeds
  | @plain kind body block feeds use source fields =>
    have hmonitor := Monitor.kind?_of_spells fields
    constructor
    case kind =>
      intro k hk
      obtain rfl : kind = k := Option.some.inj (hmonitor.symm.trans hk)
      exact block.allowed
    case flags =>
      rintro (hflag | hflag)
      · exact absurd use hflag
      · exact absurd source hflag

theorem wellKinded_of_read {d : Document} (h : read d = .ok c) : c.WellKinded := by
  cases read_eq_ok.mp h with
  | block hblock => exact wellKinded_of_blockIs hblock
  | single hblock => exact wellKinded_of_blockIs hblock

/-- A flag is set. -/
def HasFlag (c : Condition) : Prop := c.useAsModuleInput ≠ none ∨ c.sourceIncludesVar ≠ none

theorem kind?_monitor_merge (h : a.monitor.kind? = b.monitor.kind?) :
    (a.monitor.merge b.monitor).kind? = b.monitor.kind? := by
  revert h
  cases a.monitor <;> cases b.monitor <;> simp [Monitor.merge, Monitor.kind?]

theorem WellKinded.merge (ha : a.WellKinded) (hb : b.WellKinded) : (a.merge b).WellKinded := by
  unfold Condition.merge
  split
  next => exact ha
  next =>
    split
    next => exact hb
    next hmerged =>
      have hkind : a.monitor.kind? = b.monitor.kind? := by
        by_contra hother
        exact hmerged (by simp [hother])
      have hresult := kind?_monitor_merge hkind
      -- a flag of the result is one of the two, and both stand beside the same kind
      have hflag : ∀ {s t : Setting Bool}, s.merge t ≠ none → s ≠ none ∨ t ≠ none := by
        intro s t hset
        by_contra hunset
        obtain ⟨rfl, rfl⟩ := not_or.mp hunset |>.imp not_not.mp not_not.mp
        exact hset rfl
      constructor
      case kind => exact fun kind hk => hb.kind kind (hresult.symm.trans hk)
      case flags =>
        intro hset
        have hone : a.HasFlag ∨ b.HasFlag := by
          rcases hset with hset | hset
          · exact (hflag hset).imp Or.inl Or.inl
          · exact (hflag hset).imp Or.inr Or.inr
        rw [hresult]
        exact hone.elim (fun h => hkind ▸ ha.flags h) hb.flags

theorem WellKinded.finalize (h : c.WellKinded) : c.finalize.WellKinded := by
  have hkind : c.finalize.monitor.kind? = c.monitor.kind? := by
    rw [monitor_finalize, Monitor.kind?_finalize]
  constructor
  case kind => exact fun kind hk => h.kind kind (hkind.symm.trans hk)
  case flags =>
    rw [hkind]
    by_cases hfeeds : c.monitor.feedsModule = true
    · exact fun _ => feedsModule_iff.mp hfeeds
    · rw [Condition.finalize, if_neg hfeeds]
      exact h.flags

end Condition

/-! ### Module inputs -/

/-- **Module inputs of the kinds that module inputs have**: each of them is on services, the
catalog, keys or intentions. -/
def ModuleInputs.WellKinded (inputs : ModuleInputs) : Prop :=
  ∀ i ∈ inputs.items, ∃ kind ∈ [MonitorKind.services, .catalogServices, .consulKv, .intentions],
    i.monitor.kind? = some kind

namespace ModuleInputs

variable {a b inputs : ModuleInputs}

theorem wellKinded_empty : ({} : ModuleInputs).WellKinded := fun _ hi => nomatch hi

theorem wellKinded_of_blocksAre {ds : List Document} {is : List ModuleInput}
    (h : List.Forall₂ ModuleInput.BlockIs ds is) : (⟨is⟩ : ModuleInputs).WellKinded := by
  refine forall_mem_of_forall₂ (Q := fun _ => True) ?_ h fun _ _ => trivial
  rintro d i ⟨kind, body, block, fields⟩ -
  exact ⟨kind, block.allowed, Monitor.kind?_of_spells fields⟩

theorem wellKinded_of_read {d : Document} (h : read d = .ok inputs) : inputs.WellKinded := by
  cases read_eq_ok.mp h with
  | null => exact wellKinded_empty
  | list hblocks => exact wellKinded_of_blocksAre hblocks
  | single hblock => exact wellKinded_of_blocksAre (.cons hblock .nil)

theorem WellKinded.merge (ha : a.WellKinded) (hb : b.WellKinded) : (a.merge b).WellKinded :=
  fun i hi => (List.mem_append.mp hi).elim (ha i) (hb i)

theorem WellKinded.finalize (h : inputs.WellKinded) : inputs.finalize.WellKinded := by
  intro i hi
  obtain ⟨given, hgiven, rfl⟩ := List.mem_map.mp hi
  obtain ⟨kind, hkind, hmonitor⟩ := h given hgiven
  exact ⟨kind, hkind, (Monitor.kind?_finalize _).trans hmonitor⟩

theorem WellKinded.of_settles {is js : List ModuleInput}
    (hsettles : List.Forall₂ (fun i j => i.monitor.Settles j.monitor) is js)
    (h : (⟨is⟩ : ModuleInputs).WellKinded) : (⟨js⟩ : ModuleInputs).WellKinded := by
  refine forall_mem_of_forall₂ (fun i j hij hi => ?_) hsettles h
  rwa [hij.kind?_eq]

end ModuleInputs

/-! ### Tasks -/

/-- **A task of whose parts each has a kind that it can have.** -/
def Task.WellKinded (t : Task) : Prop :=
  t.condition.WellKinded ∧ t.moduleInputs.WellKinded ∧ t.sourceInputs.WellKinded

namespace Task

variable {t u : Task}

theorem wellKinded_of_read {d : Document} (h : read d = .ok t) : t.WellKinded := by
  refine Block.holds_of_read (P := WellKinded) ?blank ?fields h
  case blank =>
    have hcondition : ({} : Condition).WellKinded := ⟨nofun, by simp⟩
    exact ⟨hcondition, ModuleInputs.wellKinded_empty, ModuleInputs.wellKinded_empty⟩
  case fields =>
    simp only [Block.fields, List.forall_mem_cons, Field.keeps_optional, Field.keeps_labelled]
    have hcondition : (Field.of "condition" condition fun v b => { b with condition := v }).Keeps
        WellKinded := Field.keeps_of_read fun _ _ _ hread hb =>
      ⟨Condition.wellKinded_of_read hread, hb.2⟩
    have hinputs : (Field.of "module_input" moduleInputs fun v b =>
        { b with moduleInputs := v }).Keeps WellKinded := Field.keeps_of_read fun _ _ _ hread hb =>
      ⟨hb.1, ModuleInputs.wellKinded_of_read hread, hb.2.2⟩
    have hsources : (Field.of "source_input" sourceInputs fun v b =>
        { b with sourceInputs := v }).Keeps WellKinded := Field.keeps_of_read fun _ _ _ hread hb =>
      ⟨hb.1, hb.2.1, ModuleInputs.wellKinded_of_read hread⟩
    refine ⟨?_, ?_, ?_, ?_, ?_, ?_, ?_, ?_, ?_, ?_, ?_, hcondition, hinputs, hsources, ?_, nofun⟩
    -- no other field has a part in it
    all_goals exact Field.keeps_of fun _ _ hb => hb

theorem WellKinded.merge (ht : t.WellKinded) (hu : u.WellKinded) : (t.merge u).WellKinded :=
  ⟨ht.1.merge hu.1, ht.2.1.merge hu.2.1, ht.2.2.merge hu.2.2⟩

theorem WellKinded.finalize (h : t.WellKinded) (global : BufferPeriod) (root : String) :
    (t.finalize global root).WellKinded := by
  obtain ⟨hcondition, hinputs, hsources⟩ := h
  refine ⟨?condition, (hinputs.merge hsources).finalize, ModuleInputs.wellKinded_empty⟩
  have hfinal := hcondition.finalize
  have hkind : t.finalizeCondition.monitor.kind? = t.condition.finalize.monitor.kind? :=
    kind?_derivePattern _ _
  exact ⟨fun kind hk => hfinal.kind kind (hkind.symm.trans hk), fun hset =>
    hkind ▸ hfinal.flags hset⟩

theorem WellKinded.of_settles (hsettles : t.Settles u) (h : t.WellKinded) : u.WellKinded := by
  obtain ⟨hcondition, hinputs, hsources⟩ := h
  have hsame : u.sourceInputs = t.sourceInputs := (congrArg Task.sourceInputs hsettles.rest :)
  refine ⟨?condition, hinputs.of_settles hsettles.moduleInputs, hsame ▸ hsources⟩
  have hkind := hsettles.monitor.kind?_eq
  constructor
  case kind => exact fun kind hk => hcondition.kind kind (hkind.symm.trans hk)
  case flags =>
    rw [hsettles.useAsModuleInput, hsettles.sourceIncludesVar, hkind]
    exact hcondition.flags

theorem WellKinded.validate (h : t.WellKinded) : t.validate.value.WellKinded :=
  .of_settles t.settles_self.validate h

end Task

/-! ### Configurations -/

/-- **A configuration of tasks of whose parts each has a kind that it can have.** -/
def Config.WellKinded (c : Config) : Prop := ∀ t ∈ c.tasks, t.WellKinded

namespace Config

variable {a b c : Config}

theorem wellKinded_of_read {d : Document} (h : read d = .ok c) : c.WellKinded := by
  refine Block.holds_of_read (P := WellKinded) ?blank ?fields h
  case blank => exact fun _ ht => nomatch ht
  case fields =>
    simp only [Block.fields, List.forall_mem_cons, Field.keeps_optional]
    have htasks : (Field.of "task" tasks fun v b => { b with tasks := v }).Keeps WellKinded :=
      Field.keeps_of_read fun _ _ _ hread _ =>
        holds_of_readList (fun _ _ h => Task.wellKinded_of_read h) hread
    refine ⟨?_, ?_, ?_, ?_, ?_, ?_, ?_, ?_, ?_, htasks, ?_, ?_, ?_, ?_, nofun⟩
    all_goals exact Field.keeps_of fun _ _ hb => hb

theorem WellKinded.merge (ha : a.WellKinded) (hb : b.WellKinded) : (a.merge b).WellKinded :=
  fun t ht => (List.mem_append.mp ht).elim (ha t) (hb t)

theorem WellKinded.finalize (h : c.WellKinded) (processors : UInt64) :
    (c.finalize processors).WellKinded := by
  intro t ht
  obtain ⟨given, hgiven, rfl⟩ := List.mem_map.mp ht
  exact (h given hgiven).finalize _ _

theorem WellKinded.validate (h : c.WellKinded) : c.validate.value.WellKinded :=
  forall_mem_of_forall₂ (fun _ _ hsettles ht => ht.of_settles hsettles) c.settles_validate.tasks h

end Config

/-! ### Runs -/

mutual

/-- **A configuration that a run comes to**: one read from a document, or what merging, filling in
defaults and validating make of such configurations and of the tasks in them. A validation that
fails leaves what it has settled by then. -/
inductive Config.Reachable : Config → Prop
  | decoded {d : Document} {c : Config} (h : read d = .ok c) : Config.Reachable c
  | merge {a b : Config} (ha : Config.Reachable a) (hb : Config.Reachable b) :
      Config.Reachable (a.merge b)
  | withTasks {c : Config} {tasks : List Task} (hc : Config.Reachable c)
      (htasks : ∀ t ∈ tasks, Task.Reachable t) : Config.Reachable { c with tasks }
  | finalize {c : Config} (hc : Config.Reachable c) (processors : UInt64) :
      Config.Reachable (c.finalize processors)
  | validate {c : Config} (hc : Config.Reachable c) : Config.Reachable c.validate.value

/-- **A task that a run comes to.** -/
inductive Task.Reachable : Task → Prop
  | decoded {d : Document} {t : Task} (h : read d = .ok t) : Task.Reachable t
  | ofConfig {c : Config} {t : Task} (hc : Config.Reachable c) (ht : t ∈ c.tasks) :
      Task.Reachable t
  | merge {t u : Task} (ht : Task.Reachable t) (hu : Task.Reachable u) : Task.Reachable (t.merge u)
  | finalize {t : Task} (ht : Task.Reachable t) (global : BufferPeriod) (root : String) :
      Task.Reachable (t.finalize global root)
  | validate {t : Task} (ht : Task.Reachable t) : Task.Reachable t.validate.value

end

mutual

theorem Config.Reachable.wellKinded {c : Config} (h : Config.Reachable c) : c.WellKinded :=
  match h with
  | .decoded h => Config.wellKinded_of_read h
  | .merge ha hb => ha.wellKinded.merge hb.wellKinded
  | .withTasks _ htasks => fun t ht => (htasks t ht).wellKinded
  | .finalize hc processors => hc.wellKinded.finalize processors
  | .validate hc => hc.wellKinded.validate

theorem Task.Reachable.wellKinded {t : Task} (h : Task.Reachable t) : t.WellKinded :=
  match h with
  | .decoded h => Task.wellKinded_of_read h
  | .ofConfig hc ht => hc.wellKinded _ ht
  | .merge ht hu => ht.wellKinded.merge hu.wellKinded
  | .finalize ht global root => ht.wellKinded.finalize global root
  | .validate ht => ht.wellKinded.validate

end

namespace Config

/-- **No run spoils the kinds**: in every configuration that a run comes to, every task has a
condition on nothing, services, the catalog, keys or the clock, module inputs and source inputs on
services, the catalog, keys or intentions, and no flag beside a condition on nothing or the
clock. -/
theorem reachable_wellKinded {c : Config} (h : Reachable c) :
    ∀ t ∈ c.tasks,
      (t.condition.monitor.kind? = none ∨
        ∃ kind ∈ [MonitorKind.services, .catalogServices, .consulKv, .schedule],
          t.condition.monitor.kind? = some kind) ∧
      (∀ i ∈ t.moduleInputs.items ++ t.sourceInputs.items,
        ∃ kind ∈ [MonitorKind.services, .catalogServices, .consulKv, .intentions],
          i.monitor.kind? = some kind) ∧
      (t.condition.useAsModuleInput ≠ none ∨ t.condition.sourceIncludesVar ≠ none →
        ∃ kind ∈ [MonitorKind.services, .catalogServices, .consulKv],
          t.condition.monitor.kind? = some kind) := by
  intro t ht
  obtain ⟨hcondition, hinputs, hsources⟩ := h.wellKinded t ht
  refine ⟨?condition, ?inputs, hcondition.flags⟩
  case condition =>
    cases hkind : t.condition.monitor.kind? with
    | none => exact .inl rfl
    | some kind => exact .inr ⟨kind, hcondition.kind kind hkind, rfl⟩
  case inputs => exact fun i hi => (List.mem_append.mp hi).elim (hinputs i) (hsources i)

/-- A task that runs by the clock, with its input under the earlier name. -/
def scheduledSource : Document :=
  .map [("task", .list [.map [
    ("name", .text "restock"),
    ("condition", .map [("schedule", .map [("cron", .text "0 * * * *")])]),
    ("source_input", .map [("services", .map [("names", .list [.text "web"])])])]])]

/-- Merged with itself and with its defaults filled in, it has two tasks, each with its input among
the module inputs. -/
theorem reachable_wellKinded_scheduledSource :
    ∃ c : Config, read scheduledSource = .ok c ∧ Reachable ((c.merge c).finalize 4) ∧
      ((c.merge c).finalize 4).tasks.length = 2 ∧
      ∀ t ∈ ((c.merge c).finalize 4).tasks, ∀ i ∈ t.moduleInputs.items ++ t.sourceInputs.items,
        ∃ kind ∈ [MonitorKind.services, .catalogServices, .consulKv, .intentions],
          i.monitor.kind? = some kind := by
  have hreach : ∀ {c : Config}, read scheduledSource = .ok c →
      Reachable ((c.merge c).finalize 4) :=
    fun h => .finalize (.merge (.decoded h) (.decoded h)) 4
  refine ⟨_, rfl, hreach rfl, rfl, fun t ht => ?_⟩
  exact (reachable_wellKinded (hreach rfl) t ht).2.1

end Config

end AutomationConfig
