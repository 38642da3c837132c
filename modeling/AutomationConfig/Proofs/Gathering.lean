import AutomationConfig.Proofs.TaskRules
import Mathlib.Data.List.DropRight

/-! # What the fragments of a task come to

A task may be given in any number of fragments, which are merged from left to right. What comes of
them can be said without merging (`Task.MergedFrom`): a setting is the last one that is set, an
entry of a table the last one under its name, and lists are put one after the other. That the merged
task is this is `Task.mergedFrom_foldl`.

Conditions are the exception, as one of another kind replaces what was there before. Only the last
run counts, the longest stretch of conditions of one kind that ends the list (`Condition.lastRun`),
where conditions that watch nothing are passed over. Inside of it conditions are gathered like
everything else. One more condition either makes the run longer or starts another one
(`Condition.MergedFrom.append`), and that is the step of the induction.

For each block `GatheredFrom` says what blocks come to, and a `Gathering` instance that merging
with one more block keeps it so. -/

namespace AutomationConfig

variable {α β : Type}

/-! ### Settings, tables and lists -/

/-- The setting of the last item that has it set. -/
def lastSet (view : α → Setting β) (as : List α) : Setting β := (as.filterMap view).getLast?

theorem lastSet_singleton (view : α → Setting β) (a : α) : lastSet view [a] = view a := by
  cases h : view a <;> simp [lastSet, h]

theorem lastSet_append (view : α → Setting β) (as : List α) (a : α) :
    lastSet view (as ++ [a]) = (lastSet view as).merge (view a) := by
  cases h : view a <;> simp [lastSet, h, Setting.merge]

section Step

variable {as : List α}

theorem merge_eq_lastSet {view : α → Setting β} {s : Setting β} (h : s = lastSet view as) (a : α) :
    s.merge (view a) = lastSet view (as ++ [a]) := by
  rw [lastSet_append, h]

theorem get?_merge_eq_lastSet {view : α → Table β} {t : Table β}
    (h : ∀ key, t.get? key = lastSet (fun a => (view a).get? key) as) (a : α) (key : String) :
    (t.merge (view a)).get? key = lastSet (fun a => (view a).get? key) (as ++ [a]) := by
  rw [lastSet_append, ← h, Table.get?_merge]
  rfl

theorem append_eq_flatMap {view : α → List β} {bs : List β} (h : bs = as.flatMap view) (a : α) :
    bs ++ view a = (as ++ [a]).flatMap view := by
  rw [List.flatMap_append, List.flatMap_singleton, h]

end Step

/-! ### Blocks -/

/-- What blocks come to is one block by itself, and stays what it is if one more is merged. -/
class Gathering (merge : α → α → α) (gathered : List α → α → Prop) : Prop where
  single (a : α) : gathered [a] a
  append {as : List α} {a : α} (h : gathered as a) (b : α) : gathered (as ++ [b]) (merge a b)

/-- What optional blocks come to: none if there is none among them. -/
inductive BlockGathered (gathered : List α → α → Prop) : List α → Option α → Prop
  | unset : BlockGathered gathered [] none
  | set {as : List α} {a : α} (hne : as ≠ []) (h : gathered as a) :
      BlockGathered gathered as (some a)

theorem BlockGathered.single (merge : α → α → α) {gathered : List α → α → Prop}
    [Gathering merge gathered] (view : β → Option α) (b : β) :
    BlockGathered gathered ([b].filterMap view) (view b) := by
  cases h : view b with
  | none => simpa [h] using unset
  | some a => simpa [h] using set (List.cons_ne_nil a []) (Gathering.single merge a)

theorem BlockGathered.append {merge : α → α → α} {gathered : List α → α → Prop}
    [Gathering merge gathered] {view : β → Option α} {bs : List β} {o : Option α}
    (h : BlockGathered gathered (bs.filterMap view) o) (b : β) :
    BlockGathered gathered ((bs ++ [b]).filterMap view) (o.merge merge (view b)) := by
  rw [List.filterMap_append]
  cases hb : view b with
  | none => simpa [hb] using h
  | some a =>
    have hlast : [b].filterMap view = [a] := by simp [hb]
    rw [hlast]
    generalize bs.filterMap view = as at *
    cases h with
    | unset => exact set (List.cons_ne_nil a []) (Gathering.single merge a)
    | set hne h => exact set (List.append_ne_nil_of_left_ne_nil hne [a]) (Gathering.append h a)

/-- What buffer periods come to. -/
structure BufferPeriod.GatheredFrom (given : List BufferPeriod) (b : BufferPeriod) : Prop where
  enabled : b.enabled = lastSet (·.enabled) given
  min : b.min = lastSet (·.min) given
  max : b.max = lastSet (·.max) given

instance : Gathering BufferPeriod.merge BufferPeriod.GatheredFrom where
  single b := {
    enabled := (lastSet_singleton _ b).symm
    min := (lastSet_singleton _ b).symm
    max := (lastSet_singleton _ b).symm }
  append h b := {
    enabled := merge_eq_lastSet h.enabled b
    min := merge_eq_lastSet h.min b
    max := merge_eq_lastSet h.max b }

/-! ### Monitors -/

/-- What monitors of services come to. -/
structure ServicesMonitor.GatheredFrom (run : List ServicesMonitor) (m : ServicesMonitor) :
    Prop where
  pattern : m.pattern = lastSet (·.pattern) run
  names : m.names = run.flatMap (·.names)
  datacenter : m.datacenter = lastSet (·.datacenter) run
  space : m.space = lastSet (·.space) run
  filter : m.filter = lastSet (·.filter) run
  userMeta : ∀ key, m.userMeta.get? key = lastSet (fun n => n.userMeta.get? key) run

instance : Gathering ServicesMonitor.merge ServicesMonitor.GatheredFrom where
  single m := {
    pattern := (lastSet_singleton _ m).symm
    names := (List.flatMap_singleton _ m).symm
    datacenter := (lastSet_singleton _ m).symm
    space := (lastSet_singleton _ m).symm
    filter := (lastSet_singleton _ m).symm
    userMeta := fun key =>
      (lastSet_singleton (fun n : ServicesMonitor => n.userMeta.get? key) m).symm }
  append h m := {
    pattern := merge_eq_lastSet h.pattern m
    names := append_eq_flatMap h.names m
    datacenter := merge_eq_lastSet h.datacenter m
    space := merge_eq_lastSet h.space m
    filter := merge_eq_lastSet h.filter m
    userMeta := get?_merge_eq_lastSet h.userMeta m }

/-- What monitors of the catalog come to. -/
structure CatalogServicesMonitor.GatheredFrom (run : List CatalogServicesMonitor)
    (m : CatalogServicesMonitor) : Prop where
  pattern : m.pattern = lastSet (·.pattern) run
  datacenter : m.datacenter = lastSet (·.datacenter) run
  space : m.space = lastSet (·.space) run
  nodeMeta : ∀ key, m.nodeMeta.get? key = lastSet (fun n => n.nodeMeta.get? key) run

instance : Gathering CatalogServicesMonitor.merge CatalogServicesMonitor.GatheredFrom where
  single m := {
    pattern := (lastSet_singleton _ m).symm
    datacenter := (lastSet_singleton _ m).symm
    space := (lastSet_singleton _ m).symm
    nodeMeta := fun key =>
      (lastSet_singleton (fun n : CatalogServicesMonitor => n.nodeMeta.get? key) m).symm }
  append h m := {
    pattern := merge_eq_lastSet h.pattern m
    datacenter := merge_eq_lastSet h.datacenter m
    space := merge_eq_lastSet h.space m
    nodeMeta := get?_merge_eq_lastSet h.nodeMeta m }

/-- What monitors of keys come to. -/
structure KeyValueMonitor.GatheredFrom (run : List KeyValueMonitor) (m : KeyValueMonitor) :
    Prop where
  path : m.path = lastSet (·.path) run
  recurse : m.recurse = lastSet (·.recurse) run
  datacenter : m.datacenter = lastSet (·.datacenter) run
  space : m.space = lastSet (·.space) run

instance : Gathering KeyValueMonitor.merge KeyValueMonitor.GatheredFrom where
  single m := {
    path := (lastSet_singleton _ m).symm
    recurse := (lastSet_singleton _ m).symm
    datacenter := (lastSet_singleton _ m).symm
    space := (lastSet_singleton _ m).symm }
  append h m := {
    path := merge_eq_lastSet h.path m
    recurse := merge_eq_lastSet h.recurse m
    datacenter := merge_eq_lastSet h.datacenter m
    space := merge_eq_lastSet h.space m }

/-- What schedules come to. -/
structure ScheduleMonitor.GatheredFrom (run : List ScheduleMonitor) (m : ScheduleMonitor) :
    Prop where
  cron : m.cron = lastSet (·.cron) run

instance : Gathering ScheduleMonitor.merge ScheduleMonitor.GatheredFrom where
  single m := ⟨(lastSet_singleton _ m).symm⟩
  append h m := ⟨merge_eq_lastSet h.cron m⟩

/-- What one side of intentions comes to. -/
structure IntentionSide.GatheredFrom (run : List IntentionSide) (s : IntentionSide) : Prop where
  pattern : s.pattern = lastSet (·.pattern) run
  names : s.names = run.flatMap (·.names)

instance : Gathering IntentionSide.merge IntentionSide.GatheredFrom where
  single s := {
    pattern := (lastSet_singleton _ s).symm
    names := (List.flatMap_singleton _ s).symm }
  append h s := {
    pattern := merge_eq_lastSet h.pattern s
    names := append_eq_flatMap h.names s }

/-- What monitors of intentions come to. -/
structure IntentionsMonitor.GatheredFrom (run : List IntentionsMonitor) (m : IntentionsMonitor) :
    Prop where
  datacenter : m.datacenter = lastSet (·.datacenter) run
  space : m.space = lastSet (·.space) run
  source : BlockGathered IntentionSide.GatheredFrom (run.filterMap (·.source)) m.source
  destination : BlockGathered IntentionSide.GatheredFrom (run.filterMap (·.destination))
    m.destination

instance : Gathering IntentionsMonitor.merge IntentionsMonitor.GatheredFrom where
  single m := {
    datacenter := (lastSet_singleton _ m).symm
    space := (lastSet_singleton _ m).symm
    source := .single IntentionSide.merge _ m
    destination := .single IntentionSide.merge _ m }
  append h m := {
    datacenter := merge_eq_lastSet h.datacenter m
    space := merge_eq_lastSet h.space m
    source := h.source.append m
    destination := h.destination.append m }

/-- What monitors of one kind come to. -/
inductive Monitor.GatheredFrom : List Monitor → Monitor → Prop
  | services {run : List ServicesMonitor} {m : ServicesMonitor} (h : m.GatheredFrom run) :
      GatheredFrom (run.map .services) (.services m)
  | catalogServices {run : List CatalogServicesMonitor} {m : CatalogServicesMonitor}
      (h : m.GatheredFrom run) : GatheredFrom (run.map .catalogServices) (.catalogServices m)
  | consulKv {run : List KeyValueMonitor} {m : KeyValueMonitor} (h : m.GatheredFrom run) :
      GatheredFrom (run.map .consulKv) (.consulKv m)
  | schedule {run : List ScheduleMonitor} {m : ScheduleMonitor} (h : m.GatheredFrom run) :
      GatheredFrom (run.map .schedule) (.schedule m)
  | intentions {run : List IntentionsMonitor} {m : IntentionsMonitor} (h : m.GatheredFrom run) :
      GatheredFrom (run.map .intentions) (.intentions m)

namespace Monitor

theorem gatheredFrom_single {m : Monitor} (h : m ≠ none) : GatheredFrom [m] m := by
  cases m with
  | none => exact absurd rfl h
  | services m => exact .services (Gathering.single ServicesMonitor.merge m)
  | catalogServices m => exact .catalogServices (Gathering.single CatalogServicesMonitor.merge m)
  | consulKv m => exact .consulKv (Gathering.single KeyValueMonitor.merge m)
  | schedule m => exact .schedule (Gathering.single ScheduleMonitor.merge m)
  | intentions m => exact .intentions (Gathering.single IntentionsMonitor.merge m)

theorem GatheredFrom.append {run : List Monitor} {m n : Monitor} (h : GatheredFrom run m)
    (hkind : m.kind? = n.kind?) : GatheredFrom (run ++ [n]) (m.merge n) := by
  have hmap {α : Type} (f : α → Monitor) (as : List α) (a : α) :
      as.map f ++ [f a] = (as ++ [a]).map f := by
    rw [List.map_append, List.map_singleton]
  cases h with
  | services h =>
    cases n with
    | services n =>
      rw [hmap]
      exact .services (Gathering.append h n)
    | _ => exact nomatch hkind
  | catalogServices h =>
    cases n with
    | catalogServices n =>
      rw [hmap]
      exact .catalogServices (Gathering.append h n)
    | _ => exact nomatch hkind
  | consulKv h =>
    cases n with
    | consulKv n =>
      rw [hmap]
      exact .consulKv (Gathering.append h n)
    | _ => exact nomatch hkind
  | schedule h =>
    cases n with
    | schedule n =>
      rw [hmap]
      exact .schedule (Gathering.append h n)
    | _ => exact nomatch hkind
  | intentions h =>
    cases n with
    | intentions n =>
      rw [hmap]
      exact .intentions (Gathering.append h n)
    | _ => exact nomatch hkind

theorem GatheredFrom.kind?_eq {run : List Monitor} {m n : Monitor} (h : GatheredFrom run m)
    (hn : n ∈ run) : n.kind? = m.kind? := by
  cases h <;> obtain ⟨_, -, rfl⟩ := List.mem_map.mp hn <;> rfl

end Monitor

/-! ### Conditions -/

namespace Condition

/-- The conditions that watch something. -/
def watching (cs : List Condition) : List Condition := cs.filter fun c => !c.isNone

/-- The kind of the last condition that watches something. -/
def lastKind? (cs : List Condition) : Option MonitorKind :=
  (watching cs).getLast?.bind fun c => c.monitor.kind?

/-- **The last run**: the longest stretch of conditions of one kind that ends the list, where
conditions that watch nothing are passed over. -/
def lastRun (cs : List Condition) : List Condition :=
  (watching cs).rtakeWhile fun c => c.monitor.kind? = lastKind? cs

theorem watching_append (cs : List Condition) (c : Condition) :
    watching (cs ++ [c]) = if c.isNone then watching cs else watching cs ++ [c] := by
  rw [watching, List.filter_append]
  cases hc : c.isNone <;> simp [watching, hc]

theorem lastKind?_append {cs : List Condition} {c : Condition} (hc : c.isNone = false) :
    lastKind? (cs ++ [c]) = c.monitor.kind? := by
  simp [lastKind?, watching_append, hc]

/-- A condition of the kind of the last run makes it longer, and one of another kind starts a run of
its own. -/
theorem lastRun_append {cs : List Condition} {c : Condition} (hc : c.isNone = false) :
    lastRun (cs ++ [c]) = if c.monitor.kind? = lastKind? cs then lastRun cs ++ [c] else [c] := by
  have hrun : lastRun (cs ++ [c]) =
      (watching cs).rtakeWhile (fun d => d.monitor.kind? = c.monitor.kind?) ++ [c] := by
    rw [lastRun, watching_append, lastKind?_append hc, hc, if_neg Bool.false_ne_true]
    exact List.rtakeWhile_concat_pos _ _ _ (decide_eq_true rfl)
  rw [hrun]
  split
  next hkind => rw [hkind, lastRun]
  next hkind =>
    have hstart : (watching cs).rtakeWhile (fun d => d.monitor.kind? = c.monitor.kind?) = [] := by
      refine List.rtakeWhile_eq_nil_iff.mpr fun hne hlast => hkind ?_
      rw [lastKind?, List.getLast?_eq_some_getLast hne]
      exact (of_decide_eq_true hlast).symm
    rw [hstart, List.nil_append]

/-- What a run of conditions comes to. -/
structure GatheredFrom (run : List Condition) (c : Condition) : Prop where
  monitor : Monitor.GatheredFrom (run.map (·.monitor)) c.monitor
  useAsModuleInput : c.useAsModuleInput = lastSet (·.useAsModuleInput) run
  sourceIncludesVar : c.sourceIncludesVar = lastSet (·.sourceIncludesVar) run

/-- **What conditions come to**: nothing if none of them watches anything, and otherwise what their
last run comes to. -/
structure MergedFrom (cs : List Condition) (c : Condition) : Prop where
  kind : c.monitor.kind? = lastKind? cs
  nothing : watching cs = [] → c = {}
  run : watching cs ≠ [] → c.GatheredFrom (lastRun cs)

theorem gatheredFrom_single {c : Condition} (hc : c.isNone = false) : c.GatheredFrom [c] where
  monitor := Monitor.gatheredFrom_single fun h => by
    simp [isNone, h, Monitor.isNone, Monitor.kind?] at hc
  useAsModuleInput := (lastSet_singleton _ c).symm
  sourceIncludesVar := (lastSet_singleton _ c).symm

/-- One more condition of the kind of a run is merged with what the run comes to. -/
theorem GatheredFrom.append {run : List Condition} {c d : Condition} (h : c.GatheredFrom run)
    (hd : d.isNone = false) (hkind : c.monitor.kind? = d.monitor.kind?) :
    (c.merge d).GatheredFrom (run ++ [d]) := by
  have hc : c.isNone = d.isNone := by rw [isNone, isNone, Monitor.isNone, Monitor.isNone, hkind]
  have hmerge : c.merge d = ⟨c.monitor.merge d.monitor, c.useAsModuleInput.merge d.useAsModuleInput,
      c.sourceIncludesVar.merge d.sourceIncludesVar⟩ := by
    simp [merge, hd, hc, hkind]
  rw [hmerge]
  constructor
  case monitor =>
    change Monitor.GatheredFrom ((run ++ [d]).map (·.monitor)) _
    rw [List.map_append]
    exact h.monitor.append hkind
  case useAsModuleInput => exact merge_eq_lastSet h.useAsModuleInput d
  case sourceIncludesVar => exact merge_eq_lastSet h.sourceIncludesVar d

theorem mergedFrom_nil : MergedFrom [] {} where
  kind := rfl
  nothing := fun _ => rfl
  run := fun h => absurd rfl h

/-- **One more condition**: it is passed over if it watches nothing, makes the last run longer if it
is of its kind, and otherwise replaces what was there. -/
theorem MergedFrom.append {cs : List Condition} {c : Condition} (h : MergedFrom cs c)
    (d : Condition) : MergedFrom (cs ++ [d]) (c.merge d) := by
  cases hd : d.isNone with
  | true =>
    have hwatching : watching (cs ++ [d]) = watching cs := by rw [watching_append, if_pos hd]
    have hkind : lastKind? (cs ++ [d]) = lastKind? cs := by rw [lastKind?, lastKind?, hwatching]
    have hrun : lastRun (cs ++ [d]) = lastRun cs := by rw [lastRun, lastRun, hwatching, hkind]
    have hmerge : c.merge d = c := by rw [merge, if_pos hd]
    rw [hmerge]
    exact ⟨hkind ▸ h.kind, hwatching ▸ h.nothing, hrun ▸ hwatching ▸ h.run⟩
  | false =>
    have hwatching : watching (cs ++ [d]) ≠ [] := by simp [watching_append, hd]
    by_cases hkind : c.monitor.kind? = d.monitor.kind?
    · have hcs : watching cs ≠ [] := fun hnil => by
        rw [h.nothing hnil] at hkind
        rw [isNone, Monitor.isNone, ← hkind] at hd
        exact Bool.eq_false_iff.mp hd rfl
      have hgathered := (h.run hcs).append hd hkind
      have hmember : d.monitor ∈ (lastRun cs ++ [d]).map (·.monitor) := by simp
      refine ⟨?_, fun hnil => absurd hnil hwatching, fun _ => ?_⟩
      · rw [lastKind?_append hd]
        exact (hgathered.monitor.kind?_eq hmember).symm
      · rw [lastRun_append hd, if_pos (hkind.symm.trans h.kind)]
        exact hgathered
    · have hmerge : c.merge d = d := by simp [merge, hd, hkind]
      rw [hmerge]
      refine ⟨(lastKind?_append hd).symm, fun hnil => absurd hnil hwatching, fun _ => ?_⟩
      rw [lastRun_append hd, if_neg fun heq => hkind (h.kind.trans heq.symm)]
      exact gatheredFrom_single hd

end Condition

/-! ### Tasks -/

/-- **What the fragments of a task come to.** -/
structure Task.MergedFrom (ts : List Task) (t : Task) : Prop where
  name : t.name = lastSet (·.name) ts
  description : t.description = lastSet (·.description) ts
  providers : t.providers = ts.flatMap (·.providers)
  services : t.services = ts.flatMap (·.services)
  module : t.module = lastSet (·.module) ts
  source : t.source = lastSet (·.source) ts
  version : t.version = lastSet (·.version) ts
  moduleVariables : ∀ key, t.moduleVariables.get? key =
    lastSet (fun u => u.moduleVariables.get? key) ts
  varFiles : t.varFiles = ts.flatMap (·.varFiles)
  bufferPeriod : BlockGathered BufferPeriod.GatheredFrom (ts.filterMap (·.bufferPeriod))
    t.bufferPeriod
  enabled : t.enabled = lastSet (·.enabled) ts
  condition : Condition.MergedFrom (ts.map (·.condition)) t.condition
  moduleInputs : t.moduleInputs.items = ts.flatMap (·.moduleInputs.items)
  sourceInputs : t.sourceInputs.items = ts.flatMap (·.sourceInputs.items)
  workingDir : t.workingDir = lastSet (·.workingDir) ts

namespace Task

theorem mergedFrom_nil : MergedFrom [] {} where
  name := rfl
  description := rfl
  providers := rfl
  services := rfl
  module := rfl
  source := rfl
  version := rfl
  moduleVariables := fun _ => rfl
  varFiles := rfl
  bufferPeriod := .unset
  enabled := rfl
  condition := Condition.mergedFrom_nil
  moduleInputs := rfl
  sourceInputs := rfl
  workingDir := rfl

/-- One more fragment. -/
theorem MergedFrom.append {ts : List Task} {t : Task} (h : MergedFrom ts t) (u : Task) :
    MergedFrom (ts ++ [u]) (t.merge u) where
  name := merge_eq_lastSet h.name u
  description := merge_eq_lastSet h.description u
  providers := append_eq_flatMap h.providers u
  services := append_eq_flatMap h.services u
  module := merge_eq_lastSet h.module u
  source := merge_eq_lastSet h.source u
  version := merge_eq_lastSet h.version u
  moduleVariables := get?_merge_eq_lastSet h.moduleVariables u
  varFiles := append_eq_flatMap h.varFiles u
  bufferPeriod := h.bufferPeriod.append u
  enabled := merge_eq_lastSet h.enabled u
  condition := by
    rw [List.map_append]
    exact h.condition.append u.condition
  moduleInputs := append_eq_flatMap h.moduleInputs u
  sourceInputs := append_eq_flatMap h.sourceInputs u
  workingDir := merge_eq_lastSet h.workingDir u

/-- **Merging the fragments of a task** from left to right comes to the last settings, the last
entries of its variables, the lists one after the other, and the last run of its conditions. -/
theorem mergedFrom_foldl (ts : List Task) : MergedFrom ts (ts.foldl merge {}) := by
  induction ts using List.reverseRecOn with
  | nil => exact mergedFrom_nil
  | append_singleton ts t ih =>
    rw [List.foldl_append]
    exact ih.append t

/-- Of the names that are given before the kind changes nothing is left. -/
example :
    (([.services { names := ["a"] }, .none, .consulKv {}, .services { names := ["b"] }, .none,
      .services { names := ["c"], pattern := some "" }].map fun m : Monitor =>
        ({ condition := { monitor := m } } : Task)).foldl merge {}).condition.monitor =
      .services { names := ["b", "c"], pattern := some "" } := rfl

end Task

end AutomationConfig
