import AutomationConfig.Proofs.TypedBlocks

/-! # What the entries of a block say

Where entries spell a block (`Block.Spells`), each field has the value that the last entry of its
name is read as, and without such an entry the value that it has in the blank block. This is so
because the reader of a field changes the view of its block that the field shows in, and no other
one (`Field.ShowsIn`, `Block.Spells.tells`).

The entries of a monitor are texts, flags, lists of texts, maps of texts and blocks. What they come
to is said without the readers (`TextIs`, `Condition.FlagIs`, `TextsAre`, `TextTableIs`, `SideIs`),
field by field for each kind of monitors (`Monitor.ToldBy`). The main result is
`Monitor.toldBy_of_spells`. -/

namespace AutomationConfig

variable {α β : Type}

/-! ### Entries and fields -/

/-- The value of an entry of that name; of several the last counts. -/
def lastEntry (name : String) (entries : List (String × Document)) : Option Document :=
  findEntry name entries.reverse

theorem findEntry_concat (name key : String) (a : α) : ∀ entries : List (String × α),
    findEntry name (entries ++ [(key, a)]) =
      (findEntry name entries).or (if name = key then some a else none)
  | [] => rfl
  | e :: entries => by
    rw [List.cons_append, findEntry, findEntry, findEntry_concat name key a entries]
    split <;> simp

theorem lastEntry_cons (name key : String) (d : Document) (rest : List (String × Document)) :
    lastEntry name ((key, d) :: rest) =
      (lastEntry name rest).or (if name = key then some d else none) := by
  rw [lastEntry, List.reverse_cons]
  exact findEntry_concat name key d rest.reverse

/-- What an entry says of a value: if it is there the value it is read as, and otherwise the one of
a blank block. -/
inductive Tells [Readable α] (unset : α) : Option Document → α → Prop
  | absent : Tells unset none unset
  | given {d : Document} {a : α} (h : read d = .ok a) : Tells unset (some d) a

/-- **A field shows in a view of its block** if it has that name: its reader leaves there what a
document is read as. The reader of any other field leaves the view as it is. -/
def Field.ShowsIn [Readable α] (name : String) (view : β → α) (f : Field β) : Prop :=
  ∀ d b b', f.read d b = .ok b' →
    if f.key = name then Readable.read d = .ok (view b') else view b' = view b

@[simp] theorem Field.showsIn_optional [Readable α] {name : String} {view : β → α} {f : Field β} :
    f.optional.ShowsIn name view ↔ f.ShowsIn name view := Iff.rfl

@[simp] theorem Field.showsIn_of {γ : Type} [Readable α] [Outlined α] [Readable γ]
    {key name : String} {get : β → α} {put : α → β → β} {view : β → γ} :
    (of key get put).ShowsIn name view ↔ ∀ d b a, Readable.read d = .ok a →
      if key = name then Readable.read d = .ok (view (put a b)) else view (put a b) = view b := by
  constructor
  · exact fun h d b a ha => h d b _ (Mismatch.map_eq_ok.mpr ⟨a, ha, rfl⟩)
  · intro h d b b' hread
    obtain ⟨a, ha, rfl⟩ := Mismatch.map_eq_ok.mp hread
    exact h d b a ha

namespace Block

variable [Block β] [Readable α] {name : String}

theorem tells_of_readEntries {view : β → α}
    (hshows : ∀ f ∈ fields (β := β), f.ShowsIn name view) :
    ∀ {entries : List (String × Document)} {a b : β}, readEntries fields entries a = .ok b →
      Tells (view a) (lastEntry name entries) (view b)
  | [], a, b, h => by
    obtain rfl := Except.ok.inj h
    exact .absent
  | (key, d) :: rest, a, b, h => by
    rw [readEntries] at h
    cases hfind : (fields (β := β)).find? fun f => f.key == key with
    | none => simp [hfind] at h
    | some f =>
      rw [hfind] at h
      obtain ⟨a', ha', hrest⟩ := Mismatch.bind_eq_ok.mp h
      obtain rfl : f.key = key := by simpa using List.find?_some hfind
      have hf := hshows f (List.mem_of_find?_eq_some hfind) d a a' ha'
      have ih := tells_of_readEntries hshows hrest
      rw [lastEntry_cons]
      generalize lastEntry name rest = found, view b = value at ih ⊢
      cases ih with
      | given h => exact .given h
      | absent =>
        -- this entry is the last one of its name
        rw [Option.none_or]
        split
        next hname =>
          rw [if_pos hname.symm] at hf
          exact .given hf
        next hname =>
          rw [if_neg (Ne.symm hname)] at hf
          rw [hf]
          exact .absent

/-- What is spelled is what the entries say, field by field. -/
theorem Spells.tells {entries : List (String × Document)} {b : β} (h : Spells entries b)
    (view : β → α) (hshows : ∀ f ∈ fields (β := β), f.ShowsIn name view) :
    Tells (view blank) (lastEntry name entries) (view b) :=
  tells_of_readEntries hshows h.2

end Block

/-! ### Values -/

/-- What a text says: nothing if it is not there or null. -/
inductive TextIs : Option Document → Setting String → Prop
  | absent : TextIs none none
  | null : TextIs (some .null) none
  | given (s : String) : TextIs (some (.text s)) (some s)

/-- What a list of texts says: nothing if it is not there. -/
inductive TextsAre : Option Document → List String → Prop
  | absent : TextsAre none []
  | given (ss : List String) : TextsAre (some (.list (ss.map .text))) ss

/-- What a map of texts says: nothing if it is not there. -/
inductive TextTableIs : Option Document → Table String → Prop
  | absent : TextTableIs none .empty
  | given (es : List (String × String)) :
      TextTableIs (some (.map (es.map fun e => (e.1, .text e.2)))) (.ofList es)

theorem read_text_eq_ok {d : Document} {s : String} : read d = .ok s ↔ d = .text s := by
  cases d with
  | text t =>
    exact ⟨fun h => congrArg _ (Except.ok.inj h), fun h => congrArg _ (Document.text.inj h)⟩
  | _ => exact ⟨nofun, nofun⟩

theorem read_bool_eq_ok {d : Document} {b : Bool} : read d = .ok b ↔ d = .bool b := by
  cases d with
  | bool c =>
    exact ⟨fun h => congrArg _ (Except.ok.inj h), fun h => congrArg _ (Document.bool.inj h)⟩
  | _ => exact ⟨nofun, nofun⟩

theorem read_option_eq_ok [Readable α] {d : Document} {o : Option α} :
    read d = .ok o ↔ d = .null ∧ o = none ∨ d ≠ .null ∧ ∃ a, read d = .ok a ∧ some a = o := by
  by_cases hnull : d = .null
  · subst hnull
    simp [read, eq_comm]
  · rw [read_of_ne_null hnull, Mismatch.map_eq_ok]
    simp [hnull]

theorem eq_map_of_readItems : ∀ {ds : List Document} {ss : List String},
    readItems ds = .ok ss → ds = ss.map .text
  | [], ss, h => by
    obtain rfl := Except.ok.inj h
    rfl
  | d :: ds, ss, h => by
    obtain ⟨s, hs, h⟩ := Mismatch.bind_eq_ok.mp h
    obtain ⟨rest, hrest, h⟩ := Mismatch.bind_eq_ok.mp h
    obtain rfl := Except.ok.inj h
    rw [read_text_eq_ok.mp hs, eq_map_of_readItems hrest, List.map_cons]

theorem eq_map_of_readValues : ∀ {ds : List (String × Document)} {es : List (String × String)},
    readValues ds = .ok es → ds = es.map fun e => (e.1, .text e.2)
  | [], es, h => by
    obtain rfl := Except.ok.inj h
    rfl
  | (key, d) :: ds, es, h => by
    obtain ⟨s, hs, h⟩ := Mismatch.bind_eq_ok.mp h
    obtain ⟨rest, hrest, h⟩ := Mismatch.bind_eq_ok.mp h
    obtain rfl := Except.ok.inj h
    rw [read_text_eq_ok.mp hs, eq_map_of_readValues hrest, List.map_cons]

namespace Tells

variable {o : Option Document}

theorem textIs {s : Setting String} (h : Tells none o s) : TextIs o s := by
  cases h with
  | absent => exact .absent
  | given h =>
    rcases read_option_eq_ok.mp h with ⟨rfl, rfl⟩ | ⟨-, s, hs, rfl⟩
    · exact .null
    · rw [read_text_eq_ok.mp hs]
      exact .given s

theorem flagIs {s : Setting Bool} (h : Tells none o s) : Condition.FlagIs o s := by
  cases h with
  | absent => exact .absent
  | given h =>
    rcases read_option_eq_ok.mp h with ⟨rfl, rfl⟩ | ⟨-, b, hb, rfl⟩
    · exact .null
    · rw [read_bool_eq_ok.mp hb]
      exact .given b

theorem textsAre {ss : List String} (h : Tells [] o ss) : TextsAre o ss := by
  cases h with
  | absent => exact .absent
  | @given d _ h =>
    cases d with
    | list items =>
      rw [eq_map_of_readItems h]
      exact .given ss
    | _ => exact nomatch h

theorem textTableIs {t : Table String} (h : Tells .empty o t) : TextTableIs o t := by
  cases h with
  | absent => exact .absent
  | @given d _ h =>
    cases d with
    | map entries =>
      obtain ⟨es, hes, rfl⟩ := Mismatch.map_eq_ok.mp h
      rw [eq_map_of_readValues hes]
      exact .given es
    | _ => exact nomatch h

end Tells

/-! ### Monitors -/

/-- What the entries say of a monitor for services. -/
structure ServicesMonitor.ToldBy (entries : Monitor.Entries) (m : ServicesMonitor) : Prop where
  pattern : TextIs (lastEntry "regexp" entries) m.pattern
  names : TextsAre (lastEntry "names" entries) m.names
  datacenter : TextIs (lastEntry "datacenter" entries) m.datacenter
  space : TextIs (lastEntry "namespace" entries) m.space
  filter : TextIs (lastEntry "filter" entries) m.filter
  userMeta : TextTableIs (lastEntry "cts_user_defined_meta" entries) m.userMeta

/-- What the entries say of a monitor for the catalog. -/
structure CatalogServicesMonitor.ToldBy (entries : Monitor.Entries) (m : CatalogServicesMonitor) :
    Prop where
  pattern : TextIs (lastEntry "regexp" entries) m.pattern
  datacenter : TextIs (lastEntry "datacenter" entries) m.datacenter
  space : TextIs (lastEntry "namespace" entries) m.space
  nodeMeta : TextTableIs (lastEntry "node_meta" entries) m.nodeMeta

/-- What the entries say of a monitor for keys. -/
structure KeyValueMonitor.ToldBy (entries : Monitor.Entries) (m : KeyValueMonitor) : Prop where
  path : TextIs (lastEntry "path" entries) m.path
  recurse : Condition.FlagIs (lastEntry "recurse" entries) m.recurse
  datacenter : TextIs (lastEntry "datacenter" entries) m.datacenter
  space : TextIs (lastEntry "namespace" entries) m.space

/-- What the entries say of a monitor for the clock. -/
structure ScheduleMonitor.ToldBy (entries : Monitor.Entries) (m : ScheduleMonitor) : Prop where
  cron : TextIs (lastEntry "cron" entries) m.cron

/-- What the entries say of a side of intentions. -/
structure IntentionSide.ToldBy (entries : Monitor.Entries) (s : IntentionSide) : Prop where
  pattern : TextIs (lastEntry "regexp" entries) s.pattern
  names : TextsAre (lastEntry "names" entries) s.names

/-- What a side of intentions is: nothing if it is not there or null, and otherwise what its
entries say, or its items, which are the pattern and perhaps the names. -/
inductive SideIs : Option Document → Option IntentionSide → Prop
  | absent : SideIs none none
  | null : SideIs (some .null) none
  | entries {entries : Monitor.Entries} {s : IntentionSide}
      (h : s.ToldBy entries) : SideIs (some (.map entries)) (some s)
  | items {d : Document} {o : Option Document} {s : IntentionSide}
      (pattern : TextIs (some d) s.pattern) (names : TextsAre o s.names) :
      SideIs (some (.list (d :: o.toList))) (some s)

/-- What the entries say of a monitor for intentions. -/
structure IntentionsMonitor.ToldBy (entries : Monitor.Entries) (m : IntentionsMonitor) : Prop where
  datacenter : TextIs (lastEntry "datacenter" entries) m.datacenter
  space : TextIs (lastEntry "namespace" entries) m.space
  source : SideIs (lastEntry "source_services" entries) m.source
  destination : SideIs (lastEntry "destination_services" entries) m.destination

section Spelled

variable {entries : Monitor.Entries}

theorem ServicesMonitor.toldBy_of_spells {m : ServicesMonitor} (h : Block.Spells entries m) :
    m.ToldBy entries where
  pattern := (h.tells pattern (by simp [Block.fields])).textIs
  names := (h.tells names (by simp [Block.fields])).textsAre
  datacenter := (h.tells datacenter (by simp [Block.fields])).textIs
  space := (h.tells space (by simp [Block.fields])).textIs
  filter := (h.tells filter (by simp [Block.fields])).textIs
  userMeta := (h.tells userMeta (by simp [Block.fields])).textTableIs

theorem CatalogServicesMonitor.toldBy_of_spells {m : CatalogServicesMonitor}
    (h : Block.Spells entries m) : m.ToldBy entries where
  pattern := (h.tells pattern (by simp [Block.fields])).textIs
  datacenter := (h.tells datacenter (by simp [Block.fields])).textIs
  space := (h.tells space (by simp [Block.fields])).textIs
  nodeMeta := (h.tells nodeMeta (by simp [Block.fields])).textTableIs

theorem KeyValueMonitor.toldBy_of_spells {m : KeyValueMonitor} (h : Block.Spells entries m) :
    m.ToldBy entries where
  path := (h.tells path (by simp [Block.fields])).textIs
  recurse := (h.tells recurse (by simp [Block.fields])).flagIs
  datacenter := (h.tells datacenter (by simp [Block.fields])).textIs
  space := (h.tells space (by simp [Block.fields])).textIs

theorem ScheduleMonitor.toldBy_of_spells {m : ScheduleMonitor} (h : Block.Spells entries m) :
    m.ToldBy entries where
  cron := (h.tells cron (by simp [Block.fields])).textIs

theorem IntentionSide.toldBy_of_spells {s : IntentionSide} (h : Block.Spells entries s) :
    s.ToldBy entries where
  pattern := (h.tells pattern (by simp [Block.fields])).textIs
  names := (h.tells names (by simp [Block.fields])).textsAre

theorem sideIs_of_readItems {items : List Document} {s : IntentionSide}
    (h : read (.list items) = .ok s) : SideIs (some (.list items)) (some s) := by
  match items with
  | [] => exact nomatch h
  | [p] =>
    obtain ⟨b, hb, h⟩ := Mismatch.bind_eq_ok.mp h
    obtain ⟨pattern, hpattern, rfl⟩ := Mismatch.map_eq_ok.mp hb
    obtain rfl := Except.ok.inj h
    exact .items (o := none) (Tells.given hpattern).textIs .absent
  | [p, ns] =>
    obtain ⟨b, hb, h⟩ := Mismatch.bind_eq_ok.mp h
    obtain ⟨pattern, hpattern, rfl⟩ := Mismatch.map_eq_ok.mp hb
    obtain ⟨b, hb, h⟩ := Mismatch.bind_eq_ok.mp h
    obtain ⟨names, hnames, rfl⟩ := Mismatch.map_eq_ok.mp hb
    obtain rfl := Except.ok.inj h
    exact .items (o := some ns) (Tells.given hpattern).textIs (Tells.given hnames).textsAre
  | p :: ns :: d :: rest =>
    obtain ⟨b, -, h⟩ := Mismatch.bind_eq_ok.mp h
    obtain ⟨b, -, h⟩ := Mismatch.bind_eq_ok.mp h
    exact nomatch h

theorem Tells.sideIs {o : Option Document} {side : Option IntentionSide} (h : Tells none o side) :
    SideIs o side := by
  cases h with
  | absent => exact .absent
  | @given d _ h =>
    rcases read_option_eq_ok.mp h with ⟨rfl, rfl⟩ | ⟨-, s, hs, rfl⟩
    · exact .null
    · cases d with
      | map entries =>
        exact .entries (IntentionSide.toldBy_of_spells (Block.read_map_eq_ok.mp hs))
      | list items => exact sideIs_of_readItems hs
      | _ => exact nomatch hs

theorem IntentionsMonitor.toldBy_of_spells {m : IntentionsMonitor} (h : Block.Spells entries m) :
    m.ToldBy entries where
  datacenter := (h.tells datacenter (by simp [Block.fields])).textIs
  space := (h.tells space (by simp [Block.fields])).textIs
  source := (h.tells source (by simp [Block.fields])).sideIs
  destination := (h.tells destination (by simp [Block.fields])).sideIs

end Spelled

namespace Monitor

/-- What the entries say of a monitor. -/
def ToldBy (entries : Entries) : Monitor → Prop
  | none => False
  | services m => m.ToldBy entries
  | catalogServices m => m.ToldBy entries
  | consulKv m => m.ToldBy entries
  | schedule m => m.ToldBy entries
  | intentions m => m.ToldBy entries

/-- **The fields of a monitor are read one by one**: each is what its own entry says. -/
theorem toldBy_of_spells {kind : MonitorKind} {entries : Entries} {m : Monitor}
    (h : Spells kind entries m) : m.ToldBy entries := by
  cases kind with
  | services =>
    obtain ⟨b, hb, rfl⟩ := h
    exact ServicesMonitor.toldBy_of_spells hb
  | catalogServices =>
    obtain ⟨b, hb, rfl⟩ := h
    exact CatalogServicesMonitor.toldBy_of_spells hb
  | consulKv =>
    obtain ⟨b, hb, rfl⟩ := h
    exact KeyValueMonitor.toldBy_of_spells hb
  | schedule =>
    obtain ⟨b, hb, rfl⟩ := h
    exact ScheduleMonitor.toldBy_of_spells hb
  | intentions =>
    obtain ⟨b, hb, rfl⟩ := h
    exact IntentionsMonitor.toldBy_of_spells hb

end Monitor

end AutomationConfig
