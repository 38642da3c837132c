import AutomationConfig.Task.ModuleInput
import Mathlib.Data.List.Forall2

/-! # How conditions and module inputs are written

A condition or a module input is written as a typed block: a map with one entry, whose name is that
of a kind of monitors and whose value is the body (`Monitor.TypedBlock`). The body is a map, a list
of one map, or null for the empty map (`Monitor.BodyIs`); it holds the fields of the monitor and no
others (`Monitor.Spells`), and in a condition on services, the catalog or keys two flags beside them
(`Condition.FlagIs`).

The grammar is that of `Condition.WrittenAs` and `ModuleInputs.WrittenAs`, and the readers accept
what is written in it and nothing else (`Condition.read_eq_ok`, `ModuleInputs.read_eq_ok`). The main
result is `typedBlocks_read`. -/

namespace AutomationConfig

variable {α β : Type}

/-! ### Readers in a row -/

namespace Mismatch

theorem bind_eq_ok {x : Except Mismatch α} {f : α → Except Mismatch β} {b : β} :
    (x >>= f) = .ok b ↔ ∃ a, x = .ok a ∧ f a = .ok b := by
  cases x with
  | error m => exact ⟨nofun, nofun⟩
  | ok a => exact ⟨fun h => ⟨a, rfl, h⟩, fun ⟨_, ha, h⟩ => Except.ok.inj ha ▸ h⟩

theorem map_eq_ok {f : α → β} {x : Except Mismatch α} {b : β} :
    (f <$> x) = .ok b ↔ ∃ a, x = .ok a ∧ f a = b := by
  cases x with
  | error m => exact ⟨nofun, nofun⟩
  | ok a =>
    exact ⟨fun h => ⟨a, rfl, Except.ok.inj h⟩, fun ⟨_, ha, h⟩ => congrArg _ (Except.ok.inj ha ▸ h)⟩

theorem mapError_eq_ok {f : Mismatch → Mismatch} {a : α} : ∀ {x : Except Mismatch α},
    x.mapError f = .ok a ↔ x = .ok a
  | .ok _ => Iff.rfl
  | .error _ => ⟨nofun, nofun⟩

end Mismatch

/-! ### Fields -/

namespace Block

theorem forall_mem_of_readEntries {fields : List (Field β)} :
    ∀ {entries : List (String × Document)} {a b : β}, readEntries fields entries a = .ok b →
      ∀ e ∈ entries, e.1 ∈ fields.map (·.key)
  | [], _, _, _ => by simp
  | (key, d) :: rest, a, b, h => by
    rw [readEntries] at h
    cases hfind : fields.find? fun f => f.key == key with
    | none => simp [hfind] at h
    | some f =>
      rw [hfind] at h
      obtain ⟨a', -, hrest⟩ := Mismatch.bind_eq_ok.mp h
      have hkey : f.key = key := by simpa using List.find?_some hfind
      have hmem : f ∈ fields := List.mem_of_find?_eq_some hfind
      exact List.forall_mem_cons.mpr ⟨hkey ▸ List.mem_map_of_mem hmem,
        forall_mem_of_readEntries hrest⟩

/-- **The entries spell a block**: each of them is a field of it, and that is how they are read. -/
def Spells [Block β] (entries : List (String × Document)) (b : β) : Prop :=
  (∀ e ∈ entries, e.1 ∈ fieldNames β) ∧ read (.map entries) = .ok b

theorem read_map_eq_ok [Block β] {entries : List (String × Document)} {b : β} :
    read (.map entries) = .ok b ↔ Spells entries b :=
  ⟨fun h => ⟨forall_mem_of_readEntries h, h⟩, fun h => h.2⟩

end Block

namespace Monitor

/-- **The entries spell a monitor of a kind.** -/
def Spells (kind : MonitorKind) (entries : Entries) (m : Monitor) : Prop :=
  match kind with
  | .services => ∃ b, Block.Spells entries b ∧ services b = m
  | .catalogServices => ∃ b, Block.Spells entries b ∧ catalogServices b = m
  | .consulKv => ∃ b, Block.Spells entries b ∧ consulKv b = m
  | .schedule => ∃ b, Block.Spells entries b ∧ schedule b = m
  | .intentions => ∃ b, Block.Spells entries b ∧ intentions b = m

theorem map_read_eq_ok [Block β] {f : β → Monitor} {entries : Entries} {m : Monitor} :
    (f <$> read (.map entries)) = .ok m ↔ ∃ b, Block.Spells entries b ∧ f b = m := by
  simp only [Mismatch.map_eq_ok, Block.read_map_eq_ok]

theorem readKind_eq_ok {kind : MonitorKind} {entries : Entries} {m : Monitor} :
    readKind kind (.map entries) = .ok m ↔ Spells kind entries m := by
  cases kind <;> exact map_read_eq_ok

theorem readBody_eq_ok {owner type : String} {allowed : List MonitorKind} {body : Entries}
    {m : Monitor} : readBody owner allowed type body = .ok m ↔
      ∃ kind ∈ allowed, kind.name = type ∧ Spells kind body m := by
  unfold readBody
  cases hfind : allowed.find? fun kind => kind.name == type with
  | none =>
    rw [List.find?_eq_none] at hfind
    refine ⟨nofun, ?_⟩
    rintro ⟨kind, hkind, hname, -⟩
    exact absurd (beq_iff_eq.mpr hname) (hfind kind hkind)
  | some found =>
    have hname : found.name = type := by simpa using List.find?_some hfind
    refine Mismatch.mapError_eq_ok.trans (readKind_eq_ok.trans ⟨fun h => ?read, ?written⟩)
    case read => exact ⟨found, List.mem_of_find?_eq_some hfind, hname, h⟩
    case written =>
      rintro ⟨kind, -, hkind, h⟩
      obtain rfl : kind = found := MonitorKind.name_inj (hkind.trans hname.symm)
      exact h

/-! ### Typed blocks -/

/-- How a body is written: as a map, as a list of one map, or, if it is empty, as null. -/
inductive BodyIs : Document → Entries → Prop
  | map (entries : Entries) : BodyIs (.map entries) entries
  | single (entries : Entries) : BodyIs (.list [.map entries]) entries
  | null : BodyIs .null []

/-- **A typed block**: a map whose one entry has the name of one of the allowed kinds and a body. -/
structure TypedBlock (allowed : List MonitorKind) (d : Document) (kind : MonitorKind)
    (body : Entries) : Prop where
  allowed : kind ∈ allowed
  written : ∃ b, d = .map [(kind.name, b)] ∧ BodyIs b body

theorem TypedBlock.exists_map {allowed : List MonitorKind} {d : Document} {kind : MonitorKind}
    {body : Entries} (h : TypedBlock allowed d kind body) : ∃ entries, d = .map entries := by
  obtain ⟨b, hd, -⟩ := h.written
  exact ⟨_, hd⟩

theorem splitTyped_eq_ok {owner type : String} {d : Document} {body : Entries} :
    splitTyped owner d = .ok (type, body) ↔ ∃ b, d = .map [(type, b)] ∧ BodyIs b body := by
  constructor
  · intro h
    unfold splitTyped at h
    split at h
    case h_1 =>
      obtain ⟨rfl, rfl⟩ := Prod.mk.inj (Except.ok.inj h)
      exact ⟨_, rfl, .map _⟩
    case h_2 =>
      obtain ⟨rfl, rfl⟩ := Prod.mk.inj (Except.ok.inj h)
      exact ⟨_, rfl, .null⟩
    case h_3 =>
      obtain ⟨rfl, rfl⟩ := Prod.mk.inj (Except.ok.inj h)
      exact ⟨_, rfl, .single _⟩
    all_goals exact nomatch h
  · rintro ⟨b, rfl, hbody⟩
    cases hbody <;> rfl

end Monitor

/-! ### Conditions -/

namespace Condition

/-- What a flag says: nothing if it is not there or null, and otherwise whether it is set. -/
inductive FlagIs : Option Document → Setting Bool → Prop
  | absent : FlagIs none none
  | null : FlagIs (some .null) none
  | given (b : Bool) : FlagIs (some (.bool b)) (some b)

/-- The body of a condition without the flags. -/
def withoutFlags (body : Monitor.Entries) : Monitor.Entries :=
  body.filter fun e => e.1 != "source_includes_var" && e.1 != "use_as_module_input"

/-- **How a condition is written as one block.** Beside the fields of a monitor that can feed a
module there may be flags; of a schedule there are the fields only. -/
inductive BlockIs (d : Document) (c : Condition) : Prop
  | flagged {kind : MonitorKind} {body : Monitor.Entries}
      (block : Monitor.TypedBlock kinds d kind body) (feeds : kind.feedsModule = true)
      (useAsModuleInput : FlagIs (findEntry "use_as_module_input" body) c.useAsModuleInput)
      (sourceIncludesVar : FlagIs (findEntry "source_includes_var" body) c.sourceIncludesVar)
      (fields : Monitor.Spells kind (withoutFlags body) c.monitor)
  | plain {kind : MonitorKind} {body : Monitor.Entries}
      (block : Monitor.TypedBlock kinds d kind body) (feeds : kind.feedsModule = false)
      (useAsModuleInput : c.useAsModuleInput = none)
      (sourceIncludesVar : c.sourceIncludesVar = none)
      (fields : Monitor.Spells kind body c.monitor)

/-- **How a condition is written**: as a block, or as a list of one block. -/
inductive WrittenAs : Document → Condition → Prop
  | block {d : Document} {c : Condition} (h : BlockIs d c) : WrittenAs d c
  | single {d : Document} {c : Condition} (h : BlockIs d c) : WrittenAs (.list [d]) c

theorem takeFlag_eq_ok {type field : String} {body rest : Monitor.Entries} {s : Setting Bool} :
    takeFlag type field body = .ok (s, rest) ↔
      FlagIs (findEntry field body) s ∧ body.filter (fun e => e.1 != field) = rest := by
  unfold takeFlag
  generalize findEntry field body = found
  constructor
  · intro h
    split at h
    case h_1 =>
      obtain ⟨rfl, rfl⟩ := Prod.mk.inj (Except.ok.inj h)
      exact ⟨.absent, rfl⟩
    case h_2 =>
      obtain ⟨rfl, rfl⟩ := Prod.mk.inj (Except.ok.inj h)
      exact ⟨.null, rfl⟩
    case h_3 b =>
      obtain ⟨rfl, rfl⟩ := Prod.mk.inj (Except.ok.inj h)
      exact ⟨.given b, rfl⟩
    case h_4 => exact nomatch h
  · rintro ⟨hflag, rfl⟩
    cases hflag <;> rfl

/-- The types with flags are those of the kinds that feed modules. -/
theorem flaggedTypes_contains_name (kind : MonitorKind) :
    flaggedTypes.contains kind.name = kind.feedsModule := by
  cases kind <;> decide

/-- Taking out the second flag looks for it behind the first one. -/
theorem takeFlag_filter_eq_ok {type : String} {body rest : Monitor.Entries} {s : Setting Bool} :
    takeFlag type "source_includes_var" (body.filter fun e => e.1 != "use_as_module_input") =
        .ok (s, rest) ↔
      FlagIs (findEntry "source_includes_var" body) s ∧ withoutFlags body = rest := by
  have hne : "source_includes_var" ≠ "use_as_module_input" := by decide
  rw [takeFlag_eq_ok, findEntry_filter_ne hne, List.filter_filter]
  rfl

theorem blockIs_of_readBlock {d : Document} {c : Condition} (h : readBlock d = .ok c) :
    BlockIs d c := by
  unfold readBlock at h
  obtain ⟨⟨type, body⟩, hsplit, h⟩ := Mismatch.bind_eq_ok.mp h
  have hwritten := Monitor.splitTyped_eq_ok.mp hsplit
  dsimp only at h
  split at h
  case isTrue hflags =>
    obtain ⟨⟨useAsModuleInput, body'⟩, hfirst, h⟩ := Mismatch.bind_eq_ok.mp h
    obtain ⟨huse, rfl⟩ := takeFlag_eq_ok.mp hfirst
    obtain ⟨⟨sourceIncludesVar, body'⟩, hsecond, h⟩ := Mismatch.bind_eq_ok.mp h
    obtain ⟨hsource, rfl⟩ := takeFlag_filter_eq_ok.mp hsecond
    obtain ⟨monitor, hmonitor, h⟩ := Mismatch.bind_eq_ok.mp h
    obtain rfl := Except.ok.inj h
    obtain ⟨kind, hkind, rfl, hfields⟩ := Monitor.readBody_eq_ok.mp hmonitor
    rw [flaggedTypes_contains_name] at hflags
    exact .flagged ⟨hkind, hwritten⟩ hflags huse hsource hfields
  case isFalse hflags =>
    obtain ⟨monitor, hmonitor, h⟩ := Mismatch.bind_eq_ok.mp h
    obtain rfl := Except.ok.inj h
    obtain ⟨kind, hkind, rfl, hfields⟩ := Monitor.readBody_eq_ok.mp hmonitor
    rw [flaggedTypes_contains_name, Bool.not_eq_true] at hflags
    exact .plain ⟨hkind, hwritten⟩ hflags rfl rfl hfields

theorem BlockIs.readBlock_eq {d : Document} {c : Condition} (h : BlockIs d c) :
    readBlock d = .ok c := by
  unfold readBlock
  rw [Mismatch.bind_eq_ok]
  cases h with
  | @flagged kind body block feeds huse hsource hfields =>
    have hflags : flaggedTypes.contains kind.name = true :=
      (flaggedTypes_contains_name kind).trans feeds
    have hmonitor : Monitor.readBody "condition" kinds kind.name (withoutFlags body) =
        .ok c.monitor := Monitor.readBody_eq_ok.mpr ⟨kind, block.allowed, rfl, hfields⟩
    refine ⟨(kind.name, body), Monitor.splitTyped_eq_ok.mpr block.written, ?_⟩
    dsimp only
    rw [if_pos hflags, Mismatch.bind_eq_ok]
    refine ⟨_, takeFlag_eq_ok.mpr ⟨huse, rfl⟩, ?_⟩
    rw [Mismatch.bind_eq_ok]
    refine ⟨_, takeFlag_filter_eq_ok.mpr ⟨hsource, rfl⟩, ?_⟩
    exact Mismatch.bind_eq_ok.mpr ⟨c.monitor, hmonitor, rfl⟩
  | @plain kind body block feeds huse hsource hfields =>
    have hflags : ¬ flaggedTypes.contains kind.name = true := by
      rw [flaggedTypes_contains_name, feeds]
      exact Bool.false_ne_true
    have hmonitor : Monitor.readBody "condition" kinds kind.name body = .ok c.monitor :=
      Monitor.readBody_eq_ok.mpr ⟨kind, block.allowed, rfl, hfields⟩
    have hc : (⟨c.monitor, none, none⟩ : Condition) = c :=
      congrArg₂ (Condition.mk c.monitor) huse.symm hsource.symm
    refine ⟨(kind.name, body), Monitor.splitTyped_eq_ok.mpr block.written, ?_⟩
    dsimp only
    rw [if_neg hflags]
    exact Mismatch.bind_eq_ok.mpr ⟨c.monitor, hmonitor, congrArg Except.ok hc⟩

theorem readBlock_eq_ok {d : Document} {c : Condition} : readBlock d = .ok c ↔ BlockIs d c :=
  ⟨blockIs_of_readBlock, BlockIs.readBlock_eq⟩

theorem BlockIs.exists_map {d : Document} {c : Condition} (h : BlockIs d c) :
    ∃ entries, d = .map entries := by
  cases h with
  | flagged block => exact block.exists_map
  | plain block => exact block.exists_map

/-- **Conditions are read as they are written**, and nothing else is read as one. -/
theorem read_eq_ok {d : Document} {c : Condition} : read d = .ok c ↔ WrittenAs d c := by
  constructor
  · intro h
    cases d with
    | list items =>
      match items with
      | [e] => exact .single (readBlock_eq_ok.mp h)
      | [] => exact nomatch h
      | _ :: _ :: _ => exact nomatch h
    | _ => exact .block (readBlock_eq_ok.mp h)
  · intro h
    cases h with
    | single h => exact readBlock_eq_ok.mpr h
    | block h =>
      obtain ⟨entries, rfl⟩ := h.exists_map
      exact readBlock_eq_ok.mpr h

end Condition

/-! ### Module inputs -/

/-- **How a module input is written**: as a block of the fields of a monitor. -/
def ModuleInput.BlockIs (d : Document) (i : ModuleInput) : Prop :=
  ∃ kind body, Monitor.TypedBlock kinds d kind body ∧ Monitor.Spells kind body i.monitor

namespace ModuleInput

theorem readBlock_eq_ok {d : Document} {i : ModuleInput} :
    readBlock d = .ok i ↔ BlockIs d i := by
  unfold readBlock
  rw [Mismatch.bind_eq_ok]
  constructor
  · rintro ⟨⟨type, body⟩, hsplit, h⟩
    obtain ⟨monitor, hmonitor, h⟩ := Mismatch.bind_eq_ok.mp h
    obtain rfl := Except.ok.inj h
    obtain ⟨kind, hkind, rfl, hfields⟩ := Monitor.readBody_eq_ok.mp hmonitor
    exact ⟨kind, body, ⟨hkind, Monitor.splitTyped_eq_ok.mp hsplit⟩, hfields⟩
  · rintro ⟨kind, body, block, hfields⟩
    have hmonitor : Monitor.readBody "module_input" kinds kind.name body = .ok i.monitor :=
      Monitor.readBody_eq_ok.mpr ⟨kind, block.allowed, rfl, hfields⟩
    exact ⟨(kind.name, body), Monitor.splitTyped_eq_ok.mpr block.written,
      Mismatch.bind_eq_ok.mpr ⟨i.monitor, hmonitor, rfl⟩⟩

theorem readBlocks_eq_ok : ∀ {ds : List Document} {is : List ModuleInput},
    readBlocks ds = .ok is ↔ List.Forall₂ BlockIs ds is
  | [], is => by
    rw [readBlocks, List.forall₂_nil_left_iff]
    exact ⟨fun h => (Except.ok.inj h).symm, fun h => congrArg Except.ok h.symm⟩
  | d :: ds, is => by
    rw [readBlocks, Mismatch.bind_eq_ok, List.forall₂_cons_left_iff]
    constructor
    · rintro ⟨i, hi, h⟩
      obtain ⟨rest, hrest, h⟩ := Mismatch.bind_eq_ok.mp h
      exact ⟨i, rest, readBlock_eq_ok.mp hi, readBlocks_eq_ok.mp hrest, (Except.ok.inj h).symm⟩
    · rintro ⟨i, rest, hi, hrest, rfl⟩
      exact ⟨i, readBlock_eq_ok.mpr hi,
        Mismatch.bind_eq_ok.mpr ⟨rest, readBlocks_eq_ok.mpr hrest, rfl⟩⟩

end ModuleInput

namespace ModuleInputs

/-- **How module inputs are written**: as null if there are none, as a list of blocks, or as one
block. -/
inductive WrittenAs : Document → ModuleInputs → Prop
  | null : WrittenAs .null {}
  | list {ds : List Document} {is : List ModuleInput}
      (h : List.Forall₂ ModuleInput.BlockIs ds is) : WrittenAs (.list ds) ⟨is⟩
  | single {d : Document} {i : ModuleInput} (h : ModuleInput.BlockIs d i) : WrittenAs d ⟨[i]⟩

/-- **Module inputs are read as they are written**, and nothing else is read as them. -/
theorem read_eq_ok {d : Document} {inputs : ModuleInputs} :
    read d = .ok inputs ↔ WrittenAs d inputs := by
  constructor
  · intro h
    cases d with
    | null =>
      obtain rfl := Except.ok.inj h
      exact .null
    | list ds =>
      obtain ⟨is, his, rfl⟩ := Mismatch.map_eq_ok.mp h
      exact .list (ModuleInput.readBlocks_eq_ok.mp his)
    | _ =>
      obtain ⟨i, hi, h⟩ := Mismatch.bind_eq_ok.mp h
      obtain rfl := Except.ok.inj h
      exact .single (ModuleInput.readBlock_eq_ok.mp hi)
  · intro h
    cases h with
    | null => rfl
    | list h =>
      exact Mismatch.map_eq_ok.mpr ⟨_, ModuleInput.readBlocks_eq_ok.mpr h, rfl⟩
    | single h =>
      obtain ⟨kind, body, block, -⟩ := id h
      obtain ⟨entries, rfl⟩ := block.exists_map
      exact Mismatch.bind_eq_ok.mpr ⟨_, ModuleInput.readBlock_eq_ok.mpr h, rfl⟩

theorem readBlocks_singleton (d : Document) :
    ModuleInputs.mk <$> ModuleInput.readBlocks [d] =
      (do return ⟨[← ModuleInput.readBlock d]⟩ : Except Mismatch ModuleInputs) := by
  rw [ModuleInput.readBlocks]
  cases ModuleInput.readBlock d <;> rfl

/-- A list of one block stands for the block. -/
theorem read_singleton {d : Document} (hlist : ∀ items, d ≠ .list items) (hnull : d ≠ .null) :
    (read (.list [d]) : Except Mismatch ModuleInputs) = read d := by
  cases d with
  | null => exact absurd rfl hnull
  | list items => exact absurd rfl (hlist items)
  | _ => exact readBlocks_singleton _

end ModuleInputs

/-! ### Both -/

theorem Condition.read_singleton {d : Document} (hlist : ∀ items, d ≠ .list items) :
    (read (.list [d]) : Except Mismatch Condition) = read d := by
  cases d with
  | list items => exact absurd rfl (hlist items)
  | _ => rfl

/-- **The grammar of typed blocks.** Conditions and module inputs are read where they are written in
the grammar, as what is written, and nowhere else. A list of one block is read as the block is, and
a body as the map that it stands for. -/
theorem typedBlocks_read :
    (∀ d c, read d = .ok c ↔ Condition.WrittenAs d c) ∧
      (∀ d inputs, read d = .ok inputs ↔ ModuleInputs.WrittenAs d inputs) ∧
      (∀ d, (∀ items, d ≠ .list items) →
        (read (.list [d]) : Except Mismatch Condition) = read d) ∧
      (∀ d, (∀ items, d ≠ .list items) → d ≠ .null →
        (read (.list [d]) : Except Mismatch ModuleInputs) = read d) ∧
      ∀ type body entries, Monitor.BodyIs body entries →
        (read (.map [(type, body)]) : Except Mismatch Condition) =
            read (.map [(type, .map entries)]) ∧
          (read (.map [(type, body)]) : Except Mismatch ModuleInputs) =
            read (.map [(type, .map entries)]) := by
  refine ⟨fun _ _ => Condition.read_eq_ok, fun _ _ => ModuleInputs.read_eq_ok,
    fun _ => Condition.read_singleton, fun _ => ModuleInputs.read_singleton, ?bodies⟩
  intro type body entries h
  cases h <;> exact ⟨rfl, rfl⟩

/-- A block of services is a condition on the services that it names. It may be the one item of a
list, and so may its body. -/
theorem typedBlocks_read_services :
    let fields : Monitor.Entries := [("names", .list [.text "web"])]
    let block : Document := .map [("services", .map fields)]
    read block = .ok (⟨.services { names := ["web"] }, none, none⟩ : Condition) ∧
      (read (.list [block]) : Except Mismatch Condition) = read block ∧
      (read (.list [block]) : Except Mismatch ModuleInputs) = read block ∧
      (read (.map [("services", .list [.map fields])]) : Except Mismatch Condition) =
        read block := by
  intro fields block
  have hblock : Monitor.TypedBlock Condition.kinds block .services fields :=
    ⟨by decide, _, rfl, .map fields⟩
  have hfields : Monitor.Spells .services fields (.services { names := ["web"] }) :=
    ⟨_, ⟨by decide, rfl⟩, rfl⟩
  exact ⟨(typedBlocks_read.1 _ _).mpr (.block (.flagged hblock rfl .absent .absent hfields)),
    typedBlocks_read.2.2.1 _ nofun, typedBlocks_read.2.2.2.1 _ nofun nofun,
    (typedBlocks_read.2.2.2.2 _ _ _ (.single _)).1⟩

end AutomationConfig
