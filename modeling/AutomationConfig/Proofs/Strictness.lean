import AutomationConfig.Loading
import AutomationConfig.Proofs.Shapes
import AutomationConfig.Proofs.TypedBlocks

/-! # Which documents are configurations

The schema of configurations is a shape (`Config.shape`), and the documents of that shape are the
ones that are read as configurations (`Reads`, with one instance for each type of values and
blocks). So the theory of shapes says what one entry more does to a document that is read
(`Config.strict_reading`): only tables and free documents take names that the schema does not
declare, and there are few of them (`Config.freeNames`). -/

namespace AutomationConfig

/-! ### Readers and their shapes -/

/-- **Values of a type are read from the documents of a shape** and from no others. -/
class Reads (α : Type) [Readable α] (s : outParam Shape) : Prop where
  exists_read_iff : ∀ d, (∃ a : α, read d = .ok a) ↔ s.Fits d

namespace Mismatch

variable {α β : Type}

theorem exists_map_eq_ok {f : α → β} {x : Except Mismatch α} :
    (∃ b, f <$> x = .ok b) ↔ ∃ a, x = .ok a := by
  cases x with
  | error m => exact ⟨fun ⟨_, h⟩ => (nomatch h), fun ⟨_, h⟩ => (nomatch h)⟩
  | ok a => exact ⟨fun _ => ⟨a, rfl⟩, fun _ => ⟨f a, rfl⟩⟩

theorem exists_bind_pure_iff {g : α → β} {x : Except Mismatch α} :
    (∃ b, (x >>= fun a => pure (g a)) = .ok b) ↔ ∃ a, x = .ok a :=
  exists_map_eq_ok

/-- What is read next may depend on what has been read, but not whether it can be read. -/
theorem exists_bind_iff {f : α → Except Mismatch β} {x : Except Mismatch α} {P : Prop}
    (hnext : ∀ a, (∃ b, f a = .ok b) ↔ P) :
    (∃ b, (x >>= f) = .ok b) ↔ (∃ a, x = .ok a) ∧ P := by
  constructor
  · rintro ⟨b, h⟩
    obtain ⟨a, ha, hb⟩ := bind_eq_ok.mp h
    exact ⟨⟨a, ha⟩, (hnext a).mp ⟨b, hb⟩⟩
  · rintro ⟨⟨a, ha⟩, hP⟩
    obtain ⟨b, hb⟩ := (hnext a).mpr hP
    exact ⟨b, bind_eq_ok.mpr ⟨a, ha, hb⟩⟩

theorem exists_error_iff {x : Except Mismatch α} : (∃ m, x = .error m) ↔ ¬ ∃ a, x = .ok a := by
  cases x with
  | error m => exact ⟨fun _ ⟨_, h⟩ => (nomatch h), fun _ => ⟨m, rfl⟩⟩
  | ok a => exact ⟨fun ⟨_, h⟩ => (nomatch h), fun h => absurd ⟨a, rfl⟩ h⟩

end Mismatch

instance : Reads Document .any := ⟨fun d => ⟨fun _ => .any d, fun _ => ⟨d, rfl⟩⟩⟩

instance : Reads Bool .flag where
  exists_read_iff d := by
    constructor
    · rintro ⟨b, h⟩
      cases d with
      | bool b => exact .flag b
      | _ => exact nomatch h
    · rintro ⟨⟩
      exact ⟨_, rfl⟩

instance : Reads String .text where
  exists_read_iff d := by
    constructor
    · rintro ⟨s, h⟩
      cases d with
      | text s => exact .text s
      | _ => exact nomatch h
    · rintro ⟨⟩
      exact ⟨_, rfl⟩

theorem exists_readBelow_iff {bound : Nat} {wanted : String} (d : Document) :
    (∃ n, readBelow bound wanted d = .ok n) ↔ Shape.Fits (.natural bound) d := by
  constructor
  · rintro ⟨n, h⟩
    cases d with
    | int i =>
      rw [readBelow] at h
      split at h
      case isTrue hbelow => exact .natural hbelow
      case isFalse => exact nomatch h
    | _ => exact nomatch h
  · intro h
    cases h with
    | natural hbelow => exact ⟨_, if_pos hbelow⟩

instance : Reads UInt16 (.natural (twoPow 16)) :=
  ⟨fun d => Mismatch.exists_map_eq_ok.trans (exists_readBelow_iff d)⟩

instance : Reads UInt64 (.natural (twoPow 64)) :=
  ⟨fun d => Mismatch.exists_map_eq_ok.trans (exists_readBelow_iff d)⟩

instance : Reads Duration .duration where
  exists_read_iff d := by
    constructor
    · rintro ⟨t, h⟩
      cases d with
      | text s =>
        cases hs : Duration.ofText? s with
        | some t => exact .duration (Option.isSome_of_eq_some hs)
        | none => simp [read, hs] at h
      | _ => exact nomatch h
    · intro h
      cases h with
      | @duration s hs =>
        obtain ⟨t, ht⟩ := Option.isSome_iff_exists.mp hs
        exact ⟨t, by simp [read, ht]⟩

section Containers

variable {α : Type} [Readable α] {s : Shape} [Reads α s]

instance : Reads (Option α) (.optional s) where
  exists_read_iff d := by
    by_cases hnull : d = .null
    · subst hnull
      exact ⟨fun _ => .null, fun _ => ⟨none, rfl⟩⟩
    · rw [read_of_ne_null hnull, Mismatch.exists_map_eq_ok, Reads.exists_read_iff,
        Shape.fits_optional_iff hnull]

theorem exists_readItems_iff : ∀ items : List Document,
    (∃ as : List α, readItems items = .ok as) ↔ ∀ d ∈ items, s.Fits d
  | [] => ⟨fun _ => nofun, fun _ => ⟨[], rfl⟩⟩
  | d :: rest => by
    rw [List.forall_mem_cons, ← exists_readItems_iff rest, ← Reads.exists_read_iff (α := α) d]
    exact Mismatch.exists_bind_iff fun _ => Mismatch.exists_bind_pure_iff

instance : Reads (List α) (.list s) where
  exists_read_iff d := by
    cases d with
    | list items => exact (exists_readItems_iff items).trans Shape.fits_list_iff.symm
    | _ => exact ⟨fun ⟨_, h⟩ => (nomatch h), nofun⟩

theorem exists_readValues_iff : ∀ entries : List (String × Document),
    (∃ as : List (String × α), readValues entries = .ok as) ↔ ∀ e ∈ entries, s.Fits e.2
  | [] => ⟨fun _ => nofun, fun _ => ⟨[], rfl⟩⟩
  | (key, d) :: rest => by
    rw [List.forall_mem_cons, ← exists_readValues_iff rest, ← Reads.exists_read_iff (α := α) d]
    exact Mismatch.exists_bind_iff fun _ => Mismatch.exists_bind_pure_iff

instance : Reads (Table α) (.table s) where
  exists_read_iff d := by
    cases d with
    | map entries =>
      exact Mismatch.exists_map_eq_ok.trans
        ((exists_readValues_iff entries).trans Shape.fits_table_iff.symm)
    | _ => exact ⟨fun ⟨_, h⟩ => (nomatch h), nofun⟩

end Containers

/-! ### Blocks -/

/-- A field of a block is the declared one: its name, whether positions have to reach it, and the
shape of the documents that are read into it, whatever the block holds by then. -/
structure Field.Declares {β : Type} (f : Field β) (p : String × Bool × Shape) : Prop where
  key : f.key = p.1
  mandatory : f.mandatory = p.2.1
  exists_read_iff : ∀ d b, (∃ b', f.read d b = .ok b') ↔ p.2.2.Fits d

namespace Field

variable {α β : Type} {f : Field β} {name label : String} {s : Shape}

@[simp] theorem declares_of [Readable α] [Outlined α] [Reads α s] {get : β → α}
    {put : α → β → β} : (of name get put).Declares (name, true, s) where
  key := rfl
  mandatory := rfl
  exists_read_iff d _ := Mismatch.exists_bind_pure_iff.trans (Reads.exists_read_iff d)

@[simp] theorem declares_optional (h : f.Declares (name, true, s)) :
    f.optional.Declares (name, false, s) :=
  ⟨h.key, rfl, h.exists_read_iff⟩

@[simp] theorem declares_labelled {p : String × Bool × Shape} (h : f.Declares p) :
    (f.labelled label).Declares p :=
  ⟨h.key, h.mandatory, h.exists_read_iff⟩

@[simp] theorem declares_secret {get : β → Option String} {put : Option String → β → β} :
    (secret name get put).Declares (name, true, .optional .text) :=
  have h : (of name get put).Declares (name, true, .optional .text) := declares_of
  ⟨h.key, h.mandatory, h.exists_read_iff⟩

end Field

namespace Block

variable {β : Type} {fs : List (Field β)} {ps : List (String × Bool × Shape)}

/-- The field that is found for a name is the declared one, if the name is declared. -/
theorem rel_find?_findEntry (h : List.Forall₂ Field.Declares fs ps) (name : String) :
    Option.Rel (fun (f : Field β) (p : Bool × Shape) =>
        ∀ d b, (∃ b', f.read d b = .ok b') ↔ p.2.Fits d)
      (fs.find? fun f => f.key == name) (findEntry name ps) := by
  induction h with
  | nil => exact .none
  | @cons f p fs ps hfield _ ih =>
    obtain ⟨key, mandatory, shape⟩ := p
    obtain rfl : f.key = key := hfield.key
    by_cases hname : f.key = name
    · rw [List.find?_cons_of_pos (by simpa using hname), findEntry, if_pos hname.symm]
      exact .some hfield.exists_read_iff
    · rw [List.find?_cons_of_neg (by simpa using hname), findEntry, if_neg (Ne.symm hname)]
      exact ih

theorem exists_readEntries_iff (h : List.Forall₂ Field.Declares fs ps) :
    ∀ (entries : List (String × Document)) (b : β),
      (∃ b', readEntries fs entries b = .ok b') ↔ ∀ e ∈ entries, Shape.FitsEntry [] ps e
  | [], b => ⟨fun _ => nofun, fun _ => ⟨b, rfl⟩⟩
  | (key, d) :: rest, b => by
    have ih := exists_readEntries_iff h rest
    have hfind := rel_find?_findEntry h key
    rw [List.forall_mem_cons, Shape.fitsEntry_nil_iff, readEntries]
    dsimp only
    generalize fs.find? (fun f => f.key == key) = found, findEntry key ps = declared at hfind ⊢
    cases hfind with
    | none => simp
    | @some f p hread =>
      refine (Mismatch.exists_bind_iff ih).trans ?_
      rw [hread d b]
      simp

theorem exists_readPositions_iff {name : String} {total count : Nat}
    (h : List.Forall₂ Field.Declares fs ps) : ∀ (items : List Document) (position : Nat) (b : β),
      (∃ b', readPositions name total count position fs items b = .ok b') ↔
        Shape.FitsPositions ps items := by
  induction h with
  | nil =>
    intro items position b
    cases items with
    | nil => exact ⟨fun _ => Shape.fitsPositions_nil_iff.mpr nofun, fun _ => ⟨b, rfl⟩⟩
    | cons d items =>
      exact ⟨fun ⟨_, h⟩ => (nomatch h), fun h => absurd h Shape.not_fitsPositions_nil_cons⟩
  | @cons f p fs ps hfield _ ih =>
    intro items position b
    cases items with
    | nil =>
      rw [Shape.fitsPositions_nil_iff, List.forall_mem_cons, ← hfield.mandatory, readPositions]
      split
      case isTrue hmandatory =>
        exact ⟨fun ⟨_, h⟩ => (nomatch h), fun ⟨hp, _⟩ => (nomatch hmandatory.symm.trans hp)⟩
      case isFalse hmandatory =>
        rw [ih, Shape.fitsPositions_nil_iff]
        exact (and_iff_right (eq_false_of_ne_true hmandatory)).symm
    | cons d items =>
      rw [Shape.fitsPositions_cons_iff, ← hfield.exists_read_iff d b, readPositions]
      exact Mismatch.exists_bind_iff (ih items (position + 1))

/-- A block whose fields are the declared ones is read from the documents of its declaration. -/
theorem reads [Block β] (h : List.Forall₂ Field.Declares (fields (β := β)) ps) :
    Reads β (.block true [] ps) where
  exists_read_iff d := by
    cases d with
    | map entries =>
      refine (exists_readEntries_iff h entries blank).trans ?_
      rw [Shape.fits_fields_iff]
      exact ⟨fun h => ⟨nofun, h⟩, fun h => h.2⟩
    | list items =>
      refine (exists_readPositions_iff h items 0 blank).trans ?_
      rw [Shape.fits_positions_iff]
      exact ⟨fun h => ⟨rfl, h⟩, fun h => h.2⟩
    | _ => exact ⟨fun ⟨_, h⟩ => (nomatch h), nofun⟩

end Block

/-! ### The schema -/

def Syslog.shape : Shape := .block true [] [
  ("enabled", true, .optional .flag),
  ("facility", true, .optional .text),
  ("name", true, .optional .text)]

def Auth.shape : Shape := .block true [] [
  ("enabled", true, .optional .flag),
  ("username", true, .optional .text),
  ("password", true, .optional .text)]

def ClientTls.shape : Shape := .block true [] [
  ("ca_cert", true, .optional .text),
  ("ca_path", true, .optional .text),
  ("cert", true, .optional .text),
  ("enabled", true, .optional .flag),
  ("key", true, .optional .text),
  ("server_name", true, .optional .text),
  ("verify", true, .optional .flag)]

def Transport.shape : Shape := .block true [] [
  ("dial_keep_alive", false, .optional .duration),
  ("dial_timeout", false, .optional .duration),
  ("disable_keep_alives", true, .optional .flag),
  ("idle_conn_timeout", false, .optional .duration),
  ("max_idle_conns", true, .optional (.natural (twoPow 64))),
  ("max_idle_conns_per_host", true, .optional (.natural (twoPow 64))),
  ("tls_handshake_timeout", false, .optional .duration)]

def DefaultCheck.shape : Shape := .block true [] [
  ("enabled", true, .optional .flag),
  ("address", true, .optional .text)]

def Registration.shape : Shape := .block true [] [
  ("enabled", true, .optional .flag),
  ("service_name", true, .optional .text),
  ("address", true, .optional .text),
  ("namespace", true, .optional .text),
  ("default_check", true, .optional DefaultCheck.shape)]

def Consul.shape : Shape := .block true [] [
  ("address", true, .optional .text),
  ("auth", true, .optional Auth.shape),
  ("kv_namespace", true, .optional .text),
  ("kv_path", true, .optional .text),
  ("tls", true, .optional ClientTls.shape),
  ("token", true, .optional .text),
  ("transport", true, .optional Transport.shape),
  ("service_registration", true, .optional Registration.shape)]

def Vault.shape : Shape := .block true [] [
  ("address", true, .optional .text),
  ("enabled", true, .optional .flag),
  ("namespace", true, .optional .text),
  ("renew_token", true, .optional .flag),
  ("tls", true, .optional ClientTls.shape),
  ("token", true, .optional .text),
  ("unwrap_token", true, .optional .flag),
  ("transport", true, .optional Transport.shape)]

def Terraform.shape : Shape := .block true [] [
  ("version", true, .optional .text),
  ("log", true, .optional .flag),
  ("persist_log", true, .optional .flag),
  ("path", true, .optional .text),
  ("backend", false, .table .any),
  ("required_providers", false, .table .any)]

def Driver.shape : Shape := .block true [] [
  ("terraform", true, .optional Terraform.shape)]

def BufferPeriod.shape : Shape := .block true [] [
  ("enabled", true, .optional .flag),
  ("min", false, .optional .duration),
  ("max", false, .optional .duration)]

def Service.shape : Shape := .block true [] [
  ("datacenter", true, .optional .text),
  ("description", true, .optional .text),
  ("id", true, .optional .text),
  ("name", true, .optional .text),
  ("namespace", true, .optional .text),
  ("filter", true, .optional .text),
  ("cts_user_defined_meta", false, .table .text)]

def ServerTls.shape : Shape := .block true [] [
  ("enabled", true, .optional .flag),
  ("cert", true, .optional .text),
  ("key", true, .optional .text),
  ("verify_incoming", true, .optional .flag),
  ("ca_cert", true, .optional .text),
  ("ca_path", true, .optional .text)]

def IntentionSide.shape : Shape := .block true [] [
  ("regexp", true, .optional .text),
  ("names", false, .list .text)]

/-- The fields of a monitor of a kind. -/
def MonitorKind.fields : MonitorKind → List (String × Bool × Shape)
  | .services => [
    ("regexp", true, .optional .text),
    ("names", false, .list .text),
    ("datacenter", true, .optional .text),
    ("namespace", true, .optional .text),
    ("filter", true, .optional .text),
    ("cts_user_defined_meta", false, .table .text)]
  | .catalogServices => [
    ("regexp", true, .optional .text),
    ("datacenter", true, .optional .text),
    ("namespace", true, .optional .text),
    ("node_meta", false, .table .text)]
  | .consulKv => [
    ("path", true, .optional .text),
    ("recurse", true, .optional .flag),
    ("datacenter", true, .optional .text),
    ("namespace", true, .optional .text)]
  | .schedule => [("cron", true, .optional .text)]
  | .intentions => [
    ("datacenter", true, .optional .text),
    ("namespace", true, .optional .text),
    ("source_services", true, .optional IntentionSide.shape),
    ("destination_services", true, .optional IntentionSide.shape)]

/-- The body of a typed block, with flags among its fields. It may be left empty, or be the one item
of a list. -/
def MonitorKind.body (flags : List String) (kind : MonitorKind) : Shape :=
  .optional (.oneOrMany true (.block false flags kind.fields))

/-- The flags of a condition that can feed a module. -/
def Condition.flags : List String := ["use_as_module_input", "source_includes_var"]

def Condition.shape : Shape := .oneOrMany true (.typed [
  ("services", MonitorKind.services.body Condition.flags),
  ("catalog-services", MonitorKind.catalogServices.body Condition.flags),
  ("consul-kv", MonitorKind.consulKv.body Condition.flags),
  ("schedule", MonitorKind.schedule.body [])])

def ModuleInputs.shape : Shape := .optional (.oneOrMany false (.typed [
  ("services", MonitorKind.services.body []),
  ("catalog-services", MonitorKind.catalogServices.body []),
  ("consul-kv", MonitorKind.consulKv.body []),
  ("intentions", MonitorKind.intentions.body [])]))

def Task.shape : Shape := .block true [] [
  ("name", true, .optional .text),
  ("description", true, .optional .text),
  ("providers", false, .list .text),
  ("services", false, .list .text),
  ("module", true, .optional .text),
  ("source", false, .optional .text),
  ("version", true, .optional .text),
  ("variables", false, .table .text),
  ("var_files", false, .list .text),
  ("buffer_period", true, .optional BufferPeriod.shape),
  ("enabled", true, .optional .flag),
  ("condition", false, Condition.shape),
  ("module_input", false, ModuleInputs.shape),
  ("source_input", false, ModuleInputs.shape),
  ("working_dir", true, .optional .text)]

/-- **The schema of configurations**. -/
def Config.shape : Shape := .block true [] [
  ("port", true, .optional (.natural (twoPow 16))),
  ("id", true, .optional .text),
  ("log_level", true, .optional .text),
  ("client_type", true, .optional .text),
  ("working_dir", true, .optional .text),
  ("syslog", true, .optional Syslog.shape),
  ("consul", true, .optional Consul.shape),
  ("vault", true, .optional Vault.shape),
  ("driver", true, .optional Driver.shape),
  ("task", false, .list Task.shape),
  ("service", false, .list Service.shape),
  ("terraform_provider", false, .list (.table .any)),
  ("buffer_period", true, .optional BufferPeriod.shape),
  ("tls", true, .optional ServerTls.shape)]

/-! ### Plain blocks -/

section Plain

open Block (fields reads)

instance : Reads Syslog Syslog.shape := reads (by simp [fields])
instance : Reads Auth Auth.shape := reads (by simp [fields])
instance : Reads ClientTls ClientTls.shape := reads (by simp [fields])
instance : Reads Transport Transport.shape := reads (by simp [fields])
instance : Reads DefaultCheck DefaultCheck.shape := reads (by simp [fields])
instance : Reads Registration Registration.shape := reads (by simp [fields])
instance : Reads Consul Consul.shape := reads (by simp [fields])
instance : Reads Vault Vault.shape := reads (by simp [fields])
instance : Reads Terraform Terraform.shape := reads (by simp [fields])
instance : Reads Driver Driver.shape := reads (by simp [fields])
instance : Reads BufferPeriod BufferPeriod.shape := reads (by simp [fields])
instance : Reads Service Service.shape := reads (by simp [fields])
instance : Reads ServerTls ServerTls.shape := reads (by simp [fields])
instance : Reads IntentionSide IntentionSide.shape := reads (by simp [fields])

instance : Reads Provider (.table .any) where
  exists_read_iff d := Mismatch.exists_map_eq_ok.trans (Reads.exists_read_iff d)

end Plain

/-! ### Typed blocks -/

instance : Reads ServicesMonitor (.block true [] MonitorKind.services.fields) :=
  Block.reads (by simp [Block.fields, MonitorKind.fields])

instance : Reads CatalogServicesMonitor (.block true [] MonitorKind.catalogServices.fields) :=
  Block.reads (by simp [Block.fields, MonitorKind.fields])

instance : Reads KeyValueMonitor (.block true [] MonitorKind.consulKv.fields) :=
  Block.reads (by simp [Block.fields, MonitorKind.fields])

instance : Reads ScheduleMonitor (.block true [] MonitorKind.schedule.fields) :=
  Block.reads (by simp [Block.fields, MonitorKind.fields])

instance : Reads IntentionsMonitor (.block true [] MonitorKind.intentions.fields) :=
  Block.reads (by simp [Block.fields, MonitorKind.fields])

namespace Monitor

variable {flags : List String} {kind : MonitorKind} {d : Document} {entries : Entries}

theorem exists_block_iff {β : Type} [Block β] {s : Shape} [Reads β s] {f : β → Monitor} :
    (∃ m, ∃ b, Block.Spells entries b ∧ f b = m) ↔ s.Fits (.map entries) := by
  rw [← Reads.exists_read_iff (α := β)]
  exact ⟨fun ⟨_, b, h, _⟩ => ⟨b, h.2⟩, fun ⟨b, h⟩ => ⟨_, b, Block.read_map_eq_ok.mp h, rfl⟩⟩

/-- The entries spell some monitor of a kind just if they are fields of that kind. -/
theorem exists_spells_iff :
    (∃ m, Spells kind entries m) ↔ Shape.Fits (.block false [] kind.fields) (.map entries) := by
  have hmap : Shape.Fits (.block true [] kind.fields) (.map entries) ↔
      Shape.Fits (.block false [] kind.fields) (.map entries) := by
    rw [Shape.fits_fields_iff, Shape.fits_fields_iff]
  rw [← hmap]
  cases kind <;> exact exists_block_iff

theorem exists_bodyIs_iff : (∃ body, BodyIs d body ∧
    Shape.Fits (.block false flags kind.fields) (.map body)) ↔ (kind.body flags).Fits d := by
  constructor
  · rintro ⟨body, hbody, hfits⟩
    cases hbody with
    | map => exact .given (.one hfits)
    | single => exact .given (.many (fun _ => rfl) fun e he => List.mem_singleton.mp he ▸ hfits)
    | null => exact .null
  · intro h
    cases h with
    | null => exact ⟨[], .null, .fields nofun nofun nofun⟩
    | given h =>
      cases h with
      | one h => exact ⟨_, .map _, h⟩
      | @many _ _ items halone h =>
        obtain ⟨e, rfl⟩ := List.length_eq_one_iff.mp (halone rfl)
        have he := h e List.mem_cons_self
        cases he with
        | fields declared flagged fitting =>
          exact ⟨_, .single _, .fields declared flagged fitting⟩

theorem findEntry_kinds_iff {name : String} {s : Shape} {shapeOf : MonitorKind → Shape} :
    ∀ {allowed : List MonitorKind},
      findEntry name (allowed.map fun kind => (kind.name, shapeOf kind)) = some s ↔
        ∃ kind ∈ allowed, kind.name = name ∧ shapeOf kind = s
  | [] => by simp [findEntry]
  | kind :: allowed => by
    rw [List.map_cons, findEntry]
    by_cases hname : name = kind.name
    · rw [if_pos hname, Option.some_inj]
      constructor
      · exact fun hs => ⟨kind, List.mem_cons_self, hname.symm, hs⟩
      · rintro ⟨found, -, hfound, hs⟩
        obtain rfl : found = kind := MonitorKind.name_inj (hfound.trans hname)
        exact hs
    · rw [if_neg hname, findEntry_kinds_iff]
      constructor
      · rintro ⟨found, hmem, h⟩
        exact ⟨found, List.mem_cons_of_mem kind hmem, h⟩
      · rintro ⟨found, hmem, hfound, hs⟩
        have hne : found ≠ kind := fun heq => hname (heq ▸ hfound.symm)
        exact ⟨found, (List.mem_cons.mp hmem).resolve_left hne, hfound, hs⟩

/-- Some typed block of an allowed kind is written, if the bodies of each kind are known. -/
theorem exists_typedBlock_iff {allowed : List MonitorKind} {shapeOf : MonitorKind → Shape}
    {P : MonitorKind → Entries → Prop}
    (hbody : ∀ kind d, (∃ body, BodyIs d body ∧ P kind body) ↔ (shapeOf kind).Fits d) :
    (∃ kind body, TypedBlock allowed d kind body ∧ P kind body) ↔
      Shape.Fits (.typed (allowed.map fun kind => (kind.name, shapeOf kind))) d := by
  constructor
  · rintro ⟨kind, body, ⟨hallowed, b, rfl, hb⟩, hP⟩
    exact .typed (findEntry_kinds_iff.mpr ⟨kind, hallowed, rfl, rfl⟩)
      ((hbody kind b).mp ⟨body, hb, hP⟩)
  · intro h
    cases h with
    | @typed _ _ _ b known hb =>
      obtain ⟨kind, hallowed, rfl, rfl⟩ := findEntry_kinds_iff.mp known
      obtain ⟨body, hwritten, hP⟩ := (hbody kind b).mpr hb
      exact ⟨kind, body, ⟨hallowed, b, rfl, hwritten⟩, hP⟩

end Monitor

namespace Condition

variable {d : Document} {body : Monitor.Entries} {fields : List (String × Bool × Shape)}

theorem exists_flagIs_iff {found : Option Document} :
    (∃ s, FlagIs found s) ↔ ∀ d, found = some d → Shape.Fits (.optional .flag) d := by
  constructor
  · rintro ⟨s, h⟩ d rfl
    cases h with
    | null => exact .null
    | given b => exact .given (.flag b)
  · intro h
    cases found with
    | none => exact ⟨none, .absent⟩
    | some d =>
      cases h d rfl with
      | null => exact ⟨none, .null⟩
      | given h =>
        cases h with
        | flag b => exact ⟨some b, .given b⟩

theorem mem_withoutFlags {e : String × Document} :
    e ∈ withoutFlags body ↔ e ∈ body ∧ e.1 ∉ flags := by
  simp [withoutFlags, flags, and_comm]

/-- A body has the flags and the fields of its shape just if each flag that is found in it says
something and the entries that are left without the flags are fields. -/
theorem fits_flagged_iff : Shape.Fits (.block false flags fields) (.map body) ↔
    (∃ s, FlagIs (findEntry "use_as_module_input" body) s) ∧
      (∃ s, FlagIs (findEntry "source_includes_var" body) s) ∧
        Shape.Fits (.block false [] fields) (.map (withoutFlags body)) := by
  have hentries : (∀ e ∈ body, Shape.FitsEntry flags fields e) ↔
      ∀ e ∈ withoutFlags body, Shape.FitsEntry [] fields e := by
    constructor
    · intro h e he
      obtain ⟨hmem, hflag⟩ := mem_withoutFlags.mp he
      exact Shape.fitsEntry_nil_iff.mpr (h e hmem hflag)
    · exact fun h e hmem hflag =>
        Shape.fitsEntry_nil_iff.mp (h e (mem_withoutFlags.mpr ⟨hmem, hflag⟩))
  rw [exists_flagIs_iff, exists_flagIs_iff, Shape.fits_fields_iff, Shape.fits_fields_iff, hentries]
  constructor
  · rintro ⟨hflags, hfields⟩
    exact ⟨hflags _ (by simp [flags]), hflags _ (by simp [flags]), nofun, hfields⟩
  · rintro ⟨huse, hsource, -, hfields⟩
    refine ⟨fun flag hflag => ?_, hfields⟩
    rcases List.mem_pair.mp hflag with rfl | rfl
    · exact huse
    · exact hsource

/-- The flags that a condition of a kind may have. -/
def flagsOf (kind : MonitorKind) : List String := if kind.feedsModule then flags else []

/-- A typed block is a condition just if the body has the flags and the fields of its kind. -/
theorem exists_blockIs_iff : (∃ c, BlockIs d c) ↔
    Shape.Fits (.typed (kinds.map fun kind => (kind.name, kind.body (flagsOf kind)))) d := by
  rw [← Monitor.exists_typedBlock_iff fun kind d => Monitor.exists_bodyIs_iff]
  constructor
  · rintro ⟨c, h⟩
    cases h with
    | @flagged kind body block feeds huse hsource hfields =>
      have hmonitor := Monitor.exists_spells_iff.mp ⟨_, hfields⟩
      refine ⟨kind, body, block, ?_⟩
      rw [flagsOf, if_pos feeds, fits_flagged_iff]
      exact ⟨⟨_, huse⟩, ⟨_, hsource⟩, hmonitor⟩
    | @plain kind body block feeds _ _ hfields =>
      have hmonitor := Monitor.exists_spells_iff.mp ⟨_, hfields⟩
      refine ⟨kind, body, block, ?_⟩
      rw [flagsOf, if_neg (feeds ▸ Bool.false_ne_true)]
      exact hmonitor
  · rintro ⟨kind, body, block, hfits⟩
    by_cases feeds : kind.feedsModule = true
    · rw [flagsOf, if_pos feeds, fits_flagged_iff] at hfits
      obtain ⟨⟨use, huse⟩, ⟨source, hsource⟩, hfields⟩ := hfits
      obtain ⟨m, hm⟩ := Monitor.exists_spells_iff.mpr hfields
      exact ⟨⟨m, use, source⟩, .flagged block feeds huse hsource hm⟩
    · rw [flagsOf, if_neg feeds] at hfits
      obtain ⟨m, hm⟩ := Monitor.exists_spells_iff.mpr hfits
      exact ⟨⟨m, none, none⟩, .plain block (eq_false_of_ne_true feeds) rfl rfl hm⟩

instance : Reads Condition Condition.shape where
  exists_read_iff d := by
    have hblock : ∀ {d}, (∃ c, BlockIs d c) ↔ Shape.Fits (.typed _) d := exists_blockIs_iff
    simp only [read_eq_ok]
    constructor
    · rintro ⟨c, h⟩
      cases h with
      | block h =>
        obtain ⟨entries, rfl⟩ := h.exists_map
        exact .one (hblock.mp ⟨c, h⟩)
      | single h =>
        exact .many (fun _ => rfl) fun e he => List.mem_singleton.mp he ▸ hblock.mp ⟨c, h⟩
    · intro h
      cases h with
      | one h =>
        obtain ⟨c, hc⟩ := hblock.mpr h
        exact ⟨c, .block hc⟩
      | many halone h =>
        obtain ⟨e, rfl⟩ := List.length_eq_one_iff.mp (halone rfl)
        obtain ⟨c, hc⟩ := hblock.mpr (h e List.mem_cons_self)
        exact ⟨c, .single hc⟩

end Condition

namespace ModuleInput

variable {d : Document}

theorem exists_blockIs_iff : (∃ i, BlockIs d i) ↔
    Shape.Fits (.typed (kinds.map fun kind => (kind.name, kind.body []))) d := by
  rw [← Monitor.exists_typedBlock_iff fun kind d => Monitor.exists_bodyIs_iff]
  constructor
  · rintro ⟨i, kind, body, block, hfields⟩
    exact ⟨kind, body, block, Monitor.exists_spells_iff.mp ⟨_, hfields⟩⟩
  · rintro ⟨kind, body, block, hfits⟩
    obtain ⟨m, hm⟩ := Monitor.exists_spells_iff.mpr hfits
    exact ⟨⟨m⟩, kind, body, block, hm⟩

theorem exists_blocksAre_iff : ∀ {ds : List Document},
    (∃ is, List.Forall₂ BlockIs ds is) ↔ ∀ d ∈ ds, ∃ i, BlockIs d i
  | [] => ⟨fun _ => nofun, fun _ => ⟨[], .nil⟩⟩
  | d :: ds => by
    rw [List.forall_mem_cons, ← exists_blocksAre_iff]
    constructor
    · rintro ⟨is, h⟩
      cases h with
      | cons hi his => exact ⟨⟨_, hi⟩, ⟨_, his⟩⟩
    · rintro ⟨⟨i, hi⟩, ⟨is, his⟩⟩
      exact ⟨i :: is, .cons hi his⟩

end ModuleInput

namespace ModuleInputs

instance : Reads ModuleInputs ModuleInputs.shape where
  exists_read_iff d := by
    have hblock : ∀ {d}, (∃ i, ModuleInput.BlockIs d i) ↔ Shape.Fits (.typed _) d :=
      ModuleInput.exists_blockIs_iff
    simp only [read_eq_ok]
    constructor
    · rintro ⟨inputs, h⟩
      cases h with
      | null => exact .null
      | list h =>
        have hall := ModuleInput.exists_blocksAre_iff.mp ⟨_, h⟩
        exact .given (.many nofun fun d hd => hblock.mp (hall d hd))
      | single h =>
        obtain ⟨kind, body, block, -⟩ := id h
        obtain ⟨entries, rfl⟩ := block.exists_map
        exact .given (.one (hblock.mp ⟨_, h⟩))
    · intro h
      cases h with
      | null => exact ⟨_, .null⟩
      | given h =>
        cases h with
        | one h =>
          obtain ⟨i, hi⟩ := hblock.mpr h
          exact ⟨_, .single hi⟩
        | many _ h =>
          obtain ⟨is, his⟩ := ModuleInput.exists_blocksAre_iff.mpr fun d hd => hblock.mpr (h d hd)
          exact ⟨_, .list his⟩

end ModuleInputs

/-! ### Configurations -/

instance : Reads Task Task.shape := Block.reads (by simp [Block.fields])

instance : Reads Config Config.shape := Block.reads (by simp [Block.fields])

namespace Config

/-- The names of the fields that hold names which the schema does not declare. -/
def freeNames : List String :=
  ["variables", "cts_user_defined_meta", "node_meta", "backend", "required_providers",
    "terraform_provider"]

theorem mem_freeNames : ∀ name ∈ shape.freeFields, name ∈ freeNames := by decide

/-- **One entry more.** Let a document be a configuration and let one map in it gain an entry. Where
the schema has a block, a name that is not declared makes it none; where it has a typed block, any
entry does. Where it has a table, the document stays a configuration if the value has the shape of
the table, and where it has a free document, it stays one in any case; both are found in few fields
only. There are no other places for maps in a document without repeated names. -/
theorem strict_reading {d : Document} (h : ∃ c : Config, read d = .ok c) (key : String)
    (value d' : Document) :
    (∀ names byPosition flags fields,
      Shape.Gains names (.block byPosition flags fields) shape key value d d' →
        key ∉ flags ++ fields.map Prod.fst → ∃ m, (read d' : Except Mismatch Config) = .error m) ∧
    (∀ names bodies, Shape.Gains names (.typed bodies) shape key value d d' →
      ∃ m, (read d' : Except Mismatch Config) = .error m) ∧
    (∀ names item, Shape.Gains names (.table item) shape key value d d' →
      ((∃ c : Config, read d' = .ok c) ↔ item.Fits value) ∧
        ∃ free ∈ freeNames, names.getLast? = some free) ∧
    (∀ names, Shape.Gains names .any shape key value d d' →
      (∃ c : Config, read d' = .ok c) ∧ ∃ free ∈ freeNames, names.getLast? = some free) ∧
    (d.Distinct → Document.Gains key value d d' →
      ∃ names, ∃ place : Shape, Shape.Gains names place shape key value d d' ∧
        place.HasEntries) := by
  have hread : ∀ e, (∃ c : Config, read e = .ok c) ↔ shape.Fits e := Reads.exists_read_iff
  have hd : shape.Fits d := (hread d).mp h
  have hfree : ∀ {names place}, Shape.Gains names place shape key value d d' →
      place.isFree = true → ∃ free ∈ freeNames, names.getLast? = some free := by
    intro names place hgains hplace
    obtain ⟨free, hmem, hlast⟩ := hgains.getLast?_mem hplace rfl
    exact ⟨free, mem_freeNames free hmem, hlast⟩
  refine ⟨fun _ _ _ _ hgains hkey => ?block, fun _ _ hgains => ?typed, fun _ _ hgains => ?table,
    fun _ hgains => ?free, hd.exists_gains⟩
  case block => exact Mismatch.exists_error_iff.mpr fun h' =>
    hgains.not_fits_block hd hkey ((hread d').mp h')
  case typed => exact Mismatch.exists_error_iff.mpr fun h' =>
    hgains.not_fits_typed hd ((hread d').mp h')
  case table => exact ⟨(hread d').trans (hgains.fits_table_iff hd), hfree hgains rfl⟩
  case free => exact ⟨(hread d').mpr (hgains.fits_any hd), hfree hgains rfl⟩

/-- A task whose condition on services has these entries. -/
def taskOn (body : Monitor.Entries) : Document :=
  .map [("task", .list [.map [
    ("name", .text "deploy"), ("condition", .map [("services", .map body)])]])]

/-- The body of the condition has a place in the schema. -/
theorem edit_taskOn (before after : Monitor.Entries) :
    Shape.Edit before after ["task", "condition", "services"]
      (.block false Condition.flags MonitorKind.services.fields) shape (taskOn before)
      (taskOn after) := by
  have hcondition : Shape.Edit before after ["services"]
      (.block false Condition.flags MonitorKind.services.fields) Condition.shape
      (.map [("services", .map before)]) (.map [("services", .map after)]) :=
    .one (.body rfl (.given (.one .here)))
  have htask : Shape.Edit before after ["condition", "services"]
      (.block false Condition.flags MonitorKind.services.fields) Task.shape
      (.map [("name", .text "deploy"), ("condition", .map [("services", .map before)])])
      (.map [("name", .text "deploy"), ("condition", .map [("services", .map after)])]) :=
    @Shape.Edit.field _ _ _ _ _ _ _ _ [("name", .text "deploy")] [] _ _ _ nofun rfl hcondition
  exact @Shape.Edit.field _ _ _ _ _ _ _ _ [] [] "task" _ _ nofun rfl
    (@Shape.Edit.item _ _ _ _ _ [] [] _ _ htask)

/-- A misspelt name in the condition of a task does not pass. -/
theorem strict_reading_misspelt :
    (∃ c : Config, read (taskOn [("names", .list [.text "web"])]) = .ok c) ∧
      ∃ m, (read (taskOn [("names", .list [.text "web"]), ("datacentre", .text "dc1")]) :
        Except Mismatch Config) = .error m := by
  have hread : ∃ c : Config, read (taskOn [("names", .list [.text "web"])]) = .ok c := ⟨_, rfl⟩
  have hkey : "datacentre" ∉ Condition.flags ++ MonitorKind.services.fields.map Prod.fst := by
    decide
  exact ⟨hread, (strict_reading hread "datacentre" (.text "dc1") _).1 _ _ _ _
    ⟨[("names", .list [.text "web"])], [], edit_taskOn _ _⟩ hkey⟩

end Config

end AutomationConfig
