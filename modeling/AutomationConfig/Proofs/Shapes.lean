import AutomationConfig.Document
import AutomationConfig.Duration.Reading

/-! # Shapes of documents

A shape says what a document has to look like, and which documents do (`Shape.Fits`). When the
entries of one map in a document are edited, at whatever depth, the schema has a place for that map
(`Shape.Edit`), and whether the whole still fits its shape depends on that map alone
(`Shape.Edit.fits_iff`).

Hence what one entry more does to a document is known at each kind of place: a block takes no name
that it does not declare (`Shape.Gains.not_fits_block`), a typed block takes no second entry
(`Shape.Gains.not_fits_typed`), a table takes any name beside a value of its shape
(`Shape.Gains.fits_table_iff`), and a free document takes everything (`Shape.Gains.fits_any`). There
are no other places for maps (`Shape.Fits.exists_gains`), and the names that lead to tables and free
documents are found in the shape (`Shape.Gains.getLast?_mem`). -/

namespace AutomationConfig

/-- What a document has to look like. -/
inductive Shape where
  | text
  | flag
  /-- A natural number below a bound. -/
  | natural (bound : Nat)
  | duration
  /-- Any document. -/
  | any
  /-- Null, or a document of the shape. -/
  | optional (s : Shape)
  | list (s : Shape)
  /-- A map from any names to documents of the shape. -/
  | table (s : Shape)
  /-- A map of declared fields, or a list of them if they may be given by position; such a list has
  to reach every field that is marked. Some flags may stand among the fields of the map. -/
  | block (byPosition : Bool) (flags : List String) (fields : List (String × Bool × Shape))
  /-- A map whose one entry has the name of a type and a body of the shape of the type. -/
  | typed (bodies : List (String × Shape))
  /-- A map of the shape, or a list of documents of the shape, of one only if it is single. -/
  | oneOrMany (single : Bool) (s : Shape)

namespace Shape

/-- Whether the documents of the shape hold names that are not declared. -/
def isFree : Shape → Bool
  | any | table _ => true
  | optional s | list s | oneOrMany _ s => s.isFree
  | _ => false

mutual

/-- The names of the fields, at any depth, that hold names that are not declared. -/
def freeFields : Shape → List String
  | optional s | list s | table s | oneOrMany _ s => s.freeFields
  | block _ _ fields => freeAmong fields
  | typed bodies => freeWithin bodies
  | _ => []

/-- The names of such fields among the fields of a block, and below them. -/
def freeAmong : List (String × Bool × Shape) → List String
  | [] => []
  | (name, _, s) :: rest => (if s.isFree then [name] else []) ++ s.freeFields ++ freeAmong rest

/-- The names of such fields among the bodies of typed blocks, and below them. -/
def freeWithin : List (String × Shape) → List String
  | [] => []
  | (name, s) :: rest => (if s.isFree then [name] else []) ++ s.freeFields ++ freeWithin rest

end

end Shape

/-- **A document has a shape.** Of a flag that is repeated only the first value counts. -/
inductive Shape.Fits : Shape → Document → Prop
  | text (s : String) : Fits .text (.text s)
  | flag (b : Bool) : Fits .flag (.bool b)
  | natural {bound : Nat} {n : Int} (h : 0 ≤ n ∧ n < bound) : Fits (.natural bound) (.int n)
  | duration {s : String} (h : (Duration.ofText? s).isSome) : Fits .duration (.text s)
  | any (d : Document) : Fits .any d
  | null {s : Shape} : Fits (.optional s) .null
  | given {s : Shape} {d : Document} (h : Fits s d) : Fits (.optional s) d
  | list {s : Shape} {items : List Document} (h : ∀ d ∈ items, Fits s d) :
      Fits (.list s) (.list items)
  | table {s : Shape} {entries : List (String × Document)} (h : ∀ e ∈ entries, Fits s e.2) :
      Fits (.table s) (.map entries)
  | fields {byPosition : Bool} {flags : List String} {fields : List (String × Bool × Shape)}
      {entries : List (String × Document)}
      (declared : ∀ e ∈ entries, e.1 ∈ flags ++ fields.map Prod.fst)
      (flagged : ∀ flag ∈ flags, ∀ d, findEntry flag entries = some d → Fits (.optional .flag) d)
      (fitting : ∀ e ∈ entries, e.1 ∉ flags → ∀ f, findEntry e.1 fields = some f → Fits f.2 e.2) :
      Fits (.block byPosition flags fields) (.map entries)
  | positions {flags : List String} {fields : List (String × Bool × Shape)} {items : List Document}
      (within : items.length ≤ fields.length)
      (reaching : ∀ f ∈ fields.drop items.length, f.2.1 = false)
      (fitting : ∀ (i : Nat) (d : Document) (f : String × Bool × Shape), items[i]? = some d →
        fields[i]? = some f → Fits f.2.2 d) :
      Fits (.block true flags fields) (.list items)
  | typed {bodies : List (String × Shape)} {name : String} {s : Shape} {d : Document}
      (known : findEntry name bodies = some s) (body : Fits s d) :
      Fits (.typed bodies) (.map [(name, d)])
  | one {single : Bool} {s : Shape} {entries : List (String × Document)}
      (h : Fits s (.map entries)) : Fits (.oneOrMany single s) (.map entries)
  | many {single : Bool} {s : Shape} {items : List Document}
      (alone : single = true → items.length = 1) (h : ∀ d ∈ items, Fits s d) :
      Fits (.oneOrMany single s) (.list items)

/-- **The entries of one map are edited**, at any depth of a document. -/
inductive Document.Edit (before after : List (String × Document)) : Document → Document → Prop
  | here : Edit before after (.map before) (.map after)
  | entry {front back : List (String × Document)} {name : String} {d d' : Document}
      (h : Edit before after d d') :
      Edit before after (.map (front ++ (name, d) :: back)) (.map (front ++ (name, d') :: back))
  | item {front back : List Document} {d d' : Document} (h : Edit before after d d') :
      Edit before after (.list (front ++ d :: back)) (.list (front ++ d' :: back))

/-- **The entries of one map are edited, and the schema has a place for that map.** The names are
those of the fields and types that lead to it; of the shapes the first is that of the map and the
second that of the whole document. -/
inductive Shape.Edit (before after : List (String × Document)) :
    List String → Shape → Shape → Document → Document → Prop
  | here {s : Shape} : Edit before after [] s s (.map before) (.map after)
  | free {d d' : Document} (h : Document.Edit before after d d') :
      Edit before after [] .any .any d d'
  | given {names : List String} {place s : Shape} {d d' : Document}
      (h : Edit before after names place s d d') : Edit before after names place (.optional s) d d'
  | item {names : List String} {place s : Shape} {front back : List Document} {d d' : Document}
      (h : Edit before after names place s d d') :
      Edit before after names place (.list s) (.list (front ++ d :: back))
        (.list (front ++ d' :: back))
  | value {names : List String} {place s : Shape} {front back : List (String × Document)}
      {name : String} {d d' : Document} (h : Edit before after names place s d d') :
      Edit before after names place (.table s) (.map (front ++ (name, d) :: back))
        (.map (front ++ (name, d') :: back))
  | field {names : List String} {place : Shape} {byPosition : Bool} {flags : List String}
      {fields : List (String × Bool × Shape)} {f : Bool × Shape}
      {front back : List (String × Document)} {name : String} {d d' : Document}
      (unflagged : name ∉ flags) (known : findEntry name fields = some f)
      (h : Edit before after names place f.2 d d') :
      Edit before after (name :: names) place (.block byPosition flags fields)
        (.map (front ++ (name, d) :: back)) (.map (front ++ (name, d') :: back))
  | position {names : List String} {place : Shape} {byPosition : Bool} {flags : List String}
      {fields : List (String × Bool × Shape)} {f : String × Bool × Shape}
      {front back : List Document} {d d' : Document} (known : fields[front.length]? = some f)
      (h : Edit before after names place f.2.2 d d') :
      Edit before after (f.1 :: names) place (.block byPosition flags fields)
        (.list (front ++ d :: back)) (.list (front ++ d' :: back))
  | body {names : List String} {place s : Shape} {bodies : List (String × Shape)} {name : String}
      {d d' : Document} (known : findEntry name bodies = some s)
      (h : Edit before after names place s d d') :
      Edit before after (name :: names) place (.typed bodies) (.map [(name, d)]) (.map [(name, d')])
  | one {names : List String} {place s : Shape} {single : Bool}
      {entries entries' : List (String × Document)}
      (h : Edit before after names place s (.map entries) (.map entries')) :
      Edit before after names place (.oneOrMany single s) (.map entries) (.map entries')
  | many {names : List String} {place s : Shape} {single : Bool} {front back : List Document}
      {d d' : Document} (h : Edit before after names place s d d') :
      Edit before after names place (.oneOrMany single s) (.list (front ++ d :: back))
        (.list (front ++ d' :: back))

/-- **One map in a document gains an entry.** -/
def Document.Gains (key : String) (value : Document) (d d' : Document) : Prop :=
  ∃ front back, Document.Edit (front ++ back) (front ++ (key, value) :: back) d d'

/-- **One map in a document gains an entry, at a place of the schema.** -/
def Shape.Gains (names : List String) (place s : Shape) (key : String) (value : Document)
    (d d' : Document) : Prop :=
  ∃ front back, Shape.Edit (front ++ back) (front ++ (key, value) :: back) names place s d d'

/-- **No map in the document has two entries of one name.** -/
def Document.Distinct (d : Document) : Prop :=
  ∀ before after d', Document.Edit before after d d' → (before.map Prod.fst).Nodup

/-! ### Lists with one element exchanged -/

section Exchange

variable {α : Type} {key name : String} {a b : α}

theorem forall_mem_exchange {P : α → Prop} {front back : List α} :
    (∀ x ∈ front ++ a :: back, P x) ↔ P a ∧ ∀ x ∈ front ++ back, P x := by
  simp only [List.forall_mem_append, List.forall_mem_cons]
  exact and_left_comm

theorem getElem?_exchange {i : Nat} {front : List α} (h : i ≠ front.length) (back : List α) :
    (front ++ a :: back)[i]? = (front ++ b :: back)[i]? := by
  rcases Nat.lt_or_gt_of_ne h with hlt | hgt
  · rw [List.getElem?_append_left hlt, List.getElem?_append_left hlt]
  · rw [List.getElem?_append_right (by omega), List.getElem?_append_right (by omega),
      List.getElem?_cons, List.getElem?_cons, if_neg (by omega), if_neg (by omega)]

theorem findEntry_exchange (h : key ≠ name) : ∀ (front back : List (String × α)),
    findEntry key (front ++ (name, a) :: back) = findEntry key (front ++ (name, b) :: back)
  | [], _ => by simp [findEntry, h]
  | (k, c) :: front, back => by simp [findEntry, findEntry_exchange h front back]

end Exchange

variable {before after : List (String × Document)} {names : List String} {place s : Shape}
  {d d' : Document}

/-! ### What an edit is made in -/

theorem Document.Edit.not_flag (h : Document.Edit before after d d') :
    ¬ Shape.Fits (.optional .flag) d := by
  intro hd
  cases h <;> cases hd <;> contradiction

namespace Document.Distinct

variable {name : String}

theorem of_entry {front back : List (String × Document)}
    (h : (Document.map (front ++ (name, d) :: back)).Distinct) : d.Distinct :=
  fun _ _ _ hedit => h _ _ _ (.entry hedit)

theorem of_item {front back : List Document} (h : (Document.list (front ++ d :: back)).Distinct) :
    d.Distinct :=
  fun _ _ _ hedit => h _ _ _ (.item hedit)

theorem nodup {entries : List (String × Document)} (h : (Document.map entries).Distinct) :
    (entries.map Prod.fst).Nodup :=
  h entries entries _ .here

end Document.Distinct

namespace Shape

theorem Edit.ne_null (h : Edit before after names place s d d') : d ≠ .null ∧ d' ≠ .null := by
  induction h with
  | free h => cases h <;> exact ⟨nofun, nofun⟩
  | given _ ih => exact ih
  | _ => exact ⟨nofun, nofun⟩

/-! ### Shapes, constructor by constructor -/

variable {byPosition : Bool} {flags : List String} {fields : List (String × Bool × Shape)}
  {entries : List (String × Document)} {items : List Document}

theorem fits_optional_iff (hd : d ≠ .null) : Fits (.optional s) d ↔ Fits s d := by
  refine ⟨fun h => ?_, .given⟩
  cases h with
  | null => exact absurd rfl hd
  | given h => exact h

theorem fits_list_iff : Fits (.list s) (.list items) ↔ ∀ d ∈ items, Fits s d :=
  ⟨fun | .list h => h, .list⟩

theorem fits_table_iff : Fits (.table s) (.map entries) ↔ ∀ e ∈ entries, Fits s e.2 :=
  ⟨fun | .table h => h, .table⟩

theorem fits_one_iff {single : Bool} :
    Fits (.oneOrMany single s) (.map entries) ↔ Fits s (.map entries) :=
  ⟨fun | .one h => h, .one⟩

theorem fits_many_iff {single : Bool} : Fits (.oneOrMany single s) (.list items) ↔
    (single = true → items.length = 1) ∧ ∀ d ∈ items, Fits s d :=
  ⟨fun | .many alone h => ⟨alone, h⟩, fun h => .many h.1 h.2⟩

/-- An entry that a block declares and that fits what is declared. -/
def FitsEntry (flags : List String) (fields : List (String × Bool × Shape))
    (e : String × Document) : Prop :=
  e.1 ∉ flags → ∃ f, findEntry e.1 fields = some f ∧ Fits f.2 e.2

theorem fitsEntry_iff {name : String} {f : Bool × Shape} (hname : name ∉ flags)
    (hf : findEntry name fields = some f) : FitsEntry flags fields (name, d) ↔ Fits f.2 d := by
  refine ⟨fun h => ?_, fun h _ => ⟨f, hf, h⟩⟩
  obtain ⟨g, hg, hfits⟩ := h hname
  exact Option.some.inj (hg.symm.trans hf) ▸ hfits

theorem fitsEntry_nil_iff {e : String × Document} :
    FitsEntry [] fields e ↔ ∃ f, findEntry e.1 fields = some f ∧ Fits f.2 e.2 :=
  ⟨fun h => h (List.not_mem_nil), fun h _ => h⟩

theorem fits_fields_iff : Fits (.block byPosition flags fields) (.map entries) ↔
    (∀ flag ∈ flags, ∀ d, findEntry flag entries = some d → Fits (.optional .flag) d) ∧
      ∀ e ∈ entries, FitsEntry flags fields e := by
  constructor
  · intro h
    cases h with
    | fields declared flagged fitting =>
      refine ⟨flagged, fun e he hflag => ?_⟩
      have hdeclared := (List.mem_append.mp (declared e he)).resolve_left hflag
      obtain ⟨f, hf⟩ := Option.isSome_iff_exists.mp (findEntry_isSome.mpr hdeclared)
      exact ⟨f, hf, fitting e he hflag f hf⟩
  · rintro ⟨flagged, fitting⟩
    refine .fields (fun e he => ?declared) flagged fun e he hflag f hf => ?fitting
    case declared =>
      rw [List.mem_append]
      by_cases hflag : e.1 ∈ flags
      · exact .inl hflag
      · obtain ⟨f, hf, -⟩ := fitting e he hflag
        exact .inr (findEntry_isSome.mp (Option.isSome_of_eq_some hf))
    case fitting =>
      obtain ⟨g, hg, hfits⟩ := fitting e he hflag
      exact Option.some.inj (hg.symm.trans hf) ▸ hfits

/-- Items that stand for the fields of a block in order. -/
structure FitsPositions (fields : List (String × Bool × Shape)) (items : List Document) : Prop where
  within : items.length ≤ fields.length
  reaching : ∀ f ∈ fields.drop items.length, f.2.1 = false
  fitting : ∀ (i : Nat) (d : Document) (f : String × Bool × Shape), items[i]? = some d →
    fields[i]? = some f → Fits f.2.2 d

theorem fits_positions_iff : Fits (.block byPosition flags fields) (.list items) ↔
    byPosition = true ∧ FitsPositions fields items :=
  ⟨fun | .positions within reaching fitting => ⟨rfl, within, reaching, fitting⟩,
    fun ⟨hpos, h⟩ => hpos ▸ .positions h.within h.reaching h.fitting⟩

theorem fitsPositions_nil_iff :
    FitsPositions fields [] ↔ ∀ f ∈ fields, f.2.1 = false :=
  ⟨fun h => h.reaching, fun h => ⟨Nat.zero_le _, h, nofun⟩⟩

theorem not_fitsPositions_nil_cons : ¬ FitsPositions [] (d :: items) :=
  fun h => absurd h.within (Nat.not_succ_le_zero _)

theorem fitsPositions_cons_iff {f : String × Bool × Shape} :
    FitsPositions (f :: fields) (d :: items) ↔ Fits f.2.2 d ∧ FitsPositions fields items := by
  constructor
  · rintro ⟨within, reaching, fitting⟩
    exact ⟨fitting 0 d f rfl rfl, Nat.le_of_succ_le_succ within, reaching, fun i =>
      fitting (i + 1)⟩
  · rintro ⟨hd, within, reaching, fitting⟩
    refine ⟨Nat.succ_le_succ within, reaching, fun i e g he hg => ?_⟩
    cases i with
    | zero =>
      obtain rfl := Option.some.inj he
      obtain rfl := Option.some.inj hg
      exact hd
    | succ i => exact fitting i e g he hg

theorem fits_typed_iff {bodies : List (String × Shape)} {name : String} :
    Fits (.typed bodies) (.map [(name, d)]) ↔
      ∃ s, findEntry name bodies = some s ∧ Fits s d :=
  ⟨fun | .typed known body => ⟨_, known, body⟩, fun ⟨_, known, body⟩ => .typed known body⟩

/-! ### Editing a document -/

/-- A shape of maps. -/
def HasEntries : Shape → Prop
  | any | table _ | block .. | typed _ => True
  | _ => False

/-- **An edit is judged at its place**: the map that is edited had the shape of its place, and the
whole document keeps its shape just if the edited map does. -/
theorem Edit.fits_iff (h : Edit before after names place s d d') (hd : Fits s d) :
    Fits place (.map before) ∧ (Fits s d' ↔ Fits place (.map after)) := by
  induction h with
  | here => exact ⟨hd, Iff.rfl⟩
  | free h => exact ⟨.any _, fun _ => .any _, fun _ => .any _⟩
  | given h ih =>
    obtain ⟨hnull, hnull'⟩ := h.ne_null
    rw [fits_optional_iff hnull']
    exact ih ((fits_optional_iff hnull).mp hd)
  | item h ih =>
    obtain ⟨hd, hrest⟩ := forall_mem_exchange.mp (fits_list_iff.mp hd)
    obtain ⟨hbefore, hiff⟩ := ih hd
    refine ⟨hbefore, ?_⟩
    rw [fits_list_iff, forall_mem_exchange, hiff]
    exact and_iff_left hrest
  | value h ih =>
    obtain ⟨hd, hrest⟩ := forall_mem_exchange.mp (fits_table_iff.mp hd)
    obtain ⟨hbefore, hiff⟩ := ih hd
    refine ⟨hbefore, ?_⟩
    rw [fits_table_iff, forall_mem_exchange, hiff]
    exact and_iff_left hrest
  | @field _ _ _ flags fields f front back name d d' unflagged known h ih =>
    obtain ⟨hflags, hentries⟩ := fits_fields_iff.mp hd
    obtain ⟨hentry, hrest⟩ := forall_mem_exchange.mp hentries
    obtain ⟨hbefore, hiff⟩ := ih ((fitsEntry_iff unflagged known).mp hentry)
    refine ⟨hbefore, ?_⟩
    rw [fits_fields_iff, forall_mem_exchange, fitsEntry_iff unflagged known, hiff]
    refine ⟨fun h => h.2.1, fun hafter => ⟨fun flag hflag e he => ?_, hafter, hrest⟩⟩
    have hne : flag ≠ name := fun heq => unflagged (heq ▸ hflag)
    exact hflags flag hflag e ((findEntry_exchange hne front back).trans he)
  | @position _ _ _ flags fields f front back d d' known h ih =>
    obtain ⟨hpos, hwithin, hreaching, hfitting⟩ := fits_positions_iff.mp hd
    obtain ⟨hbefore, hiff⟩ := ih (hfitting front.length d f (by simp) known)
    refine ⟨hbefore, fits_positions_iff.trans ?_⟩
    have hlength : (front ++ d' :: back).length = (front ++ d :: back).length := by simp
    constructor
    · rintro ⟨-, h'⟩
      exact hiff.mp (h'.fitting front.length d' f (by simp) known)
    · refine fun hafter => ⟨hpos, hlength ▸ hwithin, hlength ▸ hreaching, fun i e g he hg => ?_⟩
      by_cases hi : i = front.length
      · subst hi
        obtain rfl := Option.some.inj (known.symm.trans hg)
        obtain rfl : d' = e := by simpa using he
        exact hiff.mpr hafter
      · exact hfitting i e g ((getElem?_exchange hi back).trans he) hg
  | body known h ih =>
    obtain ⟨t, ht, hbody⟩ := fits_typed_iff.mp hd
    obtain rfl := Option.some.inj (known.symm.trans ht)
    obtain ⟨hbefore, hiff⟩ := ih hbody
    refine ⟨hbefore, fits_typed_iff.trans ⟨?_, fun hafter => ⟨_, known, hiff.mpr hafter⟩⟩⟩
    rintro ⟨u, hu, hbody'⟩
    obtain rfl := Option.some.inj (known.symm.trans hu)
    exact hiff.mp hbody'
  | one h ih =>
    rw [fits_one_iff]
    exact ih (fits_one_iff.mp hd)
  | many h ih =>
    obtain ⟨halone, hitems⟩ := fits_many_iff.mp hd
    obtain ⟨hd, hrest⟩ := forall_mem_exchange.mp hitems
    obtain ⟨hbefore, hiff⟩ := ih hd
    refine ⟨hbefore, ?_⟩
    rw [fits_many_iff, forall_mem_exchange, hiff]
    simp only [List.length_append, List.length_cons] at halone ⊢
    exact ⟨fun h => h.2.1, fun hafter => ⟨halone, hafter, hrest⟩⟩

/-- **Every map has a place**: in a document of a shape, a map whose entries are edited stands where
the schema has a block, a typed block, a table or a free document. -/
theorem Fits.exists_edit (hd : Fits s d) : ∀ {d' : Document}, d.Distinct →
    Document.Edit before after d d' →
      ∃ names, ∃ place : Shape, Edit before after names place s d d' ∧ place.HasEntries := by
  induction hd with
  | text | flag | natural | duration | null => exact fun _ h => nomatch h
  | any d => exact fun _ h => ⟨[], .any, .free h, trivial⟩
  | given _ ih =>
    intro d' hdistinct h
    obtain ⟨names, place, hedit, hplace⟩ := ih hdistinct h
    exact ⟨names, place, .given hedit, hplace⟩
  | list _ ih =>
    intro d' hdistinct h
    cases h with
    | item h =>
      obtain ⟨names, place, hedit, hplace⟩ := ih _ List.mem_append_cons_self hdistinct.of_item h
      exact ⟨names, place, .item hedit, hplace⟩
  | table _ ih =>
    intro d' hdistinct h
    cases h with
    | here => exact ⟨[], _, .here, trivial⟩
    | entry h =>
      obtain ⟨names, place, hedit, hplace⟩ := ih _ List.mem_append_cons_self hdistinct.of_entry h
      exact ⟨names, place, .value hedit, hplace⟩
  | @fields _ flags fields _ declared flagged _ _ ih =>
    intro d' hdistinct h
    cases h with
    | here => exact ⟨[], _, .here, trivial⟩
    | @entry front back name d _ h =>
      have hmem : (name, d) ∈ front ++ (name, d) :: back := List.mem_append_cons_self
      -- what stands under the name of a flag is the flag, and no map is in that
      have hflag : name ∉ flags := fun hflag =>
        h.not_flag (flagged name hflag d (findEntry_of_nodup hdistinct.nodup))
      have hdeclared := (List.mem_append.mp (declared _ hmem)).resolve_left hflag
      obtain ⟨f, hf⟩ := Option.isSome_iff_exists.mp (findEntry_isSome.mpr hdeclared)
      obtain ⟨names, place, hedit, hplace⟩ := ih _ hmem hflag f hf hdistinct.of_entry h
      exact ⟨name :: names, place, .field hflag hf hedit, hplace⟩
  | @positions _ fields _ within _ _ ih =>
    intro d' hdistinct h
    cases h with
    | @item front back _ _ h =>
      have hlt : front.length < fields.length := by
        rw [List.length_append, List.length_cons] at within
        omega
      have hknown := List.getElem?_eq_getElem hlt
      obtain ⟨names, place, hedit, hplace⟩ :=
        ih front.length _ _ (by simp) hknown hdistinct.of_item h
      exact ⟨_ :: names, place, .position hknown hedit, hplace⟩
  | @typed _ name _ d known _ ih =>
    intro d' hdistinct h
    generalize hentries : [(name, d)] = entries at hdistinct h
    cases h with
    | here => exact ⟨[], _, .here, trivial⟩
    | @entry front back name' d' _ h =>
      obtain ⟨rfl, ⟨rfl, rfl⟩, rfl⟩ : front = [] ∧ (name' = name ∧ d' = d) ∧ back = [] := by
        simpa [List.singleton_eq_append_iff] using hentries
      obtain ⟨names, place, hedit, hplace⟩ := ih hdistinct.of_entry h
      exact ⟨name' :: names, place, .body known hedit, hplace⟩
  | one _ ih =>
    intro d' hdistinct h
    obtain ⟨entries', rfl⟩ : ∃ entries', d' = .map entries' := by cases h <;> exact ⟨_, rfl⟩
    obtain ⟨names, place, hedit, hplace⟩ := ih hdistinct h
    exact ⟨names, place, .one hedit, hplace⟩
  | many _ _ ih =>
    intro d' hdistinct h
    cases h with
    | item h =>
      obtain ⟨names, place, hedit, hplace⟩ := ih _ List.mem_append_cons_self hdistinct.of_item h
      exact ⟨names, place, .many hedit, hplace⟩

/-! ### Where names are free -/

/-- A name that is free in a field of that name and shape, or below it. -/
def FreeIn (name : String) (s : Shape) (free : String) : Prop :=
  free = name ∧ s.isFree = true ∨ free ∈ s.freeFields

theorem mem_freeAmong {free : String} {f : String × Bool × Shape} (h : FreeIn f.1 f.2.2 free)
    (hf : f ∈ fields) : free ∈ freeAmong fields := by
  induction fields with
  | nil => exact nomatch hf
  | cons g fields ih =>
    rw [freeAmong, List.mem_append, List.mem_append]
    rcases List.mem_cons.mp hf with rfl | hf
    · left
      rcases h with ⟨rfl, hfree⟩ | hfree
      · exact .inl (by simp [hfree])
      · exact .inr hfree
    · exact .inr (ih hf)

theorem mem_freeWithin {free : String} {bodies : List (String × Shape)} {b : String × Shape}
    (h : FreeIn b.1 b.2 free) (hb : b ∈ bodies) : free ∈ freeWithin bodies := by
  induction bodies with
  | nil => exact nomatch hb
  | cons c bodies ih =>
    rw [freeWithin, List.mem_append, List.mem_append]
    rcases List.mem_cons.mp hb with rfl | hb
    · left
      rcases h with ⟨rfl, hfree⟩ | hfree
      · exact .inl (by simp [hfree])
      · exact .inr hfree
    · exact .inr (ih hb)

/-- With one name more in front, the last name is the new one only if there was none. -/
theorem exists_freeIn_cons (name : String)
    (h : names = [] ∧ s.isFree = true ∨ ∃ free ∈ s.freeFields, names.getLast? = some free) :
    ∃ free, FreeIn name s free ∧ (name :: names).getLast? = some free := by
  rcases h with ⟨rfl, hfree⟩ | ⟨free, hmem, hlast⟩
  · exact ⟨name, .inl ⟨rfl, hfree⟩, rfl⟩
  · exact ⟨free, .inr hmem, by rw [List.getLast?_cons, hlast]; rfl⟩

/-- **The last name on the way to a table or a free document** is that of a field that holds names
that are not declared. -/
theorem Edit.getLast?_mem (h : Edit before after names place s d d')
    (hplace : place.isFree = true) :
    names = [] ∧ s.isFree = true ∨ ∃ free ∈ s.freeFields, names.getLast? = some free := by
  induction h with
  | here => exact .inl ⟨rfl, hplace⟩
  | free => exact .inl ⟨rfl, rfl⟩
  | given _ ih | item _ ih | one _ ih | many _ ih => exact ih hplace
  | value _ ih => exact (ih hplace).imp_left fun h => ⟨h.1, rfl⟩
  | field _ known _ ih =>
    obtain ⟨free, hfree, hlast⟩ := exists_freeIn_cons _ (ih hplace)
    exact .inr ⟨free, mem_freeAmong hfree (mem_of_findEntry known), hlast⟩
  | position known _ ih =>
    obtain ⟨free, hfree, hlast⟩ := exists_freeIn_cons _ (ih hplace)
    exact .inr ⟨free, mem_freeAmong hfree (List.mem_of_getElem? known), hlast⟩
  | body known _ ih =>
    obtain ⟨free, hfree, hlast⟩ := exists_freeIn_cons _ (ih hplace)
    exact .inr ⟨free, mem_freeWithin hfree (mem_of_findEntry known), hlast⟩

/-! ### One entry more -/

section Gains

variable {key : String} {value : Document}

/-- **A block takes no entry that it does not declare.** -/
theorem Gains.not_fits_block (h : Gains names (.block byPosition flags fields) s key value d d')
    (hd : Fits s d) (hkey : key ∉ flags ++ fields.map Prod.fst) : ¬ Fits s d' := by
  obtain ⟨front, back, hedit⟩ := h
  rw [(hedit.fits_iff hd).2]
  intro hplace
  cases hplace with
  | fields declared => exact hkey (declared (key, value) List.mem_append_cons_self)

/-- **A typed block takes no second entry.** -/
theorem Gains.not_fits_typed {bodies : List (String × Shape)}
    (h : Gains names (.typed bodies) s key value d d') (hd : Fits s d) : ¬ Fits s d' := by
  obtain ⟨front, back, hedit⟩ := h
  obtain ⟨hbefore, hiff⟩ := hedit.fits_iff hd
  have hlength : ∀ {entries : List (String × Document)}, Fits (.typed bodies) (.map entries) →
      entries.length = 1 := fun | .typed _ _ => rfl
  rw [hiff]
  intro hafter
  have hone := hlength hbefore
  have htwo := hlength hafter
  simp only [List.length_append, List.length_cons] at hone htwo
  omega

/-- **A table takes any name**, beside a value of its shape. -/
theorem Gains.fits_table_iff {item : Shape} (h : Gains names (.table item) s key value d d')
    (hd : Fits s d) : Fits s d' ↔ Fits item value := by
  obtain ⟨front, back, hedit⟩ := h
  obtain ⟨hbefore, hiff⟩ := hedit.fits_iff hd
  rw [hiff, Shape.fits_table_iff, forall_mem_exchange]
  exact and_iff_left (Shape.fits_table_iff.mp hbefore)

/-- **A free document takes every entry.** -/
theorem Gains.fits_any (h : Gains names .any s key value d d') (hd : Fits s d) : Fits s d' := by
  obtain ⟨front, back, hedit⟩ := h
  exact (hedit.fits_iff hd).2.mpr (.any _)

/-- **Every map that gains an entry has a place.** -/
theorem Fits.exists_gains (hd : Fits s d) (hdistinct : d.Distinct)
    (h : Document.Gains key value d d') :
    ∃ names, ∃ place : Shape, Gains names place s key value d d' ∧ place.HasEntries := by
  obtain ⟨front, back, hedit⟩ := h
  obtain ⟨names, place, hplace, hentries⟩ := hd.exists_edit hdistinct hedit
  exact ⟨names, place, ⟨front, back, hplace⟩, hentries⟩

/-- **Names are free in few fields**: those that the shape lists. -/
theorem Gains.getLast?_mem (h : Gains names place s key value d d') (hplace : place.isFree = true)
    (hs : s.isFree = false) : ∃ free ∈ s.freeFields, names.getLast? = some free := by
  obtain ⟨front, back, hedit⟩ := h
  refine (hedit.getLast?_mem hplace).resolve_left fun hfree => ?_
  exact Bool.false_ne_true (hs.symm.trans hfree.2)

end Gains

end Shape

end AutomationConfig
