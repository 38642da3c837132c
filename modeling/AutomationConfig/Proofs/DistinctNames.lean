import AutomationConfig.Loading
import AutomationConfig.Proofs.Strictness

/-! # Documents without repeated names

The entries of every map in the document of a fragment are in increasing order of their names
(`inOrder_of_documentOf`), so no map has two entries of one name. Of several members of one name the
reader of JSON keeps the last, and the reader of TOML refuses a name that is taken. Both add entries
to ordered ones, which stay ordered (`OrderedWith`); the tables that a text of TOML is read into are
ordered at every depth (`Toml.Node.Tidy`), whichever header or dotted key has opened them. So the
places that the schema has for maps are all the places for an entry more in a fragment
(`Config.exists_place`). -/

namespace AutomationConfig

/-! ### Ordered entries -/

/-- Ordered entries whose values have a property. -/
structure OrderedWith {α : Type} (P : α → Prop) (entries : List (String × α)) : Prop where
  ordered : Ordered entries
  values : ∀ e ∈ entries, P e.2

namespace OrderedWith

variable {α : Type} {P : α → Prop} {entries : List (String × α)} {key : String} {a : α}

theorem nil : OrderedWith P [] := ⟨List.Pairwise.nil, nofun⟩

theorem insertEntry (h : OrderedWith P entries) (key : String) (ha : P a) :
    OrderedWith P (insertEntry key a entries) where
  ordered := h.ordered.insertEntry
  values := by
    intro e he
    rcases mem_insertEntry he with rfl | he
    · exact ha
    · exact h.values e he

theorem of_findEntry (h : OrderedWith P entries) (hfind : findEntry key entries = some a) : P a :=
  h.values (key, a) (mem_of_findEntry hfind)

theorem of_names {others : List (String × α)} (h : OrderedWith P entries)
    (hnames : others.map Prod.fst = entries.map Prod.fst) (hvalues : ∀ e ∈ others, P e.2) :
    OrderedWith P others where
  ordered := by
    have hordered : (entries.map Prod.fst).Pairwise (· < ·) := List.pairwise_map.mpr h.ordered
    exact List.pairwise_map.mp (hnames ▸ hordered)
  values := hvalues

end OrderedWith

/-- What is read is wrapped, and the rest of the text passed on. -/
theorem exists_of_map {α β : Type} {f : α → β} {read : Option (α × List Char)} {b : β}
    {rest : List Char} (h : read.map (fun r => (f r.1, r.2)) = some (b, rest)) :
    ∃ a, read = some (a, rest) ∧ f a = b := by
  obtain ⟨⟨a, rest'⟩, hread, heq⟩ := Option.map_eq_some_iff.mp h
  obtain ⟨rfl, rfl⟩ := Prod.mk.inj heq
  exact ⟨a, hread, rfl⟩

/-- **The entries of every map in the document are in order.** -/
def Document.InOrder (d : Document) : Prop :=
  ∀ before after d', Document.Edit before after d d' → Ordered before

namespace Document

variable {d : Document} {entries : List (String × Document)} {items : List Document}

theorem InOrder.distinct (h : d.InOrder) : d.Distinct :=
  fun before after d' hedit => (h before after d' hedit).nodup

theorem inOrder_text (s : String) : (text s).InOrder := by
  intro before after d' hedit
  cases hedit

theorem inOrder_bool (b : Bool) : (bool b).InOrder := by
  intro before after d' hedit
  cases hedit

theorem inOrder_map_iff : (map entries).InOrder ↔ OrderedWith InOrder entries := by
  constructor
  · intro h
    refine ⟨h entries entries _ .here, fun e he => ?_⟩
    obtain ⟨front, back, rfl⟩ := List.append_of_mem he
    exact fun _ _ _ hedit => h _ _ _ (.entry hedit)
  · intro h before after d' hedit
    cases hedit with
    | here => exact h.ordered
    | entry hedit => exact h.values _ List.mem_append_cons_self before after _ hedit

theorem inOrder_list_iff : (list items).InOrder ↔ ∀ d ∈ items, d.InOrder := by
  constructor
  · intro h d hd
    obtain ⟨front, back, rfl⟩ := List.append_of_mem hd
    exact fun _ _ _ hedit => h _ _ _ (.item hedit)
  · intro h before after d' hedit
    cases hedit with
    | item hedit => exact h _ List.mem_append_cons_self before after _ hedit

/-! ### JSON -/

namespace Json

theorem inOrder_of_floatOf {negative : Bool} {significand : Nat} {power : Int}
    (h : floatOf negative significand power = some d) : d.InOrder := by
  obtain ⟨x, -, h⟩ := Option.bind_eq_some_iff.mp h
  obtain ⟨y, -, h⟩ := Option.bind_eq_some_iff.mp h
  obtain rfl := Option.some.inj h
  exact nofun

/-- A number is no map. -/
theorem inOrder_of_readNumber {negative : Bool} {cs rest : List Char}
    (h : readNumber negative cs = some (d, rest)) : d.InOrder := by
  -- what stands for the number is an integer or a float, on every way through the reader
  have hfloat : ∀ {significand : Nat} {power : Int} {rest' : List Char},
      (do return (← floatOf negative significand power, rest')) = some (d, rest) → d.InOrder := by
    intro significand power rest' h
    obtain ⟨x, hx, h⟩ := Option.bind_eq_some_iff.mp h
    obtain ⟨rfl, -⟩ := Prod.mk.inj (Option.some.inj h)
    exact inOrder_of_floatOf hx
  have hint : ∀ {n : Int} {rest' : List Char},
      some (Document.int n, rest') = some (d, rest) → d.InOrder := by
    intro n rest' h
    obtain ⟨rfl, -⟩ := Prod.mk.inj (Option.some.inj h)
    exact nofun
  unfold readNumber at h
  dsimp only at h
  split at h
  next => exact nomatch h
  next => exact nomatch h
  next =>
    obtain ⟨⟨fraction, afterFraction⟩, -, h⟩ := Option.bind_eq_some_iff.mp h
    obtain ⟨⟨power, afterPower⟩, -, h⟩ := Option.bind_eq_some_iff.mp h
    dsimp only at h
    split at h
    next =>
      cases negative with
      | false => exact hint h
      | true =>
        rw [if_pos rfl] at h
        split at h
        next => exact hfloat h
        next => exact hint h
    next => exact hfloat h

/-- A word stands for one document. -/
theorem eq_of_map {word : Option (List Char)} {e : Document} {rest : List Char}
    (h : word.map (fun rest => (e, rest)) = some (d, rest)) : e = d := by
  obtain ⟨_, -, heq⟩ := Option.map_eq_some_iff.mp h
  exact (Prod.mk.inj heq).1

theorem inOrder_of_read (steps : Nat) :
    (∀ depth cs d rest, readValue steps depth cs = some (d, rest) → d.InOrder) ∧
    (∀ depth cs ds rest, readItems steps depth cs = some (ds, rest) → ∀ d ∈ ds, d.InOrder) ∧
    ∀ depth entries cs all rest, OrderedWith Document.InOrder entries →
      readMembers steps depth entries cs = some (all, rest) →
        OrderedWith Document.InOrder all := by
  induction steps with
  | zero => exact ⟨nofun, nofun, nofun⟩
  | succ steps ih =>
    obtain ⟨hvalue, hitems, hmembers⟩ := ih
    refine ⟨?value, ?items, ?members⟩
    case value =>
      intro depth cs d rest h
      unfold readValue at h
      split at h
      case h_1 =>
        obtain ⟨text, -, rfl⟩ := exists_of_map h
        exact nofun
      case h_2 =>
        cases depth with
        | zero => exact nomatch h
        | succ depth =>
          dsimp only at h
          split at h
          next =>
            obtain ⟨rfl, -⟩ := Prod.mk.inj (Option.some.inj h)
            exact inOrder_list_iff.mpr nofun
          next =>
            obtain ⟨items, hread, rfl⟩ := exists_of_map h
            exact inOrder_list_iff.mpr (hitems _ _ _ _ hread)
      case h_3 =>
        have hnone : OrderedWith Document.InOrder [] := .nil
        cases depth with
        | zero => exact nomatch h
        | succ depth =>
          dsimp only at h
          split at h
          next =>
            obtain ⟨rfl, -⟩ := Prod.mk.inj (Option.some.inj h)
            exact inOrder_map_iff.mpr hnone
          next =>
            obtain ⟨all, hread, rfl⟩ := exists_of_map h
            exact inOrder_map_iff.mpr (hmembers _ _ _ _ _ hnone hread)
      case h_4 | h_8 => exact inOrder_of_readNumber h
      case h_5 | h_6 | h_7 =>
        obtain rfl := eq_of_map h
        exact nofun
    case items =>
      intro depth cs ds rest h
      obtain ⟨⟨item, afterItem⟩, hitem, h⟩ := Option.bind_eq_some_iff.mp h
      dsimp only at h
      split at h
      next =>
        obtain ⟨⟨items, afterItems⟩, hrest, h⟩ := Option.bind_eq_some_iff.mp h
        obtain ⟨rfl, -⟩ := Prod.mk.inj (Option.some.inj h)
        exact List.forall_mem_cons.mpr ⟨hvalue _ _ _ _ hitem, hitems _ _ _ _ hrest⟩
      next =>
        obtain ⟨rfl, -⟩ := Prod.mk.inj (Option.some.inj h)
        exact List.forall_mem_singleton.mpr (hvalue _ _ _ _ hitem)
      next => exact nomatch h
    case members =>
      intro depth entries cs all rest hentries h
      unfold readMembers at h
      split at h
      next =>
        obtain ⟨⟨key, afterKey⟩, -, h⟩ := Option.bind_eq_some_iff.mp h
        dsimp only at h
        split at h
        next =>
          obtain ⟨⟨value, afterValue⟩, hread, h⟩ := Option.bind_eq_some_iff.mp h
          have hadded := hentries.insertEntry key (hvalue _ _ _ _ hread)
          dsimp only at h
          split at h
          next => exact hmembers _ _ _ _ _ hadded h
          next =>
            obtain ⟨rfl, -⟩ := Prod.mk.inj (Option.some.inj h)
            exact hadded
          next => exact nomatch h
        next => exact nomatch h
      next => exact nomatch h

end Json

/-- The maps in a document that is read from JSON are in order. -/
theorem inOrder_of_ofJson? {source : String} (h : ofJson? source = some d) : d.InOrder := by
  unfold ofJson? ofJsonWithin? at h
  dsimp only at h
  split at h
  next d' rest hread =>
    split at h
    next =>
      obtain rfl := Option.some.inj h
      exact (Json.inOrder_of_read _).1 _ _ _ _ hread
    next => exact nomatch h
  next => exact nomatch h

/-! ### Tables of TOML -/

namespace Toml

variable {key : String} {entries inner out : List (String × Node)} {value : Node}

/-- **The tables in a node are ordered**, at every depth, and so are the maps in its values. -/
inductive Node.Tidy : Node → Prop
  | value {d : Document} (h : d.InOrder) : Tidy (.value d)
  | table {origin : Origin} {entries : List (String × Node)} (ordered : Ordered entries)
      (values : ∀ e ∈ entries, Tidy e.2) : Tidy (.table origin entries)
  | tables {elements : List (List (String × Node))} (ordered : ∀ t ∈ elements, Ordered t)
      (values : ∀ t ∈ elements, ∀ e ∈ t, Tidy e.2) : Tidy (.tables elements)

theorem Node.tidy_table_iff {origin : Origin} :
    Tidy (.table origin entries) ↔ OrderedWith Tidy entries :=
  ⟨fun | .table ordered values => ⟨ordered, values⟩, fun h => .table h.ordered h.values⟩

theorem Node.tidy_tables_iff {elements : List (List (String × Node))} :
    Tidy (.tables elements) ↔ ∀ t ∈ elements, OrderedWith Tidy t :=
  ⟨fun | .tables ordered values => fun t ht => ⟨ordered t ht, values t ht⟩,
    fun h => .tables (fun t ht => (h t ht).ordered) fun t ht => (h t ht).values⟩

theorem tidy_of_table {origin : Origin} (h : OrderedWith Node.Tidy entries)
    (hfind : findEntry key entries = some (.table origin inner)) : OrderedWith Node.Tidy inner :=
  Node.tidy_table_iff.mp (h.of_findEntry hfind)

theorem tidy_of_tables {elements : List (List (String × Node))} (h : OrderedWith Node.Tidy entries)
    (hfind : findEntry key entries = some (.tables elements)) :
    ∀ t ∈ elements, OrderedWith Node.Tidy t :=
  Node.tidy_tables_iff.mp (h.of_findEntry hfind)

/-- A table on the way to what is changed is put back changed. -/
theorem tidy_put_table {origin : Origin} (h : OrderedWith Node.Tidy entries)
    (hinner : OrderedWith Node.Tidy inner) :
    OrderedWith Node.Tidy (insertEntry key (.table origin inner) entries) :=
  h.insertEntry key (Node.tidy_table_iff.mpr hinner)

/-- So is the last of several tables. -/
theorem tidy_put_tables {last : List (String × Node)} {others : List (List (String × Node))}
    (h : OrderedWith Node.Tidy entries) (hlast : OrderedWith Node.Tidy last)
    (hothers : ∀ t ∈ others, OrderedWith Node.Tidy t) :
    OrderedWith Node.Tidy (insertEntry key (.tables (last :: others)) entries) :=
  h.insertEntry key (Node.tidy_tables_iff.mpr (List.forall_mem_cons.mpr ⟨hlast, hothers⟩))

theorem tidy_changeTable {change : List (String × Node) → Option (List (String × Node))}
    (hchange : ∀ {entries out}, OrderedWith Node.Tidy entries → change entries = some out →
      OrderedWith Node.Tidy out) : ∀ {path : List String} {entries out : List (String × Node)},
    OrderedWith Node.Tidy entries → changeTable change path entries = some out →
      OrderedWith Node.Tidy out
  | [], entries, out, hentries, h => hchange hentries h
  | key :: path, entries, out, hentries, h => by
    unfold changeTable at h
    split at h
    next origin inner hfind =>
      obtain ⟨inner', hinner, h⟩ := Option.bind_eq_some_iff.mp h
      obtain rfl := Option.some.inj h
      exact tidy_put_table hentries
        (tidy_changeTable hchange (tidy_of_table hentries hfind) hinner)
    next last others hfind =>
      obtain ⟨last', hlast, h⟩ := Option.bind_eq_some_iff.mp h
      obtain rfl := Option.some.inj h
      obtain ⟨htable, hothers⟩ := List.forall_mem_cons.mp (tidy_of_tables hentries hfind)
      exact tidy_put_tables hentries (tidy_changeTable hchange htable hlast) hothers
    next => exact nomatch h

theorem tidy_openTable {isElement : Bool} :
    ∀ {path : List String} {entries out : List (String × Node)},
    OrderedWith Node.Tidy entries → openTable isElement path entries = some out →
      OrderedWith Node.Tidy out
  | [], _, _, _, h => nomatch h
  | [key], entries, out, hentries, h => by
    unfold openTable at h
    split at h
    next => obtain rfl := Option.some.inj h; exact tidy_put_table hentries .nil
    next inner hfind =>
      obtain rfl := Option.some.inj h
      exact tidy_put_table hentries (tidy_of_table hentries hfind)
    next => obtain rfl := Option.some.inj h; exact tidy_put_tables hentries .nil nofun
    next elements hfind =>
      obtain rfl := Option.some.inj h
      exact tidy_put_tables hentries .nil (tidy_of_tables hentries hfind)
    next => exact nomatch h
  | key :: next :: path, entries, out, hentries, h => by
    unfold openTable at h
    split at h
    next =>
      obtain ⟨inner, hinner, h⟩ := Option.bind_eq_some_iff.mp h
      obtain rfl := Option.some.inj h
      exact tidy_put_table hentries (tidy_openTable .nil hinner)
    next origin inner hfind =>
      obtain ⟨inner', hinner, h⟩ := Option.bind_eq_some_iff.mp h
      obtain rfl := Option.some.inj h
      exact tidy_put_table hentries (tidy_openTable (tidy_of_table hentries hfind) hinner)
    next last others hfind =>
      obtain ⟨last', hlast, h⟩ := Option.bind_eq_some_iff.mp h
      obtain rfl := Option.some.inj h
      obtain ⟨htable, hothers⟩ := List.forall_mem_cons.mp (tidy_of_tables hentries hfind)
      exact tidy_put_tables hentries (tidy_openTable htable hlast) hothers
    next => exact nomatch h

theorem tidy_assign (hvalue : value.Tidy) :
    ∀ {inDotted : Bool} {path : List String} {entries out : List (String × Node)},
    OrderedWith Node.Tidy entries → assign value inDotted path entries = some out →
      OrderedWith Node.Tidy out
  | _, [], _, _, _, h => nomatch h
  | _, [key], entries, out, hentries, h => by
    unfold assign at h
    split at h
    next =>
      obtain rfl := Option.some.inj h
      exact hentries.insertEntry key hvalue
    next => exact nomatch h
  | _, key :: next :: path, entries, out, hentries, h => by
    unfold assign at h
    split at h
    next =>
      obtain ⟨inner, hinner, h⟩ := Option.bind_eq_some_iff.mp h
      obtain rfl := Option.some.inj h
      exact tidy_put_table hentries (tidy_assign hvalue .nil hinner)
    next => exact nomatch h
    next origin inner _ hfind =>
      obtain ⟨inner', hinner, h⟩ := Option.bind_eq_some_iff.mp h
      obtain rfl := Option.some.inj h
      exact tidy_put_table hentries (tidy_assign hvalue (tidy_of_table hentries hfind) hinner)
    next last others hfind =>
      obtain ⟨last', hlast, h⟩ := Option.bind_eq_some_iff.mp h
      obtain rfl := Option.some.inj h
      obtain ⟨htable, hothers⟩ := List.forall_mem_cons.mp (tidy_of_tables hentries hfind)
      exact tidy_put_tables hentries (tidy_assign hvalue htable hlast) hothers
    next => exact nomatch h

/-! ### Tables of TOML as documents -/

theorem toEntries_eq_map : ∀ entries : List (String × Node),
    Node.toEntries entries = entries.map fun e => (e.1, e.2.toDocument)
  | [] => rfl
  | (k, n) :: entries => by rw [Node.toEntries, toEntries_eq_map entries, List.map_cons]

theorem toItems_eq_map : ∀ elements : List (List (String × Node)),
    Node.toItems elements = elements.map fun t => .map (Node.toEntries t)
  | [] => rfl
  | t :: elements => by rw [Node.toItems, toItems_eq_map elements, List.map_cons]

theorem inOrder_of_entries (hordered : Ordered entries)
    (h : ∀ e ∈ entries, e.2.toDocument.InOrder) :
    (Document.map (Node.toEntries entries)).InOrder := by
  rw [toEntries_eq_map, inOrder_map_iff]
  refine ⟨List.pairwise_map.mpr hordered, fun e he => ?_⟩
  obtain ⟨e', he', rfl⟩ := List.mem_map.mp he
  exact h e' he'

theorem Node.Tidy.inOrder {n : Node} (h : n.Tidy) : n.toDocument.InOrder := by
  induction h with
  | value h => rwa [Node.toDocument]
  | table ordered _ ih =>
    rw [Node.toDocument]
    exact inOrder_of_entries ordered ih
  | tables ordered _ ih =>
    rw [Node.toDocument, toItems_eq_map, inOrder_list_iff]
    intro d hd
    obtain ⟨t, ht, rfl⟩ := List.mem_map.mp (List.mem_reverse.mp hd)
    exact inOrder_of_entries (ordered t ht) (ih t ht)

theorem inOrder_toEntries (h : OrderedWith Node.Tidy entries) :
    (Document.map (Node.toEntries entries)).InOrder :=
  inOrder_of_entries h.ordered fun e he => (h.values e he).inOrder

/-! ### Scalars and moments -/

theorem inOrder_of_ofInteger? {n : Int} (h : ofInteger? n = some d) : d.InOrder := by
  unfold ofInteger? at h
  split at h
  next => obtain rfl := Option.some.inj h; exact nofun
  next => exact nomatch h

theorem inOrder_of_ofBase? {base : Nat} {isDigit : Char → Bool} {cs : List Char}
    (h : ofBase? base isDigit cs = some d) : d.InOrder := by
  obtain ⟨digits, -, h⟩ := Option.bind_eq_some_iff.mp h
  exact inOrder_of_ofInteger? h

theorem inOrder_of_ofDecimal? {negative : Bool} {cs : List Char}
    (h : ofDecimal? negative cs = some d) : d.InOrder := by
  unfold ofDecimal? at h
  dsimp only at h
  obtain ⟨digits, -, h⟩ := Option.bind_eq_some_iff.mp h
  split at h
  next => exact nomatch h
  next =>
    split at h
    next => exact inOrder_of_ofInteger? h
    next =>
      -- a float, with a power or without one
      obtain ⟨places, -, h⟩ := Option.bind_eq_some_iff.mp h
      split at h
      all_goals
        obtain ⟨tens, -, h⟩ := Option.bind_eq_some_iff.mp h
        obtain ⟨x, -, h⟩ := Option.bind_eq_some_iff.mp h
        obtain rfl := Option.some.inj h
        exact nofun

theorem inOrder_of_ofSigned? {negative : Bool} {cs : List Char}
    (h : ofSigned? negative cs = some d) : d.InOrder := by
  unfold ofSigned? at h
  split at h
  next => obtain rfl := Option.some.inj h; exact nofun
  next => exact inOrder_of_ofDecimal? h

/-- A moment is a map of one entry. -/
theorem inOrder_moment (s : String) : (Document.map [(momentKey, .text s)]).InOrder :=
  inOrder_map_iff.mpr ⟨List.pairwise_singleton _ _, List.forall_mem_singleton.mpr nofun⟩

theorem inOrder_of_ofMoment? {cs : List Char} (h : ofMoment? cs = some d) : d.InOrder := by
  unfold ofMoment? at h
  dsimp only at h
  split at h
  next => obtain rfl := Option.some.inj h; exact inOrder_moment _
  next =>
    split at h
    next =>
      obtain ⟨time, -, h⟩ := Option.bind_eq_some_iff.mp h
      obtain ⟨offset, -, h⟩ := Option.bind_eq_some_iff.mp h
      obtain rfl := Option.some.inj h
      exact inOrder_moment _
    next => exact nomatch h
  next =>
    obtain ⟨time, -, h⟩ := Option.bind_eq_some_iff.mp h
    split at h
    next => obtain rfl := Option.some.inj h; exact inOrder_moment _
    next => exact nomatch h

theorem inOrder_of_ofScalar? {cs : List Char} (h : ofScalar? cs = some d) : d.InOrder := by
  unfold ofScalar? at h
  split at h
  case h_1 | h_2 => obtain rfl := Option.some.inj h; exact nofun
  case h_3 | h_4 => exact inOrder_of_ofSigned? h
  case h_5 | h_6 | h_7 => exact inOrder_of_ofBase? h
  case h_8 =>
    rcases Option.or_eq_some_iff.mp h with h | ⟨-, h⟩
    · exact inOrder_of_ofSigned? h
    · exact inOrder_of_ofMoment? h

mutual

theorem inOrder_of_withMoments? : ∀ {d d' : Document}, d.InOrder → withMoments? d = some d' →
    d'.InOrder
  | .map ((key, d) :: rest), d', hd, h => by
    rw [withMoments?] at h
    split at h
    next =>
      obtain ⟨text, -, h⟩ := Option.bind_eq_some_iff.mp h
      exact inOrder_of_ofMoment? h
    next =>
      obtain ⟨entries, hentries, h⟩ := Option.bind_eq_some_iff.mp h
      obtain rfl := Option.some.inj h
      have hgiven := inOrder_map_iff.mp hd
      obtain ⟨hnames, hvalues⟩ := inOrder_of_momentEntries? hgiven.values hentries
      exact inOrder_map_iff.mpr (hgiven.of_names hnames hvalues)
  | .list items, d', hd, h => by
    rw [withMoments?] at h
    obtain ⟨items', hitems, h⟩ := Option.bind_eq_some_iff.mp h
    obtain rfl := Option.some.inj h
    exact inOrder_list_iff.mpr (inOrder_of_momentItems? (inOrder_list_iff.mp hd) hitems)
  | .map [], d', hd, h | .text _, d', hd, h | .int _, d', hd, h | .float _, d', hd, h
  | .bool _, d', hd, h | .null, d', hd, h => by
    obtain rfl := Option.some.inj h
    exact hd

theorem inOrder_of_momentItems? : ∀ {items items' : List Document}, (∀ d ∈ items, d.InOrder) →
    momentItems? items = some items' → ∀ d ∈ items', d.InOrder
  | [], items', _, h => by
    obtain rfl := Option.some.inj h
    exact nofun
  | d :: items, items', hitems, h => by
    obtain ⟨hd, hrest⟩ := List.forall_mem_cons.mp hitems
    obtain ⟨d', hd', h⟩ := Option.bind_eq_some_iff.mp h
    obtain ⟨rest', hrest', h⟩ := Option.bind_eq_some_iff.mp h
    obtain rfl := Option.some.inj h
    exact List.forall_mem_cons.mpr
      ⟨inOrder_of_withMoments? hd hd', inOrder_of_momentItems? hrest hrest'⟩

theorem inOrder_of_momentEntries? : ∀ {entries entries' : List (String × Document)},
    (∀ e ∈ entries, e.2.InOrder) → momentEntries? entries = some entries' →
      entries'.map Prod.fst = entries.map Prod.fst ∧ ∀ e ∈ entries', e.2.InOrder
  | [], entries', _, h => by
    obtain rfl := Option.some.inj h
    exact ⟨rfl, nofun⟩
  | (key, d) :: entries, entries', hentries, h => by
    obtain ⟨hd, hrest⟩ := List.forall_mem_cons.mp hentries
    obtain ⟨d', hd', h⟩ := Option.bind_eq_some_iff.mp h
    obtain ⟨rest', hrest', h⟩ := Option.bind_eq_some_iff.mp h
    obtain rfl := Option.some.inj h
    obtain ⟨hnames, hinOrder⟩ := inOrder_of_momentEntries? hrest hrest'
    exact ⟨congrArg (key :: ·) hnames,
      List.forall_mem_cons.mpr ⟨inOrder_of_withMoments? hd hd', hinOrder⟩⟩

end

/-! ### Values and lines of TOML -/

theorem inOrder_of_read (steps : Nat) :
    (∀ depth cs d rest, readValue steps depth cs = some (d, rest) → d.InOrder) ∧
    (∀ depth cs ds rest, readItems steps depth cs = some (ds, rest) → ∀ d ∈ ds, d.InOrder) ∧
    ∀ depth entries cs all rest, OrderedWith Node.Tidy entries →
      readInline steps depth entries cs = some (all, rest) → OrderedWith Node.Tidy all := by
  induction steps with
  | zero => exact ⟨nofun, nofun, nofun⟩
  | succ steps ih =>
    obtain ⟨hvalue, hitems, hinline⟩ := ih
    refine ⟨?value, ?items, ?inline⟩
    case value =>
      intro depth cs d rest h
      unfold readValue at h
      split at h
      case h_1 | h_2 | h_3 | h_4 =>
        obtain ⟨text, -, rfl⟩ := exists_of_map h
        exact nofun
      case h_5 =>
        cases depth with
        | zero => exact nomatch h
        | succ depth =>
          dsimp only at h
          obtain ⟨items, hread, rfl⟩ := exists_of_map h
          exact inOrder_list_iff.mpr (hitems _ _ _ _ hread)
      case h_6 =>
        cases depth with
        | zero => exact nomatch h
        | succ depth =>
          dsimp only at h
          obtain ⟨entries, hread, rfl⟩ :=
            exists_of_map (f := fun entries => Document.map (Node.toEntries entries)) h
          exact inOrder_toEntries (hinline _ _ _ _ _ .nil hread)
      case h_7 =>
        obtain ⟨d', hscalar, heq⟩ := Option.map_eq_some_iff.mp h
        obtain ⟨rfl, -⟩ := Prod.mk.inj heq
        exact inOrder_of_ofScalar? hscalar
    case items =>
      intro depth cs ds rest h
      unfold readItems at h
      split at h
      next =>
        obtain ⟨rfl, -⟩ := Prod.mk.inj (Option.some.inj h)
        exact nofun
      next =>
        obtain ⟨⟨item, afterItem⟩, hitem, h⟩ := Option.bind_eq_some_iff.mp h
        dsimp only at h
        split at h
        next =>
          obtain ⟨⟨items, afterItems⟩, hrest, h⟩ := Option.bind_eq_some_iff.mp h
          obtain ⟨rfl, -⟩ := Prod.mk.inj (Option.some.inj h)
          exact List.forall_mem_cons.mpr ⟨hvalue _ _ _ _ hitem, hitems _ _ _ _ hrest⟩
        next =>
          obtain ⟨rfl, -⟩ := Prod.mk.inj (Option.some.inj h)
          exact List.forall_mem_singleton.mpr (hvalue _ _ _ _ hitem)
        next => exact nomatch h
    case inline =>
      intro depth entries cs all rest hentries h
      unfold readInline at h
      split at h
      next =>
        obtain ⟨rfl, -⟩ := Prod.mk.inj (Option.some.inj h)
        exact hentries
      next =>
        obtain ⟨⟨key, afterKey⟩, -, h⟩ := Option.bind_eq_some_iff.mp h
        dsimp only at h
        split at h
        next =>
          obtain ⟨⟨value, afterValue⟩, hread, h⟩ := Option.bind_eq_some_iff.mp h
          obtain ⟨added, hadd, h⟩ := Option.bind_eq_some_iff.mp h
          have hadded := tidy_assign (.value (hvalue _ _ _ _ hread)) hentries hadd
          dsimp only at h
          split at h
          next => exact hinline _ _ _ _ _ hadded h
          next =>
            obtain ⟨rfl, -⟩ := Prod.mk.inj (Option.some.inj h)
            exact hadded
          next => exact nomatch h
        next => exact nomatch h

/-- Whatever a line opens or adds, the tables stay ordered. -/
theorem tidy_readLines (steps : Nat) : ∀ {path : List String} {root out : List (String × Node)}
    {cs : List Char}, OrderedWith Node.Tidy root → readLines steps path root cs = some out →
      OrderedWith Node.Tidy out := by
  induction steps with
  | zero => exact nofun
  | succ steps ih =>
    intro path root out cs hroot h
    unfold readLines at h
    split at h
    case h_1 =>
      obtain rfl := Option.some.inj h
      exact hroot
    case h_2 | h_3 =>
      obtain ⟨⟨header, afterKey⟩, -, h⟩ := Option.bind_eq_some_iff.mp h
      dsimp only at h
      split at h
      next =>
        obtain ⟨opened, hopen, h⟩ := Option.bind_eq_some_iff.mp h
        obtain ⟨rest, -, h⟩ := Option.bind_eq_some_iff.mp h
        exact ih (tidy_openTable hroot hopen) h
      next => exact nomatch h
    case h_4 =>
      obtain ⟨⟨key, afterKey⟩, -, h⟩ := Option.bind_eq_some_iff.mp h
      dsimp only at h
      split at h
      next =>
        obtain ⟨⟨value, afterValue⟩, hread, h⟩ := Option.bind_eq_some_iff.mp h
        obtain ⟨added, hadd, h⟩ := Option.bind_eq_some_iff.mp h
        obtain ⟨rest, -, h⟩ := Option.bind_eq_some_iff.mp h
        have hvalue : (Node.value value).Tidy := .value ((inOrder_of_read _).1 _ _ _ _ hread)
        exact ih (tidy_changeTable (fun hentries => tidy_assign hvalue hentries) hroot hadd) h
      next => exact nomatch h

end Toml

/-- The maps in a document that is read from TOML are in order. -/
theorem inOrder_of_ofToml? {source : String} (h : ofToml? source = some d) : d.InOrder := by
  unfold ofToml? at h
  dsimp only at h
  obtain ⟨root, hroot, h⟩ := Option.bind_eq_some_iff.mp h
  obtain ⟨entries, hentries, h⟩ := Option.bind_eq_some_iff.mp h
  obtain rfl := Option.some.inj h
  have hgiven := inOrder_map_iff.mp (Toml.inOrder_toEntries (Toml.tidy_readLines _ .nil hroot))
  obtain ⟨hnames, hvalues⟩ := Toml.inOrder_of_momentEntries? hgiven.values hentries
  exact inOrder_map_iff.mpr (hgiven.of_names hnames hvalues)

end Document

/-- **The maps in a fragment are in order**, whether it is written in JSON or in TOML. -/
theorem inOrder_of_documentOf {path : Path} {text : String} {d : Document}
    (h : documentOf path text = .ok d) : d.InOrder := by
  unfold documentOf at h
  split at h
  next =>
    split at h
    next hread => cases h; exact Document.inOrder_of_ofJson? hread
    next => exact nomatch h
  next =>
    split at h
    next hread => cases h; exact Document.inOrder_of_ofToml? hread
    next => exact nomatch h

/-- **One entry more in a fragment** stands at a place that the schema has for a map. -/
theorem Config.exists_place {path : Path} {text key : String} {d d' value : Document}
    (hdocument : documentOf path text = .ok d) (hread : ∃ c : Config, read d = .ok c)
    (hgains : Document.Gains key value d d') :
    ∃ names, ∃ place : Shape, Shape.Gains names place Config.shape key value d d' ∧
      place.HasEntries :=
  have hdistinct : d.Distinct := (inOrder_of_documentOf hdocument).distinct
  ((Reads.exists_read_iff d).mp hread).exists_gains hdistinct hgains

end AutomationConfig
