/-! # Tables

A table maps names to values. Its entries are kept in increasing order of their names, with no name
twice, so two tables with the same look-ups are the same table (`Table.ext_get?`). The look-up is
the view of a table: each operation has one equation through it (`get?_insert`, `get?_merge`). -/

namespace AutomationConfig

variable {α β : Type}

/-! ### Ordered entries -/

/-- Puts an entry in its place among ordered entries, in place of one of the same name. -/
def insertEntry (key : String) (value : α) : List (String × α) → List (String × α)
  | [] => [(key, value)]
  | (k, v) :: rest =>
    if key < k then (key, value) :: (k, v) :: rest
    else if key = k then (key, value) :: rest
    else (k, v) :: insertEntry key value rest

/-- The value of the first entry of that name. -/
def findEntry (key : String) : List (String × α) → Option α
  | [] => none
  | (k, v) :: rest => if key = k then some v else findEntry key rest

/-- Entries in increasing order of their names. -/
abbrev Ordered (entries : List (String × α)) : Prop := entries.Pairwise fun a b => a.1 < b.1

theorem mem_insertEntry {key : String} {value : α} {e : String × α} :
    ∀ {entries : List (String × α)}, e ∈ insertEntry key value entries →
      e = (key, value) ∨ e ∈ entries
  | [], h => by simpa [insertEntry] using h
  | (k, v) :: rest, h => by
    unfold insertEntry at h
    split at h
    · simpa using h
    · split at h
      · rcases List.mem_cons.mp h with h | h
        · exact Or.inl h
        · exact Or.inr (List.mem_cons_of_mem _ h)
      · rcases List.mem_cons.mp h with h | h
        · exact Or.inr (h ▸ List.mem_cons_self)
        · rcases mem_insertEntry h with h | h
          · exact Or.inl h
          · exact Or.inr (List.mem_cons_of_mem _ h)

theorem Ordered.insertEntry {key : String} {value : α} :
    ∀ {entries : List (String × α)}, Ordered entries → Ordered (insertEntry key value entries)
  | [], _ => by simp [AutomationConfig.insertEntry]
  | (k, v) :: rest, h => by
    obtain ⟨hk, hrest⟩ := List.pairwise_cons.mp h
    unfold AutomationConfig.insertEntry
    split
    next hlt =>
      refine List.pairwise_cons.mpr ⟨fun e he => ?_, h⟩
      rcases List.mem_cons.mp he with rfl | he
      · exact hlt
      · exact String.lt_trans hlt (hk e he)
    next hlt =>
      split
      next heq => exact List.pairwise_cons.mpr ⟨fun e he => heq ▸ hk e he, hrest⟩
      next hne =>
        refine List.pairwise_cons.mpr ⟨fun e he => ?_, Ordered.insertEntry hrest⟩
        rcases mem_insertEntry he with rfl | he
        · exact Classical.byContradiction fun hge =>
            hne (String.le_antisymm (String.not_lt.mp hge) (String.not_lt.mp hlt))
        · exact hk e he

theorem findEntry_insertEntry {key name : String} {value : α} :
    ∀ {entries : List (String × α)}, findEntry name (insertEntry key value entries) =
      if name = key then some value else findEntry name entries
  | [] => by simp [insertEntry, findEntry]
  | (k, v) :: rest => by
    unfold insertEntry
    split
    · simp [findEntry]
    · split
      next heq =>
        subst heq
        by_cases hn : name = key <;> simp [findEntry, hn]
      next hne =>
        have ih : findEntry name (insertEntry key value rest) =
            if name = key then some value else findEntry name rest := findEntry_insertEntry
        by_cases hn : name = k
        · have hk : name ≠ key := fun h => hne (h.symm.trans hn)
          simp [findEntry, hn, Ne.symm (hn ▸ hk.symm : key ≠ k)]
        · simp [findEntry, hn, ih]

theorem findEntry_eq_none {key : String} : ∀ {entries : List (String × α)},
    (∀ e ∈ entries, key < e.1) → findEntry key entries = none
  | [], _ => rfl
  | (k, v) :: rest, h => by
    have hk : key < k := h _ List.mem_cons_self
    have hne : key ≠ k := fun he => String.lt_irrefl k (he ▸ hk)
    simpa [findEntry, hne] using findEntry_eq_none fun e he => h e (List.mem_cons_of_mem _ he)

/-- Ordered entries are determined by what is found under each name. -/
theorem Ordered.ext : ∀ {a b : List (String × α)}, Ordered a → Ordered b →
    (∀ key, findEntry key a = findEntry key b) → a = b
  | [], [], _, _, _ => rfl
  | [], (k, v) :: _, _, _, h => by simpa [findEntry] using h k
  | (k, v) :: _, [], _, _, h => by simpa [findEntry] using h k
  | (k, v) :: a, (l, w) :: b, ha, hb, h => by
    obtain ⟨hka, ha'⟩ := List.pairwise_cons.mp ha
    obtain ⟨hlb, hb'⟩ := List.pairwise_cons.mp hb
    have hkl : k = l := by
      refine Classical.byContradiction fun hne => ?_
      rcases Classical.em (k < l) with hlt | hge
      · have hnone : findEntry k ((l, w) :: b) = none := findEntry_eq_none fun e he => by
          rcases List.mem_cons.mp he with rfl | he
          · exact hlt
          · exact String.lt_trans hlt (hlb e he)
        exact absurd ((h k).trans hnone) (by simp [findEntry])
      · have hlt : l < k := Classical.byContradiction fun hge' =>
          hne (String.le_antisymm (String.not_lt.mp hge') (String.not_lt.mp hge))
        have hnone : findEntry l ((k, v) :: a) = none := findEntry_eq_none fun e he => by
          rcases List.mem_cons.mp he with rfl | he
          · exact hlt
          · exact String.lt_trans hlt (hka e he)
        exact absurd ((h l).symm.trans hnone) (by simp [findEntry])
    subst hkl
    have hvw : v = w := by simpa [findEntry] using h k
    subst hvw
    have hab : a = b := Ordered.ext ha' hb' fun key => by
      by_cases hk : key = k
      · subst hk
        rw [findEntry_eq_none hka, findEntry_eq_none hlb]
      · simpa [findEntry, hk] using h key
    rw [hab]

theorem Ordered.nodup {entries : List (String × α)} (h : Ordered entries) :
    (entries.map Prod.fst).Nodup :=
  List.pairwise_map.mpr (h.imp String.ne_of_lt)

theorem Ordered.foldl_insertEntry (entries : List (String × α)) {start : List (String × α)}
    (h : Ordered start) :
    Ordered (entries.foldl (fun es e => AutomationConfig.insertEntry e.1 e.2 es) start) := by
  induction entries generalizing start with
  | nil => exact h
  | cons e entries ih => exact ih h.insertEntry

/-! ### Entries of different names -/

section DifferentNames

variable {key name : String} {a : α}

theorem findEntry_of_nodup : ∀ {front back : List (String × α)},
    ((front ++ (name, a) :: back).map Prod.fst).Nodup →
      findEntry name (front ++ (name, a) :: back) = some a
  | [], _, _ => by simp [findEntry]
  | (k, c) :: front, back, h => by
    obtain ⟨hk, hrest⟩ := List.nodup_cons.mp h
    have hne : name ≠ k := fun heq => hk (by simp [heq])
    rw [List.cons_append, findEntry, if_neg hne, findEntry_of_nodup hrest]

theorem mem_of_findEntry : ∀ {entries : List (String × α)}, findEntry name entries = some a →
    (name, a) ∈ entries
  | (k, c) :: entries, h => by
    rw [findEntry] at h
    split at h
    next heq =>
      obtain rfl := Option.some.inj h
      exact heq ▸ List.mem_cons_self
    next => exact List.mem_cons_of_mem _ (mem_of_findEntry h)

theorem findEntry_isSome : ∀ {entries : List (String × α)},
    (findEntry key entries).isSome ↔ key ∈ entries.map Prod.fst
  | [] => by simp [findEntry]
  | (k, c) :: entries => by
    by_cases hk : key = k
    · simp [findEntry, hk]
    · simp [findEntry, hk, findEntry_isSome]

/-- Where names are different, looking up finds every entry. -/
theorem findEntry_eq_some_iff {entries : List (String × α)}
    (h : (entries.map Prod.fst).Nodup) : findEntry name entries = some a ↔ (name, a) ∈ entries := by
  refine ⟨mem_of_findEntry, fun hmem => ?_⟩
  obtain ⟨front, back, rfl⟩ := List.append_of_mem hmem
  exact findEntry_of_nodup h

/-- Taking the entries of one name out does not hide those of another one. -/
theorem findEntry_filter_ne (h : key ≠ name) : ∀ entries : List (String × α),
    findEntry key (entries.filter fun e => e.1 != name) = findEntry key entries
  | [] => rfl
  | (k, c) :: entries => by
    have ih := findEntry_filter_ne h entries
    by_cases hk : k = name
    · subst hk
      simp [findEntry, h, ih]
    · simp [findEntry, hk, ih]

theorem findEntry_foldl_insertEntry {entries : List (String × α)}
    (h : (entries.map Prod.fst).Nodup) (start : List (String × α)) :
    findEntry name (entries.foldl (fun es e => insertEntry e.1 e.2 es) start) =
      (findEntry name entries).or (findEntry name start) := by
  induction entries generalizing start with
  | nil => rfl
  | cons e entries ih =>
    obtain ⟨hfree, hnodup⟩ := List.nodup_cons.mp h
    rw [List.foldl_cons, ih hnodup, findEntry_insertEntry, findEntry]
    by_cases hname : name = e.1
    · have hnone : findEntry name entries = none := by
        rw [← Option.not_isSome_iff_eq_none, findEntry_isSome, hname]
        exact hfree
      rw [if_pos hname, if_pos hname, hnone]
      rfl
    · rw [if_neg hname, if_neg hname]

end DifferentNames

/-! ### Tables -/

/-- A map from names to values, as its entries in increasing order of the names. -/
structure Table (α : Type) where
  entries : List (String × α) := []
  ordered : Ordered entries := by exact List.Pairwise.nil

namespace Table

/-- Tables are equal when their entries are. -/
theorem ext_entries {a b : Table α} (h : a.entries = b.entries) : a = b := by
  cases a; cases b; simpa using h

instance [DecidableEq α] : DecidableEq (Table α) := fun a b =>
  if h : a.entries = b.entries then isTrue (ext_entries h)
  else isFalse fun hab => h (hab ▸ rfl)

instance [BEq α] : BEq (Table α) := ⟨fun a b => a.entries == b.entries⟩

/-- The table without entries. -/
def empty : Table α := {}

instance : EmptyCollection (Table α) := ⟨empty⟩
instance : Inhabited (Table α) := ⟨empty⟩

/-- The value under a name, if there is one. -/
def get? (t : Table α) (key : String) : Option α := findEntry key t.entries

/-- The table with the value under that name. -/
def insert (t : Table α) (key : String) (value : α) : Table α :=
  ⟨insertEntry key value t.entries, t.ordered.insertEntry⟩

/-- The table of the entries; of several under one name the last counts. -/
def ofList (entries : List (String × α)) : Table α :=
  entries.foldl (fun t e => t.insert e.1 e.2) ∅

/-- The entries of both tables; where both have a name, the second one's value. -/
def merge (base other : Table α) : Table α :=
  other.entries.foldl (fun t e => t.insert e.1 e.2) base

/-- The names, in increasing order. -/
def keys (t : Table α) : List String := t.entries.map (·.1)

/-- The values, in the order of their names. -/
def values (t : Table α) : List α := t.entries.map (·.2)

/-- The number of entries. -/
def size (t : Table α) : Nat := t.entries.length

/-- Whether there is no entry. -/
def isEmpty (t : Table α) : Bool := t.entries.isEmpty

@[simp] theorem get?_empty (key : String) : (∅ : Table α).get? key = none := rfl

@[simp] theorem get?_insert (t : Table α) (key name : String) (value : α) :
    (t.insert key value).get? name = if name = key then some value else t.get? name :=
  findEntry_insertEntry

/-- A table is determined by its look-ups. -/
theorem ext_get? {a b : Table α} (h : ∀ key, a.get? key = b.get? key) : a = b :=
  ext_entries (a.ordered.ext b.ordered h)

theorem get?_foldl_insert (name : String) : ∀ (entries : List (String × α)) (t : Table α),
    Ordered entries → (entries.foldl (fun t e => t.insert e.1 e.2) t).get? name =
      (findEntry name entries).or (t.get? name)
  | [], t, _ => by simp [findEntry]
  | (k, v) :: rest, t, h => by
    obtain ⟨hk, hrest⟩ := List.pairwise_cons.mp h
    rw [List.foldl_cons, get?_foldl_insert name rest _ hrest]
    by_cases hn : name = k
    · subst hn
      simp [findEntry, findEntry_eq_none hk]
    · simp [findEntry, hn]

/-- The table of entries that are in order has these entries. -/
theorem entries_ofList {entries : List (String × α)} (h : Ordered entries) :
    (ofList entries).entries = entries := by
  have hsame : ofList entries = ⟨entries, h⟩ := ext_get? fun key => by
    rw [ofList, get?_foldl_insert key entries ∅ h, get?_empty, Option.or_none]
    rfl
  rw [hsame]

@[simp] theorem get?_merge (base other : Table α) (name : String) :
    (base.merge other).get? name = (other.get? name).or (base.get? name) :=
  get?_foldl_insert name other.entries base other.ordered

theorem merge_assoc (a b c : Table α) : (a.merge b).merge c = a.merge (b.merge c) :=
  ext_get? fun key => by rw [get?_merge, get?_merge, get?_merge, get?_merge, Option.or_assoc]

@[simp] theorem merge_self (t : Table α) : t.merge t = t :=
  ext_get? fun key => by rw [get?_merge, Option.or_self]

/-! ### Names -/

theorem mem_keys_insertEntry {key name : String} {value : α} : ∀ {entries : List (String × α)},
    name ∈ (insertEntry key value entries).map (·.1) ↔ name = key ∨ name ∈ entries.map (·.1)
  | [] => by simp [insertEntry]
  | (k, v) :: rest => by
    unfold insertEntry
    split
    · simp
    · split
      next heq => simp [heq]
      next =>
        have ih : name ∈ (insertEntry key value rest).map (·.1) ↔
            name = key ∨ name ∈ rest.map (·.1) := mem_keys_insertEntry
        simp only [List.map_cons, List.mem_cons, ih]
        exact or_left_comm

theorem mem_keys_foldl_insert {name : String} : ∀ {entries : List (String × α)} {t : Table α},
    name ∈ (entries.foldl (fun t e => t.insert e.1 e.2) t).keys ↔
      name ∈ entries.map (·.1) ∨ name ∈ t.keys
  | [], t => by simp
  | e :: rest, t => by
    have hinsert : name ∈ (t.insert e.1 e.2).keys ↔ name = e.1 ∨ name ∈ t.keys :=
      mem_keys_insertEntry
    rw [List.foldl_cons, mem_keys_foldl_insert, hinsert, List.map_cons, List.mem_cons, or_assoc]
    exact or_left_comm

theorem mem_keys_ofList {name : String} {entries : List (String × α)} :
    name ∈ (ofList entries).keys ↔ name ∈ entries.map (·.1) := by
  rw [ofList, mem_keys_foldl_insert]
  exact or_iff_left List.not_mem_nil

end Table

end AutomationConfig
