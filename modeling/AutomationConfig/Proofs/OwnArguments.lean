import AutomationConfig.Proofs.ConfigRules
import AutomationConfig.Proofs.DistinctNames

/-! # Arguments that are not handed on

Of the arguments of a provider two are the program's own: the environment of tasks and the flag for
automatic commits. The rest is handed to Terraform. In a block that is accepted nothing is lost by
taking the arguments apart (`Provider.TakenApart`): what is handed on, with the flag and the
environment put back in their places where they were given, is the map of arguments that the block
holds, alone or in a list of one (`Provider.arguments_taken_apart`).

Each of the functions that take the arguments apart is lenient by itself. It passes over what is not
of the kind it wants, and it is the rules for blocks that leave nothing to pass over.

Like every map in a document that is read (`inOrder_of_documentOf`), the arguments are entries in
increasing order of their names. -/

namespace AutomationConfig

/-! ### Entries taken out and put back -/

section Entries

variable {α : Type} {key : String} {a : α}

theorem insertEntry_of_lt {entries : List (String × α)} (h : ∀ e ∈ entries, key < e.1) :
    insertEntry key a entries = (key, a) :: entries := by
  cases entries with
  | nil => rfl
  | cons e rest =>
    have hlt : key < e.1 := h e List.mem_cons_self
    rw [insertEntry, if_pos hlt]

/-- The entries with one more in its place, if there is one. -/
def withEntry (key : String) : Option α → List (String × α) → List (String × α)
  | some a, entries => insertEntry key a entries
  | none, entries => entries

theorem filter_ne_eq_self {entries : List (String × α)} (h : ∀ e ∈ entries, e.1 ≠ key) :
    entries.filter (fun e => e.1 != key) = entries :=
  List.filter_eq_self.mpr fun e he => bne_iff_ne.mpr (h e he)

/-- An entry that is taken out and put back is where it was. -/
theorem insertEntry_filter_ne : ∀ {entries : List (String × α)}, Ordered entries →
    findEntry key entries = some a →
      insertEntry key a (entries.filter fun e => e.1 != key) = entries
  | (k, b) :: rest, hordered, hfind => by
    obtain ⟨hfirst, hrest⟩ := List.pairwise_cons.mp hordered
    by_cases hk : key = k
    · -- all entries behind this one have greater names
      subst hk
      obtain rfl : b = a := by simpa [findEntry] using hfind
      have hothers : rest.filter (fun e => e.1 != key) = rest :=
        filter_ne_eq_self fun e he => (String.ne_of_lt (hfirst e he)).symm
      rw [List.filter_cons_of_neg (by simp), hothers, insertEntry_of_lt hfirst]
    · have hbehind : findEntry key rest = some a := by simpa [findEntry, hk] using hfind
      have hlt : k < key := hfirst _ (mem_of_findEntry hbehind)
      have hnot : ¬ key < k := fun hgt => String.lt_irrefl k (String.lt_trans hlt hgt)
      have hkept : (k != key) = true := bne_iff_ne.mpr (Ne.symm hk)
      rw [List.filter_cons_of_pos (by exact hkept), insertEntry, if_neg hnot, if_neg hk,
        insertEntry_filter_ne hrest hbehind]

/-- Entries are as they were once that of a name is taken out and put back, if there is one. -/
theorem withEntry_filter_ne {entries : List (String × α)} (h : Ordered entries) :
    withEntry key (findEntry key entries) (entries.filter fun e => e.1 != key) = entries := by
  cases hfind : findEntry key entries with
  | some a => exact insertEntry_filter_ne h hfind
  | none =>
    refine filter_ne_eq_self fun e he heq => ?_
    have hfree : key ∉ entries.map Prod.fst :=
      findEntry_isSome.not.mp (Option.not_isSome_iff_eq_none.mpr hfind)
    exact hfree (heq ▸ List.mem_map_of_mem he)

end Entries

namespace Provider

variable {p : Provider} {name : String} {body : List (String × Document)}

/-! ### Blocks that are accepted -/

/-- A block is accepted if it has one name, which is not empty, and a map of arguments that keeps
the rules. -/
theorem check_eq_ok : p.check = .ok () ↔ ∃ name body,
    p.name? = some name ∧ name ≠ "" ∧ p.body? = some body ∧ checkBody name body = .ok () := by
  unfold check
  cases p.name? with
  | none => simp
  | some name =>
    cases p.body? with
    | none => by_cases h : name = "" <;> simp [h]
    | some body => by_cases h : name = "" <;> simp [h]

/-- The arguments are a map that stands by itself or alone in a list. -/
theorem entries_of_body? (hname : p.name? = some name) (hbody : p.body? = some body) :
    p.blocks.entries = [(name, .map body)] ∨ p.blocks.entries = [(name, .list [.map body])] := by
  have hkeys : p.blocks.entries.map Prod.fst = [name] := by
    unfold name? at hname
    split at hname
    next key hkeys => exact Option.some.inj hname ▸ hkeys
    next => exact nomatch hname
  obtain ⟨⟨key, d⟩, rest, hentries, hkey, hrest⟩ := List.map_eq_cons_iff.mp hkeys
  obtain rfl : key = name := hkey
  obtain rfl := List.map_eq_nil_iff.mp hrest
  have hvalue : p.blocks.values = [d] := congrArg (List.map Prod.snd) hentries
  simp only [body?, hvalue, List.head?_cons, Option.bind_eq_bind, Option.bind_some] at hbody
  rw [hentries]
  split at hbody
  next => exact .inl (by rw [Option.some.inj hbody])
  next => exact .inr (by rw [Option.some.inj hbody])
  next => exact nomatch hbody

theorem argument?_eq (hbody : p.body? = some body) (argument : String) :
    p.argument? argument = findEntry argument body := by
  rw [argument?, hbody]
  rfl

theorem checkBody_eq_ok : checkBody name body = .ok () ↔
    (∀ d, findEntry "alias" body = some d → isAlias d = true) ∧
    (∀ d, findEntry "auto_commit" body = some d → d.bool?.isSome = true) ∧
    ∀ d, findEntry "task_env" body = some d → isEnvironment d = true := by
  unfold checkBody
  rw [bind_eq_ok, bind_eq_ok, require_eq_ok, require_eq_ok, require_eq_ok]
  simp only [Option.all_eq_true]

theorem readValues_eq : ∀ entries : List (String × Document), readValues entries = .ok entries
  | [] => rfl
  | (key, d) :: entries => by
    rw [readValues, readValues_eq entries]
    rfl

/-- The arguments of a block that is read are in order if the document is. -/
theorem inOrder_of_read {d : Document} (hd : d.InOrder) (h : read d = .ok p) :
    ∀ value ∈ p.blocks.values, value.InOrder := by
  obtain ⟨blocks, hblocks, rfl⟩ := Mismatch.map_eq_ok.mp h
  cases d with
  | map entries =>
    have hmap := Document.inOrder_map_iff.mp hd
    obtain ⟨values, hvalues, rfl⟩ := Mismatch.map_eq_ok.mp hblocks
    obtain rfl : entries = values := Except.ok.inj ((readValues_eq entries).symm.trans hvalues)
    rw [Table.values, Table.entries_ofList hmap.ordered]
    intro value hvalue
    obtain ⟨e, he, rfl⟩ := List.mem_map.mp hvalue
    exact hmap.values e he
  | _ => exact nomatch hblocks

/-! ### The environment and the flag -/

/-- The environment of tasks, as the document that it is given as. -/
def environment (p : Provider) : Document :=
  .map (p.taskEnv.entries.map fun e => (e.1, .text e.2))

theorem map_text_filterMap : ∀ {entries : List (String × Document)},
    (∀ e ∈ entries, e.2.isText = true) →
      (entries.filterMap fun (name, d) => d.text?.map (name, ·)).map
        (fun e => (e.1, Document.text e.2)) = entries
  | [], _ => rfl
  | (key, d) :: rest, h => by
    obtain ⟨hd, hrest⟩ := List.forall_mem_cons.mp h
    cases d with
    | text s => exact congrArg ((key, Document.text s) :: ·) (map_text_filterMap hrest)
    | _ => exact nomatch hd

/-- An environment that keeps the rule for it is taken over as it is. -/
theorem environment_eq {d : Document} (hbody : p.body? = some body)
    (hfind : findEntry "task_env" body = some d) (hrule : isEnvironment d = true)
    (hd : d.InOrder) : p.environment = d := by
  cases d with
  | map env =>
    have htexts : ∀ e ∈ env, e.2.isText = true := List.all_eq_true.mp hrule
    have hall := map_text_filterMap htexts
    have hordered : Ordered (env.filterMap fun (name, d) => d.text?.map (name, ·)) := by
      have henv : Ordered env := (Document.inOrder_map_iff.mp hd).ordered
      rw [← hall] at henv
      exact (List.pairwise_map.mp henv :)
    rw [environment, taskEnv, argument?_eq hbody, hfind]
    simp only [Option.bind_some, Document.entries?, Option.getD_some]
    rw [Table.entries_ofList hordered, hall]
  | _ => exact nomatch hrule

/-- A flag that keeps the rule for it is taken over as it is. -/
theorem autoCommit_eq {d : Document} (hbody : p.body? = some body)
    (hfind : findEntry "auto_commit" body = some d) (hrule : d.bool?.isSome = true) :
    .bool p.autoCommit = d := by
  cases d with
  | bool b =>
    rw [autoCommit, argument?_eq hbody, hfind]
    rfl
  | _ => exact nomatch hrule

/-! ### Taking the arguments apart -/

/-- What is handed on are the arguments without the two that are the program's own. -/
theorem arguments_eq (hbody : p.body? = some body) : p.arguments =
    (body.filter fun e => e.1 != "task_env").filter fun e => e.1 != "auto_commit" := by
  rw [arguments, hbody, Option.getD_some, List.filter_filter]
  refine List.filter_congr fun e _ => ?_
  rw [Bool.eq_iff_iff]
  simp [ownArguments, and_comm]

/-- **The arguments are taken apart without loss**: those that are handed on are none of the
program's own, and together with the flag and the environment, put back where they were given, they
are all that the block holds. The environment is the one that was given, entry by entry. -/
structure TakenApart (p : Provider) (body : List (String × Document)) : Prop where
  restored : body =
    withEntry "task_env" (if "task_env" ∈ body.map Prod.fst then some p.environment else none)
      (withEntry "auto_commit"
        (if "auto_commit" ∈ body.map Prod.fst then some (.bool p.autoCommit) else none) p.arguments)
  handed : ∀ e ∈ p.arguments, e.1 ≠ "task_env" ∧ e.1 ≠ "auto_commit"
  environment : ∀ d, findEntry "task_env" body = some d → d = p.environment

/-- What is put back is what was found. -/
theorem given_eq_findEntry {key : String} {d : Document}
    (h : ∀ d', findEntry key body = some d' → d = d') :
    (if key ∈ body.map Prod.fst then some d else none) = findEntry key body := by
  cases hfind : findEntry key body with
  | some d' =>
    have hmem : key ∈ body.map Prod.fst := findEntry_isSome.mp (by rw [hfind]; rfl)
    rw [if_pos hmem, h d' hfind]
  | none =>
    have hfree : key ∉ body.map Prod.fst :=
      findEntry_isSome.not.mp (Option.not_isSome_iff_eq_none.mpr hfind)
    rw [if_neg hfree]

/-- **Nothing is lost of the arguments of a block that is accepted.** They are a map, alone or in a
list of one, and the map is taken apart without loss. -/
theorem arguments_taken_apart {p : Provider} (hp : ∀ d ∈ p.blocks.values, d.InOrder)
    (h : p.check = .ok ()) : ∃ name body,
      (p.blocks.entries = [(name, .map body)] ∨ p.blocks.entries = [(name, .list [.map body])]) ∧
        p.TakenApart body := by
  obtain ⟨name, body, hname, -, hbody, hrules⟩ := check_eq_ok.mp h
  obtain ⟨-, hflag, henv⟩ := checkBody_eq_ok.mp hrules
  have hform := entries_of_body? hname hbody
  have hmap : OrderedWith Document.InOrder body := by
    rw [Table.values] at hp
    rcases hform with hform | hform <;> rw [hform] at hp
    · exact Document.inOrder_map_iff.mp (hp _ List.mem_cons_self)
    · have hlist := Document.inOrder_list_iff.mp (hp _ List.mem_cons_self)
      exact Document.inOrder_map_iff.mp (hlist _ List.mem_cons_self)
  have henvironment : ∀ d, findEntry "task_env" body = some d → p.environment = d :=
    fun d hfind => environment_eq hbody hfind (henv d hfind) (hmap.of_findEntry hfind)
  refine ⟨name, body, hform, ?restored, ?handed, fun d hfind => (henvironment d hfind).symm⟩
  case restored =>
    have hne : "auto_commit" ≠ "task_env" := by decide
    rw [given_eq_findEntry henvironment,
      given_eq_findEntry fun d hfind => autoCommit_eq hbody hfind (hflag d hfind),
      arguments_eq hbody, ← findEntry_filter_ne hne body,
      withEntry_filter_ne (hmap.ordered.filter _), withEntry_filter_ne hmap.ordered]
  case handed =>
    intro e he
    rw [arguments_eq hbody] at he
    obtain ⟨he, hcommit⟩ := List.mem_filter.mp he
    exact ⟨bne_iff_ne.mp (List.mem_filter.mp he).2, bne_iff_ne.mp hcommit⟩

/-- A block in a list of one, with an alias and both of the program's own arguments. -/
def eastBlock : Document :=
  .map [("aws", .list [.map [("alias", .text "east"), ("auto_commit", .bool true),
    ("region", .text "us-east-1"),
    ("task_env", .map [("KEY", .text "id"), ("SECRET", .text "hunter2")])]])]

/-- The alias and the region are handed on. -/
theorem arguments_taken_apart_east : ∃ p : Provider, read eastBlock = .ok p ∧
    (∀ d ∈ p.blocks.values, d.InOrder) ∧ p.check = .ok () ∧
    p.arguments.map Prod.fst = ["alias", "region"] ∧ ∃ name body,
      (p.blocks.entries = [(name, .map body)] ∨ p.blocks.entries = [(name, .list [.map body])]) ∧
        p.TakenApart body := by
  have hblock : eastBlock.InOrder := by
    have henv : (Document.map [("KEY", .text "id"), ("SECRET", .text "hunter2")]).InOrder := by
      refine Document.inOrder_map_iff.mpr ⟨by decide, ?_⟩
      simp only [List.forall_mem_cons]
      exact ⟨Document.inOrder_text _, Document.inOrder_text _, List.forall_mem_nil _⟩
    refine Document.inOrder_map_iff.mpr ⟨by decide, List.forall_mem_singleton.mpr ?_⟩
    refine Document.inOrder_list_iff.mpr (List.forall_mem_singleton.mpr ?_)
    refine Document.inOrder_map_iff.mpr ⟨by decide, ?_⟩
    simp only [List.forall_mem_cons]
    exact ⟨Document.inOrder_text _, Document.inOrder_bool _, Document.inOrder_text _, henv,
      List.forall_mem_nil _⟩
  have hread : ∀ {p : Provider}, read eastBlock = .ok p → ∀ d ∈ p.blocks.values, d.InOrder :=
    inOrder_of_read hblock
  exact ⟨_, rfl, hread rfl, rfl, rfl, arguments_taken_apart (hread rfl) rfl⟩

end Provider

end AutomationConfig
