import AutomationConfig.Proofs.OwnArguments
import Mathlib.Data.List.TakeWhile
import Mathlib.Data.Option.Basic

/-! # Ids of providers and their names

A task refers to a provider by its id, and of one provider it may name one instance only. Which
instances are of one provider is read off the ids: what stands before the first dot is taken for the
name of the provider. The id of a block is its name with the alias behind a dot, so what is read off
is the name if it holds no dot (`Provider.grouped_by_name`).

No rule keeps dots out of a name, though. Two blocks whose names agree up to their first dots are
taken for instances of one provider (`Provider.grouped_by_name_dotted`). -/

namespace AutomationConfig

/-! ### The name that is read off an id -/

/-- What follows a dot does not count. -/
theorem providerBaseName_append (name rest : String) :
    providerBaseName (name ++ "." ++ rest) = providerBaseName name := by
  have htake : ∀ cs : List Char, (cs ++ '.' :: rest.toList).takeWhile (· != '.') =
      cs.takeWhile (· != '.') := by
    intro cs
    induction cs with
    | nil => rfl
    | cons c cs ih =>
      rw [List.cons_append, List.takeWhile_cons, List.takeWhile_cons, ih]
  have htext : (name ++ "." ++ rest).toList = name.toList ++ '.' :: rest.toList := by
    simp [String.toList_append]
  rw [providerBaseName, htext, htake]
  rfl

theorem providerBaseName_eq_self {name : String} (h : '.' ∉ name.toList) :
    providerBaseName name = name := by
  have hall : name.toList.takeWhile (· != '.') = name.toList :=
    List.takeWhile_eq_self_iff.mpr fun c hc => bne_iff_ne.mpr fun hdot => h (hdot ▸ hc)
  rw [providerBaseName, hall, String.ofList_toList]

namespace Provider

variable {p : Provider} {name : String}

/-- What is read off the id of a block is read off its name. -/
theorem providerBaseName_id (h : p.name? = some name) :
    providerBaseName p.id = providerBaseName name := by
  rw [id, h, Option.getD_some]
  cases p.alias? with
  | some a => exact providerBaseName_append name a
  | none => rfl

/-- The name of the block holds no dot. -/
def HasPlainName (p : Provider) : Prop := ∀ name, p.name? = some name → '.' ∉ name.toList

theorem HasPlainName.providerBaseName_id (hp : p.HasPlainName) (h : p.name? = some name) :
    providerBaseName p.id = name :=
  (Provider.providerBaseName_id h).trans (providerBaseName_eq_self (hp name h))

/-- **Ids are grouped by the names of their blocks**, as far as these differ before their first
dots. If no name holds a dot, two ids are taken for instances of one provider if and only if their
blocks have one name, and a task may name the ids of blocks whose names are different. -/
theorem grouped_by_name {providers : List Provider} (h : checkAll providers = .ok ()) :
    (∀ p ∈ providers, ∀ q ∈ providers, ∃ m n, p.name? = some m ∧ q.name? = some n ∧
      (providerBaseName p.id = providerBaseName q.id ↔ providerBaseName m = providerBaseName n)) ∧
    ((∀ p ∈ providers, p.HasPlainName) →
      (∀ p ∈ providers, ∀ q ∈ providers,
        (providerBaseName p.id = providerBaseName q.id ↔ p.name? = q.name?)) ∧
      ∀ (t : Task) (used : List Provider), (∀ p ∈ used, p ∈ providers) →
        t.providers = used.map id → (t.checkProviders = .ok () ↔ (used.map name?).Nodup)) := by
  have hnamed : ∀ p ∈ providers, ∃ name, p.name? = some name ∧ name ≠ "" := by
    intro p hp
    obtain ⟨name, -, hname, hne, -⟩ := check_eq_ok.mp ((checkAll_eq_ok.mp h).1 p hp)
    exact ⟨name, hname, hne⟩
  refine ⟨?ids, fun hplain => ⟨?names, ?tasks⟩⟩
  case ids =>
    intro p hp q hq
    obtain ⟨m, hm, -⟩ := hnamed p hp
    obtain ⟨n, hn, -⟩ := hnamed q hq
    exact ⟨m, n, hm, hn, by rw [providerBaseName_id hm, providerBaseName_id hn]⟩
  case names =>
    intro p hp q hq
    obtain ⟨m, hm, -⟩ := hnamed p hp
    obtain ⟨n, hn, -⟩ := hnamed q hq
    rw [(hplain p hp).providerBaseName_id hm, (hplain q hq).providerBaseName_id hn, hm, hn,
      Option.some_inj]
  case tasks =>
    intro t used hused ht
    have hbase : ∀ p ∈ used,
        p.name? = some (providerBaseName p.id) ∧ providerBaseName p.id ≠ "" := by
      intro p hp
      obtain ⟨name, hname, hne⟩ := hnamed p (hused p hp)
      rw [(hplain p (hused p hp)).providerBaseName_id hname]
      exact ⟨hname, hne⟩
    have hnames : used.map name? = ((used.map id).map providerBaseName).map some := by
      rw [List.map_map, List.map_map]
      exact List.map_congr_left fun p hp => (hbase p hp).1
    rw [Task.checkProviders_eq_ok, ht, hnames, List.nodup_map_iff (Option.some_injective _)]
    refine and_iff_right fun id hid => ?_
    obtain ⟨p, hp, rfl⟩ := List.mem_map.mp hid
    exact (hbase p hp).2

/-- A block of that name, with an alias or without one. -/
def instanceOf (name : String) (alias? : Option String) : Provider :=
  ⟨.ofList [(name, .map (alias?.map fun a => ("alias", .text a)).toList)]⟩

/-- Two instances of one provider and one of another. -/
def plainProviders : List Provider :=
  [instanceOf "aws" (some "east"), instanceOf "aws" (some "west"), instanceOf "local" none]

/-- A task may name an instance of each, and not both instances of one. -/
theorem grouped_by_name_plain :
    checkAll plainProviders = .ok () ∧ (∀ p ∈ plainProviders, p.HasPlainName) ∧
      ({ providers := ["aws.west", "local"] } : Task).checkProviders = .ok () ∧
      ({ providers := ["aws.west", "aws.east"] } : Task).checkProviders ≠ .ok () := by
  have haccepted : checkAll plainProviders = .ok () := rfl
  have hplain : ∀ p ∈ plainProviders, p.HasPlainName := by
    simp only [plainProviders, List.forall_mem_cons]
    refine ⟨?_, ?_, ?_, List.forall_mem_nil _⟩
    all_goals
      intro name hname
      obtain rfl := Option.some.inj hname
      decide
  have htasks := ((grouped_by_name haccepted).2 hplain).2
  refine ⟨haccepted, hplain, ?apart, ?together⟩
  case apart =>
    refine (htasks _ [instanceOf "aws" (some "west"), instanceOf "local" none] ?_ rfl).mpr ?_
    · simp [plainProviders]
    · decide
  case together =>
    refine (htasks _ [instanceOf "aws" (some "west"), instanceOf "aws" (some "east")]
      ?_ rfl).not.mpr ?_
    · simp [plainProviders]
    · decide

/-- A provider whose name starts like that of another one. -/
def dottedProviders : List Provider := [instanceOf "aws" none, instanceOf "aws.east" none]

/-- The blocks have different names and are taken for instances of one provider. -/
theorem grouped_by_name_dotted : checkAll dottedProviders = .ok () ∧
    (¬ ∀ p ∈ dottedProviders, ∀ q ∈ dottedProviders,
      (providerBaseName p.id = providerBaseName q.id ↔ p.name? = q.name?)) ∧
    ({ providers := dottedProviders.map id } : Task).checkProviders =
      .error (.providerTwice "aws") := by
  refine ⟨rfl, fun h => ?_, rfl⟩
  have hsame := (h _ List.mem_cons_self _ (List.mem_cons_of_mem _ List.mem_cons_self)).mp
  exact absurd (hsame (by decide)) (by decide)

end Provider

end AutomationConfig
