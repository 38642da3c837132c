import AutomationConfig.Proofs.Checking
import AutomationConfig.Proofs.Reordering
import AutomationConfig.Proofs.Trimming

/-! # Where Terraform keeps its state

A configuration that gives no backend gets the one in Consul, which follows from the connection.
`Consul.StateArgument` lists the arguments of that backend, from the connection as it was given.

* `Config.finalize_derives_backend`: defaults give that backend and no other where none is given,
  and otherwise the backend is that of the last fragment that gives one.
* `Terraform.statePath_clean`: the key below which the state is kept is a clean one, but that it
  starts with a slash if the path of the daemon's own keys is empty. -/

namespace AutomationConfig

/-! ### Maps that are made of entries -/

/-- A map that is made of entries of different names has these entries, in the order of names. -/
theorem Document.exists_ofEntries {entries : List (String × Document)}
    (h : (entries.map Prod.fst).Nodup) :
    ∃ es, Document.ofEntries entries = .map es ∧ Ordered es ∧
      ∀ name d, (name, d) ∈ es ↔ (name, d) ∈ entries := by
  have hordered : Ordered (entries.foldl (fun es e => insertEntry e.1 e.2 es) []) :=
    Ordered.foldl_insertEntry entries .nil
  refine ⟨_, rfl, hordered, fun name d => ?_⟩
  rw [← findEntry_eq_some_iff (Ordered.nodup hordered), findEntry_foldl_insertEntry h, findEntry,
    Option.or_none, findEntry_eq_some_iff h]

/-- Entries that are left out or given another value keep the order of their names. -/
theorem names_filterMap_sublist {α β : Type} {f : String × α → Option (String × β)}
    (hf : ∀ e e', f e = some e' → e'.1 = e.1) (entries : List (String × α)) :
    ((entries.filterMap f).map Prod.fst).Sublist (entries.map Prod.fst) := by
  induction entries with
  | nil => exact .slnil
  | cons e entries ih =>
    cases hfe : f e with
    | none =>
      rw [List.filterMap_cons_none hfe, List.map_cons]
      exact ih.cons e.1
    | some e' =>
      rw [List.filterMap_cons_some hfe, List.map_cons, List.map_cons, hf e e' hfe]
      exact ih.cons_cons e.1

/-! ### Paths without their final slashes -/

namespace Backend

/-- The text without any slash at its end: there is none at the end of the stem, and nothing but
slashes behind it. -/
structure IsStem (stem text : String) : Prop where
  slashes : ∃ n, text.toList = stem.toList ++ List.replicate n '/'
  last : stem.toList.getLast? ≠ some '/'

theorem isStem_iff {stem text : String} :
    IsStem stem text ↔ stem = withoutFinalSlashes text := by
  have hdropped : stem = withoutFinalSlashes text ↔
      stem.toList = text.toList.rdropWhile (· == '/') := by
    rw [withoutFinalSlashes, List.rdropWhile, ← String.toList_inj, String.toList_ofList]
  rw [hdropped, eq_rdropWhile_iff]
  constructor
  · rintro ⟨⟨n, htext⟩, hlast⟩
    refine ⟨⟨_, htext, fun c hc => by simp [List.eq_of_mem_replicate hc]⟩, fun c hc => ?_⟩
    rw [beq_eq_false_iff_ne]
    rintro rfl
    exact hlast hc
  · rintro ⟨⟨back, htext, hback⟩, hlast⟩
    refine ⟨⟨back.length, ?_⟩, fun hslash => ?_⟩
    · rw [htext]
      exact congrArg _ (List.eq_replicate_of_mem fun c hc => by simpa using hback c hc)
    · exact nomatch hlast '/' hslash

theorem isStem_withoutFinalSlashes (text : String) : IsStem (withoutFinalSlashes text) text :=
  isStem_iff.mpr rfl

end Backend

/-! ### The arguments of the backend in Consul -/

/-- TLS is in use: it is switched on, or nothing is said of it and there is something to use it
with. -/
def ClientTls.InUse (t : ClientTls) : Prop :=
  t.enabled = some true ∨ t.enabled = none ∧
    ∃ given ∈ [t.caCert, t.caPath, t.cert, t.key, t.serverName],
      ∃ text, given = some text ∧ text ≠ ""

/-- The files that secure the connection, each under the name of its argument. -/
def ClientTls.files (t : ClientTls) : List (String × Setting String) :=
  [("ca_file", t.caCert), ("cert_file", t.cert), ("key_file", t.key)]

/-- **The arguments of the backend** that follows from a connection. -/
inductive Consul.StateArgument (c : Consul) : String → Document → Prop
  | address : StateArgument c "address" (.text (c.address.getD "localhost:8500"))
  | gzip : StateArgument c "gzip" (.bool true)
  | path {stem : String} (h : Backend.IsStem stem (c.kvPath.getD "consul-terraform-sync/")) :
      StateArgument c "path" (.text (stem ++ "/terraform"))
  | scheme (h : (c.tls.getD {}).InUse) : StateArgument c "scheme" (.text "https")
  | file {name text : String} (h : (c.tls.getD {}).InUse)
      (hfile : (name, some text) ∈ (c.tls.getD {}).files) (hne : text ≠ "") :
      StateArgument c name (.text text)

/-- The backend in Consul over a connection, and nothing else. -/
def Consul.IsStateBackend (c : Consul) (backend : Table Document) : Prop :=
  ∃ args, backend.entries = [("consul", .map args)] ∧ Ordered args ∧
    ∀ name d, (name, d) ∈ args ↔ c.StateArgument name d

theorem Setting.isGiven_eq_true_iff {s : Setting String} :
    s.isGiven = true ↔ ∃ text, s = some text ∧ text ≠ "" := by
  cases s <;> simp [Setting.isGiven, Scalar.zero]

theorem ClientTls.isEnabled_finalize_iff {t : ClientTls} :
    t.finalize.isEnabled = true ↔ t.InUse := by
  have hmaterial : t.hasMaterial = true ↔
      ∃ given ∈ [t.caCert, t.caPath, t.cert, t.key, t.serverName],
        ∃ text, given = some text ∧ text ≠ "" := by
    simp only [hasMaterial, Bool.or_eq_true, ← Setting.isGiven_eq_true_iff, List.mem_cons,
      List.not_mem_nil, or_false, exists_eq_or_imp, exists_eq_left, or_assoc]
  have henabled : t.finalize.isEnabled = t.enabled.getD t.hasMaterial := rfl
  rw [henabled, InUse, ← hmaterial]
  cases t.enabled <;> simp

/-- Filling in the empty text gives no text that was not given before. -/
theorem Setting.isGiven_orDefault_and_value_iff {s : Setting String} {text : String} :
    (s.orDefault "").isGiven = true ∧ (s.orDefault "").value = text ↔
      s = some text ∧ text ≠ "" := by
  rw [Setting.isGiven_iff]
  cases s with
  | none => simp [Setting.value, Scalar.zero]
  | some given =>
    simp only [Setting.orDefault_some, Setting.value, Scalar.zero, Option.getD_some, ne_eq,
      Option.some.injEq]
    constructor
    · rintro ⟨hne, rfl⟩
      exact ⟨rfl, hne⟩
    · rintro ⟨rfl, hne⟩
      exact ⟨hne, rfl⟩

namespace Backend

theorem mem_tlsArguments {t : ClientTls} {name : String} {d : Document} :
    (name, d) ∈ tlsArguments t.finalize ↔ t.InUse ∧ ((name, d) = ("scheme", .text "https") ∨
      ∃ text, (name, some text) ∈ t.files ∧ text ≠ "" ∧ d = .text text) := by
  have hfiles : [("ca_file", t.finalize.caCert), ("cert_file", t.finalize.cert),
      ("key_file", t.finalize.key)] = t.files.map fun e => (e.1, e.2.orDefault "") := rfl
  rw [tlsArguments, hfiles, ← ClientTls.isEnabled_finalize_iff]
  split
  next henabled =>
    simp only [henabled, true_and, List.mem_cons, List.mem_filterMap, List.mem_map]
    refine or_congr_right ?_
    constructor
    · rintro ⟨_, ⟨⟨_, given⟩, hmem, rfl⟩, h⟩
      split at h
      next hgiven =>
        obtain ⟨rfl, rfl⟩ : _ = name ∧ _ = d := by simpa using h
        obtain ⟨hsome, hne⟩ := Setting.isGiven_orDefault_and_value_iff.mp ⟨hgiven, rfl⟩
        exact ⟨_, hsome ▸ hmem, hne, rfl⟩
      next => cases h
    · rintro ⟨text, hmem, hne, rfl⟩
      obtain ⟨hgiven, hvalue⟩ := Setting.isGiven_orDefault_and_value_iff.mpr ⟨rfl, hne⟩
      refine ⟨_, ⟨_, hmem, rfl⟩, ?_⟩
      simp only [hgiven, hvalue, if_true]
  next henabled => simp [henabled]

theorem nodup_consulArguments (c : Consul) : ((consulArguments c).map Prod.fst).Nodup := by
  have htls : (((c.tls.map tlsArguments).getD []).map Prod.fst).Sublist
      ["scheme", "ca_file", "cert_file", "key_file"] := by
    cases c.tls with
    | none => exact List.nil_sublist _
    | some t =>
      simp only [Option.map_some, Option.getD_some, tlsArguments]
      split
      · refine (names_filterMap_sublist (fun e e' he => ?_) _).cons_cons "scheme"
        split at he
        · rw [← Option.some.inj he]
        · cases he
      · exact List.nil_sublist _
  have hnodup :
      ["address", "path", "gzip", "scheme", "ca_file", "cert_file", "key_file"].Nodup := by decide
  rw [consulArguments, List.map_append]
  exact hnodup.sublist (htls.append_left ["address", "path", "gzip"])

theorem mem_consulArguments {c : Consul} {processors : UInt64} {name : String} {d : Document} :
    (name, d) ∈ consulArguments (c.finalize processors) ↔ c.StateArgument name d := by
  have harguments : consulArguments (c.finalize processors) =
      [("address", .text (c.address.getD "localhost:8500")),
        ("path", .text (statePath (c.kvPath.getD "consul-terraform-sync/"))),
        ("gzip", .bool true)] ++ tlsArguments (c.tls.getD {}).finalize := rfl
  simp only [harguments, List.mem_append, List.mem_cons, List.not_mem_nil, or_false,
    mem_tlsArguments, Prod.mk.injEq]
  constructor
  · rintro ((⟨rfl, rfl⟩ | ⟨rfl, rfl⟩ | ⟨rfl, rfl⟩) | ⟨htls, ⟨rfl, rfl⟩ | ⟨text, hfile, hne, rfl⟩⟩)
    · exact .address
    · exact .path (isStem_withoutFinalSlashes _)
    · exact .gzip
    · exact .scheme htls
    · exact .file htls hfile hne
  · rintro (_ | _ | hstem | htls | ⟨htls, hfile, hne⟩)
    · exact .inl (.inl ⟨rfl, rfl⟩)
    · exact .inl (.inr (.inr ⟨rfl, rfl⟩))
    · rw [isStem_iff.mp hstem]
      exact .inl (.inr (.inl ⟨rfl, rfl⟩))
    · exact .inr ⟨htls, .inl ⟨rfl, rfl⟩⟩
    · exact .inr ⟨htls, .inr ⟨_, hfile, hne, rfl⟩⟩

theorem isStateBackend_ofConsul (c : Consul) (processors : UInt64) :
    c.IsStateBackend (ofConsul (c.finalize processors)) := by
  obtain ⟨args, hargs, hordered, hmem⟩ :=
    Document.exists_ofEntries (nodup_consulArguments (c.finalize processors))
  refine ⟨args, ?_, hordered, fun name d => (hmem name d).trans mem_consulArguments⟩
  have hentries : (ofConsul (c.finalize processors)).entries =
      [("consul", Document.ofEntries (consulArguments (c.finalize processors)))] := rfl
  rw [hentries, hargs]

end Backend

/-! ### Backends over fragments -/

/-- The backend that a configuration gives; it is empty if none is given. -/
def Config.backend (c : Config) : Table Document :=
  ((c.driver.bind Driver.terraform).map Terraform.backend).getD .empty

namespace Config

theorem terraform_merge (a b : Config) : (a.merge b).driver.bind Driver.terraform =
    (a.driver.bind Driver.terraform).merge Terraform.merge (b.driver.bind Driver.terraform) := by
  have hmerged : (a.merge b).driver = a.driver.merge Driver.merge b.driver := rfl
  rw [hmerged]
  cases a.driver with
  | none => rw [Option.merge_none_left, Option.bind_none, Option.merge_none_left]
  | some first =>
    cases b.driver with
    | none => rw [Option.merge_none_right, Option.bind_none, Option.merge_none_right]
    | some second => rfl

/-- A backend replaces the earlier one. -/
theorem backend_merge (a b : Config) :
    (a.merge b).backend = if b.backend.isEmpty then a.backend else b.backend := by
  have hnone : (Table.empty : Table Document).isEmpty = true := rfl
  unfold backend
  rw [terraform_merge]
  cases a.driver.bind Driver.terraform with
  | none =>
    rw [Option.merge_none_left, Option.map_none, Option.getD_none]
    exact (Table.ite_isEmpty _).symm
  | some first =>
    cases b.driver.bind Driver.terraform with
    | none => rw [Option.merge_none_right, Option.map_none, Option.getD_none, if_pos hnone]
    | some second => rfl

theorem backend_foldl_merge {fragments : List Config}
    (h : ∀ g ∈ fragments, g.backend.isEmpty = true) (base : Config) :
    (fragments.foldl merge base).backend = base.backend := by
  induction fragments generalizing base with
  | nil => rfl
  | cons g fragments ih =>
    rw [List.foldl_cons, ih fun g' hg' => h g' (List.mem_cons_of_mem g hg'), backend_merge,
      if_pos (h g List.mem_cons_self)]

/-- The last backend that is given is the one that counts. -/
theorem backend_mergeAll {front back : List Config} {f : Config} (hf : f.backend.isEmpty = false)
    (hback : ∀ g ∈ back, g.backend.isEmpty = true) :
    (mergeAll (front ++ f :: back)).backend = f.backend := by
  rw [mergeAll, List.foldl_append, List.foldl_cons, backend_foldl_merge hback, backend_merge,
    if_neg (by simp [hf])]

theorem backend_finalize (c : Config) (processors : UInt64) :
    (c.finalize processors).backend =
      if c.backend.isEmpty then Backend.ofConsul (c.finalConsul processors) else c.backend := by
  have hfinal : (c.finalize processors).backend =
      (((c.driver.getD {}).terraform.getD {}).finalize (c.finalConsul processors)).backend := rfl
  have hgiven : ((c.driver.getD {}).terraform.getD {}).backend = c.backend := by
    unfold backend
    cases c.driver with
    | none => rfl
    | some d => cases hd : d.terraform <;> simp [hd]
  rw [hfinal, Terraform.finalize, hgiven]

/-- **Where no backend is given** it is the one in Consul, which is one that can be used. Otherwise
it is that of the last fragment that gives one. -/
theorem finalize_derives_backend (c : Config) (processors : UInt64) :
    ∃ t, (c.finalize processors).driver = some ⟨some t⟩ ∧
      (c.backend.isEmpty = true →
        (c.consul.getD {}).IsStateBackend t.backend ∧ t.checkBackend = .ok ()) ∧
      ∀ front f back, c = mergeAll (front ++ f :: back) → f.backend.isEmpty = false →
        (∀ g ∈ back, g.backend.isEmpty = true) → t.backend = f.backend := by
  have hbackend :
      (((c.driver.getD {}).terraform.getD {}).finalize (c.finalConsul processors)).backend =
        if c.backend.isEmpty then Backend.ofConsul (c.finalConsul processors) else c.backend :=
    backend_finalize c processors
  refine ⟨_, rfl, fun hempty => ⟨?derived, ?usable⟩, ?given⟩
  case derived =>
    rw [hbackend, if_pos hempty]
    exact Backend.isStateBackend_ofConsul _ processors
  case usable =>
    rw [Terraform.checkBackend, hbackend, if_pos hempty]
    rfl
  case given =>
    rintro front f back rfl hf hback
    rw [hbackend, backend_mergeAll hf hback, if_neg (by simp [hf])]

/-- A fragment on a connection that is secured because there is an authority to trust. -/
def authorityFragment : Config where
  consul := some { kvPath := some "nia//", tls := some { caCert := some "ca.pem" } }

/-- A fragment that keeps the state in a file. -/
def localFragment : Config where
  driver := some ⟨some { backend := Table.empty.insert "local" (.map []) }⟩

/-- A fragment that keeps the state in a bucket. -/
def bucketFragment : Config where
  driver := some ⟨some { backend := Table.empty.insert "s3" (.map [("bucket", .text "state")]) }⟩

/-- The state is kept in Consul as long as neither the file nor the bucket is asked for, and in the
bucket if both are, one after the other. -/
theorem finalize_derives_backend_fragments :
    (∃ t, (authorityFragment.finalize 4).driver = some ⟨some t⟩ ∧
      ∃ args, t.backend.entries = [("consul", .map args)] ∧
        ("path", .text "nia/terraform") ∈ args ∧ ("scheme", .text "https") ∈ args ∧
        ("ca_file", .text "ca.pem") ∈ args) ∧
    ∃ t, ((mergeAll [localFragment, bucketFragment, authorityFragment]).finalize 4).driver =
      some ⟨some t⟩ ∧ t.backend = bucketFragment.backend := by
  refine ⟨?derived, ?given⟩
  case derived =>
    obtain ⟨t, ht, hderived, -⟩ := finalize_derives_backend authorityFragment 4
    obtain ⟨⟨args, hentries, -, hargs⟩, -⟩ := hderived rfl
    have htls : (authorityFragment.consul.getD {}).tls.getD {} =
        { caCert := some "ca.pem" } := rfl
    have huse : ((authorityFragment.consul.getD {}).tls.getD {}).InUse := by
      rw [htls]
      exact .inr ⟨rfl, some "ca.pem", by decide, "ca.pem", rfl, by decide⟩
    have hstem : Backend.IsStem "nia" "nia//" := ⟨⟨2, rfl⟩, by decide⟩
    have hpath : "nia" ++ "/terraform" = "nia/terraform" := by decide
    refine ⟨t, ht, args, hentries, ?_, (hargs _ _).mpr (.scheme huse), ?_⟩
    · exact (hargs _ _).mpr (hpath ▸ .path hstem)
    · exact (hargs _ _).mpr (.file huse (by rw [htls]; decide) (by decide))
  case given =>
    obtain ⟨t, ht, -, hgiven⟩ :=
      finalize_derives_backend (mergeAll [localFragment, bucketFragment, authorityFragment]) 4
    refine ⟨t, ht, hgiven [localFragment] bucketFragment [authorityFragment] rfl rfl ?_⟩
    intro g hg
    rw [List.mem_singleton.mp hg]
    rfl

end Config

/-! ### The key of the state -/

/-- The key below which the backend in Consul keeps the state, if that is the backend. -/
def Terraform.statePath? (t : Terraform) : Option String :=
  (t.backend.get? "consul").bind fun arguments =>
    (arguments.entries?.bind (findEntry "path")).bind Document.text?

/-- One slash behind a part that does not end in one makes no two slashes in a row. -/
theorem slashes_infix_append_iff {front back : List Char} (hlast : front.getLast? ≠ some '/')
    (hback : '/' ∉ back) :
    ['/', '/'] <:+: front ++ '/' :: back ↔ ['/', '/'] <:+: front := by
  have hjoint : ¬ ['/', '/'] <:+: '/' :: back := by
    rw [List.infix_cons_iff, List.cons_prefix_cons]
    rintro (⟨-, h⟩ | h)
    · exact hback (h.subset List.mem_cons_self)
    · exact hback (h.subset List.mem_cons_self)
  induction front with
  | nil => simp [hjoint]
  | cons c front ih =>
    cases front with
    | nil =>
      refine iff_of_false (fun h => ?_) fun h => nomatch h.length_le
      rcases List.infix_cons_iff.mp h with h | h
      · exact hlast (congrArg some (List.cons_prefix_cons.mp h).1.symm)
      · exact hjoint h
    | cons d front =>
      rw [List.getLast?_cons_cons] at hlast
      have hstart : ['/', '/'] <+: c :: (d :: front ++ '/' :: back) ↔
          ['/', '/'] <+: c :: d :: front := by
        simp [List.cons_prefix_cons]
      exact (List.infix_cons_iff.trans (or_congr hstart (ih hlast))).trans List.infix_cons_iff.symm

namespace Backend

theorem head?_statePath {kvPath : String} : (statePath kvPath).toList.head? = some '/' ↔
    kvPath = "" ∨ kvPath.toList.head? = some '/' := by
  obtain ⟨⟨n, hkvPath⟩, -⟩ := isStem_withoutFinalSlashes kvPath
  rw [statePath, String.toList_append, hkvPath, ← String.toList_inj, hkvPath]
  cases (withoutFinalSlashes kvPath).toList with
  | nil =>
    -- the key starts where the text that is put behind the stem does
    refine iff_of_true rfl ?_
    cases n with
    | zero => exact .inl rfl
    | succ n => exact .inr rfl
  | cons c stem => simp

end Backend

namespace Terraform

theorem statePath?_finalize {t : Terraform} (h : t.backend.isEmpty = true) (c : Consul) :
    (t.finalize c).statePath? = some (Backend.statePath c.kvPath.value) := by
  have hbackend : (t.finalize c).backend = Backend.ofConsul c := if_pos h
  have hpath : findEntry "path"
      ((Backend.consulArguments c).foldl (fun es e => insertEntry e.1 e.2 es) []) =
        some (.text (Backend.statePath c.kvPath.value)) := by
    rw [findEntry_foldl_insertEntry (Backend.nodup_consulArguments c)]
    rfl
  rw [statePath?, hbackend]
  exact congrArg (·.bind Document.text?) hpath

/-- **The key of the state is a clean one.** It ends in `terraform`, the slashes at the end of the
path of the daemon's keys do not matter to it, and two slashes in a row come from that path alone.
But where that path is empty the key starts with a slash, which the path does not. -/
theorem statePath_clean {t : Terraform} (h : t.backend.isEmpty = true) (c : Consul) :
    ∃ path stem, (t.finalize c).statePath? = some path ∧ Backend.IsStem stem c.kvPath.value ∧
      "terraform".toList <:+ path.toList ∧
      (∀ d : Consul, Backend.IsStem stem d.kvPath.value → (t.finalize d).statePath? = some path) ∧
      (['/', '/'] <:+: path.toList ↔ ['/', '/'] <:+: stem.toList) ∧
      (path.toList.head? = some '/' ↔
        c.kvPath.value = "" ∨ c.kvPath.value.toList.head? = some '/') := by
  have hstem := Backend.isStem_withoutFinalSlashes c.kvPath.value
  refine ⟨Backend.statePath c.kvPath.value, Backend.withoutFinalSlashes c.kvPath.value,
    statePath?_finalize h c, hstem, ?suffix, fun d hd => ?same, ?slashes, Backend.head?_statePath⟩
  case suffix =>
    rw [Backend.statePath, String.toList_append]
    exact (by decide : "terraform".toList <:+ "/terraform".toList).trans (List.suffix_append _ _)
  case same =>
    rw [statePath?_finalize h, Backend.statePath, Backend.statePath, ← Backend.isStem_iff.mp hd]
  case slashes =>
    rw [Backend.statePath, String.toList_append]
    exact slashes_infix_append_iff hstem.last (by decide : '/' ∉ "terraform".toList)

/-- The connection with its defaults, but for the path of the daemon's keys. -/
def consulAt (kvPath : String) : Consul := ({ kvPath := some kvPath } : Consul).finalize 4

/-- Two slashes at the end of the path come to the same key as none. -/
theorem statePath_clean_finalSlashes :
    (Table.empty : Table Document).isEmpty = true ∧
    ∃ path, (({} : Terraform).finalize (consulAt "nia//")).statePath? = some path ∧
      (({} : Terraform).finalize (consulAt "nia")).statePath? = some path ∧
      ¬ ['/', '/'] <:+: path.toList ∧ path.toList.head? ≠ some '/' := by
  have hempty : (Table.empty : Table Document).isEmpty = true := rfl
  obtain ⟨path, stem, hpath, hstem, -, hsame, hslashes, hhead⟩ :=
    statePath_clean (t := {}) hempty (consulAt "nia//")
  obtain rfl : stem = "nia" := (Backend.isStem_iff.mp hstem).trans (by decide)
  refine ⟨hempty, path, hpath, hsame _ ⟨⟨0, rfl⟩, by decide⟩, ?_, ?_⟩
  · rw [hslashes]
    decide
  · rw [ne_eq, hhead]
    decide

/-- The key may start with a slash that the path of the daemon's keys does not start with. -/
theorem statePath_clean_empty :
    ¬ ∀ (t : Terraform) (c : Consul) (processors : UInt64) (path : String),
      t.backend.isEmpty = true → (t.finalize (c.finalize processors)).statePath? = some path →
        path.toList.head? = some '/' →
          (c.finalize processors).kvPath.value.toList.head? = some '/' := by
  intro h
  have hpath : (({} : Terraform).finalize (consulAt "")).statePath? = some "/terraform" :=
    statePath?_finalize rfl _
  exact absurd (h {} { kvPath := some "" } 4 "/terraform" rfl hpath rfl) (by decide)

end Terraform

end AutomationConfig
