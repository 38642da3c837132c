import AutomationConfig.Proofs.Advice
import AutomationConfig.Proofs.FileTrees
import AutomationConfig.Proofs.GivenPatterns
import AutomationConfig.Proofs.Loading
import AutomationConfig.Proofs.Rendering
import AutomationConfig.Proofs.Secrecy

/-! # The backend shows

The arguments of a backend may hold credentials, a key or the text of a connection with a password
in it. Those of a provider are left out of what inspection shows; those of a backend are not. Two
configurations that agree everywhere but in secrets and in the arguments of a backend that is given
(`Config.AlikeButBackend`) look the same under inspection if and only if these arguments do, and so
do the outputs of two runs that print them (`Config.inspection_shows_backend`).

The outline of a configuration leads to that of the backend through records in which everything else
looks the same (`Block.indentedAt_outlineBlock_eq_iff`). What is left are the arguments themselves,
which can be read back from how they are rendered. -/

namespace AutomationConfig

/-! ### One part of an outline -/

namespace Outline

variable {depth : Nat} {o p : Outline}

/-- Lines that are the same but for one enclose the same if that one is the same. -/
theorem enclose_append_cons_inj {opening closing x y : String} (front back : List String) :
    enclose opening closing depth (front ++ x :: back) =
      enclose opening closing depth (front ++ y :: back) ↔ x = y := by
  have hlines : ∀ z, (front ++ z :: back).isEmpty = false := fun z => by simp
  unfold enclose
  rw [hlines, hlines]
  simp only [Bool.false_eq_true, if_false, List.map_append, List.map_cons, String.join_append,
    String.join_cons, String.append_left_inj, String.append_right_inj]

theorem indentedAt_apply_eq_iff {name : String} :
    (apply name [o]).indentedAt depth = (apply name [p]).indentedAt depth ↔
      o.indentedAt (depth + 1) = p.indentedAt (depth + 1) := by
  rw [indentedAt, indentedAt, String.append_right_inj]
  exact enclose_append_cons_inj [] []

/-- How a field of a record is written. -/
def fieldLine (depth : Nat) (f : String × Outline) : String := f.1 ++ ": " ++ indentedAt depth f.2

theorem indentedFields_eq_map (depth : Nat) : ∀ fields : List (String × Outline),
    indentedFields depth fields = fields.map (fieldLine depth)
  | [] => rfl
  | (label, o) :: fields => by
    rw [indentedFields, indentedFields_eq_map depth fields, List.map_cons, fieldLine]

theorem indentedAt_record {name : String} {fields : List (String × Outline)} (h : fields ≠ []) :
    (record name fields).indentedAt depth =
      name ++ " " ++ enclose "\x7b" "\x7d" depth (fields.map (fieldLine (depth + 1))) := by
  rw [indentedAt, indentedFields_eq_map]
  exact h

theorem indentedAt_record_eq_iff {name label : String} {front back : List (String × Outline)} :
    (record name (front ++ (label, o) :: back)).indentedAt depth =
        (record name (front ++ (label, p) :: back)).indentedAt depth ↔
      o.indentedAt (depth + 1) = p.indentedAt (depth + 1) := by
  rw [indentedAt_record (by simp), indentedAt_record (by simp), String.append_right_inj,
    List.map_append, List.map_append, List.map_cons, List.map_cons, enclose_append_cons_inj,
    fieldLine, fieldLine, String.append_right_inj]

end Outline

theorem indentedAt_some_eq_iff {α : Type} [Outlined α] {a b : α} {depth : Nat} :
    (outline (some a)).indentedAt depth = (outline (some b)).indentedAt depth ↔
      (outline a).indentedAt (depth + 1) = (outline b).indentedAt (depth + 1) :=
  Outline.indentedAt_apply_eq_iff

/-- Blocks that look the same in all fields but one look the same if they do in that one. -/
theorem Block.indentedAt_outlineBlock_eq_iff {β : Type} [Block β] {a b : β} {f : Field β}
    {depth : Nat} (i : Nat) (hf : fields[i]? = some f)
    (hothers : (fields.eraseIdx i).Forall fun g => g.outline a = g.outline b) :
    (outlineBlock a).indentedAt depth = (outlineBlock b).indentedAt depth ↔
      (f.outline a).indentedAt (depth + 1) = (f.outline b).indentedAt (depth + 1) := by
  have hsplit : ∀ c : β, fields.map (fun g => (g.label, g.outline c)) =
      (fields.take i).map (fun g => (g.label, g.outline c)) ++
        (f.label, f.outline c) :: (fields.drop (i + 1)).map fun g => (g.label, g.outline c) := by
    intro c
    obtain ⟨hi, rfl⟩ := List.getElem?_eq_some_iff.mp hf
    rw [← List.map_cons (f := fun g : Field β => (g.label, g.outline c)), ← List.map_append,
      List.getElem_cons_drop, List.take_append_drop]
  have hsame : ∀ gs : List (Field β), (gs.Forall fun g => g.outline a = g.outline b) →
      gs.map (fun g => (g.label, g.outline a)) = gs.map fun g => (g.label, g.outline b) :=
    fun gs h => List.map_congr_left fun g hg =>
      congrArg (Prod.mk g.label) (List.forall_iff_forall_mem.mp h g hg)
  rw [List.eraseIdx_eq_take_drop_succ, List.forall_append] at hothers
  rw [outlineBlock, outlineBlock, hsplit, hsplit, hsame _ hothers.1, hsame _ hothers.2]
  exact Outline.indentedAt_record_eq_iff

/-! ### Backends -/

/-- **Configurations that agree everywhere but in secrets and in the arguments of a backend**. Both
give a backend, and it is of the same type. -/
structure Config.AlikeButBackend (a b : Config) (p q : Table Document) : Prop where
  rest : { a with driver := none }.AlikeButSecrets { b with driver := none }
  driver : ∃ t : Terraform, a.driver = some ⟨some { t with backend := p }⟩ ∧
    b.driver = some ⟨some { t with backend := q }⟩
  type : p.keys = q.keys
  given : p.keys ≠ []

theorem Driver.indentedAt_outline_eq_iff {s t : Option Terraform} {depth : Nat} :
    (outline (⟨s⟩ : Driver)).indentedAt depth = (outline (⟨t⟩ : Driver)).indentedAt depth ↔
      (outline s).indentedAt (depth + 1) = (outline t).indentedAt (depth + 1) :=
  Block.indentedAt_outlineBlock_eq_iff (a := (⟨s⟩ : Driver)) (b := ⟨t⟩) 0 rfl trivial

namespace Terraform

variable {t : Terraform} {p q : Table Document}

theorem indentedAt_outline_eq_iff {depth : Nat} :
    (outline { t with backend := p }).indentedAt depth =
        (outline { t with backend := q }).indentedAt depth ↔
      (outline p).indentedAt (depth + 1) = (outline q).indentedAt (depth + 1) :=
  Block.indentedAt_outlineBlock_eq_iff (a := ({ t with backend := p } : Terraform))
    (b := { t with backend := q }) 4 rfl ⟨rfl, rfl, rfl, rfl, rfl⟩

/-- A backend that is given is kept, and the connection to Consul does not matter. -/
theorem finalize_of_given (h : p.keys ≠ []) (consul : Consul) :
    { t with backend := p }.finalize consul = { t.finalize {} with backend := p } := by
  have hgiven : p.isEmpty = false := by
    rw [Bool.eq_false_iff]
    intro hempty
    exact h (congrArg (List.map Prod.fst) (List.isEmpty_iff.mp hempty))
  simp only [finalize, hgiven, Bool.false_eq_true, if_false]

end Terraform

namespace Config

theorem AlikeButSecrets.withDriver {a b : Config} (h : a.AlikeButSecrets b)
    (driver : Option Driver) : { a with driver }.AlikeButSecrets { b with driver } where
  rest := (congrArg (fun c : Config => { c with driver }) h.rest :)
  consul := h.consul
  vault := h.vault
  providers := h.providers

theorem AlikeButSecrets.withTasks {a b : Config} (h : a.AlikeButSecrets b) (tasks : List Task) :
    { a with tasks }.AlikeButSecrets { b with tasks } where
  rest := (congrArg (fun c : Config => { c with tasks }) h.rest :)
  consul := h.consul
  vault := h.vault
  providers := h.providers

/-- Where validation accepts, the tasks are as it settles them. -/
theorem value_validate_of_ok {c : Config} (h : c.validate.outcome = .ok ()) :
    c.validate.value = { c with tasks := (Checked.each Task.validate c.tasks).value } := by
  have htasks : ((Checked.keep c c.checkHead).andThen validateTasks).outcome = .ok () := by
    rw [validate, Checked.outcome_andThen, bind_eq_ok] at h
    exact h.1
  rw [validate, Checked.value_andThen_of_ok h, Checked.value_keep,
    Checked.value_andThen_of_ok htasks]
  rfl

namespace AlikeButBackend

variable {a b : Config} {p q : Table Document}

theorem finalize (h : a.AlikeButBackend b p q) (processors : UInt64) :
    (a.finalize processors).AlikeButBackend (b.finalize processors) p q where
  rest := (h.rest.finalize processors).withDriver none
  driver := by
    obtain ⟨t, ha, hb⟩ := h.driver
    have hgiven : q.keys ≠ [] := h.type ▸ h.given
    refine ⟨t.finalize {}, ?_, ?_⟩
    · rw [Config.finalize, ha, Option.getD_some, Driver.finalize, Option.getD_some,
        Terraform.finalize_of_given h.given]
    · rw [Config.finalize, hb, Option.getD_some, Driver.finalize, Option.getD_some,
        Terraform.finalize_of_given hgiven]
  type := h.type
  given := h.given

theorem value_validate (h : a.AlikeButBackend b p q) (ha : a.validate.outcome = .ok ())
    (hb : b.validate.outcome = .ok ()) : a.validate.value.AlikeButBackend b.validate.value p q := by
  have htasks : a.tasks = b.tasks := (congrArg Config.tasks h.rest.rest :)
  rw [value_validate_of_ok ha, value_validate_of_ok hb, htasks]
  exact ⟨h.rest.withTasks _, h.driver, h.type, h.given⟩

/-- **The backend is all that shows.** -/
theorem indented_eq_iff (h : a.AlikeButBackend b p q) :
    (outline a).indented = (outline b).indented ↔ outline p = outline q := by
  obtain ⟨t, ha, hb⟩ := h.driver
  -- the driver is the field at place 8, and no other field shows anything of it
  have hblind : ∀ c : Config, ∀ g ∈ (Block.fields (β := Config)).eraseIdx 8,
      g.outline c = g.outline { c with driver := none } := fun c =>
    List.forall_iff_forall_mem.mp
      ⟨rfl, rfl, rfl, rfl, rfl, rfl, rfl, rfl, rfl, rfl, rfl, rfl, rfl⟩
  have hothers : ((Block.fields (β := Config)).eraseIdx 8).Forall fun g =>
      g.outline a = g.outline b := by
    refine List.forall_iff_forall_mem.mpr fun g hg => ?_
    have hsame := (Outline.record.inj h.rest.outline_eq).2
    have hfield := List.map_inj_left.mp hsame g (List.mem_of_mem_eraseIdx hg)
    rw [hblind a g hg, hblind b g hg]
    exact (Prod.mk.inj hfield).2
  -- each record and each name around the backend is one level of depth
  calc (outline a).indented = (outline b).indented
      ↔ (outline a.driver).indentedAt 1 = (outline b.driver).indentedAt 1 :=
        Block.indentedAt_outlineBlock_eq_iff (a := a) (b := b) 8 rfl hothers
    _ ↔ (outline (⟨some { t with backend := p }⟩ : Driver)).indentedAt 2 =
          (outline (⟨some { t with backend := q }⟩ : Driver)).indentedAt 2 := by
        rw [ha, hb, indentedAt_some_eq_iff]
    _ ↔ (outline { t with backend := p }).indentedAt 4 =
          (outline { t with backend := q }).indentedAt 4 := by
        rw [Driver.indentedAt_outline_eq_iff, indentedAt_some_eq_iff]
    _ ↔ (outline p).indentedAt 5 = (outline q).indentedAt 5 := Terraform.indentedAt_outline_eq_iff
    _ ↔ outline p = outline q := Table.indentedAt_outline_eq_iff

end AlikeButBackend

end Config

/-! ### Runs -/

/-- What is printed of a configuration that has been merged. -/
theorem Arguments.output_of_buildConfig {args : Arguments} {environment : Option String}
    {s : Storage} {processors : UInt64} {merged : Config}
    (hmerged : s.buildConfig args.paths = .ok merged) (hinspect : args.inspect = true)
    (hrun : (args.run environment s processors).exitCode = 0) :
    (merged.finalize processors).validate.outcome = .ok () ∧
      (args.run environment s processors).output =
        (outline (merged.finalize processors).validate.value).indented ++ "\n" := by
  obtain ⟨c, hload⟩ := exitCode_run_eq_zero_iff.mp hrun
  obtain ⟨ds, hloaded, -⟩ := load_eq_ok_iff.mp hload
  rw [Storage.loadAndValidate_of_buildConfig hmerged] at hloaded
  cases hvalid : (merged.finalize processors).validate.outcome with
  | error v =>
    rw [hvalid] at hloaded
    exact nomatch hloaded
  | ok =>
    rw [hvalid] at hloaded
    obtain ⟨rfl, -⟩ := Prod.mk.inj (Except.ok.inj hloaded)
    refine ⟨rfl, ?_⟩
    rw [run, hload]
    exact if_pos hinspect

namespace Config

/-- **The arguments of a backend show.** Of configurations that agree everywhere but in secrets and
in the arguments of a backend that is given, inspection shows the same, once defaults are filled in,
if and only if the outlines of these arguments are the same, which without floats they are only for
the same arguments. So it is with what runs print that succeed. -/
theorem inspection_shows_backend {a b : Config} {p q : Table Document}
    (h : a.AlikeButBackend b p q) (processors : UInt64) :
    ((outline (a.finalize processors)).indented = (outline (b.finalize processors)).indented ↔
      outline p = outline q) ∧
    ((∀ d ∈ p.values, d.FloatFree) → (∀ d ∈ q.values, d.FloatFree) →
      ((outline (a.finalize processors)).indented = (outline (b.finalize processors)).indented ↔
        p = q)) ∧
    ∀ (args : Arguments) environment (x y : Storage), args.inspect = true →
      x.buildConfig args.paths = .ok a → y.buildConfig args.paths = .ok b →
      (args.run environment x processors).exitCode = 0 →
      (args.run environment y processors).exitCode = 0 →
      ((args.run environment x processors).output = (args.run environment y processors).output ↔
        outline p = outline q) := by
  have hshown := (h.finalize processors).indented_eq_iff
  refine ⟨hshown, fun hp hq => ?same, fun args environment x y hinspect hx hy hrunx hruny => ?runs⟩
  case same => rw [hshown, Table.outline_eq_iff hp hq]
  case runs =>
    obtain ⟨ha, hprinted⟩ := Arguments.output_of_buildConfig hx hinspect hrunx
    obtain ⟨hb, hother⟩ := Arguments.output_of_buildConfig hy hinspect hruny
    rw [hprinted, hother, String.append_left_inj]
    exact ((h.finalize processors).value_validate ha hb).indented_eq_iff

/-- The arguments of a backend, with a key among them. -/
def keyBackend (key : String) : Table Document := .ofList [("s3", .map [("secret_key", .text key)])]

/-- A configuration with that backend. -/
def withKey (key : String) : Config where
  driver := some ⟨some { backend := keyBackend key }⟩

/-- The configuration with one key, as it is written. -/
def textOne : String := "driver.terraform.backend.s3.secret_key = \"one\""

/-- The configuration with another key, as it is written. -/
def textTwo : String := "driver.terraform.backend.s3.secret_key = \"two\""

/-- A single file with a text. -/
def fileOf (text : String) : Storage := (FileTree.empty.addFile ⟨"c.toml"⟩ text).toStorage

/-- Prints the configuration that the file holds. -/
def inspectFile : Arguments where
  paths := [⟨"c.toml"⟩]
  inspect := true

theorem alikeButBackend_withKey (key other : String) :
    (withKey key).AlikeButBackend (withKey other) (keyBackend key) (keyBackend other) where
  rest := ⟨rfl, .none, .none, rfl⟩
  driver := ⟨{}, rfl, rfl⟩
  type := rfl
  given := nofun

theorem outline_keyBackend_inj {key other : String}
    (h : outline (keyBackend key) = outline (keyBackend other)) : key = other := by
  have hfree : ∀ key, ∀ d ∈ (keyBackend key).values, d.FloatFree := by
    intro key d hd
    obtain rfl : d = .map [("secret_key", .text key)] := List.mem_singleton.mp hd
    refine .map fun e he => ?_
    rw [List.mem_singleton.mp he]
    exact .text
  have htable := (Table.outline_eq_iff (hfree key) (hfree other)).mp h
  have hvalues : (keyBackend key).values = (keyBackend other).values := by rw [htable]
  have hmap := Document.map.inj (List.cons.inj hvalues).1
  exact Document.text.inj (Prod.mk.inj (List.cons.inj hmap).1).2

theorem buildConfig_fileOf {text key : String} (h : Document.ofToml? text = some (.map
      [("driver", .map [("terraform", .map [("backend", .map [("s3",
        .map [("secret_key", .text key)])])])])])) :
    (fileOf text).buildConfig [⟨"c.toml"⟩] = .ok (withKey key) := by
  have hcontent : (FileTree.empty.addFile ⟨"c.toml"⟩ text).content? ⟨"c.toml"⟩ = some text := by
    rw [FileTree.content?_addFile, if_pos rfl]
  have hfile : (fileOf text).isFile ⟨"c.toml"⟩ = true :=
    Option.isSome_iff_exists.mpr ⟨text, hcontent⟩
  have hfragment : (fileOf text).loadFragment ⟨"c.toml"⟩ = .ok (withKey key) := by
    have htoml : ¬ (⟨"c.toml"⟩ : Path).isJson = true := by decide
    have htext : (fileOf text).readText ⟨"c.toml"⟩ = .ok text :=
      FileTree.readText_eq_ok_iff.mpr hcontent
    rw [Storage.loadFragment, htext]
    change (documentOf _ text).mapError _ >>= _ = _
    rw [documentOf, if_neg htoml, h]
    rfl
  rw [Storage.buildConfig_of_isFile _ hfile, hfragment]

theorem exitCode_fileOf {text key : String} {processors : UInt64}
    (h : (fileOf text).buildConfig [⟨"c.toml"⟩] = .ok (withKey key))
    (hvalid : ((withKey key).finalize processors).validate.outcome = .ok ()) :
    (inspectFile.run none (fileOf text) processors).exitCode = 0 := by
  have hloaded : (fileOf text).loadAndValidate [⟨"c.toml"⟩] processors =
      .ok (((withKey key).finalize processors).validate.value, (withKey key).warnings) := by
    rw [Storage.loadAndValidate_of_buildConfig h, hvalid]
    rfl
  exact Arguments.exitCode_run_eq_zero_iff.mpr
    ⟨_, Arguments.load_eq_ok_iff.mpr ⟨_, hloaded, nofun⟩⟩

/-- Runs that print the two configurations succeed, and print different texts. -/
theorem inspection_shows_backend_runs :
    (inspectFile.run none (fileOf textOne) 4).exitCode = 0 ∧
      (inspectFile.run none (fileOf textTwo) 4).exitCode = 0 ∧
      (inspectFile.run none (fileOf textOne) 4).output ≠
        (inspectFile.run none (fileOf textTwo) 4).output := by
  have hone : (fileOf textOne).buildConfig [⟨"c.toml"⟩] = .ok (withKey "one") :=
    buildConfig_fileOf (by cbv)
  have htwo : (fileOf textTwo).buildConfig [⟨"c.toml"⟩] = .ok (withKey "two") :=
    buildConfig_fileOf (by cbv)
  have hrunone : (inspectFile.run none (fileOf textOne) 4).exitCode = 0 :=
    exitCode_fileOf hone rfl
  have hruntwo : (inspectFile.run none (fileOf textTwo) 4).exitCode = 0 :=
    exitCode_fileOf htwo rfl
  obtain ⟨-, -, hprinted⟩ := inspection_shows_backend (alikeButBackend_withKey "one" "two") 4
  refine ⟨hrunone, hruntwo, fun hsame => ?_⟩
  have houtline := (hprinted inspectFile none _ _ rfl hone htwo hrunone hruntwo).mp hsame
  exact absurd (outline_keyBackend_inj houtline) (by decide)

/-- Two configurations that differ in nothing but the key of a backend look different. -/
theorem inspection_differs_withKey :
    { withKey "one" with driver := none } = { withKey "two" with driver := none } ∧
      (keyBackend "one").keys = ["s3"] ∧ (keyBackend "two").keys = ["s3"] ∧
      (outline ((withKey "one").finalize 4)).indented ≠
        (outline ((withKey "two").finalize 4)).indented := by
  refine ⟨rfl, rfl, rfl, fun hsame => ?_⟩
  have hfinal := (alikeButBackend_withKey "one" "two").finalize 4
  have houtline := hfinal.indented_eq_iff.mp hsame
  exact absurd (outline_keyBackend_inj houtline) (by decide)

end Config

end AutomationConfig
