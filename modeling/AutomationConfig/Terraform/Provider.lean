import AutomationConfig.Schema
import AutomationConfig.Terraform.Name
import AutomationConfig.Text.Letter
import AutomationConfig.Violation

/-! # Providers

A provider block is a map whose one entry has the name of the provider and its arguments. They are
handed to Terraform as they are, but for two: the environment of tasks and the flag for automatic
commits. Arguments may hold credentials, so an outline shows the name of a provider only. -/

namespace AutomationConfig

/-! ### Templates -/

/-- What is left of a text after a word that it starts with. -/
def afterWord? (word : String) (s : List Char) : Option (List Char) :=
  if word.toList.isPrefixOf s then some (s.drop word.toList.length) else none

/-- Whether a text starts with a template that asks for a secret of Vault: two braces, perhaps a
dash, the word that opens a block, and the word for secrets. -/
def startsVaultTemplate (s : List Char) : Bool :=
  match afterWord? "\x7b\x7b" s with
  | none => false
  | some s =>
    match afterWord? "with" (Text.trimStart ((afterWord? "-" s).getD s)) with
    | none => false
    | some s =>
      match afterWord? "secret" (Text.trimStart s) with
      | none => false
      | some rest => s.head?.any Text.isBlank && !rest.head?.any Text.isWordChar

/-- Whether a template that asks for a secret of Vault stands somewhere in a text. -/
def holdsVaultTemplate : List Char → Bool
  | [] => false
  | c :: rest => startsVaultTemplate (c :: rest) || holdsVaultTemplate rest

/-! ### Blocks -/

/-- A provider block: names of providers and their arguments. -/
structure Provider where
  blocks : Table Document := .empty
deriving BEq, Inhabited

namespace Provider

/-- The arguments that are not handed to Terraform. -/
def ownArguments : List String := ["task_env", "auto_commit"]

/-- The name of the provider, if there is exactly one. -/
def name? (p : Provider) : Option String :=
  match p.blocks.keys with
  | [name] => some name
  | _ => none

/-- All arguments: a map, or a list of one map. -/
def body? (p : Provider) : Option (List (String × Document)) := do
  match ← p.blocks.values.head? with
  | .map entries => entries
  | .list [.map entries] => entries
  | _ => none

/-- The value of an argument. -/
def argument? (p : Provider) (name : String) : Option Document := do
  findEntry name (← p.body?)

/-- The alias. -/
def alias? (p : Provider) : Option String := do (← p.argument? "alias").text?

/-- The id: the name, and the alias behind a dot. -/
def id (p : Provider) : String :=
  let name := p.name?.getD ""
  match p.alias? with
  | some a => name ++ "." ++ a
  | none => name

/-- Whether the provider commits automatically. -/
def autoCommit (p : Provider) : Bool :=
  ((p.argument? "auto_commit").bind Document.bool?).getD false

/-- Only the truth value counts; a provider without the argument does not commit automatically. -/
theorem autoCommit_iff {p : Provider} :
    p.autoCommit = true ↔ p.argument? "auto_commit" = some (.bool true) := by
  unfold autoCommit
  cases p.argument? "auto_commit" with
  | none => exact ⟨nofun, nofun⟩
  | some d => cases d <;> simp [Document.bool?]

/-- The environment of tasks: the texts among its entries. -/
def taskEnv (p : Provider) : Table String :=
  let entries := ((p.argument? "task_env").bind Document.entries?).getD []
  .ofList (entries.filterMap fun (name, d) => d.text?.map (name, ·))

/-- The arguments that are handed to Terraform. -/
def arguments (p : Provider) : List (String × Document) :=
  (p.body?.getD []).filter fun e => !ownArguments.contains e.1

/-- Whether some argument asks for a secret of Vault. -/
def usesVault (p : Provider) : Bool :=
  p.blocks.values.any (Document.anyText fun s => holdsVaultTemplate s.toList)

/-- The entries of both blocks. -/
def merge (base other : Provider) : Provider := ⟨base.blocks.merge other.blocks⟩

/-! ### Rules -/

/-- An alias is a text that is not empty. -/
def isAlias : Document → Bool
  | .text s => !s.isEmpty
  | _ => false

/-- Whether a document is a map of texts. -/
def isEnvironment : Document → Bool
  | .map entries => entries.all fun e => e.2.isText
  | _ => false

/-- The rules for the arguments of a provider of that name. -/
def checkBody (name : String) (body : List (String × Document)) : Except Violation Unit := do
  let allowed (argument : String) (p : Document → Bool) : Bool := (findEntry argument body).all p
  require (allowed "alias" isAlias) (.providerAlias name)
  require (allowed "auto_commit" fun d => d.bool?.isSome) (.providerAutoCommit name)
  require (allowed "task_env" isEnvironment) (.providerTaskEnv name)

/-- The rules for a block. -/
def check (p : Provider) : Except Violation Unit :=
  match p.name? with
  | none => .error (.providerCount p.blocks.size)
  | some name =>
    if name = "" then .error .providerNameEmpty
    else
      match p.body? with
      | none => .error (.providerArguments name)
      | some body => checkBody name body

/-- The rules for several blocks: no two have one id. -/
def checkAll (providers : List Provider) : Except Violation Unit :=
  checkDistinct check id .providerIdTwice [] providers

instance : Readable Provider := ⟨fun d => Provider.mk <$> read d⟩

instance : Outlined Provider :=
  ⟨fun p => .map (p.blocks.keys.map fun name => (name, .redacted))⟩

end Provider

end AutomationConfig
