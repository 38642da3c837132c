import AutomationConfig.Proofs.ConfigRules
import AutomationConfig.Proofs.Trimming

/-! # Templates for secrets of Vault

The arguments of a provider may hold templates that only Vault can fill in, in any text at any
depth. Here it is said by what a text is put together from that it holds such a template
(`Text.AsksForSecret`), and by where it stands that it is a text of a document
(`Document.HasText`). The search for templates finds all of them and nothing else, so no provider of
a configuration that is accepted without Vault holds one (`Config.vault_templates_found`). -/

namespace AutomationConfig

/-! ### Templates in texts -/

namespace Text

/-- **A template that asks for a secret of Vault, at the start of a text**: two braces, perhaps a
dash, blanks or none, the word that opens a block, one blank or several, and the word for secrets,
which no word character continues. -/
inductive VaultTemplate : List Char → Prop
  | mk {dash gap space rest : List Char} (dashed : dash = [] ∨ dash = ['-'])
      (blank : ∀ c ∈ gap, isBlank c = true) (spaced : space ≠ [])
      (blankSpace : ∀ c ∈ space, isBlank c = true)
      (ended : ∀ c, rest.head? = some c → isWordChar c = false) :
      VaultTemplate ("\x7b\x7b".toList ++ (dash ++ (gap ++ ("with".toList ++
        (space ++ ("secret".toList ++ rest))))))

/-- A template that asks for a secret of Vault stands somewhere in the text. -/
def AsksForSecret (s : String) : Prop := ∃ front back, s.toList = front ++ back ∧ VaultTemplate back

end Text

/-! ### The search in a text -/

theorem afterWord?_eq_some_iff {word : String} {s rest : List Char} :
    afterWord? word s = some rest ↔ s = word.toList ++ rest := by
  unfold afterWord?
  split_ifs with h
  · obtain ⟨back, rfl⟩ := List.isPrefixOf_iff_prefix.mp h
    simp
  · simp only [false_iff]
    rintro rfl
    exact h (List.isPrefixOf_iff_prefix.mpr (List.prefix_append _ _))

theorem afterWord?_append (word : String) (rest : List Char) :
    afterWord? word (word.toList ++ rest) = some rest := afterWord?_eq_some_iff.mpr rfl

/-- A dash is passed over, if there is one. -/
theorem exists_dash (s : List Char) :
    ∃ dash, s = dash ++ (afterWord? "-" s).getD s ∧ (dash = [] ∨ dash = ['-']) := by
  cases h : afterWord? "-" s with
  | none => exact ⟨[], rfl, .inl rfl⟩
  | some rest => exact ⟨['-'], afterWord?_eq_some_iff.mp h, .inr rfl⟩

theorem afterDash_append {dash s : List Char} (hdash : dash = [] ∨ dash = ['-'])
    (hs : s.head? ≠ some '-') : (afterWord? "-" (dash ++ s)).getD (dash ++ s) = s := by
  rcases hdash with rfl | rfl
  · cases h : afterWord? "-" s with
    | none => rw [List.nil_append, h, Option.getD_none]
    | some rest =>
      obtain rfl := afterWord?_eq_some_iff.mp h
      exact absurd rfl hs
  · have hafter : afterWord? "-" (['-'] ++ s) = some s := afterWord?_append "-" s
    rw [hafter, Option.getD_some]

/-- Blanks are passed over, if there are any. -/
theorem exists_blanks (s : List Char) :
    ∃ gap, s = gap ++ Text.trimStart s ∧ ∀ c ∈ gap, Text.isBlank c = true :=
  ⟨s.takeWhile Text.isBlank, List.takeWhile_append_dropWhile.symm, fun _ => List.mem_takeWhile_imp⟩

theorem trimStart_append_word {gap s : List Char} (hgap : ∀ c ∈ gap, Text.isBlank c = true)
    (hs : ∀ c, s.head? = some c → Text.isBlank c = false) : Text.trimStart (gap ++ s) = s := by
  rw [Text.trimStart_append hgap, Text.trimStart_eq_self hs]

/-- The first character behind blanks is one of them, or that of what follows. -/
theorem head?_append_of_blank {gap s : List Char} {c : Char}
    (hgap : ∀ c ∈ gap, Text.isBlank c = true) (h : (gap ++ s).head? = some c) :
    Text.isBlank c = true ∨ s.head? = some c := by
  cases gap with
  | nil => exact .inr h
  | cons d gap =>
    obtain rfl := Option.some.inj h
    exact .inl (hgap _ List.mem_cons_self)

/-- What a text must be like at its start to be taken for a template, word by word. -/
theorem startsVaultTemplate_eq_true {s : List Char} : startsVaultTemplate s = true ↔
    ∃ block words rest, s = "\x7b\x7b".toList ++ block ∧
      Text.trimStart ((afterWord? "-" block).getD block) = "with".toList ++ words ∧
      Text.trimStart words = "secret".toList ++ rest ∧
      words.head?.any Text.isBlank = true ∧ rest.head?.any Text.isWordChar = false := by
  simp only [← afterWord?_eq_some_iff]
  unfold startsVaultTemplate
  cases afterWord? "\x7b\x7b" s with
  | none => simp
  | some block =>
    cases hwith : afterWord? "with" (Text.trimStart ((afterWord? "-" block).getD block)) with
    | none => simp [hwith]
    | some words =>
      cases hsecret : afterWord? "secret" (Text.trimStart words) with
      | none => simp [hwith, hsecret]
      | some rest => simp [hwith, hsecret]

theorem vaultTemplate_of_starts {s : List Char} (h : startsVaultTemplate s = true) :
    Text.VaultTemplate s := by
  obtain ⟨block, words, rest, rfl, hwith, hsecret, hspaced, hended⟩ :=
    startsVaultTemplate_eq_true.mp h
  obtain ⟨dash, hdash, hdashed⟩ := exists_dash block
  obtain ⟨gap, hgap, hblank⟩ := exists_blanks ((afterWord? "-" block).getD block)
  obtain ⟨space, hspace, hblankSpace⟩ := exists_blanks words
  rw [hsecret] at hspace
  rw [hwith, hspace] at hgap
  rw [hdash, hgap]
  refine .mk hdashed hblank ?spaced hblankSpace ?ended
  case spaced =>
    rintro rfl
    rw [hspace] at hspaced
    have hblank : Text.isBlank 's' = true := hspaced
    exact absurd hblank (by decide)
  case ended =>
    intro c hc
    rw [hc] at hended
    exact hended

theorem starts_of_vaultTemplate {s : List Char} (h : Text.VaultTemplate s) :
    startsVaultTemplate s = true := by
  obtain @⟨dash, gap, space, rest, hdashed, hblank, hspaced, hblankSpace, hended⟩ := h
  have hfirst :
      (gap ++ ("with".toList ++ (space ++ ("secret".toList ++ rest)))).head? ≠ some '-' := by
    intro hdash
    rcases head?_append_of_blank hblank hdash with hdash | hdash
    · exact absurd hdash (by decide)
    · exact absurd hdash (by simp)
  have hwith : Text.trimStart (gap ++ ("with".toList ++ (space ++ ("secret".toList ++ rest)))) =
      "with".toList ++ (space ++ ("secret".toList ++ rest)) :=
    trimStart_append_word hblank fun c hc => by
      obtain rfl : 'w' = c := Option.some.inj hc
      decide
  have hsecret : Text.trimStart (space ++ ("secret".toList ++ rest)) = "secret".toList ++ rest :=
    trimStart_append_word hblankSpace fun c hc => by
      obtain rfl : 's' = c := Option.some.inj hc
      decide
  refine startsVaultTemplate_eq_true.mpr ⟨_, _, _, rfl, ?opens, hsecret, ?spaced, ?ended⟩
  case opens => rw [afterDash_append hdashed hfirst, hwith]
  case spaced =>
    obtain ⟨c, others, rfl⟩ := List.exists_cons_of_ne_nil hspaced
    exact hblankSpace c List.mem_cons_self
  case ended =>
    cases hrest : rest.head? with
    | none => rfl
    | some c => exact hended c hrest

theorem startsVaultTemplate_iff {s : List Char} :
    startsVaultTemplate s = true ↔ Text.VaultTemplate s :=
  ⟨vaultTemplate_of_starts, starts_of_vaultTemplate⟩

/-- The search looks at every place. -/
theorem holdsVaultTemplate_iff : ∀ {s : List Char}, holdsVaultTemplate s = true ↔
    ∃ front back, s = front ++ back ∧ Text.VaultTemplate back
  | [] => by
    simp only [holdsVaultTemplate, Bool.false_eq_true, false_iff]
    rintro ⟨front, back, hs, hback⟩
    obtain ⟨-, rfl⟩ := List.append_eq_nil_iff.mp hs.symm
    exact absurd (starts_of_vaultTemplate hback) (by decide)
  | c :: s => by
    rw [holdsVaultTemplate, Bool.or_eq_true, startsVaultTemplate_iff, holdsVaultTemplate_iff]
    constructor
    · rintro (h | ⟨front, back, rfl, hback⟩)
      · exact ⟨[], c :: s, rfl, h⟩
      · exact ⟨c :: front, back, rfl, hback⟩
    · rintro ⟨front, back, hs, hback⟩
      cases front with
      | nil => exact .inl (hs ▸ hback)
      | cons d front =>
        obtain ⟨rfl, rfl⟩ := List.cons.inj hs
        exact .inr ⟨front, back, rfl, hback⟩

/-! ### The search in a document -/

namespace Document

/-- **A text stands in a document**, at any depth. Names of entries do not count. -/
inductive HasText (s : String) : Document → Prop
  | here : HasText s (.text s)
  | item {items : List Document} {d : Document} (hd : d ∈ items) (h : HasText s d) :
      HasText s (.list items)
  | entry {entries : List (String × Document)} {e : String × Document} (he : e ∈ entries)
      (h : HasText s e.2) : HasText s (.map entries)

variable {p : String → Bool}

mutual

/-- A text with the property is found wherever it stands. -/
theorem anyText_iff : ∀ {d : Document}, anyText p d = true ↔ ∃ s, d.HasText s ∧ p s = true
  | .text s => by
    rw [anyText]
    exact ⟨fun hs => ⟨s, .here, hs⟩, fun | ⟨_, .here, hs⟩ => hs⟩
  | .list items => by
    rw [anyText, anyTextItems_iff]
    constructor
    · rintro ⟨d, hd, s, hs, h⟩
      exact ⟨s, .item hd hs, h⟩
    · rintro ⟨s, hs, h⟩
      cases hs with
      | item hd hs => exact ⟨_, hd, s, hs, h⟩
  | .map entries => by
    rw [anyText, anyTextEntries_iff]
    constructor
    · rintro ⟨e, he, s, hs, h⟩
      exact ⟨s, .entry he hs, h⟩
    · rintro ⟨s, hs, h⟩
      cases hs with
      | entry he hs => exact ⟨_, he, s, hs, h⟩
  | .null | .bool _ | .int _ | .float _ => by
    simp only [anyText, Bool.false_eq_true, false_iff]
    rintro ⟨s, hs, -⟩
    exact nomatch hs

theorem anyTextItems_iff : ∀ {items : List Document},
    anyTextItems p items = true ↔ ∃ d ∈ items, ∃ s, d.HasText s ∧ p s = true
  | [] => by simp [anyTextItems]
  | d :: items => by
    rw [anyTextItems, Bool.or_eq_true, anyText_iff, anyTextItems_iff]
    simp only [List.mem_cons, or_and_right, exists_or, exists_eq_left]

theorem anyTextEntries_iff : ∀ {entries : List (String × Document)},
    anyTextEntries p entries = true ↔ ∃ e ∈ entries, ∃ s, e.2.HasText s ∧ p s = true
  | [] => by simp [anyTextEntries]
  | (_, d) :: entries => by
    rw [anyTextEntries, Bool.or_eq_true, anyText_iff, anyTextEntries_iff]
    simp only [List.mem_cons, or_and_right, exists_or, exists_eq_left]

end

end Document

/-! ### Providers and configurations -/

/-- Some text among the arguments of the provider, at any depth, asks for a secret of Vault. -/
def Provider.NeedsVault (p : Provider) : Prop :=
  ∃ d ∈ p.blocks.values, ∃ s, d.HasText s ∧ Text.AsksForSecret s

theorem Provider.usesVault_iff {p : Provider} : p.usesVault = true ↔ p.NeedsVault := by
  rw [usesVault, List.any_eq_true]
  simp only [Document.anyText_iff, holdsVaultTemplate_iff]
  exact Iff.rfl

namespace Config

/-- **Templates for secrets of Vault are found**, in whatever text of the arguments of a provider
they stand, and nothing else is taken for one. Hence a configuration that is accepted while Vault is
not switched on has no provider with such a template. -/
theorem vault_templates_found :
    (∀ p : Provider, p.usesVault = true ↔ p.NeedsVault) ∧
      ∀ c : Config, c.validate.outcome = .ok () → c.vaultEnabled = false →
        ∀ p ∈ c.providers, ¬ p.NeedsVault := by
  refine ⟨fun p => Provider.usesVault_iff, fun c hvalid hvault p hp hneeds => ?_⟩
  obtain ⟨-, -, htail⟩ := outcome_validate_eq_ok.mp hvalid
  obtain ⟨-, -, -, -, -, huse, -⟩ := checkTail_eq_ok.mp htail
  have henabled := checkVaultUse_eq_ok.mp huse ⟨p, hp, Provider.usesVault_iff.mpr hneeds⟩
  exact Bool.false_ne_true (hvault.symm.trans henabled)

/-- A provider with a template inside a list, behind other text. -/
def nestedSecret : Provider :=
  ⟨.ofList [("aws", .list [.map [("assume_role", .list [.map [("token",
    .text "id=\x7b\x7b-\u2003with\tsecret \"aws/creds\" \x7d\x7d")]])]])]⟩

/-- A provider with a template whose last word goes on. -/
def almostSecret : Provider :=
  ⟨.ofList [("aws", .map [("token", .text "\x7b\x7b with secrets \x7d\x7d")])]⟩

/-- Without Vault the second one is accepted, and the first one is not. -/
theorem vault_templates_found_nested : nestedSecret.NeedsVault ∧ ¬ almostSecret.NeedsVault ∧
    ({ providers := [almostSecret] } : Config).validate.outcome = .ok () ∧
    ({ providers := [nestedSecret] } : Config).validate.outcome ≠ .ok () := by
  obtain ⟨hfound, hnone⟩ := vault_templates_found
  have hneeds : nestedSecret.NeedsVault := (hfound nestedSecret).mp rfl
  have haccepted : ({ providers := [almostSecret] } : Config).validate.outcome = .ok () := rfl
  have hfree : ¬ almostSecret.NeedsVault := hnone _ haccepted rfl _ List.mem_cons_self
  exact ⟨hneeds, hfree, haccepted, fun hvalid => hnone _ hvalid rfl _ List.mem_cons_self hneeds⟩

end Config

end AutomationConfig
