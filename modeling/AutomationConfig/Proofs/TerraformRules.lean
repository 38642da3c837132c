import AutomationConfig.Proofs.TaskRules
import AutomationConfig.Terraform.Driver
import Mathlib.Data.List.Basic

/-! # The rules for Terraform

There is one backend at most, and it is one of those that Terraform supports
(`Terraform.BackendInOrder`). A version that is given is a release: three runs of digits with single
dots between them and nothing around (`IsRelease`, `Terraform.VersionInOrder`). A digit is one of
any script, so beside the releases in ASCII digits those that mix in digits of other scripts are
accepted too, and nothing else (`Terraform.check_accepts_iff`).

A text is split at its dots, so its runs are known once it is known that digits are no dots
(`splitOn_eq_runs_iff`, `isVersion_iff`). -/

namespace AutomationConfig

/-! ### Releases -/

/-- **A release**: three runs of digits, none of them empty, with single dots between them and
nothing before or after. What counts as a digit is given. -/
def IsRelease (IsDigit : Char → Prop) (s : String) : Prop :=
  ∃ major minor patch : List Char, s.toList = major ++ '.' :: (minor ++ '.' :: patch) ∧
    ∀ run ∈ [major, minor, patch], run ≠ [] ∧ ∀ c ∈ run, IsDigit c

/-- A decimal digit of any script. -/
def IsDecimalDigit (c : Char) : Prop := Text.isDecimalDigit c = true

/-- In ASCII the decimal digits are those from zero to nine. -/
theorem isDecimalDigit_iff_of_ascii {c : Char} (h : c.toNat < 0x80) :
    IsDecimalDigit c ↔ Task.IsDigit c := by
  unfold IsDecimalDigit Text.isDecimalDigit
  rw [if_pos h]
  exact Task.isDigit_iff

theorem isDecimalDigit_of_isDigit {c : Char} (h : Task.IsDigit c) : IsDecimalDigit c := by
  have hascii : c.toNat < 0x80 := by
    have hnine : c.toNat ≤ '9'.toNat := h.2
    have hbound : '9'.toNat < 0x80 := by decide
    omega
  exact (isDecimalDigit_iff_of_ascii hascii).mpr h

theorem not_isDecimalDigit_dot : ¬ IsDecimalDigit '.' := by
  intro h
  have hascii : '.'.toNat < 0x80 := by decide
  have hdigit := (isDecimalDigit_iff_of_ascii hascii).mp h
  have hzero : ¬ '0' ≤ '.' := by decide
  exact hzero hdigit.1

/-- A text splits at its dots into the runs that it is made of with dots between them. -/
theorem splitOn_eq_runs_iff {s major minor patch : List Char} :
    s.splitOn '.' = [major, minor, patch] ∧ (∀ run ∈ [major, minor, patch], '.' ∉ run) ↔
      s = major ++ '.' :: (minor ++ '.' :: patch) ∧ ∀ run ∈ [major, minor, patch], '.' ∉ run := by
  refine and_congr_left fun hdots => ⟨fun h => ?_, fun h => ?_⟩
  · have hback : ['.'].intercalate (s.splitOn '.') = s := List.intercalate_splitOn '.'
    rw [h] at hback
    simpa [List.intercalate] using hback.symm
  · have hmajor : '.' ∉ major := hdots major (by simp)
    have hminor : '.' ∉ minor := hdots minor (by simp)
    have hpatch : '.' ∉ patch := hdots patch (by simp)
    rw [h, List.splitOn_append_cons_self, List.splitOn_append_cons_self,
      List.splitOn_eq_singleton hmajor, List.splitOn_eq_singleton hminor,
      List.splitOn_eq_singleton hpatch]
    rfl

theorem isVersion_iff {s : String} : isVersion s = true ↔ IsRelease IsDecimalDigit s := by
  have hruns : ∀ runs : List (List Char),
      (runs.all fun n => !n.isEmpty && n.all Text.isDecimalDigit) = true ↔
        ∀ run ∈ runs, run ≠ [] ∧ ∀ c ∈ run, IsDecimalDigit c := by
    intro runs
    simp only [List.all_eq_true, Bool.and_eq_true, Bool.not_eq_true', List.isEmpty_eq_false_iff,
      IsDecimalDigit]
  have hdots : ∀ runs : List (List Char),
      (∀ run ∈ runs, run ≠ [] ∧ ∀ c ∈ run, IsDecimalDigit c) → ∀ run ∈ runs, '.' ∉ run := by
    intro runs h run hrun hdot
    exact not_isDecimalDigit_dot ((h run hrun).2 '.' hdot)
  unfold isVersion IsRelease
  constructor
  · intro h
    split at h
    next major minor patch hsplit =>
      have hdigits := (hruns _).mp h
      exact ⟨major, minor, patch,
        (splitOn_eq_runs_iff.mp ⟨hsplit, hdots _ hdigits⟩).1, hdigits⟩
    next => exact nomatch h
  · rintro ⟨major, minor, patch, hs, hdigits⟩
    rw [(splitOn_eq_runs_iff.mpr ⟨hs, hdots _ hdigits⟩).1]
    exact (hruns _).mpr hdigits

namespace IsRelease

variable {P Q : Char → Prop} {s : String}

theorem mem (h : IsRelease P s) {c : Char} (hc : c ∈ s.toList) : P c ∨ c = '.' := by
  obtain ⟨major, minor, patch, hs, hruns⟩ := h
  rw [hs] at hc
  simp only [List.mem_append, List.mem_cons] at hc
  rcases hc with hc | rfl | hc | rfl | hc
  · exact Or.inl ((hruns major (by simp)).2 c hc)
  · exact Or.inr rfl
  · exact Or.inl ((hruns minor (by simp)).2 c hc)
  · exact Or.inr rfl
  · exact Or.inl ((hruns patch (by simp)).2 c hc)

theorem imp (h : IsRelease P s) (himp : ∀ c ∈ s.toList, P c → Q c) : IsRelease Q s := by
  obtain ⟨major, minor, patch, hs, hruns⟩ := h
  refine ⟨major, minor, patch, hs, fun run hrun => ?_⟩
  obtain ⟨hne, hdigits⟩ := hruns run hrun
  refine ⟨hne, fun c hc => himp c ?_ (hdigits c hc)⟩
  simp only [List.mem_cons, List.not_mem_nil, or_false] at hrun
  rw [hs]
  rcases hrun with rfl | rfl | rfl <;> simp [hc]

end IsRelease

/-- A release in decimal digits is one in ASCII digits, or some of its digits are of another
script. -/
theorem isRelease_decimal_iff {s : String} : IsRelease IsDecimalDigit s ↔
    IsRelease Task.IsDigit s ∨
      IsRelease IsDecimalDigit s ∧ ∃ c, c ∈ s.toList ∧ 0x80 ≤ c.toNat := by
  constructor
  · intro h
    by_cases hother : ∃ c, c ∈ s.toList ∧ 0x80 ≤ c.toNat
    · exact Or.inr ⟨h, hother⟩
    · refine Or.inl (h.imp fun c hc hdigit => ?_)
      have hascii : c.toNat < 0x80 := Nat.lt_of_not_le fun hge => hother ⟨c, hc, hge⟩
      exact (isDecimalDigit_iff_of_ascii hascii).mp hdigit
  · rintro (h | ⟨h, -⟩)
    · exact h.imp fun c _ => isDecimalDigit_of_isDigit
    · exact h

/-! ### The rules -/

namespace Terraform

/-- **The backend is in order**: there is one at most, and it is one of those that are supported. -/
structure BackendInOrder (t : Terraform) : Prop where
  single : t.backend.size ≤ 1
  supported : ∀ type, type ∈ t.backend.keys → type ∈ ["azurerm", "consul", "cos", "gcs",
    "kubernetes", "local", "manta", "oss", "pg", "s3"]

/-- **The version is in order**: it is unset, empty or a release. -/
def VersionInOrder (IsDigit : Char → Prop) (t : Terraform) : Prop :=
  t.version = none ∨ t.version = some "" ∨ ∃ v, t.version = some v ∧ IsRelease IsDigit v

theorem checkBackend_eq_ok {t : Terraform} : t.checkBackend = .ok () ↔ t.BackendInOrder := by
  have hsize : t.backend.size = t.backend.keys.length := (List.length_map _).symm
  unfold checkBackend
  split
  next hkeys =>
    refine iff_of_true rfl ⟨?_, ?_⟩
    · rw [hsize, hkeys]
      decide
    · intro type htype
      rw [hkeys] at htype
      exact nomatch htype
  next type hkeys =>
    rw [require_eq_ok, List.contains_iff_mem]
    constructor
    · intro h
      refine ⟨?_, ?_⟩
      · rw [hsize, hkeys]
        exact Nat.le_refl 1
      · intro other hother
        rw [hkeys, List.mem_singleton] at hother
        exact hother ▸ h
    · intro h
      exact h.supported type (by rw [hkeys]; exact List.mem_singleton_self type)
  next hnone hone =>
    refine iff_of_false nofun fun h => ?_
    have hsingle := h.single
    rw [hsize] at hsingle
    rcases hkeys : t.backend.keys with _ | ⟨type, _ | ⟨other, rest⟩⟩
    · exact hnone hkeys
    · exact hone type hkeys
    · rw [hkeys, List.length_cons, List.length_cons] at hsingle
      omega

theorem checkVersion_eq_true {t : Terraform} :
    (!t.version.isGiven || isVersion t.version.value) = true ↔
      t.VersionInOrder IsDecimalDigit := by
  have hzero : (Scalar.zero : String) = "" := rfl
  rw [Bool.or_eq_true, Bool.not_eq_true', isVersion_iff]
  unfold VersionInOrder
  cases t.version with
  | none => simp [Setting.isGiven]
  | some v =>
    by_cases hv : v = ""
    · simp [Setting.isGiven, hzero, hv]
    · simp [Setting.isGiven, Setting.value, hzero, hv]

theorem check_eq_ok {t : Terraform} :
    t.check = .ok () ↔ t.BackendInOrder ∧ t.VersionInOrder IsDecimalDigit := by
  rw [check, bind_eq_ok, checkBackend_eq_ok, require_eq_ok, checkVersion_eq_true]

/-- **What is accepted of Terraform**: a backend that is in order with a version that is unset,
empty or a release in ASCII digits, or a release some digits of which are of another script. -/
theorem check_accepts_iff (t : Terraform) :
    t.check = .ok () ↔ t.BackendInOrder ∧ (t.VersionInOrder Task.IsDigit ∨
      ∃ v, t.version = some v ∧ IsRelease IsDecimalDigit v ∧
        ∃ c, c ∈ v.toList ∧ 0x80 ≤ c.toNat) := by
  rw [check_eq_ok]
  refine and_congr_right fun _ => ?_
  unfold VersionInOrder
  constructor
  · rintro (hunset | hempty | ⟨v, hv, hrelease⟩)
    · exact Or.inl (Or.inl hunset)
    · exact Or.inl (Or.inr (Or.inl hempty))
    · rcases isRelease_decimal_iff.mp hrelease with hascii | hother
      · exact Or.inl (Or.inr (Or.inr ⟨v, hv, hascii⟩))
      · exact Or.inr ⟨v, hv, hother⟩
  · rintro ((hunset | hempty | ⟨v, hv, hascii⟩) | ⟨v, hv, hother⟩)
    · exact Or.inl hunset
    · exact Or.inr (Or.inl hempty)
    · exact Or.inr (Or.inr ⟨v, hv, isRelease_decimal_iff.mpr (Or.inl hascii)⟩)
    · exact Or.inr (Or.inr ⟨v, hv, hother.1⟩)

/-- The release 1.2.3 in the digits of Devanagari. -/
def inDevanagari : Terraform where
  version := some "१.२.३"

theorem isRelease_devanagari : IsRelease IsDecimalDigit "१.२.३" := by
  have hlisted : ∀ n ∈ [0x967, 0x968, 0x969], Unicode.decimalNumber.contains n = true := by
    intro n
    rw [Unicode.decimalNumber, Text.CharSet.contains_ofTable, String.toList_ofList]
    revert n
    decide +kernel
  have hother : ∀ n ∈ [0x967, 0x968, 0x969], ¬ n < 0x80 := by decide
  have hdigit : ∀ c ∈ ['१', '२', '३'], IsDecimalDigit c := by
    intro c hc
    have hcode : c.toNat ∈ [0x967, 0x968, 0x969] := List.mem_map_of_mem (f := Char.toNat) hc
    unfold IsDecimalDigit Text.isDecimalDigit
    rw [if_neg (hother _ hcode)]
    exact hlisted _ hcode
  refine ⟨['१'], ['२'], ['३'], rfl, fun run hrun => ?_⟩
  simp only [List.mem_cons, List.not_mem_nil, or_false] at hrun
  rcases hrun with rfl | rfl | rfl <;> exact ⟨by decide, by simpa using hdigit _ (by decide)⟩

/-- Releases in ASCII digits are not all that is accepted. -/
theorem check_accepts_devanagari :
    ¬ ∀ t : Terraform, t.check = .ok () ↔ t.BackendInOrder ∧ t.VersionInOrder Task.IsDigit := by
  intro h
  have haccepted : inDevanagari.check = .ok () :=
    check_eq_ok.mpr ⟨checkBackend_eq_ok.mp rfl, Or.inr (Or.inr ⟨_, rfl, isRelease_devanagari⟩)⟩
  rcases ((h inDevanagari).mp haccepted).2 with hunset | hempty | ⟨v, hv, hrelease⟩
  · exact nomatch hunset
  · have hempty : some "१.२.३" = some "" := hempty
    exact absurd hempty (by decide)
  · obtain rfl : "१.२.३" = v := Option.some.inj hv
    have hmem : '१' ∈ "१.२.३".toList := by decide
    rcases hrelease.mem hmem with hdigit | hdot
    · exact absurd hdigit.2 (by decide)
    · exact absurd hdot (by decide)

end Terraform

end AutomationConfig
