import AutomationConfig.Violation

/-! # Checks in order

Checks that are made one after the other pass if each of them passes, and otherwise fail with the
first violation. `firstViolation` says so of a list of outcomes; the ways in which validation puts
checks together (`checkDistinct`, `Checked.andThen`, `Checked.each`) are reduced to it.

* `firstViolation_eq_ok`, `firstViolation_eq_error`: what the first violation of a list is.
* `checkDistinct_eq_ok`: a list passes if its items do and no two of them have one key.
* `Checked.outcome_andThen`, `Checked.outcome_each`: the outcome of checks that settle a value. -/

namespace AutomationConfig

variable {α β γ : Type}

/-! ### Single checks -/

theorem bind_eq_ok {x : Except Violation Unit} {f : Unit → Except Violation Unit} :
    (x >>= f) = .ok () ↔ x = .ok () ∧ f () = .ok () := by
  cases x <;> simp [bind, Except.bind]

@[simp] theorem bind_ok : ∀ x : Except Violation Unit, (x >>= fun _ => .ok ()) = x
  | .ok () => rfl
  | .error _ => rfl

theorem mapError_eq_ok {f : Violation → Violation} : ∀ {x : Except Violation Unit},
    x.mapError f = .ok () ↔ x = .ok ()
  | .ok () => Iff.rfl
  | .error _ => ⟨nofun, nofun⟩

theorem require_eq_ok {holds : Bool} {v : Violation} : require holds v = .ok () ↔ holds = true := by
  cases holds <;> simp [require]

/-! ### The first violation -/

/-- The first violation among the outcomes of checks that are made in order. -/
def firstViolation : List (Except Violation Unit) → Except Violation Unit
  | [] => .ok ()
  | check :: rest => do
    check
    firstViolation rest

@[simp] theorem firstViolation_nil : firstViolation [] = .ok () := rfl

@[simp] theorem firstViolation_cons (check : Except Violation Unit)
    (rest : List (Except Violation Unit)) :
    firstViolation (check :: rest) = (check >>= fun _ => firstViolation rest) := rfl

@[simp] theorem firstViolation_append : ∀ checks rest : List (Except Violation Unit),
    firstViolation (checks ++ rest) = (firstViolation checks >>= fun _ => firstViolation rest)
  | [], _ => rfl
  | .ok () :: checks, rest => firstViolation_append checks rest
  | .error _ :: _, _ => rfl

theorem firstViolation_eq_ok {checks : List (Except Violation Unit)} :
    firstViolation checks = .ok () ↔ ∀ check ∈ checks, check = .ok () := by
  induction checks with
  | nil => simp
  | cons check rest ih => rw [firstViolation_cons, bind_eq_ok, ih, List.forall_mem_cons]

/-- A violation is the first one if the checks before it pass. -/
theorem firstViolation_eq_error {v : Violation} {checks : List (Except Violation Unit)} :
    firstViolation checks = .error v ↔ ∃ passed rest, checks = passed ++ .error v :: rest ∧
      ∀ check ∈ passed, check = .ok () := by
  constructor
  · intro h
    induction checks with
    | nil => simp at h
    | cons check checks ih =>
      rcases check with w | ⟨⟩
      · obtain rfl : w = v := by simpa [bind, Except.bind] using h
        exact ⟨[], checks, rfl, by simp⟩
      · obtain ⟨passed, rest, rfl, hpassed⟩ := ih h
        exact ⟨.ok () :: passed, rest, rfl, by simpa using hpassed⟩
  · rintro ⟨passed, rest, rfl, hpassed⟩
    rw [firstViolation_append, firstViolation_eq_ok.mpr hpassed]
    rfl

/-- What is said of each violation is said of the first one. -/
theorem firstViolation_map_mapError (f : Violation → Violation) :
    ∀ checks : List (Except Violation Unit),
      firstViolation (checks.map (·.mapError f)) = (firstViolation checks).mapError f
  | [] => rfl
  | .ok () :: checks => firstViolation_map_mapError f checks
  | .error _ :: _ => rfl

/-! ### Rules -/

/-- A rule: what it demands, and what checking it gives. -/
structure Rule where
  holds : Prop
  outcome : Except Violation Unit

namespace Rule

/-- Where the rules before it hold, a rule is checked rightly: its check passes if and only if it
holds. -/
def Faithful : List Rule → Prop
  | [] => True
  | r :: rest => (r.outcome = .ok () ↔ r.holds) ∧ (r.holds → Faithful rest)

theorem faithful_of_forall : ∀ {rules : List Rule},
    (∀ r ∈ rules, r.outcome = .ok () ↔ r.holds) → Faithful rules
  | [], _ => trivial
  | _ :: _, h => ⟨h _ List.mem_cons_self, fun _ =>
      faithful_of_forall fun r hr => h r (List.mem_cons_of_mem _ hr)⟩

theorem faithful_append {first last : List Rule} : Faithful (first ++ last) ↔
    Faithful first ∧ ((∀ r ∈ first, r.holds) → Faithful last) := by
  induction first with
  | nil => simp [Faithful]
  | cons r first ih =>
    rw [List.cons_append, Faithful, Faithful, ih, List.forall_mem_cons]
    constructor
    · rintro ⟨hr, h⟩
      exact ⟨⟨hr, fun hholds => (h hholds).1⟩, fun hfirst => (h hfirst.1).2 hfirst.2⟩
    · rintro ⟨⟨hr, hfirst⟩, hlast⟩
      exact ⟨hr, fun hholds => ⟨hfirst hholds, fun h => hlast ⟨hholds, h⟩⟩⟩

theorem firstViolation_eq_ok {rules : List Rule} (h : Faithful rules) :
    firstViolation (rules.map outcome) = .ok () ↔ ∀ r ∈ rules, r.holds := by
  induction rules with
  | nil => simp
  | cons r rules ih =>
    rw [List.map_cons, firstViolation_cons, bind_eq_ok, h.1, List.forall_mem_cons]
    exact and_congr_right fun hr => ih (h.2 hr)

/-- The violation is that of the first rule that does not hold. -/
theorem firstViolation_eq_error {v : Violation} {rules : List Rule} (h : Faithful rules) :
    firstViolation (rules.map outcome) = .error v ↔ ∃ kept r rest, rules = kept ++ r :: rest ∧
      (∀ q ∈ kept, q.holds) ∧ ¬ r.holds ∧ r.outcome = .error v := by
  rw [AutomationConfig.firstViolation_eq_error]
  constructor
  · rintro ⟨passed, others, heq, hpassed⟩
    obtain ⟨kept, tail, rfl, rfl, htail⟩ := List.map_eq_append_iff.mp heq
    obtain ⟨r, rest, rfl, hr, rfl⟩ := List.map_eq_cons_iff.mp htail
    obtain ⟨hkept, hrest⟩ := faithful_append.mp h
    have hholds : ∀ q ∈ kept, q.holds :=
      (firstViolation_eq_ok hkept).mp (AutomationConfig.firstViolation_eq_ok.mpr hpassed)
    refine ⟨kept, r, rest, rfl, hholds, fun hr' => ?_, hr⟩
    rw [(hrest hholds).1.mpr hr'] at hr
    exact nomatch hr
  · rintro ⟨kept, r, rest, rfl, hholds, -, hr⟩
    refine ⟨kept.map outcome, rest.map outcome, by simp [hr], ?_⟩
    exact AutomationConfig.firstViolation_eq_ok.mp
      ((firstViolation_eq_ok (faithful_append.mp h).1).mpr hholds)

end Rule

/-! ### Distinct keys -/

theorem checkDistinct_eq_ok {check : α → Except Violation Unit} {key : α → String}
    {clash : String → Violation} {seen : List String} {as : List α} :
    checkDistinct check key clash seen as = .ok () ↔
      (∀ a ∈ as, check a = .ok ()) ∧ (as.map key).Nodup ∧ ∀ a ∈ as, key a ∉ seen := by
  induction as generalizing seen with
  | nil => simp [checkDistinct]
  | cons a as ih =>
    rw [checkDistinct, bind_eq_ok, bind_eq_ok, require_eq_ok, ih, List.forall_mem_cons,
      List.forall_mem_cons, List.map_cons, List.nodup_cons]
    simp only [List.mem_map, List.mem_cons, Bool.not_eq_true', List.contains_eq_mem,
      decide_eq_false_iff_not, not_exists, not_and, not_or]
    constructor
    · rintro ⟨ha, hseen, has, hnodup, hrest⟩
      exact ⟨⟨ha, has⟩, ⟨fun b hb => (hrest b hb).1, hnodup⟩, hseen, fun b hb => (hrest b hb).2⟩
    · rintro ⟨⟨ha, has⟩, ⟨hne, hnodup⟩, hseen, hrest⟩
      exact ⟨ha, hseen, has, hnodup, fun b hb => ⟨hne b hb, hrest b hb⟩⟩

theorem checkDistinct_map (f : α → β) (check : β → Except Violation Unit) (key : β → String)
    (clash : String → Violation) : ∀ (seen : List String) (as : List α),
      checkDistinct check key clash seen (as.map f) =
        checkDistinct (fun a => check (f a)) (fun a => key (f a)) clash seen as
  | _, [] => rfl
  | seen, a :: as => by
    rw [List.map_cons, checkDistinct, checkDistinct,
      checkDistinct_map f check key clash (key (f a) :: seen) as]

/-! ### Checks that settle a value -/

namespace Checked

@[simp] theorem outcome_keep (a : α) (o : Except Violation Unit) : (keep a o).outcome = o := rfl

@[simp] theorem value_keep (a : α) (o : Except Violation Unit) : (keep a o).value = a := rfl

@[simp] theorem outcome_map (f : α → β) (c : Checked α) : (c.map f).outcome = c.outcome := rfl

@[simp] theorem value_map (f : α → β) (c : Checked α) : (c.map f).value = f c.value := rfl

@[simp] theorem outcome_inTask (name : String) (c : Checked α) :
    (c.inTask name).outcome = c.outcome.mapError (.inTask name) := rfl

@[simp] theorem outcome_andThen (c : Checked α) (next : α → Checked α) :
    (c.andThen next).outcome = (c.outcome >>= fun _ => (next c.value).outcome) := by
  unfold andThen
  split
  next h => rw [h]; rfl
  next h => rw [h]; rfl

theorem andThen_assoc (c : Checked α) (f g : α → Checked α) :
    (c.andThen f).andThen g = c.andThen fun a => (f a).andThen g := by
  cases h : c.outcome <;> simp [andThen, h]

/-- What every step keeps of a value is kept. -/
theorem apply_value_andThen (view : α → γ) {c : Checked α} {next : α → Checked α} {a : α}
    (hc : view c.value = view a) (hnext : ∀ b, view (next b).value = view b) :
    view (c.andThen next).value = view a := by
  unfold andThen
  split
  · rw [hnext, hc]
  · exact hc

theorem outcome_each (validate : α → Checked α) : ∀ as : List α,
    (each validate as).outcome = firstViolation (as.map fun a => (validate a).outcome)
  | [] => rfl
  | a :: as => by
    rw [each, List.map_cons, firstViolation_cons, ← outcome_each validate as]
    split
    next h => rw [h]; rfl
    next h => rw [h]; rfl

/-- What validation keeps of every item it keeps of the list. -/
theorem map_value_each {view : α → γ} {validate : α → Checked α}
    (h : ∀ a, view (validate a).value = view a) : ∀ as : List α,
    (each validate as).value.map view = as.map view
  | [] => rfl
  | a :: as => by
    simp only [each]
    split
    · rw [value_map, List.map_cons, List.map_cons, h, map_value_each h as]
    · rw [List.map_cons, List.map_cons, h]

end Checked

end AutomationConfig
