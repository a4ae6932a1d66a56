import Mathlib.Data.List.Forall2

/-! # Results that may be failures

When steps in a row give a value, and what working through a list gives: one value for each item. -/

namespace Except

variable {ε α β : Type}

/-- What follows a value is what comes of it. -/
theorem ok_bind (value : α) (next : α → Except ε β) : (.ok value >>= next) = next value := rfl

/-- A failure stays one, whatever would follow. -/
theorem error_bind (failure : ε) (next : α → Except ε β) :
    (.error failure >>= next) = .error failure := rfl

/-- Two steps in a row give a value just if both do. -/
theorem bind_eq_ok_iff {first : Except ε α} {next : α → Except ε β} {result : β} :
    (first >>= next) = .ok result ↔ ∃ value, first = .ok value ∧ next value = .ok result := by
  cases first with
  | error failure => simp [bind, Except.bind]
  | ok value => simp [bind, Except.bind]

/-- A function of a value gives a value just if there is one. -/
theorem map_eq_ok_iff {first : Except ε α} {change : α → β} {result : β} :
    (change <$> first) = .ok result ↔ ∃ value, first = .ok value ∧ change value = result := by
  rw [← bind_pure_comp, bind_eq_ok_iff]
  simp only [pure, Except.pure, Except.ok.injEq]

/-- Two computations in a row fail if the first one fails or else the second one does. -/
theorem bind_eq_error_iff {first : Except ε α} {next : α → Except ε β} {failure : ε} :
    (first >>= next) = .error failure ↔
      first = .error failure ∨ ∃ value, first = .ok value ∧ next value = .error failure := by
  cases first with
  | error other => simp [error_bind]
  | ok value => simp [ok_bind]

/-- Changing the value keeps the failure. -/
theorem map_eq_error_iff {first : Except ε α} {change : α → β} {failure : ε} :
    change <$> first = .error failure ↔ first = .error failure := by
  cases first with
  | error other => simp [Functor.map, Except.map]
  | ok value => simp [Functor.map, Except.map]

/-- A result that is a value is known by the value it may be read as. -/
theorem eq_ok_of_toOption {found : Except ε α} {value : α} (read : found.toOption = some value) :
    found = .ok value := by
  cases found with
  | error failure => cases read
  | ok other => exact congrArg _ (Option.some.inj read)

/-- Results that are all values are known by the values they may be read as. -/
theorem eq_map_ok_of_toOption {found : List (Except ε α)} {values : List α}
    (read : found.map Except.toOption = values.map some) : found = values.map .ok := by
  induction found generalizing values with
  | nil =>
    obtain rfl := List.map_eq_nil_iff.mp read.symm
    rfl
  | cons first rest ih =>
    obtain ⟨value, others, rfl, same, alike⟩ := List.map_eq_cons_iff.mp read.symm
    rw [eq_ok_of_toOption same.symm, ih alike.symm, List.map_cons]

/-- Working through a list gives values just if each item gives its own one. -/
theorem mapM_eq_ok_iff {step : α → Except ε β} {items : List α} {results : List β} :
    items.mapM step = .ok results ↔
      List.Forall₂ (fun item result => step item = .ok result) items results := by
  induction items generalizing results with
  | nil =>
    rw [List.mapM_nil, List.forall₂_nil_left_iff]
    exact ⟨fun equal => (Except.ok.inj equal).symm, fun empty => congrArg _ empty.symm⟩
  | cons item rest ih =>
    rw [List.mapM_cons, List.forall₂_cons_left_iff, bind_eq_ok_iff]
    constructor
    · rintro ⟨result, found, others⟩
      obtain ⟨last, done, equal⟩ := bind_eq_ok_iff.mp others
      exact ⟨result, last, found, ih.mp done, (Except.ok.inj equal).symm⟩
    · rintro ⟨result, last, found, done, rfl⟩
      exact ⟨result, found, bind_eq_ok_iff.mpr ⟨last, ih.mpr done, rfl⟩⟩

/-! ## Which failures there are -/

variable {allowed : ε → Prop}

/-- If a result is a failure it is one that is allowed. -/
def FailsOnly (allowed : ε → Prop) (found : Except ε α) : Prop :=
  ∀ failure, found = .error failure → allowed failure

namespace FailsOnly

/-- A value is no failure. -/
theorem ok (value : α) : FailsOnly allowed (.ok value) := by
  intro failure fails
  cases fails

/-- A failure that is allowed is one. -/
theorem error {failure : ε} (holds : allowed failure) :
    FailsOnly allowed (.error failure : Except ε α) := by
  intro other fails
  cases fails
  exact holds

/-- Two steps in a row fail as allowed if the first one does, and the second one does after any value
of the first one. -/
theorem bind {first : Except ε α} {next : α → Except ε β} (only : FailsOnly allowed first)
    (onward : ∀ value, first = .ok value → FailsOnly allowed (next value)) :
    FailsOnly allowed (first >>= next) := by
  cases first with
  | error failure => exact error (only failure rfl)
  | ok value => exact onward value rfl

/-- A function of a value does not matter for failures. -/
theorem map {first : Except ε α} (only : FailsOnly allowed first) (change : α → β) :
    FailsOnly allowed (change <$> first) := by
  cases first with
  | error failure => exact error (only failure rfl)
  | ok value => exact ok (change value)

/-- Working through a list fails as allowed if it does so for each item. -/
theorem mapM {step : α → Except ε β} {items : List α}
    (each : ∀ item ∈ items, FailsOnly allowed (step item)) :
    FailsOnly allowed (items.mapM step) := by
  induction items with
  | nil => exact ok []
  | cons item rest ih =>
    rw [List.mapM_cons]
    refine (each item List.mem_cons_self).bind fun result _ => ?_
    refine (ih fun other member => each other (List.mem_cons_of_mem _ member)).bind fun others _ => ?_
    exact ok (result :: others)

/-- A result that fails as allowed is a value or such a failure. -/
theorem exists_ok_or_error {found : Except ε α} (only : FailsOnly allowed found) :
    (∃ value, found = .ok value) ∨ ∃ failure, found = .error failure ∧ allowed failure := by
  cases found with
  | error failure => exact .inr ⟨failure, rfl, only failure rfl⟩
  | ok value => exact .inl ⟨value, rfl⟩

end FailsOnly

/-- A result never fails just if it is a value. -/
theorem failsOnly_never_iff {found : Except ε α} :
    FailsOnly (fun _ => False) found ↔ ∃ value, found = .ok value := by
  constructor
  · intro only
    exact only.exists_ok_or_error.resolve_right fun ⟨_, _, never⟩ => never
  · rintro ⟨value, rfl⟩
    exact .ok value

end Except
