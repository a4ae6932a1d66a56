import NegativeCompile.Proofs.Schema.Ordering
import NegativeCompile.Proofs.Verdict.Tractable
import NegativeCompile.Settings.Reader

/-! # Configurations that are checked

Checking a decoded configuration against the schema is done with, or it fails as a matter of the
configuration (`Settings.failsOnly_check`): the violations of a short datum can be shown, and they can
be sorted unless two keys of variables have no order. -/

namespace NegativeCompile

open Schema Violation

/-- A failure is about the configuration. -/
def Failure.IsConfiguration (failure : Failure) : Prop := ∃ message, failure = .configuration message

/-- What is said of a configuration is about it. -/
theorem Failure.isConfiguration_configuration (message : String) :
    (Failure.configuration message).IsConfiguration := ⟨message, rfl⟩

/-! ## Members -/

namespace Knots

/-- The member of a mapping with a name. -/
def member? (knots : Knots) (name : String) (datum : Datum) : Option Datum :=
  match knots.resolve datum with
  | .mapping entries => Datum.get? name entries
  | _ => none

/-- The keys of a mapping; any other datum has none. -/
def keysOf (knots : Knots) (datum : Datum) : List Datum :=
  match knots.resolve datum with
  | .mapping entries => entries.map (·.1)
  | _ => []

end Knots

variable {knots : Knots} {datum value : Datum} {raw : KnottedDatum}

/-- The member of a mapping that is given by its entries. -/
theorem Knots.member?_of_resolve {entries : List (Datum × Datum)} {name : String}
    (mapping : knots.resolve datum = .mapping entries) :
    knots.member? name datum = Datum.get? name entries := by
  rw [member?, mapping]

/-- The keys of the variables that a decoded configuration sets for the compiler. -/
def KnottedDatum.variableNames (raw : KnottedDatum) : List Datum :=
  match (raw.knots.member? "compiler" raw.datum).bind (raw.knots.member? "env") with
  | some bindings => raw.knots.keysOf bindings
  | none => []

/-- A decoded configuration can be judged if it is short and the variables in it have an order. -/
structure KnottedDatum.IsJudgeable (raw : KnottedDatum) : Prop where
  /-- No number and no list in it is too long. -/
  datum : raw.datum.IsShort
  /-- No number and no list in its knots is too long. -/
  knots : raw.knots.IsShort
  /-- The keys of the variables can be compared. -/
  bindings : KeysComparable raw.variableNames

/-! ## Violations of the schema -/

/-- No rule of a schema looks into a datum. -/
def Schema.isFlat : Schema → Bool
  | .ofRules rules => rules.all looksAtRoot

/-- The violations of a schema that does not look into a datum are orderly. -/
theorem Schema.Orders.of_isFlat {schema : Schema} (flat : schema.isFlat = true) :
    Orders knots schema datum := by
  obtain ⟨rules⟩ := schema
  exact orders_of_rulesOrder (rulesOrder_of_look (List.all_eq_true.mp flat))

namespace Settings

/-- The violations of a list of texts are orderly. -/
theorem orders_textList : Orders knots textList datum :=
  .listOf (by decide)

/-- The violations of the compiler's part are orderly if the keys of variables can be compared. -/
theorem orders_compilerSchema
    (comparable : ∀ bindings, knots.member? "env" datum = some bindings →
      KeysComparable (knots.keysOf bindings)) : Orders knots compilerSchema datum := by
  refine .closedRecord (by decide) fun entries mapping member listed value found => ?_
  rw [← Knots.member?_of_resolve mapping] at found
  simp only [List.mem_cons, List.not_mem_nil, or_false] at listed
  -- Only lists of texts and the variables are looked into.
  rcases listed with rfl | rfl | rfl | rfl | rfl | rfl | rfl | rfl | rfl | rfl | rfl
  · exact .of_isFlat rfl
  · exact .of_isFlat rfl
  · exact .of_isFlat rfl
  · exact orders_textList
  · exact orders_textList
  · exact .of_isFlat rfl
  · exact .of_isFlat rfl
  · exact .of_isFlat rfl
  · exact .of_isFlat rfl
  · refine orders_of_rulesOrder (.cons rfl (rulesOrder_cons_of_look (fun violations raised => ?_)
      fun _ member => absurd member List.not_mem_nil))
    refine orderly_values (by decide) (fun bindings same => ?_) raised
    have keys := comparable value found
    rwa [Knots.keysOf, same] at keys
  · exact .of_isFlat rfl

/-- The violations of a configuration are orderly if the keys of variables can be compared. -/
theorem orders_schema (comparable : KeysComparable raw.variableNames) :
    Orders raw.knots schema raw.datum := by
  refine .closedRecord (by decide) fun entries mapping member listed value found => ?_
  rw [← Knots.member?_of_resolve mapping] at found
  simp only [List.mem_cons, List.not_mem_nil, or_false] at listed
  rcases listed with rfl | rfl | rfl | rfl | rfl | rfl
  · refine orders_compilerSchema fun bindings given => ?_
    rwa [KnottedDatum.variableNames, found, Option.bind_some, given] at comparable
  · exact .of_isFlat rfl
  · exact .of_isFlat rfl
  · refine orders_of_rulesOrder (.cons rfl (rulesOrder_cons_of_look (fun violations raised => ?_)
      (by decide)))
    exact orderly_items (by decide) raised
  · exact orders_textList
  · refine .closedRecord (by decide) fun entries _ member listed value _ => ?_
    simp only [List.mem_cons, List.not_mem_nil, or_false] at listed
    rcases listed with rfl | rfl | rfl <;> exact .of_isFlat rfl

end Settings

/-! ## Showing violations -/

/-- Working through a list gives values if each item gives one. -/
theorem List.exists_mapM_eq_some {α β : Type} {step : α → Option β} {items : List α}
    (each : ∀ item ∈ items, ∃ result, step item = some result) :
    ∃ results, items.mapM step = some results := by
  induction items with
  | nil => exact ⟨[], rfl⟩
  | cons item rest ih =>
    obtain ⟨first, here⟩ := each item List.mem_cons_self
    obtain ⟨others, mapped⟩ := ih fun other member => each other (List.mem_cons_of_mem _ member)
    exact ⟨first :: others, by rw [List.mapM_cons, here, mapped]; rfl⟩

/-- A violation can be described if the steps to it can be shown. -/
theorem Violation.exists_describe? {violation : Violation}
    (shown : ∀ step ∈ violation.path, step.hasLongNumber = false) :
    ∃ text, violation.describe? = some text := by
  obtain ⟨names, mapped⟩ : ∃ names, violation.path.mapM (·.plain?) = some names :=
    List.exists_mapM_eq_some fun step member =>
      ⟨step.plain, if_neg (by rw [shown step member]; exact Bool.false_ne_true)⟩
  rw [describe?, place?, mapped]
  exact ⟨_, rfl⟩

namespace Settings

/-- Violations that can be described make up a failure of the configuration. -/
theorem isConfiguration_violated {violations : List Violation}
    (shown : ∀ violation ∈ violations, ∀ step ∈ violation.path, step.hasLongNumber = false) :
    (violated violations).IsConfiguration := by
  obtain ⟨texts, mapped⟩ : ∃ texts, violations.mapM (·.describe?) = some texts :=
    List.exists_mapM_eq_some fun violation member => exists_describe? (shown violation member)
  rw [violated, mapped]
  exact Failure.isConfiguration_configuration _

/-- A decoded configuration that can be judged follows the schema, or it is said how it does not. -/
theorem failsOnly_check (judgeable : raw.IsJudgeable) :
    Except.FailsOnly Failure.IsConfiguration (check raw) := by
  obtain ⟨violations, listed, shown⟩ :=
    listed_violations judgeable.knots schema raw.datum judgeable.datum
  obtain ⟨sorted, ordered, among⟩ :=
    (orders_schema judgeable.bindings violations listed).exists_sort
  rw [check, listed]
  dsimp only
  rw [ordered]
  cases sorted with
  | nil => exact .ok ()
  | cons first rest =>
    exact .error (isConfiguration_violated fun violation member => shown violation (among member))

end Settings

end NegativeCompile
