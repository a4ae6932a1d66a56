import NegativeCompile.Proofs.Settings.Assembling
import NegativeCompile.Proofs.Schema.Following
import NegativeCompile.Proofs.Schema.Slots

/-! # Data that contain themselves are refused

A knot stands for a list or a mapping that contains itself: whoever follows what it consists of, and what
the knots in that consist of, meets it again (`Knots.IsTied`). Some schemas admit no such data, as they
bound how deep a datum is (`Schema.Unties`): texts, numbers and nothing, lists and records of what they
admit. The schema of configurations is one of them (`Settings.unties_schema`), so all that is found in a
configuration that follows it is given as it is. -/

namespace NegativeCompile

open Schema

variable {knots : Knots} {datum value : Datum} {number : Nat} {schema : Schema} {rules : List Rule}
variable {kinds : List SchemaKind} {entries : List (Datum × Datum)} {items : List Datum}
variable {names : List String} {known : List (String × Schema)} {schemas : List Schema} {bound : Int}
variable {text : String}

/-! ## Knots -/

namespace Knots

/-- A list or a mapping that contains itself is met in a datum: in the datum, or in what it or a knot that
is met in it consists of. Of entries with the same key only the first one counts. -/
inductive Meets (knots : Knots) (number : Nat) : Datum → Prop where
  /-- It is the datum itself. -/
  | self (tied : (knots.lookup number).isSome = true) : Meets knots number (.knot number)
  /-- It is met in what a knot stands for. -/
  | within {other : Nat} {datum : Datum} (named : knots.lookup other = some datum)
    (met : Meets knots number datum) : Meets knots number (.knot other)
  /-- It is met in an item of a list. -/
  | item {items : List Datum} {item : Datum} (listed : item ∈ items) (met : Meets knots number item) :
    Meets knots number (.list items)
  /-- It is met in a part of a tuple. -/
  | part {items : List Datum} {item : Datum} (listed : item ∈ items) (met : Meets knots number item) :
    Meets knots number (.tuple items)
  /-- It is met in the value of a key of a mapping. -/
  | value {before after : List (Datum × Datum)} {key value : Datum}
    (first : ∀ entry ∈ before, Datum.sameKey entry.1 key = false) (met : Meets knots number value) :
    Meets knots number (.mapping (before ++ (key, value) :: after))

/-- What knots stand for contains itself. -/
def IsTied (knots : Knots) : Prop :=
  ∀ number datum, knots.lookup number = some datum → knots.Meets number datum

/-- Nothing that contains itself is met in a datum. -/
def IsLoose (knots : Knots) (datum : Datum) : Prop := ∀ number, ¬ knots.Meets number datum

/-- Without knots nothing contains itself. -/
theorem isTied_nil : IsTied [] := nofun

/-- If nothing that contains itself is met in what a datum stands for, it is none in the datum. -/
theorem IsTied.isLoose_of_resolve (tied : knots.IsTied) (loose : knots.IsLoose (knots.resolve datum)) :
    knots.IsLoose datum := by
  cases datum with
  | knot other =>
    intro number met
    rw [resolve] at loose
    cases met with
    | self known =>
      obtain ⟨stood, named⟩ := Option.isSome_iff_exists.mp known
      rw [named, Option.getD_some] at loose
      exact loose _ (tied _ _ named)
    | within named met =>
      rw [named, Option.getD_some] at loose
      exact loose _ met
  | _ => exact loose

/-- A datum in which nothing is met that contains itself is what it stands for, if that is anything. -/
theorem IsLoose.eq_of_resolve (loose : knots.IsLoose datum) (stands : knots.resolve datum = value)
    (some : value ≠ .nothing) : datum = value := by
  cases datum with
  | knot number =>
    rw [resolve] at stands
    cases named : knots.lookup number with
    | none =>
      rw [named] at stands
      exact absurd stands.symm some
    | some stood => exact absurd (.self (by rw [named]; rfl)) (loose number)
  | _ => exact stands

end Knots

/-! ## Rules and schemas -/

/-- A schema finds no violation in a datum. -/
def Schema.Admits (schema : Schema) (knots : Knots) (datum : Datum) : Prop :=
  schema.violations knots datum = some []

/-- A rule finds no violation in a datum. -/
def Rule.Admits (rule : Rule) (knots : Knots) (datum : Datum) : Prop :=
  violationsOf knots rule datum (knots.resolve datum) = some []

/-- A schema admits a datum if it finds no violation in it that is reported below a step. -/
theorem Schema.admits_of_under {step : Datum}
    (own : (do return (← schema.violations knots datum).map (·.under step)) = some []) :
    schema.Admits knots datum := by
  rw [Admits]
  cases found : schema.violations knots datum with
  | none => simp [found] at own
  | some violations =>
    simp only [found, Option.bind_eq_bind, Option.bind_some, Option.pure_def, Option.some.injEq,
      List.map_eq_nil_iff] at own
    rw [own]

/-- A schema admits a datum just if all its rules do. -/
theorem Schema.admits_ofRules_iff :
    (Schema.ofRules rules).Admits knots datum ↔ ∀ rule ∈ rules, rule.Admits knots datum := by
  rw [Admits, violations, violationsOfAll_eq_some_nil_iff]
  rfl

namespace Rule

/-- A datum is of one of some kinds. -/
theorem admits_kind_iff : (kind kinds).Admits knots datum ↔
    ∃ one ∈ kinds, one.holds (knots.resolve datum) = true := by
  rw [Admits, violationsOf, ← List.any_eq_true]
  split
  next fits => simp [fits]
  next other => simp [other, shownWith_ne_some_nil]

/-- The items of a list follow a schema. -/
theorem Admits.each_item (admits : (Rule.items schema).Admits knots datum)
    (stands : knots.resolve datum = .list items) : ∀ item ∈ items, schema.Admits knots item := by
  rw [Admits, stands, violationsOf, flatten_mapM_eq_some_nil_iff] at admits
  intro item listed
  obtain ⟨index, inside, rfl⟩ := List.mem_iff_getElem.mp listed
  exact Schema.admits_of_under (admits (items[index], index) (List.mk_mem_zipIdx_iff_getElem?.mpr
    (List.getElem?_eq_getElem inside)))

/-- The values of all keys of a mapping follow a schema. -/
theorem Admits.each_value (admits : (Rule.values schema).Admits knots datum)
    (stands : knots.resolve datum = .mapping entries) :
    ∀ entry ∈ entries, schema.Admits knots entry.2 := by
  rw [Admits, stands, violationsOf, flatten_mapM_eq_some_nil_iff] at admits
  intro entry listed
  have extra : entry ∈ extraEntries [] entries :=
    SlotTable.mem_inOrder_iff.mpr (List.mem_filter.mpr ⟨listed, rfl⟩)
  exact Schema.admits_of_under (admits entry extra)

/-- The keys of a mapping are among some texts. -/
theorem Admits.closed (admits : (Rule.closed names).Admits knots datum)
    (stands : knots.resolve datum = .mapping entries) :
    ∀ entry ∈ entries, ∃ name ∈ names, entry.1 = .text name := by
  rw [Admits, stands, violationsOf] at admits
  have none : extraEntries names entries = [] := by
    split at admits
    next none => exact none
    next => rw [unexpected] at admits; split at admits <;> simp [here] at admits
  intro entry listed
  by_contra other
  have extra : entry ∈ extraEntries names entries := by
    refine SlotTable.mem_inOrder_iff.mpr (List.mem_filter.mpr ⟨listed, ?_⟩)
    rw [Bool.not_eq_true', List.any_eq_false]
    exact fun name member same => other ⟨name, member, Settings.eq_text_of_sameKey same⟩
  rw [none] at extra
  cases extra

/-- The values of known keys of a mapping follow the schemas for them. -/
theorem Admits.properties (admits : (Rule.properties known).Admits knots datum)
    (stands : knots.resolve datum = .mapping entries) :
    ∀ member ∈ known, ∀ value, Datum.get? member.1 entries = some value →
      member.2.Admits knots value := by
  rw [Admits, stands, violationsOf, violationsOfMembers_eq_some_nil_iff] at admits
  exact admits

/-- A mapping has some keys. -/
theorem Admits.required (admits : (Rule.required names).Admits knots datum)
    (stands : knots.resolve datum = .mapping entries) :
    ∀ name ∈ names, ∃ value, Datum.get? name entries = some value := by
  rw [Admits, stands, violationsOf, Option.some.injEq, List.flatMap_eq_nil_iff] at admits
  intro name listed
  have present := admits name listed
  split at present
  next found => exact Option.isSome_iff_exists.mp found
  next => cases present

/-- A text is not empty. -/
theorem Admits.nonemptyText (admits : Rule.nonemptyText.Admits knots datum)
    (stands : knots.resolve datum = .text text) : text ≠ "" := by
  rw [Admits, stands, violationsOf] at admits
  rintro rfl
  simp [here] at admits

/-- A list is not empty. -/
theorem Admits.nonemptyList (admits : Rule.nonemptyList.Admits knots datum)
    (stands : knots.resolve datum = .list items) : items ≠ [] := by
  rw [Admits, stands, violationsOf] at admits
  rintro rfl
  simp [here] at admits

/-- A number is at least another one. -/
theorem Admits.least (admits : (Rule.least bound).Admits knots datum) :
    isBelow (knots.resolve datum) bound = false := by
  rw [Admits, violationsOf] at admits
  split at admits
  next => exact absurd admits (shownWith_ne_some_nil _ _ _)
  next other => simpa using other

/-- A number is greater than another one. -/
theorem Admits.above (admits : (Rule.above bound).Admits knots datum) :
    isBelow (knots.resolve datum) bound = false ∧ isEqual (knots.resolve datum) bound = false := by
  rw [Admits, violationsOf] at admits
  split at admits
  next => exact absurd admits (shownWith_ne_some_nil _ _ _)
  next other => simpa using other

/-- A datum that is one of some texts is a text. -/
theorem Admits.oneText {texts : List String} (admits : (Rule.oneText texts).Admits knots datum) :
    ∃ text, knots.resolve datum = .text text := by
  rw [Admits, violationsOf] at admits
  split at admits
  next listed =>
    obtain ⟨text, -, same⟩ := List.any_eq_true.mp listed
    exact ⟨text, Settings.eq_text_of_sameKey same⟩
  next => exact absurd admits (shownWith_ne_some_nil _ _ _)

/-- A datum follows one of some schemas. -/
theorem Admits.oneSchema (admits : (Rule.oneSchema schemas).Admits knots datum) :
    ∃ schema ∈ schemas, schema.Admits knots datum := by
  have some : followsSome knots schemas datum = some true := by
    rw [Admits, violationsOf] at admits
    cases followed : followsSome knots schemas datum with
    | none => simp [followed] at admits
    | some answer =>
      cases answer with
      | true => rfl
      | false => simp [followed, shownWith_ne_some_nil] at admits
  clear admits
  induction schemas with
  | nil => simp [followsSome] at some
  | cons schema rest ih =>
    rw [followsSome] at some
    cases found : schema.violations knots datum with
    | none => simp [found] at some
    | some violations =>
      cases violations with
      | nil => exact ⟨schema, List.mem_cons_self, found⟩
      | cons violation more =>
        obtain ⟨other, listed, admits⟩ := ih (by simpa [found] using some)
        exact ⟨other, List.mem_cons_of_mem _ listed, admits⟩

end Rule

/-! ## Schemas that admit no knots -/

namespace Schema

/-- A schema admits nothing that contains itself, nor anything in which that is met. -/
def Unties (schema : Schema) : Prop :=
  ∀ knots datum, knots.IsTied → schema.Admits knots datum → knots.IsLoose datum

/-- What is neither a mapping nor a list contains nothing. -/
theorem isLoose_of_holds {kind : SchemaKind} (holds : kind.holds datum = true)
    (scalar : kind ≠ .object ∧ kind ≠ .array) : knots.IsLoose datum := by
  intro number met
  cases met with
  | self | within | part => cases kind <;> cases holds
  | item =>
    cases kind with
    | array => exact scalar.2 rfl
    | _ => cases holds
  | value =>
    cases kind with
    | object => exact scalar.1 rfl
    | _ => cases holds

/-- A schema for texts, numbers, truth values and nothing. -/
theorem unties_of_kinds (listed : Rule.kind kinds ∈ rules)
    (scalar : ∀ kind ∈ kinds, kind ≠ .object ∧ kind ≠ .array) : (ofRules rules).Unties := by
  intro knots datum tied admits
  obtain ⟨kind, member, holds⟩ := Rule.admits_kind_iff.mp (admits_ofRules_iff.mp admits _ listed)
  exact tied.isLoose_of_resolve (isLoose_of_holds holds (scalar kind member))

/-- A schema for one of some texts. -/
theorem unties_oneText (texts : List String) : (ofRules [.oneText texts]).Unties := by
  intro knots datum tied admits
  obtain ⟨text, stands⟩ := (admits_ofRules_iff.mp admits _ (List.mem_singleton_self _)).oneText
  have holds : SchemaKind.string.holds (knots.resolve datum) = true := by rw [stands]; rfl
  exact tied.isLoose_of_resolve (isLoose_of_holds holds ⟨nofun, nofun⟩)

/-- A schema for lists of what such a schema admits. -/
theorem unties_of_items (lists : Rule.kind [.array] ∈ rules) (each : Rule.items schema ∈ rules)
    (unties : schema.Unties) : (ofRules rules).Unties := by
  intro knots datum tied admits
  rw [admits_ofRules_iff] at admits
  obtain ⟨kind, member, holds⟩ := Rule.admits_kind_iff.mp (admits _ lists)
  obtain rfl := List.mem_singleton.mp member
  refine tied.isLoose_of_resolve fun number met => ?_
  have follow := fun items (stands : knots.resolve datum = .list items) =>
    (admits _ each).each_item stands
  generalize knots.resolve datum = stood at holds met follow
  cases met with
  | item listed met => exact unties knots _ tied (follow _ rfl _ listed) number met
  | self | within | part | value => cases holds

/-- A schema for mappings of anything to what such a schema admits. -/
theorem unties_of_values (maps : Rule.kind [.object] ∈ rules) (each : Rule.values schema ∈ rules)
    (unties : schema.Unties) : (ofRules rules).Unties := by
  intro knots datum tied admits
  rw [admits_ofRules_iff] at admits
  obtain ⟨kind, member, holds⟩ := Rule.admits_kind_iff.mp (admits _ maps)
  obtain rfl := List.mem_singleton.mp member
  refine tied.isLoose_of_resolve fun number met => ?_
  have follow := fun entries (stands : knots.resolve datum = .mapping entries) =>
    (admits _ each).each_value stands
  generalize knots.resolve datum = stood at holds met follow
  cases met with
  | value first met =>
    exact unties knots _ tied (follow _ rfl _ (List.mem_append_right _ List.mem_cons_self)) number met
  | self | within | part | item => cases holds

/-- A schema for what one of such schemas admits. -/
theorem unties_oneSchema (unties : ∀ schema ∈ schemas, schema.Unties) :
    (ofRules [.oneSchema schemas]).Unties := by
  intro knots datum tied admits
  obtain ⟨schema, listed, own⟩ :=
    (admits_ofRules_iff.mp admits _ (List.mem_singleton_self _)).oneSchema
  exact unties schema listed knots datum tied own

/-- A schema for records of what such schemas admit. -/
theorem unties_closedRecord (unties : ∀ member ∈ known, member.2.Unties) :
    (closedRecord names known).Unties := by
  intro knots datum tied admits
  rw [closedRecord, admits_ofRules_iff] at admits
  simp only [List.forall_mem_cons] at admits
  obtain ⟨record, -, closed, properties, -⟩ := admits
  obtain ⟨kind, member, holds⟩ := Rule.admits_kind_iff.mp record
  obtain rfl := List.mem_singleton.mp member
  refine tied.isLoose_of_resolve fun number met => ?_
  have keys := fun entries (stands : knots.resolve datum = .mapping entries) => closed.closed stands
  have follow := fun entries (stands : knots.resolve datum = .mapping entries) =>
    properties.properties stands
  generalize knots.resolve datum = stood at holds met keys follow
  cases met with
  | @value before after key value first met =>
    -- The key is a known one, and what is found under it is the value.
    obtain ⟨name, listed, rfl⟩ := keys _ rfl (key, value) (List.mem_append_right _ List.mem_cons_self)
    obtain ⟨entry, expected, rfl⟩ := List.mem_map.mp listed
    have found : Datum.get? entry.1 (before ++ (.text entry.1, value) :: after) = some value := by
      have skipped : before.find? (fun earlier => Datum.sameKey earlier.1 (.text entry.1)) = none :=
        List.find?_eq_none.mpr fun earlier listed => by rw [first earlier listed]; exact Bool.false_ne_true
      have same : Datum.sameKey (.text entry.1) (.text entry.1) = true := beq_self_eq_true entry.1
      rw [Datum.get?, List.find?_append, skipped, Option.none_or, List.find?_cons]
      simp only [same, Option.map_some]
    exact unties entry expected knots value tied (follow _ rfl entry expected value found) number met
  | self | within | part | item => cases holds

end Schema

namespace Settings

/-- A datum of kinds that hold no others contains nothing that contains itself. -/
theorem unties_scalar {kinds : List SchemaKind} {rules : List Rule}
    (scalar : ∀ kind ∈ kinds, kind ≠ .object ∧ kind ≠ .array) :
    (ofRules (.kind kinds :: rules)).Unties :=
  unties_of_kinds List.mem_cons_self scalar

/-- A list of texts contains nothing that contains itself. -/
theorem unties_textList : textList.Unties :=
  unties_of_items List.mem_cons_self (List.mem_cons_of_mem _ List.mem_cons_self)
    (unties_scalar (by decide))

/-- The compiler's part of a configuration contains nothing that contains itself. -/
theorem unties_compilerSchema : compilerSchema.Unties := by
  refine unties_closedRecord ?_
  simp only [List.forall_mem_cons, List.not_mem_nil, false_implies, implies_true, and_true]
  refine ⟨unties_scalar (by decide), unties_oneSchema ?_, unties_scalar (by decide), unties_textList,
    unties_textList, unties_scalar (by decide), unties_oneText _, unties_scalar (by decide),
    unties_scalar (by decide), ?_, unties_scalar (by decide)⟩
  · rw [List.forall_mem_cons, List.forall_mem_singleton]
    exact ⟨unties_scalar (by decide), unties_textList⟩
  · exact unties_of_values List.mem_cons_self (List.mem_cons_of_mem _ List.mem_cons_self)
      (unties_scalar (by decide))

/-- A configuration that follows the schema contains nothing that contains itself. -/
theorem unties_schema : Settings.schema.Unties := by
  refine unties_closedRecord ?_
  simp only [List.forall_mem_cons, List.not_mem_nil, false_implies, implies_true, and_true]
  refine ⟨unties_compilerSchema, unties_scalar (by decide), unties_scalar (by decide), ?_,
    unties_textList, unties_closedRecord ?_⟩
  · exact unties_of_items List.mem_cons_self (List.mem_cons_of_mem _ List.mem_cons_self)
      (unties_scalar (by decide))
  · simp only [List.forall_mem_cons, List.not_mem_nil, false_implies, implies_true, and_true]
    exact ⟨unties_scalar (by decide), unties_scalar (by decide), unties_scalar (by decide)⟩

end Settings

end NegativeCompile
