import NegativeCompile.Proofs.Lists
import NegativeCompile.Report.Document

/-! # Following schemas

A document follows a schema if the schema finds no violation in it (`Schema.Follows`). What that means
is said once for each rule that schemas of reports are made of (`Rule.holds_…_iff`), and from this for
records: an object follows the schema of a record if the members that it must have are there and each
member fits (`Schema.follows_record`). -/

namespace NegativeCompile

variable {kinds : List SchemaKind} {names texts : List String} {document : Json} {schema : Schema}
variable {rules : List Rule} {items : List Json} {bound : Int} {known : List (String × Schema)}
variable {members : List (String × Json)} {name text : String}

/-! ## Documents as data -/

namespace Json

/-- Items are data one by one. -/
theorem toData_eq_map (items : List Json) : toData items = items.map toDatum := by
  induction items with
  | nil => rfl
  | cons item rest ih => rw [toData, ih, List.map_cons]

/-- What is found in an object as a datum is what is found in it as a document. -/
theorem get?_toEntries (name : String) (members : List (String × Json)) :
    Datum.get? name (toEntries members) = (members.lookup name).map toDatum := by
  induction members with
  | nil => rfl
  | cons member rest ih =>
    have same : Datum.sameKey (.text member.1) (.text name) = (member.1 == name) := rfl
    rw [toEntries, Datum.get?, List.find?_cons, List.lookup_cons, same, BEq.comm]
    cases name == member.1 with
    | true => rfl
    | false => exact ih

/-- A document does not refer to itself. -/
theorem resolve_toDatum (knots : Knots) (document : Json) :
    knots.resolve document.toDatum = document.toDatum := by
  cases document <;> rfl

end Json

/-! ## Rules -/

/-- A schema finds no violation in a document. -/
def Schema.Follows (schema : Schema) (document : Json) : Prop :=
  schema.violations [] document.toDatum = some []

/-- A rule finds no violation in a document. -/
def Rule.Holds (rule : Rule) (document : Json) : Prop :=
  Schema.violationsOf [] rule document.toDatum document.toDatum = some []

/-- A violation of a datum is one, if the datum can be shown. -/
theorem Schema.shownWith_ne_some_nil (knots : Knots) (datum : Datum) (tail : String) :
    Schema.shownWith knots datum tail ≠ some [] := by
  rw [Schema.shownWith]
  cases knots.written? datum <;> simp [Schema.here]

/-- A document follows a schema just if all of its rules hold. -/
theorem Schema.follows_ofRules_iff :
    (Schema.ofRules rules).Follows document ↔ ∀ rule ∈ rules, rule.Holds document := by
  rw [Schema.Follows, Schema.violations]
  induction rules with
  | nil => simp [Schema.violationsOfAll]
  | cons rule rest ih =>
    rw [Schema.violationsOfAll, Json.resolve_toDatum, List.forall_mem_cons, ← ih, Rule.Holds]
    cases Schema.violationsOf [] rule document.toDatum document.toDatum <;>
      cases Schema.violationsOfAll [] rest document.toDatum <;> simp

namespace Rule

/-- A document is of one of some kinds. -/
theorem holds_kind_iff :
    (kind kinds).Holds document ↔ ∃ one ∈ kinds, one.holds document.toDatum = true := by
  rw [Holds, Schema.violationsOf, ← List.any_eq_true]
  split
  next fits => simp [fits]
  next other => simp [other, Schema.shownWith_ne_some_nil]

/-- A number is at least another one. -/
theorem holds_least_iff :
    (least bound).Holds document ↔ Schema.isBelow document.toDatum bound = false := by
  rw [Holds, Schema.violationsOf]
  split
  next below => simp [below, Schema.shownWith_ne_some_nil]
  next other => simpa using other

/-- A text is one of some texts. -/
theorem holds_oneText_iff : (oneText texts).Holds (.string text) ↔ text ∈ texts := by
  have same : ∀ other, Datum.sameKey (.text text) (.text other) = (text == other) := fun _ => rfl
  rw [Holds, Schema.violationsOf, Json.toDatum]
  simp only [same, List.any_beq]
  split
  next listed => simpa using listed
  next missing => simpa [Schema.shownWith_ne_some_nil] using missing

/-- An object has some members. -/
theorem holds_required_iff :
    (required names).Holds (.object members) ↔ ∀ name ∈ names, name ∈ members.map Prod.fst := by
  rw [Holds, Json.toDatum, Schema.violationsOf, Option.some.injEq, List.flatMap_eq_nil_iff]
  refine forall₂_congr fun name _ => ?_
  simp only [Json.get?_toEntries, Option.isSome_map, List.lookup_isSome_iff]
  split
  next present => simpa using present
  next missing => simpa [Schema.here] using missing

/-- The members of an object follow the schemas for them. -/
theorem holds_properties_iff :
    (properties known).Holds (.object members) ↔
      ∀ entry ∈ known, ∀ value, members.lookup entry.1 = some value → entry.2.Follows value := by
  rw [Holds, Json.toDatum, Schema.violationsOf]
  induction known with
  | nil => simp [Schema.violationsOfMembers]
  | cons entry rest ih =>
    rw [Schema.violationsOfMembers, List.forall_mem_cons, ← ih, Json.get?_toEntries]
    -- What is found for the first name is found before everything else.
    cases members.lookup entry.1 with
    | none => cases Schema.violationsOfMembers [] rest (Json.toEntries members) <;> simp
    | some value =>
      simp only [Option.map_some, Option.some.injEq, forall_eq', Schema.Follows]
      cases entry.2.violations [] value.toDatum <;>
        cases Schema.violationsOfMembers [] rest (Json.toEntries members) <;> simp

/-- Nothing is found in items one after another just if nothing is found in each. -/
theorem flatten_mapM_eq_some_nil_iff {α β : Type} {find : α → Option (List β)} {items : List α} :
    (do return (← items.mapM find).flatten) = some [] ↔ ∀ item ∈ items, find item = some [] := by
  induction items with
  | nil => simp
  | cons item rest ih =>
    rw [List.forall_mem_cons, ← ih, List.mapM_cons]
    cases find item <;> cases rest.mapM find <;> simp

/-- The items of an array follow a schema. -/
theorem holds_items_iff :
    (Rule.items schema).Holds (.array items) ↔ ∀ item ∈ items, schema.Follows item := by
  rw [Holds, Json.toDatum, Json.toData_eq_map, Schema.violationsOf, flatten_mapM_eq_some_nil_iff]
  have unseen : ∀ item : Datum × Nat,
      (do return (← schema.violations [] item.1).map (·.under (.integer item.2))) = some [] ↔
        schema.violations [] item.1 = some [] := by
    intro item
    cases schema.violations [] item.1 <;> simp
  simp only [unseen]
  rw [← List.forall_mem_map (f := Prod.fst) (P := fun datum => schema.violations [] datum = some []),
    List.zipIdx_map_fst, List.forall_mem_map]
  rfl

end Rule

/-! ## Common schemas -/

namespace Schema

/-- A document of a kind. -/
theorem follows_ofKinds_iff :
    (ofKinds kinds).Follows document ↔ ∃ one ∈ kinds, one.holds document.toDatum = true := by
  rw [ofKinds, follows_ofRules_iff, List.forall_mem_singleton, Rule.holds_kind_iff]

/-- A document of one kind. -/
theorem follows_ofKind_iff {kind : SchemaKind} :
    (ofKind kind).Follows document ↔ kind.holds document.toDatum = true := by
  rw [ofKind, follows_ofRules_iff, List.forall_mem_singleton, Rule.holds_kind_iff]
  simp

/-- An array of documents that follow a schema. -/
theorem follows_listOf_iff :
    (listOf schema).Follows (.array items) ↔ ∀ item ∈ items, schema.Follows item := by
  rw [listOf, follows_ofRules_iff, List.forall_mem_cons, List.forall_mem_singleton,
    Rule.holds_kind_iff, Rule.holds_items_iff]
  exact and_iff_right ⟨.array, List.mem_singleton_self _, rfl⟩

/-- A member fits among known ones: there is a schema for it, which its value follows. -/
def Fits (known : List (String × Schema)) (member : String × Json) : Prop :=
  ∃ schema, known.lookup member.1 = some schema ∧ schema.Follows member.2

/-- An object with all required members, each of which fits, follows the schema of a record. -/
theorem follows_record (distinct : (known.map Prod.fst).Nodup)
    (required : ∀ name ∈ names, name ∈ members.map Prod.fst)
    (fit : ∀ member ∈ members, Fits known member) :
    (record names known).Follows (.object members) := by
  rw [record, follows_ofRules_iff]
  simp only [List.forall_mem_cons, List.not_mem_nil, false_implies, implies_true, and_true]
  refine ⟨?_, Rule.holds_required_iff.mpr required, ?_⟩
  · exact Rule.holds_kind_iff.mpr ⟨.object, List.mem_singleton_self _, rfl⟩
  · refine Rule.holds_properties_iff.mpr fun entry listed value found => ?_
    -- Names of known members are distinct, so the schema that fits is that of the entry.
    obtain ⟨schema, expected, follows⟩ := fit _ (List.mem_of_lookup_eq_some found)
    have own : known.lookup entry.1 = some entry.2 := List.lookup_eq_some_of_mem distinct listed
    rw [Option.some.inj (own.symm.trans expected)]
    exact follows

end Schema

end NegativeCompile
