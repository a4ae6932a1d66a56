import Mathlib.Data.List.Basic
import NegativeCompile.Proofs.Diagnostic.Rendered
import NegativeCompile.Proofs.Schema.Slots
import NegativeCompile.Schema

/-! # Violations that can be shown

A datum is short if no whole number in it has more digits than are shown, and the items of every list
in it can be numbered by such numbers (`Datum.IsShort`). The violations of any schema in a short datum
can be listed, and each one of them can be shown (`Schema.listed_violations`). -/

namespace NegativeCompile

open Text

/-! ## Short data -/

namespace Datum

mutual

/-- Whether a list in a datum has more items than numbers that are shown can number. -/
def hasLongList : Datum → Bool
  | .list items => isLong items.length || anyHasLongList items
  | .mapping entries => anyEntryHasLongList entries
  | _ => false

/-- Whether a list in one of some data has too many items. -/
def anyHasLongList : List Datum → Bool
  | [] => false
  | item :: rest => hasLongList item || anyHasLongList rest

/-- Whether a list in one of some entries has too many items. -/
def anyEntryHasLongList : List (Datum × Datum) → Bool
  | [] => false
  | (key, value) :: rest => hasLongList key || hasLongList value || anyEntryHasLongList rest

end

/-- No number and no list in a datum is too long. -/
structure IsShort (datum : Datum) : Prop where
  /-- All whole numbers can be shown. -/
  numbers : datum.hasLongNumber = false
  /-- All items of lists can be numbered. -/
  lists : datum.hasLongList = false

/-- The items of a short list are short, and their number is. -/
theorem IsShort.of_list {items : List Datum} (short : IsShort (.list items)) :
    isLong items.length = false ∧ ∀ item ∈ items, IsShort item := by
  obtain ⟨numbers, lists⟩ := short
  rw [hasLongList, Bool.or_eq_false_iff] at lists
  rw [hasLongNumber] at numbers
  refine ⟨lists.1, ?_⟩
  have shortLists := lists.2
  clear lists
  induction items with
  | nil => exact fun item member => absurd member List.not_mem_nil
  | cons first rest ih =>
    rw [anyHasLongNumber, Bool.or_eq_false_iff] at numbers
    rw [anyHasLongList, Bool.or_eq_false_iff] at shortLists
    intro item member
    rcases List.mem_cons.mp member with rfl | member
    · exact ⟨numbers.1, shortLists.1⟩
    · exact ih numbers.2 shortLists.2 item member

/-- An item of a short list is short, and its number can be shown. -/
theorem IsShort.of_mem_zipIdx {items : List Datum} {item : Datum × Nat}
    (short : IsShort (.list items)) (member : item ∈ items.zipIdx) :
    IsShort item.1 ∧ hasLongNumber (.integer item.2) = false := by
  obtain ⟨count, each⟩ := short.of_list
  have inside := List.mem_zipIdx_iff_getElem?.mp member
  obtain ⟨within, -⟩ := List.getElem?_eq_some_iff.mp inside
  refine ⟨each item.1 (List.mem_of_getElem? inside), ?_⟩
  rw [hasLongNumber, isLong_eq_false_iff]
  exact within.trans (isLong_eq_false_iff.mp count)

/-- The keys and the values of a short mapping are short. -/
theorem IsShort.of_mapping {entries : List (Datum × Datum)} (short : IsShort (.mapping entries)) :
    ∀ entry ∈ entries, IsShort entry.1 ∧ IsShort entry.2 := by
  obtain ⟨numbers, lists⟩ := short
  rw [hasLongList] at lists
  rw [hasLongNumber] at numbers
  induction entries with
  | nil => exact fun entry member => absurd member List.not_mem_nil
  | cons first rest ih =>
    obtain ⟨key, value⟩ := first
    rw [anyEntryHasLongNumber, Bool.or_eq_false_iff, Bool.or_eq_false_iff] at numbers
    rw [anyEntryHasLongList, Bool.or_eq_false_iff, Bool.or_eq_false_iff] at lists
    intro entry member
    rcases List.mem_cons.mp member with rfl | member
    · exact ⟨⟨numbers.1.1, lists.1.1⟩, ⟨numbers.1.2, lists.1.2⟩⟩
    · exact ih numbers.2 lists.2 entry member

/-- The value of a key of a short mapping is short. -/
theorem IsShort.of_get? {entries : List (Datum × Datum)} {name : String} {value : Datum}
    (short : IsShort (.mapping entries)) (found : get? name entries = some value) :
    IsShort value := by
  obtain ⟨entry, first, rfl⟩ := Option.map_eq_some_iff.mp found
  exact (short.of_mapping entry (List.mem_of_find?_eq_some first)).2

end Datum

/-- No number and no list in a knot is too long. -/
def Knots.IsShort (knots : Knots) : Prop := ∀ knot ∈ knots, knot.2.IsShort

variable {knots : Knots} {datum shown : Datum}

/-- What a short datum is the number of is short. -/
theorem Knots.IsShort.resolve (known : knots.IsShort) (short : datum.IsShort) :
    (knots.resolve datum).IsShort := by
  unfold Knots.resolve
  split
  next number =>
    cases found : knots.lookup number with
    | none => exact ⟨rfl, rfl⟩
    | some content =>
      obtain ⟨before, rest, rfl, -⟩ := List.lookup_eq_some_iff.mp found
      exact known (number, content) (by simp)
  · exact short

/-- A short datum can be shown among short knots. -/
theorem Knots.IsShort.exists_written? (known : knots.IsShort) (short : datum.IsShort) :
    ∃ text, knots.written? datum = some text := by
  have others : (knots.any fun knot => knot.2.hasLongNumber) = false := by
    rw [List.any_eq_false]
    exact fun knot member => by rw [(known knot member).numbers]; exact Bool.false_ne_true
  unfold Knots.written?
  rw [short.numbers, others]
  exact ⟨_, rfl⟩

/-! ## Violations -/

namespace Schema

/-- Violations are listed, and the way to each one of them can be shown. -/
def Listed (found : Option (List Violation)) : Prop :=
  ∃ violations, found = some violations ∧
    ∀ violation ∈ violations, ∀ step ∈ violation.path, step.hasLongNumber = false

/-- No violations are listed. -/
theorem Listed.none : Listed (some []) :=
  ⟨[], rfl, fun _ member => absurd member List.not_mem_nil⟩

/-- A violation at the datum itself is listed. -/
theorem Listed.here (message : String) : Listed (some (Schema.here message)) := by
  refine ⟨_, rfl, fun violation member step on => ?_⟩
  rw [List.mem_singleton.mp member] at on
  cases on

/-- Violations are listed on a condition if they are on either side. -/
theorem Listed.ite {condition : Prop} [Decidable condition] {first second : Option (List Violation)}
    (one : Listed first) (other : Listed second) : Listed (if condition then first else second) := by
  split
  · exact one
  · exact other

/-- Violations are listed one after another. -/
theorem Listed.append {first second : Option (List Violation)} (one : Listed first)
    (other : Listed second) : Listed (do return (← first) ++ (← second)) := by
  obtain ⟨earlier, rfl, plain⟩ := one
  obtain ⟨later, rfl, plain'⟩ := other
  refine ⟨earlier ++ later, rfl, fun violation member => ?_⟩
  rcases List.mem_append.mp member with before | after
  · exact plain violation before
  · exact plain' violation after

/-- Violations are listed as seen from what holds the datum. -/
theorem Listed.under {found : Option (List Violation)} {step : Datum} (listed : Listed found)
    (short : step.hasLongNumber = false) :
    Listed (do return (← found).map (·.under step)) := by
  obtain ⟨violations, rfl, plain⟩ := listed
  refine ⟨_, rfl, fun violation member other on => ?_⟩
  obtain ⟨inner, within, rfl⟩ := List.mem_map.mp member
  unfold Violation.under at on
  split at on
  · exact plain inner within other on
  · rcases List.mem_cons.mp on with rfl | later
    · exact short
    · exact plain inner within other later

/-- The violations of each of several data are listed together. -/
theorem Listed.flatten {α : Type} {items : List α} {find : α → Option (List Violation)}
    (each : ∀ item ∈ items, Listed (find item)) :
    Listed (do return (← items.mapM find).flatten) := by
  induction items with
  | nil => exact Listed.none
  | cons item rest ih =>
    obtain ⟨here, one, plain⟩ := each item List.mem_cons_self
    obtain ⟨others, more, plain'⟩ := ih fun other member => each other (List.mem_cons_of_mem _ member)
    obtain ⟨lists, done, equal⟩ := Option.bind_eq_some_iff.mp more
    obtain rfl := Option.some.inj equal
    refine ⟨here ++ lists.flatten, ?_, fun violation member => ?_⟩
    · rw [List.mapM_cons, one]
      simp [done]
    · rcases List.mem_append.mp member with before | after
      · exact plain violation before
      · exact plain' violation after

/-- A violation that a short datum is can be listed. -/
theorem listed_shownWith (known : knots.IsShort) (short : datum.IsShort) (tail : String) :
    Listed (shownWith knots datum tail) := by
  obtain ⟨text, written⟩ := known.exists_written? short
  unfold shownWith
  rw [written]
  exact Listed.here _

/-- A violation that short keys too many are can be listed. -/
theorem listed_unexpected {keys : List Datum} (short : ∀ key ∈ keys, key.IsShort) :
    Listed (unexpected keys) := by
  have numbers : keys.any (·.hasLongNumber) = false := by
    rw [List.any_eq_false]
    exact fun key member => by rw [(short key member).numbers]; exact Bool.false_ne_true
  unfold unexpected
  rw [numbers]
  exact Listed.here _

/-- Entries with keys too many are entries. -/
theorem mem_of_mem_extraEntries {names : List String} {entries : List (Datum × Datum)}
    {entry : Datum × Datum} (extra : entry ∈ extraEntries names entries) : entry ∈ entries :=
  List.mem_of_mem_filter (SlotTable.mem_inOrder_iff.mp extra)

mutual

/-- The violations of a schema in a short datum can be listed and shown. -/
theorem listed_violations (known : knots.IsShort) (schema : Schema) (datum : Datum)
    (short : datum.IsShort) : Listed (violations knots schema datum) := by
  cases schema with
  | ofRules rules =>
    rw [violations]
    exact listed_violationsOfAll known rules datum short

/-- The violations of some rules in a short datum can be listed and shown. -/
theorem listed_violationsOfAll (known : knots.IsShort) (rules : List Rule) (datum : Datum)
    (short : datum.IsShort) : Listed (violationsOfAll knots rules datum) := by
  cases rules with
  | nil =>
    rw [violationsOfAll]
    exact Listed.none
  | cons rule rest =>
    rw [violationsOfAll]
    exact (listed_violationsOf known rule datum _ short (known.resolve short)).append
      (listed_violationsOfAll known rest datum short)

/-- The violations of a rule in a short datum can be listed and shown. -/
theorem listed_violationsOf (known : knots.IsShort) (rule : Rule) (shown datum : Datum)
    (short : shown.IsShort) (real : datum.IsShort) :
    Listed (violationsOf knots rule shown datum) := by
  -- The rules in the order in which they are checked; a datum that is not what a rule is about has no
  -- violations of it.
  unfold violationsOf
  split
  next kinds => exact .ite .none (listed_shownWith known short _)
  next names entries =>
    refine ⟨_, rfl, fun violation member => ?_⟩
    obtain ⟨name, -, within⟩ := List.mem_flatMap.mp member
    split at within
    · exact absurd within List.not_mem_nil
    · rw [List.mem_singleton.mp within]
      exact fun step on => absurd on List.not_mem_nil
  next names entries =>
    split
    · exact Listed.none
    · refine listed_unexpected fun key member => ?_
      obtain ⟨entry, extra, rfl⟩ := List.mem_map.mp member
      exact (real.of_mapping entry (mem_of_mem_extraEntries extra)).1
  next schema entries =>
    refine Listed.flatten fun entry extra => ?_
    obtain ⟨key, value⟩ := real.of_mapping entry (mem_of_mem_extraEntries extra)
    exact (listed_violations known schema entry.2 value).under key.numbers
  next members entries => exact listed_violationsOfMembers known members entries real
  next schema items =>
    refine Listed.flatten fun item member => ?_
    have inner := listed_violations known schema item.1 (real.of_mem_zipIdx member).1
    exact inner.under (real.of_mem_zipIdx member).2
  next value =>
    split
    · exact Listed.here _
    · exact Listed.none
  next items =>
    split
    · exact Listed.here _
    · exact Listed.none
  next bound => exact .ite (listed_shownWith known short _) .none
  next bound => exact .ite (listed_shownWith known short _) .none
  next texts => exact .ite .none (listed_shownWith known short _)
  next schemas =>
    obtain ⟨answer, follows⟩ := exists_followsSome known schemas shown short
    rw [follows]
    cases answer with
    | true => exact Listed.none
    | false => exact listed_shownWith known short _
  · exact Listed.none

/-- The violations of the schemas for some keys of a short mapping can be listed and shown. -/
theorem listed_violationsOfMembers (known : knots.IsShort) (members : List (String × Schema))
    (entries : List (Datum × Datum)) (short : Datum.IsShort (.mapping entries)) :
    Listed (violationsOfMembers knots members entries) := by
  cases members with
  | nil =>
    rw [violationsOfMembers]
    exact Listed.none
  | cons member rest =>
    obtain ⟨name, schema⟩ := member
    rw [violationsOfMembers]
    have others := listed_violationsOfMembers known rest entries short
    cases found : Datum.get? name entries with
    | none => exact Listed.none.append others
    | some value =>
      have inner := listed_violations known schema value (short.of_get? found)
      have outer : Listed (do return (← violations knots schema value).map (·.under (.text name))) :=
        inner.under rfl
      simpa only [bind_assoc, pure_bind] using outer.append others

/-- It can be told whether a short datum follows one of some schemas. -/
theorem exists_followsSome (known : knots.IsShort) (schemas : List Schema) (datum : Datum)
    (short : datum.IsShort) : ∃ answer, followsSome knots schemas datum = some answer := by
  cases schemas with
  | nil => exact ⟨false, by rw [followsSome]⟩
  | cons schema rest =>
    obtain ⟨found, listed, -⟩ := listed_violations known schema datum short
    obtain ⟨later, answer⟩ := exists_followsSome known rest datum short
    rw [followsSome, listed]
    cases found with
    | nil => exact ⟨true, rfl⟩
    | cons first more => exact ⟨later, answer⟩

end

end Schema

end NegativeCompile
