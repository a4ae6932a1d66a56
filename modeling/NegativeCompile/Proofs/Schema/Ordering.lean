import NegativeCompile.Proofs.Except
import NegativeCompile.Proofs.Schema.Showing

/-! # Violations that can be sorted

Violations are sorted by the ways to them, which have to be comparable step by step
(`Violation.Orderly`). Then sorting gives some of the violations, in whatever order
(`Violation.Orderly.exists_sort`). The violations of a record are orderly if those of its members are
(`Schema.Orders.closedRecord`). -/

namespace NegativeCompile

/-! ## Sorting -/

namespace Violation

variable {violations sorted run rest : List Violation} {violation last first : Violation}

/-- Any two of some violations can be compared. -/
def Orderly (violations : List Violation) : Prop :=
  ∀ violation ∈ violations, ∀ other ∈ violations,
    ∃ before, pathBefore violation.path other.path = .ok before

/-- Fewer violations can be compared all the more. -/
theorem Orderly.mono (orderly : Orderly violations) (fewer : sorted ⊆ violations) :
    Orderly sorted :=
  fun violation member other also => orderly violation (fewer member) other (fewer also)

/-- A run of comparable violations ends somewhere, and nothing is added. -/
theorem Orderly.exists_runFrom (orderly : Orderly violations) (isDescending : Bool)
    (listed : last ∈ violations) (known : run ⊆ violations) (left : rest ⊆ violations) :
    ∃ found others, runFrom isDescending last run rest = .ok (found, others) ∧
      found ⊆ violations ∧ others ⊆ violations := by
  induction rest generalizing last run with
  | nil => exact ⟨run, [], rfl, known, List.nil_subset _⟩
  | cons next more ih =>
    obtain ⟨member, further⟩ := List.cons_subset.mp left
    obtain ⟨before, compared⟩ := orderly next member last listed
    rw [runFrom, compared, Except.ok_bind]
    split
    · exact ih member (List.cons_subset.mpr ⟨member, known⟩) further
    · exact ⟨run, next :: more, rfl, known, left⟩

/-- Comparable violations start with a run. -/
theorem Orderly.exists_firstRun (orderly : Orderly violations) :
    ∃ found others, firstRun violations = .ok (found, others) ∧
      found ⊆ violations ∧ others ⊆ violations := by
  match violations with
  | [] => exact ⟨[], [], rfl, List.nil_subset _, List.nil_subset _⟩
  | [single] => exact ⟨[single], [], rfl, List.Subset.refl _, List.nil_subset _⟩
  | first :: second :: rest =>
    obtain ⟨descends, compared⟩ := orderly second (by simp) first (by simp)
    have listed : second ∈ first :: second :: rest := by simp
    have begun : [second, first] ⊆ first :: second :: rest := by simp
    have left : rest ⊆ first :: second :: rest := by simp
    obtain ⟨found, others, ran, known, left⟩ := orderly.exists_runFrom descends listed begun left
    rw [firstRun, compared, Except.ok_bind, ran, Except.ok_bind]
    refine ⟨_, others, rfl, ?_, left⟩
    split
    · exact known
    · exact fun violation member => known (List.mem_reverse.mp member)

/-- A violation has a place among others with which it can be compared. -/
theorem exists_placeAmong {sorted : Array Violation} {high : Nat} (low : Nat)
    (comparable : ∀ other ∈ sorted, ∃ before, pathBefore violation.path other.path = .ok before)
    (inside : high ≤ sorted.size) : ∃ place, placeAmong sorted violation low high = .ok place := by
  induction low, high using placeAmong.induct with
  | case1 low high open' middle lower upper =>
    have within : middle < sorted.size := by
      have : middle < high := by omega
      omega
    have listed : sorted.getD middle default ∈ sorted := by
      rw [Array.getD, dif_pos within]
      exact Array.getElem_mem within
    obtain ⟨before, compared⟩ := comparable _ listed
    rw [placeAmong, if_pos open']
    dsimp only
    rw [compared, Except.ok_bind]
    split
    · exact lower (by omega)
    · exact upper inside
  | case2 low high closed =>
    rw [placeAmong, if_neg closed]
    exact ⟨low, rfl⟩

/-- Comparable violations can be put among each other one by one. -/
theorem Orderly.exists_insertAll (orderly : Orderly violations) {sorted : Array Violation}
    (known : sorted.toList ⊆ violations) (left : rest ⊆ violations) :
    ∃ all, rest.foldlM insert sorted = .ok all ∧ all.toList ⊆ violations := by
  induction rest generalizing sorted with
  | nil => exact ⟨sorted, rfl, known⟩
  | cons next more ih =>
    obtain ⟨member, further⟩ := List.cons_subset.mp left
    have comparable : ∀ other ∈ sorted, ∃ before, pathBefore next.path other.path = .ok before :=
      fun other listed => orderly next member other (known (Array.mem_toList_iff.mpr listed))
    obtain ⟨place, found⟩ := exists_placeAmong 0 comparable (Nat.le_refl sorted.size)
    have inserted : insert sorted next = .ok (sorted.insertIdxIfInBounds place next) := by
      rw [insert, found, Except.ok_bind]
      rfl
    rw [List.foldlM_cons, inserted, Except.ok_bind]
    refine ih (fun violation listed => ?_) further
    rw [Array.mem_toList_iff, Array.insertIdxIfInBounds] at listed
    split at listed
    · rcases Array.mem_insertIdx.mp listed with rfl | earlier
      · exact member
      · exact known (Array.mem_toList_iff.mpr earlier)
    · exact known (Array.mem_toList_iff.mpr listed)

/-- Comparable violations can be sorted, and nothing is added. -/
theorem Orderly.exists_sort (orderly : Orderly violations) :
    ∃ sorted, sort violations = .ok sorted ∧ sorted ⊆ violations := by
  obtain ⟨run, rest, ran, known, left⟩ := orderly.exists_firstRun
  have begun : run.toArray.toList ⊆ violations := by simpa using known
  obtain ⟨all, inserted, within⟩ := orderly.exists_insertAll begun left
  refine ⟨all.toList, ?_, within⟩
  rw [sort, ran, Except.ok_bind]
  dsimp only
  rw [inserted]
  rfl

/-! ## Comparable violations -/

/-- Violations at the datum itself. -/
def AtRoot (violations : List Violation) : Prop := ∀ violation ∈ violations, violation.path = []

/-- The place of the datum itself comes before any other one. -/
theorem pathBefore_nil (path : List Datum) :
    (∃ before, pathBefore [] path = .ok before) ∧ ∃ before, pathBefore path [] = .ok before := by
  cases path with
  | nil => exact ⟨⟨false, rfl⟩, ⟨false, rfl⟩⟩
  | cons step rest => exact ⟨⟨true, rfl⟩, ⟨false, rfl⟩⟩

/-- Violations at the datum itself can be compared with any others. -/
theorem Orderly.append_atRoot {others : List Violation} (root : AtRoot violations)
    (orderly : Orderly others) : Orderly (violations ++ others) := by
  intro violation member other also
  rcases List.mem_append.mp member with here | there
  · rw [root violation here]
    exact (pathBefore_nil other.path).1
  · rcases List.mem_append.mp also with here | elsewhere
    · rw [root other here]
      exact (pathBefore_nil violation.path).2
    · exact orderly violation there other elsewhere

/-- Violations at the datum itself can be compared. -/
theorem AtRoot.orderly (root : AtRoot violations) : Orderly violations := by
  intro violation member other _
  rw [root violation member]
  exact (pathBefore_nil other.path).1

/-- Comparable violations can be compared with violations at the datum itself, too. -/
theorem Orderly.append_of_atRoot {others : List Violation} (orderly : Orderly violations)
    (root : AtRoot others) : Orderly (violations ++ others) := by
  refine (Orderly.append_atRoot root orderly).mono fun violation member => ?_
  exact List.mem_append.mpr (List.mem_append.mp member).symm

/-- Two steps that are texts can be compared, and the same text leaves it to what follows. -/
theorem pathBefore_text {name other : String} {path rest : List Datum}
    (same : name = other → ∃ before, pathBefore path rest = .ok before) :
    ∃ before, pathBefore (.text name :: path) (.text other :: rest) = .ok before := by
  rw [pathBefore]
  split
  next equal => exact same (by simpa [Datum.sameKey] using equal)
  · exact ⟨_, rfl⟩

/-- Violations below a key that is a text are orderly if they are without it. -/
theorem Orderly.under_text (orderly : Orderly violations) (name : String) :
    Orderly (violations.map (·.under (.text name))) := by
  intro violation member other also
  obtain ⟨origin, inside, rfl⟩ := List.mem_map.mp member
  obtain ⟨origin', inside', rfl⟩ := List.mem_map.mp also
  exact pathBefore_text fun _ => orderly origin inside origin' inside'

/-- Violations at different keys that are texts are orderly if those at each key are. -/
theorem Orderly.append_under_text {others : List Violation} {name : String} {names : List String}
    (orderly : Orderly violations) (later : Orderly others) (missing : name ∉ names)
    (named : ∀ violation ∈ others, ∃ other ∈ names, ∃ rest, violation.path = .text other :: rest) :
    Orderly (violations.map (·.under (.text name)) ++ others) := by
  have apart (first last : List Datum) {other : String} (known : other ∈ names) :
      (∃ before, pathBefore (.text name :: first) (.text other :: last) = .ok before) ∧
        ∃ before, pathBefore (.text other :: last) (.text name :: first) = .ok before := by
    have differ : name ≠ other := fun same => missing (same ▸ known)
    exact ⟨pathBefore_text fun same => absurd same differ,
      pathBefore_text fun same => absurd same.symm differ⟩
  intro violation member other also
  rcases List.mem_append.mp member with first | last
  · rcases List.mem_append.mp also with first' | last'
    · exact orderly.under_text name violation first other first'
    · obtain ⟨origin, -, rfl⟩ := List.mem_map.mp first
      obtain ⟨another, known, tail, path⟩ := named other last'
      rw [path]
      exact (apart origin.path tail known).1
  · rcases List.mem_append.mp also with first' | last'
    · obtain ⟨origin, -, rfl⟩ := List.mem_map.mp first'
      obtain ⟨another, known, tail, path⟩ := named violation last
      rw [path]
      exact (apart origin.path tail known).2
    · exact later violation last other last'

/-- Two steps that are whole numbers can be compared. -/
theorem pathBefore_index (index other : Int) :
    ∃ before, pathBefore [.integer index] [.integer other] = .ok before := by
  rw [pathBefore]
  split
  · exact ⟨false, rfl⟩
  · exact ⟨_, rfl⟩

/-- Any two of some keys can be compared, those that leave no trace apart. -/
def KeysComparable (keys : List Datum) : Prop :=
  ∀ key ∈ keys, ∀ other ∈ keys, key ≠ .nothing → other ≠ .nothing →
    ∃ before, pathBefore [key] [other] = .ok before

/-- Texts can be compared. -/
theorem keysComparable_texts {keys : List Datum} (texts : ∀ key ∈ keys, ∃ name, key = .text name) :
    KeysComparable keys := by
  intro key member other also _ _
  obtain ⟨name, rfl⟩ := texts key member
  obtain ⟨another, rfl⟩ := texts other also
  exact pathBefore_text fun _ => ⟨false, rfl⟩

/-- The way to a violation at a datum, as seen from what holds it. -/
theorem path_under_of_nil (root : violation.path = []) (step : Datum) :
    (violation.under step).path = [] ∧ step = .nothing ∨
      (violation.under step).path = [step] ∧ step ≠ .nothing := by
  unfold under
  split
  · exact .inl ⟨root, rfl⟩
  next traced => exact .inr ⟨congrArg (List.cons step) root, traced⟩

end Violation

/-! ## Violations of schemas -/

namespace Schema

open Violation

variable {knots : Knots} {schema : Schema} {rule : Rule} {rules : List Rule} {datum shown : Datum}
variable {found : List Violation}

/-- What is found in several data is found in one of them. -/
theorem exists_of_mem_flatten {α : Type} {items : List α} {find : α → Option (List Violation)}
    (listed : (do return (← items.mapM find).flatten) = some found) :
    ∀ violation ∈ found, ∃ item ∈ items, ∃ inner, find item = some inner ∧ violation ∈ inner := by
  induction items generalizing found with
  | nil =>
    cases listed
    exact fun violation member => absurd member List.not_mem_nil
  | cons item rest ih =>
    obtain ⟨lists, mapped, equal⟩ := Option.bind_eq_some_iff.mp listed
    obtain rfl := Option.some.inj equal
    rw [List.mapM_cons] at mapped
    obtain ⟨first, here, others⟩ := Option.bind_eq_some_iff.mp mapped
    obtain ⟨later, done, equal⟩ := Option.bind_eq_some_iff.mp others
    obtain rfl := Option.some.inj equal
    intro violation member
    rcases List.mem_append.mp member with before | after
    · exact ⟨item, List.mem_cons_self, first, here, before⟩
    · obtain ⟨other, listed, inner, found, within⟩ := ih (by rw [done]; rfl) violation after
      exact ⟨other, List.mem_cons_of_mem _ listed, inner, found, within⟩

/-- What is found under a step is what is found there. -/
theorem exists_of_mem_under {first : Option (List Violation)} {step : Datum}
    {inner : List Violation} {violation : Violation}
    (listed : (do return (← first).map (·.under step)) = some inner) (member : violation ∈ inner) :
    ∃ within, first = some within ∧ ∃ origin ∈ within, violation = origin.under step := by
  obtain ⟨within, holds, equal⟩ := Option.bind_eq_some_iff.mp listed
  obtain rfl := Option.some.inj equal
  obtain ⟨origin, inside, rfl⟩ := List.mem_map.mp member
  exact ⟨within, holds, origin, inside, rfl⟩

/-- The violations of some rules are those of the first one and those of the others. -/
theorem violationsOfAll_cons (listed : violationsOfAll knots (rule :: rules) datum = some found) :
    ∃ first others, violationsOf knots rule datum (knots.resolve datum) = some first ∧
      violationsOfAll knots rules datum = some others ∧ found = first ++ others := by
  rw [violationsOfAll] at listed
  obtain ⟨first, here, rest⟩ := Option.bind_eq_some_iff.mp listed
  obtain ⟨others, later, equal⟩ := Option.bind_eq_some_iff.mp rest
  exact ⟨first, others, here, later, (Option.some.inj equal).symm⟩

/-! ### Rules that look at the datum itself -/

/-- A violation that is told of a datum is one at the datum itself. -/
theorem atRoot_here (message : String) : AtRoot (here message) := by
  intro violation member
  rw [List.mem_singleton.mp member]

/-- A violation that a datum is stands at the datum itself. -/
theorem atRoot_shownWith {tail : String} (listed : shownWith knots datum tail = some found) :
    AtRoot found := by
  obtain ⟨text, -, equal⟩ := Option.bind_eq_some_iff.mp listed
  obtain rfl := Option.some.inj equal
  exact atRoot_here _

/-- A violation that keys are stands at the mapping itself. -/
theorem atRoot_unexpected {keys : List Datum} (listed : unexpected keys = some found) :
    AtRoot found := by
  unfold unexpected at listed
  cases long : keys.any (·.hasLongNumber) with
  | true =>
    rw [long] at listed
    cases listed
  | false =>
    rw [long] at listed
    obtain rfl := Option.some.inj listed
    exact atRoot_here _

/-- A rule looks at the datum itself and not at what is in it. -/
def looksAtRoot : Rule → Bool
  | .values _ => false
  | .properties _ => false
  | .items _ => false
  | _ => true

/-- What is nothing is there. -/
theorem atRoot_of_none (listed : some [] = some found) : AtRoot found := by
  obtain rfl := Option.some.inj listed
  exact fun _ member => absurd member List.not_mem_nil

/-- What is found on a condition is there if it is so on either side. -/
theorem atRoot_of_ite {condition : Prop} [Decidable condition] {first second : Option (List Violation)}
    (yes : first = some found → AtRoot found) (no : second = some found → AtRoot found)
    (listed : (if condition then first else second) = some found) : AtRoot found := by
  split at listed
  · exact yes listed
  · exact no listed

/-- The violations of a rule that looks at the datum itself are there. -/
theorem atRoot_violationsOf (looks : looksAtRoot rule = true)
    (listed : violationsOf knots rule shown datum = some found) : AtRoot found := by
  -- The rules in the order in which they are checked; a datum that is not what a rule is about has no
  -- violations of it.
  unfold violationsOf at listed
  split at listed
  next kinds => exact atRoot_of_ite atRoot_of_none atRoot_shownWith listed
  next names entries =>
    -- Each key that is missing is missing in the mapping itself.
    obtain rfl := Option.some.inj listed
    intro violation member
    obtain ⟨name, -, within⟩ := List.mem_flatMap.mp member
    split at within
    · exact absurd within List.not_mem_nil
    · exact atRoot_here _ violation within
  next names entries =>
    split at listed
    · exact atRoot_of_none listed
    · exact atRoot_unexpected listed
  next schema entries => cases looks
  next members entries => cases looks
  next schema items => cases looks
  next value =>
    obtain rfl := Option.some.inj listed
    split
    · exact atRoot_here _
    · exact atRoot_of_none rfl
  next items =>
    obtain rfl := Option.some.inj listed
    split
    · exact atRoot_here _
    · exact atRoot_of_none rfl
  next bound => exact atRoot_of_ite atRoot_shownWith atRoot_of_none listed
  next bound => exact atRoot_of_ite atRoot_shownWith atRoot_of_none listed
  next texts => exact atRoot_of_ite atRoot_of_none atRoot_shownWith listed
  next schemas =>
    obtain ⟨answer, -, rest⟩ := Option.bind_eq_some_iff.mp listed
    exact atRoot_of_ite atRoot_of_none atRoot_shownWith rest
  · exact atRoot_of_none listed

/-- The violations of rules that look at the datum itself are there. -/
theorem atRoot_violationsOfAll (look : ∀ rule ∈ rules, looksAtRoot rule = true)
    (listed : violationsOfAll knots rules datum = some found) : AtRoot found := by
  induction rules generalizing found with
  | nil =>
    rw [violationsOfAll] at listed
    cases listed
    exact fun _ member => absurd member List.not_mem_nil
  | cons rule rest ih =>
    obtain ⟨first, others, here, later, rfl⟩ := violationsOfAll_cons listed
    intro violation member
    rcases List.mem_append.mp member with before | after
    · exact atRoot_violationsOf (look rule List.mem_cons_self) here violation before
    · exact ih (fun other also => look other (List.mem_cons_of_mem _ also)) later violation after

/-! ### Rules that look into the datum -/

/-- The violations of rules in a datum are orderly. -/
def RulesOrder (knots : Knots) (rules : List Rule) (datum : Datum) : Prop :=
  ∀ found, violationsOfAll knots rules datum = some found → Orderly found

/-- The violations of a schema in a datum are orderly. -/
def Orders (knots : Knots) (schema : Schema) (datum : Datum) : Prop :=
  ∀ found, violations knots schema datum = some found → Orderly found

/-- The violations of a schema are orderly if those of its rules are. -/
theorem orders_of_rulesOrder (order : RulesOrder knots rules datum) :
    Orders knots (.ofRules rules) datum := by
  intro found listed
  rw [violations] at listed
  exact order found listed

/-- The violations of rules that look at the datum itself are orderly. -/
theorem rulesOrder_of_look (look : ∀ rule ∈ rules, looksAtRoot rule = true) :
    RulesOrder knots rules datum :=
  fun _ listed => (atRoot_violationsOfAll look listed).orderly

/-- A rule that looks at the datum itself may come first. -/
theorem RulesOrder.cons (looks : looksAtRoot rule = true) (order : RulesOrder knots rules datum) :
    RulesOrder knots (rule :: rules) datum := by
  intro found listed
  obtain ⟨first, others, here, later, rfl⟩ := violationsOfAll_cons listed
  exact Orderly.append_atRoot (atRoot_violationsOf looks here) (order others later)

/-- Rules that look at the datum itself may follow another one. -/
theorem rulesOrder_cons_of_look
    (order : ∀ found, violationsOf knots rule datum (knots.resolve datum) = some found →
      Orderly found)
    (look : ∀ rule ∈ rules, looksAtRoot rule = true) : RulesOrder knots (rule :: rules) datum := by
  intro found listed
  obtain ⟨first, others, here, later, rfl⟩ := violationsOfAll_cons listed
  exact (order first here).append_of_atRoot (atRoot_violationsOfAll look later)

/-- The violations of items are orderly if each one is at the item itself. -/
theorem orderly_items {looked : List Rule} (look : ∀ rule ∈ looked, looksAtRoot rule = true)
    (listed : violationsOf knots (.items (.ofRules looked)) shown datum = some found) :
    Orderly found := by
  have each : ∀ violation ∈ found, ∃ index : Nat, violation.path = [.integer index] := by
    intro violation member
    unfold violationsOf at listed
    split at listed <;> try contradiction
    next schema items same =>
      cases same
      obtain ⟨item, -, inner, here, within⟩ := exists_of_mem_flatten listed violation member
      obtain ⟨origins, raised, origin, inside, rfl⟩ := exists_of_mem_under here within
      rw [violations] at raised
      have root := atRoot_violationsOfAll look raised origin inside
      exact ⟨item.2, congrArg (List.cons _) root⟩
    · cases listed
      exact absurd member List.not_mem_nil
  intro violation member other also
  obtain ⟨index, path⟩ := each violation member
  obtain ⟨another, path'⟩ := each other also
  rw [path, path']
  exact pathBefore_index index another

/-- The violations of the values of a mapping are orderly if each one is at the value itself and the
keys can be compared. -/
theorem orderly_values {looked : List Rule} (look : ∀ rule ∈ looked, looksAtRoot rule = true)
    (comparable : ∀ entries, datum = .mapping entries → KeysComparable (entries.map (·.1)))
    (listed : violationsOf knots (.values (.ofRules looked)) shown datum = some found) :
    Orderly found := by
  -- A violation is at the datum or at one of its keys, so two of them are ordered as their keys are.
  have each : ∀ violation ∈ found, violation.path = [] ∨ ∃ entries key, datum = .mapping entries ∧
      key ∈ entries.map (·.1) ∧ violation.path = [key] ∧ key ≠ .nothing := by
    intro violation member
    unfold violationsOf at listed
    split at listed <;> try contradiction
    next schema entries same =>
      cases same
      obtain ⟨entry, extra, inner, here, within⟩ := exists_of_mem_flatten listed violation member
      obtain ⟨origins, raised, origin, inside, rfl⟩ := exists_of_mem_under here within
      rw [violations] at raised
      have root := atRoot_violationsOfAll look raised origin inside
      have key := List.mem_map_of_mem (f := Prod.fst) (mem_of_mem_extraEntries extra)
      rcases path_under_of_nil root entry.1 with ⟨path, -⟩ | ⟨path, traced⟩
      · exact .inl path
      · exact .inr ⟨entries, entry.1, rfl, key, path, traced⟩
    · cases listed
      exact absurd member List.not_mem_nil
  intro violation member other also
  rcases each violation member with path | ⟨entries, key, holds, known, path, traced⟩
  · rw [path]
    exact (pathBefore_nil other.path).1
  · rcases each other also with path' | ⟨entries', key', holds', known', path', traced'⟩
    · rw [path']
      exact (pathBefore_nil violation.path).2
    · obtain rfl := Datum.mapping.inj (holds.symm.trans holds')
      rw [path, path']
      exact comparable entries holds key known key' known' traced traced'

/-- The violations of the members of a mapping are those of the first one, if it is there, and those
of the others. -/
theorem violationsOfMembers_cons {name : String} {members : List (String × Schema)}
    {entries : List (Datum × Datum)}
    (listed : violationsOfMembers knots ((name, schema) :: members) entries = some found) :
    ∃ inner others, (inner = [] ∨
        ∃ value, Datum.get? name entries = some value ∧ violations knots schema value = some inner) ∧
      violationsOfMembers knots members entries = some others ∧
        found = inner.map (·.under (.text name)) ++ others := by
  rw [violationsOfMembers] at listed
  cases holds : Datum.get? name entries with
  | none =>
    simp only [holds, pure_bind] at listed
    obtain ⟨others, later, equal⟩ := Option.bind_eq_some_iff.mp listed
    exact ⟨[], others, .inl rfl, later, (Option.some.inj equal).symm⟩
  | some value =>
    simp only [holds, pure_bind] at listed
    obtain ⟨inner, here, rest⟩ := Option.bind_eq_some_iff.mp listed
    obtain ⟨others, later, equal⟩ := Option.bind_eq_some_iff.mp rest
    exact ⟨inner, others, .inr ⟨value, rfl, here⟩, later, (Option.some.inj equal).symm⟩

/-- The violations of the members of a mapping are orderly if those of each member are. -/
theorem orderly_members {members : List (String × Schema)} {entries : List (Datum × Datum)}
    (distinct : (members.map (·.1)).Nodup)
    (each : ∀ member ∈ members, ∀ value, Datum.get? member.1 entries = some value →
      Orders knots member.2 value)
    (listed : violationsOfMembers knots members entries = some found) :
    Orderly found ∧
      ∀ violation ∈ found, ∃ name ∈ members.map (·.1), ∃ rest, violation.path = .text name :: rest := by
  -- What is found for the first member starts with its name, what is found for others with theirs.
  induction members generalizing found with
  | nil =>
    rw [violationsOfMembers] at listed
    cases listed
    exact ⟨fun _ member => absurd member List.not_mem_nil,
      fun _ member => absurd member List.not_mem_nil⟩
  | cons member rest ih =>
    obtain ⟨name, schema⟩ := member
    obtain ⟨missing, others⟩ := List.nodup_cons.mp distinct
    obtain ⟨inner, later, here, done, rfl⟩ := violationsOfMembers_cons listed
    obtain ⟨orderly, named⟩ := ih others (fun member listed => each member
      (List.mem_cons_of_mem _ listed)) done
    have within : Orderly inner := by
      rcases here with rfl | ⟨value, holds, raised⟩
      · exact fun _ member => absurd member List.not_mem_nil
      · exact each (name, schema) List.mem_cons_self value holds inner raised
    refine ⟨within.append_under_text orderly missing named, fun violation member => ?_⟩
    rcases List.mem_append.mp member with first | last
    · obtain ⟨origin, -, rfl⟩ := List.mem_map.mp first
      exact ⟨name, List.mem_cons_self, origin.path, rfl⟩
    · obtain ⟨another, known, path⟩ := named violation last
      exact ⟨another, List.mem_cons_of_mem _ known, path⟩

/-! ### Common schemas -/

/-- The violations of a list of data are orderly if the rules for an item look at the item itself. -/
theorem Orders.listOf {looked : List Rule} (look : ∀ rule ∈ looked, looksAtRoot rule = true) :
    Orders knots (listOf (.ofRules looked)) datum :=
  orders_of_rulesOrder (.cons rfl (rulesOrder_cons_of_look (fun _ listed => orderly_items look listed)
    fun _ member => absurd member List.not_mem_nil))

/-- The violations of a record without other keys are orderly if those of its members are. -/
theorem Orders.closedRecord {required : List String} {members : List (String × Schema)}
    (distinct : (members.map (·.1)).Nodup)
    (each : ∀ entries, knots.resolve datum = .mapping entries → ∀ member ∈ members,
      ∀ value, Datum.get? member.1 entries = some value → Orders knots member.2 value) :
    Orders knots (closedRecord required members) datum := by
  refine orders_of_rulesOrder (.cons rfl (.cons rfl (.cons rfl (rulesOrder_cons_of_look ?_
    fun _ member => absurd member List.not_mem_nil))))
  intro found listed
  generalize knots.resolve datum = real at each listed
  unfold violationsOf at listed
  split at listed <;> try contradiction
  next others entries same =>
    cases same
    exact (orderly_members distinct (each entries rfl) listed).1
  · cases listed
    exact fun _ member => absurd member List.not_mem_nil

end Schema

end NegativeCompile
