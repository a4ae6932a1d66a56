import Mathlib.Data.List.Forall2
import Mathlib.Data.List.Nodup

/-! # Lists

What tables and lists in step with each other have in common with their parts. -/

namespace List

variable {α β : Type}

/-! ## Tables -/

section Tables

variable [BEq α] [LawfulBEq α] {table other : List (α × β)} {key : α} {value : β}

/-- What is found in a table stands in it. -/
theorem mem_of_lookup_eq_some (found : table.lookup key = some value) : (key, value) ∈ table := by
  obtain ⟨before, rest, rfl, -⟩ := lookup_eq_some_iff.mp found
  exact mem_append_right before mem_cons_self

/-- A key that stands in a table is found. -/
theorem exists_lookup_of_mem (member : key ∈ table.map Prod.fst) :
    ∃ value, table.lookup key = some value := by
  obtain ⟨entry, stands, rfl⟩ := mem_map.mp member
  rw [← Option.isSome_iff_exists, lookup_isSome_iff]
  exact ⟨entry, stands, beq_self_eq_true _⟩

/-- A key that does not stand in a table is not found. -/
theorem lookup_eq_none_of_notMem (missing : key ∉ table.map Prod.fst) :
    table.lookup key = none := by
  rw [lookup_eq_none_iff]
  intro entry member
  have differs : key ≠ entry.1 := fun same => missing (same ▸ mem_map_of_mem member)
  simpa using differs

/-- In a table with distinct keys what stands in it is found. -/
theorem lookup_eq_some_of_mem (distinct : (table.map Prod.fst).Nodup)
    (member : (key, value) ∈ table) : table.lookup key = some value := by
  obtain ⟨found, present⟩ := exists_lookup_of_mem (mem_map_of_mem (f := Prod.fst) member)
  have equal := inj_on_of_nodup_map distinct (mem_of_lookup_eq_some present) member rfl
  rw [present, (Prod.mk.inj equal).2]

/-- The order of a table with distinct keys does not matter. -/
theorem Perm.lookup_eq (same : table.Perm other) (distinct : (table.map Prod.fst).Nodup) :
    table.lookup key = other.lookup key := by
  have apart : (other.map Prod.fst).Nodup := (same.map Prod.fst).nodup distinct
  cases found : other.lookup key with
  | some value =>
    exact lookup_eq_some_of_mem distinct (same.symm.subset (mem_of_lookup_eq_some found))
  | none =>
    refine lookup_eq_none_of_notMem fun member => ?_
    obtain ⟨value, present⟩ := exists_lookup_of_mem ((same.map Prod.fst).subset member)
    rw [found] at present
    cases present

end Tables

/-- The only member that passes a test is found. -/
theorem find?_eq_some_of_unique {list : List α} {test : α → Bool} {value : α}
    (member : value ∈ list) (passes : test value = true)
    (unique : ∀ other ∈ list, test other = true → other = value) : list.find? test = some value := by
  cases found : list.find? test with
  | none => exact absurd passes (find?_eq_none.mp found value member)
  | some other => rw [unique other (mem_of_find?_eq_some found) (find?_some found)]

/-! ## Lists in step -/

/-- What stands in the second list is related to something that stands in the first one. -/
theorem Forall₂.exists_of_mem_right {related : α → β → Prop} {firsts : List α} {seconds : List β}
    (all : Forall₂ related firsts seconds) {second : β} (member : second ∈ seconds) :
    ∃ first ∈ firsts, related first second := by
  induction all with
  | nil => cases member
  | cons head tail ih =>
    rcases List.mem_cons.mp member with rfl | member
    · exact ⟨_, List.mem_cons_self, head⟩
    · obtain ⟨first, before, holds⟩ := ih member
      exact ⟨first, List.mem_cons_of_mem _ before, holds⟩

/-- What stands in the first list is related to something that stands in the second one. -/
theorem Forall₂.exists_of_mem_left {related : α → β → Prop} {firsts : List α} {seconds : List β}
    (all : Forall₂ related firsts seconds) {first : α} (member : first ∈ firsts) :
    ∃ second ∈ seconds, related first second :=
  all.flip.exists_of_mem_right member

/-- What holds of all members of one of two lists in step corresponds to what holds of all members of
the other one. -/
theorem Forall₂.forall_mem_iff {related : α → β → Prop} {before : α → Prop} {after : β → Prop}
    {firsts : List α} {seconds : List β} (all : Forall₂ related firsts seconds)
    (agree : ∀ first ∈ firsts, ∀ second, related first second → (after second ↔ before first)) :
    (∀ second ∈ seconds, after second) ↔ ∀ first ∈ firsts, before first := by
  constructor
  · intro each first member
    obtain ⟨second, also, pair⟩ := all.exists_of_mem_left member
    exact (agree first member second pair).mp (each second also)
  · intro each second member
    obtain ⟨first, also, pair⟩ := all.exists_of_mem_right member
    exact (agree first also second pair).mpr (each first also)

/-- What holds of some member of one of two lists in step corresponds to what holds of some member of
the other one. -/
theorem Forall₂.exists_mem_iff {related : α → β → Prop} {before : α → Prop} {after : β → Prop}
    {firsts : List α} {seconds : List β} (all : Forall₂ related firsts seconds)
    (agree : ∀ first ∈ firsts, ∀ second, related first second → (after second ↔ before first)) :
    (∃ second ∈ seconds, after second) ↔ ∃ first ∈ firsts, before first := by
  constructor
  · rintro ⟨second, member, holds⟩
    obtain ⟨first, also, pair⟩ := all.exists_of_mem_right member
    exact ⟨first, also, (agree first also second pair).mp holds⟩
  · rintro ⟨first, member, holds⟩
    obtain ⟨second, also, pair⟩ := all.exists_of_mem_left member
    exact ⟨second, also, (agree first member second pair).mpr holds⟩

/-- Lists in step stay so if, for members of the first one, what relates them implies something
else. -/
theorem Forall₂.imp_of_mem {related other : α → β → Prop} {firsts : List α} {seconds : List β}
    (all : Forall₂ related firsts seconds)
    (implies : ∀ first ∈ firsts, ∀ second, related first second → other first second) :
    Forall₂ other firsts seconds := by
  induction all with
  | nil => exact .nil
  | cons head _ ih =>
    refine .cons (implies _ mem_cons_self _ head) (ih fun first member => ?_)
    exact implies first (mem_cons_of_mem _ member)

/-- Relations that agree on members of the first list keep the same lists in step. -/
theorem forall₂_congr_of_mem {related other : α → β → Prop} {firsts : List α} {seconds : List β}
    (agree : ∀ first ∈ firsts, ∀ second, related first second ↔ other first second) :
    Forall₂ related firsts seconds ↔ Forall₂ other firsts seconds :=
  ⟨fun all => all.imp_of_mem fun first member second => (agree first member second).mp,
    fun all => all.imp_of_mem fun first member second => (agree first member second).mpr⟩

/-- If each member of a list is related to something, some list is in step with it. -/
theorem exists_forall₂ {related : α → β → Prop} {firsts : List α}
    (each : ∀ first ∈ firsts, ∃ second, related first second) :
    ∃ seconds, Forall₂ related firsts seconds := by
  induction firsts with
  | nil => exact ⟨[], .nil⟩
  | cons first rest ih =>
    obtain ⟨second, holds⟩ := each first mem_cons_self
    obtain ⟨seconds, others⟩ := ih fun member present => each member (mem_cons_of_mem first present)
    exact ⟨second :: seconds, .cons holds others⟩

/-- Lists in step stay so if what is related passes tests in step. -/
theorem Forall₂.filter_of_agree {related : α → β → Prop} {firsts : List α} {seconds : List β}
    {test : α → Bool} {other : β → Bool} (all : Forall₂ related firsts seconds)
    (agree : ∀ first second, related first second → test first = other second) :
    Forall₂ related (firsts.filter test) (seconds.filter other) := by
  induction all with
  | nil => exact .nil
  | @cons first second _ _ head _ ih =>
    rw [filter_cons, filter_cons, agree first second head]
    by_cases passes : other second = true
    · rw [if_pos passes, if_pos passes]
      exact .cons head ih
    · rw [if_neg passes, if_neg passes]
      exact ih

/-- Two lists in step with a third one are in step with each other. -/
theorem Forall₂.of_common {γ : Type} {related : α → β → Prop} {other : α → γ → Prop}
    {both : β → γ → Prop} {firsts : List α} {seconds : List β} {thirds : List γ}
    (all : Forall₂ related firsts seconds) (also : Forall₂ other firsts thirds)
    (agree : ∀ first ∈ firsts, ∀ second third, related first second → other first third →
      both second third) : Forall₂ both seconds thirds := by
  induction all generalizing thirds with
  | nil =>
    cases also
    exact .nil
  | @cons first second _ _ head _ ih =>
    cases also with
    | @cons _ third _ _ head' tail' =>
      refine .cons (agree first mem_cons_self second third head head') (ih tail' ?_)
      exact fun next member => agree next (mem_cons_of_mem _ member)

/-- What is the same of things in step is the same list. -/
theorem Forall₂.map_eq_map {γ : Type} {view : α → γ} {sight : β → γ} {firsts : List α}
    {seconds : List β} (all : Forall₂ (fun first second => view first = sight second) firsts seconds) :
    firsts.map view = seconds.map sight := by
  rwa [← forall₂_eq_eq_eq, forall₂_map_left_iff, forall₂_map_right_iff]

/-- Things of which the same is the same list are in step. -/
theorem forall₂_of_map_eq_map {γ : Type} {view : α → γ} {sight : β → γ} {firsts : List α}
    {seconds : List β} (same : firsts.map view = seconds.map sight) :
    Forall₂ (fun first second => view first = sight second) firsts seconds := by
  rwa [← forall₂_eq_eq_eq, forall₂_map_left_iff, forall₂_map_right_iff] at same

end List
