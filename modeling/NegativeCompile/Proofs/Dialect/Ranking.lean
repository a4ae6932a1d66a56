import NegativeCompile.Proofs.Dialect.Bootstrapping
import NegativeCompile.Proofs.Except
import NegativeCompile.Proofs.Lists

/-! # Dialects by priority and age

A dialect that is given to a registry is added unless its name is taken, and then nothing changes
(`Action.perform_registerAll_singleton`). So a registry that was fresh holds those dialects that were
added, with distinct names (`World.giveAll_eq`). They are asked by falling priority and then by age
(`Registry.isRanked_ordered`), and the first one that detects a text reads it
(`Registry.select_eq_ok_iff`). If no two priorities are the same, the order in which dialects were given
does not matter. All of this is put together in `World.ranked_of_calls`. -/

namespace NegativeCompile

/-! ## The order in which dialects are asked -/

/-- Some dialects are ranked: they are others in the order of falling priority, and those of the same
priority are in the order in which they were. -/
structure IsRanked (ranked dialects : List Dialect) : Prop where
  /-- They are the same dialects. -/
  perm : ranked.Perm dialects
  /-- Priorities do not rise. -/
  falling : ranked.Pairwise fun first second => second.priority ≤ first.priority
  /-- Dialects of one priority keep their order. -/
  aged : ∀ priority, ranked.filter (·.priority = priority) = dialects.filter (·.priority = priority)

namespace Registry

variable {registry other : Registry} {dialects : List Dialect} {dialect : Dialect} {text : String}
variable {failure : Failure}

/-- Priorities that do not rise twice do not rise. -/
theorem falls_trans (first second third : Dialect) (upper : decide (second.priority ≤ first.priority))
    (lower : decide (third.priority ≤ second.priority)) :
    decide (third.priority ≤ first.priority) = true :=
  decide_eq_true (Int.le_trans (of_decide_eq_true lower) (of_decide_eq_true upper))

/-- Of two priorities one does not exceed the other. -/
theorem falls_total (first second : Dialect) :
    (decide (second.priority ≤ first.priority) || decide (first.priority ≤ second.priority)) = true := by
  rw [Bool.or_eq_true, decide_eq_true_eq, decide_eq_true_eq]
  exact Int.le_total _ _

/-- The priorities of dialects in the order in which they are asked do not rise. -/
theorem pairwise_ordered (registry : Registry) :
    registry.ordered.Pairwise fun first second => second.priority ≤ first.priority :=
  (List.pairwise_mergeSort falls_trans falls_total registry.dialects).imp of_decide_eq_true

/-- Dialects of one priority are asked in the order of their registration. -/
theorem filter_ordered (registry : Registry) (priority : Int) :
    registry.ordered.filter (·.priority = priority) =
      registry.dialects.filter (·.priority = priority) := by
  -- Sorting keeps each sublist that is sorted already, and adds nothing to it.
  have kept : (registry.dialects.filter (·.priority = priority)).Sublist registry.ordered := by
    refine List.sublist_mergeSort falls_trans falls_total ?_ List.filter_sublist
    refine List.pairwise_of_forall_mem_list fun first member second also => ?_
    have here : first.priority = priority := by simpa using (List.mem_filter.mp member).2
    have there : second.priority = priority := by simpa using (List.mem_filter.mp also).2
    exact decide_eq_true (Int.le_of_eq (there.trans here.symm))
  have within := kept.filter (·.priority = priority)
  rw [List.filter_filter, List.filter_congr fun _ _ => Bool.and_self _] at within
  refine (within.eq_of_length ?_).symm
  exact ((List.mergeSort_perm registry.dialects _).filter _).length_eq.symm

/-- The dialects of a registry are ranked in the order in which they are asked. -/
theorem isRanked_ordered (registry : Registry) : IsRanked registry.ordered registry.dialects :=
  ⟨List.mergeSort_perm _ _, registry.pairwise_ordered, registry.filter_ordered⟩

/-- Registries with the same dialects ask them in the same order if no two priorities are the same. -/
theorem ordered_eq_of_perm (same : registry.dialects.Perm other.dialects)
    (distinct : (registry.dialects.map (·.priority)).Nodup) : registry.ordered = other.ordered := by
  have both : registry.ordered.Perm other.ordered :=
    (List.mergeSort_perm _ _).trans (same.trans (List.mergeSort_perm _ _).symm)
  refine both.eq_of_pairwise (fun first second here there upper lower => ?_)
    registry.pairwise_ordered other.pairwise_ordered
  have first_mem : first ∈ registry.dialects := List.mem_mergeSort.mp here
  have second_mem : second ∈ registry.dialects := List.mem_mergeSort.mp (both.mem_iff.mpr there)
  exact List.inj_on_of_nodup_map distinct first_mem second_mem (Int.le_antisymm lower upper)

/-! ## The dialect that reads a text -/

/-- A dialect is the first one of some that detects a text. -/
def IsFirst (text : String) (dialects : List Dialect) (dialect : Dialect) : Prop :=
  ∃ before after, dialects = before ++ dialect :: after ∧ dialect.detects text = .ok true ∧
    ∀ earlier ∈ before, earlier.detects text = .ok false

/-- The first of some dialects is the first one that detects a text, if it does. -/
theorem isFirst_cons_iff {first : Dialect} : IsFirst text (first :: dialects) dialect ↔
    (first = dialect ∧ first.detects text = .ok true) ∨
      first.detects text = .ok false ∧ IsFirst text dialects dialect := by
  constructor
  · rintro ⟨before, after, split, detected, undetected⟩
    cases before with
    | nil =>
      obtain ⟨rfl, -⟩ := List.cons.inj split
      exact .inl ⟨rfl, detected⟩
    | cons head before =>
      obtain ⟨rfl, rest⟩ := List.cons.inj split
      exact .inr ⟨undetected _ List.mem_cons_self, before, after, rest, detected,
        fun earlier member => undetected earlier (List.mem_cons_of_mem _ member)⟩
  · rintro (⟨rfl, detected⟩ | ⟨undetected, before, after, rfl, detected, others⟩)
    · exact ⟨[], dialects, rfl, detected, nofun⟩
    · exact ⟨first :: before, after, rfl, detected, List.forall_mem_cons.mpr ⟨undetected, others⟩⟩

/-- The search finds the first dialect that detects a text. -/
theorem firstDetecting_eq_some_iff :
    firstDetecting text dialects = .ok (some dialect) ↔ IsFirst text dialects dialect := by
  induction dialects with
  | nil => simp [firstDetecting, IsFirst]
  | cons first rest ih =>
    rw [firstDetecting, isFirst_cons_iff]
    cases first.detects text with
    | error failure => simp [Except.error_bind]
    | ok answer =>
      rw [Except.ok_bind]
      cases answer with
      | true => simp [pure, Except.pure]
      | false => simp [ih]

/-- The search finds nothing just if no dialect detects a text. -/
theorem firstDetecting_eq_none_iff :
    firstDetecting text dialects = .ok none ↔ ∀ one ∈ dialects, one.detects text = .ok false := by
  induction dialects with
  | nil => simp [firstDetecting]
  | cons first rest ih =>
    rw [firstDetecting, List.forall_mem_cons]
    cases first.detects text with
    | error failure => simp [Except.error_bind]
    | ok answer =>
      rw [Except.ok_bind]
      cases answer with
      | true => simp [pure, Except.pure]
      | false => simp [ih]

/-- The search does not fail if no dialect does. -/
theorem firstDetecting_ne_error (decided : ∀ one ∈ dialects, ∃ answer, one.detects text = .ok answer) :
    firstDetecting text dialects ≠ .error failure := by
  induction dialects with
  | nil => exact nofun
  | cons first rest ih =>
    obtain ⟨⟨answer, asked⟩, others⟩ := List.forall_mem_cons.mp decided
    rw [firstDetecting, asked, Except.ok_bind]
    cases answer with
    | true => exact nofun
    | false => exact ih others

/-- A text is read by the first dialect, in the order in which they are asked, that detects it. -/
theorem select_eq_ok_iff : registry.select text = .ok dialect ↔ IsFirst text registry.ordered dialect := by
  rw [← firstDetecting_eq_some_iff, select]
  cases firstDetecting text registry.ordered with
  | error failure => simp [Except.error_bind]
  | ok found => cases found <;> simp [Except.ok_bind, pure, Except.pure, throw, throwThe,
      MonadExceptOf.throw]

/-- The wording for a text that no dialect detects. -/
def undetected : Failure := .notFound "No annotation dialect accepted the fragment"

/-- If no dialect fails on a text, it is not read just if none of them detects it. -/
theorem select_eq_error_iff
    (decided : ∀ one ∈ registry.dialects, ∃ answer, one.detects text = .ok answer) :
    registry.select text = .error failure ↔
      failure = undetected ∧ ∀ one ∈ registry.dialects, one.detects text = .ok false := by
  have same : ∀ one, one ∈ registry.ordered ↔ one ∈ registry.dialects := fun _ => List.mem_mergeSort
  have asked : ∀ one ∈ registry.ordered, ∃ answer, one.detects text = .ok answer :=
    fun one member => decided one ((same one).mp member)
  have unread : firstDetecting text registry.ordered = .ok none ↔
      ∀ one ∈ registry.dialects, one.detects text = .ok false := by
    simp only [firstDetecting_eq_none_iff, same]
  rw [← unread, select]
  cases found : firstDetecting text registry.ordered with
  | error other => exact absurd found (firstDetecting_ne_error asked)
  | ok answer =>
    rw [Except.ok_bind]
    cases answer with
    | none => simp [undetected, throw, throwThe, MonadExceptOf.throw, eq_comm]
    | some dialect => simp [pure, Except.pure]

end Registry

/-! ## Dialects given one after another -/

/-- A dialect is added unless its name is taken, and then nothing changes. -/
theorem Action.perform_registerAll_singleton (machine : Machine) (world : World) (dialect : Dialect) :
    (registerAll [dialect]).perform machine world =
      if world.registry.dialects.any (·.name = dialect.name) then
        (.error (.senseless s!"Annotation dialect '{dialect.name}' already registered"), world)
      else (.ok (), world.withRegistry (world.registry.extend [dialect])) := by
  rw [registerAll, perform_bind_of_ok perform_get, Registry.register]
  split
  · rw [perform_lift_bind_error]
  · rw [perform_lift_bind_ok]
    rfl

namespace World

variable {machine : Machine} {world : World} {calls first second : List Dialect} {dialect : Dialect}

/-- The world after some dialects were given to its registry one after another, each of which was added
or not. -/
def giveAll (machine : Machine) (world : World) (calls : List Dialect) : World :=
  calls.foldl (fun current dialect => ((Action.registerAll [dialect]).perform machine current).2) world

/-- Those of some dialects that are added when they are given to the registry of a world one after
another. -/
def added (machine : Machine) (world : World) : List Dialect → List Dialect
  | [] => []
  | dialect :: rest =>
    match (Action.registerAll [dialect]).perform machine world with
    | (.ok _, next) => dialect :: added machine next rest
    | (.error _, next) => added machine next rest

/-- A dialect whose name is taken is left out. -/
theorem added_cons_of_takes (taken : world.registry.Takes dialect.name) :
    world.added machine (dialect :: calls) = world.added machine calls := by
  rw [added, Action.perform_registerAll_singleton, if_pos ((Registry.any_name_iff _).mpr taken)]

/-- A dialect whose name is not taken is added. -/
theorem added_cons_of_not_takes (free : ¬ world.registry.Takes dialect.name) :
    world.added machine (dialect :: calls) =
      dialect :: (world.withRegistry (world.registry.extend [dialect])).added machine calls := by
  rw [added, Action.perform_registerAll_singleton, if_neg (mt (Registry.any_name_iff _).mp free)]

/-- After dialects were given to it a registry holds in addition those that were added, in their order. -/
theorem giveAll_eq (machine : Machine) (world : World) (calls : List Dialect) :
    world.giveAll machine calls =
      world.withRegistry (world.registry.extend (world.added machine calls)) := by
  induction calls generalizing world with
  | nil =>
    rw [added, Registry.extend_nil]
    rfl
  | cons dialect rest ih =>
    have step : world.giveAll machine (dialect :: rest) =
        giveAll machine ((Action.registerAll [dialect]).perform machine world).2 rest := rfl
    rw [step, Action.perform_registerAll_singleton]
    by_cases taken : world.registry.Takes dialect.name
    · rw [if_pos ((Registry.any_name_iff _).mpr taken), added_cons_of_takes taken]
      exact ih world
    · rw [if_neg (mt (Registry.any_name_iff _).mp taken), added_cons_of_not_takes taken, ih,
        withRegistry_registry, Registry.extend_extend]
      rfl

/-- Dialects that are new are all added. -/
theorem added_eq_self (new : world.registry.IsNew calls) : world.added machine calls = calls := by
  induction calls generalizing world with
  | nil => rfl
  | cons dialect rest ih =>
    obtain ⟨free, onward⟩ := Registry.isNew_cons_iff.mp new
    rw [added_cons_of_not_takes free, ih]
    exact onward

/-- A registry that was fresh holds the dialects that were added. -/
theorem dialects_giveAll (machine : Machine) (world : World) (calls : List Dialect) :
    ((world.withRegistry .empty).giveAll machine calls).registry.dialects =
      (world.withRegistry .empty).added machine calls := by
  rw [giveAll_eq]
  rfl

/-- Dialects with distinct names that are given to a fresh registry are all in it. -/
theorem dialects_giveAll_of_nodup (machine : Machine) (world : World)
    (distinct : (calls.map (·.name)).Nodup) :
    ((world.withRegistry .empty).giveAll machine calls).registry.dialects = calls := by
  rw [dialects_giveAll]
  refine added_eq_self ⟨distinct, fun one _ taken => ?_⟩
  obtain ⟨held, listed, -⟩ := taken
  exact absurd listed List.not_mem_nil

end World

namespace Ranked

/-- A dialect that detects texts with some character. -/
def marked (name : String) (priority : Int) (mark : Char) : Dialect :=
  ⟨name, priority, fun text => .ok (text.toList.contains mark), fun _ _ => .ok []⟩

/-- Dialects two of which have the same name and two others the same priority. -/
def clashing : List Dialect :=
  [marked "low" 1 'x', marked "first" 5 'y', marked "low" 9 'x', marked "second" 5 'y']

/-- Dialects with distinct names and priorities. -/
def distinct : List Dialect := [marked "low" 1 'x', marked "high" 5 'x']

end Ranked

namespace World

/-- Whatever dialects are given to a fresh registry: one more is refused just if one that was added has
its name, and then nothing changes. Those that were added are asked by falling priority and then by age.
A text on which none of them fails is read by the first one that detects it, and by none just if none
does. If no two names and no two priorities are the same, the order in which the dialects are given does
not matter for what reads a text. -/
theorem ranked_of_calls (machine : Machine) (world : World) (calls : List Dialect) :
    (∀ dialect, ((∃ failure next, (Action.registerAll [dialect]).perform machine
          ((world.withRegistry .empty).giveAll machine calls) = (.error failure, next)) ↔
        ∃ earlier ∈ (world.withRegistry .empty).added machine calls, earlier.name = dialect.name) ∧
      ∀ failure next, (Action.registerAll [dialect]).perform machine
          ((world.withRegistry .empty).giveAll machine calls) = (.error failure, next) →
        (∃ message, failure = .senseless message) ∧
          next = (world.withRegistry .empty).giveAll machine calls) ∧
    IsRanked ((world.withRegistry .empty).giveAll machine calls).registry.ordered
      ((world.withRegistry .empty).added machine calls) ∧
    (∀ text, (∀ dialect ∈ (world.withRegistry .empty).added machine calls,
        ∃ answer, dialect.detects text = .ok answer) →
      (∀ dialect, ((world.withRegistry .empty).giveAll machine calls).registry.select text = .ok dialect ↔
        Registry.IsFirst text ((world.withRegistry .empty).giveAll machine calls).registry.ordered
          dialect) ∧
      ∀ failure, ((world.withRegistry .empty).giveAll machine calls).registry.select text =
          .error failure ↔
        failure = Registry.undetected ∧ ∀ dialect ∈ (world.withRegistry .empty).added machine calls,
          dialect.detects text = .ok false) ∧
    ∀ others, calls.Perm others → (calls.map (·.name)).Nodup → (calls.map (·.priority)).Nodup →
      ∀ text, ((world.withRegistry .empty).giveAll machine others).registry.select text =
        ((world.withRegistry .empty).giveAll machine calls).registry.select text := by
  have held := dialects_giveAll machine world calls
  refine ⟨fun dialect => ?_, ?_, fun text decided => ⟨fun dialect => ?_, fun failure => ?_⟩,
    fun others same names priorities text => ?_⟩
  · -- The name is taken if a dialect that was added has it.
    have taken : ((world.withRegistry .empty).giveAll machine calls).registry.dialects.any
        (·.name = dialect.name) = true ↔
          ∃ earlier ∈ (world.withRegistry .empty).added machine calls, earlier.name = dialect.name := by
      rw [Registry.any_name_iff, Registry.Takes, held]
    rw [Action.perform_registerAll_singleton, ← taken]
    split
    next refused =>
      refine ⟨iff_of_true ⟨_, _, rfl⟩ refused, fun failure next failed => ?_⟩
      obtain ⟨same, rfl⟩ := Prod.mk.inj failed
      exact ⟨⟨_, (Except.error.inj same).symm⟩, rfl⟩
    next added => exact ⟨iff_of_false (by simp) added, by simp⟩
  · rw [← held]
    exact Registry.isRanked_ordered _
  · exact Registry.select_eq_ok_iff
  · rw [← held] at decided ⊢
    exact Registry.select_eq_error_iff decided
  · have distinct : (others.map (·.name)).Nodup := (same.map _).nodup names
    have here := dialects_giveAll_of_nodup machine world names
    have there := dialects_giveAll_of_nodup machine world distinct
    have asked := Registry.ordered_eq_of_perm (here.symm ▸ there.symm ▸ same) (here.symm ▸ priorities)
    rw [Registry.select, Registry.select, asked]

open Retrying Ranked in
/-- The third of the clashing dialects is refused, and the older one of those with the highest priority
reads a text that all of them detect. The distinct dialects can be given the other way round. -/
theorem ranked_of_calls_clashing :
    (∃ failure next, (Action.registerAll [marked "low" 9 'x']).perform (machine "")
      ((world.withRegistry .empty).giveAll (machine "") clashing) = (.error failure, next)) ∧
    (∀ dialect ∈ (world.withRegistry .empty).added (machine "") clashing,
      ∃ answer, dialect.detects "xy" = .ok answer) ∧
    ((world.withRegistry .empty).giveAll (machine "") clashing).registry.select "xy" =
      .ok (marked "first" 5 'y') ∧
    distinct.Perm distinct.reverse ∧ (distinct.map (·.name)).Nodup ∧
      (distinct.map (·.priority)).Nodup ∧
    ((world.withRegistry .empty).giveAll (machine "") distinct.reverse).registry.select "x" =
      ((world.withRegistry .empty).giveAll (machine "") distinct).registry.select "x" := by
  have kept : (world.withRegistry .empty).added (machine "") clashing =
      [marked "low" 1 'x', marked "first" 5 'y', marked "second" 5 'y'] := rfl
  have decided : ∀ dialect ∈ (world.withRegistry .empty).added (machine "") clashing,
      ∃ answer, dialect.detects "xy" = .ok answer := by
    simp [kept, marked]
  obtain ⟨refused, -, choice, -⟩ := ranked_of_calls (machine "") world clashing
  have order : ((world.withRegistry .empty).giveAll (machine "") clashing).registry.ordered =
      [marked "first" 5 'y', marked "second" 5 'y', marked "low" 1 'x'] := by
    rw [Registry.ordered, dialects_giveAll, kept]
    simp [marked, List.mergeSort, List.MergeSort.Internal.splitInTwo]
  refine ⟨(refused (marked "low" 9 'x')).1.mpr
      ⟨marked "low" 1 'x', kept ▸ List.mem_cons_self, rfl⟩, decided,
    ((choice "xy" decided).1 _).mpr ⟨[], _, order, rfl, nofun⟩, (List.reverse_perm _).symm,
    by decide, by decide, ?_⟩
  exact (ranked_of_calls (machine "") world distinct).2.2.2 _ (List.reverse_perm _).symm (by decide)
    (by decide) "x"

end World

end NegativeCompile
