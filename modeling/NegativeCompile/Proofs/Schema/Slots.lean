import Mathlib.RingTheory.ZMod.UnitsCyclic
import NegativeCompile.Datum.SlotTable

/-! # Tables of slots lose nothing

A member that is added to a table gets a slot that was free. The search for one leaps from slot to slot;
once the hash is used up, a leap takes slot `x` to slot `5 x + 1`, and the leaps lead to all slots of a table
whose size is a power of two (`exists_iterate_spin`). As a table grows before it is full, all that was added
to it is in it, once for each time (`perm_inOrder`). -/

namespace NegativeCompile.SlotTable

variable {α : Type} {table : SlotTable α} {member : α} {hash : UInt64} {size bits : Nat}

/-! ## Leaps -/

/-- Where a leap leads that is not guided by a hash. -/
def spin (size slot : Nat) : Nat := (slot * 5 + 1) % size

/-- Where a leap leads, with what is left of the hash. -/
def leap (size : Nat) (place : Nat × Nat) : Nat × Nat :=
  ((place.1 * 5 + 1 + place.2 / 32) % size, place.2 / 32)

/-- Leaps use up five bits of the hash each. -/
theorem snd_iterate_leap (size slot rest count : Nat) :
    ((leap size)^[count] (slot, rest)).2 = rest / 32 ^ count := by
  induction count with
  | zero => simp
  | succ count ih =>
    rw [Function.iterate_succ_apply', leap, ih, Nat.div_div_eq_div_mul, Nat.pow_succ]

/-- When the hash is used up, leaps are not guided by it. -/
theorem iterate_leap_zero (size slot count : Nat) :
    (leap size)^[count] (slot, 0) = ((spin size)^[count] slot, 0) := by
  induction count with
  | zero => rfl
  | succ count ih =>
    rw [Function.iterate_succ_apply', ih, leap, Function.iterate_succ_apply', spin, Nat.zero_div,
      Nat.add_zero]

/-- Four times a slot and one is multiplied by five when a leap is made. -/
theorem cast_iterate_spin (bits slot count : Nat) :
    ((4 * (spin (2 ^ bits))^[count] slot + 1 : Nat) : ZMod (2 ^ (bits + 2))) =
      5 ^ count * ((4 * slot + 1 : Nat) : ZMod (2 ^ (bits + 2))) := by
  induction count with
  | zero => simp
  | succ count ih =>
    rw [Function.iterate_succ_apply', spin, pow_succ' (5 : ZMod _), mul_assoc, ← ih,
      ← Nat.mul_mod_mul_left]
    have size : 4 * 2 ^ bits = 2 ^ (bits + 2) := by rw [pow_add, Nat.mul_comm]; rfl
    rw [size, Nat.cast_add, ZMod.natCast_mod]
    push_cast
    ring

/-- Leaps lead to each slot again only after there were as many as there are slots. -/
theorem dvd_of_iterate_spin_eq {slot first more : Nat}
    (same : (spin (2 ^ bits))^[first + more] slot = (spin (2 ^ bits))^[first] slot) :
    2 ^ bits ∣ more := by
  have odd : IsUnit ((4 * slot + 1 : Nat) : ZMod (2 ^ (bits + 2))) := by
    rw [ZMod.isUnit_iff_coprime]
    exact Nat.Coprime.pow_right _ (Nat.coprime_two_right.mpr ⟨2 * slot, by ring⟩)
  have five : IsUnit ((5 : Nat) : ZMod (2 ^ (bits + 2))) := by
    rw [ZMod.isUnit_iff_coprime]
    exact Nat.Coprime.pow_right _ (by decide)
  have equal := cast_iterate_spin bits slot (first + more)
  rw [same, cast_iterate_spin] at equal
  have powers := odd.mul_right_cancel equal
  have once : (5 : ZMod (2 ^ (bits + 2))) ^ more = 1 := by
    have power : IsUnit ((5 : ZMod (2 ^ (bits + 2))) ^ first) := by exact_mod_cast five.pow first
    refine power.mul_left_cancel ?_
    rw [mul_one, ← pow_add]
    exact powers.symm
  rw [← ZMod.orderOf_five bits]
  exact orderOf_dvd_of_pow_eq_one once

/-- Leaps from a slot lead to every slot. -/
theorem exists_iterate_spin {slot other : Nat} (inside : slot < 2 ^ bits) (also : other < 2 ^ bits) :
    ∃ count < 2 ^ bits, (spin (2 ^ bits))^[count] slot = other := by
  have stays : ∀ count, (spin (2 ^ bits))^[count] slot < 2 ^ bits := by
    intro count
    cases count with
    | zero => exact inside
    | succ count =>
      rw [Function.iterate_succ_apply']
      exact Nat.mod_lt _ (Nat.two_pow_pos bits)
  let reached : Fin (2 ^ bits) → Fin (2 ^ bits) := fun count => ⟨_, stays count⟩
  have earlier : ∀ first second : Fin (2 ^ bits), first ≤ second → reached first = reached second →
      first = second := by
    intro first second before same
    have split : first.val + (second.val - first.val) = second.val := Nat.add_sub_cancel' before
    have back := Fin.val_eq_of_eq same
    have multiple : 2 ^ bits ∣ second.val - first.val := by
      have again : (spin (2 ^ bits))^[first.val + (second.val - first.val)] slot =
          (spin (2 ^ bits))^[first.val] slot := by
        rw [split]
        exact back.symm
      exact dvd_of_iterate_spin_eq again
    have none := Nat.eq_zero_of_dvd_of_lt multiple (Nat.lt_of_le_of_lt (Nat.sub_le _ _) second.isLt)
    exact Fin.ext (by omega)
  have injective : Function.Injective reached := fun first second same =>
    (le_total first second).elim (fun before => earlier first second before same)
      fun before => (earlier second first before same.symm).symm
  obtain ⟨count, found⟩ := Finite.surjective_of_injective injective ⟨other, also⟩
  exact ⟨count, count.isLt, Fin.val_eq_of_eq found⟩

/-! ## Free slots -/

/-- A slot of a table is free. -/
def IsFree (table : SlotTable α) (slot : Nat) : Prop :=
  slot < table.slots.size ∧ table.slots.getD slot none = none

/-- The search among slots in a row finds a free one of them. -/
theorem isFree_of_freeAmong {slot count found : Nat} (inside : slot + count ≤ table.slots.size)
    (searched : table.freeAmong slot count = some found) : table.IsFree found := by
  induction count generalizing slot with
  | zero => cases searched
  | succ count ih =>
    rw [freeAmong] at searched
    split at searched
    next free =>
      obtain rfl := Option.some.inj searched
      exact ⟨by omega, Option.isNone_iff_eq_none.mp free⟩
    next => exact ih (by omega) searched

/-- If the search among slots in a row finds nothing, the first of them is taken. -/
theorem not_isFree_of_freeAmong {slot count : Nat} (some : 0 < count)
    (searched : table.freeAmong slot count = none) : ¬ table.IsFree slot := by
  obtain ⟨less, rfl⟩ := Nat.exists_eq_add_of_lt some
  rw [Nat.zero_add, freeAmong] at searched
  split at searched
  · cases searched
  next taken => exact fun free => taken (Option.isNone_iff_eq_none.mpr free.2)

/-- The search for a free slot finds one if one of the leaps that it can make leads to one. -/
theorem isFree_freeSlot {fuel slot rest count : Nat} (enough : count < fuel)
    (inside : slot < table.slots.size)
    (reached : table.IsFree ((leap table.slots.size)^[count] (slot, rest)).1) :
    table.IsFree (table.freeSlot fuel slot rest) := by
  induction fuel generalizing slot rest count with
  | zero => omega
  | succ fuel ih =>
    rw [freeSlot]
    dsimp only
    generalize limit : (if slot + neighbours < table.slots.size then neighbours + 1 else 1) = tries
    have inRange : slot + tries ≤ table.slots.size ∧ 0 < tries := by
      rw [← limit]
      split <;> omega
    cases searched : table.freeAmong slot tries with
    | some found => exact isFree_of_freeAmong inRange.1 searched
    | none =>
      cases count with
      | zero => exact absurd reached (not_isFree_of_freeAmong inRange.2 searched)
      | succ count =>
        rw [Function.iterate_succ_apply] at reached
        exact ih (by omega) (Nat.mod_lt _ (by omega)) reached

/-- The members of a table with their hashes, slot by slot. -/
def entries (table : SlotTable α) : List (UInt64 × α) := table.slots.toList.filterMap id

/-- A table is sound: its size is a power of two, its members are counted, and it is not full. -/
structure IsSound (table : SlotTable α) : Prop where
  /-- The size is a power of two. -/
  size : ∃ bits, table.slots.size = 2 ^ bits
  /-- The members are counted. -/
  count : table.entries.length = table.count
  /-- There is a free slot. -/
  roomy : table.count < table.slots.size

/-- A sound table has a free slot. -/
theorem IsSound.exists_isFree (sound : table.IsSound) : ∃ slot, table.IsFree slot := by
  by_contra full
  have each : ∀ slot ∈ table.slots.toList, slot.isSome = true := by
    intro slot listed
    obtain ⟨index, inside, rfl⟩ := List.mem_iff_getElem.mp listed
    rw [Array.length_toList] at inside
    rw [Array.getElem_toList, ← Option.not_isNone, Bool.not_eq_true', Bool.eq_false_iff]
    refine fun free => full ⟨index, inside, ?_⟩
    rw [Array.getD, dif_pos inside]
    exact Option.isNone_iff_eq_none.mp free
  have counted := sound.count
  have all : table.slots.toList.countP (fun slot => (id slot).isSome) = table.slots.toList.length :=
    List.countP_eq_length.mpr each
  rw [entries, List.length_filterMap_eq_countP, all, Array.length_toList] at counted
  exact absurd sound.roomy (by omega)

/-- A member is put into a free slot of a sound table. -/
theorem IsSound.isFree_place (sound : table.IsSound) (hash : UInt64) :
    table.IsFree (table.freeSlot (table.slots.size + 14) (hash.toNat % table.slots.size) hash.toNat) := by
  obtain ⟨slot, free⟩ := sound.exists_isFree
  obtain ⟨bits, size⟩ := sound.size
  have some : 0 < table.slots.size := Nat.zero_lt_of_lt sound.roomy
  have start : hash.toNat % table.slots.size < table.slots.size := Nat.mod_lt _ some
  -- Thirteen leaps use up the hash.
  generalize reached : (leap table.slots.size)^[13] (hash.toNat % table.slots.size, hash.toNat) = place
  have spent : place.2 = 0 := by
    rw [← reached, snd_iterate_leap]
    exact Nat.div_eq_of_lt (Nat.lt_of_lt_of_le hash.toNat_lt (by decide))
  have inside : place.1 < table.slots.size := by
    rw [← reached, Function.iterate_succ_apply']
    exact Nat.mod_lt _ some
  have other := free.1
  rw [size] at inside other
  obtain ⟨count, enough, led⟩ := exists_iterate_spin inside other
  have led' : table.IsFree
      ((leap table.slots.size)^[count + 13] (hash.toNat % table.slots.size, hash.toNat)).1 := by
    rw [Function.iterate_add_apply, reached, show place = (place.1, 0) from Prod.ext rfl spent,
      iterate_leap_zero, size, led]
    exact free
  exact isFree_freeSlot (by omega) start led'

/-! ## Adding members -/

/-- A sound table to which a member is added in a free slot has it besides all others. -/
theorem IsSound.entries_place (sound : table.IsSound) (hash : UInt64) (member : α) :
    (table.place hash member).entries.Perm ((hash, member) :: table.entries) := by
  obtain ⟨inside, free⟩ := sound.isFree_place hash
  rw [place, entries, entries]
  dsimp only
  generalize table.freeSlot _ _ _ = slot at inside free
  rw [Array.getD, dif_pos inside] at free
  have listed : slot < table.slots.toList.length := by rwa [Array.length_toList]
  have none : table.slots.toList[slot] = none := by rw [Array.getElem_toList]; exact free
  rw [Array.toList_setIfInBounds, List.set_eq_take_append_cons_drop, if_pos listed]
  conv => rhs; rw [← List.take_append_drop slot table.slots.toList, List.drop_eq_getElem_cons listed, none]
  rw [List.filterMap_append, List.filterMap_append, List.filterMap_cons_some (f := id) rfl,
    List.filterMap_cons_none (f := id) rfl]
  exact List.perm_middle

/-- A member takes no more room than one slot. -/
theorem IsSound.place (sound : table.IsSound) (hash : UInt64) (member : α)
    (roomy : table.count + 1 < table.slots.size) : (table.place hash member).IsSound := by
  have size : (table.place hash member).slots.size = table.slots.size := Array.size_setIfInBounds
  refine ⟨size ▸ sound.size, ?_, size ▸ roomy⟩
  rw [(sound.entries_place hash member).length_eq, List.length_cons, sound.count]
  rfl

/-- A table with no members is sound. -/
theorem isSound_ofSize (bits : Nat) : (ofSize (2 ^ bits) : SlotTable α).IsSound := by
  have size : (ofSize (2 ^ bits) : SlotTable α).slots.size = 2 ^ bits := Array.size_replicate
  refine ⟨⟨bits, size⟩, ?_, by rw [size]; exact Nat.two_pow_pos bits⟩
  rw [entries, ofSize, Array.toList_replicate]
  exact List.length_eq_zero_iff.mpr (List.filterMap_eq_nil_iff.mpr fun slot listed =>
    (List.eq_of_mem_replicate listed))

/-- A sound table to which members are added one by one is sound and has them besides all others, if
it has room for them. -/
theorem IsSound.placeAll (members : List (UInt64 × α)) (sound : table.IsSound)
    (roomy : table.count + members.length < table.slots.size) :
    let last := members.foldl (fun grown entry => grown.place entry.1 entry.2) table
    last.IsSound ∧ last.entries.Perm (table.entries ++ members) := by
  induction members generalizing table with
  | nil => exact ⟨sound, .of_eq (List.append_nil _).symm⟩
  | cons entry rest ih =>
    rw [List.length_cons] at roomy
    have size : (table.place entry.1 entry.2).slots.size = table.slots.size := Array.size_setIfInBounds
    have count : (table.place entry.1 entry.2).count = table.count + 1 := rfl
    obtain ⟨last, kept⟩ := ih (sound.place entry.1 entry.2 (by omega)) (by omega)
    refine ⟨last, kept.trans ?_⟩
    exact ((sound.entries_place entry.1 entry.2).append_right _).trans List.perm_middle.symm

/-- A table grows by adding its members one by one to a larger one. -/
theorem resized_eq (table : SlotTable α) (count : Nat) :
    table.resized count = table.entries.foldl (fun grown entry => grown.place entry.1 entry.2)
      (ofSize (2 ^ max 3 (Nat.log2 count + 1))) := by
  rw [entries, List.foldl_filterMap, Array.foldl_toList, resized]
  congr 1
  funext grown slot
  cases slot <;> rfl

/-- A table that grows keeps its members, if the larger one has room for them. -/
theorem resized_spec {count : Nat} (enough : table.entries.length ≤ count) :
    (table.resized count).IsSound ∧ (table.resized count).entries.Perm table.entries := by
  have room : count < 2 ^ max 3 (Nat.log2 count + 1) :=
    Nat.lt_of_lt_of_le Nat.lt_log2_self (Nat.pow_le_pow_right (by decide) (Nat.le_max_right _ _))
  have begun : (ofSize (2 ^ max 3 (Nat.log2 count + 1)) : SlotTable α).IsSound := isSound_ofSize _
  have size : (ofSize (2 ^ max 3 (Nat.log2 count + 1)) : SlotTable α).slots.size =
    2 ^ max 3 (Nat.log2 count + 1) := Array.size_replicate
  have none : (ofSize (2 ^ max 3 (Nat.log2 count + 1)) : SlotTable α).count = 0 := rfl
  obtain ⟨sound, kept⟩ := begun.placeAll table.entries (by omega)
  have empty : (ofSize (2 ^ max 3 (Nat.log2 count + 1)) : SlotTable α).entries = [] :=
    List.length_eq_zero_iff.mp begun.count
  rw [empty, List.nil_append] at kept
  rw [resized_eq]
  exact ⟨sound, kept⟩

/-- A sound table to which a member is added is sound and has it besides all others. -/
theorem IsSound.add (sound : table.IsSound) (hash : UInt64) (member : α) :
    (table.add hash member).IsSound ∧
      (table.add hash member).entries.Perm ((hash, member) :: table.entries) := by
  have placed := sound.entries_place hash member
  have size : (table.place hash member).slots.size = table.slots.size := Array.size_setIfInBounds
  have count : (table.place hash member).count = table.count + 1 := rfl
  rw [SlotTable.add]
  split
  next crowded =>
    have enough : (table.place hash member).entries.length ≤ (table.place hash member).count *
        if 50000 < (table.place hash member).count then 2 else 4 := by
      rw [placed.length_eq, List.length_cons, sound.count, count]
      split <;> omega
    obtain ⟨sound', kept⟩ := resized_spec enough
    exact ⟨sound', kept.trans placed⟩
  next uncrowded =>
    refine ⟨sound.place hash member ?_, placed⟩
    rw [isCrowded, decide_eq_true_eq, size, count] at uncrowded
    omega

/-- A set gives its members each once, in whatever order. -/
theorem perm_inOrder (hashOf : α → UInt64) (members : List α) :
    (inOrder hashOf members).Perm members := by
  have grows : ∀ (more : List α) (table : SlotTable α), table.IsSound →
      (table.addAll hashOf more).entries.Perm
        ((more.map fun member => (hashOf member, member)) ++ table.entries) := by
    intro more
    induction more with
    | nil => exact fun table _ => .refl _
    | cons first rest ih =>
      intro table sound
      obtain ⟨sound', kept⟩ := sound.add (hashOf first) first
      exact (ih _ sound').trans ((kept.append_left _).trans List.perm_middle)
  have all := grows members empty (isSound_ofSize 3)
  have fresh : (empty : SlotTable α).entries = [] := List.length_eq_zero_iff.mp (isSound_ofSize 3).count
  rw [fresh, List.append_nil] at all
  have names := all.map (·.2)
  rw [List.map_map, show ((·.2) ∘ fun member => (hashOf member, member)) = (id : α → α) from rfl,
    List.map_id] at names
  exact names

/-- What a set gives is what was added to it. -/
theorem mem_inOrder_iff {hashOf : α → UInt64} {members : List α} :
    member ∈ inOrder hashOf members ↔ member ∈ members :=
  (perm_inOrder hashOf members).mem_iff

end NegativeCompile.SlotTable
