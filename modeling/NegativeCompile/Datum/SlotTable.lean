import NegativeCompile.Datum.Hash

/-! # Tables of slots

The order in which a set gives its members. Each member has a slot in a table, which follows from
its hash and from the slots that are taken when it is added; the members are given slot by slot. -/

namespace NegativeCompile

/-- A table of slots, the number of which is a power of two. -/
structure SlotTable (α : Type) where
  /-- The slots with members and their hashes. -/
  slots : Array (Option (UInt64 × α))
  /-- The number of members. -/
  count : Nat

namespace SlotTable

variable {α : Type}

/-- A table with no members. -/
def ofSize (size : Nat) : SlotTable α := ⟨Array.replicate size none, 0⟩

/-- A table with no members and the least number of slots. -/
def empty : SlotTable α := ofSize 8

/-- The number of slots that are tried after another one before there is a leap. -/
def neighbours : Nat := 9

/-- The first free slot among some in a row. -/
def freeAmong (table : SlotTable α) (slot : Nat) : Nat → Option Nat
  | 0 => none
  | count + 1 =>
    if (table.slots.getD slot none).isNone then some slot else freeAmong table (slot + 1) count

/-- The first free slot for a hash, of which `rest` is still to be used; `fuel` bounds the number of
leaps. -/
def freeSlot (table : SlotTable α) : Nat → Nat → Nat → Nat
  | 0, slot, _ => slot
  | fuel + 1, slot, rest =>
    let size := table.slots.size
    let tries := if slot + neighbours < size then neighbours + 1 else 1
    match freeAmong table slot tries with
    | some found => found
    | none =>
      let less := rest / 32
      freeSlot table fuel ((slot * 5 + 1 + less) % size) less

/-- Put a member into a free slot. A hash is used up after thirteen leaps, and then the leaps lead
to every slot. -/
def place (table : SlotTable α) (hash : UInt64) (member : α) : SlotTable α :=
  let size := table.slots.size
  let slot := freeSlot table (size + 14) (hash.toNat % size) hash.toNat
  ⟨table.slots.setIfInBounds slot (some (hash, member)), table.count + 1⟩

/-- The members of a table in a table with more slots than `count`. -/
def resized (table : SlotTable α) (count : Nat) : SlotTable α :=
  let size := Nat.pow 2 (max 3 (Nat.log2 count + 1))
  table.slots.foldl
    (fun grown slot => match slot with
      | some (hash, member) => grown.place hash member
      | none => grown)
    (ofSize size)

/-- Whether a number of members is too large for a number of slots. -/
def isCrowded (size count : Nat) : Bool := (size - 1) * 3 ≤ count * 5

/-- Add a member that is not there yet; the table grows before it is crowded. -/
def add (table : SlotTable α) (hash : UInt64) (member : α) : SlotTable α :=
  let more := table.place hash member
  if isCrowded more.slots.size more.count then
    more.resized (more.count * if 50000 < more.count then 2 else 4)
  else more

/-- The members, slot by slot. -/
def members (table : SlotTable α) : List α := (table.slots.toList.filterMap id).map (·.2)

/-- Add members one after another. -/
def addAll (table : SlotTable α) (hashOf : α → UInt64) (members : List α) : SlotTable α :=
  members.foldl (fun table member => table.add (hashOf member) member) table

/-- Different members in the order in which a set gives them to which they are added one by one. -/
def inOrder (hashOf : α → UInt64) (members : List α) : List α :=
  (empty.addAll hashOf members).members

/-- Different members in the order in which a set gives them to which they are added together. -/
def inOrderTogether (hashOf : α → UInt64) (members : List α) : List α :=
  let table : SlotTable α :=
    if isCrowded 8 members.length then empty.resized (2 * members.length) else empty
  (table.addAll hashOf members).members

end SlotTable

end NegativeCompile
