import NegativeCompile.Datum

/-! # Documents

Documents of the object notation: nulls, truth values, numbers, strings, arrays, and objects whose
members keep their order. -/

namespace NegativeCompile

/-- A document. -/
inductive Json where
  /-- Nothing. -/
  | null
  /-- A truth value. -/
  | boolean (value : Bool)
  /-- A whole number. -/
  | integer (value : Int)
  /-- A floating point number. -/
  | real (value : Number.Binary64)
  /-- A string. -/
  | string (value : String)
  /-- An array. -/
  | array (items : List Json)
  /-- An object. -/
  | object (members : List (String × Json))
  deriving Inhabited, Repr

namespace Json

/-- The member of an object. -/
def get? (name : String) : Json → Option Json
  | .object members => members.lookup name
  | _ => none

mutual

/-- A document as a datum. -/
def toDatum : Json → Datum
  | .null => .nothing
  | .boolean value => .boolean value
  | .integer value => .integer value
  | .real value => .real value
  | .string value => .text value
  | .array items => .list (toData items)
  | .object members => .mapping (toEntries members)

/-- Documents as data. -/
def toData : List Json → List Datum
  | [] => []
  | item :: rest => toDatum item :: toData rest

/-- Members as entries of a mapping. -/
def toEntries : List (String × Json) → List (Datum × Datum)
  | [] => []
  | (name, value) :: rest => (.text name, toDatum value) :: toEntries rest

end

end Json

end NegativeCompile
