import NegativeCompile.Datum
import NegativeCompile.Text.Utf8

/-! # Hashes of data

A number of 64 bits for each datum that can be a key; equal keys have equal numbers. -/

namespace NegativeCompile

namespace Hash

open Number Text

/-- A number of 64 bits that is told apart from the mark of an error. -/
def settled (value : UInt64) : UInt64 := if value + 1 = 0 then value - 1 else value

/-! ## Bytes -/

/-- The state while bytes are mixed. -/
structure Mixer where
  /-- The first word. -/
  first : UInt64
  /-- The second word. -/
  second : UInt64
  /-- The third word. -/
  third : UInt64
  /-- The fourth word. -/
  fourth : UInt64
  deriving DecidableEq, Repr

namespace Mixer

/-- The state before anything is mixed in. -/
def start : Mixer :=
  ⟨0x736f6d6570736575, 0x646f72616e646f6d, 0x6c7967656e657261, 0x7465646279746573⟩

/-- A word with its bits turned to the left. -/
def rotated (count word : UInt64) : UInt64 := word <<< count ||| word >>> (64 - count)

/-- One round of mixing. -/
def round (mixer : Mixer) : Mixer :=
  let first := mixer.first + mixer.second
  let third := mixer.third + mixer.fourth
  let second := rotated 13 mixer.second ^^^ first
  let fourth := rotated 16 mixer.fourth ^^^ third
  let first := rotated 32 first + fourth
  let third := third + second
  ⟨first, rotated 17 second ^^^ third, rotated 32 third, rotated 21 fourth ^^^ first⟩

/-- Mix a word in. -/
def mix (mixer : Mixer) (word : UInt64) : Mixer :=
  let next := round { mixer with fourth := mixer.fourth ^^^ word }
  { next with first := next.first ^^^ word }

/-- The number that a state ends with. -/
def finish (mixer : Mixer) : UInt64 :=
  let last := round (round (round { mixer with third := mixer.third ^^^ 0xff }))
  last.first ^^^ last.second ^^^ last.third ^^^ last.fourth

end Mixer

/-- The word of at most eight bytes, the least significant one first. -/
def wordOf (bytes : List UInt8) : UInt64 :=
  bytes.foldr (fun byte word => word <<< 8 ||| byte.toUInt64) 0

/-- Mix bytes in, eight at a time; the last word holds those that are left and the length. -/
def mixBytes (length : Nat) (mixer : Mixer) : List UInt8 → Mixer
  | a :: b :: c :: d :: e :: f :: g :: h :: rest =>
    mixBytes length (mixer.mix (wordOf [a, b, c, d, e, f, g, h])) rest
  | rest => mixer.mix (wordOf rest ||| (UInt64.ofNat length <<< 56))

/-- The hash of bytes. -/
def ofBytes (bytes : List UInt8) : UInt64 :=
  if bytes.isEmpty then 0 else settled (mixBytes bytes.length .start bytes).finish

/-- The bytes of a number, the least significant one first. -/
def bytesOf (width value : Nat) : List UInt8 :=
  (List.range width).map fun place => UInt8.ofNat (value / Nat.pow 256 place)

/-- The hash of a text: its characters are as wide as the widest one needs. -/
def ofText (text : String) : UInt64 :=
  let codes := text.toList.map codeOf
  let width := if codes.all (· < 256) then 1 else if codes.all (· < 65536) then 2 else 4
  ofBytes (codes.flatMap (bytesOf width))

/-! ## Numbers -/

/-- What the hashes of numbers are counted to. -/
def modulus : Nat := Nat.pow 2 61 - 1

/-- The hash of a number of a sign and a residue. -/
def ofResidue (isNegative : Bool) (size : Nat) : UInt64 :=
  let residue := UInt64.ofNat (size % modulus)
  settled (if isNegative then 0 - residue else residue)

/-- The hash of a whole number. -/
def ofInt (value : Int) : UInt64 := ofResidue (value < 0) value.natAbs

/-- The hash of what has no lasting one. -/
def unsettled : UInt64 := 0x7fffffffffffffff

/-- The hash of a floating point number, which is that of the whole number it equals if it equals
one: a unit is a power of two, and these recur with a period of 61. -/
def ofReal : Binary64 → UInt64
  | .finite isNegative units => ofResidue isNegative (units * Nat.pow 2 24)
  | .infinite isNegative => ofResidue isNegative 314159
  | .notANumber => unsettled

/-- The hash of a complex number. -/
def ofComplex (re im : Binary64) : UInt64 := settled (ofReal re + 1000003 * ofReal im)

/-! ## Composed data -/

/-- The number that mixing the hashes of a tuple starts with. -/
def tupleStart : UInt64 := 2870177450012600261

/-- Mix the hash of an item in. -/
def mixItem (sum item : UInt64) : UInt64 :=
  Mixer.rotated 31 (sum + item * 14029467366897019727) * 11400714785074694791

/-- The hash of a tuple, given those of its items. -/
def ofItems (items : List UInt64) : UInt64 :=
  let sum := items.foldl mixItem tupleStart +
    (UInt64.ofNat items.length ^^^ (tupleStart ^^^ 3527539))
  if sum + 1 = 0 then 1546275796 else sum

/-- The bytes of a date. -/
def dateBytes (year month day : Nat) : List UInt8 :=
  (bytesOf 2 year).reverse ++ [UInt8.ofNat month, UInt8.ofNat day]

/-- The millionths of a second in a day. -/
def microsPerDay : Int := 86400000000

/-- The hash of a point in time: without a distance from universal time that of its parts, else that
of the time since the beginning. -/
def ofMoment (value : Moment) : UInt64 :=
  if value.zone.isSome then
    let micros := value.micros + microsPerDay
    let rest := micros.fmod microsPerDay
    ofItems [ofInt (micros.fdiv microsPerDay), ofInt (rest / 1000000), ofInt (rest % 1000000)]
  else
    ofBytes (dateBytes value.year value.month value.day ++
      [UInt8.ofNat value.hour, UInt8.ofNat value.minute, UInt8.ofNat value.second] ++
      (bytesOf 3 value.micro).reverse)

end Hash

namespace Datum

mutual

/-- The hash of a datum. -/
def hash : Datum → UInt64
  | .boolean value => Hash.ofInt (if value then 1 else 0)
  | .integer value => Hash.ofInt value
  | .real value => Hash.ofReal value
  | .complex re im => Hash.ofComplex re im
  | .text value => Hash.ofText value
  | .bytes value => Hash.ofBytes value
  | .date year month day => Hash.ofBytes (Hash.dateBytes year month day)
  | .moment value => Hash.ofMoment value
  | .tuple items => Hash.ofItems (hashes items)
  | _ => Hash.unsettled

/-- The hashes of data. -/
def hashes : List Datum → List UInt64
  | [] => []
  | item :: rest => hash item :: hashes rest

end

end Datum

end NegativeCompile
