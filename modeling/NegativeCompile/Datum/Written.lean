import NegativeCompile.Datum
import NegativeCompile.Number.Binary64.Written
import NegativeCompile.Text.Integer
import NegativeCompile.Text.Quoted

/-! # Written data

How a datum is shown inside a message, and how it reads as plain text. -/

namespace NegativeCompile

open Text

/-- A number with at least two digits. -/
def twoDigits (value : Nat) : String :=
  if value < 10 then s!"0{value}" else toString value

/-- A number with at least `width` digits. -/
def paddedNumber (width value : Nat) : String :=
  let digits := decimal value
  String.ofList (List.replicate (width - digits.length) '0' ++ digits)

namespace Moment

/-- A span of minutes as shown inside a message. -/
def writtenSpan (minutes : Int) : String :=
  let seconds := minutes * 60
  let days := seconds.fdiv 86400
  let rest := seconds.fmod 86400
  let parts := (if days = 0 then [] else [s!"days={days}"]) ++
    (if rest = 0 then [] else [s!"seconds={rest}"])
  let shown := if parts.isEmpty then ["0"] else parts
  "datetime.timedelta(" ++ ", ".intercalate shown ++ ")"

/-- A distance from universal time, in minutes, as shown inside a message. -/
def writtenZone (minutes : Int) : String :=
  if minutes = 0 then "datetime.timezone.utc"
  else "datetime.timezone(" ++ writtenSpan minutes ++ ")"

/-- A point in time as shown inside a message. -/
def written (value : Moment) : String :=
  let fields := [value.year, value.month, value.day, value.hour, value.minute] ++
    (if value.micro ≠ 0 then [value.second, value.micro]
     else if value.second ≠ 0 then [value.second] else [])
  let zone := match value.zone with
    | none => []
    | some minutes => ["tzinfo=" ++ writtenZone minutes]
  "datetime.datetime(" ++ ", ".intercalate (fields.map toString ++ zone) ++ ")"

/-- A date as plain text. -/
def plainDate (year month day : Nat) : String :=
  s!"{paddedNumber 4 year}-{twoDigits month}-{twoDigits day}"

/-- A point in time as plain text. -/
def plain (value : Moment) : String :=
  let fraction := if value.micro = 0 then "" else "." ++ paddedNumber 6 value.micro
  let zone := match value.zone with
    | none => ""
    | some minutes =>
      (if minutes < 0 then "-" else "+") ++ twoDigits (minutes.natAbs / 60) ++ ":" ++
        twoDigits (minutes.natAbs % 60)
  s!"{plainDate value.year value.month value.day} {twoDigits value.hour}:" ++
    s!"{twoDigits value.minute}:{twoDigits value.second}{fraction}{zone}"

end Moment

namespace Datum

/-- A complex number as shown inside a message: a positive zero real part is left out. -/
def writtenComplex (re im : Number.Binary64) : String :=
  let imaginary := im.writtenBare ++ "j"
  if re == .zero then imaginary
  else
    let sign := if imaginary.startsWith "-" then "" else "+"
    s!"({re.writtenBare}{sign}{imaginary})"

mutual

/-- A datum as shown inside a message, given how knots are shown. -/
def writtenWith (shown : Nat → String) : Datum → String
  | .nothing => "None"
  | .boolean value => if value then "True" else "False"
  | .integer value => toString value
  | .real value => value.written
  | .complex re im => writtenComplex re im
  | .text value => quotedString value
  | .bytes value => String.ofList (quotedBytes value)
  | .ellipsis => "Ellipsis"
  | .date year month day => s!"datetime.date({year}, {month}, {day})"
  | .moment value => value.written
  | .list items => "[" ++ ", ".intercalate (writtenAll shown items) ++ "]"
  | .tuple items =>
    match writtenAll shown items with
    | [item] => "(" ++ item ++ ",)"
    | written => "(" ++ ", ".intercalate written ++ ")"
  | .set items =>
    if items.isEmpty then "set()"
    else "\x7b" ++ ", ".intercalate (writtenAll shown items) ++ "\x7d"
  | .mapping entries => "\x7b" ++ ", ".intercalate (writtenEntries shown entries) ++ "\x7d"
  | .knot number => shown number

/-- Several data as shown inside a message. -/
def writtenAll (shown : Nat → String) : List Datum → List String
  | [] => []
  | item :: rest => writtenWith shown item :: writtenAll shown rest

/-- The entries of a mapping as shown inside a message. -/
def writtenEntries (shown : Nat → String) : List (Datum × Datum) → List String
  | [] => []
  | (key, value) :: rest =>
    (writtenWith shown key ++ ": " ++ writtenWith shown value) :: writtenEntries shown rest

end

/-- A datum without knots as shown inside a message. -/
def written (datum : Datum) : String := datum.writtenWith fun _ => "..."

mutual

/-- Whether a whole number in a datum has more digits than are shown. -/
def hasLongNumber : Datum → Bool
  | .integer value => isLong value
  | .list items => anyHasLongNumber items
  | .tuple items => anyHasLongNumber items
  | .set items => anyHasLongNumber items
  | .mapping entries => anyEntryHasLongNumber entries
  | _ => false

/-- Whether a whole number in one of some data has more digits than are shown. -/
def anyHasLongNumber : List Datum → Bool
  | [] => false
  | item :: rest => hasLongNumber item || anyHasLongNumber rest

/-- Whether a whole number in one of some entries has more digits than are shown. -/
def anyEntryHasLongNumber : List (Datum × Datum) → Bool
  | [] => false
  | (key, value) :: rest => hasLongNumber key || hasLongNumber value || anyEntryHasLongNumber rest

end

/-- A datum without knots as shown inside a message, unless a number in it is too long. -/
def written? (datum : Datum) : Option String :=
  if datum.hasLongNumber then none else some datum.written

/-- A datum as plain text: a text is itself, a date and a point in time use digits only. -/
def plain : Datum → String
  | .text value => value
  | .date year month day => Moment.plainDate year month day
  | .moment value => value.plain
  | value => value.written

/-- A datum as plain text, unless a number in it is too long. -/
def plain? (datum : Datum) : Option String :=
  if datum.hasLongNumber then none else some datum.plain

end Datum

/-! ## Knots -/

/-- The lists and mappings that contain themselves, by their numbers. -/
abbrev Knots := List (Nat × Datum)

namespace Knots

/-- A datum, or the list or mapping that it is the number of. -/
def resolve (knots : Knots) : Datum → Datum
  | .knot number => (knots.lookup number).getD .nothing
  | datum => datum

/-- What stands for a list or a mapping within itself. -/
def sign (knots : Knots) (number : Nat) : String :=
  match knots.resolve (.knot number) with
  | .mapping _ => "\x7b...\x7d"
  | _ => "[...]"

/-- How a knot is shown inside others, `around` being their numbers; `fuel` bounds how many more
there can be. -/
def shownFrom (knots : Knots) : Nat → List Nat → Nat → String
  | 0, _, number => knots.sign number
  | fuel + 1, around, number =>
    if around.contains number then knots.sign number
    else (knots.resolve (.knot number)).writtenWith (knots.shownFrom fuel (number :: around))

/-- A datum as shown inside a message, unless a number in it is too long. -/
def written? (knots : Knots) (datum : Datum) : Option String :=
  if datum.hasLongNumber || (knots.any fun knot => knot.2.hasLongNumber) then none
  else some (datum.writtenWith (knots.shownFrom knots.length []))

end Knots

/-- A datum with the knots in it. -/
structure KnottedDatum where
  /-- The datum. -/
  datum : Datum
  /-- The knots. -/
  knots : Knots
  deriving Inhabited, Repr

namespace KnottedDatum

/-- A datum without knots. -/
def plain (datum : Datum) : KnottedDatum := ⟨datum, []⟩

/-- The datum, or the list or mapping that it is the number of. -/
def root (value : KnottedDatum) : Datum := value.knots.resolve value.datum

end KnottedDatum

end NegativeCompile
