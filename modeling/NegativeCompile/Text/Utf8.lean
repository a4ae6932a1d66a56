import NegativeCompile.Text.Hex

/-! # UTF-8

Reading bytes as UTF-8 in two ways: strictly, where the first fault is reported with its place and
kind, and leniently, where each fault becomes one replacement character. -/

namespace NegativeCompile.Text

/-! ## Code points

Texts may have to hold halves of pairs of code units, which are no characters. Each half is kept as
a code point of a plane in which there are no characters. -/

/-- Whether a code is half of a pair of code units. -/
def isHalf (code : Nat) : Bool := 0xd800 ≤ code && code ≤ 0xdfff

/-- The distance between a half and the code point that it is kept as. -/
def halfOffset : Nat := 0x80000

/-- The character for a code. -/
def charOfCode (code : Nat) : Char :=
  Char.ofNat (if isHalf code then code + halfOffset else code)

/-- The code that a character stands for. -/
def codeOf (c : Char) : Nat :=
  if halfOffset ≤ c.toNat && isHalf (c.toNat - halfOffset) then c.toNat - halfOffset else c.toNat

/-! ## Bytes -/

/-- What is wrong with a byte sequence that does not encode a character. -/
inductive Utf8Fault where
  /-- No character starts with this byte. -/
  | start
  /-- A byte that should continue the character does not. -/
  | continuation
  /-- The bytes end inside a character. -/
  | truncated
  deriving DecidableEq, Repr

/-- The wording of a fault. -/
def Utf8Fault.reason : Utf8Fault → String
  | .start => "invalid start byte"
  | .continuation => "invalid continuation byte"
  | .truncated => "unexpected end of data"

/-- The outcome of reading one character: the character and how many bytes it takes, or a fault and
how many bytes it spans. -/
inductive Utf8Step where
  /-- A character. -/
  | char (c : Char) (size : Nat)
  /-- A fault. -/
  | fault (kind : Utf8Fault) (size : Nat)

/-- Whether a byte continues a character. -/
def isContinuation (byte : UInt8) : Bool := 0x80 ≤ byte && byte ≤ 0xbf

/-- Whether `second` may follow `first`: the shortest form is required and surrogates and codes
beyond the last plane are excluded. -/
def mayFollow (first second : UInt8) : Bool :=
  isContinuation second &&
    !(first == 0xe0 && second < 0xa0) && !(first == 0xed && 0xa0 ≤ second) &&
    !(first == 0xf0 && second < 0x90) && !(first == 0xf4 && 0x90 ≤ second)

/-- The low six bits of a continuation byte. -/
def lowBits (byte : UInt8) : Nat := byte.toNat % 64

/-- Read the character that starts with the first byte and goes on in the others. -/
def utf8Step (first : UInt8) (rest : List UInt8) : Utf8Step :=
  let high := first.toNat
  if first < 0x80 then .char (Char.ofNat high) 1
  else if first < 0xc2 || 0xf4 < first then .fault .start 1
  else if first < 0xe0 then
    match rest with
    | [] => .fault .truncated 1
    | second :: _ =>
      if isContinuation second then .char (Char.ofNat (high % 32 * 64 + lowBits second)) 2
      else .fault .continuation 1
  else if first < 0xf0 then
    match rest with
    | [] => .fault .truncated 1
    | second :: rest =>
      if !mayFollow first second then .fault .continuation 1
      else match rest with
        | [] => .fault .truncated 2
        | third :: _ =>
          if isContinuation third then
            .char (Char.ofNat (high % 16 * 4096 + lowBits second * 64 + lowBits third)) 3
          else .fault .continuation 2
  else
    match rest with
    | [] => .fault .truncated 1
    | second :: rest =>
      if !mayFollow first second then .fault .continuation 1
      else match rest with
        | [] => .fault .truncated 2
        | third :: rest =>
          if !isContinuation third then .fault .continuation 2
          else match rest with
            | [] => .fault .truncated 3
            | fourth :: _ =>
              if isContinuation fourth then
                .char (Char.ofNat (high % 8 * 262144 + lowBits second * 4096 +
                  lowBits third * 64 + lowBits fourth)) 4
              else .fault .continuation 3

/-- How many bytes a step takes. -/
def Utf8Step.size : Utf8Step → Nat
  | .char _ size => size
  | .fault _ size => size

/-- A fault in the bytes of a text: the first faulty byte, its place, the number of bytes concerned
and the kind. -/
structure Utf8Problem where
  /-- The first byte concerned. -/
  byte : UInt8
  /-- The place of that byte, from zero. -/
  position : Nat
  /-- How many bytes are concerned. -/
  size : Nat
  /-- What is wrong. -/
  kind : Utf8Fault
  deriving DecidableEq, Repr

/-- The wording of a problem. -/
def Utf8Problem.message (problem : Utf8Problem) : String :=
  if problem.size = 1 then
    s!"'utf-8' codec can't decode byte 0x{String.ofList (hexPadded 2 problem.byte.toNat)} " ++
      s!"in position {problem.position}: {problem.kind.reason}"
  else
    s!"'utf-8' codec can't decode bytes in position {problem.position}-" ++
      s!"{problem.position + problem.size - 1}: {problem.kind.reason}"

/-- Read characters from a place on, `read` being those before it, last first. -/
def decodeFrom (position : Nat) (read : List Char) :
    List UInt8 → Except Utf8Problem (List Char)
  | [] => .ok read.reverse
  | first :: rest =>
    match utf8Step first rest with
    | .char c size => decodeFrom (position + size) (c :: read) (rest.drop (size - 1))
    | .fault kind size => .error ⟨first, position, size, kind⟩
termination_by bytes => bytes.length
decreasing_by simp only [List.length_cons, List.length_drop]; omega

/-- The text that bytes encode, or the first fault in them. -/
def decodeUtf8 (bytes : List UInt8) : Except Utf8Problem String :=
  (decodeFrom 0 [] bytes).map String.ofList

/-- Read characters, each fault giving one replacement character. -/
def decodeLossyFrom (read : List Char) : List UInt8 → List Char
  | [] => read.reverse
  | first :: rest =>
    match utf8Step first rest with
    | .char c size => decodeLossyFrom (c :: read) (rest.drop (size - 1))
    | .fault _ size => decodeLossyFrom ('\ufffd' :: read) (rest.drop (size - 1))
termination_by bytes => bytes.length
decreasing_by all_goals simp only [List.length_cons, List.length_drop]; omega

/-- The text that bytes encode, each fault replaced by one replacement character. -/
def decodeUtf8Lossy (bytes : List UInt8) : String := String.ofList (decodeLossyFrom [] bytes)

/-- The bytes that encode a text. -/
def encodeUtf8 (text : String) : List UInt8 := text.toUTF8.toList

end NegativeCompile.Text
