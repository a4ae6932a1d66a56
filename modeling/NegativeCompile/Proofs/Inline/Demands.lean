import NegativeCompile.Proofs.Inline.Markers
import NegativeCompile.Proofs.Verdict.Tractable

/-! # Written demands are read back

Demands are what inline markers are written for: a severity, a message, whether it is a pattern, and
the line that must be told of (`Inline.Demand`). Lines of code with demands in comments after
them (`Inline.MarkedLine`) are written as a text, in which each demand is a marker. This text is
read back: it has one case for each demand, in the order in which they are written
(`Inline.parse_written`). -/

namespace NegativeCompile.Inline

open Files Text

variable {message : List Char} {c : Char} {path : Path} {number total : Nat}

/-! ## Lines that demands give -/

/-- How a demand gives the line that must be told of. -/
inductive Offset where
  /-- It is the line of the demand. -/
  | own
  /-- It is so many lines further on. -/
  | ahead (distance : Nat)
  /-- It is so many lines further up. -/
  | back (distance : Nat)
  /-- It is the line of this number. -/
  | line (number : Nat)
  deriving DecidableEq, Repr

namespace Offset

variable {offset : Offset}

/-- What is written for the line, if something is. -/
def text? : Offset → Option (List Char)
  | own => none
  | ahead distance => some ('+' :: digitsOf distance)
  | back distance => some ('-' :: digitsOf distance)
  | line number => some (digitsOf number)

/-- How it is written. -/
def written (offset : Offset) : List Char := (offset.text?.map ('@' :: ·)).getD []

/-- The line that must be told of by a demand in some line. -/
def target (here : Nat) : Offset → Int
  | own => here
  | ahead distance => here + distance
  | back distance => here - distance
  | line number => number

/-- A number is written without a sign. -/
theorem exists_unsigned (number : Nat) :
    ∃ first more, digitsOf number = first :: more ∧ first ≠ '+' ∧ first ≠ '-' := by
  obtain ⟨first, more, whole⟩ := List.exists_cons_of_ne_nil (digitsOf_ne_nil number)
  have digit : isDigit first = true :=
    all_isDigit_digitsOf number first (by rw [whole]; exact List.mem_cons_self)
  refine ⟨first, more, whole, ?_, ?_⟩
  · rintro rfl
    exact absurd digit (by decide)
  · rintro rfl
    exact absurd digit (by decide)

/-- Nothing is split off as a sign from a number that is written. -/
theorem takeSign_digitsOf (number : Nat) : takeSign (digitsOf number) = (false, digitsOf number) := by
  obtain ⟨first, more, whole, noPlus, noMinus⟩ := exists_unsigned number
  rw [whole]
  unfold takeSign
  split <;> simp_all

/-- Digits before a blank are taken from a text as a whole. -/
theorem span_digitsOf (number : Nat) (rest : List Char) :
    (digitsOf number ++ ' ' :: rest).takeWhile isDigit = digitsOf number ∧
      (digitsOf number ++ ' ' :: rest).dropWhile isDigit = ' ' :: rest := by
  have digits := all_isDigit_digitsOf number
  constructor
  · rw [List.takeWhile_append_of_pos digits, List.takeWhile_cons_of_neg (by decide),
      List.append_nil]
  · rw [List.dropWhile_append_of_pos digits, List.dropWhile_cons_of_neg (by decide)]

/-- A written offset is taken from a text. -/
theorem takeOffset_written (offset : Offset) (rest : List Char) :
    takeOffset (offset.written ++ ' ' :: rest) = (offset.text?, ' ' :: rest) := by
  have filled (number : Nat) : (digitsOf number).isEmpty = false := by
    simpa using digitsOf_ne_nil number
  cases offset with
  | own => rfl
  | ahead distance =>
    obtain ⟨taken, left⟩ := span_digitsOf distance rest
    show takeOffset ('@' :: '+' :: (digitsOf distance ++ ' ' :: rest)) = _
    simp only [takeOffset, taken, left, filled]
    rfl
  | back distance =>
    obtain ⟨taken, left⟩ := span_digitsOf distance rest
    show takeOffset ('@' :: '-' :: (digitsOf distance ++ ' ' :: rest)) = _
    simp only [takeOffset, taken, left, filled]
    rfl
  | line number =>
    obtain ⟨taken, left⟩ := span_digitsOf number rest
    obtain ⟨first, more, whole, noPlus, noMinus⟩ := exists_unsigned number
    show takeOffset ('@' :: (digitsOf number ++ ' ' :: rest)) = (some (digitsOf number), ' ' :: rest)
    rw [whole, List.cons_append] at taken left ⊢
    have bare : takeOffset ('@' :: first :: (more ++ ' ' :: rest)) =
        if ((first :: (more ++ ' ' :: rest)).takeWhile isDigit).isEmpty then
          (none, '@' :: first :: (more ++ ' ' :: rest))
        else (some ((first :: (more ++ ' ' :: rest)).takeWhile isDigit),
          (first :: (more ++ ' ' :: rest)).dropWhile isDigit) := by
      unfold takeOffset
      simp [noPlus, noMinus]
    rw [bare, taken, left]
    rfl

/-- The written offset denotes the line that must be told of. -/
theorem denoted_text? (offset : Offset) (here : Nat) :
    denoted here offset.text? = offset.target here := by
  cases offset with
  | own => rfl
  | ahead distance => simp [text?, denoted, target]
  | back distance => simp [text?, denoted, target]
  | line number =>
    obtain ⟨first, more, whole, noPlus, noMinus⟩ := exists_unsigned number
    show denoted here (some (digitsOf number)) = number
    rw [denoted_of_unsigned, digitsValue_digitsOf]
    · intro digits same
      exact noPlus (List.cons.inj (whole.symm.trans same)).1
    · intro digits same
      exact noMinus (List.cons.inj (whole.symm.trans same)).1

/-- The number in a written offset can be read if the line that it gives is one of so many. -/
theorem length_takeSign_le (inside : number ≤ total) (first : 1 ≤ offset.target number)
    (last : offset.target number ≤ total) (short : total < 10 ^ digitLimit) :
    ∀ written, offset.text? = some written → (takeSign written).2.length ≤ digitLimit := by
  have fits {distance : Nat} (within : distance ≤ total) :
      (digitsOf distance).length ≤ digitLimit :=
    length_digitsOf_le (isLong_eq_false_iff.mpr (by omega))
  intro written given
  cases offset with
  | own => cases given
  | ahead distance =>
    cases given
    have within : (number : Int) + distance ≤ total := last
    exact fits (by omega)
  | back distance =>
    cases given
    have within : (1 : Int) ≤ number - distance := first
    exact fits (by omega)
  | line distance =>
    have within : (distance : Int) ≤ total := last
    obtain rfl : digitsOf distance = written := Option.some.inj given
    rw [takeSign_digitsOf]
    exact fits (by omega)

/-- A written offset is read as the line that must be told of, if this is one of so many. -/
theorem readTarget_text? (inside : number ≤ total) (first : 1 ≤ offset.target number)
    (last : offset.target number ≤ total) (short : total < 10 ^ digitLimit) :
    readTarget path number total offset.text? = .ok (offset.target number).toNat := by
  have reads := length_takeSign_le inside first last short
  have denotes := denoted_text? offset number
  cases given : offset.text? with
  | none =>
    rw [given] at denotes
    rw [← denotes]
    rfl
  | some written =>
    rw [given] at denotes
    rw [readTarget, targetOf_eq, if_neg (Nat.not_lt.mpr (reads written given)), denotes]
    dsimp only
    rw [if_neg]
    simp only [Bool.or_eq_true, decide_eq_true_eq, not_or, not_lt]
    exact ⟨first, last⟩

/-- Nothing in a written offset is the letter that all markers start with, and nothing in it breaks a
line. -/
theorem plain_of_mem_written {offset : Offset} (member : c ∈ offset.written) :
    c ≠ 'e' ∧ isLineBreak c = false := by
  have digit {number : Nat} (listed : c ∈ digitsOf number) : c ≠ 'e' ∧ isLineBreak c = false := by
    refine ⟨?_, isLineBreak_of_mem_digitsOf listed⟩
    rintro rfl
    exact absurd (isDigit_of_mem_digitsOf listed) (by decide)
  have signed {sign : Char} {number : Nat} (plain : sign ≠ 'e' ∧ isLineBreak sign = false)
      (listed : c ∈ '@' :: sign :: digitsOf number) : c ≠ 'e' ∧ isLineBreak c = false := by
    rcases List.mem_cons.mp listed with rfl | listed
    · decide
    · rcases List.mem_cons.mp listed with rfl | listed
      · exact plain
      · exact digit listed
  cases offset with
  | own => cases member
  | ahead distance => exact signed (by decide) member
  | back distance => exact signed (by decide) member
  | line number =>
    rcases List.mem_cons.mp member with rfl | listed
    · decide
    · exact digit listed

end Offset

/-! ## Demands -/

/-- What an inline marker is written for. -/
structure Demand where
  /-- The severity of the message. -/
  severity : Severity
  /-- Whether the message is given as a pattern. -/
  isRegex : Bool
  /-- The line that must be told of. -/
  offset : Offset
  /-- The message. -/
  message : List Char
  /-- Compilers use the severity. -/
  known : severity ∈ Severity.all
  /-- There is a message. -/
  said : message ≠ []
  /-- There are no blanks around it. -/
  trimmed : trim message = message
  /-- It stands in a line. -/
  unbroken : ∀ c ∈ message, isLineBreak c = false
  /-- It does not hold what ends it. -/
  closed : ¬ ['}', '}'] <:+: message
  /-- It does not end in a part of what ends it. -/
  ends : message.getLast? ≠ some '}'
  /-- No marker starts in it. -/
  plain : ¬ HoldsMarkerStart message
  /-- It is a pattern if it is given as one. -/
  pattern : isRegex = true → ∃ pattern, Regex.read message = .ok pattern

/-- The text up to closing braces is found if they are not in it. -/
theorem untilBraces?_append (closed : ¬ ['}', '}'] <:+: message)
    (ends : message.getLast? ≠ some '}') (rest : List Char) :
    untilBraces? (message ++ '}' :: '}' :: rest) = some message := by
  induction message with
  | nil => rfl
  | cons c more ih =>
    rw [List.cons_append, untilBraces?, ih]
    · rfl
    · exact fun occurs => closed (List.infix_cons occurs)
    · intro last
      apply ends
      cases more with
      | nil => cases last
      | cons next others => exact last
    · rintro after rfl same
      cases more with
      | nil => exact ends rfl
      | cons next others =>
        obtain ⟨rfl, -⟩ := List.cons.inj same
        exact closed (List.prefix_append ['}', '}'] others).isInfix

namespace Demand

variable {demand : Demand}

/-- The marker of a demand. -/
def marker (demand : Demand) : Marker :=
  ⟨demand.severity, demand.isRegex, demand.offset.text?, demand.message⟩

/-- What is written after the severity if the message is given as a pattern. -/
def patternPart (isRegex : Bool) : List Char := if isRegex then "-re".toList else []

/-- How a demand is written after its severity. -/
def ending (demand : Demand) : List Char :=
  patternPart demand.isRegex ++ (demand.offset.written ++
    ' ' :: '{' :: '{' :: (demand.message ++ ['}', '}']))

/-- How a demand is written. -/
def written (demand : Demand) : List Char :=
  markerStart ++ (demand.severity.name.toList ++ demand.ending)

/-- After the severity no word goes on. -/
theorem head?_ending (demand : Demand) (rest : List Char) :
    (demand.ending ++ rest).head?.any isWordChar = false := by
  have dash : isWordChar '-' = false := by decide +kernel
  have sign : isWordChar '@' = false := by decide +kernel
  have blank : isWordChar ' ' = false := by decide +kernel
  unfold ending patternPart
  cases demand.isRegex with
  | true => exact dash
  | false =>
    cases demand.offset with
    | own => exact blank
    | ahead distance => exact sign
    | back distance => exact sign
    | line number => exact sign

/-- What is written after the severity is read as the rest of the marker. -/
theorem readMarker_ending (demand : Demand) (rest : List Char) :
    readMarker demand.severity (demand.ending ++ rest) = some demand.marker := by
  have ending : demand.ending ++ rest = patternPart demand.isRegex ++
      (demand.offset.written ++
        ' ' :: '{' :: '{' :: (demand.message ++ '}' :: '}' :: rest)) := by
    simp [Demand.ending]
  have offset := Offset.takeOffset_written demand.offset
    ('{' :: '{' :: (demand.message ++ '}' :: '}' :: rest))
  have message := untilBraces?_append demand.closed demand.ends rest
  have whether (text : List Char) :
      startsWith "-re".toList (patternPart demand.isRegex ++
        (demand.offset.written ++ ' ' :: text)) = demand.isRegex := by
    cases demand.isRegex with
    | true => rfl
    | false => cases demand.offset <;> rfl
  have left (text : List Char) :
      (if demand.isRegex then (patternPart demand.isRegex ++ text).drop 3
        else patternPart demand.isRegex ++ text) = text := by
    cases demand.isRegex <;> rfl
  have opened (text : List Char) : trimLeft (' ' :: '{' :: text) = '{' :: text := rfl
  rw [ending]
  simp only [readMarker, whether, left, offset, opened, message, Option.map_some]
  rfl

/-- Nothing in the word of a demand after its first letter is the start of a marker. -/
theorem markersIn_word (demand : Demand) : markersIn ("xpected-".toList ++
    (demand.severity.name.toList ++ patternPart demand.isRegex)) = [] := by
  rcases Severity.eq_of_mem_all demand.known with same | same | same | same <;> rw [same] <;>
    cases demand.isRegex <;> rfl

/-- Nor is anything in the word and the offset that is written after it. -/
theorem markersIn_word_offset (demand : Demand) :
    markersIn ("xpected-".toList ++ (demand.severity.name.toList ++ patternPart demand.isRegex) ++
      demand.offset.written) = [] := by
  have absent : 'e' ∉ demand.offset.written :=
    fun member => (Offset.plain_of_mem_written member).1 rfl
  unfold Offset.written at absent ⊢
  cases given : demand.offset.text? with
  | none => simpa using markersIn_word demand
  | some text =>
    rw [given] at absent
    have digits : 'e' ∉ text := fun member => absent (List.mem_cons_of_mem '@' member)
    show markersIn (_ ++ '@' :: text) = []
    rw [markersIn_append_cons (by decide +kernel) (markersIn_word demand)]
    exact markersIn_eq_nil_of_notMem digits

/-- Nothing in a demand after the first letter is the start of a marker. -/
theorem markersIn_after (demand : Demand) (rest : List Char) :
    markersIn ("xpected-".toList ++ (demand.severity.name.toList ++ (demand.ending ++ rest))) =
      markersIn rest := by
  have front := demand.markersIn_word_offset
  have message := markersIn_eq_nil_iff.mpr demand.plain
  have opening (text : List Char) : markersIn ('{' :: text) = markersIn text :=
    markersIn_cons (by decide +kernel) text
  have closing : Separates '}' := by decide +kernel
  have parts : "xpected-".toList ++ (demand.severity.name.toList ++ (demand.ending ++ rest)) =
      ("xpected-".toList ++ (demand.severity.name.toList ++ patternPart demand.isRegex) ++
        demand.offset.written) ++
          ' ' :: '{' :: '{' :: (demand.message ++ '}' :: [] ++ '}' :: rest) := by
    simp [ending]
  have closed : markersIn (demand.message ++ ['}']) = [] := by
    rw [markersIn_append_cons closing message]
    rfl
  rw [parts, markersIn_append_cons (by decide +kernel) front, opening, opening,
    markersIn_append_cons closing closed]

/-- The markers of a text that starts with a written demand: the marker of the demand, and those
of the rest. -/
theorem markersIn_written (demand : Demand) (rest : List Char) :
    markersIn (demand.written ++ rest) =
      (some demand.marker, demand.written ++ rest) :: markersIn rest := by
  have head : markerHead? (demand.written ++ rest) =
      some (demand.severity, demand.ending ++ rest) := by
    rw [markerHead?_eq_some_iff]
    refine ⟨demand.known, ?_, demand.head?_ending rest⟩
    rw [written, List.append_assoc, List.append_assoc]
  have parts : demand.written ++ rest = 'e' :: ("xpected-".toList ++
      (demand.severity.name.toList ++ (demand.ending ++ rest))) := by
    rw [written, List.append_assoc, List.append_assoc]
    rfl
  rw [parts] at head ⊢
  rw [markersIn, head]
  dsimp only
  rw [demand.readMarker_ending, demand.markersIn_after]

/-- A written demand stands in a line. -/
theorem unbroken_written (demand : Demand) :
    ∀ c ∈ demand.written, isLineBreak c = false := by
  have name := Severity.unbroken_name demand.known
  have pattern : ∀ c ∈ patternPart demand.isRegex, isLineBreak c = false := by
    apply unbroken_of_all
    cases demand.isRegex <;> decide
  have offset : ∀ c ∈ demand.offset.written, isLineBreak c = false :=
    fun c member => (Offset.plain_of_mem_written member).2
  have fixed : ∀ c ∈ markerStart, isLineBreak c = false := unbroken_of_all (by decide)
  unfold written ending
  intro c member
  simp only [List.mem_append, List.mem_cons, List.not_mem_nil, or_false] at member
  rcases member with member | member | member | member | rfl | rfl | rfl | member | rfl | rfl
  · exact fixed c member
  · exact name c member
  · exact pattern c member
  · exact offset c member
  · decide
  · decide
  · decide
  · exact demand.unbroken c member
  · decide
  · decide

end Demand

/-! ## Marked lines -/

/-- A line of code with demands in a comment after it. -/
structure MarkedLine where
  /-- The code. -/
  code : List Char
  /-- The demands, each with the number of blanks before it besides one. -/
  demands : List (Nat × Demand)
  /-- There is no comment in the code. -/
  fits : IsCode code

/-- How demands are written after the start of a comment. -/
def writtenAll (demands : List (Nat × Demand)) : List Char :=
  demands.flatMap fun entry => List.replicate entry.1 ' ' ++ ' ' :: entry.2.written

/-- The markers of written demands are theirs. -/
theorem markersIn_writtenAll (demands : List (Nat × Demand)) :
    (markersIn (writtenAll demands)).map Prod.fst =
      demands.map fun entry => some entry.2.marker := by
  induction demands with
  | nil => rfl
  | cons first rest ih =>
    obtain ⟨blanks, demand⟩ := first
    have unmarked : markersIn (List.replicate blanks ' ') = [] := by
      apply markersIn_eq_nil_of_notMem
      intro member
      exact absurd (List.eq_of_mem_replicate member) (by decide)
    rw [writtenAll, List.flatMap_cons, ← writtenAll, List.append_assoc, List.cons_append,
      markersIn_append_cons (by decide +kernel) unmarked, demand.markersIn_written, List.map_cons,
      ih, List.map_cons]

namespace MarkedLine

/-- How a line with demands is written; without any there is no comment. -/
def written (line : MarkedLine) : List Char :=
  if line.demands.isEmpty then line.code
  else line.code ++ '/' :: '/' :: writtenAll line.demands

/-- The markers of a line are those of its demands. -/
theorem markersIn_written (line : MarkedLine) :
    (markersIn (commentOf line.written)).map Prod.fst =
      line.demands.map fun entry => some entry.2.marker := by
  unfold written
  by_cases bare : line.demands = []
  · rw [bare, if_pos List.isEmpty_nil, line.fits.commentOf_eq_nil]
    rfl
  · rw [if_neg (by simpa using bare), line.fits.markersIn_commentOf, markersIn_writtenAll]

/-- A line that is written is one line. -/
theorem unbroken_written (line : MarkedLine) : ∀ c ∈ line.written, isLineBreak c = false := by
  have blank : isLineBreak ' ' = false := by decide
  have slash : isLineBreak '/' = false := by decide
  unfold written
  split
  · exact line.fits.unbroken
  · intro c member
    simp only [List.mem_append, List.mem_cons, writtenAll, List.mem_flatMap] at member
    rcases member with member | rfl | rfl | ⟨demand, -, member | rfl | member⟩
    · exact line.fits.unbroken c member
    · exact slash
    · exact slash
    · rw [List.eq_of_mem_replicate member]
      exact blank
    · exact blank
    · exact demand.2.unbroken_written c member

end MarkedLine

/-! ## Marked texts -/

/-- The text of lines with demands: each of them ends in a line feed. -/
def textOf (lines : List MarkedLine) : String :=
  String.ofList (lines.flatMap fun line => line.written ++ ['\n'])

/-- The lines of the text are the lines that are written. -/
theorem lines_textOf (lines : List MarkedLine) :
    Text.lines (textOf lines).toList = lines.map (·.written) := by
  have unbroken : ∀ line ∈ lines.map (·.written), ∀ c ∈ line, isLineBreak c = false := by
    intro line member
    obtain ⟨marked, -, rfl⟩ := List.mem_map.mp member
    exact marked.unbroken_written
  have whole := lines_flatMap_feed unbroken
  rw [List.flatMap_map] at whole
  rw [textOf, String.toList_ofList, whole]

/-- The demands of lines from a number on, each with the number of its line. -/
def placedFrom (number : Nat) : List MarkedLine → List (Nat × Demand)
  | [] => []
  | line :: rest =>
    line.demands.map (fun entry => (number, entry.2)) ++ placedFrom (number + 1) rest

/-- The demands of lines, each with the number of its line. -/
def placed (lines : List MarkedLine) : List (Nat × Demand) := placedFrom 1 lines

/-- What is found in lines that are written are the markers of their demands. -/
theorem foundFrom_written (number : Nat) (lines : List MarkedLine) :
    foundFrom number (lines.map (·.written)) =
      (placedFrom number lines).map fun entry => (entry.1, some entry.2.marker) := by
  induction lines generalizing number with
  | nil => rfl
  | cons line rest ih =>
    have here : (markersIn (commentOf line.written)).map (fun start => (number, start.1)) =
        line.demands.map fun entry => (number, some entry.2.marker) := by
      have marked := congrArg (List.map fun marker => (number, marker)) line.markersIn_written
      rwa [List.map_map, List.map_map] at marked
    rw [List.map_cons, foundFrom, here, ih, placedFrom, List.map_append, List.map_map]
    rfl

/-! ## Reading marked texts -/

variable {marker : Marker} {target : Nat} {name : String} {earlier : List TestCase}

/-- The case of a marker is read if the line that it gives and the name of the case can be, its message
is not blank, and the message is a pattern if it is given as one. -/
theorem readCase_eq_ok (given : readTarget path number total marker.offset = .ok target)
    (said : trim marker.message ≠ [])
    (pattern : marker.isRegex = true → ∃ pattern, Regex.read (trim marker.message) = .ok pattern)
    (named : caseName target (countAbout target earlier) = .ok name) :
    readCase path number total earlier marker = .ok (marker.caseAt target name) := by
  have filled : ¬ (trim marker.message).isEmpty = true := by simpa using said
  unfold readCase
  rw [given, Except.ok_bind]
  simp only [if_neg filled]
  by_cases given : marker.isRegex = true
  · obtain ⟨_, reads⟩ := pattern given
    have checked : checkPattern path number (trim marker.message) = .ok () := by
      rw [checkPattern, reads]
    rw [if_pos given, checked, named]
    rfl
  · rw [if_neg given, named]
    rfl

/-- Cases are read of the markers of demands if the lines that must be told of are among so many,
and their number and that of the cases can be shown. -/
theorem exists_reads {placed : List (Nat × Demand)}
    (inside : ∀ entry ∈ placed, entry.1 ≤ total ∧ 1 ≤ entry.2.offset.target entry.1 ∧
      entry.2.offset.target entry.1 ≤ total)
    (short : total < 10 ^ digitLimit) (room : earlier.length + placed.length < 10 ^ digitLimit) :
    ∃ cases, Reads path total earlier
      (placed.map fun entry => (entry.1, some entry.2.marker)) cases := by
  induction placed generalizing earlier with
  | nil => exact ⟨[], .nil earlier⟩
  | cons first rest ih =>
    obtain ⟨here, demand⟩ := first
    obtain ⟨within, first, last⟩ := inside (here, demand) List.mem_cons_self
    rw [List.length_cons] at room
    dsimp only at within first last
    have given : readTarget path here total demand.marker.offset =
        .ok (demand.offset.target here).toNat :=
      Offset.readTarget_text? within first last short
    have counted : countAbout (demand.offset.target here).toNat earlier ≤ earlier.length :=
      List.countP_le_length
    obtain ⟨name, named⟩ : ∃ name, caseName (demand.offset.target here).toNat
        (countAbout (demand.offset.target here).toNat earlier) = .ok name :=
      exists_caseName (by omega) (by omega)
    have trimmed : trim demand.marker.message = demand.message := demand.trimmed
    have one := readCase_eq_ok given (by rw [trimmed]; exact demand.said)
      (by rw [trimmed]; exact demand.pattern) named
    have more (testCase : TestCase) :
        (earlier ++ [testCase]).length + rest.length < 10 ^ digitLimit := by
      rw [List.length_append, List.length_singleton]
      omega
    obtain ⟨cases, others⟩ :=
      ih (fun entry member => inside entry (List.mem_cons_of_mem _ member)) (more _)
    exact ⟨_, .cons one others⟩

/-- There are as many places where markers start in lines as there are markers. -/
theorem length_foundFrom (number : Nat) (lines : List (List Char)) :
    (foundFrom number lines).length = markerCount lines := by
  induction lines generalizing number with
  | nil => rfl
  | cons line rest ih =>
    rw [foundFrom, List.length_append, List.length_map, ih, markerCount, markerCount, List.map_cons,
      List.sum_cons]

/-- A case is what a demand is written for, which must be told of some line. -/
structure Demand.IsReadAs (demand : Demand) (target : Int) (testCase : TestCase) :
    Prop where
  /-- The case is about this line. -/
  span : testCase.span = ⟨target, target⟩
  /-- Its one expectation is that the message is given for this line. -/
  expects : testCase.expectations = [⟨testCase.name, String.ofList demand.message,
    demand.isRegex, some target, demand.severity⟩]
  /-- The case is enabled. -/
  enabled : testCase.enabled = true
  /-- It is not compiled alone. -/
  unguarded : testCase.guard = none

/-- If every line that demands must be told of is a line of their text, the text is read: it has one
case for each demand, in the order in which they are written, with the severity, the message and the
line of the demand. The number of characters of the text must be one that can be shown, as it is for
every text that fits in a memory. -/
theorem parse_written (path : Path) (lines : List MarkedLine)
    (inside : ∀ entry ∈ placed lines, 1 ≤ entry.2.offset.target entry.1 ∧
      entry.2.offset.target entry.1 ≤ lines.length)
    (short : (textOf lines).toList.length < 10 ^ digitLimit) :
    ∃ cases, parse path (textOf lines) = .ok cases ∧
      List.Forall₂ (fun entry testCase =>
        entry.2.IsReadAs (entry.2.offset.target entry.1) testCase) (placed lines) cases := by
  have found : found (textOf lines).toList =
      (placed lines).map fun entry => (entry.1, some entry.2.marker) := by
    rw [Inline.found, lines_textOf, foundFrom_written, placed]
  have count : (Text.lines (textOf lines).toList).length = lines.length := by
    rw [lines_textOf, List.length_map]
  -- There are no more lines and no more markers than characters, so their numbers can be shown.
  have lined := length_lines_le (textOf lines).toList
  have marked := (markerCount_le (Text.lines (textOf lines).toList)).trans
    (length_flatten_lines_le (textOf lines).toList)
  rw [← length_foundFrom 1, ← Inline.found, found, List.length_map] at marked
  have within : ∀ entry ∈ placed lines, entry.1 ≤ lines.length := by
    intro entry member
    have sighted := List.mem_map_of_mem
      (f := fun entry : Nat × Demand => (entry.1, some entry.2.marker)) member
    rw [← found] at sighted
    obtain ⟨-, last, -⟩ := exists_line_of_mem_found sighted
    rwa [count] at last
  obtain ⟨cases, reads⟩ : ∃ cases, Reads path lines.length []
      ((placed lines).map fun entry => (entry.1, some entry.2.marker)) cases := by
    apply exists_reads
    · exact fun entry member => ⟨within entry member, inside entry member⟩
    · omega
    · rw [List.length_nil]
      omega
  have read : parse path (textOf lines) = .ok cases := by
    rw [parse_eq_ok_iff, count, found]
    exact reads
  refine ⟨cases, read, ?_⟩
  -- What is known of the cases of any text says what the marker of each demand was read as.
  have pairs := isCaseOf_of_parse read
  rw [found, List.forall₂_map_left_iff] at pairs
  refine pairs.imp ?_
  rintro ⟨here, demand⟩ testCase ⟨marker, target, same, denotes, -, -, case⟩
  obtain rfl : demand.marker = marker := Option.some.inj same
  have line : (target : Int) = demand.offset.target here :=
    denotes.trans (demand.offset.denoted_text? here)
  have trimmed : trim demand.marker.message = demand.message := demand.trimmed
  dsimp only
  rw [← line, case]
  refine ⟨rfl, ?_, rfl, rfl⟩
  rw [Marker.caseAt, trimmed]
  rfl

namespace Sample

/-- The demand of a line that is given as a pattern, for the line after it. -/
def onward : Demand where
  severity := .warning
  isRegex := true
  offset := .ahead 1
  message := "un(used|set)".toList
  known := by decide
  said := by decide
  trimmed := by decide
  unbroken := by simp; decide
  closed := by decide
  ends := by decide
  plain := markersIn_eq_nil_iff.mp (by decide)
  pattern _ := by
    have reads : (Regex.read "un(used|set)".toList).toOption.isSome = true := by decide +kernel
    obtain ⟨pattern, read⟩ := Option.isSome_iff_exists.mp reads
    exact ⟨pattern, Except.eq_ok_of_toOption read⟩

/-- A demand with braces, signs and slashes in its message, for its own line. -/
def braced : Demand where
  severity := .error
  isRegex := false
  offset := .own
  message := "a {b} // @-c".toList
  known := by decide
  said := by decide
  trimmed := by decide
  unbroken := by simp; decide
  closed := by decide
  ends := by decide
  plain := markersIn_eq_nil_iff.mp (by decide)
  pattern given := by cases given

/-- Three lines: two demands after the first one, one after a slash, and none. -/
def marked : List MarkedLine := [
  ⟨"int x; ".toList, [(0, onward), (2, braced)], by decide, by decide, by simp; decide⟩,
  ⟨"y /".toList, [(0, { braced with offset := .line 1 })], by decide, by decide, by simp; decide⟩,
  ⟨"z".toList, [], by decide, by decide, by simp; decide⟩]

/-- Their text is read back. -/
theorem parse_written_marked :
    textOf marked =
      "int x; // expected-warning-re@+1 {{un(used|set)}}   expected-error {{a {b} // @-c}}\n" ++
        "y /// expected-error@1 {{a {b} // @-c}}\nz\n" ∧
    ∃ cases, parse (.ofParts ["a.nc"]) (textOf marked) = .ok cases ∧
      List.Forall₂ (fun entry testCase => entry.2.IsReadAs (entry.2.offset.target entry.1) testCase)
        (placed marked) cases := by
  have few : (textOf marked).toList.length ≤ digitLimit := by decide +kernel
  have short : (textOf marked).toList.length < 10 ^ digitLimit :=
    few.trans_lt (Nat.lt_pow_self (by decide))
  exact ⟨by decide +kernel, parse_written _ marked (by decide) short⟩

end Sample

end NegativeCompile.Inline
