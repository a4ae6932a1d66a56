import NegativeCompile.Dialect.Inline
import NegativeCompile.Proofs.Except

/-! # Markers in reading order

What a text with inline markers declares, place after place. The places where markers start are listed
in reading order with the numbers of their lines (`Inline.found`); the cases of the text are read of
them one after another, each after those before it (`Inline.parse_eq_ok_iff`). The case of a marker is
about the line that the marker denotes (`Inline.eq_denoted_of_readTarget`). -/

namespace NegativeCompile.Inline

open Files Text

variable {path : Path} {total number target : Nat} {marker : Marker} {offset : Option (List Char)}
variable {earlier cases more : List TestCase} {testCase : TestCase} {lines : List (List Char)}
variable {sighting : Nat × Option Marker} {sightings : List (Nat × Option Marker)}

/-! ## What is found -/

/-- The places where markers start in lines from a number on: for each the number of its line, and the
marker if it is well formed. -/
def foundFrom (number : Nat) : List (List Char) → List (Nat × Option Marker)
  | [] => []
  | line :: rest =>
    (markersIn (commentOf line)).map (fun start => (number, start.1)) ++ foundFrom (number + 1) rest

/-- The places where markers start in a text. -/
def found (text : List Char) : List (Nat × Option Marker) := foundFrom 1 (Text.lines text)

/-- What is found in lines is found in one of them. -/
theorem exists_line_of_mem_foundFrom (member : sighting ∈ foundFrom number lines) :
    number ≤ sighting.1 ∧ sighting.1 < number + lines.length ∧
      ∃ line ∈ lines, ∃ rest, (sighting.2, rest) ∈ markersIn (commentOf line) := by
  induction lines generalizing number with
  | nil => cases member
  | cons line others ih =>
    rw [foundFrom, List.mem_append, List.mem_map] at member
    rw [List.length_cons]
    rcases member with ⟨start, starts, rfl⟩ | later
    · refine ⟨Nat.le_refl _, by omega, line, List.mem_cons_self, start.2, starts⟩
    · obtain ⟨first, last, other, listed, found⟩ := ih later
      exact ⟨by omega, by omega, other, List.mem_cons_of_mem line listed, found⟩

/-- What is found in a text is found in one of its lines. -/
theorem exists_line_of_mem_found {text : List Char} (member : sighting ∈ found text) :
    1 ≤ sighting.1 ∧ sighting.1 ≤ (Text.lines text).length ∧
      ∃ line ∈ Text.lines text, ∃ rest, (sighting.2, rest) ∈ markersIn (commentOf line) := by
  obtain ⟨first, last, within⟩ := exists_line_of_mem_foundFrom member
  exact ⟨first, by omega, within⟩

/-! ## Reading -/

/-- Cases are read of what is found, one after another; each is an earlier one for those after it. -/
inductive Reads (path : Path) (total : Nat) :
    List TestCase → List (Nat × Option Marker) → List TestCase → Prop
  /-- Nothing is read of nothing. -/
  | nil (earlier : List TestCase) : Reads path total earlier [] []
  /-- A case is read of a marker, and then the others. -/
  | cons {earlier cases : List TestCase} {testCase : TestCase} {number : Nat} {marker : Marker}
      {rest : List (Nat × Option Marker)}
      (one : readCase path number total earlier marker = .ok testCase)
      (others : Reads path total (earlier ++ [testCase]) rest cases) :
      Reads path total earlier ((number, some marker) :: rest) (testCase :: cases)

/-- Cases are read of two lists in a row if they are read of the first one and then of the second. -/
theorem Reads.append_iff {first second : List (Nat × Option Marker)} :
    Reads path total earlier (first ++ second) cases ↔
      ∃ head tail, cases = head ++ tail ∧ Reads path total earlier first head ∧
        Reads path total (earlier ++ head) second tail := by
  induction first generalizing earlier cases with
  | nil =>
    constructor
    · intro reads
      exact ⟨[], cases, rfl, .nil earlier, by rwa [List.append_nil]⟩
    · rintro ⟨head, tail, rfl, ⟨⟩, reads⟩
      rwa [List.append_nil] at reads
  | cons start first ih =>
    constructor
    · intro reads
      cases reads with
      | cons one others =>
        obtain ⟨head, tail, rfl, reads, later⟩ := ih.mp others
        rw [List.append_assoc] at later
        exact ⟨_ :: head, tail, rfl, .cons one reads, later⟩
    · rintro ⟨head, tail, rfl, reads, later⟩
      cases reads with
      | cons one others =>
        refine .cons one (ih.mpr ⟨_, tail, rfl, others, ?_⟩)
        rwa [List.append_assoc]

/-- There are as many cases as there are places that they are read of. -/
theorem Reads.length_eq (reads : Reads path total earlier sightings cases) :
    cases.length = sightings.length := by
  induction reads with
  | nil => rfl
  | cons _ _ ih => rw [List.length_cons, List.length_cons, ih]

/-- Each case is read of a marker that was found. -/
theorem Reads.exists_of_mem (reads : Reads path total earlier sightings cases)
    (member : testCase ∈ cases) : ∃ number marker before, (number, some marker) ∈ sightings ∧
      readCase path number total before marker = .ok testCase := by
  induction reads with
  | nil => cases member
  | @cons earlier cases first number marker rest one others ih =>
    rcases List.mem_cons.mp member with rfl | later
    · exact ⟨number, marker, earlier, List.mem_cons_self, one⟩
    · obtain ⟨here, other, before, found, reads⟩ := ih later
      exact ⟨here, other, before, List.mem_cons_of_mem _ found, reads⟩

/-- The markers of a line are read one after another. -/
theorem readMarkers_eq_ok_iff {markers : List (Option Marker × List Char)} :
    readMarkers path number total earlier markers = .ok more ↔
      ∃ cases, more = earlier ++ cases ∧
        Reads path total earlier (markers.map fun start => (number, start.1)) cases := by
  induction markers generalizing earlier with
  | nil =>
    rw [readMarkers, Except.ok.injEq, List.map_nil]
    constructor
    · rintro rfl
      exact ⟨[], (List.append_nil _).symm, .nil _⟩
    · rintro ⟨cases, rfl, ⟨⟩⟩
      exact (List.append_nil _).symm
  | cons start rest ih =>
    obtain ⟨_ | marker, text⟩ := start
    · -- What is no marker is refused, and no case is read of it.
      constructor
      · intro refused
        cases refused
      · rintro ⟨cases, -, ⟨⟩⟩
    · rw [readMarkers, Except.bind_eq_ok_iff, List.map_cons]
      constructor
      · rintro ⟨testCase, one, later⟩
        obtain ⟨cases, rfl, others⟩ := ih.mp later
        exact ⟨testCase :: cases, List.append_assoc _ _ _, .cons one others⟩
      · rintro ⟨cases, rfl, reads⟩
        cases reads with
        | cons one others =>
          exact ⟨_, one, ih.mpr ⟨_, List.append_cons _ _ _, others⟩⟩

/-- The markers of lines are read one after another. -/
theorem readLines_eq_ok_iff :
    readLines path total number earlier lines = .ok more ↔
      ∃ cases, more = earlier ++ cases ∧ Reads path total earlier (foundFrom number lines) cases := by
  induction lines generalizing number earlier with
  | nil =>
    rw [readLines, Except.ok.injEq, foundFrom]
    constructor
    · rintro rfl
      exact ⟨[], (List.append_nil _).symm, .nil _⟩
    · rintro ⟨cases, rfl, ⟨⟩⟩
      exact (List.append_nil _).symm
  | cons line rest ih =>
    rw [readLines, Except.bind_eq_ok_iff, foundFrom]
    constructor
    · rintro ⟨here, first, later⟩
      obtain ⟨head, rfl, reads⟩ := readMarkers_eq_ok_iff.mp first
      obtain ⟨tail, rfl, others⟩ := ih.mp later
      exact ⟨head ++ tail, List.append_assoc _ _ _, Reads.append_iff.mpr ⟨_, _, rfl, reads, others⟩⟩
    · rintro ⟨cases, rfl, reads⟩
      obtain ⟨head, tail, rfl, first, later⟩ := Reads.append_iff.mp reads
      exact ⟨_, readMarkers_eq_ok_iff.mpr ⟨head, rfl, first⟩,
        ih.mpr ⟨tail, (List.append_assoc _ _ _).symm, later⟩⟩

/-- A text with inline markers has the cases that are read of what is found in it. -/
theorem parse_eq_ok_iff {text : String} : parse path text = .ok cases ↔
    Reads path (Text.lines text.toList).length [] (found text.toList) cases := by
  rw [parse, readLines_eq_ok_iff, found]
  constructor
  · rintro ⟨cases, rfl, reads⟩
    exact reads
  · intro reads
    exact ⟨cases, rfl, reads⟩

/-! ## Lines that markers denote -/

/-- The line that a marker in some line denotes: its own one, one that is counted from it, or one that
it names. -/
def denoted (line : Nat) : Option (List Char) → Int
  | none => line
  | some ('+' :: digits) => line + digitsValue digits
  | some ('-' :: digits) => line - digitsValue digits
  | some digits => digitsValue digits

/-- What has no sign denotes the line that it names. -/
theorem denoted_of_unsigned {written : List Char} (line : Nat)
    (noPlus : ∀ digits, written = '+' :: digits → False)
    (noMinus : ∀ digits, written = '-' :: digits → False) :
    denoted line (some written) = digitsValue written := by
  rw [denoted]
  · exact noPlus
  · exact noMinus

/-- A marker gives the line that it denotes, unless the number in it is too long to be read. -/
theorem targetOf_eq (line : Nat) (written : List Char) : targetOf line written =
    if digitLimit < (takeSign written).2.length then .error (.tooLong (takeSign written).2.length)
    else .ok (denoted line (some written)) := by
  have value (digits : List Char) (way : Nat → Int) : (naturalOfDigits digits).map way =
      if digitLimit < digits.length then .error (.tooLong digits.length)
      else .ok (way (digitsValue digits)) := by
    unfold naturalOfDigits
    split <;> rfl
  unfold targetOf
  simp only [value]
  fun_cases takeSign written with
  | case1 digits => simp [denoted, signed, Int.sub_eq_add_neg]
  | case2 digits => simp [denoted, signed]
  | case3 _ noMinus noPlus =>
    rw [denoted_of_unsigned line noPlus noMinus]
    simp

/-- A marker that is read is about the line that it denotes, which is a line of the text if it is not the
line of the marker. -/
theorem eq_denoted_of_readTarget (read : readTarget path number total offset = .ok target) :
    (target : Int) = denoted number offset ∧ (target = number ∨ 1 ≤ target ∧ target ≤ total) := by
  cases offset with
  | none =>
    rw [← Except.ok.inj read]
    exact ⟨rfl, .inl rfl⟩
  | some written =>
    rw [readTarget, targetOf_eq] at read
    by_cases long : digitLimit < (takeSign written).2.length
    · rw [if_pos long] at read
      cases read
    · rw [if_neg long] at read
      dsimp only at read
      split at read
      · cases read
      next within =>
        rw [← Except.ok.inj read]
        simp only [Bool.or_eq_true, decide_eq_true_eq, not_or, Int.not_lt] at within
        omega

/-- A marker in a line that is counted is about one that is. -/
theorem counted_of_readTarget (counted : 1 ≤ number)
    (read : readTarget path number total offset = .ok target) : 1 ≤ target := by
  obtain ⟨-, inside⟩ := eq_denoted_of_readTarget read
  omega

/-- A marker in a text is about a line of the text. -/
theorem le_of_readTarget (inside : number ≤ total)
    (read : readTarget path number total offset = .ok target) : target ≤ total := by
  obtain ⟨-, within⟩ := eq_denoted_of_readTarget read
  omega

end NegativeCompile.Inline
