import NegativeCompile.Proofs.Inline.ReadingOrder
import NegativeCompile.Proofs.Diagnostic.Rendered

/-! # What inline markers declare

A case that a marker declares is compiled and expects one message: of a severity that compilers use,
for a line that can be shown, holding a trimmed text that is no more than a part of a line
(`Inline.Declares`). All cases that are read of a fragment with inline markers are of this kind
(`Inline.exists_declares_of_parse`), and there is one for each marker in reading order, about the line
that the marker denotes (`Inline.isCaseOf_of_parse`).

The start of a marker is the fixed part that all markers have and a severity at which a word ends
(`Inline.StartsMarker`). Such starts are what is looked for in a comment: a text has markers just if one
starts in it (`Inline.markersIn_eq_nil_iff`), and up to a character that separates what starts from what
does not, text in which no marker starts is passed over (`Inline.markersIn_append_cons`). The markers of
a line are those of the comment in it, and code before the comment has none
(`Inline.IsCode.markersIn_commentOf`). -/

namespace NegativeCompile.Inline

open Files Text

variable {text rest line : List Char} {severity : Severity} {marker : Marker}
variable {path : Path} {number total : Nat} {cases more : List TestCase} {testCase : TestCase}
variable {lines : List (List Char)}

/-! ## Characters of markers -/

/-- What is left of a text when a severity is taken from its start. -/
theorem known_and_subset_of_takeSeverity? (taken : takeSeverity? text = some (severity, rest)) :
    severity ∈ Severity.all ∧ rest ⊆ text := by
  obtain ⟨first, known, starts⟩ := List.exists_of_findSome?_eq_some taken
  dsimp only at starts
  split at starts
  · cases starts
    exact ⟨known, List.drop_subset _ _⟩
  · cases starts

/-- What is left of a text when the head of a marker is taken from its start. -/
theorem known_and_subset_of_markerHead? (starts : markerHead? text = some (severity, rest)) :
    severity ∈ Severity.all ∧ rest ⊆ text := by
  unfold markerHead? at starts
  split at starts
  · split at starts
    next first after taken =>
      split at starts
      · cases starts
      · cases starts
        obtain ⟨known, within⟩ := known_and_subset_of_takeSeverity? taken
        exact ⟨known, List.Subset.trans within (List.drop_subset _ _)⟩
    · cases starts
  · cases starts

/-- What is left of a text when an offset is taken from its start. -/
theorem takeOffset_subset (text : List Char) : (takeOffset text).2 ⊆ text := by
  unfold takeOffset
  split
  next rest =>
    -- Whatever sign there is, only digits are taken after it.
    have digits (sign body : List Char) (within : body ⊆ '@' :: rest) :
        (if (body.takeWhile isDigit).isEmpty then (none, '@' :: rest)
          else (some (sign ++ body.takeWhile isDigit), body.dropWhile isDigit)).2 ⊆ '@' :: rest := by
      split
      · exact List.Subset.refl _
      · exact List.Subset.trans (List.dropWhile_sublist _).subset within
    dsimp only
    split
    next after =>
      exact digits ['+'] after (List.subset_cons_of_subset _ (List.subset_cons_self _ _))
    next after =>
      exact digits ['-'] after (List.subset_cons_of_subset _ (List.subset_cons_self _ _))
    · exact digits [] rest (List.subset_cons_self _ _)
  · exact List.Subset.refl _

/-- The text up to closing braces is part of the text. -/
theorem untilBraces?_subset {message : List Char} (closed : untilBraces? text = some message) :
    message ⊆ text := by
  induction text using untilBraces?.induct generalizing message with
  | case1 => cases closed
  | case2 rest =>
    cases closed
    exact List.nil_subset _
  | case3 c rest open' ih =>
    rw [untilBraces?] at closed
    · obtain ⟨others, closes, rfl⟩ := Option.map_eq_some_iff.mp closed
      exact List.cons_subset_cons c (ih closes)
    · exact open'

/-- The severity and the message of a marker that is read. -/
theorem severity_and_subset_of_readMarker (read : readMarker severity text = some marker) :
    marker.severity = severity ∧ marker.message ⊆ text := by
  simp only [readMarker] at read
  split at read
  next body opened =>
    obtain ⟨message, closes, rfl⟩ := Option.map_eq_some_iff.mp read
    refine ⟨rfl, ?_⟩
    have within : message ⊆ '{' :: '{' :: body :=
      List.Subset.trans (untilBraces?_subset closes)
        (List.subset_cons_of_subset _ (List.subset_cons_self _ _))
    -- The braces stand in what is left after blanks, the offset and the mark of a pattern.
    rw [← opened] at within
    have untrimmed := List.Subset.trans within (List.dropWhile_sublist _).subset
    refine List.Subset.trans (List.Subset.trans untrimmed (takeOffset_subset _)) ?_
    split
    · exact List.drop_subset _ _
    · exact List.Subset.refl _
  · cases read

/-- The markers of a text have severities that compilers use and messages in the text. -/
theorem known_and_subset_of_mem_markersIn (member : (some marker, rest) ∈ markersIn text) :
    marker.severity ∈ Severity.all ∧ marker.message ⊆ text := by
  induction text with
  | nil => cases member
  | cons c after ih =>
    rw [markersIn] at member
    split at member
    next severity body starts =>
      rcases List.mem_cons.mp member with first | later
      · obtain ⟨read, -⟩ := Prod.mk.inj first
        obtain ⟨rfl, within⟩ := severity_and_subset_of_readMarker read.symm
        obtain ⟨known, left⟩ := known_and_subset_of_markerHead? starts
        exact ⟨known, List.Subset.trans within left⟩
      · obtain ⟨known, within⟩ := ih later
        exact ⟨known, List.subset_cons_of_subset _ within⟩
    · obtain ⟨known, within⟩ := ih member
      exact ⟨known, List.subset_cons_of_subset _ within⟩

/-- A comment is part of its line. -/
theorem commentOf_subset (line : List Char) : commentOf line ⊆ line := by
  induction line using commentOf.induct with
  | case1 => exact List.Subset.refl _
  | case2 rest => exact List.Subset.refl _
  | case3 rest => exact List.Subset.refl _
  | case4 c rest notLine notBlock ih =>
    rw [commentOf]
    · exact List.subset_cons_of_subset _ ih
    · exact notLine
    · exact notBlock

/-! ## Cases of markers -/

/-- A case that a marker declares expects one message and nothing else. -/
structure Declares (testCase : TestCase) (expectation : Expectation) : Prop where
  /-- The case is compiled. -/
  enabled : testCase.enabled = true
  /-- The message is all that it expects. -/
  expects : testCase.expectations = [expectation]
  /-- The message is about a line that can be shown. -/
  line : ∃ target : Nat, expectation.line = some (target : Int) ∧ isLong target = false
  /-- It has a severity that compilers use. -/
  known : expectation.severity ∈ Severity.all
  /-- Something has to be said. -/
  said : expectation.text.toList ≠ []
  /-- There are no blanks around it. -/
  trimmed : trim expectation.text.toList = expectation.text.toList
  /-- It stands in a line. -/
  unbroken : ∀ c ∈ expectation.text.toList, isLineBreak c = false

/-- The case of a marker that is about a line. -/
def Marker.caseAt (marker : Marker) (target : Nat) (name : String) : TestCase where
  name := name
  span := ⟨target, target⟩
  expectations :=
    [⟨name, String.ofList (trim marker.message), marker.isRegex, some target, marker.severity⟩]
  enabled := true
  guard := none

/-- The case of a marker is about the line that the marker gives, which its name can show, and its
message is not blank. -/
theorem exists_of_readCase (read : readCase path number total cases marker = .ok testCase) :
    ∃ target name, readTarget path number total marker.offset = .ok target ∧
      caseName target (countAbout target cases) = .ok name ∧
        trim marker.message ≠ [] ∧ testCase = marker.caseAt target name := by
  obtain ⟨target, given, afterTarget⟩ := Except.bind_eq_ok_iff.mp read
  by_cases silent : (trim marker.message).isEmpty = true
  · simp only [if_pos silent] at afterTarget
    cases afterTarget
  · simp only [if_neg silent] at afterTarget
    have said : trim marker.message ≠ [] := by simpa using silent
    by_cases pattern : marker.isRegex = true
    · simp only [if_pos pattern] at afterTarget
      obtain ⟨-, -, afterCheck⟩ := Except.bind_eq_ok_iff.mp afterTarget
      obtain ⟨name, named, equal⟩ := Except.bind_eq_ok_iff.mp afterCheck
      exact ⟨target, name, given, named, said, (Except.ok.inj equal).symm⟩
    · simp only [if_neg pattern] at afterTarget
      obtain ⟨name, named, equal⟩ := Except.bind_eq_ok_iff.mp afterTarget
      exact ⟨target, name, given, named, said, (Except.ok.inj equal).symm⟩

/-- The lines that names of cases show can be shown. -/
theorem isLong_of_caseName {target earlier : Nat} {name : String}
    (named : caseName target earlier = .ok name) : isLong target = false := by
  unfold caseName at named
  split at named
  · cases named
  next short =>
    rw [Bool.not_eq_true, Bool.or_eq_false_iff] at short
    exact short.1

/-- The case of a marker in a line declares one message. -/
theorem exists_declares_of_readCase (unbroken : ∀ c ∈ marker.message, isLineBreak c = false)
    (known : marker.severity ∈ Severity.all)
    (read : readCase path number total cases marker = .ok testCase) :
    ∃ expectation, Declares testCase expectation := by
  obtain ⟨target, name, -, named, said, rfl⟩ := exists_of_readCase read
  refine ⟨_, rfl, rfl, ⟨target, rfl, isLong_of_caseName named⟩, known, ?_, ?_, ?_⟩
  · rwa [String.toList_ofList]
  · rw [String.toList_ofList, trim_trim]
  · rw [String.toList_ofList]
    exact fun c member => unbroken c (trim_subset _ member)

/-- A case is that of a marker in one of the lines that were read. -/
def IsRead (path : Path) (total : Nat) (lines : List (List Char)) (testCase : TestCase) : Prop :=
  ∃ line ∈ lines, ∃ number earlier marker rest, 1 ≤ number ∧
    (some marker, rest) ∈ markersIn (commentOf line) ∧
      readCase path number total earlier marker = .ok testCase

/-- Every case of a fragment with inline markers is that of a marker in one of its lines. -/
theorem isRead_of_parse {text : String} (read : parse path text = .ok cases) :
    ∀ testCase ∈ cases,
      IsRead path (Text.lines text.toList).length (Text.lines text.toList) testCase := by
  intro testCase member
  obtain ⟨number, marker, earlier, found, one⟩ := (parse_eq_ok_iff.mp read).exists_of_mem member
  obtain ⟨counted, -, line, listed, rest, starts⟩ := exists_line_of_mem_found found
  exact ⟨line, listed, number, earlier, marker, rest, counted, starts, one⟩

/-- Every case of a fragment with inline markers declares one message. -/
theorem exists_declares_of_parse {text : String} (read : parse path text = .ok cases) :
    ∀ testCase ∈ cases, ∃ expectation, Declares testCase expectation := by
  intro testCase member
  obtain ⟨line, listed, _, _, marker, _, -, found, one⟩ := isRead_of_parse read testCase member
  obtain ⟨known, within⟩ := known_and_subset_of_mem_markersIn found
  refine exists_declares_of_readCase (fun c held => ?_) known one
  -- The message of a marker is part of its comment, which is part of the line.
  exact (exists_context_of_mem_lines listed).1 c (commentOf_subset line (within held))

/-! ## Cases in step with markers -/

/-- A case is that of something found in a text with so many lines: of a marker, about the line that the
marker denotes, which is a line of the text. -/
def IsCaseOf (total : Nat) (sighting : Nat × Option Marker) (testCase : TestCase) : Prop :=
  ∃ (marker : Marker) (target : Nat), sighting.2 = some marker ∧
    (target : Int) = denoted sighting.1 marker.offset ∧ 1 ≤ target ∧ target ≤ total ∧
      testCase = marker.caseAt target testCase.name

/-- Each case that is read is that of its marker. -/
theorem Reads.forall₂_isCaseOf {earlier : List TestCase} {sightings : List (Nat × Option Marker)}
    (reads : Reads path total earlier sightings cases)
    (inside : ∀ sighting ∈ sightings, 1 ≤ sighting.1 ∧ sighting.1 ≤ total) :
    List.Forall₂ (IsCaseOf total) sightings cases := by
  induction reads with
  | nil => exact .nil
  | @cons _ _ _ number marker _ one _ ih =>
    obtain ⟨counted, within⟩ := inside _ List.mem_cons_self
    obtain ⟨target, name, given, -, -, rfl⟩ := exists_of_readCase one
    have first := counted_of_readTarget counted given
    have last := le_of_readTarget within given
    refine .cons ⟨marker, target, rfl, (eq_denoted_of_readTarget given).1, first, last, rfl⟩ (ih ?_)
    intro other member
    exact inside other (List.mem_cons_of_mem _ member)

/-- A text with inline markers has one case for each marker, in reading order. -/
theorem isCaseOf_of_parse {text : String} (read : parse path text = .ok cases) :
    List.Forall₂ (IsCaseOf (Text.lines text.toList).length) (found text.toList) cases := by
  apply (parse_eq_ok_iff.mp read).forall₂_isCaseOf
  intro sighting member
  obtain ⟨first, last, -⟩ := exists_line_of_mem_found member
  exact ⟨first, last⟩

end NegativeCompile.Inline

namespace NegativeCompile.Inline

open Text

variable {text rest code : List Char} {c : Char} {severity : Severity}

/-! ## Starts of markers -/

/-- A text starts with the start of a marker: the fixed part, and a severity at which a word ends. -/
def StartsMarker (text : List Char) : Prop :=
  ∃ severity ∈ Severity.all, ∃ rest, text = markerStart ++ (severity.name.toList ++ rest) ∧
    rest.head?.any isWordChar = false

/-- A marker starts somewhere in a text. -/
def HoldsMarkerStart (text : List Char) : Prop :=
  ∃ before after, text = before ++ after ∧ StartsMarker after

/-- The severity that starts a text is taken from it. -/
theorem takeSeverity?_append (known : severity ∈ Severity.all) (rest : List Char) :
    takeSeverity? (severity.name.toList ++ rest) = some (severity, rest) := by
  -- No name of a severity starts another one.
  rcases Severity.eq_of_mem_all known with rfl | rfl | rfl | rfl <;> rfl

/-- What is taken as a severity starts the text. -/
theorem eq_append_of_takeSeverity? (taken : takeSeverity? text = some (severity, rest)) :
    severity ∈ Severity.all ∧ text = severity.name.toList ++ rest := by
  obtain ⟨first, known, starts⟩ := List.exists_of_findSome?_eq_some taken
  dsimp only at starts
  split at starts
  next holds =>
    cases starts
    exact ⟨known, (List.prefix_iff_eq_append.mp (startsWith_iff.mp holds)).symm⟩
  · cases starts

/-- The head of a marker is the fixed part and a severity, at which a word ends. -/
theorem markerHead?_eq_some_iff : markerHead? text = some (severity, rest) ↔
    severity ∈ Severity.all ∧ text = markerStart ++ (severity.name.toList ++ rest) ∧
      rest.head?.any isWordChar = false := by
  unfold markerHead?
  constructor
  · intro starts
    split at starts
    next fixed =>
      have whole := List.prefix_iff_eq_append.mp (startsWith_iff.mp fixed)
      split at starts
      next first after taken =>
        obtain ⟨known, named⟩ := eq_append_of_takeSeverity? taken
        split at starts
        · cases starts
        next ends =>
          cases starts
          rw [← named]
          exact ⟨known, whole.symm, by simpa using ends⟩
      · cases starts
    · cases starts
  · rintro ⟨known, rfl, ends⟩
    rw [if_pos (startsWith_iff.mpr (List.prefix_append _ _)), List.drop_left,
      takeSeverity?_append known]
    show (if _ then _ else _) = _
    rw [ends, if_neg Bool.false_ne_true]

/-- A text starts with the start of a marker just if it has the head of one. -/
theorem markerHead?_eq_none_iff : markerHead? text = none ↔ ¬ StartsMarker text := by
  constructor
  · rintro missing ⟨severity, known, rest, rfl, ends⟩
    rw [markerHead?_eq_some_iff.mpr ⟨known, rfl, ends⟩] at missing
    cases missing
  · intro unmarked
    cases head : markerHead? text with
    | none => rfl
    | some found =>
      obtain ⟨known, whole, ends⟩ := markerHead?_eq_some_iff.mp head
      exact absurd ⟨found.1, known, found.2, whole, ends⟩ unmarked

/-- No marker starts in the empty text. -/
theorem not_holdsMarkerStart_nil : ¬ HoldsMarkerStart [] := by
  rintro ⟨before, after, split, severity, -, rest, rfl, -⟩
  have empty := (List.append_eq_nil_iff.mp split.symm).2
  exact absurd empty (List.append_ne_nil_of_left_ne_nil (by decide) _)

/-- A marker starts in a text just if the text starts one or one starts after its first character. -/
theorem holdsMarkerStart_cons_iff :
    HoldsMarkerStart (c :: text) ↔ StartsMarker (c :: text) ∨ HoldsMarkerStart text := by
  constructor
  · rintro ⟨before, after, split, starts⟩
    cases before with
    | nil =>
      left
      rw [split]
      exact starts
    | cons first before =>
      right
      exact ⟨before, after, (List.cons.inj split).2, starts⟩
  · rintro (starts | ⟨before, after, rfl, starts⟩)
    · exact ⟨[], _, rfl, starts⟩
    · exact ⟨c :: before, after, rfl, starts⟩

/-- A text has markers just if one starts in it. -/
theorem markersIn_eq_nil_iff : markersIn text = [] ↔ ¬ HoldsMarkerStart text := by
  induction text with
  | nil => exact ⟨fun _ => not_holdsMarkerStart_nil, fun _ => rfl⟩
  | cons c rest ih =>
    rw [holdsMarkerStart_cons_iff, not_or, ← markerHead?_eq_none_iff, ← ih, markersIn]
    cases markerHead? (c :: rest) with
    | none => simp
    | some found => simp

/-! ## Texts in which no marker starts -/

/-- A character that stands in no start of a marker and ends words. -/
def Separates (c : Char) : Prop :=
  isWordChar c = false ∧ ∀ severity ∈ Severity.all, c ∉ markerStart ++ severity.name.toList

instance (c : Char) : Decidable (Separates c) :=
  inferInstanceAs (Decidable (_ ∧ _))

/-- What follows a separator does not matter for whether a marker starts before it. -/
theorem startsMarker_of_append_cons (separates : Separates c)
    (starts : StartsMarker (text ++ c :: rest)) : StartsMarker text := by
  obtain ⟨severity, known, after, whole, ends⟩ := starts
  have missing := separates.2 severity known
  rw [← List.append_assoc] at whole
  rcases List.append_eq_append_iff.mp whole with ⟨inside, start, tail⟩ | ⟨inside, rfl, tail⟩
  · -- The start of the marker does not reach the separator.
    cases inside with
    | nil =>
      rw [List.append_nil] at start
      exact ⟨severity, known, [], by rw [← start, List.append_nil], rfl⟩
    | cons first more =>
      obtain ⟨rfl, -⟩ := List.cons.inj tail
      rw [start] at missing
      exact absurd (List.mem_append_right _ List.mem_cons_self) missing
  · refine ⟨severity, known, inside, List.append_assoc _ _ _, ?_⟩
    rw [tail] at ends
    cases inside with
    | nil => rfl
    | cons first more => exact ends

/-- A separator is passed over. -/
theorem markersIn_cons (separates : Separates c) (rest : List Char) :
    markersIn (c :: rest) = markersIn rest := by
  have none : markerHead? (c :: rest) = none := by
    rw [markerHead?_eq_none_iff]
    intro starts
    have empty : StartsMarker [] := startsMarker_of_append_cons separates starts
    obtain ⟨severity, -, after, whole, -⟩ := empty
    exact absurd whole.symm (List.append_ne_nil_of_left_ne_nil (by decide) _)
  rw [markersIn, none]

/-- Up to a separator, what holds no start of a marker is passed over. -/
theorem markersIn_append_cons (separates : Separates c) (unmarked : markersIn text = [])
    (rest : List Char) : markersIn (text ++ c :: rest) = markersIn rest := by
  induction text with
  | nil => exact markersIn_cons separates rest
  | cons first text ih =>
    have apart := markersIn_eq_nil_iff.mp unmarked
    have here : ¬ StartsMarker (first :: text) := fun starts => apart ⟨[], _, rfl, starts⟩
    have later : markersIn text = [] := by
      rw [markersIn_eq_nil_iff]
      rintro ⟨before, after, rfl, starts⟩
      exact apart ⟨first :: before, after, rfl, starts⟩
    have none : markerHead? (first :: (text ++ c :: rest)) = none := by
      rw [markerHead?_eq_none_iff]
      intro starts
      exact here (startsMarker_of_append_cons separates starts)
    rw [List.cons_append, markersIn, none]
    exact ih later

/-- No marker starts in a text without the letter that all markers start with. -/
theorem markersIn_eq_nil_of_notMem (missing : 'e' ∉ text) : markersIn text = [] := by
  rw [markersIn_eq_nil_iff]
  rintro ⟨before, after, rfl, severity, -, rest, rfl, -⟩
  apply missing
  rw [List.mem_append, List.mem_append]
  exact .inr (.inl (by decide))

/-! ## Comments -/

/-- There is no comment in code without the signs that start one. -/
structure IsCode (code : List Char) : Prop where
  /-- No comment up to the end of the line starts in it. -/
  line : ¬ ['/', '/'] <:+: code
  /-- No other comment starts in it. -/
  block : ¬ ['/', '*'] <:+: code
  /-- It stands in a line. -/
  unbroken : ∀ c ∈ code, isLineBreak c = false

/-- Code that follows some character is code. -/
theorem IsCode.tail (fits : IsCode (c :: code)) : IsCode code where
  line occurs := fits.line (List.infix_cons occurs)
  block occurs := fits.block (List.infix_cons occurs)
  unbroken other member := fits.unbroken other (List.mem_cons_of_mem _ member)

/-- Code has no comment. -/
theorem IsCode.commentOf_eq_nil (fits : IsCode code) : commentOf code = [] := by
  induction code using commentOf.induct with
  | case1 => rfl
  | case2 rest => exact absurd (List.prefix_append ['/', '/'] rest).isInfix fits.line
  | case3 rest => exact absurd (List.prefix_append ['/', '*'] rest).isInfix fits.block
  | case4 c rest notLine notBlock ih =>
    rw [commentOf]
    · exact ih fits.tail
    · exact notLine
    · exact notBlock

/-- The markers after code are those of the comment that follows it. -/
theorem IsCode.markersIn_commentOf (fits : IsCode code) (rest : List Char) :
    markersIn (commentOf (code ++ '/' :: '/' :: rest)) = markersIn rest := by
  have slash (text : List Char) : markersIn ('/' :: text) = markersIn text :=
    markersIn_cons (by decide +kernel) text
  induction code with
  | nil =>
    rw [List.nil_append, commentOf, slash, slash]
  | cons c code ih =>
    by_cases start : c = '/'
    · subst start
      cases code with
      | nil =>
        -- The code ends in a slash, which belongs to the comment then.
        show markersIn ('/' :: '/' :: '/' :: rest) = markersIn rest
        rw [slash, slash, slash]
      | cons next more =>
        rw [List.cons_append, List.cons_append, commentOf]
        · exact ih fits.tail
        · intro after _ same
          obtain ⟨rfl, -⟩ := List.cons.inj same
          exact fits.line (List.prefix_append ['/', '/'] more).isInfix
        · intro after _ same
          obtain ⟨rfl, -⟩ := List.cons.inj same
          exact fits.block (List.prefix_append ['/', '*'] more).isInfix
    · rw [List.cons_append, commentOf]
      · exact ih fits.tail
      · intro after same
        exact absurd same start
      · intro after same
        exact absurd same start

end NegativeCompile.Inline
