import NegativeCompile.Proofs.Lists
import NegativeCompile.Proofs.Inline.Markers
import NegativeCompile.Proofs.Inline.Numbering

/-! # Where markers stand

The places in a text where markers start, each with the text before it (`Inline.starts`). The number of
the line of a marker is one more than the number of line breaks before it, whatever they are. So the
case of a marker that counts from its line is about the line that the line feeds before the marker give
just if nothing but line feeds breaks lines before it (`Inline.target_eq_iff`). Form feeds and other
marks break lines, too, and shift the numbers of all lines after them
(`Inline.target_ne_after_form_feed`). -/

namespace NegativeCompile

open Files Text

/-! ## Lines and what stands before them -/

namespace Text

variable {text before current : List Char} {number : Nat}

/-- A line of a text. -/
structure Located where
  /-- Its number. -/
  number : Nat
  /-- The text before it. -/
  before : List Char
  /-- The line. -/
  line : List Char

/-- The lines of a text from a place on: `before` stands before the first one, which has a number, and
of which `current` has been read, last character first. -/
def locatedFrom (number : Nat) (before current : List Char) : List Char → List Located
  | [] => if current.isEmpty then [] else [⟨number, before, current.reverse⟩]
  | '\r' :: '\n' :: rest =>
    ⟨number, before, current.reverse⟩ ::
      locatedFrom (number + 1) (before ++ current.reverse ++ ['\r', '\n']) [] rest
  | c :: rest =>
    if isLineBreak c then
      ⟨number, before, current.reverse⟩ ::
        locatedFrom (number + 1) (before ++ current.reverse ++ [c]) [] rest
    else locatedFrom number before (c :: current) rest

/-- The lines of a text. -/
def located (text : List Char) : List Located := locatedFrom 1 [] [] text

/-- A line stands where it is located: no line break is in it, and it goes on to one or to the end of
the text. -/
def Located.StandsIn (located : Located) (text : List Char) : Prop :=
  (∀ c ∈ located.line, isLineBreak c = false) ∧ ∃ after,
    text = located.before ++ (located.line ++ after) ∧
      ∀ c, after.head? = some c → isLineBreak c = true

/-- Lines stand where they are located. -/
theorem standsIn_of_mem_locatedFrom {located : Located}
    (unbroken : ∀ c ∈ current, isLineBreak c = false)
    (member : located ∈ locatedFrom number before current text) :
    located.StandsIn (before ++ (current.reverse ++ text)) := by
  have whole {line : List Char} (unbroken : ∀ c ∈ line, isLineBreak c = false) :
      ∀ c ∈ line.reverse, isLineBreak c = false :=
    fun c within => unbroken c (List.mem_reverse.mp within)
  fun_induction locatedFrom number before current text with
  | case1 => cases member
  | case2 number before current full =>
    rw [List.mem_singleton.mp member]
    refine ⟨whole unbroken, [], rfl, fun c first => ?_⟩
    cases first
  | case3 number before current rest ih =>
    rcases List.mem_cons.mp member with rfl | later
    · refine ⟨whole unbroken, '\r' :: '\n' :: rest, rfl, fun c first => ?_⟩
      cases first
      decide
    · have stands := ih (by simp) later
      rwa [List.reverse_nil, List.nil_append, List.append_assoc, List.append_assoc] at stands
  | case4 number before current c rest notBoth breaks ih =>
    rcases List.mem_cons.mp member with rfl | later
    · refine ⟨whole unbroken, c :: rest, rfl, fun other first => ?_⟩
      cases first
      exact breaks
    · have stands := ih (by simp) later
      rwa [List.reverse_nil, List.nil_append, List.append_assoc, List.append_assoc] at stands
  | case5 number before current c rest notBoth continues ih =>
    have stands := ih (unbroken_cons continues unbroken) member
    rwa [List.reverse_cons, List.append_assoc] at stands

/-- There is no line break in what stands in a line. -/
theorem countP_eq_zero_of_unbroken {line : List Char} (unbroken : ∀ c ∈ line, isLineBreak c = false) :
    line.countP (isLineBreak ·) = 0 := by
  rw [List.countP_eq_zero]
  intro c within
  rw [unbroken c within]
  exact Bool.false_ne_true

/-- Without carriage returns the number of a line is one more than the number of line breaks before
it. -/
theorem number_of_mem_locatedFrom {located : Located} (bare : '\r' ∉ text)
    (unbroken : ∀ c ∈ current, isLineBreak c = false)
    (counted : number = 1 + before.countP (isLineBreak ·))
    (member : located ∈ locatedFrom number before current text) :
    located.number = 1 + located.before.countP (isLineBreak ·) := by
  fun_induction locatedFrom number before current text with
  | case1 => cases member
  | case2 number before current full =>
    rw [List.mem_singleton.mp member]
    exact counted
  | case3 number before current rest ih => exact absurd List.mem_cons_self bare
  | case4 number before current c rest notBoth breaks ih =>
    rcases List.mem_cons.mp member with rfl | later
    · exact counted
    · refine ih (fun within => bare (List.mem_cons_of_mem c within)) (by simp) ?_ later
      -- Nothing breaks the line but the character at its end.
      have one : [c].countP (isLineBreak ·) = 1 := by simp [breaks]
      rw [List.countP_append, List.countP_append, List.countP_reverse,
        countP_eq_zero_of_unbroken unbroken, one]
      omega
  | case5 number before current c rest notBoth continues ih =>
    exact ih (fun within => bare (List.mem_cons_of_mem c within)) (unbroken_cons continues unbroken)
      counted member

/-- Line feeds are all the line breaks in a text just if there are as many of both. -/
theorem countP_isLineBreak_eq_iff (text : List Char) :
    text.countP (isLineBreak ·) = text.count '\n' ↔ ∀ c ∈ text, isLineBreak c = true → c = '\n' := by
  have breaks : isLineBreak '\n' = true := by decide
  induction text with
  | nil => simp
  | cons c rest ih =>
    have fewer : rest.count '\n' ≤ rest.countP (isLineBreak ·) := by
      rw [List.count]
      apply List.countP_mono_left
      intro other _ feed
      rw [beq_iff_eq.mp feed]
      exact breaks
    rw [List.forall_mem_cons, List.countP_cons, List.count_cons]
    by_cases feed : c = '\n'
    · rw [feed, breaks]
      simpa using ih
    · by_cases other : isLineBreak c = true
      · simp only [other, if_true, beq_iff_eq, feed, if_false, forall_true_left, false_and, iff_false]
        omega
      · simpa [other, feed] using ih

end Text

/-! ## Starts of markers -/

namespace Inline

variable {path : Path} {cases : List TestCase} {line text : List Char} {offset : Option (List Char)}

/-- A place in a text where a marker starts. -/
structure Start where
  /-- The text before it. -/
  before : List Char
  /-- The number of its line. -/
  line : Nat
  /-- The marker, if it is well formed. -/
  found : Option Marker
  deriving DecidableEq, Repr

/-- The places in a line where markers start: each is known by the text from it on. -/
def startsIn (located : Located) : List Start :=
  (markersIn (commentOf located.line)).map fun start =>
    ⟨located.before ++ located.line.take (located.line.length - start.2.length), located.number,
      start.1⟩

/-- The places in a text where markers start. -/
def starts (text : List Char) : List Start := (located text).flatMap startsIn

/-- They are the places of what is found in the text. -/
theorem map_starts_from (number : Nat) (before current text : List Char) :
    ((locatedFrom number before current text).flatMap startsIn).map
        (fun start => (start.line, start.found)) =
      foundFrom number (linesFrom current text) := by
  have here (located : Located) : (startsIn located).map (fun start => (start.line, start.found)) =
      (markersIn (commentOf located.line)).map fun start => (located.number, start.1) := by
    rw [startsIn, List.map_map]
    rfl
  fun_induction locatedFrom number before current text with
  | case1 number before current empty =>
    rw [linesFrom, if_pos empty]
    rfl
  | case2 number before current full =>
    rw [linesFrom_nil full, foundFrom, foundFrom, List.flatMap_singleton, here, List.append_nil]
  | case3 number before current rest ih =>
    rw [linesFrom, foundFrom, List.flatMap_cons, List.map_append, here, ih]
  | case4 number before current c rest notBoth breaks ih =>
    rw [linesFrom_cons_of_break breaks notBoth, foundFrom, List.flatMap_cons, List.map_append, here,
      ih]
  | case5 number before current c rest notBoth continues ih =>
    rw [linesFrom_cons continues, ih]

/-- They are the places of what is found in the text. -/
theorem map_starts (text : List Char) :
    (starts text).map (fun start => (start.line, start.found)) = found text :=
  map_starts_from 1 [] [] text

/-- What is listed of a text is what stands at its end: the head of a marker, and what is read of the
rest. -/
theorem isSuffix_of_mem_markersIn {found : Option Marker} {seen : List Char}
    (member : (found, seen) ∈ markersIn text) : seen <:+ text ∧ ∃ severity body,
      markerHead? seen = some (severity, body) ∧ found = readMarker severity body := by
  induction text with
  | nil => cases member
  | cons c rest ih =>
    rw [markersIn] at member
    split at member
    next severity body head =>
      rcases List.mem_cons.mp member with here | later
      · obtain ⟨rfl, rfl⟩ := Prod.mk.inj here
        exact ⟨List.suffix_rfl, severity, body, head, rfl⟩
      · obtain ⟨ends, holds⟩ := ih later
        exact ⟨ends.trans (List.suffix_cons c rest), holds⟩
    · obtain ⟨ends, holds⟩ := ih member
      exact ⟨ends.trans (List.suffix_cons c rest), holds⟩

/-- A comment is the end of its line. -/
theorem commentOf_isSuffix (line : List Char) : commentOf line <:+ line := by
  induction line using commentOf.induct with
  | case1 => exact List.suffix_rfl
  | case2 rest => exact List.suffix_rfl
  | case3 rest => exact List.suffix_rfl
  | case4 c rest notLine notBlock ih =>
    rw [commentOf]
    · exact ih.trans (List.suffix_cons c rest)
    · exact notLine
    · exact notBlock

/-- A marker starts at a place in a text, and is read from there up to the end of the line. -/
def Start.StandsIn (start : Start) (text : List Char) : Prop :=
  ∃ seen after, text = start.before ++ (seen ++ after) ∧
    (∀ c ∈ seen, isLineBreak c = false) ∧ (∀ c, after.head? = some c → isLineBreak c = true) ∧
      ∃ severity body, markerHead? seen = some (severity, body) ∧
        start.found = readMarker severity body

/-- Markers stand where they are listed. -/
theorem standsIn_of_mem_starts {start : Start} (member : start ∈ starts text) :
    start.StandsIn text := by
  obtain ⟨located, listed, within⟩ := List.mem_flatMap.mp member
  obtain ⟨⟨found, seen⟩, among, rfl⟩ := List.mem_map.mp within
  obtain ⟨unbroken, after, whole, breaks⟩ := standsIn_of_mem_locatedFrom (by simp) listed
  obtain ⟨ends, severity, body, head, reads⟩ := isSuffix_of_mem_markersIn among
  have split := List.suffix_iff_eq_append.mp (ends.trans (commentOf_isSuffix located.line))
  refine ⟨seen, after, ?_, ?_, breaks, severity, body, head, reads⟩
  · rw [List.append_assoc, ← List.append_assoc _ seen, split]
    exact whole
  · intro c inside
    rw [← split] at unbroken
    exact unbroken c (List.mem_append_right _ inside)

/-- Without carriage returns the line of a marker is one more than the number of line breaks before the
marker. -/
theorem line_of_mem_starts {start : Start} (bare : '\r' ∉ text) (member : start ∈ starts text) :
    start.line = 1 + start.before.countP (isLineBreak ·) := by
  obtain ⟨located, listed, within⟩ := List.mem_flatMap.mp member
  obtain ⟨⟨found, seen⟩, -, rfl⟩ := List.mem_map.mp within
  obtain ⟨unbroken, -⟩ := standsIn_of_mem_locatedFrom (by simp) listed
  have number : located.number = 1 + located.before.countP (isLineBreak ·) :=
    number_of_mem_locatedFrom bare (by simp) (show 1 = 1 + [].countP (isLineBreak ·) from rfl) listed
  have none : (located.line.take (located.line.length - seen.length)).countP (isLineBreak ·) = 0 :=
    countP_eq_zero_of_unbroken fun c inside => unbroken c (List.mem_of_mem_take inside)
  rw [List.countP_append, none, Nat.add_zero]
  exact number

/-! ## Lines that markers count from their own -/

/-- The line of a marker matters for the line that it denotes: it gives none, or one with a sign. -/
def IsCounted : Option (List Char) → Prop
  | none => True
  | some ('+' :: _) => True
  | some ('-' :: _) => True
  | some _ => False

/-- What a marker denotes in two lines is the same just if the lines are, or they do not matter. -/
theorem denoted_eq_iff (first second : Nat) :
    denoted first offset = denoted second offset ↔ (IsCounted offset → first = second) := by
  fun_cases IsCounted offset with
  | case1 => simp [denoted]
  | case2 digits => simp [denoted]
  | case3 digits => simp [denoted]
  | case4 written noPlus noMinus =>
    rw [denoted_of_unsigned first noPlus noMinus, denoted_of_unsigned second noPlus noMinus]
    simp

/-- In a text without carriage returns whose markers can be read, each case is about the line that its
marker denotes if lines are numbered by the line breaks before them. If the marker counts from its line,
this is the line that is found by counting line feeds just if nothing else breaks lines before the
marker; if it names a line, it is this line in any case. -/
theorem target_eq_iff {text : String} (bare : '\r' ∉ text.toList)
    (read : parse path text = .ok cases) :
    List.Forall₂ (fun start testCase => start.StandsIn text.toList ∧
      ∃ (marker : Marker) (target : Nat), start.found = some marker ∧ IsAbout testCase target ∧
        (target : Int) = denoted (1 + start.before.countP (isLineBreak ·)) marker.offset ∧
          ((target : Int) = denoted (1 + start.before.count '\n') marker.offset ↔
            (IsCounted marker.offset → ∀ c ∈ start.before, isLineBreak c = true → c = '\n')))
      (starts text.toList) cases := by
  have pairs := isCaseOf_of_parse read
  rw [← map_starts, List.forall₂_map_left_iff] at pairs
  refine pairs.imp_of_mem ?_
  rintro start member testCase ⟨marker, target, found, denotes, -, -, case⟩
  have line := line_of_mem_starts bare member
  dsimp only at denotes
  rw [line] at denotes
  refine ⟨standsIn_of_mem_starts member, marker, target, found, ?_, denotes, ?_⟩
  · rw [case]
    exact ⟨rfl, rfl⟩
  · rw [denotes, denoted_eq_iff, Nat.add_left_cancel_iff, countP_isLineBreak_eq_iff]

namespace Sample

/-- In a text without other line breaks than line feeds all cases are about the lines that line feeds
give. -/
theorem target_eq_crossing : '\r' ∉ crossing.toList ∧
    parse (.ofParts ["a.nc"]) crossing = .ok crossingCases ∧
      List.Forall₂ (fun start testCase => ∃ (marker : Marker) (target : Nat),
        start.found = some marker ∧ IsAbout testCase target ∧
          (target : Int) = denoted (1 + start.before.count '\n') marker.offset)
        (starts crossing.toList) crossingCases := by
  have bare : '\r' ∉ crossing.toList := by decide
  have fed : ∀ start ∈ starts crossing.toList,
      ∀ c ∈ start.before, isLineBreak c = true → c = '\n' := by
    have listed : (starts crossing.toList).all (fun start =>
        start.before.all fun c => !isLineBreak c || c == '\n') = true := by decide +kernel
    intro start member c within breaks
    have passes := List.all_eq_true.mp (List.all_eq_true.mp listed start member) c within
    simpa [breaks] using passes
  refine ⟨bare, parse_crossing, (target_eq_iff bare parse_crossing).imp_of_mem ?_⟩
  rintro start member testCase ⟨-, marker, target, found, about, -, agrees⟩
  exact ⟨marker, target, found, about, agrees.mpr fun _ => fed start member⟩

/-- A line with a form feed in it before a marker. -/
def formFed : String := "a\x0cb // expected-error {{x}}\n"

end Sample

/-- A form feed before a marker shifts the line of its case, though no line feed is there. -/
theorem target_ne_after_form_feed : ¬ ∀ (path : Path) (text : String) (cases : List TestCase),
    '\r' ∉ text.toList → parse path text = .ok cases →
      List.Forall₂ (fun start testCase => ∀ marker, start.found = some marker →
        IsCounted marker.offset → ∃ target : Nat, IsAbout testCase target ∧
          (target : Int) = denoted (1 + start.before.count '\n') marker.offset)
        (starts text.toList) cases := by
  intro agree
  have read : parse (.ofParts ["a.nc"]) Sample.formFed =
      .ok [⟨"line_2", ⟨2, 2⟩, [⟨"line_2", "x", false, some 2, .error⟩], true, none⟩] :=
    Except.eq_ok_of_toOption (by decide +kernel)
  have place : starts Sample.formFed.toList =
      [⟨"a\x0cb // ".toList, 2, some ⟨.error, false, none, ['x']⟩⟩] := by decide +kernel
  have pairs := agree (.ofParts ["a.nc"]) Sample.formFed _ (by decide) read
  rw [place] at pairs
  obtain ⟨first, -⟩ := List.forall₂_cons.mp pairs
  obtain ⟨target, about, line⟩ := first _ rfl trivial
  have span := congrArg Span.first about.span
  have feeds : "a\x0cb // ".toList.count '\n' = 0 := by decide
  simp only [feeds, denoted] at line
  simp only at span
  omega

end Inline

end NegativeCompile
