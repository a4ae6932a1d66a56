import NegativeCompile.Extension
import NegativeCompile.Proofs.Guarded.Headings
import NegativeCompile.Proofs.Text.Lines
import NegativeCompile.Proofs.Run.Loaded
import NegativeCompile.Proofs.Inline.ReadingOrder
import NegativeCompile.Proofs.Diagnostic.Rendered

/-! # Annotations that can be judged

Annotations can be faulty in two ways. Most faults are told as faults of the annotations
(`Failure.IsAnnotations`), but a number that is out of range, or options of a pattern that do not go
together, are not. A text without such faults is tractable (`Fragment.Tractable`): reading it gives
its cases or fails for its annotations (`Fragment.failsOnly_parse`), whatever else is in it. -/

namespace NegativeCompile

open Files Text

/-! ## Patterns -/

/-- A text is a pattern or breaks a rule of patterns: no number in it is out of range, and its options
go together. -/
def Regex.Tractable (pattern : List Char) : Prop :=
  Except.FailsOnly (fun problem => problem.isInvalid = true) (Regex.read pattern)

variable {path : Path} {number total : Nat} {text : String}

/-! ## Inline markers -/

namespace Inline

variable {marker : Marker} {offset : Option (List Char)} {cases more : List TestCase}
variable {markers : List (Option Marker × List Char)} {lines : List (List Char)}

/-- A marker can be judged. -/
structure Marker.Tractable (marker : Marker) : Prop where
  /-- The line that it gives has no more digits than can be read. -/
  offset : ∀ written, marker.offset = some written → (takeSign written).2.length ≤ digitLimit
  /-- If its message is a pattern it can be judged. -/
  pattern : marker.isRegex = true → Regex.Tractable (trim marker.message)

/-- The line of a marker can be read, or is outside the fragment, if it has not too many digits. -/
theorem failsOnly_readTarget
    (short : ∀ written, offset = some written → (takeSign written).2.length ≤ digitLimit) :
    Except.FailsOnly Failure.IsAnnotations (readTarget path number total offset) := by
  cases offset with
  | none => exact .ok _
  | some written =>
    have few : ¬ digitLimit < (takeSign written).2.length := Nat.not_lt.mpr (short written rfl)
    have read : ∃ target, targetOf number written = .ok target := by
      unfold targetOf
      simp only [naturalOfDigits, if_neg few]
      exact ⟨_, rfl⟩
    obtain ⟨target, read⟩ := read
    simp only [readTarget, read]
    split
    · exact .error (Failure.isAnnotations_annotations _ _ _)
    · exact .ok _

/-- The case of a line has a name if the line and the number of the case can be shown. -/
theorem exists_caseName {target earlier : Nat} (short : target < 10 ^ digitLimit)
    (few : earlier + 1 < 10 ^ digitLimit) : ∃ name, caseName target earlier = .ok name := by
  have shown : isLong (target : Int) = false := isLong_eq_false_iff.mpr short
  have counted : isLong ((earlier : Int) + 1) = false := isLong_eq_false_iff.mpr few
  rw [caseName, shown, counted]
  exact ⟨_, rfl⟩

/-- A message that can be judged is a pattern or breaks a rule of patterns. -/
theorem failsOnly_checkPattern {pattern : List Char} (tractable : Regex.Tractable pattern) :
    Except.FailsOnly Failure.IsAnnotations (checkPattern path number pattern) := by
  unfold checkPattern
  split
  · exact .ok _
  next problem fails =>
    rw [if_pos (tractable problem fails)]
    exact .error (Failure.isAnnotations_annotations _ _ _)

/-- A marker that can be judged gives a case or is faulty. -/
theorem failsOnly_readCase (tractable : marker.Tractable) (inside : number ≤ total)
    (short : total < 10 ^ digitLimit) (room : cases.length + 1 < 10 ^ digitLimit) :
    Except.FailsOnly Failure.IsAnnotations (readCase path number total cases marker) := by
  refine (failsOnly_readTarget tractable.offset).bind fun target read => ?_
  have within := le_of_readTarget inside read
  have counted : countAbout target cases ≤ cases.length := List.countP_le_length
  have named : Except.FailsOnly Failure.IsAnnotations (caseName target (countAbout target cases)) := by
    obtain ⟨name, named⟩ : ∃ name, caseName target (countAbout target cases) = .ok name :=
      exists_caseName (by omega) (by omega)
    rw [named]
    exact .ok name
  by_cases silent : (trim marker.message).isEmpty = true
  · simp only [if_pos silent]
    exact .error (Failure.isAnnotations_annotations _ _ _)
  · simp only [if_neg silent]
    by_cases pattern : marker.isRegex = true
    · simp only [if_pos pattern]
      refine (failsOnly_checkPattern (tractable.pattern pattern)).bind fun _ _ => ?_
      exact named.bind fun name _ => .ok _
    · simp only [if_neg pattern]
      exact named.bind fun name _ => .ok _

/-- Reading the markers of a line adds one case for each of them. -/
theorem length_of_readMarkers (read : readMarkers path number total cases markers = .ok more) :
    more.length = cases.length + markers.length := by
  obtain ⟨added, rfl, reads⟩ := readMarkers_eq_ok_iff.mp read
  rw [List.length_append, reads.length_eq, List.length_map]

/-- Markers that can be judged give cases, or one of them is faulty. -/
theorem failsOnly_readMarkers
    (tractable : ∀ marker rest, (some marker, rest) ∈ markers → marker.Tractable)
    (inside : number ≤ total) (short : total < 10 ^ digitLimit)
    (room : cases.length + markers.length < 10 ^ digitLimit) :
    Except.FailsOnly Failure.IsAnnotations (readMarkers path number total cases markers) := by
  induction markers generalizing cases with
  | nil => exact .ok _
  | cons first rest ih =>
    obtain ⟨found, text⟩ := first
    rw [List.length_cons] at room
    cases found with
    | none => exact .error (Failure.isAnnotations_annotations _ _ _)
    | some marker =>
      have here := tractable marker text List.mem_cons_self
      refine (failsOnly_readCase here inside short (by omega)).bind fun testCase _ => ?_
      refine ih (fun other rest member => tractable other rest (List.mem_cons_of_mem _ member)) ?_
      rw [List.length_append, List.length_singleton]
      omega

/-- How many markers start in lines. -/
def markerCount (lines : List (List Char)) : Nat :=
  (lines.map fun line => (markersIn (commentOf line)).length).sum

/-- Lines whose markers can be judged give cases, or one of the markers is faulty. -/
theorem failsOnly_readLines
    (tractable : ∀ line ∈ lines, ∀ marker rest,
      (some marker, rest) ∈ markersIn (commentOf line) → marker.Tractable)
    (inside : number + lines.length ≤ total + 1) (short : total < 10 ^ digitLimit)
    (room : cases.length + markerCount lines < 10 ^ digitLimit) :
    Except.FailsOnly Failure.IsAnnotations (readLines path total number cases lines) := by
  -- The cases read and the markers that are left make up the same number all along.
  induction lines generalizing cases number with
  | nil => exact .ok _
  | cons line rest ih =>
    rw [List.length_cons] at inside
    rw [markerCount, List.map_cons, List.sum_cons, ← markerCount] at room
    have here := tractable line List.mem_cons_self
    refine (failsOnly_readMarkers here (by omega) short (by omega)).bind fun more read => ?_
    have counted := length_of_readMarkers read
    refine ih (fun other member => tractable other (List.mem_cons_of_mem _ member)) ?_ ?_
    · omega
    · omega

/-- There are no more markers than characters. -/
theorem length_markersIn_le (text : List Char) : (markersIn text).length ≤ text.length := by
  induction text with
  | nil => exact Nat.le_refl _
  | cons c rest ih =>
    rw [markersIn]
    split
    · rw [List.length_cons, List.length_cons]
      omega
    · rw [List.length_cons]
      omega

/-- A comment is no longer than its line. -/
theorem length_commentOf_le (line : List Char) : (commentOf line).length ≤ line.length := by
  induction line using commentOf.induct with
  | case1 => exact Nat.le_refl _
  | case2 rest => exact Nat.le_refl _
  | case3 rest => exact Nat.le_refl _
  | case4 c rest notLine notBlock ih =>
    rw [commentOf]
    · rw [List.length_cons]
      omega
    · exact notLine
    · exact notBlock

/-- There are no more markers than characters in lines. -/
theorem markerCount_le (lines : List (List Char)) : markerCount lines ≤ lines.flatten.length := by
  induction lines with
  | nil => exact Nat.le_refl _
  | cons line rest ih =>
    rw [markerCount, List.map_cons, List.sum_cons, ← markerCount, List.flatten_cons,
      List.length_append]
    have here := (length_markersIn_le (commentOf line)).trans (length_commentOf_le line)
    omega

/-- A text with inline markers can be judged. -/
structure Tractable (text : String) : Prop where
  /-- Each of its markers can be. -/
  markers : ∀ line ∈ Text.lines text.toList, ∀ marker rest,
    (some marker, rest) ∈ markersIn (commentOf line) → marker.Tractable
  /-- Its characters can be counted: their number can be shown. -/
  short : text.toList.length < 10 ^ digitLimit

/-- A text with inline markers that can be judged has its cases, or one of its markers is faulty. -/
theorem failsOnly_parse (tractable : Tractable text) :
    Except.FailsOnly Failure.IsAnnotations (parse path text) := by
  have short := tractable.short
  have lined := length_lines_le text.toList
  have counted := (markerCount_le (Text.lines text.toList)).trans (length_flatten_lines_le text.toList)
  refine failsOnly_readLines tractable.markers ?_ ?_ ?_
  · omega
  · omega
  · rw [List.length_nil]
    omega

end Inline

/-! ## Guards -/

namespace Guarded

variable {symbol : String} {comment : Option (List Char)} {entry : Datum} {progress : Progress}
variable {guard : Guard} {line : List Char} {lines : List (List Char)}

/-- An entry of a list of patterns can be judged. -/
structure TractableEntry (entry : Datum) : Prop where
  /-- If it is a text it can be judged as a pattern. -/
  pattern : ∀ written, entry = .text written → Regex.Tractable written.toList
  /-- It can be shown. -/
  short : entry.hasLongNumber = false

/-- The comment after a test can be judged. -/
structure TractableComment (comment : List Char) : Prop where
  /-- If it holds a list, this stands for something or is not well formed. -/
  list : ∀ literal, listLiteral? comment = some literal →
    Except.FailsOnly (· = .malformed) (Literal.read literal)
  /-- The entries of the list can be judged. -/
  entries : ∀ literal entries, listLiteral? comment = some literal →
    Literal.read literal = .ok (.list entries) → ∀ entry ∈ entries, TractableEntry entry

/-- An entry that can be judged is a pattern or is faulty. -/
theorem failsOnly_readPattern (tractable : TractableEntry entry) :
    Except.FailsOnly Failure.IsAnnotations (readPattern path number symbol entry) := by
  unfold readPattern
  split
  next written =>
    split
    · exact .ok _
    next problem fails =>
      rw [if_pos (tractable.pattern written rfl problem fails)]
      exact .error (Failure.isAnnotations_annotations _ _ _)
  next other notText =>
    rw [Datum.written?, tractable.short]
    exact .error (Failure.isAnnotations_annotations _ _ _)

/-- A comment that can be judged lists patterns or is faulty. -/
theorem failsOnly_readPatterns
    (tractable : ∀ written, comment = some written → TractableComment written) :
    Except.FailsOnly Failure.IsAnnotations (readPatterns path number symbol comment) := by
  unfold readPatterns
  split
  · exact .error (Failure.isAnnotations_annotations _ _ _)
  next written =>
    have judged := tractable written rfl
    split
    · exact .error (Failure.isAnnotations_annotations _ _ _)
    next literal holds =>
      have malformed := judged.list literal holds
      split
      · exact .error (Failure.isAnnotations_annotations _ _ _)
      next reads => cases malformed _ reads
      next reads => cases malformed _ reads
      next first rest reads =>
        refine .mapM fun entry member => ?_
        exact failsOnly_readPattern (judged.entries literal _ holds reads entry member)
      · exact .error (Failure.isAnnotations_annotations _ _ _)

/-- A line can be judged: if it opens a branch of a case, the comment in it can be. -/
def TractableLine (line : List Char) : Prop :=
  ∀ guard, guard? line = some guard → ∀ written, guard.comment = some written →
    TractableComment written

/-- A line that can be judged is read or is faulty. -/
theorem failsOnly_step (tractable : TractableLine line) :
    Except.FailsOnly Failure.IsAnnotations (progress.step path number line) := by
  rcases progress.step_cases path number line with ⟨guard, reads, opens⟩ | passes
  · rw [opens]
    unfold Progress.openBranch
    dsimp only
    split
    · exact .error (Failure.isAnnotations_annotations _ _ _)
    · refine Except.FailsOnly.bind (failsOnly_readPatterns (tractable guard reads)) fun _ _ => ?_
      exact .ok _
  · rw [passes]
    exact .ok _

/-- Lines that can be judged are read, or one of them is faulty. -/
theorem failsOnly_readLines (tractable : ∀ line ∈ lines, TractableLine line) :
    Except.FailsOnly Failure.IsAnnotations (readLines path number progress lines) := by
  induction lines generalizing number progress with
  | nil => exact .ok _
  | cons line rest ih =>
    refine (failsOnly_step (tractable line List.mem_cons_self)).bind fun next _ => ?_
    exact ih fun other member => tractable other (List.mem_cons_of_mem _ member)

/-- A guarded text can be judged: each of its lines can be. -/
def Tractable (text : String) : Prop := ∀ line ∈ Text.lines text.toList, TractableLine line

/-- A guarded text that can be judged has its cases or is faulty. -/
theorem failsOnly_parse (tractable : Tractable text) :
    Except.FailsOnly Failure.IsAnnotations (parse path text) := by
  refine (failsOnly_readLines tractable).bind fun progress _ => ?_
  cases progress.current with
  | none => exact .ok _
  | some opened => exact .error (Failure.isAnnotations_annotations _ _ _)

end Guarded

/-! ## Fragments -/

/-- The dialects that need no extension are asked in this order. -/
theorem Registry.ordered_standard :
    Registry.standard.ordered = [Guarded.dialect, Inline.dialect] := by
  cbv

/-- Without extensions a text is read as a guarded one or as one with inline markers. -/
theorem Registry.select_standard (text : String) : Registry.standard.select text =
    .ok (if Guarded.detects text then Guarded.dialect else Inline.dialect) := by
  rw [Registry.select, Registry.ordered_standard, Registry.firstDetecting]
  have asked : Guarded.dialect.detects text = .ok (Guarded.detects text) := rfl
  rw [asked]
  cases Guarded.detects text <;> rfl

/-- Without extensions a text that is no guarded one is read as one with inline markers. -/
theorem Registry.select_standard_of_undetected (undetected : Guarded.detects text = false) :
    Registry.standard.select text = .ok Inline.dialect := by
  rw [Registry.select_standard, undetected]
  rfl

/-- Names of cases clash or do not. -/
theorem failsOnly_checkNames (path : Path) (seen cases : List TestCase) :
    Except.FailsOnly Failure.IsAnnotations (checkNames path seen cases) := by
  induction cases generalizing seen with
  | nil => exact .ok _
  | cons testCase rest ih =>
    rw [checkNames]
    split
    · exact .error (Failure.isAnnotations_annotations _ _ _)
    · exact ih (testCase :: seen)

namespace Fragment

/-- A text can be judged by the dialect that reads it. -/
structure Tractable (text : String) : Prop where
  /-- A guarded text can be judged as such. -/
  guarded : Guarded.detects text = true → Guarded.Tractable text
  /-- Any other text can be judged as one with inline markers. -/
  inline : Guarded.detects text = false → Inline.Tractable text

/-- Without extensions a text that is no guarded one is a fragment with inline markers. -/
theorem parse_eq_inline (undetected : Guarded.detects text = false) :
    parse .standard path text = (do
      let cases ← Inline.parse path text
      checkNames path [] cases
      return ⟨path, text, "inline", cases⟩) := by
  rw [parse, Registry.select_standard_of_undetected undetected]
  rfl

/-- Without extensions a text that can be judged is a fragment, or its annotations are faulty. -/
theorem failsOnly_parse (tractable : Tractable text) :
    Except.FailsOnly Failure.IsAnnotations (parse .standard path text) := by
  have read : Except.FailsOnly Failure.IsAnnotations
      ((if Guarded.detects text then Guarded.dialect else Inline.dialect).parse path text) := by
    cases detected : Guarded.detects text with
    | true => exact Guarded.failsOnly_parse (tractable.guarded detected)
    | false => exact Inline.failsOnly_parse (tractable.inline detected)
  unfold parse
  rw [Registry.select_standard]
  refine read.bind fun cases _ => ?_
  exact (failsOnly_checkNames path [] cases).bind fun _ _ => .ok _

end Fragment

end NegativeCompile
