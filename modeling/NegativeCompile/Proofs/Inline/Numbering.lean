import NegativeCompile.Proofs.Inline.Markers
import NegativeCompile.Proofs.Verdict.Tractable

/-! # Names of cases with inline markers

A case that an inline marker declares is named after the line that it is about, and after its place
among the cases about this line if it is not the first of them. Such a name tells both the line and the
place (`Inline.nameOf_inj`). So the names of cases are distinct, and a text whose markers can be read is
never refused for the names of its cases (`Inline.names_of_parse`). -/

namespace NegativeCompile.Inline

open Files Text

variable {path : Path} {total target count otherTarget otherCount : Nat} {name : String}
variable {earlier before after cases : List TestCase} {testCase : TestCase}
variable {sightings : List (Nat × Option Marker)}

/-! ## Names -/

/-- The name of a case that is about a line, by its place among the cases that are. -/
def nameOf (target count : Nat) : String :=
  if count = 1 then s!"line_{target}" else s!"line_{target}_{count}"

/-- The name of a case counts it after the earlier cases that are about its line. -/
theorem eq_nameOf_of_caseName (named : caseName target count = .ok name) :
    name = nameOf target (count + 1) := by
  unfold caseName at named
  split at named
  · cases named
  · rw [← Except.ok.inj named]
    simp [nameOf]

/-- What stands in a name after the line. -/
def placePart (count : Nat) : List Char := if count = 1 then [] else '_' :: digitsOf count

/-- The characters of a name. -/
theorem toList_nameOf (target count : Nat) :
    (nameOf target count).toList = "line_".toList ++ (digitsOf target ++ placePart count) := by
  unfold nameOf placePart digitsOf
  split
  · simp [toString]
  · simp [toString]

/-- The digits after the start of a name are those of the line. -/
theorem takeWhile_isDigit_append_placePart (target count : Nat) :
    (digitsOf target ++ placePart count).takeWhile isDigit = digitsOf target := by
  rw [List.takeWhile_append_of_pos (all_isDigit_digitsOf target)]
  unfold placePart
  split
  · simp
  · rw [List.takeWhile_cons_of_neg (by decide), List.append_nil]

/-- A number is known by its digits. -/
theorem digitsOf_inj (same : digitsOf target = digitsOf otherTarget) : target = otherTarget := by
  rw [digitsOf_eq, digitsOf_eq] at same
  have value := congrArg (Nat.ofDigitChars 10 · 0) same
  simpa [Nat.ofDigitChars_ten_toDigits] using value

/-- A name tells the line, and the place among the cases that are about it. -/
theorem nameOf_inj (same : nameOf target count = nameOf otherTarget otherCount) :
    target = otherTarget ∧ count = otherCount := by
  have ends : digitsOf target ++ placePart count = digitsOf otherTarget ++ placePart otherCount := by
    have whole := congrArg String.toList same
    rw [toList_nameOf, toList_nameOf] at whole
    exact List.append_cancel_left whole
  -- The line ends where the digits do: what follows starts with no digit.
  have line : digitsOf target = digitsOf otherTarget := by
    rw [← takeWhile_isDigit_append_placePart target count, ends, takeWhile_isDigit_append_placePart]
  refine ⟨digitsOf_inj line, ?_⟩
  rw [line] at ends
  have places := List.append_cancel_left ends
  unfold placePart at places
  by_cases first : count = 1
  · by_cases also : otherCount = 1
    · rw [first, also]
    · rw [if_pos first, if_neg also] at places
      cases places
  · by_cases also : otherCount = 1
    · rw [if_neg first, if_pos also] at places
      cases places
    · rw [if_neg first, if_neg also] at places
      exact digitsOf_inj (List.cons.inj places).2

/-! ## Names of cases -/

/-- A case is about a line: it covers this line, and the one message that it expects is about it. -/
structure IsAbout (testCase : TestCase) (target : Nat) : Prop where
  /-- It covers the line. -/
  span : testCase.span = ⟨target, target⟩
  /-- The message is about the line. -/
  expects : testCase.expectations.map (·.line) = [some (target : Int)]

/-- A case is about no other line. -/
theorem IsAbout.eq (about : IsAbout testCase target) (other : IsAbout testCase otherTarget) :
    target = otherTarget := by
  have lines := congrArg Span.first (about.span.symm.trans other.span)
  exact Int.ofNat_inj.mp lines

/-- Cases are named in turn, after some earlier ones: each has the name that tells its line, and counts
the cases before it that are about this line. -/
def NamedAfter (earlier cases : List TestCase) : Prop :=
  ∀ before testCase after, cases = before ++ testCase :: after → ∃ target, IsAbout testCase target ∧
    testCase.name = nameOf target (countAbout target (earlier ++ before) + 1)

/-- Cases that are read are named in turn. -/
theorem Reads.namedAfter (reads : Reads path total earlier sightings cases) :
    NamedAfter earlier cases := by
  induction reads with
  | nil =>
    intro before testCase after split
    exact absurd split.symm (List.append_ne_nil_of_right_ne_nil _ (List.cons_ne_nil _ _))
  | @cons earlier _ _ _ _ _ one _ ih =>
    intro before testCase after split
    cases before with
    | nil =>
      obtain ⟨rfl, -⟩ := List.cons.inj split
      obtain ⟨target, name, -, named, -, rfl⟩ := exists_of_readCase one
      rw [List.append_nil]
      exact ⟨target, ⟨rfl, rfl⟩, eq_nameOf_of_caseName named⟩
    | cons first rest =>
      obtain ⟨rfl, later⟩ := List.cons.inj split
      obtain ⟨target, about, named⟩ := ih rest testCase after later
      rw [List.append_assoc] at named
      exact ⟨target, about, named⟩

/-- A case that is about a line counts for the cases after it. -/
theorem countAbout_lt (about : IsAbout testCase target) (before after : List TestCase) :
    countAbout target before < countAbout target (before ++ testCase :: after) := by
  have counts : decide (testCase.span.first = (target : Int)) = true := by
    rw [about.span]
    exact decide_eq_true rfl
  unfold countAbout
  rw [List.countP_append, List.countP_cons, if_pos counts]
  omega

/-- Cases that are named in turn have distinct names. -/
theorem NamedAfter.nodup (named : NamedAfter [] cases) : (cases.map (·.name)).Nodup := by
  -- Induction from the end: the last case counts all cases about its line.
  induction cases using List.reverseRecOn with
  | nil => exact List.nodup_nil
  | append_singleton cases last ih =>
    have sooner : NamedAfter [] cases := by
      intro before testCase after split
      refine named before testCase (after ++ [last]) ?_
      rw [split, List.append_assoc, List.cons_append]
    rw [List.map_append, List.nodup_append]
    refine ⟨ih sooner, List.nodup_singleton _, ?_⟩
    intro name listed other last' same
    obtain ⟨testCase, member, rfl⟩ := List.mem_map.mp listed
    rw [List.map_singleton, List.mem_singleton] at last'
    obtain ⟨before, after, split⟩ := List.append_of_mem member
    obtain ⟨target, about, name⟩ := sooner before testCase after split
    obtain ⟨lastTarget, -, lastName⟩ := named cases last [] rfl
    rw [name, last', lastName] at same
    obtain ⟨rfl, count⟩ := nameOf_inj same
    have more := countAbout_lt about before after
    rw [← split] at more
    simp only [List.nil_append] at count
    omega

/-- Cases with distinct names are not refused. -/
theorem checkNames_of_nodup (seen : List TestCase)
    (apart : ∀ testCase ∈ cases, ∀ other ∈ seen, other.name ≠ testCase.name)
    (distinct : (cases.map (·.name)).Nodup) : checkNames path seen cases = .ok () := by
  induction cases generalizing seen with
  | nil => rfl
  | cons first rest ih =>
    have unseen : seen.find? (·.name = first.name) = none := by
      apply List.find?_eq_none.mpr
      intro other member
      simpa using apart first List.mem_cons_self other member
    rw [List.map_cons, List.nodup_cons] at distinct
    rw [checkNames, unseen]
    apply ih
    · intro testCase member other before
      rcases List.mem_cons.mp before with rfl | before
      · intro same
        exact distinct.1 (same ▸ List.mem_map_of_mem member)
      · exact apart testCase (List.mem_cons_of_mem _ member) other before
    · exact distinct.2

/-! ## Names of the cases of a text -/

/-- If the markers of a text can be read, each case is about the line that its marker denotes, which is
a line of the text. It is named after this line, with its place among the cases about the line if it is
not the first of them. No two names are the same, so the text is not refused for its names by any
registry that has it read as one with inline markers. -/
theorem names_of_parse {text : String} (read : parse path text = .ok cases) :
    List.Forall₂ (IsCaseOf (Text.lines text.toList).length) (found text.toList) cases ∧
      (∀ before testCase after target, cases = before ++ testCase :: after →
        IsAbout testCase target → testCase.name =
          if countAbout target before = 0 then s!"line_{target}"
          else s!"line_{target}_{countAbout target before + 1}") ∧
      (cases.map (·.name)).Nodup ∧
      ∀ registry : Registry, registry.select text = .ok dialect →
        Fragment.parse registry path text = .ok ⟨path, text, dialect.name, cases⟩ := by
  have named : NamedAfter [] cases := (parse_eq_ok_iff.mp read).namedAfter
  have distinct := named.nodup
  refine ⟨isCaseOf_of_parse read, ?_, distinct, ?_⟩
  · intro before testCase after target split about
    obtain ⟨other, also, name⟩ := named before testCase after split
    rw [name, about.eq also]
    simp [nameOf]
  · intro registry selected
    have unrefused : checkNames path [] cases = .ok () := by
      apply checkNames_of_nodup [] _ distinct
      intro _ _ other seen
      cases seen
    have parsed : dialect.parse path text = .ok cases := read
    rw [Fragment.parse, selected, Except.ok_bind, parsed, Except.ok_bind, unrefused, Except.ok_bind]
    rfl

namespace Sample

/-- A text with three markers: two are about the second line, and the last one is about the first. -/
def crossing : String :=
  "x // expected-error@+1 {{a}}\ny // expected-note-re {{b}} expected-error@1 {{c}}\n"

/-- Its cases. -/
def crossingCases : List TestCase := [
  ⟨"line_2", ⟨2, 2⟩, [⟨"line_2", "a", false, some 2, .error⟩], true, none⟩,
  ⟨"line_2_2", ⟨2, 2⟩, [⟨"line_2_2", "b", true, some 2, .note⟩], true, none⟩,
  ⟨"line_1", ⟨1, 1⟩, [⟨"line_1", "c", false, some 1, .error⟩], true, none⟩]

/-- They are read of it. -/
theorem parse_crossing : parse (.ofParts ["a.nc"]) crossing = .ok crossingCases :=
  Except.eq_ok_of_toOption (by decide +kernel)

/-- Its cases have distinct names, and the text is a fragment. -/
theorem names_crossing : parse (.ofParts ["a.nc"]) crossing = .ok crossingCases ∧
    (crossingCases.map (·.name)).Nodup ∧
      Fragment.parse .standard (.ofParts ["a.nc"]) crossing =
        .ok ⟨.ofParts ["a.nc"], crossing, "inline", crossingCases⟩ := by
  have selected : Registry.standard.select crossing = .ok dialect := by
    rw [Registry.select_standard]
    have undetected : Guarded.detects crossing = false := by decide
    rw [undetected]
    rfl
  obtain ⟨-, -, distinct, accepted⟩ := names_of_parse parse_crossing
  exact ⟨parse_crossing, distinct, accepted .standard selected⟩

end Sample

end NegativeCompile.Inline
