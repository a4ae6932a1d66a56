import NegativeCompile.Proofs.Diagnostic.Rendered

/-! # Diagnostics among other lines

The output of a compiler is read line by line. If its lines are those that show some diagnostics, in
their order and with any lines between them that are no diagnostics (`Diagnostic.Interleaves`), then
just these diagnostics are read of it (`Diagnostic.readAll_of_interleaves`). -/

namespace NegativeCompile.Diagnostic

open Text

variable {diagnostic : Diagnostic} {diagnostics : List Diagnostic} {lines : List (List Char)}

/-! ## Lines that show diagnostics -/

/-- Lines show diagnostics in their order, and between them there are other lines: each of these holds
no line break and has not the shape of a diagnostic. -/
inductive Interleaves : List Diagnostic → List (List Char) → Prop
  /-- No lines show nothing. -/
  | nil : Interleaves [] []
  /-- A line that shows the first diagnostic. -/
  | shown (diagnostic : Diagnostic) {rest : List Diagnostic} {lines : List (List Char)}
      (others : Interleaves rest lines) :
      Interleaves (diagnostic :: rest) (diagnostic.render.toList :: lines)
  /-- A line that shows none. -/
  | other (line : List Char) {diagnostics : List Diagnostic} {lines : List (List Char)}
      (unbroken : ∀ c ∈ line, isLineBreak c = false) (shapeless : readShape (trimRight line) = none)
      (others : Interleaves diagnostics lines) : Interleaves diagnostics (line :: lines)

/-- A name of a file and a message stand in one line. -/
def IsUnbroken (diagnostic : Diagnostic) : Prop :=
  ∀ c ∈ diagnostic.file.toList ++ diagnostic.message.toList, isLineBreak c = false

/-- A diagnostic whose parts are unbroken is shown in one line. -/
theorem unbroken_render (known : diagnostic.severity ∈ Severity.all)
    (unbroken : diagnostic.IsUnbroken) :
    ∀ c ∈ diagnostic.render.toList, isLineBreak c = false := by
  have colon : isLineBreak ':' = false := by decide
  have blank : isLineBreak ' ' = false := by decide
  have severity := Severity.unbroken_name known
  have column : ∀ c ∈ columnPart diagnostic.column, isLineBreak c = false := by
    cases diagnostic.column with
    | none => exact fun _ member => absurd member List.not_mem_nil
    | some number =>
      intro c member
      rcases List.mem_append.mp member with digit | last
      · exact isLineBreak_of_mem_digitsOf digit
      · rwa [List.mem_singleton.mp last]
  have digits : ∀ c ∈ digitsOf diagnostic.line, isLineBreak c = false := fun _ =>
    isLineBreak_of_mem_digitsOf
  obtain ⟨file, message⟩ := List.forall_mem_append.mp unbroken
  rw [toList_render]
  simp only [List.forall_mem_append, List.forall_mem_cons]
  exact ⟨file, colon, digits, colon, column, blank, severity, colon, blank, message⟩

/-- Lines that show diagnostics that can be restored are read as these diagnostics, in their order. -/
theorem ofLines_of_interleaves (restorable : ∀ diagnostic ∈ diagnostics, diagnostic.Restorable)
    (weaves : Interleaves diagnostics lines) : ofLines lines = .ok diagnostics := by
  induction weaves with
  | nil => rfl
  | shown diagnostic _ ih =>
    obtain ⟨shape, shaped, given⟩ := (restorable diagnostic List.mem_cons_self).readsAs
    have others := ih fun other member => restorable other (List.mem_cons_of_mem _ member)
    simp only [ofLines, shaped, given, others]
    rfl
  | other line _ shapeless _ ih =>
    simp only [ofLines, shapeless]
    exact ih restorable

/-- There are texts whose lines show some diagnostics, with other lines between them, if each of the
diagnostics stands in one line and can be restored; and from all such texts just these diagnostics are
read, in their order. -/
theorem readAll_of_interleaves (diagnostics : List Diagnostic) (lines : List (List Char))
    (restorable : ∀ diagnostic ∈ diagnostics, diagnostic.Restorable)
    (unbroken : ∀ diagnostic ∈ diagnostics, diagnostic.IsUnbroken)
    (weaves : Interleaves diagnostics lines) :
    Text.lines (String.ofList (lines.flatMap (· ++ ['\n']))).toList = lines ∧
      ∀ output : String, Text.lines output.toList = lines → readAll output = .ok diagnostics := by
  constructor
  · rw [String.toList_ofList]
    refine lines_flatMap_feed ?_
    induction weaves with
    | nil => exact fun _ member => absurd member List.not_mem_nil
    | shown diagnostic _ ih =>
      refine List.forall_mem_cons.mpr ⟨?_, ih (List.forall_mem_cons.mp restorable).2
        (List.forall_mem_cons.mp unbroken).2⟩
      exact unbroken_render (restorable _ List.mem_cons_self).known (unbroken _ List.mem_cons_self)
    | other line clean _ _ ih => exact List.forall_mem_cons.mpr ⟨clean, ih restorable unbroken⟩
  · intro output split
    rw [readAll, split]
    exact ofLines_of_interleaves restorable weaves

namespace Sample

/-- Two diagnostics: one on a drive, with a column that is zero and a message in which another diagnostic
seems to stand, and one without a column and without a message. -/
def shown : List Diagnostic :=
  [⟨"C:\\a (1).cc", 12, some 0, .warning, "b.cc:3:4: error: x"⟩, ⟨"7", 0, none, .remark, ""⟩]

/-- The lines that show them, and two other ones. -/
def output : String :=
  "In file included from 7:1:\nC:\\a (1).cc:12:0: warning: b.cc:3:4: error: x\r\n  ^~~ \n7:0: remark: "

end Sample

/-- The two diagnostics are read of the four lines. -/
theorem readAll_of_interleaves_shown :
    (∀ diagnostic ∈ Sample.shown, diagnostic.Restorable) ∧
      (∀ diagnostic ∈ Sample.shown, diagnostic.IsUnbroken) ∧
      Interleaves Sample.shown (Text.lines Sample.output.toList) ∧
      readAll Sample.output = .ok Sample.shown := by
  have short {number : Nat} (few : number ≤ digitLimit) : isLong number = false :=
    isLong_eq_false_iff.mpr (few.trans_lt (Nat.lt_pow_self (by decide)))
  have restorable : ∀ diagnostic ∈ Sample.shown, diagnostic.Restorable := by
    refine List.forall_mem_cons.mpr ⟨⟨.onDrive (by decide) (by decide) (by decide), by decide,
      short (by decide), ?_, by decide, by decide⟩, List.forall_mem_singleton.mpr ⟨.plain (by decide)
      (by decide) ?_, by decide, short (by decide), fun _ none => (by cases none), by decide, by decide⟩⟩
    · rintro _ ⟨⟩
      exact short (by decide)
    · rintro _ ⟨⟩
      decide
  have unbroken : ∀ diagnostic ∈ Sample.shown, diagnostic.IsUnbroken := by
    refine List.forall_mem_cons.mpr ⟨unbroken_of_all ?_, List.forall_mem_singleton.mpr
      (unbroken_of_all ?_)⟩
    · decide
    · decide
  have split : Text.lines Sample.output.toList =
      ["In file included from 7:1:".toList, Sample.shown[0].render.toList, "  ^~~ ".toList,
        Sample.shown[1].render.toList] := by decide +kernel
  have weaves : Interleaves Sample.shown (Text.lines Sample.output.toList) := by
    rw [split]
    exact .other _ (unbroken_of_all (by decide)) (by decide +kernel) (.shown _
      (.other _ (unbroken_of_all (by decide)) (by decide +kernel) (.shown _ .nil)))
  exact ⟨restorable, unbroken, weaves,
    (readAll_of_interleaves _ _ restorable unbroken weaves).2 _ rfl⟩

end NegativeCompile.Diagnostic
