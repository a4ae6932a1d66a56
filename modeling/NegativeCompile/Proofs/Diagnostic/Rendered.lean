import Mathlib
import NegativeCompile.Diagnostic.Reader
import NegativeCompile.Proofs.Except
import NegativeCompile.Proofs.Text.Lines

/-! # Rendered diagnostics are read back

A diagnostic can be restored if the name of its file holds no colon but the one after the letter of a
drive, if its numbers can be shown, and if no blanks are lost around its file and its message
(`Diagnostic.Restorable`). The line that shows such a diagnostic is read back as that diagnostic
(`Diagnostic.Restorable.readsAs`). What is read of a text is what its lines are read as, whatever their
order (`mem_of_ofLines`). -/

namespace NegativeCompile

namespace Text

variable {text before : List Char}

/-! ## Trimmed texts -/

/-- Dropping blanks at the right is the library's dropping. -/
theorem trimRight_eq (text : List Char) : trimRight text = text.rdropWhile isBlank := rfl

/-- Blanks at the right end are dropped from the last part of a text, if something is left of it. -/
theorem trimRight_append (trimmed : trimRight text = text) (unempty : text ≠ []) :
    trimRight (before ++ text) = before ++ text := by
  rw [trimRight_eq, List.rdropWhile_eq_self_iff] at trimmed ⊢
  intro whole
  rw [List.getLast_append_of_ne_nil whole unempty]
  exact trimmed unempty

/-- A text that ends in no blank stays whole when what comes after it is trimmed. -/
theorem isPrefix_trimRight_append (trimmed : trimRight before = before) (text : List Char) :
    before <+: trimRight (before ++ text) := by
  rw [trimRight] at trimmed ⊢
  rw [List.reverse_append, List.dropWhile_append]
  split
  · rw [trimmed]
  · rw [List.reverse_append, List.reverse_reverse]
    exact List.prefix_append _ _

/-- The first character of a trimmed text is not blank. -/
@[simp] theorem trimLeft_trim (text : List Char) : trimLeft (trim text) = trim text := by
  have start : trimLeft (trimLeft text) = trimLeft text := List.dropWhile_idempotent _ _
  rw [trim, trimRight_eq]
  rw [trimLeft, List.dropWhile_eq_self_iff] at start ⊢
  intro unempty
  -- What is left of the text is a start of it, so it has the same first character.
  have kept := List.rdropWhile_prefix isBlank (trimLeft text)
  rw [kept.getElem unempty]
  exact start (lt_of_lt_of_le unempty kept.length_le)

/-- A trimmed text stays as it is when it is trimmed. -/
@[simp] theorem trim_trim (text : List Char) : trim (trim text) = trim text := by
  have ends : trimRight (trim text) = trim text := List.rdropWhile_idempotent _ _
  rw [trim, trimLeft_trim, ends]

/-- Trimming adds no character. -/
theorem trim_subset (text : List Char) : trim text ⊆ text :=
  List.Subset.trans (List.rdropWhile_prefix _ _).subset (List.dropWhile_sublist _).subset

/-- A text that stays as it is when it is trimmed does so at the left. -/
theorem trimLeft_eq_self (trimmed : trim text = text) : trimLeft text = text := by
  rw [← trimmed, trimLeft_trim]

/-- A text that stays as it is when it is trimmed does so at the right. -/
theorem trimRight_eq_self (trimmed : trim text = text) : trimRight text = text := by
  rwa [trim, trimLeft_eq_self trimmed] at trimmed

/-- A blank before a text is dropped. -/
theorem trim_cons_of_isBlank {c : Char} (blank : isBlank c = true) : trim (c :: text) = trim text := by
  rw [trim, trimLeft, List.dropWhile_cons_of_pos blank]
  rfl

/-- Only the blank before a trimmed text may be dropped at the right: it is if the text is empty. -/
theorem exists_trimRight_append_blank {c blank : Char} (marked : isBlank c = false)
    (dropped : isBlank blank = true) (trimmed : trim text = text) (before : List Char) :
    ∃ rest, trimRight (before ++ c :: blank :: text) = before ++ c :: rest ∧ trim rest = text := by
  cases text with
  | nil =>
    refine ⟨[], ?_, trim_nil⟩
    have last : ¬ isBlank c = true := by simp [marked]
    rw [trimRight_eq, List.append_cons, List.rdropWhile_concat_pos _ _ _ dropped,
      List.rdropWhile_concat_neg _ _ _ last]
  | cons first others =>
    refine ⟨blank :: first :: others, ?_, ?_⟩
    · have whole : trimRight (before ++ [c, blank] ++ first :: others) =
          before ++ [c, blank] ++ first :: others :=
        trimRight_append (trimRight_eq_self trimmed) (List.cons_ne_nil first others)
      simpa using whole
    · rw [trim_cons_of_isBlank dropped, trimmed]

/-! ## Written numbers -/

/-- The digits with which a number is written. -/
def digitsOf (number : Nat) : List Char := (toString number).toList

/-- They are the library's digits. -/
theorem digitsOf_eq (number : Nat) : digitsOf number = Nat.toDigits 10 number := by
  rw [digitsOf, Nat.toString_eq_repr, Nat.toList_repr]

/-- A number has a digit. -/
theorem digitsOf_ne_nil (number : Nat) : digitsOf number ≠ [] := by
  rw [digitsOf_eq]
  exact Nat.toDigits_ne_nil

/-- The codes of ASCII digits. -/
theorem toNat_of_isDigit {c : Char} (digit : c.isDigit = true) : 48 ≤ c.toNat ∧ c.toNat ≤ 57 := by
  simp only [Char.isDigit, Bool.and_eq_true, decide_eq_true_eq] at digit
  exact digit

/-- The value of an ASCII digit. -/
theorem digitValue?_of_isDigit {c : Char} (digit : c.isDigit = true) :
    digitValue? c = some (c.toNat - 48) := by
  rw [digitValue?, if_pos (by simpa using toNat_of_isDigit digit)]

/-- A number is written with ASCII digits. -/
theorem isDigit_of_mem_digitsOf {number : Nat} {c : Char} (member : c ∈ digitsOf number) :
    c.isDigit = true := by
  rw [digitsOf_eq] at member
  exact Nat.isDigit_of_mem_toDigits (by decide) (by decide) member

/-- A digit is no line break. -/
theorem isLineBreak_of_isDigit {c : Char} (digit : c.isDigit = true) : isLineBreak c = false := by
  have range := toNat_of_isDigit digit
  simp only [isLineBreak, Bool.or_eq_false_iff, Bool.and_eq_false_iff, decide_eq_false_iff_not,
    beq_eq_false_iff_ne]
  omega

/-- No digit of a number is a line break. -/
theorem isLineBreak_of_mem_digitsOf {number : Nat} {c : Char} (member : c ∈ digitsOf number) :
    isLineBreak c = false :=
  isLineBreak_of_isDigit (isDigit_of_mem_digitsOf member)

/-- A number is written with digits. -/
theorem all_isDigit_digitsOf (number : Nat) : ∀ c ∈ digitsOf number, isDigit c = true := by
  intro c member
  rw [isDigit, digitValue?_of_isDigit (isDigit_of_mem_digitsOf member)]
  rfl

/-- ASCII digits stand for the number that the library reads them as. -/
theorem digitsValueFrom_eq {digits : List Char} (ascii : ∀ c ∈ digits, c.isDigit = true)
    (high : Nat) : digitsValueFrom high digits = Nat.ofDigitChars 10 digits high := by
  induction digits generalizing high with
  | nil => rfl
  | cons c rest ih =>
    rw [digitsValueFrom, digitValue?_of_isDigit (ascii c List.mem_cons_self),
      ih fun other member => ascii other (List.mem_cons_of_mem _ member)]
    rfl

/-- A number is not too long just if it is small enough. -/
theorem isLong_eq_false_iff {number : Nat} : isLong number = false ↔ number < 10 ^ digitLimit := by
  unfold isLong
  -- The limit is made a variable, so that the power is not computed.
  generalize digitLimit = limit
  rw [decide_eq_false_iff_not, Nat.not_le, Int.natAbs_natCast, Nat.pow_eq]

/-- A number that is not too long has no more digits than can be read. -/
theorem length_digitsOf_le {number : Nat} (short : isLong number = false) :
    (digitsOf number).length ≤ digitLimit := by
  rw [digitsOf_eq, Nat.length_toDigits_le_iff (by decide) (by decide), ← isLong_eq_false_iff, short]

/-- The digits of a number stand for it. -/
@[simp] theorem digitsValue_digitsOf (number : Nat) : digitsValue (digitsOf number) = number := by
  rw [digitsValue, digitsValueFrom_eq fun c => isDigit_of_mem_digitsOf, digitsOf_eq]
  exact Nat.ofDigitChars_ten_toDigits

/-- The digits of a number that is not too long are read as it. -/
theorem naturalOfDigits_digitsOf {number : Nat} (short : isLong number = false) :
    naturalOfDigits (digitsOf number) = .ok number := by
  rw [naturalOfDigits, if_neg (Nat.not_lt.mpr (length_digitsOf_le short)), digitsValue_digitsOf]

end Text

/-- Compilers use four severities. -/
theorem Severity.eq_of_mem_all {severity : Severity} (known : severity ∈ Severity.all) :
    severity = .error ∨ severity = .warning ∨ severity = .note ∨ severity = .remark := by
  simpa only [Severity.all, List.mem_cons, List.not_mem_nil, or_false] using known

/-- The name of a severity stands in one line. -/
theorem Severity.unbroken_name {severity : Severity} (known : severity ∈ Severity.all) :
    ∀ c ∈ severity.name.toList, Text.isLineBreak c = false := by
  apply Text.unbroken_of_all
  rcases Severity.eq_of_mem_all known with rfl | rfl | rfl | rfl <;> decide

namespace Diagnostic

open Text

variable {diagnostic : Diagnostic} {diagnostics : List Diagnostic} {lines : List (List Char)}
variable {line file rest : List Char} {shape : Shape} {severity : Severity}

/-! ## Parts of a line -/

/-- The digits of a number are taken up to what is no digit. -/
theorem takeDigits?_digitsOf (number : Nat) :
    takeDigits? (digitsOf number ++ ':' :: rest) = some (digitsOf number, ':' :: rest) := by
  have digits := all_isDigit_digitsOf number
  have taken : (digitsOf number ++ ':' :: rest).takeWhile isDigit = digitsOf number := by
    rw [List.takeWhile_append_of_pos digits, List.takeWhile_cons_of_neg (by decide), List.append_nil]
  have left : (digitsOf number ++ ':' :: rest).dropWhile isDigit = ':' :: rest := by
    rw [List.dropWhile_append_of_pos digits, List.dropWhile_cons_of_neg (by decide)]
  rw [takeDigits?]
  simp only [taken, left]
  rw [if_neg (by simpa using digitsOf_ne_nil number)]

/-- A word for a severity is taken after a blank and up to a colon. -/
theorem takeSeverity?_word {word : String} (spelled : (word, severity) ∈ colonSeverityWords) :
    takeSeverity? colonSeverityWords (trimLeft (' ' :: (word.toList ++ ':' :: rest))) =
      some (severity, ':' :: rest) := by
  simp only [colonSeverityWords, severityWords, List.cons_append, List.nil_append, List.mem_cons,
    Prod.mk.injEq, List.not_mem_nil, or_false] at spelled
  -- No word for a severity starts another one, so the first word that fits is the right one.
  rcases spelled with ⟨rfl, rfl⟩ | ⟨rfl, rfl⟩ | ⟨rfl, rfl⟩ | ⟨rfl, rfl⟩ | ⟨rfl, rfl⟩ <;> rfl

/-- The name of a severity is a word for it. -/
theorem mem_colonSeverityWords (known : severity ∈ Severity.all) :
    (severity.name, severity) ∈ colonSeverityWords := by
  rcases Severity.eq_of_mem_all known with rfl | rfl | rfl | rfl <;> decide

/-- How a column is shown between the line and the severity, with the colon after it. -/
def columnPart : Option Nat → List Char
  | none => []
  | some column => digitsOf column ++ [':']

/-- A column is taken if there is one: what follows it starts with a blank. -/
theorem takeColumn_columnPart (column : Option Nat) (rest : List Char) :
    takeColumn (columnPart column ++ ' ' :: rest) = (column.map digitsOf, ' ' :: rest) := by
  cases column with
  | none => rfl
  | some number =>
    rw [columnPart, List.append_assoc, List.singleton_append, takeColumn, takeDigits?_digitsOf]
    rfl

/-- What follows the file in the line that shows a diagnostic is read back. -/
theorem readAfterFile_rendered {word : String} {number : Nat} (column : Option Nat)
    (spelled : (word, severity) ∈ colonSeverityWords) :
    readAfterFile file (digitsOf number ++ ':' :: (columnPart column ++ ' ' ::
        (word.toList ++ ':' :: rest))) =
      some ⟨file, digitsOf number, column.map digitsOf, severity, rest⟩ := by
  have colon (text : List Char) : take? [':'] (':' :: text) = some text := rfl
  rw [readAfterFile, takeDigits?_digitsOf]
  simp only [Option.bind_eq_bind, Option.bind_some, colon, takeColumn_columnPart,
    takeSeverity?_word spelled]
  rfl

/-- A file without colons is read up to the first colon. -/
theorem readFrom_colonless (colonless : ':' ∉ file) (named : file ≠ []) (before : List Char) :
    readFrom before (file ++ ':' :: rest) = readAfterFile (before ++ file) rest := by
  have other : ∀ c ∈ file, decide (c ≠ ':') = true := by
    intro c member
    exact decide_eq_true fun colon => colonless (colon ▸ member)
  have taken : (file ++ ':' :: rest).takeWhile (· ≠ ':') = file := by
    rw [List.takeWhile_append_of_pos other, List.takeWhile_cons_of_neg (by decide), List.append_nil]
  have left : (file ++ ':' :: rest).dropWhile (· ≠ ':') = ':' :: rest := by
    rw [List.dropWhile_append_of_pos other, List.dropWhile_cons_of_neg (by decide)]
  rw [readFrom]
  simp only [taken, left]
  rw [if_neg (by simpa using named)]

/-- A name of a file: it holds no colon but one after the letter of a drive, which is not all of it. A
single letter is none, because it would be taken for a drive. -/
inductive IsFileName : List Char → Prop where
  /-- A name without colons. -/
  | plain {name : List Char} (named : name ≠ []) (colonless : ':' ∉ name)
      (long : ∀ letter, name = [letter] → isAsciiLetter letter = false) : IsFileName name
  /-- A name with a drive. -/
  | onDrive {letter : Char} {name : List Char} (drive : isAsciiLetter letter = true)
      (named : name ≠ []) (colonless : ':' ∉ name) : IsFileName (letter :: ':' :: name)

/-- The name of a file is read up to the colon after it, if what follows can be read. -/
theorem IsFileName.readColonShape {name : List Char} (named : IsFileName name)
    (reads : readAfterFile name rest = some shape) :
    readColonShape (name ++ ':' :: rest) = some shape := by
  unfold Diagnostic.readColonShape
  cases named with
  | plain named colonless long =>
    have read : readFrom [] (name ++ ':' :: rest) = some shape :=
      (readFrom_colonless colonless named _).trans reads
    dsimp only
    split
    next letter after spelled =>
      -- The second character is a colon only if the first one is all of the name, and then no letter.
      have letterless : isAsciiLetter letter = false := by
        match name with
        | [] => exact absurd rfl named
        | [first] =>
          obtain ⟨rfl, -⟩ := List.cons.inj spelled
          exact long first rfl
        | first :: second :: others =>
          obtain ⟨-, tail⟩ := List.cons.inj spelled
          obtain ⟨rfl, -⟩ := List.cons.inj tail
          exact absurd (by simp) colonless
      rw [if_neg (by simp [letterless]), Option.none_or]
      exact read
    next => exact read
  | @onDrive letter name drive named colonless =>
    have read : readFrom [letter, ':'] (name ++ ':' :: rest) = some shape :=
      (readFrom_colonless colonless named _).trans reads
    simp only [List.cons_append, if_pos drive, read, Option.some_or]

/-! ## Diagnostics that can be restored -/

/-- A diagnostic that can be read back from the line that shows it. -/
structure Restorable (diagnostic : Diagnostic) : Prop where
  /-- The file has a name that is told apart from the line. -/
  named : IsFileName diagnostic.file.toList
  /-- There are no blanks around the file. -/
  file_trimmed : trim diagnostic.file.toList = diagnostic.file.toList
  /-- The line can be shown. -/
  line_short : isLong diagnostic.line = false
  /-- The column can be shown if it is given. -/
  column_short : ∀ column, diagnostic.column = some column → isLong column = false
  /-- The severity is one that compilers use. -/
  known : diagnostic.severity ∈ Severity.all
  /-- There are no blanks around the message. -/
  message_trimmed : trim diagnostic.message.toList = diagnostic.message.toList

/-- A line is read as a diagnostic if it has the shape of one, and the diagnostic is the one of that
shape. -/
def ReadsAs (line : List Char) (diagnostic : Diagnostic) : Prop :=
  ∃ shape, readShape (trimRight line) = some shape ∧ ofShape shape = .ok diagnostic

/-- A line is read as one diagnostic only. -/
theorem ReadsAs.unique {other : Diagnostic} (reads : ReadsAs line diagnostic)
    (also : ReadsAs line other) : diagnostic = other := by
  obtain ⟨shape, shaped, given⟩ := reads
  obtain ⟨shape', shaped', given'⟩ := also
  cases shaped.symm.trans shaped'
  exact Except.ok.inj (given.symm.trans given')

/-- The characters of the line that shows a diagnostic. -/
theorem toList_render (diagnostic : Diagnostic) :
    diagnostic.render.toList = diagnostic.file.toList ++ ':' :: (digitsOf diagnostic.line ++
      ':' :: (columnPart diagnostic.column ++ ' ' :: (diagnostic.severity.name.toList ++
        ':' :: ' ' :: diagnostic.message.toList))) := by
  rw [render]
  cases diagnostic.column with
  | none => simp [digitsOf, columnPart, toString]
  | some column => simp [digitsOf, columnPart, toString]

/-- The line that shows a diagnostic that can be restored is read back as that diagnostic. -/
theorem Restorable.readsAs (restorable : diagnostic.Restorable) :
    ReadsAs diagnostic.render.toList diagnostic := by
  have marked : isBlank ':' = false := by decide
  have dropped : isBlank ' ' = true := by decide
  -- Reading trims the line first; if there is no message then the last blank is lost.
  obtain ⟨rest, trimmed, message⟩ := exists_trimRight_append_blank marked dropped
    restorable.message_trimmed (diagnostic.file.toList ++ ':' ::
      (digitsOf diagnostic.line ++ ':' :: (columnPart diagnostic.column ++ ' ' ::
        diagnostic.severity.name.toList)))
  have shown : trimRight diagnostic.render.toList = diagnostic.file.toList ++ ':' ::
      (digitsOf diagnostic.line ++ ':' :: (columnPart diagnostic.column ++ ' ' ::
        (diagnostic.severity.name.toList ++ ':' :: rest))) := by
    have regroup := toList_render diagnostic
    simp only [List.append_assoc, List.cons_append] at trimmed
    rw [regroup, trimmed]
  refine ⟨⟨diagnostic.file.toList, digitsOf diagnostic.line, diagnostic.column.map digitsOf,
    diagnostic.severity, rest⟩, ?_, ?_⟩
  · rw [shown, readShape, restorable.named.readColonShape
      (readAfterFile_rendered diagnostic.column (mem_colonSeverityWords restorable.known)),
      Option.some_or]
  · rw [ofShape]
    cases given : diagnostic.column with
    | none =>
      simp only [naturalOfDigits_digitsOf restorable.line_short, restorable.file_trimmed, message,
        String.ofList_toList]
      exact congrArg Except.ok (by rw [← given])
    | some column =>
      simp only [Option.map_some, naturalOfDigits_digitsOf restorable.line_short,
        naturalOfDigits_digitsOf (restorable.column_short column given), restorable.file_trimmed,
        message, String.ofList_toList]
      exact congrArg Except.ok (by rw [← given])

/-- A diagnostic that can be shown in a line and read back from it. -/
structure Legible (diagnostic : Diagnostic) : Prop where
  /-- The file is named from the root. -/
  rooted : ∃ rest, diagnostic.file.toList = '/' :: rest
  /-- The file is named without colons. -/
  colonless : ':' ∉ diagnostic.file.toList
  /-- There are no blanks around the file. -/
  file_trimmed : trim diagnostic.file.toList = diagnostic.file.toList
  /-- The line can be shown. -/
  line_short : isLong diagnostic.line = false
  /-- A column is given and can be shown. -/
  column_short : ∃ column, diagnostic.column = some column ∧ isLong column = false
  /-- The severity is one that compilers use. -/
  known : diagnostic.severity ∈ Severity.all
  /-- There is a message. -/
  said : diagnostic.message.toList ≠ []
  /-- There are no blanks around the message. -/
  message_trimmed : trim diagnostic.message.toList = diagnostic.message.toList

/-- The line that shows a legible diagnostic is read back as that diagnostic. -/
theorem Legible.readsAs (legible : diagnostic.Legible) :
    ReadsAs diagnostic.render.toList diagnostic := by
  obtain ⟨rest, rooted⟩ := legible.rooted
  obtain ⟨column, given, short⟩ := legible.column_short
  have named : IsFileName diagnostic.file.toList := by
    refine .plain (by simp [rooted]) legible.colonless fun letter single => ?_
    rw [rooted] at single
    obtain ⟨rfl, -⟩ := List.cons.inj single
    decide
  refine Restorable.readsAs ⟨named, legible.file_trimmed, legible.line_short, ?_, legible.known,
    legible.message_trimmed⟩
  rw [given]
  rintro _ ⟨⟩
  exact short

/-! ## Whole outputs -/

/-- A diagnostic is read of a text just if some line of it is read as that diagnostic. -/
theorem mem_of_ofLines (read : ofLines lines = .ok diagnostics) :
    diagnostic ∈ diagnostics ↔ ∃ line ∈ lines, ReadsAs line diagnostic := by
  induction lines generalizing diagnostics with
  | nil =>
    rw [← Except.ok.inj read]
    simp
  | cons line rest ih =>
    rw [ofLines] at read
    cases shaped : readShape (trimRight line) with
    | none =>
      simp only [shaped] at read
      have plain : ¬ ReadsAs line diagnostic := by
        rintro ⟨shape, readShaped, -⟩
        rw [shaped] at readShaped
        cases readShaped
      rw [ih read, List.exists_mem_cons_iff, or_iff_right plain]
    | some shape =>
      simp only [shaped] at read
      obtain ⟨first, given, next⟩ := Except.bind_eq_ok_iff.mp read
      obtain ⟨others, tail, equal⟩ := Except.bind_eq_ok_iff.mp next
      have reads : ReadsAs line first := ⟨shape, shaped, given⟩
      have alone : ReadsAs line diagnostic ↔ diagnostic = first :=
        ⟨fun other => other.unique reads, fun equal => equal ▸ reads⟩
      rw [← Except.ok.inj equal, List.mem_cons, ih tail, List.exists_mem_cons_iff, alone]

/-- The diagnostics of a text can be read if each line is read as one or has not the shape of one. -/
theorem exists_ofLines (legible : ∀ line ∈ lines,
      readShape (trimRight line) = none ∨ ∃ diagnostic, ReadsAs line diagnostic) :
    ∃ diagnostics, ofLines lines = .ok diagnostics := by
  induction lines with
  | nil => exact ⟨[], rfl⟩
  | cons line rest ih =>
    obtain ⟨others, tail⟩ := ih fun other member => legible other (List.mem_cons_of_mem _ member)
    rw [ofLines]
    rcases legible line List.mem_cons_self with plain | ⟨diagnostic, shape, shaped, given⟩
    · simp only [plain]
      exact ⟨others, tail⟩
    · simp only [shaped, given, tail]
      exact ⟨diagnostic :: others, rfl⟩

/-! ## Crashes -/

/-- What compilers print when they break down is something on one line. -/
theorem unbroken_of_mem_crashMarkers {marker : String} (member : marker ∈ crashMarkers) :
    marker.toList ≠ [] ∧ ∀ c ∈ marker.toList, isLineBreak c = false := by
  have each : (crashMarkers.all fun marker =>
      !marker.toList.isEmpty && marker.toList.all (!isLineBreak ·)) = true := by decide
  simpa using List.all_eq_true.mp each marker member

/-- A compiler that was not ended by a signal did not break down if no line says so. -/
theorem looksLikeCrash_eq_false {returnCode : Option Int} {output : String}
    (ended : ∀ code, returnCode = some code → 0 ≤ code)
    (silent : ∀ line ∈ Text.lines output.toList, ∀ marker ∈ crashMarkers,
      ¬ marker.toList <:+: line) : looksLikeCrash returnCode output = false := by
  have unsignalled : returnCode.any (· < 0) = false := by
    cases returnCode with
    | none => rfl
    | some code => simpa using ended code rfl
  -- A marker holds no line break, so it occurs in a line if it occurs at all.
  have unsaid : crashMarkers.any (containsString output) = false := by
    rw [List.any_eq_false]
    intro marker member found
    obtain ⟨unempty, unbroken⟩ := unbroken_of_mem_crashMarkers member
    obtain ⟨line, listed, within⟩ :=
      exists_line_of_isInfix unempty unbroken (occursIn_iff.mp found)
    exact silent line listed marker member within
  rw [looksLikeCrash, unsignalled, unsaid]
  rfl

end Diagnostic

end NegativeCompile
