import NegativeCompile.Proofs.Settings.Expanding
import NegativeCompile.Proofs.Diagnostic.Rendered

/-! # Fragments recognized in what a compiler says

A compiler names a source as it was given to it, which is the path of the fragment. What it says on a
line is read back and attributed to the fragment (`Surroundings.Recognizes`) just if the path is legible
(`Path.IsLegible`): a name with a colon is cut there, and blanks at the end of a name are lost, so another
path is read, which is shorter and so is not the same (`recognizes_iff`, `blank_lost`). -/

namespace NegativeCompile

open Files Text

/-! ## Shorter names -/

namespace Files

variable {path : Path} {parts : List String} {reported : String}

/-- How long parts are with a slash before each of them. -/
def partsLength (parts : List String) : Nat := (parts.map (·.length + 1)).sum

@[simp] theorem partsLength_nil : partsLength [] = 0 := rfl

@[simp] theorem partsLength_cons (part : String) (parts : List String) :
    partsLength (part :: parts) = part.length + 1 + partsLength parts := by
  simp [partsLength]

/-- The order of parts does not matter for their length. -/
@[simp] theorem partsLength_reverse (parts : List String) :
    partsLength parts.reverse = partsLength parts := by
  simp [partsLength, List.sum_reverse]

/-- Taking double dots back makes parts no longer. -/
theorem partsLength_foldParts_le (isAbsolute : Bool) (kept parts : List String) :
    partsLength (Path.foldParts isAbsolute kept parts) ≤ partsLength kept + partsLength parts := by
  induction parts generalizing kept with
  | nil => simp [Path.foldParts]
  | cons part rest ih =>
    rw [Path.foldParts.eq_def]
    dsimp only
    split
    · have further := ih (part :: kept)
      simp only [partsLength_cons] at further ⊢
      omega
    next dots =>
      -- A double dot is kept, or it goes together with the part before it.
      have same : part = ".." := by simpa using dots
      split
      · have further := ih (if isAbsolute then [] else [".."])
        have short : partsLength (if isAbsolute then [] else [".."]) ≤ part.length + 1 := by
          rw [same]
          split <;> simp
        simp only [partsLength_cons] at further ⊢
        omega
      next last before =>
        split
        · have further := ih (".." :: last :: before)
          simp only [partsLength_cons, same] at further ⊢
          omega
        · have further := ih before
          simp only [partsLength_cons] at further ⊢
          omega

/-- The pieces of a text between separators are as long as the text, with one separator more. -/
theorem sum_length_splitOn (separator : Char) (text : List Char) :
    ((text.splitOn separator).map (·.length + 1)).sum = text.length + 1 := by
  induction text with
  | nil => rfl
  | cons c rest ih =>
    obtain ⟨first, others, equal⟩ := List.exists_cons_of_ne_nil (List.splitOn_ne_nil separator rest)
    rw [equal] at ih
    rw [List.splitOn_cons_eq_if_modifyHead, equal]
    split
    · simp only [List.map_cons, List.sum_cons, List.length_nil, List.length_cons] at ih ⊢
      omega
    · simp only [List.modifyHead_cons, List.map_cons, List.sum_cons, List.length_cons] at ih ⊢
      omega

/-- The parts of a path that starts with a slash are no longer than its text. -/
theorem partsLength_ofString_le (rooted : ∃ rest, reported.toList = '/' :: rest) :
    partsLength (Path.ofString reported).parts ≤ reported.length := by
  obtain ⟨rest, spelled⟩ := rooted
  have all := sum_length_splitOn '/' rest
  have first : reported.toList.splitOn '/' = [] :: rest.splitOn '/' := by
    rw [spelled, List.splitOn_cons_eq_if_modifyHead, if_pos BEq.rfl]
  have empty : ¬ isPart (String.ofList []) = true := by decide
  have some : (((rest.splitOn '/').map String.ofList).filter isPart).Sublist
      ((rest.splitOn '/').map String.ofList) := List.filter_sublist
  have fewer := (some.map (·.length + 1)).sum_le_sum (by simp)
  rw [← String.length_toList, spelled, List.length_cons, ← all]
  rw [Path.ofString, slashPieces, splitAtChar_eq, first, List.map_cons,
    List.filter_cons_of_neg empty, partsLength]
  simpa [Function.comp_def] using fewer

/-- What stands between the slashes of a path is as long as its parts, with one slash less. -/
theorem length_intercalate (filled : parts ≠ []) :
    (['/'].intercalate (parts.map String.toList)).length + 1 = partsLength parts := by
  induction parts with
  | nil => exact absurd rfl filled
  | cons part rest ih =>
    cases rest with
    | nil => simp [String.length_toList]
    | cons next others =>
      have further := ih (List.cons_ne_nil _ _)
      rw [List.map_cons, List.intercalate_cons_of_ne_nil (by simp)]
      simp only [List.length_append, List.length_cons, List.length_nil, partsLength_cons,
        String.length_toList] at further ⊢
      omega

/-- The text of a plain path is as long as its parts, or it is a slash. -/
theorem Path.IsPlain.length_toString (plain : path.IsPlain) :
    path.toString.length = max 1 (partsLength path.parts) := by
  rw [← String.length_toList, plain.toList_toString, List.length_cons]
  by_cases root : path.parts = []
  · simp [root]
  · have whole := length_intercalate root
    omega

/-- A shorter text that starts with a slash does not name a plain path, even if double dots are taken
back. -/
theorem Path.IsPlain.normalize_ne (plain : path.IsPlain)
    (rooted : ∃ rest, reported.toList = '/' :: rest)
    (shorter : reported.length < path.toString.length) :
    (Path.ofString reported).normalize ≠ path := by
  intro same
  -- Its parts would be no longer than those that it is made of, and these no longer than the text.
  have folded : partsLength path.parts ≤ partsLength (Path.ofString reported).parts := by
    rw [← same, Path.normalize]
    simpa using partsLength_foldParts_le (Path.ofString reported).isAbsolute [] _
  have within := partsLength_ofString_le rooted
  have filled : 1 ≤ reported.length := by
    obtain ⟨rest, spelled⟩ := rooted
    rw [← String.length_toList, spelled, List.length_cons]
    omega
  rw [plain.length_toString] at shorter
  omega

end Files

/-- A shorter name is not told to be that of a resolved file. -/
theorem Surroundings.sameFile_of_shorter {surroundings : Surroundings} {path : Path}
    {reported : String} (plain : path.IsPlain) (resolved : surroundings.resolve path = .ok path)
    (rooted : ∃ rest, reported.toList = '/' :: rest)
    (shorter : reported.length < path.toString.length) (workdir : Option Path) :
    surroundings.sameFile reported path workdir = .ok false := by
  have starts : reported.startsWith "/" = true := by
    obtain ⟨rest, spelled⟩ := rooted
    rw [String.startsWith_string_iff, spelled]
    exact List.prefix_append ['/'] rest
  have other : (Path.ofString reported).normalize ≠ path.normalize := by
    rw [plain.normalize_eq]
    exact plain.normalize_ne rooted shorter
  unfold sameFile
  simp only [starts, Bool.or_true, if_true, resolved]
  exact congrArg Except.ok (decide_eq_false other)

/-! ## What is read as the name of a file -/

namespace Text

/-- Blanks at the right end of a text are those after a character that is not blank. -/
theorem trimRight_append_cons {c : Char} (marked : isBlank c = false) (before text : List Char) :
    trimRight (before ++ c :: text) = before ++ c :: trimRight text := by
  have kept : (c :: before.reverse).dropWhile isBlank = c :: before.reverse :=
    List.dropWhile_cons_of_neg (by simp [marked])
  rw [trimRight, trimRight, List.reverse_append, List.reverse_cons, List.append_assoc,
    List.singleton_append, List.dropWhile_append, kept]
  split
  next blank => simp [List.isEmpty_iff.mp blank]
  next => simp

/-- Trimming makes no text longer. -/
theorem length_trim_le (text : List Char) : (trim text).length ≤ text.length :=
  (List.rdropWhile_prefix _ _).length_le.trans (List.dropWhile_sublist _).length_le

/-- A text that starts with a slash has no blanks before it. -/
theorem trimLeft_of_slash {text : List Char} (rooted : ∃ rest, text = '/' :: rest) :
    trimLeft text = text := by
  obtain ⟨rest, rfl⟩ := rooted
  exact List.dropWhile_cons_of_neg (by decide)

/-- What stands before the first place of a character is shorter than the text. -/
theorem length_takeWhile_ne_lt {c : Char} {text : List Char} (member : c ∈ text) :
    (text.takeWhile (· ≠ c)).length < text.length := by
  refine (List.takeWhile_prefix _).length_le.lt_of_ne fun same => ?_
  have whole := (List.takeWhile_prefix (· ≠ c)).eq_of_length same
  have differs := List.mem_takeWhile_imp (whole.symm ▸ member)
  simp at differs

end Text

namespace Diagnostic

variable {line file rest before source tail : List Char} {shape : Shape} {diagnostic : Diagnostic}

/-- The file stays the one that was taken before. -/
theorem file_of_readAfterFile (read : readAfterFile file rest = some shape) : shape.file = file := by
  simp only [readAfterFile, Option.bind_eq_bind, Option.bind_eq_some_iff] at read
  obtain ⟨_, -, _, -, _, -, _, -, equal⟩ := read
  exact congrArg Shape.file (Option.some.inj equal).symm

/-- The file stays the one that was taken before. -/
theorem file_of_readAfterParenthesis (read : readAfterParenthesis file rest = some shape) :
    shape.file = file := by
  simp only [readAfterParenthesis, Option.bind_eq_bind, Option.bind_eq_some_iff] at read
  obtain ⟨_, -, _, -, _, -, _, -, _, -, equal⟩ := read
  exact congrArg Shape.file (Option.some.inj equal).symm

/-- A file before a parenthesis is all that stands before one. -/
theorem exists_of_readParenthesisFrom (read : readParenthesisFrom before line = some shape) :
    ∃ start rest, line = start ++ '(' :: rest ∧ shape.file = before.reverse ++ start := by
  induction line generalizing before with
  | nil => cases read
  | cons c rest ih =>
    rw [readParenthesisFrom, Option.or_eq_some_iff] at read
    rcases read with here | ⟨-, later⟩
    · split at here
      next opens =>
        rw [Bool.and_eq_true, decide_eq_true_eq] at opens
        refine ⟨[], rest, by rw [opens.1]; rfl, ?_⟩
        rw [file_of_readAfterParenthesis here, List.append_nil]
      · cases here
    · obtain ⟨start, after, split, taken⟩ := ih later
      refine ⟨c :: start, after, by rw [split]; rfl, ?_⟩
      rw [taken, List.reverse_cons, List.append_assoc, List.singleton_append]

/-- A file before a colon is all that stands before the first one, unless it is on a drive. -/
theorem file_of_readColonShape (rooted : ∃ rest, line = '/' :: rest)
    (read : readColonShape line = some shape) : shape.file = line.takeWhile (· ≠ ':') := by
  -- The letter of a drive is no slash.
  have driveless : readFrom [] line = some shape := by
    unfold readColonShape at read
    dsimp only at read
    split at read
    next letter after =>
      obtain ⟨others, spelled⟩ := rooted
      obtain ⟨rfl, -⟩ := List.cons.inj spelled
      exact read
    · exact read
  unfold readFrom at driveless
  dsimp only at driveless
  split at driveless
  · split at driveless
    · cases driveless
    · exact file_of_readAfterFile driveless
  · cases driveless

/-- After a source that is named from the root comes a colon, and no parenthesis. Then what is read as the
file is the source up to its first colon or up to one of its parentheses. -/
theorem file_of_readShape (rooted : ∃ rest, source = '/' :: rest) (bare : '(' ∉ tail)
    (read : readShape (source ++ ':' :: tail) = some shape) :
    shape.file = source.takeWhile (· ≠ ':') ∨ ∃ rest, source = shape.file ++ '(' :: rest := by
  have begins : ∃ rest, source ++ ':' :: tail = '/' :: rest := by
    obtain ⟨rest, rfl⟩ := rooted
    exact ⟨rest ++ ':' :: tail, rfl⟩
  rw [readShape, Option.or_eq_some_iff] at read
  rcases read with colon | ⟨-, parenthesis⟩
  · left
    rw [file_of_readColonShape begins colon, takeWhile_append_cons_of_neg (by decide)]
  · right
    obtain ⟨start, after, split, taken⟩ := exists_of_readParenthesisFrom parenthesis
    rw [List.reverse_nil, List.nil_append] at taken
    rw [taken]
    -- The parenthesis stands in the source, because there is none after it.
    rcases List.append_eq_append_iff.mp split with ⟨more, -, within⟩ | ⟨more, equal, within⟩
    · have missing : '(' ∉ ':' :: tail := List.not_mem_cons_of_ne_of_not_mem (by decide) bare
      exact absurd (within ▸ List.mem_append_right more List.mem_cons_self) missing
    · cases more with
      | nil =>
        rw [List.nil_append] at within
        cases within
      | cons c others =>
        obtain ⟨rfl, -⟩ := List.cons.inj within
        exact ⟨others, equal⟩

/-- What is read as the file of a source that is named from the root is named from the root, also when it
is trimmed. -/
theorem exists_trim_eq_cons (rooted : ∃ rest, source = '/' :: rest)
    (taken : file = source.takeWhile (· ≠ ':') ∨ ∃ rest, source = file ++ '(' :: rest) :
    ∃ rest, trim file = '/' :: rest := by
  have first : ∃ rest, file = '/' :: rest := by
    obtain ⟨rest, rfl⟩ := rooted
    rcases taken with rfl | ⟨after, split⟩
    · exact ⟨_, List.takeWhile_cons_of_pos (by decide)⟩
    · cases file with
      | nil => cases split
      | cons c others => exact ⟨others, by rw [(List.cons.inj split).1]⟩
  rw [trim, trimLeft_of_slash first]
  obtain ⟨rest, rfl⟩ := first
  exact ⟨trimRight rest, trimRight_append_cons (by decide) [] rest⟩

/-- The diagnostic of a shape is about its file, without the blanks around it. -/
theorem file_of_ofShape (given : ofShape shape = .ok diagnostic) :
    diagnostic.file = String.ofList (trim shape.file) := by
  obtain ⟨number, -, after⟩ := Except.bind_eq_ok_iff.mp given
  dsimp only at after
  split at after
  · obtain ⟨column, -, equal⟩ := Except.bind_eq_ok_iff.mp after
    rw [← Except.ok.inj equal]
  · rw [← Except.ok.inj after]

/-- A line is read as one diagnostic. -/
theorem ofLines_singleton_iff : ofLines [line] = .ok [diagnostic] ↔ ReadsAs line diagnostic := by
  constructor
  · intro read
    have member : diagnostic ∈ [diagnostic] := List.mem_singleton_self _
    simpa using (mem_of_ofLines read).mp member
  · rintro ⟨shape, shaped, given⟩
    simp only [ofLines, shaped, given]
    rfl

/-! ## What a compiler says -/

/-- The line in which a compiler says something about a source. -/
def said (source : String) (line column : Nat) (word message : String) : String :=
  s!"{source}:{line}:{column}: {word}: {message}"

/-- What a compiler can say in one line, with a word for its severity. -/
structure Sayable (line column : Nat) (word : String) (severity : Severity) (message : String) :
    Prop where
  /-- The word is one for the severity. -/
  spelled : (word, severity) ∈ colonSeverityWords
  /-- The line can be read. -/
  line_short : isLong line = false
  /-- The column can be read. -/
  column_short : isLong column = false
  /-- The message stands in one line. -/
  unbroken : ∀ c ∈ message.toList, isLineBreak c = false

/-- What stands after the source and a colon, up to the blank before the message. -/
def afterSource (line column : Nat) (word : String) (rest : List Char) : List Char :=
  digitsOf line ++ ':' :: (columnPart (some column) ++ ' ' :: (word.toList ++ ':' :: rest))

variable {path : String} {number column : Nat} {word message : String} {severity : Severity}

/-- The characters of a line in which a compiler says something about a source. -/
theorem toList_said : (said path number column word message).toList =
    path.toList ++ ':' :: afterSource number column word (' ' :: message.toList) := by
  simp [said, afterSource, digitsOf, columnPart, toString]

/-- Only blanks at the end of the message are lost when the line is trimmed. -/
theorem trimRight_said : trimRight (said path number column word message).toList =
    path.toList ++ ':' :: afterSource number column word (trimRight (' ' :: message.toList)) := by
  -- The last thing before the message is a colon, which is not blank.
  have regroup (rest : List Char) : path.toList ++ ':' :: afterSource number column word rest =
      (path.toList ++ ':' :: (digitsOf number ++ ':' :: (columnPart (some column) ++
        ' ' :: word.toList))) ++ ':' :: rest := by
    simp [afterSource]
  rw [toList_said, regroup, regroup, trimRight_append_cons (by decide)]

/-- Between the source and the message there are only characters of numbers and words, and marks. -/
theorem forall_mem_afterSource {holds : Char → Prop} {rest : List Char}
    (spelled : (word, severity) ∈ colonSeverityWords)
    (digits : ∀ c, c.isDigit = true → holds c) (colon : holds ':') (blank : holds ' ')
    (letters : ∀ entry ∈ colonSeverityWords, ∀ c ∈ entry.1.toList, holds c)
    (others : ∀ c ∈ rest, holds c) : ∀ c ∈ afterSource number column word rest, holds c := by
  have shown (number : Nat) : ∀ c ∈ digitsOf number, holds c := fun c member =>
    digits c (isDigit_of_mem_digitsOf member)
  simp only [afterSource, columnPart, List.forall_mem_append, List.forall_mem_cons]
  exact ⟨shown number, colon, ⟨shown column, colon, fun _ none => absurd none List.not_mem_nil⟩, blank,
    letters (word, severity) spelled, colon, others⟩

/-- What a compiler says about a source is one line. -/
theorem lines_said (spelled : (word, severity) ∈ colonSeverityWords)
    (source : ∀ c ∈ path.toList, isLineBreak c = false)
    (unbroken : ∀ c ∈ message.toList, isLineBreak c = false) :
    Text.lines (said path number column word message).toList =
      [(said path number column word message).toList] := by
  have blank : isLineBreak ' ' = false := by decide
  have colon : isLineBreak ':' = false := by decide
  have words : (colonSeverityWords.all fun entry => entry.1.toList.all (!isLineBreak ·)) = true := by
    decide
  have letters : ∀ entry ∈ colonSeverityWords, ∀ c ∈ entry.1.toList, isLineBreak c = false :=
    fun entry member => unbroken_of_all (List.all_eq_true.mp words entry member)
  refine lines_of_unbroken ?_ ?_
  · rw [toList_said, List.forall_mem_append, List.forall_mem_cons]
    refine ⟨source, colon, ?_⟩
    exact forall_mem_afterSource spelled (fun _ => isLineBreak_of_isDigit) colon blank letters
      (List.forall_mem_cons.mpr ⟨blank, unbroken⟩)
  · rw [toList_said]
    simp

/-- If the name of the source can be told apart, what is said is read back as it was said, but for blanks
around the message. -/
theorem readsAs_said (named : IsFileName path.toList) (trimmed : trim path.toList = path.toList)
    (sayable : Sayable number column word severity message) :
    ReadsAs (said path number column word message).toList ⟨path, number, some column, severity,
      String.ofList (trim (trimRight (' ' :: message.toList)))⟩ := by
  have after : readAfterFile path.toList
      (afterSource number column word (trimRight (' ' :: message.toList))) =
        some ⟨path.toList, digitsOf number, some (digitsOf column), severity,
          trimRight (' ' :: message.toList)⟩ :=
    readAfterFile_rendered (some column) sayable.spelled
  have shaped := named.readColonShape after
  refine ⟨⟨path.toList, digitsOf number, some (digitsOf column), severity,
    trimRight (' ' :: message.toList)⟩, ?_, ?_⟩
  · rw [trimRight_said, readShape, shaped, Option.some_or]
  · simp only [ofShape, naturalOfDigits_digitsOf sayable.line_short,
      naturalOfDigits_digitsOf sayable.column_short, trimmed, String.ofList_toList]
    rfl

/-- If there is no parenthesis in the message, there is none after the source. -/
theorem parenthesis_notMem_afterSource (sayable : Sayable number column word severity message)
    (bare : '(' ∉ message.toList) :
    '(' ∉ afterSource number column word (trimRight (' ' :: message.toList)) := by
  have words : (colonSeverityWords.all fun entry => entry.1.toList.all (· ≠ '(')) = true := by decide
  have missing : ∀ c ∈ afterSource number column word (trimRight (' ' :: message.toList)), c ≠ '(' := by
    refine forall_mem_afterSource sayable.spelled ?_ (by decide) (by decide) ?_ ?_
    · rintro c digit rfl
      cases digit
    · intro entry member
      simpa using List.all_eq_true.mp words entry member
    · rintro c member rfl
      have within := (List.rdropWhile_prefix _ _).subset member
      exact bare ((List.mem_cons.mp within).resolve_left (by decide))
  intro member
  exact missing _ member rfl

end Diagnostic

/-! ## Recognized paths -/

/-- A path that can be told apart from what follows it in a line: its text holds no colon, and it does not
end in a blank. -/
structure Files.Path.IsLegible (path : Path) : Prop where
  /-- There is no colon in it. -/
  colonless : ':' ∉ path.toString.toList
  /-- There is no blank at its end. -/
  trimmed : trimRight path.toString.toList = path.toString.toList

/-- An output is recognized as one diagnostic about a file, with a line and a severity, wherever the
compiler ran. -/
def Surroundings.Recognizes (surroundings : Surroundings) (path : Path) (output : String) (line : Nat)
    (severity : Severity) : Prop :=
  ∃ diagnostic, Diagnostic.readAll output = .ok [diagnostic] ∧ diagnostic.line = line ∧
    diagnostic.severity = severity ∧
      ∀ workdir, surroundings.sameFile diagnostic.file path workdir = .ok true

section

open Diagnostic

variable {surroundings : Surroundings} {path : Path} {line column : Nat} {word message : String}
variable {severity : Severity} {file : List Char}

/-- Nothing is lost of a legible path when it is trimmed. -/
theorem Files.Path.IsLegible.trim_eq (legible : path.IsLegible) (plain : path.IsPlain) :
    trim path.toString.toList = path.toString.toList := by
  rw [trim, trimLeft_of_slash ⟨_, plain.toList_toString⟩, legible.trimmed]

/-- A legible path can be told apart from what follows it in a line. -/
theorem Files.Path.IsLegible.isFileName (legible : path.IsLegible) (plain : path.IsPlain) :
    IsFileName path.toString.toList := by
  have rooted := plain.toList_toString
  refine .plain (by simp [rooted]) legible.colonless fun letter single => ?_
  -- A letter of a drive is no slash.
  rw [rooted] at single
  obtain ⟨rfl, -⟩ := List.cons.inj single
  decide

/-- What a compiler says about a source named by a legible path is recognized. -/
theorem Files.Path.IsLegible.recognizes (legible : path.IsLegible) (plain : path.IsPlain)
    (resolved : surroundings.resolve path = .ok path)
    (unbroken : ∀ c ∈ path.toString.toList, isLineBreak c = false)
    (sayable : Sayable line column word severity message) :
    surroundings.Recognizes path (said path.toString line column word message) line severity := by
  have reads := readsAs_said (legible.isFileName plain) (legible.trim_eq plain) sayable
  have single : readAll (said path.toString line column word message) =
      .ok [⟨path.toString, line, some column, severity,
        String.ofList (trim (trimRight (' ' :: message.toList)))⟩] := by
    rw [readAll, lines_said sayable.spelled unbroken sayable.unbroken]
    exact ofLines_singleton_iff.mpr reads
  exact ⟨_, single, rfl, rfl, Surroundings.sameFile_toString plain resolved⟩

/-- What is read as the file of a source named by an illegible path is shorter than the path. -/
theorem length_trim_lt (illegible : ¬ path.IsLegible) (rooted : ∃ rest, path.toString.toList = '/' :: rest)
    (taken : file = path.toString.toList.takeWhile (· ≠ ':') ∨
      ∃ rest, path.toString.toList = file ++ '(' :: rest) :
    (trim file).length < path.toString.toList.length := by
  have fewer := length_trim_le file
  rcases taken with rfl | ⟨rest, split⟩
  · by_cases colon : ':' ∈ path.toString.toList
    · -- The name is cut at its first colon.
      exact fewer.trans_lt (length_takeWhile_ne_lt colon)
    · -- Nothing is cut off, so blanks at the end are lost.
      have whole : path.toString.toList.takeWhile (· ≠ ':') = path.toString.toList := by
        rw [List.takeWhile_eq_self_iff]
        intro c member
        exact decide_eq_true fun same => colon (same ▸ member)
      rw [whole, trim, trimLeft_of_slash rooted]
      have kept := List.rdropWhile_prefix isBlank path.toString.toList
      refine kept.length_le.lt_of_ne fun same => ?_
      exact illegible ⟨colon, kept.eq_of_length same⟩
  · -- The name is cut at one of its parentheses.
    have longer := congrArg List.length split
    rw [List.length_append, List.length_cons] at longer
    omega

/-- What a compiler says about a source named by an illegible path is not recognized, unless the message
holds a parenthesis. -/
theorem not_recognizes (illegible : ¬ path.IsLegible) (plain : path.IsPlain)
    (resolved : surroundings.resolve path = .ok path)
    (unbroken : ∀ c ∈ path.toString.toList, isLineBreak c = false)
    (sayable : Sayable line column word severity message) (bare : '(' ∉ message.toList) :
    ¬ surroundings.Recognizes path (said path.toString line column word message) line severity := by
  rintro ⟨diagnostic, read, -, -, about⟩
  rw [readAll, lines_said sayable.spelled unbroken sayable.unbroken, ofLines_singleton_iff,
    ReadsAs, trimRight_said] at read
  obtain ⟨shape, shaped, given⟩ := read
  have rooted : ∃ rest, path.toString.toList = '/' :: rest := ⟨_, plain.toList_toString⟩
  have parenless := parenthesis_notMem_afterSource sayable bare
  have taken := file_of_readShape rooted parenless shaped
  have named : diagnostic.file.toList = trim shape.file := by
    rw [file_of_ofShape given, String.toList_ofList]
  -- The name that is read starts at the root and is too short to be that of the fragment.
  have shorter : diagnostic.file.length < path.toString.length := by
    rw [← String.length_toList, ← String.length_toList, named]
    exact length_trim_lt illegible rooted taken
  have slashed : ∃ rest, diagnostic.file.toList = '/' :: rest := by
    rw [named]
    exact exists_trim_eq_cons rooted taken
  have other := Surroundings.sameFile_of_shorter plain resolved slashed shorter none
  cases (about none).symm.trans other

/-- The last argument of a compiler is the source. -/
theorem Job.getLast?_arguments (settings : CompilerSettings) (job : Job) :
    (job.arguments settings).getLast? = some job.fragment.path.toString :=
  List.getLast?_concat

end

/-- The last argument of a compiler names the source by the path that the list of fragments stands for.
What the compiler then says about the source on one line is recognized as being about the fragment if the
path is legible. If it is not legible this is never so, unless the message holds a parenthesis. -/
theorem recognizes_iff (context : PathContext) (spelled : context.IsSpelled) (entries : List String)
    (paths : List Path) (expanded : context.expandFragments entries = .ok paths) (path : Path)
    (member : path ∈ paths) (surroundings : Surroundings)
    (resolved : surroundings.resolve path = .ok path)
    (unbroken : ∀ c ∈ path.toString.toList, isLineBreak c = false) (settings : CompilerSettings)
    (job : Job) (own : job.fragment.path = path) :
    ∃ source, (job.arguments settings).getLast? = some source ∧
      (path.IsLegible → ∀ line column word severity message,
        Diagnostic.Sayable line column word severity message →
          surroundings.Recognizes path (Diagnostic.said source line column word message) line
            severity) ∧
      (¬ path.IsLegible → ∀ line column word severity message,
        Diagnostic.Sayable line column word severity message → '(' ∉ message.toList →
          ¬ surroundings.Recognizes path (Diagnostic.said source line column word message) line
            severity) := by
  have plain := PathContext.isPlain_of_expandFragments spelled expanded member resolved
  refine ⟨path.toString, own ▸ job.getLast?_arguments settings, ?_, ?_⟩
  · intro legible line column word severity message sayable
    exact legible.recognizes plain resolved unbroken sayable
  · intro illegible line column word severity message sayable bare
    exact not_recognizes illegible plain resolved unbroken sayable bare

/-! ## Instances -/

namespace Named

/-- A tree of three files: the name of one of them ends in a blank, and that of another holds a colon. -/
def tree : Tree :=
  ⟨[(["a.nc"], .file [] false), (["a.nc "], .file [] false), (["a:b.nc"], .file [] false)]⟩

/-- Paths are resolved from the root. -/
def context : PathContext := ⟨⟨none, []⟩, ⟨tree, []⟩, .ofParts []⟩

/-- All of the files are fragments. -/
def entries : List String := ["a.nc", "a.nc ", "a:b.nc"]

/-- The path without a blank and a colon. -/
def plain : Path := .ofParts ["a.nc"]

/-- The path that ends in a blank. -/
def blank : Path := .ofParts ["a.nc "]

/-- The path that holds a colon. -/
def colon : Path := .ofParts ["a:b.nc"]

theorem isSpelled : context.IsSpelled :=
  ⟨Path.each_nil 1, fun _ member => absurd member List.not_mem_nil⟩

theorem resolve_eq {name : String} (named : IsName name) :
    context.surroundings.resolve (.ofParts [name]) = .ok (.ofParts [name]) := by
  refine Surroundings.resolve_eq_self named.isPlain_ofParts (Tree.unlinked_of_linkless ?_ _)
  simp [context, tree]

/-- The name of a file, without a tilde and a pattern, stands for that file. -/
theorem pathsOf_name {name : String} (named : IsName name) (short : name.utf8ByteSize ≤ nameLimit)
    (magicless : Wildcard.hasMagic name = false) (tildeless : name.startsWith "~" = false)
    (listed : tree.entry? [name] = some (.file [] false)) :
    context.pathsOf name = .ok [.ofParts [name]] := by
  have expanded : context.expand (.ofString name) = .ok ⟨0, [name]⟩ := by
    simp [PathContext.expand, Path.expandHome, named.ofString_eq, tildeless]
  have resolved : context.resolve name = .ok (.ofParts [name]) := by
    rw [PathContext.resolve, expanded, Except.ok_bind]
    exact resolve_eq named
  have entered : tree.entry? (Path.ofParts [name]).parts = some (.file [] false) := listed
  have found : status tree [] (Path.ofParts [name]).toString = .ok (.file [] false) := by
    rw [named.isPlain_ofParts.status_eq (List.cons_ne_nil _ _) (Path.isShort_ofParts short)
      (tree.hasAbove_singleton _) (by simp [entered]), entered]
    rfl
  have there : isFile context.surroundings.tree context.surroundings.here
      (Path.ofParts [name]).toString = .ok true := by
    show testStatus tree [] (Path.ofParts [name]).toString Entry.isFile = .ok true
    rw [testStatus, named.isPlain_ofParts.hasNull_toString, if_neg Bool.false_ne_true, found]
    rfl
  rw [PathContext.pathsOf, magicless, if_neg Bool.false_ne_true, PathContext.existingFile, resolved,
    Except.ok_bind, there]
  rfl

theorem isName_plain : IsName "a.nc" := ⟨by decide, by decide, by decide, by decide⟩

theorem isName_blank : IsName "a.nc " := ⟨by decide, by decide, by decide, by decide⟩

theorem isName_colon : IsName "a:b.nc" := ⟨by decide, by decide, by decide, by decide⟩

theorem expandFragments_entries : context.expandFragments entries = .ok [plain, blank, colon] := by
  have first := pathsOf_name isName_plain (by decide) (by decide_cbv) (by decide_cbv) rfl
  have second := pathsOf_name isName_blank (by decide) (by decide_cbv) (by decide_cbv) rfl
  have third := pathsOf_name isName_colon (by decide) (by decide_cbv) (by decide_cbv) rfl
  simp only [PathContext.expandFragments, entries, PathContext.expandFrom, first, second, third,
    Except.ok_bind]
  rfl

theorem isLegible_plain : plain.IsLegible := ⟨by decide, by decide⟩

theorem not_isLegible_blank : ¬ blank.IsLegible := fun legible => absurd legible.trimmed (by decide)

/-- A job on a fragment at a path. -/
def job (path : Path) : Job := ⟨⟨path, "", "inline", []⟩, "key", .ofParts ["out"], none⟩

/-- A short message in the first column of the first line can be said. -/
theorem sayable {message : String} (unbroken : ∀ c ∈ message.toList, isLineBreak c = false) :
    Diagnostic.Sayable 1 1 "error" .error message := by
  have short : isLong 1 = false := isLong_eq_false_iff.mpr (Nat.one_lt_pow (by decide) (by decide))
  exact ⟨by decide, short, short, unbroken⟩

end Named

open Named in
/-- What is said about the first of the files is recognized, also with parentheses in it; what is said
about the one whose name ends in a blank is not. -/
theorem recognizes_iff_named :
    context.expandFragments entries = .ok [plain, blank, colon] ∧
      (∃ source, ((job plain).arguments default).getLast? = some source ∧
        context.surroundings.Recognizes plain (Diagnostic.said source 1 1 "error" "no match for f(int)")
          1 .error) ∧
      ∃ source, ((job blank).arguments default).getLast? = some source ∧
        ¬ context.surroundings.Recognizes blank (Diagnostic.said source 1 1 "error" "foo") 1 .error := by
  obtain ⟨source, last, recognized, -⟩ := recognizes_iff context isSpelled entries _
    expandFragments_entries plain (by decide) context.surroundings (resolve_eq isName_plain)
    (unbroken_of_all (by decide)) default (job plain) rfl
  obtain ⟨other, lastToo, -, unrecognized⟩ := recognizes_iff context isSpelled entries _
    expandFragments_entries blank (by decide) context.surroundings (resolve_eq isName_blank)
    (unbroken_of_all (by decide)) default (job blank) rfl
  refine ⟨expandFragments_entries, ⟨source, last, ?_⟩, other, lastToo, ?_⟩
  · exact recognized isLegible_plain 1 1 _ _ _ (sayable (unbroken_of_all (by decide)))
  · exact unrecognized not_isLegible_blank 1 1 _ _ _ (sayable (unbroken_of_all (by decide)))
      (by decide)

open Named in
/-- A compiler that names a fragment by its path is not understood if the path ends in a blank, which is
lost, or if it holds a colon: then nothing is read at all. -/
theorem blank_lost :
    context.expandFragments entries = .ok [plain, blank, colon] ∧
      Diagnostic.readAll (Diagnostic.said blank.toString 1 1 "error" "foo") =
        .ok [⟨"/a.nc", 1, some 1, .error, "foo"⟩] ∧
      context.surroundings.sameFile "/a.nc" blank none = .ok false ∧
      Diagnostic.readAll (Diagnostic.said colon.toString 1 1 "error" "foo") = .ok [] ∧
      ¬ ∀ (context : PathContext) (entries : List String) (paths : List Path) (path : Path)
        (settings : CompilerSettings) (job : Job) (source : String) (line column : Nat) (word : String)
        (severity : Severity) (message : String), context.IsSpelled →
          context.expandFragments entries = .ok paths → path ∈ paths →
            context.surroundings.resolve path = .ok path →
              (∀ c ∈ path.toString.toList, isLineBreak c = false) → job.fragment.path = path →
                (job.arguments settings).getLast? = some source →
                  Diagnostic.Sayable line column word severity message →
                    context.surroundings.Recognizes path
                      (Diagnostic.said source line column word message) line severity := by
  have resolved := resolve_eq isName_blank
  have read : Diagnostic.readAll (Diagnostic.said blank.toString 1 1 "error" "foo") =
      .ok [⟨"/a.nc", 1, some 1, .error, "foo"⟩] := Except.eq_ok_of_toOption (by decide)
  have other : context.surroundings.sameFile "/a.nc" blank none = .ok false :=
    Surroundings.sameFile_of_shorter isName_blank.isPlain_ofParts resolved ⟨_, rfl⟩ (by decide) none
  refine ⟨expandFragments_entries, read, other, Except.eq_ok_of_toOption (by decide), ?_⟩
  intro always
  obtain ⟨diagnostic, again, -, -, about⟩ := always context entries _ blank default (job blank) _ 1 1 _ _
    "foo" isSpelled expandFragments_entries (by decide) resolved (unbroken_of_all (by decide)) rfl
    (Job.getLast?_arguments _ _) (sayable (unbroken_of_all (by decide)))
  have same : [diagnostic] = [⟨"/a.nc", 1, some 1, .error, "foo"⟩] :=
    Except.ok.inj (again.symm.trans read)
  rw [(List.cons.inj same).1] at about
  cases (about none).symm.trans other

end NegativeCompile
