import NegativeCompile.Dialect.Guarded
import NegativeCompile.Proofs.Except

/-! # Lines that test symbols

What is known of a line that opens a branch of a case: it starts with the test of a symbol, so it
opens a conditional or continues one (`nesting_of_guard?`), and its comment is accepted just if it
lists patterns (`readPatterns_eq_ok_iff`). Each line that is read either is such a line and opens its
branch, or is passed (`Progress.step_cases`). -/

namespace NegativeCompile.Guarded

open Files Text

variable {line text rest more : List Char} {head : Head} {guard : Guard}
variable {path : Path} {number : Nat} {symbol : String} {comment : Option (List Char)}
variable {patterns : List String} {progress next : Progress}

/-! ## Tests of symbols -/

/-- The word of the directive that tests a symbol. -/
def Head.word (head : Head) : List Char := if head.isElif then "elif".toList else "if".toList

/-- The word tells whether the test continues a conditional. -/
theorem Head.word_beq_elif (head : Head) : (head.word == "elif".toList) = head.isElif := by
  obtain ⟨isElif, symbol⟩ := head
  cases isElif <;> rfl

/-- The word is one of the two that may stand before a test. -/
theorem Head.word_cases (head : Head) :
    (head.isElif || head.word == "if".toList) = true := by
  obtain ⟨isElif, symbol⟩ := head
  cases isElif <;> rfl

/-- One of the two words is the word of a test of any symbol. -/
theorem word_mk {word : List Char}
    (known : (word == "elif".toList || word == "if".toList) = true) (symbol : List Char) :
    Head.word ⟨word == "elif".toList, symbol⟩ = word := by
  rcases Bool.or_eq_true _ _ ▸ known with isElif | isIf
  · rw [Head.word, if_pos isElif, eq_of_beq isElif]
  · rw [eq_of_beq isIf]
    rfl

/-- A text starts with the test of a symbol just if it is a directive with the word for it, blanks,
the word that asks for a definition, and the symbol between parentheses. -/
theorem head?_eq_some_iff : head? text = some (head, rest) ↔ ∃ afterWord inside,
    directive? text = some (head.word, afterWord) ∧
    (trimLeft afterWord).length ≠ afterWord.length ∧
    startsWith "defined".toList (trimLeft afterWord) = true ∧
    trimLeft ((trimLeft afterWord).drop 7) = '(' :: inside ∧
    head.symbol = (trimLeft inside).takeWhile isWordChar ∧
    trimLeft ((trimLeft inside).dropWhile isWordChar) = ')' :: rest ∧
    isSymbol head.symbol = true := by
  unfold head?
  constructor
  · intro reads
    -- One split for each thing that the reader asks for, in its order.
    split at reads
    · cases reads
    next word afterWord directive =>
      dsimp only at reads
      split at reads
      · cases reads
      next fits =>
        rw [Bool.or_eq_true, not_or, Bool.not_eq_true', Bool.not_eq_false, decide_eq_true_eq] at fits
        split at reads
        · cases reads
        next asks =>
          split at reads
          next inside opened =>
            split at reads
            next after closed =>
              split at reads
              next named =>
                cases reads
                refine ⟨afterWord, inside, ?_, fits.2, ?_, opened, rfl, closed, named⟩
                · rw [directive, word_mk fits.1]
                · simpa only [Bool.not_eq_true', Bool.not_eq_false] using asks
              · cases reads
            · cases reads
          · cases reads
  · rintro ⟨afterWord, inside, directive, blank, asks, opened, symbol, closed, named⟩
    rw [directive]
    dsimp only
    rw [head.word_beq_elif, if_neg, if_neg]
    · simp only [opened, closed, ← symbol, named, if_true]
    · rw [asks]
      decide
    · rw [head.word_cases, decide_eq_false blank]
      decide

/-- Where characters of a kind end, they end alike in a longer text. -/
theorem dropWhile_append_of_ends {test : Char → Bool} (ends : text.dropWhile test ≠ []) :
    (text ++ more).dropWhile test = text.dropWhile test ++ more := by
  rw [List.dropWhile_append, if_neg (by simpa only [List.isEmpty_iff] using ends)]

/-- Characters of a kind at the start of a text are the same ones in a longer text, if they end. -/
theorem takeWhile_append_of_ends {test : Char → Bool} (ends : text.dropWhile test ≠ []) :
    (text ++ more).takeWhile test = text.takeWhile test := by
  have shorter : (text.takeWhile test).length ≠ text.length := by
    have split := congrArg List.length (List.takeWhile_append_dropWhile (p := test) (l := text))
    have rest := List.length_pos_of_ne_nil ends
    rw [List.length_append] at split
    omega
  rw [List.takeWhile_append, if_neg shorter]

/-- A text is a directive just if a hash sign is its first character that is not blank. -/
theorem directive?_eq_some_iff {word after : List Char} :
    directive? text = some (word, after) ↔ ∃ body, trimLeft text = '#' :: body ∧
      (trimLeft body).takeWhile isWordChar = word ∧ (trimLeft body).dropWhile isWordChar = after := by
  unfold directive?
  constructor
  · intro reads
    split at reads
    next body hash =>
      obtain ⟨taken, dropped⟩ := Prod.mk.inj (Option.some.inj reads)
      exact ⟨body, hash, taken, dropped⟩
    · cases reads
  · rintro ⟨body, hash, rfl, rfl⟩
    simp only [hash]

/-- A directive is read alike from a longer text, if something follows its word. -/
theorem directive?_append {word after : List Char} (reads : directive? text = some (word, after))
    (follows : after ≠ []) : directive? (text ++ more) = some (word, after ++ more) := by
  obtain ⟨body, hash, rfl, rfl⟩ := directive?_eq_some_iff.mp reads
  have unblank : body.dropWhile isBlank ≠ [] := by
    intro blank
    rw [trimLeft, blank] at follows
    exact follows rfl
  have start : trimLeft (text ++ more) = '#' :: (body ++ more) := by
    have unempty : trimLeft text ≠ [] := hash ▸ List.cons_ne_nil _ _
    exact (dropWhile_append_of_ends unempty).trans (congrArg (· ++ more) hash)
  have inner : trimLeft (body ++ more) = trimLeft body ++ more := dropWhile_append_of_ends unblank
  refine directive?_eq_some_iff.mpr ⟨body ++ more, start, ?_, ?_⟩
  · rw [inner, takeWhile_append_of_ends follows]
  · rw [inner, dropWhile_append_of_ends follows]

/-- A test of a symbol is read alike from a longer text. -/
theorem head?_append (reads : head? text = some (head, rest)) :
    head? (text ++ more) = some (head, rest ++ more) := by
  obtain ⟨afterWord, inside, directive, blank, asks, opened, symbol, closed, named⟩ :=
    head?_eq_some_iff.mp reads
  -- Something is left at every stage of reading, up to the closing parenthesis.
  have parenthesis : ((trimLeft afterWord).drop 7).dropWhile isBlank ≠ [] :=
    fun nothing => List.cons_ne_nil _ _ (opened.symm.trans nothing)
  have asked : 7 ≤ (trimLeft afterWord).length := (List.isPrefixOf_iff_prefix.mp asks).length_le
  have unblank : afterWord.dropWhile isBlank ≠ [] := by
    intro nothing
    rw [trimLeft, nothing] at asked
    exact absurd asked (by decide)
  have closing : ((trimLeft inside).dropWhile isWordChar).dropWhile isBlank ≠ [] :=
    fun nothing => List.cons_ne_nil _ _ (closed.symm.trans nothing)
  have ends : (trimLeft inside).dropWhile isWordChar ≠ [] := by
    intro nothing
    rw [nothing] at closing
    exact closing rfl
  have named' : inside.dropWhile isBlank ≠ [] := by
    intro nothing
    rw [trimLeft, nothing] at ends
    exact ends rfl
  have wordEnds : afterWord ≠ [] := by
    rintro rfl
    exact unblank rfl
  have trimmed : trimLeft (afterWord ++ more) = trimLeft afterWord ++ more :=
    dropWhile_append_of_ends unblank
  have trimmedInside : trimLeft (inside ++ more) = trimLeft inside ++ more :=
    dropWhile_append_of_ends named'
  refine head?_eq_some_iff.mpr ⟨afterWord ++ more, inside ++ more, ?_, ?_, ?_, ?_, ?_, ?_, named⟩
  · exact directive?_append directive wordEnds
  · rw [trimmed, List.length_append, List.length_append]
    omega
  · rw [trimmed]
    exact List.isPrefixOf_iff_prefix.mpr
      ((List.isPrefixOf_iff_prefix.mp asks).trans (List.prefix_append _ _))
  · rw [trimmed, List.drop_append_of_le_length asked]
    exact (dropWhile_append_of_ends parenthesis).trans (congrArg (· ++ more) opened)
  · rw [trimmedInside, takeWhile_append_of_ends ends, symbol]
  · rw [trimmedInside, dropWhile_append_of_ends ends]
    exact (dropWhile_append_of_ends closing).trans (congrArg (· ++ more) closed)

/-! ## Guards -/

/-- A line opens a branch of a case just if it starts with the test of its symbol and only a comment
follows. -/
theorem head?_of_guard? (reads : guard? line = some guard) :
    ∃ after, head? line = some (⟨guard.isElif, guard.symbol⟩, after) := by
  unfold guard? at reads
  split at reads
  · cases reads
  next head after starts =>
    split at reads
    · cases reads
      exact ⟨after, starts⟩
    · cases reads
      exact ⟨after, starts⟩
    · cases reads

/-- A line that opens a branch of a case starts another branch or opens a conditional. -/
theorem nesting_of_guard? (reads : guard? line = some guard) :
    nesting line = if guard.isElif then .branch else .opening := by
  obtain ⟨after, starts⟩ := head?_of_guard? reads
  obtain ⟨afterWord, -, directive, -⟩ := head?_eq_some_iff.mp starts
  rw [nesting, directive]
  cases guard.isElif <;> rfl

/-- A line that neither opens a conditional nor starts another branch opens no branch of a case. -/
theorem guard?_eq_none (opensNone : nesting line ≠ .opening) (startsNone : nesting line ≠ .branch) :
    guard? line = none := by
  rw [Option.eq_none_iff_forall_ne_some]
  intro guard reads
  have kind := nesting_of_guard? reads
  split at kind
  · exact startsNone kind
  · exact opensNone kind

/-! ## Lists of patterns -/

/-- A comment lists patterns: it is a list of texts, at least one, all of which are patterns. -/
structure Lists (comment : Option (List Char)) (patterns : List String) : Prop where
  /-- The comment holds the written list. -/
  written : ∃ text literal, comment = some text ∧ listLiteral? text = some literal ∧
    Literal.read literal = .ok (.list (patterns.map .text))
  /-- The list is not empty. -/
  unempty : patterns ≠ []
  /-- Every text in it is a pattern. -/
  valid : ∀ pattern ∈ patterns, ∃ regex, Regex.read pattern.toList = .ok regex

/-- An entry of a list is accepted just if it is a text that is a pattern. -/
theorem readPattern_eq_ok_iff {entry : Datum} {pattern : String} :
    readPattern path number symbol entry = .ok pattern ↔
      entry = .text pattern ∧ ∃ regex, Regex.read pattern.toList = .ok regex := by
  unfold readPattern
  split
  next written =>
    rw [Datum.text.injEq]
    split
    next regex reads =>
      rw [Except.ok.injEq]
      constructor
      · rintro rfl
        exact ⟨rfl, regex, reads⟩
      · exact fun both => both.1
    next problem fails =>
      constructor
      · intro accepted
        split at accepted <;> cases accepted
      · rintro ⟨rfl, regex, reads⟩
        rw [reads] at fails
        cases fails
  next notText =>
    constructor
    · intro accepted
      split at accepted <;> cases accepted
    · rintro ⟨rfl, -⟩
      exact absurd rfl (notText pattern)

/-- Entries of a list are accepted just if they are texts that are patterns. -/
theorem mapM_readPattern_eq_ok_iff {entries : List Datum} :
    entries.mapM (readPattern path number symbol) = .ok patterns ↔
      entries = patterns.map .text ∧
        ∀ pattern ∈ patterns, ∃ regex, Regex.read pattern.toList = .ok regex := by
  rw [Except.mapM_eq_ok_iff]
  simp only [readPattern_eq_ok_iff]
  constructor
  · intro each
    induction each with
    | nil => simp
    | cons head _ ih =>
      obtain ⟨rfl, valid⟩ := head
      obtain ⟨rfl, others⟩ := ih
      exact ⟨rfl, List.forall_mem_cons.mpr ⟨valid, others⟩⟩
  · rintro ⟨rfl, valid⟩
    rw [List.forall₂_map_left_iff, List.forall₂_same]
    exact fun pattern member => ⟨rfl, valid pattern member⟩

/-- The comment after a test is accepted just if it lists patterns. -/
theorem readPatterns_eq_ok_iff :
    readPatterns path number symbol comment = .ok patterns ↔ Lists comment patterns := by
  unfold readPatterns
  constructor
  · intro accepted
    split at accepted
    · cases accepted
    next text =>
      split at accepted
      · cases accepted
      next literal holds =>
        split at accepted
        · cases accepted
        · cases accepted
        · cases accepted
        next first rest reads =>
          obtain ⟨same, valid⟩ := mapM_readPattern_eq_ok_iff.mp accepted
          refine ⟨⟨text, literal, rfl, holds, same ▸ reads⟩, ?_, valid⟩
          rintro rfl
          cases same
        · cases accepted
  · rintro ⟨⟨text, literal, rfl, holds, reads⟩, unempty, valid⟩
    obtain ⟨first, rest, rfl⟩ := List.exists_cons_of_ne_nil unempty
    simp only [holds, reads, List.map_cons]
    exact mapM_readPattern_eq_ok_iff.mpr ⟨rfl, valid⟩

/-! ## Steps -/

namespace Progress

/-- A line opens a branch of a case if its test may stand there and its comment is accepted: the branch
before it ends, and the case is open. -/
theorem openBranch_eq_ok_iff : progress.openBranch path number guard = .ok next ↔
    (guard.isElif = true → progress.inChain = true) ∧ ∃ patterns,
      readPatterns path number (String.ofList guard.symbol) guard.comment = .ok patterns ∧
        next = { progress.close (number - 1) with
          inChain := true, current := some ⟨String.ofList guard.symbol, number, patterns⟩ } := by
  unfold openBranch
  dsimp only
  split
  next misplaced =>
    rw [Bool.and_eq_true, Bool.not_eq_true'] at misplaced
    constructor
    · intro opened
      cases opened
    · rintro ⟨continues, -⟩
      rw [continues misplaced.1] at misplaced
      cases misplaced.2
  next allowed =>
    have continues : guard.isElif = true → progress.inChain = true := by simpa using allowed
    rw [Except.bind_eq_ok_iff]
    constructor
    · rintro ⟨patterns, listed, equal⟩
      exact ⟨continues, patterns, listed, (Except.ok.inj equal).symm⟩
    · rintro ⟨-, patterns, listed, rfl⟩
      exact ⟨patterns, listed, rfl⟩

/-- A line that is passed leaves the cases as they are, or they are those with the open one ended. -/
theorem pass_cases (progress : Progress) (number : Nat) (kind : Nesting) :
    ((progress.pass number kind).current = progress.current ∧
        (progress.pass number kind).cases = progress.cases) ∨
      ((progress.pass number kind).current = (progress.close (number - 1)).current ∧
        (progress.pass number kind).cases = (progress.close (number - 1)).cases) := by
  cases kind with
  | opening => exact .inl ⟨rfl, rfl⟩
  | branch =>
    rw [pass]
    split
    · exact .inr ⟨rfl, rfl⟩
    · exact .inl ⟨rfl, rfl⟩
  | closing =>
    rw [pass]
    split
    · exact .inl ⟨rfl, rfl⟩
    · split
      · exact .inr ⟨rfl, rfl⟩
      · exact .inl ⟨rfl, rfl⟩
  | plain => exact .inl ⟨rfl, rfl⟩

/-- A line is a test of a symbol that opens its branch, or it is passed. -/
theorem step_cases (progress : Progress) (path : Path) (number : Nat) (line : List Char) :
    (∃ guard, guard? line = some guard ∧
        progress.step path number line = progress.openBranch path number guard) ∨
      progress.step path number line = .ok (progress.pass number (nesting line)) := by
  unfold step
  by_cases outside : progress.depth = 0
  · rw [if_pos outside]
    cases reads : guard? line with
    | none => exact .inr rfl
    | some guard => exact .inl ⟨guard, rfl, rfl⟩
  · rw [if_neg outside]
    exact .inr rfl

end Progress

end NegativeCompile.Guarded
