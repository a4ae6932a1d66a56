import Mathlib
import NegativeCompile.Datum.Written
import NegativeCompile.Literal.Expression.Reader
import NegativeCompile.Proofs.Text.Escaping

/-! # Lists of texts are read back

A list of texts, written as it is shown inside a message, is a literal that stands for the list
(`Literal.read_written`). Its tokens are brackets, commas and texts (`Literal.tokens_writtenInside`);
where an item ends, nothing comes next that would go on with it (`Literal.Expression.Ends`), so each
text is read as an item of its own. -/

namespace NegativeCompile

namespace Literal

open Text

variable {c : Char} {text rest after : List Char} {texts : List (List Char)}
variable {next : Token} {found : List Token}

/-! ## Tokens -/

/-- A text has some tokens: whatever fuel is left, they are found if it exceeds the length of the
text. -/
def HasTokens (text : List Char) (found : List Token) : Prop :=
  ∀ fuel, text.length < fuel → tokensFrom fuel text = some found

/-- The tokens that a text has are those of it. -/
theorem HasTokens.tokens (has : HasTokens text found) : tokens text = some found :=
  has _ (Nat.lt_succ_self _)

/-- The empty text has no tokens. -/
theorem hasTokens_nil : HasTokens [] [] := by
  intro fuel enough
  obtain ⟨fuel, rfl⟩ := Nat.exists_eq_succ_of_ne_zero (Nat.ne_zero_of_lt enough)
  rfl

/-- A blank before a text adds no token. -/
theorem HasTokens.blank (has : HasTokens rest found) : HasTokens (' ' :: rest) found := by
  intro fuel enough
  obtain ⟨fuel, rfl⟩ := Nat.exists_eq_succ_of_ne_zero (Nat.ne_zero_of_lt enough)
  rw [tokensFrom]
  exact has fuel (Nat.lt_of_succ_lt_succ enough)

/-- A token before a text is the first of the tokens. -/
theorem HasTokens.token (has : HasTokens after found)
    (first : nextToken (c :: rest) = some (next, after)) (shorter : after.length ≤ rest.length)
    (solid : isSpace c = false) (loud : c ≠ '#') : HasTokens (c :: rest) (next :: found) := by
  intro fuel enough
  obtain ⟨fuel, rfl⟩ := Nat.exists_eq_succ_of_ne_zero (Nat.ne_zero_of_lt enough)
  have left : after.length < fuel := shorter.trans_lt (Nat.lt_of_succ_lt_succ enough)
  simp only [tokensFrom, solid, loud, first, has fuel left, if_false, Option.map_some,
    Bool.false_eq_true]

/-- No mark of two characters starts with a bracket or a comma. -/
theorem contains_doubleMarks (known : c = '[' ∨ c = ',' ∨ c = ']') (rest : List Char) :
    doubleMarks.contains (String.ofList ((c :: rest).take 2)) = false := by
  have start : ∀ mark ∈ doubleMarks, mark.toList.head? ∉ [some '[', some ',', some ']'] := by decide
  rw [← Bool.not_eq_true, List.contains_iff_mem]
  intro double
  refine start _ double ?_
  rw [String.toList_ofList]
  simpa using known

/-- A bracket or a comma is a token, whatever follows. -/
theorem nextToken_mark (known : c = '[' ∨ c = ',' ∨ c = ']') (rest : List Char) :
    nextToken (c :: rest) = some (.mark (String.singleton c), rest) := by
  have alone : nextToken (c :: rest) = markToken (c :: rest) := by
    rcases known with rfl | rfl | rfl <;> rfl
  have single : singleMarks.contains c = true := by
    rcases known with rfl | rfl | rfl <;> decide
  simp only [alone, markToken, contains_doubleMarks known, single, if_true, if_false,
    Bool.false_eq_true]

/-- A bracket or a comma before a text is the first of the tokens. -/
theorem HasTokens.mark (has : HasTokens rest found) (known : c = '[' ∨ c = ',' ∨ c = ']') :
    HasTokens (c :: rest) (.mark (String.singleton c) :: found) := by
  have solid : isSpace c = false ∧ c ≠ '#' := by
    rcases known with rfl | rfl | rfl <;> decide
  exact has.token (nextToken_mark known rest) le_rfl solid.1 solid.2

/-- A quoted text is the first of the tokens, unless another quote follows. -/
theorem HasTokens.quoted (has : HasTokens after found) (apart : after.head? ≠ some (quoteFor text)) :
    HasTokens (quoted text ++ after) (.text text :: found) := by
  have solid : isSpace (quoteFor text) = false ∧ quoteFor text ≠ '#' := by
    rcases quoteFor_cases text with same | same <;> rw [same] <;> decide
  exact has.token (nextToken_quoted text apart) (List.suffix_append _ after).length_le solid.1 solid.2

/-- What follows an item of a written list of texts: the further items and the bracket. -/
def writtenTail (texts : List (List Char)) : List Char :=
  texts.flatMap (fun text => ',' :: ' ' :: Text.quoted text) ++ [']']

/-- What follows the bracket that opens a written list of texts. -/
def writtenInside : List (List Char) → List Char
  | [] => [']']
  | text :: others => Text.quoted text ++ writtenTail others

/-- The tokens that follow an item of a list of texts. -/
def tokensTail (texts : List (List Char)) : List Token :=
  texts.flatMap (fun text => [.mark ",", .text text]) ++ [.mark "]"]

/-- The tokens that follow the bracket that opens a list of texts. -/
def tokensInside : List (List Char) → List Token
  | [] => [.mark "]"]
  | text :: others => .text text :: tokensTail others

/-- A comma, a blank and the next item follow an item that is not the last one. -/
theorem writtenTail_cons (text : List Char) (others : List (List Char)) :
    writtenTail (text :: others) = ',' :: ' ' :: (Text.quoted text ++ writtenTail others) := by
  simp [writtenTail]

/-- The bracket follows the last item. -/
@[simp] theorem tokensTail_nil : tokensTail [] = [.mark "]"] := rfl

/-- A comma and the next item follow an item that is not the last one. -/
@[simp] theorem tokensTail_cons (text : List Char) (others : List (List Char)) :
    tokensTail (text :: others) = .mark "," :: .text text :: tokensTail others := rfl

/-- No quote follows an item of a written list of texts. -/
theorem head?_writtenTail_ne (texts : List (List Char)) (text : List Char) :
    (writtenTail texts).head? ≠ some (quoteFor text) := by
  have start : (writtenTail texts).head? = some ',' ∨ (writtenTail texts).head? = some ']' := by
    cases texts with
    | nil => exact .inr rfl
    | cons => exact .inl rfl
  rcases quoteFor_cases text with same | same <;> rcases start with first | first <;>
    rw [same, first] <;> decide

/-- What follows an item of a written list of texts has the tokens that follow the item. -/
theorem hasTokens_writtenTail (texts : List (List Char)) :
    HasTokens (writtenTail texts) (tokensTail texts) := by
  induction texts with
  | nil => exact hasTokens_nil.mark (.inr (.inr rfl))
  | cons text others ih =>
    rw [writtenTail_cons]
    exact (ih.quoted (head?_writtenTail_ne others text)).blank.mark (.inr (.inl rfl))

/-- A written list of texts has the tokens of the list. -/
theorem tokens_writtenInside (texts : List (List Char)) :
    tokens ('[' :: writtenInside texts) = some (.mark "[" :: tokensInside texts) := by
  have inside : HasTokens (writtenInside texts) (tokensInside texts) := by
    cases texts with
    | nil => exact hasTokens_writtenTail []
    | cons text others =>
      exact (hasTokens_writtenTail others).quoted (head?_writtenTail_ne others text)
  exact (inside.mark (.inl rfl)).tokens

/-- A written list of texts ends with a bracket. -/
theorem exists_writtenInside (texts : List (List Char)) :
    ∃ body, writtenInside texts = body ++ [']'] := by
  cases texts with
  | nil => exact ⟨[], rfl⟩
  | cons text others =>
    exact ⟨Text.quoted text ++ others.flatMap fun text => ',' :: ' ' :: Text.quoted text,
      (List.append_assoc _ _ _).symm⟩

/-- A written list of texts has more characters than texts. -/
theorem length_le_length_writtenInside (texts : List (List Char)) :
    texts.length ≤ (writtenInside texts).length := by
  have tail (others : List (List Char)) : others.length + 1 ≤ (writtenTail others).length := by
    induction others with
    | nil => exact le_rfl
    | cons other others ih =>
      simp only [writtenTail_cons, List.length_cons, List.length_append]
      omega
  cases texts with
  | nil => exact Nat.zero_le _
  | cons text others => exact (tail others).trans (List.suffix_append _ _).length_le

namespace Expression

variable {tokens after : List Token} {item : Expression}

/-! ## Expressions -/

/-- An expression starts with a text or with the bracket of a list. -/
inductive Begins : List Token → Prop where
  /-- A text is the first token. -/
  | text (value : List Char) (rest : List Token) : Begins (.text value :: rest)
  /-- The bracket that opens a list is the first token. -/
  | list (rest : List Token) : Begins (.mark "[" :: rest)

/-- Nothing comes next that goes on with an expression. -/
inductive Ends : List Token → Prop where
  /-- Nothing comes next at all. -/
  | all : Ends []
  /-- A comma comes next. -/
  | comma (rest : List Token) : Ends (.mark "," :: rest)
  /-- The bracket that closes a list comes next. -/
  | bracket (rest : List Token) : Ends (.mark "]" :: rest)

/-- A mark that comes next is gone past. -/
theorem mark_same (text : String) (rest : List Token) :
    (mark text).run (.mark text :: rest) = some (true, rest) := by
  simp [mark, atMark, skip]

/-- Another mark that comes next is left. -/
theorem mark_other {text other : String} (apart : other ≠ text) (rest : List Token) :
    (mark text).run (.mark other :: rest) = some (false, .mark other :: rest) := by
  simp [mark, atMark, apart]

/-- A text that comes next is left. -/
theorem mark_text (mark : String) (text : List Char) (rest : List Token) :
    (Expression.mark mark).run (.text text :: rest) = some (false, .text text :: rest) := rfl

/-- A mark that has to come next and does is gone past. -/
theorem need_same (text : String) (rest : List Token) :
    (need text).run (.mark text :: rest) = some ((), rest) := by
  simp [need, mark_same]

/-- No word comes where an expression begins. -/
theorem Begins.word (begins : Begins tokens) (text : String) :
    (word text).run tokens = some (false, tokens) := by
  cases begins <;> rfl

/-- No mark but a bracket comes where an expression begins. -/
theorem Begins.anyMark (begins : Begins tokens) {texts : List String} (unlisted : "[" ∉ texts) :
    (anyMark texts).run tokens = some (none, tokens) := by
  cases begins with
  | text => rfl
  | list => simp [Expression.anyMark, unlisted]

/-- No word comes where an expression ends. -/
theorem Ends.word (ends : Ends tokens) (text : String) :
    (word text).run tokens = some (false, tokens) := by
  cases ends <;> rfl

/-- No word comes next where an expression ends. -/
theorem Ends.atWord (ends : Ends tokens) (text : String) :
    (atWord text).run tokens = some (false, tokens) := by
  cases ends <;> rfl

/-- No mark but a comma or a bracket comes where an expression ends. -/
theorem Ends.mark (ends : Ends tokens) {text : String} (joins : text ≠ ",") (closes : text ≠ "]") :
    (mark text).run tokens = some (false, tokens) := by
  cases ends with
  | all => rfl
  | comma => simp [Expression.mark, atMark, joins.symm]
  | bracket => simp [Expression.mark, atMark, closes.symm]

/-- No mark but a comma or a bracket comes where an expression ends. -/
theorem Ends.anyMark (ends : Ends tokens) {texts : List String} (joins : "," ∉ texts)
    (closes : "]" ∉ texts) : (anyMark texts).run tokens = some (none, tokens) := by
  cases ends with
  | all => rfl
  | comma => simp [Expression.anyMark, joins]
  | bracket => simp [Expression.anyMark, closes]

/-- No comparison comes where an expression ends. -/
theorem Ends.comparison (ends : Ends tokens) : comparison.run tokens = some (false, tokens) := by
  cases ends <;> rfl

/-- No quoted token comes where an expression ends. -/
theorem Ends.takeWhile_isQuoted (ends : Ends tokens) : tokens.takeWhile isQuoted = [] := by
  cases ends <;> rfl

/-- What is read as one operand is read as the whole expression if the expression ends there. -/
theorem readWhole_of_readAtom {fuel : Nat} (begins : Begins tokens) (ends : Ends after)
    (reads : (readAtom (fuel + 1)).run tokens = some (item, after)) :
    (readWhole (fuel + 8)).run tokens = some (item, after) := by
  -- From the operand outwards: at each level of the grammar, what goes on with an expression does not
  -- come next.
  have trailers : (readTrailers (fuel + 1) item).run after = some (item, after) := by
    unfold readTrailers
    simp [ends.mark]
  have primary : (readPrimary (fuel + 2)).run tokens = some (item, after) := by
    rw [readPrimary]
    simp [reads, trailers]
  have operand : (readOperand (fuel + 3)).run tokens = some (item, after) := by
    rw [readOperand]
    simp [begins.anyMark, begins.word, primary, ends.mark]
  have arithmetic : (readArithmetic (fuel + 4)).run tokens = some (item, after) := by
    rw [readArithmetic]
    simp [operand, ends.anyMark]
  have compared : (readCompared (fuel + 5)).run tokens = some (item, after) := by
    rw [readCompared]
    simp [arithmetic, ends.comparison]
  have denied : (readDenied (fuel + 6)).run tokens = some (item, after) := by
    rw [readDenied]
    simp [begins.word, compared]
  have logical : (readLogical (fuel + 7)).run tokens = some (item, after) := by
    rw [readLogical]
    simp [denied, ends.word, ends.atWord]
  rw [readWhole]
  simp [begins.word, ends.word, logical]

/-! ## Lists of texts -/

/-- The expression of a text. -/
def ofText (text : List Char) : Expression := .constant (.text (String.ofList text))

/-- A text is read as an item if the expression ends after it. -/
theorem readItem_text {fuel : Nat} (enough : 12 ≤ fuel) (text : List Char) (ends : Ends after) :
    (readItem fuel).run (.text text :: after) = some (ofText text, after) := by
  obtain ⟨fuel, rfl⟩ := Nat.exists_eq_add_of_le' enough
  have atom : (readAtom (fuel + 3)).run (.text text :: after) = some (ofText text, after) := by
    rw [readAtom]
    simp [isQuoted, ends.takeWhile_isQuoted, readOn, readFormats, joinAll, Joined.expression, ofText]
  have whole : (readWhole (fuel + 10)).run (.text text :: after) = some (ofText text, after) :=
    readWhole_of_readAtom (.text text after) ends atom
  rw [readItem, readBound]
  simp [mark_text, atNameBefore, whole]

/-- Texts with commas between them are read as items, up to the bracket that closes the list. -/
theorem readItems_texts {fuel : Nat} {others : List (List Char)} (enough : others.length + 13 ≤ fuel)
    (text : List Char) : (readItems fuel "]").run (.text text :: tokensTail others) =
      some ((text :: others).map ofText, []) := by
  -- Induction on the texts that follow; each step of it takes one unit of fuel, and an item at most
  -- twelve.
  induction others generalizing fuel text with
  | nil =>
    obtain ⟨fuel, rfl⟩ := Nat.exists_eq_add_of_le' (Nat.one_le_of_lt enough)
    have item := readItem_text (Nat.le_of_succ_le_succ enough) text (.bracket [])
    rw [readItems]
    simp [item, mark_same, mark_text]
  | cons other others ih =>
    obtain ⟨fuel, rfl⟩ := Nat.exists_eq_add_of_le' (Nat.one_le_of_lt enough)
    have left : others.length + 13 ≤ fuel := by
      rw [List.length_cons] at enough
      omega
    have room : 12 ≤ fuel := by omega
    have item := readItem_text room text (.comma (.text other :: tokensTail others))
    rw [readItems]
    simp [item, ih left, mark_text, mark_other, need_same]

/-- A list of texts is read, after its opening bracket, as the list of their expressions. -/
theorem readSquare_texts {fuel : Nat} (enough : texts.length + 14 ≤ fuel) :
    (readSquare fuel).run (tokensInside texts) = some (.list (texts.map ofText), []) := by
  obtain ⟨fuel, rfl⟩ := Nat.exists_eq_add_of_le' (Nat.one_le_of_lt enough)
  have room : 12 ≤ fuel := by omega
  rcases texts with - | ⟨text, - | ⟨other, others⟩⟩
  · rw [readSquare]
    simp [tokensInside, mark_same]
  · have item := readItem_text room text (.bracket [])
    rw [readSquare]
    simp [tokensInside, item, mark_text, mark_other, need_same, (Ends.bracket []).atWord, atClause]
  · have left : others.length + 13 ≤ fuel := by
      rw [List.length_cons, List.length_cons] at enough
      omega
    have item := readItem_text room text (.comma (.text other :: tokensTail others))
    rw [readSquare]
    simp [tokensInside, item, readItems_texts left, mark_text, mark_same, Ends.atWord (.comma _),
      atClause]

/-- The brackets of a list of texts are nested in no others. -/
theorem nestsWithin_tokensInside (texts : List (List Char)) :
    nestsWithin nestingLimit 1 (tokensInside texts) = true := by
  have tail (others : List (List Char)) : nestsWithin nestingLimit 1 (tokensTail others) = true := by
    induction others with
    | nil => rfl
    | cons other others ih => exact ih
  cases texts with
  | nil => rfl
  | cons text others => exact tail others

/-- A written list of texts is read as the list of their expressions. -/
theorem read_writtenInside (texts : List (List Char)) :
    read ('[' :: writtenInside texts) = some (.list (texts.map ofText)) := by
  have shallow : shallowTokens ('[' :: writtenInside texts) =
      some (.mark "[" :: tokensInside texts) := by
    have nests : nestsWithin nestingLimit 0 (.mark "[" :: tokensInside texts) = true :=
      nestsWithin_tokensInside texts
    simp [shallowTokens, tokens_writtenInside, nests]
  -- A text has a character at least, its quote, so the fuel is enough for the items.
  obtain ⟨fuel, enough⟩ : ∃ fuel, 24 * ((writtenInside texts).length + 1) + 48 = fuel + 8 :=
    ⟨24 * ((writtenInside texts).length + 1) + 40, rfl⟩
  have room : texts.length + 14 ≤ fuel := by
    have length := length_le_length_writtenInside texts
    omega
  have atom : (readAtom (fuel + 1)).run (.mark "[" :: tokensInside texts) =
      some (.list (texts.map ofText), []) := by
    rw [readAtom]
    simp [skip, readSquare_texts room]
  have whole := readWhole_of_readAtom (.list (tokensInside texts)) .all atom
  simp [read, shallow, enough, whole]

/-- The expressions of texts stand for the texts. -/
theorem values_ofText (texts : List (List Char)) :
    values (texts.map ofText) = .ok (texts.map fun text => .text (String.ofList text)) := by
  induction texts with
  | nil => rfl
  | cons text others ih =>
    rw [List.map_cons, values, ih]
    rfl

end Expression

/-! ## Literals -/

/-- Everything in a quoted text can be shown. -/
theorem isPrintable_of_mem_quoted (member : c ∈ Text.quoted text) : isPrintable c = true := by
  have known := quoteFor_cases text
  have quote : isPrintable (quoteFor text) = true := by
    rcases known with same | same <;> rw [same] <;> decide +kernel
  simp only [Text.quoted, List.mem_append, List.mem_cons, List.mem_flatMap, List.not_mem_nil,
    or_false] at member
  rcases member with (rfl | ⟨shown, -, stands⟩) | rfl
  · exact quote
  · exact (standsAs_quotedChar known shown).isPrintable c stands
  · exact quote

/-- Everything in a written list of texts can be shown. -/
theorem isPrintable_of_mem_writtenInside (member : c ∈ '[' :: writtenInside texts) :
    isPrintable c = true := by
  have openMark : isPrintable '[' = true := by decide +kernel
  have closeMark : isPrintable ']' = true := by decide +kernel
  have comma : isPrintable ',' = true := by decide +kernel
  have blank : isPrintable ' ' = true := by decide +kernel
  have tail (others : List (List Char)) : ∀ c ∈ writtenTail others, isPrintable c = true := by
    induction others with
    | nil => exact List.forall_mem_singleton.mpr closeMark
    | cons other others ih =>
      rw [writtenTail_cons]
      simp only [List.forall_mem_cons, List.forall_mem_append]
      exact ⟨comma, blank, fun _ => isPrintable_of_mem_quoted, ih⟩
  rcases List.mem_cons.mp member with rfl | inside
  · exact openMark
  cases texts with
  | nil => exact tail [] c inside
  | cons text others =>
    rcases List.mem_append.mp inside with item | further
    · exact isPrintable_of_mem_quoted item
    · exact tail others c further

/-- A text is quoted inside a message. -/
theorem writtenWith_text (shown : Nat → String) (text : String) :
    Datum.writtenWith shown (.text text) = quotedString text := by
  unfold Datum.writtenWith
  rfl

/-- A list stands between brackets inside a message, with commas between its items. -/
theorem writtenWith_list (shown : Nat → String) (items : List Datum) :
    Datum.writtenWith shown (.list items) =
      "[" ++ ", ".intercalate (Datum.writtenAll shown items) ++ "]" := by
  unfold Datum.writtenWith
  rfl

/-- A list of texts that is written as inside a message is the texts between brackets. -/
theorem toList_written (texts : List String) :
    (Datum.list (texts.map .text)).written.toList = '[' :: writtenInside (texts.map String.toList) := by
  have items : Datum.writtenAll (fun _ => "...") (texts.map .text) = texts.map quotedString := by
    induction texts with
    | nil => rfl
    | cons text others ih =>
      rw [List.map_cons, Datum.writtenAll, writtenWith_text, ih, List.map_cons]
  have joined (text : String) (others : List String) :
      ", ".toList.intercalate ((text :: others).map fun text => (quotedString text).toList) ++ [']'] =
        writtenInside ((text :: others).map String.toList) := by
    induction others generalizing text with
    | nil => simp [writtenInside, writtenTail, quotedString]
    | cons other others ih =>
      rw [List.map_cons, List.intercalate_cons_of_ne_nil (by simp), List.append_assoc,
        List.append_assoc, ih]
      simp [writtenInside, writtenTail_cons, quotedString]
  rw [Datum.written, writtenWith_list, items]
  simp only [String.toList_append, String.toList_intercalate, List.map_map]
  cases texts with
  | nil => rfl
  | cons text others => exact congrArg ('[' :: ·) (joined text others)

/-- A list of texts that is written as inside a message is a literal that stands for the list. -/
theorem read_written (texts : List String) :
    read (Datum.list (texts.map .text)).written.toList = .ok (.list (texts.map .text)) := by
  -- The null character is not shown, so it is never in the way.
  have plain : ('[' :: writtenInside (texts.map String.toList)).contains '\x00' = false := by
    rw [← Bool.not_eq_true, List.contains_iff_mem]
    intro member
    exact absurd (isPrintable_of_mem_writtenInside member) (by decide +kernel)
  have same : (texts.map String.toList).map (fun text => Datum.text (String.ofList text)) =
      texts.map .text := by
    simp
  have value : (Expression.list ((texts.map String.toList).map Expression.ofText)).value =
      .ok (.list (texts.map .text)) := by
    rw [Expression.value, Expression.values_ofText, same]
    rfl
  rw [toList_written, read, if_neg (Bool.eq_false_iff.mp plain), Expression.read_writtenInside]
  exact value

end Literal

end NegativeCompile
