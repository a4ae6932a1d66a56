import Mathlib.Data.List.Infix
import Mathlib.Data.List.TakeWhile
import NegativeCompile.Text.Blank

/-! # Lines of a text

Where the lines of a text stand in it: each one starts at the start of the text or after a line break
and holds none itself (`exists_context_of_mem_lines`), and what holds no line break and occurs in the
text occurs in a line (`exists_line_of_isInfix`). The lines from a place on are lines of the whole
text, but for what stands before the place in the first one (`lineStart_append_mem_lines`). -/

namespace NegativeCompile.Text

variable {text line piece before after current body first : List Char} {c : Char}
variable {others : List (List Char)}

/-! ## Occurrences -/

/-- A piece starts a text just if it is a prefix of it. -/
theorem startsWith_iff : startsWith piece text = true ↔ piece <+: text := List.isPrefixOf_iff_prefix

/-- A piece occurs in a text just if it is an infix of it. -/
theorem occursIn_iff : occursIn piece text = true ↔ piece <:+: text := by
  induction text with
  | nil => rw [occursIn, List.isEmpty_iff, List.infix_nil]
  | cons c rest ih => rw [occursIn, Bool.or_eq_true, startsWith_iff, ih, List.infix_cons_iff]

/-- A text occurs in itself. -/
@[simp] theorem occursIn_self : occursIn text text = true := occursIn_iff.mpr List.infix_rfl

/-- What starts with a character that it does not hold is empty. -/
theorem eq_nil_of_isPrefix_cons (missing : c ∉ piece) (starts : piece <+: c :: after) :
    piece = [] := by
  rcases List.prefix_cons_iff.mp starts with empty | ⟨rest, rfl, -⟩
  · exact empty
  · exact absurd List.mem_cons_self missing

/-- What occurs around a character that it does not hold occurs before or after it. -/
theorem isInfix_or_of_notMem (missing : c ∉ piece) (occurs : piece <:+: before ++ c :: after) :
    piece <:+: before ∨ piece <:+: after := by
  rcases List.infix_append_iff_ne_nil.mp occurs with
    left | right | ⟨head, tail, -, unempty, rfl, -, starts⟩
  · exact .inl left
  · rcases List.infix_cons_iff.mp right with starts | right
    · rw [eq_nil_of_isPrefix_cons missing starts]
      exact .inl List.nil_infix
    · exact .inr right
  · have missing : c ∉ tail := fun member => missing (List.mem_append_right head member)
    exact absurd (eq_nil_of_isPrefix_cons missing starts) unempty

/-! ## Reading lines -/

/-- At the end of a text the current line is the last one, if anything stands in it. -/
theorem linesFrom_nil (filled : ¬ current.isEmpty = true) : linesFrom current [] = [current.reverse] := by
  rw [linesFrom, if_neg filled]

/-- A line break that is no carriage return before a line feed ends the current line. -/
theorem linesFrom_cons_of_break (breaks : isLineBreak c = true)
    (single : ∀ after, c = '\r' → text = '\n' :: after → False) :
    linesFrom current (c :: text) = current.reverse :: linesFrom [] text := by
  rw [linesFrom, if_pos breaks]
  exact single

/-- Any other character belongs to the current line. -/
theorem linesFrom_cons (continues : ¬ isLineBreak c = true) :
    linesFrom current (c :: text) = linesFrom (c :: current) text := by
  rw [linesFrom, if_neg continues]
  rintro _ rfl
  exact absurd (by decide) continues

/-- A line goes on with what does not break it. -/
theorem unbroken_cons (continues : ¬ isLineBreak c = true)
    (unbroken : ∀ c ∈ current, isLineBreak c = false) :
    ∀ other ∈ c :: current, isLineBreak other = false :=
  List.forall_mem_cons.mpr ⟨Bool.eq_false_iff.mpr continues, unbroken⟩

/-! ## Lines in a text -/

/-- A text ends at a place where a line can start: it is empty or ends in a line break. -/
def EndsLine (text : List Char) : Prop :=
  text = [] ∨ ∃ start c, text = start ++ [c] ∧ isLineBreak c = true

/-- What ends in a line after a line break ends in a line. -/
theorem EndsLine.after_break (breaks : isLineBreak c = true) (ends : EndsLine after) :
    EndsLine (before ++ c :: after) := by
  rcases ends with rfl | ⟨start, last, rfl, lastBreaks⟩
  · exact .inr ⟨before, c, rfl, breaks⟩
  · exact .inr ⟨before ++ c :: start, last, by simp, lastBreaks⟩

/-- The lines from a place on, `current` being the start of the first one. -/
theorem exists_context_of_mem_linesFrom (unbroken : ∀ c ∈ current, isLineBreak c = false)
    (member : line ∈ linesFrom current text) :
    (∀ c ∈ line, isLineBreak c = false) ∧
      ∃ before after, current.reverse ++ text = before ++ line ++ after ∧ EndsLine before := by
  induction current, text using linesFrom.induct with
  | case1 current empty =>
    rw [linesFrom, if_pos empty] at member
    cases member
  | case2 current unempty =>
    rw [linesFrom_nil unempty, List.mem_singleton] at member
    subst member
    exact ⟨fun c within => unbroken c (List.mem_reverse.mp within), [], [], by simp, .inl rfl⟩
  | case3 current rest ih =>
    -- A carriage return and the line feed after it end one line.
    rw [linesFrom, List.mem_cons] at member
    rcases member with rfl | member
    · exact ⟨fun c within => unbroken c (List.mem_reverse.mp within), [], '\r' :: '\n' :: rest, rfl,
        .inl rfl⟩
    · obtain ⟨clean, before, after, split, ends⟩ := ih (by simp) member
      have fed : EndsLine ([] ++ '\n' :: before) := ends.after_break (by decide)
      have returned : isLineBreak '\r' = true := by decide
      refine ⟨clean, current.reverse ++ '\r' :: '\n' :: before, after, ?_, fed.after_break returned⟩
      rw [List.reverse_nil, List.nil_append] at split
      simp [split]
  | case4 current c rest notBoth breaks ih =>
    rw [linesFrom_cons_of_break breaks notBoth, List.mem_cons] at member
    rcases member with rfl | member
    · exact ⟨fun c within => unbroken c (List.mem_reverse.mp within), [], c :: rest, rfl, .inl rfl⟩
    · obtain ⟨clean, before, after, split, ends⟩ := ih (by simp) member
      refine ⟨clean, current.reverse ++ c :: before, after, ?_, ends.after_break breaks⟩
      rw [List.reverse_nil, List.nil_append] at split
      simp [split]
  | case5 current c rest notBoth continues ih =>
    rw [linesFrom_cons continues] at member
    obtain ⟨clean, before, after, split, ends⟩ := ih (unbroken_cons continues unbroken) member
    refine ⟨clean, before, after, ?_, ends⟩
    simpa using split

/-- Every line of a text holds no line break and starts at the start of the text or after a line
break. -/
theorem exists_context_of_mem_lines (member : line ∈ lines text) :
    (∀ c ∈ line, isLineBreak c = false) ∧
      ∃ before after, text = before ++ line ++ after ∧ EndsLine before :=
  exists_context_of_mem_linesFrom (by simp) member

/-- What holds no line break and occurs in the lines from a place on occurs in one of them. -/
theorem exists_line_of_isInfix_from (unempty : piece ≠ [])
    (unbroken : ∀ c ∈ piece, isLineBreak c = false) (occurs : piece <:+: current.reverse ++ text) :
    ∃ line ∈ linesFrom current text, piece <:+: line := by
  have missing : ∀ {c}, isLineBreak c = true → c ∉ piece := fun breaks within => by
    rw [unbroken _ within] at breaks
    cases breaks
  induction current, text using linesFrom.induct with
  | case1 current empty =>
    rw [List.isEmpty_iff.mp empty] at occurs
    exact absurd (List.infix_nil.mp occurs) unempty
  | case2 current full =>
    rw [linesFrom_nil full]
    exact ⟨_, List.mem_cons_self, by simpa using occurs⟩
  | case3 current rest ih =>
    rw [linesFrom]
    have returned : isLineBreak '\r' = true := by decide
    have fed : isLineBreak '\n' = true := by decide
    -- The piece is on one side of each of the two characters, and nothing is between them.
    rcases isInfix_or_of_notMem (missing returned) occurs with first | later
    · exact ⟨_, List.mem_cons_self, first⟩
    · have around : piece <:+: [] ++ '\n' :: rest := later
      rcases isInfix_or_of_notMem (missing fed) around with empty | later
      · exact absurd (List.infix_nil.mp empty) unempty
      · obtain ⟨line, member, within⟩ := ih later
        exact ⟨line, List.mem_cons_of_mem _ member, within⟩
  | case4 current c rest notBoth breaks ih =>
    rw [linesFrom_cons_of_break breaks notBoth]
    rcases isInfix_or_of_notMem (missing breaks) occurs with first | later
    · exact ⟨_, List.mem_cons_self, first⟩
    · obtain ⟨line, member, within⟩ := ih later
      exact ⟨line, List.mem_cons_of_mem _ member, within⟩
  | case5 current c rest notBoth continues ih =>
    rw [linesFrom_cons continues]
    exact ih (by simpa using occurs)

/-- What holds no line break and occurs in a text occurs in a line of it. -/
theorem exists_line_of_isInfix (unempty : piece ≠ [])
    (unbroken : ∀ c ∈ piece, isLineBreak c = false) (occurs : piece <:+: text) :
    ∃ line ∈ lines text, piece <:+: line :=
  exists_line_of_isInfix_from unempty unbroken occurs

/-- Whether a text holds a line break can be computed. -/
theorem unbroken_of_all (each : (piece.all fun c => !isLineBreak c) = true) :
    ∀ c ∈ piece, isLineBreak c = false := by
  simpa using each

/-! ## How many there are -/

/-- There are no more lines from a place on than characters, if none has been read before it. -/
theorem length_linesFrom_le (current text : List Char) :
    (linesFrom current text).length ≤ current.length + text.length := by
  induction current, text using linesFrom.induct with
  | case1 current empty =>
    rw [linesFrom, if_pos empty]
    exact Nat.zero_le _
  | case2 current full =>
    have filled : current.length ≠ 0 := by simpa using full
    rw [linesFrom_nil full, List.length_singleton, List.length_nil]
    omega
  | case3 current rest ih =>
    rw [linesFrom]
    simp only [List.length_cons, List.length_nil] at ih ⊢
    omega
  | case4 current c rest notBoth breaks ih =>
    rw [linesFrom_cons_of_break breaks notBoth]
    simp only [List.length_cons, List.length_nil] at ih ⊢
    omega
  | case5 current c rest notBoth continues ih =>
    rw [linesFrom_cons continues]
    simp only [List.length_cons] at ih ⊢
    omega

/-- A text has no more lines than characters. -/
theorem length_lines_le (text : List Char) : (lines text).length ≤ text.length :=
  (length_linesFrom_le [] text).trans_eq (Nat.zero_add _)

/-- The lines from a place on hold no more characters than were read and are left. -/
theorem length_flatten_linesFrom_le (current text : List Char) :
    (linesFrom current text).flatten.length ≤ current.length + text.length := by
  induction current, text using linesFrom.induct with
  | case1 current empty =>
    rw [linesFrom, if_pos empty]
    exact Nat.zero_le _
  | case2 current full =>
    rw [linesFrom_nil full, List.flatten_singleton, List.length_reverse, List.length_nil]
    omega
  | case3 current rest ih =>
    rw [linesFrom, List.flatten_cons, List.length_append, List.length_reverse]
    simp only [List.length_cons, List.length_nil] at ih ⊢
    omega
  | case4 current c rest notBoth breaks ih =>
    rw [linesFrom_cons_of_break breaks notBoth, List.flatten_cons, List.length_append,
      List.length_reverse]
    simp only [List.length_cons, List.length_nil] at ih ⊢
    omega
  | case5 current c rest notBoth continues ih =>
    rw [linesFrom_cons continues]
    simp only [List.length_cons] at ih ⊢
    omega

/-- The lines of a text hold no more characters than the text. -/
theorem length_flatten_lines_le (text : List Char) : (lines text).flatten.length ≤ text.length :=
  (length_flatten_linesFrom_le [] text).trans_eq (Nat.zero_add _)

/-! ## Lines after other text -/

/-- Characters of a kind at the start of a text do not reach beyond one of another kind. -/
theorem takeWhile_append_cons_of_neg {test : Char → Bool} (ends : test c = false)
    (start rest : List Char) : (start ++ c :: rest).takeWhile test = start.takeWhile test := by
  rw [List.takeWhile_append, List.takeWhile_cons_of_neg (by simp [ends])]
  split
  next whole =>
    rw [List.append_nil, List.IsPrefix.eq_of_length (List.takeWhile_prefix test) whole]
  · rfl

/-- What was read of the first line stands before the rest of it. -/
theorem linesFrom_append (more : List Char) (unempty : text ≠ [] ∨ current ≠ []) :
    linesFrom (current ++ more) text = (linesFrom current text).modifyHead (more.reverse ++ ·) := by
  induction current, text using linesFrom.induct with
  | case1 current empty =>
    rw [List.isEmpty_iff.mp empty] at unempty
    simp at unempty
  | case2 current full =>
    have filled : ¬ (current ++ more).isEmpty = true := by
      simp only [List.isEmpty_iff, List.append_eq_nil_iff] at full ⊢
      exact fun both => full both.1
    rw [linesFrom_nil full, linesFrom_nil filled]
    simp
  | case3 current rest ih =>
    rw [linesFrom, linesFrom]
    simp
  | case4 current c rest notBoth breaks ih =>
    rw [linesFrom_cons_of_break breaks notBoth, linesFrom_cons_of_break breaks notBoth]
    simp
  | case5 current c rest notBoth continues ih =>
    rw [linesFrom_cons continues, linesFrom_cons continues, ← List.cons_append]
    exact ih (.inr (List.cons_ne_nil _ _))

/-- A line feed after a first line without line breaks ends this line. -/
theorem linesFrom_append_feed (unbroken : ∀ c ∈ first, isLineBreak c = false)
    (current rest : List Char) :
    linesFrom current (first ++ '\n' :: rest) = (current.reverse ++ first) :: linesFrom [] rest := by
  induction first generalizing current with
  | nil =>
    have apart : ∀ after, '\n' = '\r' → rest = '\n' :: after → False := by
      intro _ returned
      exact absurd returned (by decide)
    rw [List.nil_append, linesFrom_cons_of_break (by decide) apart, List.append_nil]
  | cons c first ih =>
    obtain ⟨continues, others⟩ := List.forall_mem_cons.mp unbroken
    rw [List.cons_append, linesFrom_cons (by simp [continues]), ih others]
    simp

/-- A line feed after a first line without line breaks ends the first line of the text. -/
theorem lines_append_feed (unbroken : ∀ c ∈ first, isLineBreak c = false) (rest : List Char) :
    lines (first ++ '\n' :: rest) = first :: lines rest :=
  linesFrom_append_feed unbroken [] rest

/-- A text without line breaks goes on the current line to its end. -/
theorem linesFrom_of_unbroken (unbroken : ∀ c ∈ text, isLineBreak c = false)
    (filled : text ≠ [] ∨ current ≠ []) : linesFrom current text = [current.reverse ++ text] := by
  induction text generalizing current with
  | nil =>
    have full : ¬ current.isEmpty = true := by simpa using filled
    rw [linesFrom_nil full, List.append_nil]
  | cons c rest ih =>
    obtain ⟨continues, others⟩ := List.forall_mem_cons.mp unbroken
    rw [linesFrom_cons (by simp [continues]), ih others (.inr (List.cons_ne_nil _ _))]
    simp

/-- A text without line breaks is one line. -/
theorem lines_of_unbroken (unbroken : ∀ c ∈ text, isLineBreak c = false) (filled : text ≠ []) :
    lines text = [text] :=
  linesFrom_of_unbroken unbroken (.inl filled)

/-- If a line feed is put after each line, then these are the lines of the text. -/
theorem lines_flatMap_feed {written : List (List Char)}
    (unbroken : ∀ line ∈ written, ∀ c ∈ line, isLineBreak c = false) :
    lines (written.flatMap (· ++ ['\n'])) = written := by
  induction written with
  | nil => rfl
  | cons line rest ih =>
    rw [List.flatMap_cons, List.append_assoc, List.singleton_append,
      lines_append_feed (unbroken line List.mem_cons_self),
      ih fun other member => unbroken other (List.mem_cons_of_mem _ member)]

/-- The end of a text from its last line break on. -/
def lineStart (text : List Char) : List Char :=
  (text.reverse.takeWhile fun c => !isLineBreak c).reverse

/-- What has been read of a line without a break is the start of the first line that is read on. -/
theorem reverse_append_mem_linesFrom (split : lines body = first :: others) (current : List Char) :
    current.reverse ++ first ∈ linesFrom current body := by
  have unempty : body ≠ [] := by
    rintro rfl
    cases split
  have shifted : linesFrom ([] ++ current) body =
      (linesFrom [] body).modifyHead (current.reverse ++ ·) := linesFrom_append current (.inl unempty)
  rw [List.nil_append, ← lines, split] at shifted
  rw [shifted]
  exact List.mem_cons_self

/-- What stands before a line break does not reach beyond it. -/
theorem takeWhile_reverse_append_cons (breaks : isLineBreak c = true) (start rest current : List Char) :
    ((start ++ c :: rest).reverse ++ current).takeWhile (fun c => !isLineBreak c) =
      (rest.reverse ++ []).takeWhile fun c => !isLineBreak c := by
  have ends : (!isLineBreak c) = false := by rw [breaks]; rfl
  have regroup : (start ++ c :: rest).reverse ++ current =
      rest.reverse ++ c :: (start.reverse ++ current) := by simp
  rw [regroup, takeWhile_append_cons_of_neg ends, List.append_nil]

/-- The first line of a text goes on from the last line of what stands before it, from a place on at
which `current` has been read. -/
theorem mem_linesFrom_append (unbroken : ∀ c ∈ current, isLineBreak c = false)
    (starts : ∀ c, body.head? = some c → isLineBreak c = false)
    (split : lines body = first :: others) :
    ((before.reverse ++ current).takeWhile fun c => !isLineBreak c).reverse ++ first ∈
      linesFrom current (before ++ body) := by
  -- With nothing left before the text, all that has been read is in its first line.
  have here (current : List Char) (unbroken : ∀ c ∈ current, isLineBreak c = false) :
      ((([] : List Char).reverse ++ current).takeWhile fun c => !isLineBreak c).reverse ++ first ∈
        linesFrom current ([] ++ body) := by
    have whole : current.takeWhile (fun c => !isLineBreak c) = current := by
      rw [List.takeWhile_eq_self_iff]
      exact fun c member => by rw [unbroken c member]; rfl
    rw [List.reverse_nil, List.nil_append, List.nil_append, whole]
    exact reverse_append_mem_linesFrom split current
  induction current, before using linesFrom.induct with
  | case1 current empty => exact here current unbroken
  | case2 current full => exact here current unbroken
  | case3 current rest ih =>
    have fed : isLineBreak '\n' = true := by decide
    have kept := takeWhile_reverse_append_cons fed ['\r'] rest current
    rw [List.singleton_append] at kept
    rw [kept, List.cons_append, List.cons_append, linesFrom]
    exact List.mem_cons_of_mem _ (ih (by simp))
  | case4 current c rest notBoth breaks ih =>
    have kept := takeWhile_reverse_append_cons breaks [] rest current
    rw [List.nil_append] at kept
    -- The text after a carriage return does not start with a line feed.
    have apart : ∀ after, c = '\r' → rest ++ body = '\n' :: after → False := by
      intro after returned fed
      cases rest with
      | nil =>
        have breaks := starts '\n' (by rw [List.nil_append] at fed; rw [fed]; rfl)
        cases breaks
      | cons next more =>
        obtain ⟨rfl, -⟩ := List.cons.inj fed
        exact notBoth more returned rfl
    rw [kept, List.cons_append, linesFrom_cons_of_break breaks apart]
    exact List.mem_cons_of_mem _ (ih (by simp))
  | case5 current c rest notBoth continues ih =>
    rw [List.cons_append, linesFrom_cons continues, List.reverse_cons, List.append_assoc]
    exact ih (unbroken_cons continues unbroken)

/-- The first line of a text goes on from the last line of what stands before it. -/
theorem lineStart_append_mem_lines (starts : ∀ c, body.head? = some c → isLineBreak c = false)
    (split : lines body = first :: others) : lineStart before ++ first ∈ lines (before ++ body) := by
  have member : ((before.reverse ++ []).takeWhile fun c => !isLineBreak c).reverse ++ first ∈
      linesFrom [] (before ++ body) := mem_linesFrom_append (by simp) starts split
  rwa [List.append_nil] at member

end NegativeCompile.Text
