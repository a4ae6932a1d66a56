import NegativeCompile.Regex.Pattern
import NegativeCompile.Regex.Token
import NegativeCompile.Text.Alphanumeric
import NegativeCompile.Text.CharacterName
import NegativeCompile.Text.Identifier
import NegativeCompile.Text.Integer
import NegativeCompile.Text.Quoted

/-! # Reading patterns

The regular expression that a text stands for, or the first rule that it breaks and where. -/

namespace NegativeCompile.Regex

open Text

/-! ## The state of reading -/

/-- What is left of a pattern and what is known of it so far. -/
structure Source where
  /-- The length of the whole pattern. -/
  length : Nat
  /-- Whether the pattern ends in a lone backslash. -/
  dangling : Bool
  /-- The tokens not read yet. -/
  rest : List Token
  /-- The options that the pattern has turned on for itself. -/
  options : Options
  /-- The named groups, with their numbers. -/
  names : List (String × Nat)
  /-- The widths of the groups from the first on, as far as they are closed. -/
  widths : Array (Option Width)
  /-- The number of the first group inside the outermost condition on what precedes. -/
  behindFrom : Option Nat
  /-- The groups that conditions ask for by number, each with its first place. -/
  references : List (Nat × Nat)

/-- A step of reading: it changes what is left, or fails. -/
abbrev Reading := StateT Source (Except Problem)

/-- The place of the next token. -/
def Source.position (source : Source) : Nat :=
  match source.rest with
  | [] => source.length
  | token :: _ => token.position

/-- The number of groups opened so far, counting the whole pattern. -/
def Source.groupCount (source : Source) : Nat := source.widths.size + 1

/-- The width of a closed group. -/
def Source.closedWidth? (source : Source) (group : Nat) : Option Width :=
  match group with
  | 0 => none
  | index + 1 => (source.widths[index]?).join

/-- Fail for a broken rule, the place being `offset` before the next token. -/
def fail {α : Type} (rule : String) (offset : Nat) : Reading α := do
  throw (.invalid rule (some ((← get).position - offset)))

/-- Fail for a broken rule at a place. -/
def failAt {α : Type} (rule : String) (position : Nat) : Reading α :=
  throw (.invalid rule (some position))

/-- The next token. -/
def peek : Reading (Option Token) := do return (← get).rest.head?

/-- Go on to what follows the next token; a lone backslash must not follow. -/
def advance : Reading Unit := do
  let source ← get
  let after := source.rest.drop 1
  if after.isEmpty && source.dangling then
    failAt "bad escape (end of pattern)" (source.length - 1)
  set { source with rest := after }

/-- Take the next token. -/
def take : Reading (Option Token) := do
  let token ← peek
  advance
  return token

/-- Take the next token if it is the given character. -/
def accept (c : Char) : Reading Bool := do
  match ← peek with
  | some token => if token.isChar c then do advance; return true else return false
  | none => return false

/-- Whether the next token is the given character. -/
def nextIs (c : Char) : Reading Bool := do
  return (← peek).any (·.isChar c)

/-- Take at most `count` characters of a kind. -/
def takeWhile (isMember : Char → Bool) : Nat → Reading (List Char)
  | 0 => return []
  | count + 1 => do
    match ← peek with
    | some token =>
      if token.second.isNone && isMember token.first then do
        advance
        return token.first :: (← takeWhile isMember count)
      else return []
    | none => return []

/-- Take a name up to a terminator; `read` holds the characters before it. -/
def takeNameFrom (terminator : Char) (what : String) (read : List Char) :
    List Token → Reading (List Char)
  | [] => do
    if read.isEmpty then fail s!"missing {what}" 0
    else fail s!"missing {terminator}, unterminated name" read.length
  | token :: rest => do
    advance
    if token.isChar terminator then
      if read.isEmpty then fail s!"missing {what}" 1 else return read
    else takeNameFrom terminator what (read ++ token.chars) rest

/-- Take a name up to a terminator. -/
def takeName (terminator : Char) (what : String) : Reading (List Char) := do
  takeNameFrom terminator what [] (← get).rest

/-! ## Escapes -/

/-- What an escape stands for. -/
inductive Escape where
  /-- One character. -/
  | char (code : Nat)
  /-- A class of characters. -/
  | category (kind : Category) (negated : Bool)
  /-- A place in the text. -/
  | anchor (kind : Anchor)
  /-- The text of a group. -/
  | backreference (index : Nat)

/-- The control character that a letter after a backslash stands for. -/
def controlEscape? (c : Char) : Option Nat :=
  match c with
  | 'a' => some 7
  | 'b' => some 8
  | 'f' => some 12
  | 'n' => some 10
  | 'r' => some 13
  | 't' => some 9
  | 'v' => some 11
  | '\\' => some 92
  | _ => none

/-- The class of characters that a letter after a backslash stands for. -/
def categoryEscape? (c : Char) : Option (Category × Bool) :=
  match c with
  | 'd' => some (.digit, false)
  | 'D' => some (.digit, true)
  | 's' => some (.space, false)
  | 'S' => some (.space, true)
  | 'w' => some (.word, false)
  | 'W' => some (.word, true)
  | _ => none

/-- The place in the text that a letter after a backslash stands for. -/
def anchorEscape? (c : Char) : Option Anchor :=
  match c with
  | 'A' => some .textStart
  | 'b' => some .wordBoundary
  | 'B' => some .noWordBoundary
  | 'Z' => some .textEnd
  | _ => none

/-- Fail for an escape, given its characters after the backslash. -/
def failEscape {α : Type} (rule : String) (letters : List Char) : Reading α :=
  fail (rule ++ " \\" ++ String.ofList letters) (letters.length + 1)

/-- The character that exactly `width` hexadecimal digits after an escape's letter stand for. -/
def hexadecimalEscape (letter : Char) (width : Nat) : Reading Nat := do
  let digits ← takeWhile isHexDigit width
  if digits.length ≠ width then failEscape "incomplete escape" (letter :: digits)
  let code := positional 16 digits
  if 0x7fffffff < code then throw (.overflow "Python int too large to convert to C int")
  if 0x10ffff < code then failEscape "bad escape" (letter :: digits)
  return code

/-- The character of a given name. -/
def namedEscape : Reading Nat := do
  if !(← accept '{') then fail "missing \x7b" 0
  let name ← takeName '}' "character name"
  match characterNamed? (String.ofList name) with
  | some code => return code
  | none =>
    fail ("undefined character name " ++ String.ofList (quoted name)) (name.length + 4)

/-- An escape that stands for one character, the same in and outside of sets. -/
def characterEscape? (letter : Char) : Reading (Option Nat) := do
  if letter = 'x' then return some (← hexadecimalEscape letter 2)
  else if letter = 'u' then return some (← hexadecimalEscape letter 4)
  else if letter = 'U' then return some (← hexadecimalEscape letter 8)
  else if letter = 'N' then return some (← namedEscape)
  else return none

/-- Fail for an octal number that is too large. -/
def checkOctal (digits : List Char) : Reading Nat := do
  let code := positional 8 digits
  if 0o377 < code then
    fail ("octal escape value \\" ++ String.ofList digits ++ " outside of range 0-0o377")
      (digits.length + 1)
  return code

/-- The escape with a given letter inside a set. -/
def setEscape (letter : Char) : Reading Escape := do
  if let some code := controlEscape? letter then return .char code
  if let some (kind, negated) := categoryEscape? letter then return .category kind negated
  if let some code ← characterEscape? letter then return .char code
  if isOctalDigit letter then
    let more ← takeWhile isOctalDigit 2
    return .char (← checkOctal (letter :: more))
  if isAsciiDigit letter || isAsciiLetter letter then failEscape "bad escape" [letter]
  return .char letter.toNat

/-- Refuse a group that lies inside the same condition on what precedes. -/
def checkBehind (group : Nat) : Reading Unit := do
  let source ← get
  match source.behindFrom with
  | none => return
  | some first =>
    if (source.closedWidth? group).isNone then fail "cannot refer to an open group" 0
    if first ≤ group then
      fail "cannot refer to group defined in the same lookbehind subpattern" 0

/-- The escape with a given digit other than zero: an octal number of three digits, or the number
of a group. -/
def numberEscape (letter : Char) : Reading Escape := do
  let second ← takeWhile isAsciiDigit 1
  if isOctalDigit letter && !second.isEmpty && second.all isOctalDigit then
    let third ← takeWhile isOctalDigit 1
    if !third.isEmpty then
      return .char (← checkOctal (letter :: second ++ third))
  let digits := letter :: second
  let group := positional 10 digits
  let source ← get
  if group < source.groupCount then
    if (source.closedWidth? group).isNone then
      fail "cannot refer to an open group" (digits.length + 1)
    checkBehind group
    return .backreference group
  fail s!"invalid group reference {group}" digits.length

/-- The escape with a given letter outside of sets. -/
def plainEscape (letter : Char) : Reading Escape := do
  if let some kind := anchorEscape? letter then return .anchor kind
  if let some (kind, negated) := categoryEscape? letter then return .category kind negated
  if let some code := controlEscape? letter then return .char code
  if let some code ← characterEscape? letter then return .char code
  if letter = '0' then
    let more ← takeWhile isOctalDigit 2
    return .char (positional 8 (letter :: more))
  if isAsciiDigit letter then numberEscape letter
  else if isAsciiLetter letter then failEscape "bad escape" [letter]
  else return .char letter.toNat

/-! ## Sets of characters -/

/-- What one token of a set stands for. -/
def setMember (token : Token) : Reading Escape :=
  match token.second with
  | some letter => setEscape letter
  | none => return .char token.first.toNat

/-- A member of a set that is no range. -/
def Escape.toSetItem : Escape → SetItem
  | .category kind negated => .category kind negated
  | .char code => .char code
  | .anchor _ => .char 0
  | .backreference _ => .char 0

/-- Fail for a set that opens at a place and is not closed. -/
def failSet {α : Type} (start : Nat) : Reading α := failAt "unterminated character set" start

/-- A range between the members of two tokens. -/
def setRange (low high : Token) (first last : Escape) : Reading SetItem := do
  let refuse : Reading SetItem :=
    fail ("bad character range " ++ String.ofList (low.chars ++ '-' :: high.chars))
      (low.size + 1 + high.size)
  match first, last with
  | .char code, .char code' => if code' < code then refuse else return .range code code'
  | _, _ => refuse

/-- Read the members of the set that opens at `start`, `read` being those before, last first. -/
def setItems (start : Nat) : Nat → List SetItem → Reading (List SetItem)
  | 0, _ => failSet start
  | fuel + 1, read => do
    match ← take with
    | none => failSet start
    | some token =>
      if token.isChar ']' && !read.isEmpty then return read.reverse
      let first ← setMember token
      if ← accept '-' then
        match ← take with
        | none => failSet start
        | some other =>
          if other.isChar ']' then return (.char 45 :: first.toSetItem :: read).reverse
          let last ← setMember other
          setItems start fuel ((← setRange token other first last) :: read)
      else setItems start fuel (first.toSetItem :: read)

/-- Read the set that opens at `start`; a set of one character is that character. -/
def readSet (start : Nat) : Reading Node := do
  let negated ← accept '^'
  let items ← setItems start ((← get).rest.length + 1) []
  match items.eraseDups with
  | [.char code] => return .char code negated
  | unique => return .set negated unique

/-! ## Options -/

/-- The option of a letter. -/
def optionOf? (c : Char) : Option Options :=
  match c with
  | 'i' => some { ignoreCase := true }
  | 'm' => some { multiline := true }
  | 's' => some { dotAll := true }
  | 'x' => some { verbose := true }
  | 'a' => some { ascii := true }
  | 'u' => some { unicode := true }
  | 't' => some { template := true }
  | _ => none

/-- Whether a token is the letter of an option. -/
def isOptionLetter (token : Token) : Bool :=
  token.isChar 'L' || (token.second.isNone && (optionOf? token.first).isSome)

/-- Fail for a token that should be the letter of an option. -/
def failOption {α : Type} (token : Token) (rule : String) : Reading α :=
  fail (if token.second.isNone && isLetter token.first then "unknown flag" else rule) token.size

/-- Read letters of options to turn on, from a given one on, up to a hyphen, a colon or a closing
parenthesis. -/
def turnedOn : Nat → Token → Options → Reading (Options × Char)
  | 0, _, _ => fail "missing -, : or )" 0
  | fuel + 1, token, read => do
    let option ← match optionOf? token.first with
      | some option => pure option
      | none => fail "bad inline flags: cannot use 'L' flag with a str pattern" 0
    let options := read.union option
    if (option.ascii && options.unicode) || (option.unicode && options.ascii) then
      fail "bad inline flags: flags 'a', 'u' and 'L' are incompatible" 0
    match ← take with
    | none => fail "missing -, : or )" 0
    | some next =>
      if next.isAmong [')', '-', ':'] then return (options, next.first)
      else if isOptionLetter next then turnedOn fuel next options
      else failOption next "missing -, : or )"

/-- Read letters of options to turn off, from a given one on, up to a colon. -/
def turnedOff : Nat → Token → Options → Reading Options
  | 0, _, _ => fail "missing :" 0
  | fuel + 1, token, read => do
    let refuse : Reading Options :=
      fail "bad inline flags: cannot turn off flags 'a', 'u' and 'L'" 0
    match optionOf? token.first with
    | none => refuse
    | some option =>
      if option.ascii || option.unicode then refuse
      else
        let options := read.union option
        match ← take with
        | none => fail "missing :" 0
        | some next =>
          if next.isChar ':' then return options
          else if isOptionLetter next then turnedOff fuel next options
          else failOption next "missing :"

/-- Read options from a given token on: options of the whole pattern, which are turned on at once,
or those of a group. -/
def readOptions (token : Token) : Reading (Option OptionChange) := do
  let fuel := (← get).rest.length + 1
  let (on, ending) ←
    if token.isChar '-' then pure (({} : Options), '-') else turnedOn fuel token {}
  if ending = ')' then
    modify fun source => { source with options := source.options.union on }
    return none
  if on.template then fail "bad inline flags: cannot turn on global flag" 1
  let off ←
    if ending = '-' then
      match ← take with
      | none => fail "missing flag" 0
      | some next =>
        if isOptionLetter next then turnedOff fuel next {} else failOption next "missing flag"
    else pure {}
  if off.template then fail "bad inline flags: cannot turn off global flag" 1
  if on.inter off ≠ {} then fail "bad inline flags: flag turned on and off" 1
  return some ⟨on, off⟩

/-! ## Repetition -/

/-- The least repetition count that is too large. -/
def countLimit : Nat := 4294967295

/-- A repetition count, or nothing for no digits. -/
def repetitionCount (digits : List Char) : Reading (Option Nat) := do
  if digits.isEmpty then return none
  match naturalOfDigits digits with
  | .error (.tooLong count) => throw (.senseless (tooLongMessage count))
  | .error .malformed => return none
  | .ok count =>
    if countLimit ≤ count then throw (.overflow "the repetition number is too large")
    return some count

/-- The counts between braces; nothing if the braces hold no counts, and then nothing is taken. -/
def bracedCounts : Reading (Option (Nat × Option Nat)) := do
  let before ← get
  let fuel := before.rest.length
  let low ← takeWhile isAsciiDigit fuel
  let comma ← accept ','
  let high ← if comma then takeWhile isAsciiDigit fuel else pure low
  if !(← accept '}') then
    set before
    return none
  let least := (← repetitionCount low).getD 0
  let most ← repetitionCount high
  if let some count := most then
    if count < least then failAt "min repeat greater than max repeat" before.position
  return some (least, most)

/-- The counts that a repetition character asks for; nothing if it is an ordinary brace. -/
def repetitionCounts (c : Char) : Reading (Option (Nat × Option Nat)) := do
  if c = '?' then return some (0, some 1)
  else if c = '*' then return some (0, none)
  else if c = '+' then return some (1, none)
  else if ← nextIs '}' then return none
  else bracedCounts

/-- How a repetition chooses its count, from the character after it. -/
def repetitionGreed : Reading Greed := do
  if ← accept '?' then return .lazy
  else if ← accept '+' then return .possessive
  else return .greedy

/-! ## Expressions -/

/-- What can be repeated depends on the kind of an item. -/
inductive ItemKind where
  /-- A place in the text, which cannot be repeated. -/
  | anchor
  /-- A repetition, which cannot be repeated again. -/
  | repetition
  /-- Anything else. -/
  | ordinary
  deriving DecidableEq

/-- An item of a sequence. -/
structure Item where
  /-- The kind. -/
  kind : ItemKind
  /-- The expressions in sequence: one, or those in a group without number. -/
  nodes : List Node
  /-- The width. -/
  width : Width

/-- An ordinary item of one expression. -/
def Item.ofNode (node : Node) (width : Width) : Item := ⟨.ordinary, [node], width⟩

/-- The expressions of items, the last one of which is given first, and their width. -/
def joinItems (items : List Item) : List Node × Width :=
  (items.reverse.flatMap (·.nodes), items.foldr (fun item width => width.add item.width) .zero)

/-- The item of an escape. -/
def Escape.toItem (escape : Escape) : Reading Item :=
  match escape with
  | .char code => return .ofNode (.char code false) .one
  | .category kind negated => return .ofNode (.set false [.category kind negated]) .one
  | .anchor kind => return ⟨.anchor, [.anchor kind], .zero⟩
  | .backreference group => do
    return .ofNode (.backreference group) (((← get).closedWidth? group).getD .zero)

/-- Skip a comment up to the end of its line. -/
def skipLine : Nat → Reading Unit
  | 0 => return
  | fuel + 1 => do
    match ← take with
    | none => return
    | some token => if token.isChar '\n' then return else skipLine fuel

/-- Skip a comment in parentheses that opens at `start`. -/
def skipComment (start : Nat) : Nat → Reading Unit
  | 0 => return
  | fuel + 1 => do
    match ← peek with
    | none => failAt "missing ), unterminated comment" start
    | some token => do
      advance
      if token.isChar ')' then return else skipComment start fuel

/-- Refuse a name that is no identifier. -/
def checkName (name : List Char) : Reading Unit := do
  if !isIdentifier name then
    fail ("bad character in group name " ++ String.ofList (quoted name)) (name.length + 1)

/-- The group of a given name. -/
def groupNamed (name : List Char) : Reading Nat := do
  match (← get).names.find? (·.1 = String.ofList name) with
  | some (_, group) => return group
  | none => fail ("unknown group name " ++ String.ofList (quoted name)) (name.length + 1)

/-- The group that a condition asks for. -/
def conditionGroup : Reading Nat := do
  let name ← takeName ')' "group name"
  if isIdentifier name then groupNamed name
  else
    let offset := name.length + 1
    let refuse : Reading Nat :=
      fail ("bad character in group name " ++ String.ofList (quoted name)) offset
    match readInteger name with
    | .error _ => refuse
    | .ok value =>
      if value < 0 then refuse
      else if value = 0 then fail "bad group number" offset
      else
        let group := value.toNat
        if 1073741823 ≤ group then fail s!"invalid group reference {group}" offset
        let source ← get
        if !source.references.any (·.1 = group) then
          set { source with references :=
            source.references ++ [(group, source.position - offset)] }
        return group

/-- Open a group, possibly with a name. -/
def openGroup (name : Option (List Char)) : Reading Nat := do
  let source ← get
  let group := source.groupCount
  set { source with widths := source.widths.push none }
  match name with
  | none => return group
  | some letters =>
    let text := String.ofList letters
    match source.names.find? (·.1 = text) with
    | some (_, other) =>
      fail ("redefinition of group name " ++ String.ofList (quoted letters) ++
        s!" as group {group}; was group {other}") (letters.length + 1)
    | none =>
      modify fun source => { source with names := source.names ++ [(text, group)] }
      return group

/-- Close a group, whose width is known now. -/
def closeGroup (group : Nat) (width : Width) : Reading Unit :=
  modify fun source => { source with widths := source.widths.set! (group - 1) (some width) }

/-- Take the closing parenthesis of the group that opens at `start`. -/
def closeParenthesis (start : Nat) : Reading Unit := do
  if !(← accept ')') then failAt "missing ), unterminated subpattern" start

/-- The kind of a group, as its first characters tell. -/
inductive GroupOpening where
  /-- A numbered group, possibly with a name. -/
  | capture (name : Option (List Char))
  /-- A group without number. -/
  | plain
  /-- A group that keeps its first match. -/
  | atomic
  /-- A group with its own options. -/
  | scoped (change : OptionChange)
  /-- A condition on what follows. -/
  | ahead (negated : Bool)
  /-- A condition on what precedes. -/
  | behind (negated : Bool)
  /-- A choice that depends on a group. -/
  | conditional (group : Nat)
  /-- The text of a named group. -/
  | reference (group : Nat)
  /-- A comment. -/
  | comment
  /-- Options of the whole pattern. -/
  | globalOptions

/-- Take the next token, which must exist. -/
def takeExpected : Reading Token := do
  match ← take with
  | some token => return token
  | none => fail "unexpected end of pattern" 0

/-- Read a named group's opening or a reference to a named group. -/
def readNamedOpening : Reading GroupOpening := do
  if ← accept '<' then
    let name ← takeName '>' "group name"
    checkName name
    return .capture (some name)
  else if ← accept '=' then
    let name ← takeName ')' "group name"
    checkName name
    let group ← groupNamed name
    if ((← get).closedWidth? group).isNone then
      fail "cannot refer to an open group" (name.length + 1)
    checkBehind group
    return .reference group
  else
    let token ← takeExpected
    fail ("unknown extension ?P" ++ String.ofList token.chars) (token.size + 2)

/-- Read what follows an opening parenthesis and tells the kind of its group. -/
def readOpening : Reading GroupOpening := do
  if !(← accept '?') then return .capture none
  let token ← takeExpected
  if token.isChar 'P' then readNamedOpening
  else if token.isChar ':' then return .plain
  else if token.isChar '#' then return .comment
  else if token.isChar '=' then return .ahead false
  else if token.isChar '!' then return .ahead true
  else if token.isChar '<' then
    let next ← takeExpected
    if next.isChar '=' then return .behind false
    else if next.isChar '!' then return .behind true
    else fail ("unknown extension ?<" ++ String.ofList next.chars) (next.size + 2)
  else if token.isChar '(' then
    let group ← conditionGroup
    checkBehind group
    return .conditional group
  else if token.isChar '>' then return .atomic
  else if isOptionLetter token || token.isChar '-' then
    match ← readOptions token with
    | some change => return .scoped change
    | none => return .globalOptions
  else fail ("unknown extension ?" ++ String.ofList token.chars) (token.size + 1)

mutual

/-- Read alternatives; `isTop` tells whether they are those of the whole pattern and `isFirst`
whether none has been read. -/
def alternatives : Nat → Bool → Bool → Bool → Reading (List (List Node) × Width)
  | 0, _, _, _ => fail "unexpected end of pattern" 0
  | fuel + 1, verbose, isTop, isFirst => do
    let (items, width) ← sequence fuel verbose (isTop && isFirst) []
    if ← accept '|' then
      let source ← get
      let inner := if isTop then source.options.verbose else verbose
      let (others, widths) ← alternatives fuel inner isTop false
      return (items :: others, width.join widths)
    else return ([items], width)

/-- Read what stands in a group that opens at `start`, up to the closing parenthesis. -/
def groupBody : Nat → Bool → Nat → Reading (List Node × Width)
  | 0, _, _ => fail "unexpected end of pattern" 0
  | fuel + 1, verbose, start => do
    let (sequences, width) ← alternatives fuel verbose false true
    closeParenthesis start
    return (Node.choice sequences, width)

/-- Read a sequence of items, `read` being those before, last first. -/
def sequence : Nat → Bool → Bool → List Item → Reading (List Node × Width)
  | 0, _, _, _ => fail "unexpected end of pattern" 0
  | fuel + 1, verbose, isFirst, read => do
    match ← peek with
    | none => return joinItems read
    | some token =>
      if token.isAmong ['|', ')'] then return joinItems read
      advance
      match token.second with
      | some letter =>
        let item ← (← plainEscape letter).toItem
        sequence fuel verbose isFirst (item :: read)
      | none =>
        let c := token.first
        let literal : Item := .ofNode (.char c.toNat false) .one
        if verbose && [' ', '\t', '\n', '\r', '\x0b', '\x0c'].contains c then
          sequence fuel verbose isFirst read
        else if verbose && c = '#' then
          skipLine fuel
          sequence fuel verbose isFirst read
        else if c = '[' then
          let node ← readSet token.position
          sequence fuel verbose isFirst (.ofNode node .one :: read)
        else if ['*', '+', '?', '{'].contains c then
          match ← repetitionCounts c with
          | none => sequence fuel verbose isFirst (literal :: read)
          | some (least, most) =>
            match read with
            | [] => failAt "nothing to repeat" token.position
            | item :: before =>
              if item.kind = .anchor then failAt "nothing to repeat" token.position
              if item.kind = .repetition then failAt "multiple repeat" token.position
              let greed ← repetitionGreed
              let repeated := Node.iter greed least most (.ofItems item.nodes)
              sequence fuel verbose isFirst
                (⟨.repetition, [repeated], item.width.times least most⟩ :: before)
        else if c = '.' then sequence fuel verbose isFirst (.ofNode .any .one :: read)
        else if c = '^' then
          sequence fuel verbose isFirst (⟨.anchor, [.anchor .lineStart], .zero⟩ :: read)
        else if c = '$' then
          sequence fuel verbose isFirst (⟨.anchor, [.anchor .lineEnd], .zero⟩ :: read)
        else if c = '(' then
          let start := token.position
          match ← readOpening with
          | .comment =>
            skipComment start (fuel + 1)
            sequence fuel verbose isFirst read
          | .globalOptions =>
            if !isFirst || !read.isEmpty then
              failAt "global flags not at the start of the expression" start
            let source ← get
            sequence fuel source.options.verbose isFirst read
          | .reference group =>
            let item ← (Escape.backreference group).toItem
            sequence fuel verbose isFirst (item :: read)
          | .plain =>
            let (nodes, width) ← groupBody fuel verbose start
            sequence fuel verbose isFirst (⟨.ordinary, nodes, width⟩ :: read)
          | .atomic =>
            let (nodes, width) ← groupBody fuel verbose start
            sequence fuel verbose isFirst (.ofNode (.atomic (.ofItems nodes)) width :: read)
          | .scoped change =>
            let inner := (verbose || change.turnedOn.verbose) && !change.turnedOff.verbose
            let (nodes, width) ← groupBody fuel inner start
            let node := Node.scoped change (.ofItems nodes)
            sequence fuel verbose isFirst (.ofNode node width :: read)
          | .capture name =>
            let group ← openGroup name
            let (nodes, width) ← groupBody fuel verbose start
            closeGroup group width
            sequence fuel verbose isFirst (.ofNode (.capture group (.ofItems nodes)) width :: read)
          | .ahead negated =>
            let (nodes, _) ← groupBody fuel verbose start
            let node := if negated && nodes.isEmpty then .never else .ahead negated (.ofItems nodes)
            sequence fuel verbose isFirst (.ofNode node .zero :: read)
          | .behind negated =>
            let before ← get
            let outer := before.behindFrom
            if outer.isNone then
              modify fun source => { source with behindFrom := some source.groupCount }
            let (sequences, width) ← alternatives fuel verbose false true
            if outer.isNone then modify fun source => { source with behindFrom := none }
            closeParenthesis start
            let nodes := Node.choice sequences
            let node :=
              if negated && nodes.isEmpty then .never else .behind negated width (.ofItems nodes)
            sequence fuel verbose isFirst (.ofNode node .zero :: read)
          | .conditional group =>
            let (present, width) ← sequence fuel verbose false []
            let (missing, widths) ←
              if ← accept '|' then
                let other ← sequence fuel verbose false []
                if ← nextIs '|' then
                  fail "conditional backref with more than two branches" 0
                pure other
              else pure ([], Width.zero)
            closeParenthesis start
            let node := Node.conditional group (.ofItems present) (.ofItems missing)
            sequence fuel verbose isFirst (.ofNode node (width.join widths) :: read)
        else sequence fuel verbose isFirst (literal :: read)

end

/-! ## Whole patterns -/

/-- The first rule that an expression breaks although it reads well: repetition may be forbidden,
and a condition on what precedes needs a fixed length. -/
def brokenRule? (isTemplate : Bool) : Node → Option String
  | .seq first second => (brokenRule? isTemplate first).or (brokenRule? isTemplate second)
  | .alt first second => (brokenRule? isTemplate first).or (brokenRule? isTemplate second)
  | .iter greed _ _ body =>
    if isTemplate then
      some ("internal: unsupported template operator " ++
        match greed with
        | .greedy => "MAX_REPEAT"
        | .lazy => "MIN_REPEAT"
        | .possessive => "POSSESSIVE_REPEAT")
    else brokenRule? isTemplate body
  | .capture _ body => brokenRule? isTemplate body
  | .scoped _ body => brokenRule? isTemplate body
  | .atomic body => brokenRule? isTemplate body
  | .ahead _ body => brokenRule? isTemplate body
  | .behind _ width body =>
    if width.most ≠ width.least then some "look-behind requires fixed-width pattern"
    else brokenRule? isTemplate body
  | .conditional _ present missing =>
    (brokenRule? isTemplate present).or (brokenRule? isTemplate missing)
  | _ => none

/-- The least length that is too far to look back. -/
def behindLimit : Nat := 2147483648

/-- Whether an expression looks back too far. -/
def looksTooFar : Node → Bool
  | .seq first second => looksTooFar first || looksTooFar second
  | .alt first second => looksTooFar first || looksTooFar second
  | .iter _ _ _ body => looksTooFar body
  | .capture _ body => looksTooFar body
  | .scoped _ body => looksTooFar body
  | .atomic body => looksTooFar body
  | .ahead _ body => looksTooFar body
  | .behind _ width body => behindLimit ≤ width.least || looksTooFar body
  | .conditional _ present missing => looksTooFar present || looksTooFar missing
  | _ => false

/-- Read a whole pattern. -/
def readPattern : Reading Pattern := do
  let source ← get
  if source.rest.isEmpty && source.dangling then
    failAt "bad escape (end of pattern)" (source.length - 1)
  let (sequences, width) ← alternatives (4 * source.rest.length + 4) false true true
  let final ← get
  if final.options.ascii && final.options.unicode then
    throw (.senseless "ASCII and UNICODE flags are incompatible")
  if !final.rest.isEmpty then fail "unbalanced parenthesis" 0
  for (group, position) in final.references do
    if final.groupCount ≤ group then failAt s!"invalid group reference {group}" position
  let body := Node.ofItems (Node.choice sequences)
  if let some rule := brokenRule? final.options.template body then throw (.invalid rule none)
  if looksTooFar body then throw (.unusable "invalid SRE code")
  return ⟨body, width, final.options, final.widths.size⟩

/-- The pattern that a text stands for. -/
def read (text : List Char) : Except Problem Pattern :=
  let (tokens, dangling) := tokensFrom 0 text
  (readPattern.run ⟨text.length, dangling, tokens, {}, [], #[], none, []⟩).map (·.1)

end NegativeCompile.Regex
