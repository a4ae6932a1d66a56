import NegativeCompile.Yaml.Token.Mark
import NegativeCompile.Yaml.Token.Scalar

/-! # Reading tokens

The tokens of a text. Indentation gives tokens of its own, and where a colon shows that something
was a key, the tokens that say so are put in before it. -/

namespace NegativeCompile.Yaml

/-- Something that may turn out to be a key. -/
structure KeyCandidate where
  /-- The number of tokens before it. -/
  position : Nat
  /-- Whether it has to turn out to be a key. -/
  required : Bool
  /-- Its place in the text. -/
  index : Nat
  /-- Its line. -/
  line : Nat
  /-- Its column. -/
  column : Nat
  deriving Repr

/-- How far a text has been read. -/
structure Reading where
  /-- The place in the text. -/
  cursor : Cursor
  /-- How many brackets and braces are open. -/
  depth : Nat
  /-- The column of the innermost list or mapping by indentation. -/
  indent : Int
  /-- The columns of those around it, innermost first. -/
  outer : List Int
  /-- Whether a key may start here. -/
  allowsKey : Bool
  /-- What may turn out to be a key, for each number of open brackets and braces. -/
  candidates : List (Nat × KeyCandidate)
  /-- The tokens, last first. -/
  tokens : List Token
  /-- Whether the end has been reached. -/
  isDone : Bool

namespace Reading

/-- The start of reading a text. -/
def ofText (text : List Char) : Reading :=
  { cursor := .ofText text
    depth := 0
    indent := -1
    outer := []
    allowsKey := true
    candidates := []
    tokens := []
    isDone := false }

/-- The most characters that a key may take up. -/
def keyLimit : Nat := 1024

/-- Add a token. -/
def push (token : Token) (reading : Reading) : Reading :=
  { reading with tokens := token :: reading.tokens }

/-- Add a token that takes up some characters. -/
def pushOver (token : Token) (count : Nat) (reading : Reading) : Reading :=
  { reading.push token with cursor := reading.cursor.skip count }

/-- Put a token in behind some tokens. -/
def insert (position : Nat) (token : Token) (reading : Reading) : Reading :=
  let later := reading.tokens.length - position
  { reading with tokens := reading.tokens.take later ++ token :: reading.tokens.drop later }

/-- Say whether a key may start next. -/
def allowKey (isAllowed : Bool) (reading : Reading) : Reading :=
  { reading with allowsKey := isAllowed }

/-! ## Candidates for keys -/

/-- Whether a candidate is on an earlier line or too long ago. -/
def isStale (reading : Reading) (candidate : KeyCandidate) : Bool :=
  candidate.line ≠ reading.cursor.line || keyLimit < reading.cursor.index - candidate.index

/-- Drop candidates that are stale, none of which may be required. -/
def dropStale (reading : Reading) : Except Problem Reading :=
  let stale := reading.candidates.filter fun entry => reading.isStale entry.2
  if stale.any (·.2.required) then .error .malformed
  else .ok { reading with
    candidates := reading.candidates.filter fun entry => !reading.isStale entry.2 }

/-- The candidate among as many brackets and braces as are open. -/
def candidate? (reading : Reading) : Option KeyCandidate :=
  reading.candidates.lookup reading.depth

/-- Forget the candidate among as many brackets and braces as are open. -/
def forget (reading : Reading) : Reading :=
  { reading with candidates := reading.candidates.filter (·.1 != reading.depth) }

/-- Drop that candidate, which must not be required. -/
def dropCandidate (reading : Reading) : Except Problem Reading :=
  match reading.candidate? with
  | some candidate => if candidate.required then .error .malformed else .ok reading.forget
  | none => .ok reading

/-- Note that what comes next may turn out to be a key. -/
def noteCandidate (reading : Reading) : Except Problem Reading :=
  if !reading.allowsKey then .ok reading
  else do
    let column := reading.cursor.column
    let candidate : KeyCandidate :=
      { position := reading.tokens.length
        required := reading.depth = 0 && reading.indent = column
        index := reading.cursor.index
        line := reading.cursor.line
        column := column }
    let cleared ← reading.dropCandidate
    return { cleared with candidates := (reading.depth, candidate) :: cleared.candidates }

/-! ## Indentation -/

/-- End the lists and mappings that are indented more than a column. -/
def unwindFrom (column : Int) : List Int → Reading → Reading
  | [], reading => reading
  | next :: rest, reading =>
    if column < reading.indent then
      unwindFrom column rest { reading.push .blockEnd with indent := next, outer := rest }
    else reading

/-- End the lists and mappings that are indented more than a column, outside brackets. -/
def unwind (column : Int) (reading : Reading) : Reading :=
  if reading.depth = 0 then unwindFrom column reading.outer reading else reading

/-- Start a list or a mapping at a column, unless one goes on there; its token is put in behind some
tokens. -/
def openBlock (column position : Nat) (token : Token) (reading : Reading) : Reading :=
  if reading.indent < column then
    { reading.insert position token with
      indent := column
      outer := reading.indent :: reading.outer }
  else reading

/-- Start a list or a mapping here, unless one goes on. -/
def openHere (token : Token) (reading : Reading) : Reading :=
  reading.openBlock reading.cursor.column reading.tokens.length token

/-! ## Single tokens -/

/-- Read up to the next token, `fuel` bounding the length of the text. -/
def skipGapFrom : Nat → Reading → Reading
  | 0, reading => reading
  | fuel + 1, reading =>
    let next := reading.cursor.skipBlanks
    let last := if next.peek = '#' then next.dropWhile (!endsLine ·) else next
    match last.takeBreak with
    | (none, _) => { reading with cursor := last }
    | (some _, after) =>
      skipGapFrom fuel
        { reading with cursor := after, allowsKey := reading.allowsKey || reading.depth = 0 }

/-- Read up to the next token. -/
def skipGap (reading : Reading) : Reading :=
  let start := reading.cursor
  let cursor := if start.index = 0 && start.peek = '\ufeff' then start.advance else start
  skipGapFrom (cursor.rest.length + 1) { reading with cursor := cursor }

/-- End everything by indentation, at a token that stands at the start of a line. -/
def atMargin (reading : Reading) : Except Problem Reading := do
  return (← (reading.unwind (-1)).dropCandidate).allowKey false

/-- Read the end of the text. -/
def readEnd (reading : Reading) : Except Problem Reading := do
  return { (← reading.atMargin).push .streamEnd with isDone := true }

/-- Read the start of something in brackets or braces. -/
def readOpening (token : Token) (reading : Reading) : Except Problem Reading := do
  let noted ← reading.noteCandidate
  return ({ noted with depth := noted.depth + 1 }.allowKey true).pushOver token 1

/-- Read the end of something in brackets or braces. -/
def readClosing (token : Token) (reading : Reading) : Except Problem Reading := do
  let cleared ← reading.dropCandidate
  if cleared.depth = 0 then throw .malformed
  return ({ cleared with depth := cleared.depth - 1 }.allowKey false).pushOver token 1

/-- Read the end of an entry in brackets or braces. -/
def readSeparator (reading : Reading) : Except Problem Reading := do
  return (← (reading.allowKey true).dropCandidate).pushOver .flowEntry 1

/-- Start a list or a mapping here, which is possible only where a key may start. -/
def openIfAllowed (token : Token) (reading : Reading) : Except Problem Reading :=
  if reading.depth ≠ 0 then .ok reading
  else if reading.allowsKey then .ok (reading.openHere token)
  else .error .malformed

/-- Read the start of an entry of a list. -/
def readEntry (reading : Reading) : Except Problem Reading := do
  let opened ← reading.openIfAllowed .blockSequenceStart
  return (← (opened.allowKey true).dropCandidate).pushOver .blockEntry 1

/-- Read the mark of a key. -/
def readKey (reading : Reading) : Except Problem Reading := do
  let opened ← reading.openIfAllowed .blockMappingStart
  return (← (opened.allowKey (opened.depth = 0)).dropCandidate).pushOver .key 1

/-- Read the mark of a value: what was noted last was a key, if anything was. -/
def readValue (reading : Reading) : Except Problem Reading :=
  match reading.candidate? with
  | some candidate =>
    let marked := reading.forget.insert candidate.position .key
    let opened :=
      if marked.depth = 0 then
        marked.openBlock candidate.column candidate.position .blockMappingStart
      else marked
    .ok ((opened.allowKey false).pushOver .value 1)
  | none => do
    let opened ← reading.openIfAllowed .blockMappingStart
    return (← (opened.allowKey (opened.depth = 0)).dropCandidate).pushOver .value 1

/-- Read something that may turn out to be a key, with a way to read it. -/
def readPart (read : Cursor → Except Problem (Token × Cursor)) (reading : Reading) :
    Except Problem Reading := do
  let noted ← reading.noteCandidate
  let (token, next) ← read noted.cursor
  return { (noted.push token).allowKey false with cursor := next }

/-- Read a block scalar. -/
def readBlock (reading : Reading) : Except Problem Reading := do
  let cleared ← (reading.allowKey true).dropCandidate
  let (text, next) ← Block.read cleared.indent cleared.cursor
  return { cleared.push (.scalar (String.ofList text) false) with cursor := next }

/-- Read a plain scalar. -/
def readPlain (reading : Reading) : Except Problem Reading := do
  let noted ← reading.noteCandidate
  let found := Plain.read (noted.depth ≠ 0) (noted.indent + 1) noted.cursor
  return { (noted.push (.scalar (String.ofList found.text) true)).allowKey found.allowsKey with
    cursor := found.next }

/-- Read a quoted scalar as a token. -/
def quotedToken (cursor : Cursor) : Except Problem (Token × Cursor) := do
  let (text, next) ← Quoted.read cursor
  return (.scalar (String.ofList text) false, next)

/-- Read a reference as a token. -/
def aliasToken (cursor : Cursor) : Except Problem (Token × Cursor) := do
  let (name, next) ← Mark.marked cursor
  return (.alias name, next)

/-- Read a mark as a token. -/
def anchorToken (cursor : Cursor) : Except Problem (Token × Cursor) := do
  let (name, next) ← Mark.marked cursor
  return (.anchor name, next)

/-- Whether a character can start a plain scalar whatever follows it. -/
def startsPlain (c : Char) : Bool :=
  !(endsWord c || "-?:,[]\x7b\x7d#&*!|>'\"%@\x60".toList.contains c)

/-- Whether a plain scalar starts at a place. -/
def isPlain (reading : Reading) : Bool :=
  let c := reading.cursor.peek
  startsPlain c ||
    (!endsWord (reading.cursor.peekAt 1) &&
      (c = '-' || (reading.depth = 0 && (c = '?' || c = ':'))))

/-- Read the next token. -/
def readToken (start : Reading) : Except Problem Reading := do
  let gone := start.skipGap
  let fresh ← gone.dropStale
  let reading := fresh.unwind fresh.cursor.column
  let cursor := reading.cursor
  let c := cursor.peek
  let isAlone := endsWord (cursor.peekAt 1)
  let inFlow := reading.depth ≠ 0
  if cursor.rest.isEmpty then reading.readEnd
  else if c = '%' && cursor.column = 0 then do
    let margin ← reading.atMargin
    let (token, next) ← Mark.directive cursor
    return { margin.push token with cursor := next }
  else if cursor.column = 0 && cursor.isSeparator then
    return (← reading.atMargin).pushOver (if c = '-' then .documentStart else .documentEnd) 3
  else if c = '[' then reading.readOpening .flowSequenceStart
  else if c = '{' then reading.readOpening .flowMappingStart
  else if c = ']' then reading.readClosing .flowSequenceEnd
  else if c = '}' then reading.readClosing .flowMappingEnd
  else if c = ',' then reading.readSeparator
  else if c = '-' && isAlone then reading.readEntry
  else if c = '?' && (inFlow || isAlone) then reading.readKey
  else if c = ':' && (inFlow || isAlone) then reading.readValue
  else if c = '*' then reading.readPart aliasToken
  else if c = '&' then reading.readPart anchorToken
  else if c = '!' then reading.readPart Mark.tag
  else if (c = '|' || c = '>') && !inFlow then reading.readBlock
  else if c = '\'' || c = '"' then reading.readPart quotedToken
  else if reading.isPlain then reading.readPlain
  else throw .malformed

/-- Break off because of a problem. It is found as soon as anything is asked for that might still
turn out to be a key, so nothing from there on is left. -/
def breakOff (reading : Reading) (problem : Problem) : Reading :=
  let open_ := (reading.skipGap.candidates.filter fun entry => !reading.skipGap.isStale entry.2)
  let kept := open_.foldl (fun least entry => min least entry.2.position) reading.tokens.length
  { reading with
    tokens := .broken problem :: reading.tokens.drop (reading.tokens.length - kept) }

/-- Read tokens up to the end or up to a problem, `fuel` bounding the length of the text. -/
def readAll : Nat → Reading → Reading
  | 0, reading => reading.breakOff .malformed
  | fuel + 1, reading =>
    if reading.isDone then reading
    else match reading.readToken with
      | .ok next => readAll fuel next
      | .error problem => reading.breakOff problem

end Reading

/-- The tokens of a text, up to its end or to the first problem. -/
def tokensOf (text : List Char) : List Token :=
  ((Reading.ofText text).readAll (text.length + 2)).tokens.reverse

end NegativeCompile.Yaml
