import NegativeCompile.Literal.Expression
import NegativeCompile.Literal.Formatted

/-! # Reading expressions

The expression that tokens stand for. Every expression is read, also those that stand for no datum,
because a text with a mistake is told apart from one that only says too much. -/

namespace NegativeCompile.Literal.Expression

open Text

/-! ## Tokens -/

/-- A step of reading an expression: it takes tokens from the front of a list, or finds a
mistake. -/
abbrev Reading := StateT (List Token) Option

/-- The words that are no names. -/
def reservedWords : List String :=
  ["False", "None", "True", "and", "as", "assert", "async", "await", "break", "class", "continue",
    "def", "del", "elif", "else", "except", "finally", "for", "from", "global", "if", "import",
    "in", "is", "lambda", "nonlocal", "not", "or", "pass", "raise", "return", "try", "while",
    "with", "yield"]

/-- Whether the next token is a mark. -/
def atMark (text : String) : Reading Bool := do
  match ← get with
  | .mark found :: _ => return found = text
  | _ => return false

/-- Whether the next token is a word. -/
def atWord (text : String) : Reading Bool := do
  match ← get with
  | .name found :: _ => return found = text
  | _ => return false

/-- Go past the next token. -/
def skip : Reading Unit := modify (·.drop 1)

/-- Read on from given tokens. -/
def readOn (tokens : List Token) : Reading Unit := modify fun _ => tokens

/-- Go past a mark if it comes next. -/
def mark (text : String) : Reading Bool := do
  if ← atMark text then
    skip
    return true
  else return false

/-- Go past a word if it comes next. -/
def word (text : String) : Reading Bool := do
  if ← atWord text then
    skip
    return true
  else return false

/-- Go past one of some marks if one comes next. -/
def anyMark (texts : List String) : Reading (Option String) := do
  match ← get with
  | .mark found :: _ =>
    if texts.contains found then
      skip
      return some found
    else return none
  | _ => return none

/-- Go past a mark that has to come next. -/
def need (text : String) : Reading Unit := do
  if !(← mark text) then failure

/-- Go past a word that has to come next. -/
def needWord (text : String) : Reading Unit := do
  if !(← word text) then failure

/-- Read a name. -/
def plainName : Reading String := do
  match ← get with
  | .name found :: _ =>
    if reservedWords.contains found then failure
    skip
    return found
  | _ => failure

/-- Whether a name and then a mark come next. -/
def atNameBefore (text : String) : Reading Bool := do
  match ← get with
  | .name found :: .mark next :: _ => return next = text && !reservedWords.contains found
  | _ => return false

/-- Whether a part that repeats an expression comes next. -/
def atClause : Reading Bool := do return (← atWord "for") || (← atWord "async")

/-- Go past an operator that compares, if one comes next. -/
def comparison : Reading Bool := do
  if (← anyMark ["<", ">", "==", ">=", "<=", "!="]).isSome then return true
  if ← word "in" then return true
  if ← word "is" then
    let _ ← word "not"
    return true
  match ← get with
  | .name "not" :: .name "in" :: _ => do
    skip
    skip
    return true
  | _ => return false

/-! ## Quoted texts -/

/-- What texts next to each other amount to. -/
inductive Joined where
  /-- A text. -/
  | text (value : List Char)
  /-- A byte string. -/
  | bytes (value : List UInt8)
  /-- A text with expressions. -/
  | formatted

/-- Add a quoted token to those before it; texts and byte strings do not go together. -/
def Joined.add? : Joined → Token → Option Joined
  | .text value, .text more => some (.text (value ++ more))
  | .text _, .formatted _ _ => some .formatted
  | .formatted, .text _ => some .formatted
  | .formatted, .formatted _ _ => some .formatted
  | .bytes value, .bytes more => some (.bytes (value ++ more))
  | _, _ => none

/-- Whether a token is quoted. -/
def isQuoted : Token → Bool
  | .text _ => true
  | .bytes _ => true
  | .formatted _ _ => true
  | _ => false

/-- Join a quoted token to those after it. -/
def joinAll (first : Token) (rest : List Token) : Option Joined :=
  let start := match first with
    | .bytes value => Joined.bytes value
    | .text value => Joined.text value
    | _ => Joined.formatted
  rest.foldlM Joined.add? start

/-- The expression of what texts next to each other amount to. -/
def Joined.expression : Joined → Expression
  | .text value => .constant (.text (String.ofList value))
  | .bytes value => .constant (.bytes value)
  | .formatted => .foreign

/-! ## Brackets -/

/-- The deepest nesting of brackets. -/
def nestingLimit : Nat := 200

/-- Whether the brackets of a list of tokens are nested at most so deep. -/
def nestsWithin (limit depth : Nat) : List Token → Bool
  | [] => true
  | .mark text :: rest =>
    if text = "[" || text = "(" || text = "\x7b" then
      depth < limit && nestsWithin limit (depth + 1) rest
    else if text = "]" || text = ")" || text = "\x7d" then nestsWithin limit (depth - 1) rest
    else nestsWithin limit depth rest
  | _ :: rest => nestsWithin limit depth rest

/-- The tokens of a text whose brackets are not nested too deep. -/
def shallowTokens (text : List Char) : Option (List Token) := do
  let found ← tokens text
  if nestsWithin nestingLimit 0 found then some found else none

/-! ## Expressions -/

/-- Where the parameters of an anonymous function stand. -/
inductive ParameterPlace where
  /-- Before a slash. -/
  | beforeSlash
  /-- After a slash. -/
  | afterSlash
  /-- After a star. -/
  | afterStar
  deriving DecidableEq

/-- What the parameters before were like. -/
structure ParameterState where
  /-- Where the next one stands. -/
  place : ParameterPlace
  /-- Whether there was one. -/
  hasSome : Bool
  /-- Whether the last ones have a value of their own. -/
  hasDefault : Bool
  /-- Whether a name has to come. -/
  needsName : Bool

/-- What the arguments before were like. -/
structure ArgumentState where
  /-- Whether there was one. -/
  hasSome : Bool
  /-- Whether there was one with a name. -/
  hasNamed : Bool
  /-- Whether there was a mapping to be spread. -/
  hasMapping : Bool

mutual

/-- Read an expression; `fuel` bounds the number of nested steps. -/
def readWhole : Nat → Reading Expression
  | 0 => failure
  | fuel + 1 => do
    if ← word "lambda" then
      readParameters fuel ⟨.beforeSlash, false, false, false⟩
      let _ ← readWhole fuel
      return .foreign
    let found ← readLogical fuel
    if ← word "if" then
      let _ ← readLogical fuel
      needWord "else"
      let _ ← readWhole fuel
      return .foreign
    else return found

/-- Read an expression without a choice in it. -/
def readLogical : Nat → Reading Expression
  | 0 => failure
  | fuel + 1 => do
    let found ← readDenied fuel
    if (← word "or") || (← atWord "and") then
      let _ ← word "and"
      let _ ← readLogical fuel
      return .foreign
    else return found

/-- Read a comparison, possibly denied. -/
def readDenied : Nat → Reading Expression
  | 0 => failure
  | fuel + 1 => do
    if ← word "not" then
      let _ ← readDenied fuel
      return .foreign
    else readCompared fuel

/-- Read a chain of comparisons. -/
def readCompared : Nat → Reading Expression
  | 0 => failure
  | fuel + 1 => do
    let found ← readArithmetic fuel
    if ← comparison then
      let _ ← readCompared fuel
      return .foreign
    else return found

/-- Read operands with operators between them. -/
def readArithmetic : Nat → Reading Expression
  | 0 => failure
  | fuel + 1 => do
    let found ← readOperand fuel
    match ← anyMark ["|", "^", "&", "<<", ">>", "+", "-", "*", "/", "//", "%", "@"] with
    | none => return found
    | some operator => do
      let right ← readOperand fuel
      if ← atOperator then
        skip
        let _ ← readArithmetic fuel
        return .foreign
      else if operator = "+" || operator = "-" then return .sum (operator = "-") found right
      else return .foreign

/-- Whether an operator between operands comes next. -/
def atOperator : Reading Bool := do
  match ← get with
  | .mark found :: _ =>
    return ["|", "^", "&", "<<", ">>", "+", "-", "*", "/", "//", "%", "@"].contains found
  | _ => return false

/-- Read an operand, possibly with a sign or raised to a power. -/
def readOperand : Nat → Reading Expression
  | 0 => failure
  | fuel + 1 => do
    match ← anyMark ["+", "-", "~"] with
    | some "+" => return .sign false (← readOperand fuel)
    | some "-" => return .sign true (← readOperand fuel)
    | some _ => do
      let _ ← readOperand fuel
      return .foreign
    | none => do
      let isAwaited ← word "await"
      let base ← readPrimary fuel
      if ← mark "**" then
        let _ ← readOperand fuel
        return .foreign
      else return if isAwaited then .foreign else base

/-- Read something and the parts and calls of it. -/
def readPrimary : Nat → Reading Expression
  | 0 => failure
  | fuel + 1 => do readTrailers fuel (← readAtom fuel)

/-- Read the parts and calls of something. -/
def readTrailers : Nat → Expression → Reading Expression
  | 0, _ => failure
  | fuel + 1, found => do
    if ← mark "." then
      let _ ← plainName
      readTrailers fuel .part
    else if ← mark "(" then
      if ← mark ")" then
        match found with
        | .name "set" => readTrailers fuel .emptySet
        | _ => readTrailers fuel .foreign
      else do
        readArguments fuel ⟨false, false, false⟩
        readTrailers fuel .foreign
    else if ← mark "[" then
      readSlices fuel
      readTrailers fuel .part
    else return found

/-- Read a constant, a name or something in brackets. -/
def readAtom : Nat → Reading Expression
  | 0 => failure
  | fuel + 1 => do
    match ← get with
    | .number value :: _ => do
      skip
      return .constant value
    | .dots :: _ => do
      skip
      return .constant .ellipsis
    | .name "None" :: _ => do
      skip
      return .constant .nothing
    | .name "True" :: _ => do
      skip
      return .constant (.boolean true)
    | .name "False" :: _ => do
      skip
      return .constant (.boolean false)
    | .name _ :: _ => return .name (← plainName)
    | .mark "(" :: _ => do
      skip
      readRound fuel
    | .mark "[" :: _ => do
      skip
      readSquare fuel
    | .mark "\x7b" :: _ => do
      skip
      readCurly fuel
    | first :: rest =>
      if !isQuoted first then failure
      let others := rest.takeWhile isQuoted
      readOn (rest.drop others.length)
      readFormats fuel (first :: others)
      let joined ← joinAll first others
      return joined.expression
    | [] => failure

/-- Read the expressions within quoted tokens. -/
def readFormats : Nat → List Token → Reading Unit
  | 0, _ => failure
  | _ + 1, [] => return
  | fuel + 1, token :: rest => do
    match token with
    | .formatted isRaw body => do
      let outer ← get
      let texts ← Formatted.expressions isRaw body
      readTexts fuel texts
      readOn outer
      readFormats fuel rest
    | _ => readFormats fuel rest

/-- Read the expressions in texts, each as if it stood in parentheses. -/
def readTexts : Nat → List (List Char) → Reading Unit
  | 0, _ => failure
  | _ + 1, [] => return
  | fuel + 1, text :: rest => do
    let inside ← shallowTokens ('(' :: text ++ [')'])
    readOn inside
    let _ ← readPrimary fuel
    if !(← get).isEmpty then failure
    readTexts fuel rest

/-- Read what follows an opening parenthesis. -/
def readRound : Nat → Reading Expression
  | 0 => failure
  | fuel + 1 => do
    if ← mark ")" then return .tuple []
    if ← word "yield" then
      if ← word "from" then
        let _ ← readWhole fuel
      else if !(← atMark ")") then readYielded fuel
      need ")"
      return .foreign
    let first ← readItem fuel
    if ← mark "," then return .tuple (first :: (← readItems fuel ")"))
    match first with
    | .spread _ => failure
    | _ => do
      if ← atClause then
        readClauses fuel
        need ")"
        return .foreign
      else do
        need ")"
        return first

/-- Read expressions, possibly to be spread, up to a closing parenthesis. -/
def readYielded : Nat → Reading Unit
  | 0 => failure
  | fuel + 1 => do
    if ← mark "*" then
      let _ ← readArithmetic fuel
    else
      let _ ← readWhole fuel
    if ← mark "," then
      if !(← atMark ")") then readYielded fuel

/-- Read what follows an opening bracket. -/
def readSquare : Nat → Reading Expression
  | 0 => failure
  | fuel + 1 => do
    if ← mark "]" then return .list []
    let first ← readItem fuel
    if ← atClause then readRepeated fuel first "]"
    else if ← mark "," then return .list (first :: (← readItems fuel "]"))
    else do
      need "]"
      return .list [first]

/-- Read what follows an opening brace. -/
def readCurly : Nat → Reading Expression
  | 0 => failure
  | fuel + 1 => do
    if ← mark "\x7d" then return .mapping []
    if ← mark "**" then
      let spread ← readArithmetic fuel
      return .mapping ((.foreign, spread) :: (← readEntries fuel))
    let isBound ← atNameBefore ":="
    let first ← readItem fuel
    if ← mark ":" then
      match first with
      | .spread _ => failure
      | _ => do
        if isBound then failure
        let content ← readWhole fuel
        if ← atClause then readRepeated fuel first "\x7d"
        else return .mapping ((first, content) :: (← readEntries fuel))
    else if ← atClause then readRepeated fuel first "\x7d"
    else if ← mark "," then return .set (first :: (← readItems fuel "\x7d"))
    else do
      need "\x7d"
      return .set [first]

/-- Read the parts that repeat an expression in brackets, and the closing bracket. -/
def readRepeated : Nat → Expression → String → Reading Expression
  | 0, _, _ => failure
  | fuel + 1, first, close => do
    match first with
    | .spread _ => failure
    | _ => do
      readClauses fuel
      need close
      return .foreign

/-- Read the further entries of a mapping, up to its closing brace. -/
def readEntries : Nat → Reading (List (Expression × Expression))
  | 0 => failure
  | fuel + 1 => do
    if ← mark "\x7d" then return []
    need ","
    if ← mark "\x7d" then return []
    if ← mark "**" then
      let spread ← readArithmetic fuel
      return (.foreign, spread) :: (← readEntries fuel)
    let key ← readWhole fuel
    need ":"
    let content ← readWhole fuel
    return (key, content) :: (← readEntries fuel)

/-- Read an item of a list: an expression, possibly bound to a name or to be spread. -/
def readItem : Nat → Reading Expression
  | 0 => failure
  | fuel + 1 => do
    if ← mark "*" then return .spread (← readArithmetic fuel)
    else readBound fuel

/-- Read an expression, possibly bound to a name. -/
def readBound : Nat → Reading Expression
  | 0 => failure
  | fuel + 1 => do
    if ← atNameBefore ":=" then
      skip
      skip
      let _ ← readWhole fuel
      return .foreign
    else readWhole fuel

/-- Read items with commas between them and possibly after the last one, up to a closing
bracket. -/
def readItems : Nat → String → Reading (List Expression)
  | 0, _ => failure
  | fuel + 1, close => do
    if ← mark close then return []
    let item ← readItem fuel
    if ← mark close then return [item]
    need ","
    return item :: (← readItems fuel close)

/-- Read the parts that repeat an expression. -/
def readClauses : Nat → Reading Unit
  | 0 => failure
  | fuel + 1 => do
    let _ ← word "async"
    needWord "for"
    readTargets fuel
    needWord "in"
    let _ ← readLogical fuel
    readConditions fuel
    if ← atClause then readClauses fuel

/-- Read the conditions of a part that repeats an expression. -/
def readConditions : Nat → Reading Unit
  | 0 => failure
  | fuel + 1 => do
    if ← word "if" then
      let _ ← readLogical fuel
      readConditions fuel

/-- Read targets with commas between them. -/
def readTargets : Nat → Reading Unit
  | 0 => failure
  | fuel + 1 => do
    let _ ← mark "*"
    let found ← readPrimary fuel
    if !found.isTarget then failure
    if ← mark "," then
      if !(← atWord "in") then readTargets fuel

/-- Read the parameters of an anonymous function, up to a colon. -/
def readParameters : Nat → ParameterState → Reading Unit
  | 0, _ => failure
  | fuel + 1, state => do
    if ← mark ":" then
      if state.needsName then failure
    else if ← mark "**" then
      if state.needsName then failure
      let _ ← plainName
      let _ ← mark ","
      need ":"
    else do
      let next ← readParameter fuel state
      if ← mark "," then readParameters fuel next
      else do
        need ":"
        if next.needsName then failure

/-- Read a parameter of an anonymous function. -/
def readParameter : Nat → ParameterState → Reading ParameterState
  | 0, _ => failure
  | fuel + 1, state => do
    if ← mark "*" then
      if state.place = .afterStar then failure
      let isBare := (← atMark ",") || (← atMark ":")
      if !isBare then
        let _ ← plainName
      return { state with place := .afterStar, hasSome := true, needsName := isBare }
    else if ← mark "/" then
      if state.place ≠ .beforeSlash || !state.hasSome then failure
      return { state with place := .afterSlash }
    else do
      let _ ← plainName
      let isGiven ← mark "="
      if isGiven then
        let _ ← readWhole fuel
      if state.hasDefault && !isGiven && state.place ≠ .afterStar then failure
      return { state with
        hasSome := true, hasDefault := state.hasDefault || isGiven, needsName := false }

/-- Read the arguments of a call, up to its closing parenthesis. -/
def readArguments : Nat → ArgumentState → Reading Unit
  | 0, _ => failure
  | fuel + 1, state => do
    if ← mark ")" then return
    let isSpread := (← atMark "*") || (← atMark "**")
    let next ← readArgument fuel state
    if ← mark "," then readArguments fuel next
    else do
      if !state.hasSome && !isSpread && !next.hasNamed && (← atClause) then readClauses fuel
      need ")"

/-- Read an argument of a call. -/
def readArgument : Nat → ArgumentState → Reading ArgumentState
  | 0, _ => failure
  | fuel + 1, state => do
    if ← mark "**" then
      let _ ← readWhole fuel
      return { state with hasSome := true, hasMapping := true, hasNamed := true }
    else if ← mark "*" then
      if state.hasMapping then failure
      let _ ← readWhole fuel
      return { state with hasSome := true }
    else if ← atNameBefore "=" then
      skip
      skip
      let _ ← readWhole fuel
      return { state with hasSome := true, hasNamed := true }
    else do
      if state.hasNamed then failure
      let _ ← readBound fuel
      return { state with hasSome := true }

/-- Read what follows the bracket that opens a subscript, up to its closing bracket. -/
def readSlices : Nat → Reading Unit
  | 0 => failure
  | fuel + 1 => do
    readSlice fuel
    if ← mark "," then
      if !(← mark "]") then readSlices fuel
    else need "]"

/-- Read an index, a range or a list to be spread. -/
def readSlice : Nat → Reading Unit
  | 0 => failure
  | fuel + 1 => do
    if ← mark "*" then
      let _ ← readWhole fuel
    else do
      let isBound ← atNameBefore ":="
      if !(← atMark ":") then
        let _ ← readBound fuel
      if !isBound then
        if ← mark ":" then
          readLimit fuel
          if ← mark ":" then readLimit fuel

/-- Read the limit of a range, which may be missing. -/
def readLimit : Nat → Reading Unit
  | 0 => failure
  | fuel + 1 => do
    if !((← atMark ":") || (← atMark ",") || (← atMark "]")) then
      let _ ← readWhole fuel

end

/-- Read what follows the first of several expressions that are separated by commas but in no
bracket. -/
def readBare : Nat → Reading (List Expression)
  | 0 => failure
  | fuel + 1 => do
    if (← get).isEmpty then return []
    let item ← readWhole fuel
    if (← get).isEmpty then return [item]
    need ","
    return item :: (← readBare fuel)

/-- The expression in a text, if there is no mistake in it. -/
def read (text : List Char) : Option Expression := do
  let found ← shallowTokens text
  let fuel := 24 * text.length + 48
  let reading : Reading Expression := do
    let first ← readWhole fuel
    if (← get).isEmpty then return first
    need ","
    return .tuple (first :: (← readBare fuel))
  (reading.run found).map (·.1)

end NegativeCompile.Literal.Expression

/-! ## Literals -/

namespace NegativeCompile.Literal

/-- The datum that a text stands for. A text with a mistake anywhere stands for none, whatever else
is wrong with it. -/
def read (text : List Char) : Except Problem Datum :=
  if text.contains '\x00' then .error .malformed
  else match Expression.read text with
    | some expression => expression.value
    | none => .error .malformed

end NegativeCompile.Literal
