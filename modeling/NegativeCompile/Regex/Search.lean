import NegativeCompile.Regex.CharClass
import NegativeCompile.Regex.Reader

/-! # Searching

Whether a pattern matches somewhere in a text. An expression is matched from a place of the text on
and hands every way in which it matches, in order of preference, to what follows it. What was noted
on the way outlasts a failure unless it is put back, and it is put back only where an expression
says so: therefore each attempt hands back what is noted, whether it fails or not. -/

namespace NegativeCompile.Regex

/-! ## Places and groups -/

/-- What is noted in the course of a match: a place of the text, and the marks at which groups start
and end. The marks of the group of a number are the two at twice that number, counted from zero. -/
structure Progress where
  /-- The place that was noted last. -/
  noted : Nat
  /-- The marks. -/
  marks : Array (Option Nat)
  deriving Repr

/-- Whether an attempt succeeds, and what is noted after it. -/
abbrev Outcome := Bool × Progress

/-- What follows in a match, from a place on. -/
abbrev Continuation := Nat → Progress → Outcome

namespace Progress

/-- Note a place. -/
def note (progress : Progress) (place : Nat) : Progress := { progress with noted := place }

/-- Set a mark; the marks before it that were never set are there, too. -/
def mark (progress : Progress) (index place : Nat) : Progress :=
  let marks := progress.marks
  if index < marks.size then { progress with marks := marks.setIfInBounds index (some place) }
  else
    let gap := Array.replicate (index - marks.size) none
    { progress with marks := (marks ++ gap).push (some place) }

/-- Take back the marks that were set since there were some others; where `isFull` is not set, marks
that have changed are kept as they are. -/
def restored (progress : Progress) (isFull : Bool) (kept : Array (Option Nat)) : Progress :=
  { progress with marks := if isFull then kept else progress.marks.extract 0 kept.size }

/-- The first mark of a group. -/
def startMark (group : Nat) : Nat := 2 * (group - 1)

/-- Where a group lies that has started and ended in this order. -/
def group? (progress : Progress) (group : Nat) : Option (Nat × Nat) := do
  let last ← (← progress.marks[startMark group + 1]?)
  let first ← (← progress.marks[startMark group]?)
  if first ≤ last then return (first, last) else failure

/-- Whether a group ends before it starts. -/
def isCrossed (progress : Progress) (group : Nat) : Bool :=
  match progress.marks[startMark group]?, progress.marks[startMark group + 1]? with
  | some (some first), some (some last) => last < first
  | _, _ => false

end Progress

/-- End an attempt with success. -/
def succeed (place : Nat) (progress : Progress) : Outcome := (true, progress.note place)

/-- What an outcome is if a failure takes marks back. -/
def Outcome.restoring (outcome : Outcome) (isFull : Bool) (kept : Array (Option Nat)) : Outcome :=
  if outcome.1 then outcome else (false, outcome.2.restored isFull kept)

/-- What an outcome is if a failure notes a place. -/
def Outcome.noting (outcome : Outcome) (place : Nat) : Outcome :=
  if outcome.1 then outcome else (false, outcome.2.note place)

/-! ## Anchors -/

/-- Whether a word character stands at a place. -/
def isWordAt (text : Array Char) (ascii : Bool) (position : Nat) : Bool :=
  (text[position]?).any (Category.word.contains ascii)

/-- Whether a word character stands just before a place. -/
def isWordBefore (text : Array Char) (ascii : Bool) (position : Nat) : Bool :=
  match position with
  | 0 => false
  | previous + 1 => isWordAt text ascii previous

/-- Whether an anchor holds at a place. -/
def Anchor.holds (text : Array Char) (options : Options) (position : Nat) (kind : Anchor) : Bool :=
  match kind with
  | .textStart => position = 0
  | .textEnd => position = text.size
  | .lineStart =>
    position = 0 || (options.multiline && text[position - 1]? == some '\n')
  | .lineEnd =>
    position = text.size ||
      (text[position]? == some '\n' && (options.multiline || position + 1 = text.size))
  | .wordBoundary =>
    text.size ≠ 0 &&
      isWordBefore text options.ascii position != isWordAt text options.ascii position
  | .noWordBoundary =>
    text.size ≠ 0 &&
      isWordBefore text options.ascii position == isWordAt text options.ascii position

/-! ## Single characters -/

/-- How many characters from a place on pass a test, at most `limit`. -/
def runLength (text : Array Char) (test : Char → Bool) (place : Nat) : Nat → Nat
  | 0 => 0
  | limit + 1 =>
    match text[place]? with
    | some c => if test c then runLength text test (place + 1) limit + 1 else 0
    | none => 0

/-- Where an expression stands. -/
structure Scene where
  /-- The options in force. -/
  options : Options
  /-- Whether it lies in something that is repeated and can be repeated less often. -/
  isRepeated : Bool
  /-- The character that must follow, if one is known. -/
  follower : Option Nat

/-- Whether the character that must follow does not stand at a place. -/
def Scene.refutes (scene : Scene) (text : Array Char) (place : Nat) : Bool :=
  match scene.follower with
  | some code => !(text[place]?).any (·.toNat == code)
  | none => false

/-- Go on after the greatest number of characters between two numbers, the place after the least
number being given. -/
def fromMost (text : Array Char) (scene : Scene) (kept : Array (Option Nat)) (next : Continuation)
    (place : Nat) (progress : Progress) : Nat → Outcome
  | 0 =>
    if scene.refutes text place then (false, progress)
    else Outcome.restoring (next place (progress.note place)) scene.isRepeated kept
  | extra + 1 =>
    let here := place + extra + 1
    if scene.refutes text here then fromMost text scene kept next place progress extra
    else
      let tried := Outcome.restoring (next here (progress.note here)) scene.isRepeated kept
      if tried.1 then tried else fromMost text scene kept next place tried.2 extra

/-- Go on after the least number of characters, then with ever more up to `extra` more. -/
def fromLeast (text : Array Char) (scene : Scene) (single : Single) (kept : Array (Option Nat))
    (next : Continuation) (place : Nat) (progress : Progress) : Nat → Outcome
  | 0 =>
    let tried := Outcome.restoring (next place (progress.note place)) scene.isRepeated kept
    if tried.1 then tried
    else
      let count := runLength text single.test place 1
      (false, tried.2.note (if single.notes then place + count else place))
  | extra + 1 =>
    let tried := Outcome.restoring (next place (progress.note place)) scene.isRepeated kept
    if tried.1 then tried
    else if runLength text single.test place 1 = 0 then (false, tried.2.note place)
    else
      let after := tried.2.note (if single.notes then place + 1 else place)
      fromLeast text scene single kept next (place + 1) after extra

/-- Match a run of characters that pass a test. -/
def matchRun (text : Array Char) (scene : Scene) (single : Single) (greed : Greed) (least : Nat)
    (most : Option Nat) (place : Nat) (progress : Progress) (next : Continuation) : Outcome :=
  let left := text.size - place
  if left < least then (false, progress)
  else
    let limit := match greed, most with
      | .lazy, _ => least
      | _, some count => min count left
      | _, none => left
    let count := runLength text single.test place limit
    let here := progress.note (if single.notes then place + count else place)
    if count < least then (false, here)
    else
      match greed with
      | .greedy => fromMost text scene here.marks next (place + least) here (count - least)
      | .lazy =>
        let extra := match most with
          | some count => count - least
          | none => left - least
        fromLeast text scene single here.marks next (place + least) here extra
      | .possessive => next (place + count) here

/-! ## Repetition -/

/-- Whether a count is below the greatest one. -/
def mayRepeat (count : Nat) (most : Option Nat) : Bool := most.all (count < ·)

/-- Match an expression as often as possible, after `count` times, the last of the optional ones of
which started at `last`. It must not start there again. `fuel` bounds the number of times. -/
def greedily (body : Nat → Progress → Continuation → Outcome) (least : Nat) (most : Option Nat) :
    Nat → Nat → Option Nat → Nat → Progress → Continuation → Outcome
  | 0, _, _, _, progress, _ => (false, progress)
  | fuel + 1, count, last, place, progress, next =>
    let here := progress.note place
    if count < least then
      let tried := body place here fun after progress =>
        greedily body least most fuel (count + 1) last after progress next
      Outcome.noting tried place
    else
      let more : Outcome :=
        if mayRepeat count most && last != some place then
          let tried := body place here fun after progress =>
            greedily body least most fuel (count + 1) (some place) after progress next
          Outcome.noting (Outcome.restoring tried true here.marks) place
        else (false, here)
      if more.1 then more else Outcome.noting (next place more.2) place

/-- Match an expression as seldom as possible, after `count` times, the last of the optional ones of
which started at `last`. -/
def lazily (isRepeated : Bool) (body : Nat → Progress → Continuation → Outcome) (least : Nat)
    (most : Option Nat) : Nat → Nat → Option Nat → Nat → Progress → Continuation → Outcome
  | 0, _, _, _, progress, _ => (false, progress)
  | fuel + 1, count, last, place, progress, next =>
    let here := progress.note place
    if count < least then
      let tried := body place here fun after progress =>
        lazily isRepeated body least most fuel (count + 1) last after progress next
      Outcome.noting tried place
    else
      let done := Outcome.restoring (next place here) isRepeated here.marks
      if done.1 then done
      else
        let back := done.2.note place
        if mayRepeat count most && last != some place then
          let tried := body place back fun after progress =>
            lazily isRepeated body least most fuel (count + 1) (some place) after progress next
          Outcome.noting tried place
        else (false, back)

/-- Match an expression a fixed number of times, each time in its preferred way. -/
def exactlyFirst (body : Nat → Progress → Continuation → Outcome) : Nat → Progress → Outcome
  | 0, progress => (true, progress)
  | count + 1, progress =>
    let tried := body progress.noted progress succeed
    if tried.1 then exactlyFirst body count tried.2 else tried

/-- Match an expression as often as possible, each time in its preferred way. What the last attempt
has noted stands, only the marks are taken back. -/
def greedilyFirst (body : Nat → Progress → Continuation → Outcome) (most : Option Nat) :
    Nat → Nat → Option Nat → Progress → Progress
  | 0, _, _, progress => progress
  | fuel + 1, count, last, progress =>
    if mayRepeat count most && last != some progress.noted then
      let tried := body progress.noted progress succeed
      if tried.1 then
        greedilyFirst body most fuel (count + 1) (some progress.noted) tried.2
      else tried.2.restored true progress.marks
    else progress

/-- Match an expression repeatedly. -/
def matchIter (text : Array Char) (isRepeated : Bool)
    (body : Nat → Progress → Continuation → Outcome) (greed : Greed) (least : Nat)
    (most : Option Nat) (place : Nat) (progress : Progress) (next : Continuation) : Outcome :=
  let here := progress.note place
  let fuel := least + (text.size + 2) * (text.size + 2)
  match greed with
  | .greedy => greedily body least most fuel 0 none place here next
  | .lazy => lazily isRepeated body least most fuel 0 none place here next
  | .possessive =>
    let tried := exactlyFirst body least here
    if tried.1 then
      let after := greedilyFirst body most fuel least none tried.2
      next after.noted after
    else (false, tried.2.note place)

/-! ## Expressions -/

/-- Whether two characters agree. -/
def charsAgree (options : Options) (c d : Char) : Bool :=
  if options.ignoreCase then lowerIn options.ascii c.toNat == lowerIn options.ascii d.toNat
  else c == d

/-- Whether the text from one place on agrees with the text from another, for a length. -/
def agrees (text : Array Char) (options : Options) (first second : Nat) : Nat → Bool
  | 0 => true
  | length + 1 =>
    match text[first]?, text[second]? with
    | some c, some d =>
      charsAgree options c d && agrees text options (first + 1) (second + 1) length
    | _, _ => false

/-- The scene of an expression that another one follows. -/
def Scene.before (scene : Scene) (after : Node) : Scene :=
  match after.opener? scene.options with
  | none => scene
  | some (.character code) => { scene with follower := some code }
  | some _ => { scene with follower := none }

/-- The scene of an expression that is tried by itself. -/
def Scene.alone (scene : Scene) : Scene := { scene with follower := none }

/-- Whether it is plain from its first character that an expression does not match at a place. -/
def Node.isRefuted (text : Array Char) (options : Options) (place : Nat) (node : Node) : Bool :=
  (node.opener? options).any (·.isRefuted text place)

/-- Whether an expression is a choice. -/
def Node.isChoice : Node → Bool
  | .alt _ _ => true
  | _ => false

/-- Match an expression from a place on. -/
def Node.run (text : Array Char) :
    Node → Scene → Nat → Progress → Continuation → Outcome
  | .empty, _, place, progress, next => next place progress
  | .never, _, _, progress, _ => (false, progress)
  | .char code negated, scene, place, progress, next =>
    if (text[place]?).any (charHolds scene.options code · != negated) then next (place + 1) progress
    else (false, progress)
  | .any, scene, place, progress, next =>
    if (text[place]?).any (scene.options.dotAll || · != '\n') then next (place + 1) progress
    else (false, progress)
  | .set negated items, scene, place, progress, next =>
    if (text[place]?).any (setHolds scene.options negated items) then next (place + 1) progress
    else (false, progress)
  | .anchor kind, scene, place, progress, next =>
    if kind.holds text scene.options place then next place progress else (false, progress)
  | .seq first second, scene, place, progress, next =>
    first.run text (scene.before second) place progress fun place progress =>
      second.run text scene place progress next
  | .alt first second, scene, place, progress, next =>
    let kept := progress.marks
    let attempt (node : Node)
        (run : Scene → Nat → Progress → Continuation → Outcome) (progress : Progress) : Outcome :=
      if node.isRefuted text scene.options place then (false, progress)
      else
        Outcome.restoring (run scene.alone place (progress.note place) next) scene.isRepeated kept
    let tried := attempt first (first.run text) progress
    if tried.1 then tried
    else if second.isChoice then second.run text scene place tried.2 next
    else attempt second (second.run text) tried.2
  | .iter greed least most body, scene, place, progress, next =>
    match body.single? scene.options with
    | some single => matchRun text scene single greed least most place progress next
    | none =>
      let isRepeated := scene.isRepeated || greed != .possessive
      let inner := { scene.alone with isRepeated }
      matchIter text scene.isRepeated (body.run text inner) greed least most place progress next
  | .capture index body, scene, place, progress, next =>
    let mark := Progress.startMark index
    body.run text scene.alone place (progress.mark mark place) fun place progress =>
      next place (progress.mark (mark + 1) place)
  | .scoped change body, scene, place, progress, next =>
    body.run text { scene with options := change.apply scene.options } place progress next
  | .atomic body, scene, place, progress, next =>
    let tried := body.run text scene.alone place (progress.note place) succeed
    if tried.1 then next tried.2.noted tried.2 else (false, tried.2.note place)
  | .ahead negated body, scene, place, progress, next =>
    let tried := body.run text scene.alone place (progress.note place) succeed
    if negated then
      if tried.1 then (false, tried.2)
      else next place (tried.2.restored scene.isRepeated progress.marks)
    else if tried.1 then next place tried.2
    else tried
  | .behind negated width body, scene, place, progress, next =>
    if place < width.least then if negated then next place progress else (false, progress)
    else
      let start := place - width.least
      let tried := body.run text scene.alone start (progress.note start) succeed
      if negated then
        if tried.1 then (false, tried.2)
        else next place (tried.2.restored scene.isRepeated progress.marks)
      else if tried.1 then next place tried.2
      else tried
  | .backreference index, scene, place, progress, next =>
    match progress.group? index with
    | none => (false, progress)
    | some (first, last) =>
      if agrees text scene.options place first (last - first) then
        next (place + (last - first)) progress
      else (false, progress)
  | .conditional index present missing, scene, place, progress, next =>
    let inner := if missing = .empty then scene else scene.alone
    match progress.group? index with
    | some _ => present.run text inner place progress next
    | none => missing.run text scene place progress next

/-! ## Patterns -/

/-- What a search finds. -/
inductive Finding where
  /-- No match. -/
  | absent
  /-- A match. -/
  | present
  /-- A match in which a group ends before it starts. -/
  | crossed
  deriving DecidableEq, Repr

/-- What an expression matches first at one of `count` places of a text from a place on. -/
def firstMatch (text : Array Char) (options : Options) (body : Node) (place : Nat) :
    Nat → Option Progress
  | 0 => none
  | count + 1 =>
    let tried := body.run text ⟨options, false, none⟩ place ⟨place, #[]⟩ succeed
    if tried.1 then some tried.2 else firstMatch text options body (place + 1) count

namespace Pattern

/-- The number of places of a text at which a search tries a pattern: there must be enough of the
text left for the least that it matches, one place more being allowed unless it is known what the
pattern starts with. -/
def placesIn (pattern : Pattern) (options : Options) (size : Nat) : Nat :=
  let least := pattern.width.least
  if size < least then 0
  else if pattern.body.hasKnownStart options then size + 1
  else size + 1 - (least - 1)

/-- What a search for a pattern in a text finds; line anchors hold at inner line breaks. -/
def findIn (pattern : Pattern) (text : List Char) : Finding :=
  let chars := text.toArray
  let options := { pattern.options with multiline := true }
  match firstMatch chars options pattern.body 0 (pattern.placesIn options chars.size) with
  | none => .absent
  | some progress =>
    if (List.range pattern.groups).any fun index => progress.isCrossed (index + 1) then .crossed
    else .present

end Pattern

end NegativeCompile.Regex
