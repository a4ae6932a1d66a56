/-! # Patterns

Regular expressions as trees. A tree does not depend on the options in force at its start: the
options are resolved while it is matched. -/

namespace NegativeCompile.Regex

/-- The options of a pattern. -/
structure Options where
  /-- Letters agree with their other case. -/
  ignoreCase : Bool := false
  /-- Line anchors also hold at inner line breaks. -/
  multiline : Bool := false
  /-- A dot also stands for a line break. -/
  dotAll : Bool := false
  /-- Blanks and comments in the pattern are skipped. -/
  verbose : Bool := false
  /-- Character classes hold ASCII characters only. -/
  ascii : Bool := false
  /-- Character classes hold characters of all scripts. -/
  unicode : Bool := false
  /-- Repetition is not allowed. -/
  template : Bool := false
  deriving DecidableEq, Repr, Inhabited

namespace Options

/-- The options that are in one of two sets. -/
def union (options others : Options) : Options where
  ignoreCase := options.ignoreCase || others.ignoreCase
  multiline := options.multiline || others.multiline
  dotAll := options.dotAll || others.dotAll
  verbose := options.verbose || others.verbose
  ascii := options.ascii || others.ascii
  unicode := options.unicode || others.unicode
  template := options.template || others.template

/-- The options that are in both of two sets. -/
def inter (options others : Options) : Options where
  ignoreCase := options.ignoreCase && others.ignoreCase
  multiline := options.multiline && others.multiline
  dotAll := options.dotAll && others.dotAll
  verbose := options.verbose && others.verbose
  ascii := options.ascii && others.ascii
  unicode := options.unicode && others.unicode
  template := options.template && others.template

/-- The options of one set that are not in another. -/
def without (options others : Options) : Options where
  ignoreCase := options.ignoreCase && !others.ignoreCase
  multiline := options.multiline && !others.multiline
  dotAll := options.dotAll && !others.dotAll
  verbose := options.verbose && !others.verbose
  ascii := options.ascii && !others.ascii
  unicode := options.unicode && !others.unicode
  template := options.template && !others.template

end Options

/-- How a group changes the options for what it holds. -/
structure OptionChange where
  /-- The options turned on. -/
  turnedOn : Options
  /-- The options turned off. -/
  turnedOff : Options
  deriving DecidableEq, Repr, Inhabited

/-- The options inside a group: turning on one kind of character classes turns off the other. -/
def OptionChange.apply (change : OptionChange) (options : Options) : Options :=
  let base :=
    if change.turnedOn.ascii || change.turnedOn.unicode then
      { options with ascii := false, unicode := false }
    else options
  (base.union change.turnedOn).without change.turnedOff

/-- A class of characters. -/
inductive Category where
  /-- Decimal digits. -/
  | digit
  /-- Blanks. -/
  | space
  /-- Letters, digits, other numerals and the underscore. -/
  | word
  deriving DecidableEq, Repr

/-- A member of a set of characters. -/
inductive SetItem where
  /-- One character. -/
  | char (code : Nat)
  /-- All characters between two. -/
  | range (first last : Nat)
  /-- A class of characters or everything outside it. -/
  | category (kind : Category) (negated : Bool)
  deriving DecidableEq, Repr

/-- A place in the text. -/
inductive Anchor where
  /-- The start of the text, or of a line if lines count. -/
  | lineStart
  /-- The end of the text or before its last line break, or the end of a line if lines count. -/
  | lineEnd
  /-- The start of the text. -/
  | textStart
  /-- The end of the text. -/
  | textEnd
  /-- Between a word character and another one. -/
  | wordBoundary
  /-- Not between a word character and another one. -/
  | noWordBoundary
  deriving DecidableEq, Repr

/-- How a repetition chooses its count. -/
inductive Greed where
  /-- As often as possible. -/
  | greedy
  /-- As seldom as possible. -/
  | lazy
  /-- As often as possible and never less. -/
  | possessive
  deriving DecidableEq, Repr

/-- The least and the greatest length of what an expression matches, as far as they are counted. -/
structure Width where
  /-- The least length. -/
  least : Nat
  /-- The greatest length. -/
  most : Nat
  deriving DecidableEq, Repr, Inhabited

namespace Width

/-- What lengths are counted to; the greatest length stands for any greater one, too. -/
def limit : Nat := 4294967295

/-- A width as far as it is counted. -/
def counted (least most : Nat) : Width := ⟨min least (limit - 1), min most limit⟩

/-- The width of the empty text. -/
def zero : Width := ⟨0, 0⟩

/-- The width of one character. -/
def one : Width := ⟨1, 1⟩

/-- The width of two expressions one after the other. -/
def add (width other : Width) : Width :=
  counted (width.least + other.least) (width.most + other.most)

/-- The width of one of two expressions. -/
def join (width other : Width) : Width :=
  ⟨min width.least other.least, max width.most other.most⟩

/-- The width of a repetition. -/
def times (width : Width) (least : Nat) (most : Option Nat) : Width :=
  counted (width.least * least) (width.most * most.getD limit)

end Width

/-- A regular expression. A sequence of items is `seq item rest` or, at its end, `empty`; a choice
among sequences is `alt first rest`, the last one taking the place of the rest. -/
inductive Node where
  /-- The empty text. -/
  | empty
  /-- Nothing at all. -/
  | never
  /-- One character, or any other one. -/
  | char (code : Nat) (negated : Bool)
  /-- Any character. -/
  | any
  /-- A character of a set, or any outside it. -/
  | set (negated : Bool) (items : List SetItem)
  /-- A place in the text. -/
  | anchor (kind : Anchor)
  /-- Two expressions one after the other. -/
  | seq (first second : Node)
  /-- One of two expressions, the first one preferred. -/
  | alt (first second : Node)
  /-- An expression repeated. -/
  | iter (greed : Greed) (least : Nat) (most : Option Nat) (body : Node)
  /-- A numbered group. -/
  | capture (index : Nat) (body : Node)
  /-- A group with its own options. -/
  | scoped (change : OptionChange) (body : Node)
  /-- A group that keeps its first match. -/
  | atomic (body : Node)
  /-- A condition on what follows. -/
  | ahead (negated : Bool) (body : Node)
  /-- A condition on what precedes. -/
  | behind (negated : Bool) (width : Width) (body : Node)
  /-- The text of a numbered group once more. -/
  | backreference (index : Nat)
  /-- One of two expressions, depending on whether a numbered group took part. -/
  | conditional (index : Nat) (present missing : Node)
  deriving DecidableEq, Repr, Inhabited

namespace Node

/-- The expression that items in sequence make up. -/
def ofItems (items : List Node) : Node := items.foldr seq empty

/-- The expression for one of several sequences. -/
def ofAlternatives : List (List Node) → Node
  | [] => empty
  | [items] => ofItems items
  | items :: others => alt (ofItems items) (ofAlternatives others)

/-- Whether an item is the same as any other that looks the same; groups and repetitions are not. -/
def isPlain : Node → Bool
  | never => true
  | char _ _ => true
  | any => true
  | set _ _ => true
  | anchor _ => true
  | backreference _ => true
  | _ => false

/-- Split several sequences into the items that all of them start with and what is left of each. -/
def splitCommon : List Node → List (List Node) → List Node × List Node × List (List Node)
  | [], others => ([], [], others)
  | item :: rest, others =>
    if item.isPlain && others.all (·.head? = some item) then
      let (common, left, others) := splitCommon rest (others.map (·.drop 1))
      (item :: common, left, others)
    else ([], item :: rest, others)

/-- The characters that a sequence stands for if it is one character or one of a set. -/
def members? : List Node → Option (List SetItem)
  | [char code false] => some [.char code]
  | [set false items] => some items
  | _ => none

/-- The items that stand for one of several sequences: what they start with in common is taken out,
and single characters make up a set. -/
def choice : List (List Node) → List Node
  | [] => []
  | [items] => items
  | first :: others =>
    let (common, left, others) := splitCommon first others
    let sequences := left :: others
    match sequences.mapM members? with
    | some members => common ++ [set false members.flatten.eraseDups]
    | none => common ++ [ofAlternatives sequences]

end Node

/-- A pattern: its expression with its width, the options it turns on for itself and the number of
its groups. -/
structure Pattern where
  /-- The expression. -/
  body : Node
  /-- The width of what it matches. -/
  width : Width
  /-- The options that hold for the whole pattern. -/
  options : Options
  /-- The number of groups. -/
  groups : Nat
  deriving Repr, Inhabited

end NegativeCompile.Regex
