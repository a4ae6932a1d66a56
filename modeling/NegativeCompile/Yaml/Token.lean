import NegativeCompile.Failure

/-! # Tokens of configuration files

The tokens that a configuration file in YAML is made of, and what can be wrong with such a file. -/

namespace NegativeCompile.Yaml

/-- What is wrong with a configuration file. -/
inductive Problem where
  /-- It breaks a rule of the notation. -/
  | malformed
  /-- A value in it cannot be made out. -/
  | failure (failure : Failure)
  deriving DecidableEq, Repr

/-- An instruction to the reader of a file. -/
inductive Directive where
  /-- The version of the notation. -/
  | version (major : Nat)
  /-- What a handle of tags stands for. -/
  | handle (name meaning : String)
  /-- Anything else. -/
  | reserved
  deriving DecidableEq, Repr

/-- A token. -/
inductive Token where
  /-- An instruction. -/
  | directive (directive : Directive)
  /-- The start of a document. -/
  | documentStart
  /-- The end of a document. -/
  | documentEnd
  /-- The end of the file. -/
  | streamEnd
  /-- The start of a list by indentation. -/
  | blockSequenceStart
  /-- The start of a mapping by indentation. -/
  | blockMappingStart
  /-- The end of a list or a mapping by indentation. -/
  | blockEnd
  /-- The start of a list in brackets. -/
  | flowSequenceStart
  /-- The end of a list in brackets. -/
  | flowSequenceEnd
  /-- The start of a mapping in braces. -/
  | flowMappingStart
  /-- The end of a mapping in braces. -/
  | flowMappingEnd
  /-- The start of an entry of a list by indentation. -/
  | blockEntry
  /-- The end of an entry in brackets or braces. -/
  | flowEntry
  /-- The start of a key. -/
  | key
  /-- The start of a value. -/
  | value
  /-- A reference to a node that has been marked before. -/
  | alias (name : String)
  /-- A mark for a node. -/
  | anchor (name : String)
  /-- A tag: a handle, if there is one, and the rest. -/
  | tag (handle : Option String) (suffix : String)
  /-- A scalar, plain or in some kind of quotes. -/
  | scalar (text : String) (isPlain : Bool)
  /-- The place where a problem was found. -/
  | broken (problem : Problem)
  deriving DecidableEq, Repr

end NegativeCompile.Yaml
