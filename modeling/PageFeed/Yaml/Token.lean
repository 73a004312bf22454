import PageFeed.Yaml.Cursor

/-! The tokens of YAML. Nesting by indentation shows as tokens that open and close blocks. -/

namespace PageFeed.Yaml

inductive ScalarStyle
  | plain
  | singleQuoted
  | doubleQuoted
  | literal
  | folded
deriving DecidableEq, Repr, Inhabited

/-- The bytes of a tag or of a part of one. They need not be text, since they may be written as
numbers. -/
abbrev TagBytes := List UInt8

def TagBytes.ofText (text : String) : TagBytes := text.toUTF8.data.toList

inductive TokenKind
  | version (major minor : Nat)
  | tagHandle (handle : String) (lead : TagBytes)
  | documentStart
  | documentEnd
  | finish
  | blockSequence
  | blockMapping
  | blockEnd
  | flowSequence
  | flowSequenceEnd
  | flowMapping
  | flowMappingEnd
  | blockEntry
  | flowEntry
  | key
  | value
  | alias (name : String)
  | anchor (name : String)
  | tag (handle : String) (rest : TagBytes)
  | scalar (style : ScalarStyle) (text : String)
deriving DecidableEq, Repr, Inhabited

structure Token where
  kind : TokenKind
  start : Spot
  stop : Spot
deriving DecidableEq, Repr, Inhabited

end PageFeed.Yaml
