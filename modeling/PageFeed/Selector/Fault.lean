import PageFeed.Selector.Token

/-! What can be wrong with the text of a selector, and how it is reported. -/

namespace PageFeed.Selector

inductive Fault
  | unexpectedEnd
  | unexpected (token : Token)
  | unnamedPseudo (token : Token)
  | empty
  | dangling
  | misplaced
  | unsupportedPseudo (name : String)
  | unnamedAttr (token : Token)
  | unknownOperator (token : Token)
  | badValue (token : Token)
  | unnamedClass (token : Token)
  | unknownSpace (name : String)
  | expectedBar (token : Token)
  | unnamedInSpace (token : Token)
  | unnamedAttrInSpace (token : Token)
deriving DecidableEq, Repr, Inhabited

namespace Fault

def outline : Fault → Text.Outline
  | unexpectedEnd => .leaf "EndOfInput"
  | unexpected token => .applied "UnexpectedToken" token.outline
  | unnamedPseudo token => .applied "PseudoElementExpectedIdent" token.outline
  | empty => .leaf "EmptySelector"
  | dangling => .leaf "DanglingCombinator"
  | misplaced => .leaf "InvalidState"
  | unsupportedPseudo name => .applied "UnsupportedPseudoClassOrElement" (.text name)
  | unnamedAttr token => .applied "NoQualifiedNameInAttributeSelector" token.outline
  | unknownOperator token => .applied "UnexpectedTokenInAttributeSelector" token.outline
  | badValue token => .applied "BadValueInAttr" token.outline
  | unnamedClass token => .applied "ClassNeedsIdent" token.outline
  | unknownSpace name => .applied "ExpectedNamespace" (.text name)
  | expectedBar token => .applied "ExpectedBarInAttr" token.outline
  | unnamedInSpace token => .applied "ExplicitNamespaceUnexpectedToken" token.outline
  | unnamedAttrInSpace token => .applied "InvalidQualNameInAttr" token.outline

def message : Fault → String
  | unexpectedEnd => "Unexpected EOL"
  | unexpected token => "Token " ++ Text.Quoted.quote token.display ++ " was not expected"
  | unnamedPseudo token =>
    "Expected identity for pseudoelement, got " ++ Text.Quoted.quote token.display ++ " instead"
  | fault =>
    "Unexpected error occurred. Please report this to the developer\n" ++ fault.outline.lines ""

end Fault

end PageFeed.Selector
