/-! Selectors: conditions on an element and its place in the tree. -/

namespace PageFeed.Selector

inductive Combinator
  | descendant
  | child
  | nextSibling
  | laterSibling
deriving DecidableEq, Repr, Inhabited

inductive Comparison
  | equal
  | includes
  | dash
  | start
  | finish
  | part
deriving DecidableEq, Repr, Inhabited

namespace Comparison

def sign : Comparison → String
  | equal => "="
  | includes => "~="
  | dash => "|="
  | start => "^="
  | finish => "$="
  | part => "*="

def title : Comparison → String
  | equal => "Equal"
  | includes => "IncludeMatch"
  | dash => "DashMatch"
  | start => "PrefixMatch"
  | finish => "SuffixMatch"
  | part => "SubstringMatch"

end Comparison

inductive CaseRule
  | exact
  | ignored
  | ignoredInHtml
deriving DecidableEq, Repr, Inhabited

structure ValueTest where
  comparison : Comparison
  value : String
  caseRule : CaseRule
deriving DecidableEq, Repr, Inhabited

/-- A position among siblings, counted from one: some `step * n + offset` with `n` not negative. -/
structure Position where
  step : Int
  offset : Int
deriving DecidableEq, Repr, Inhabited

structure Counting where
  isOfType : Bool
  isFromEnd : Bool
deriving DecidableEq, Repr, Inhabited

mutual

/-- A condition on one element. The `anchor` is the element that a relative selector starts from. -/
inductive Simple
  | type (name : String)
  | universal
  | noVocabulary
  | id (name : String)
  | className (name : String)
  | attr (isAnySpace : Bool) (name : String) (test : Option ValueTest)
  | root
  | empty
  | scope
  | anchor
  | never
  | position (counting : Counting) (position : Position)
  | only (isOfType : Bool)
  | anyOf (choices : List Complex)
  | noneOf (choices : List Complex)
  | has (choices : List Complex)

inductive Complex
  | compound (parts : List Simple)
  | related (left : Complex) (combinator : Combinator) (parts : List Simple)

end

instance : Inhabited Simple := ⟨.never⟩

instance : Inhabited Complex := ⟨.compound []⟩

end PageFeed.Selector

namespace PageFeed

structure Selector where
  choices : List Selector.Complex
deriving Inhabited

end PageFeed
