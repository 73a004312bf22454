import PageFeed.Html.Tree
import PageFeed.Selector.Basic
import PageFeed.Text.Blank
import PageFeed.Text.Digits

/-! Which elements of a page satisfy a selector. -/

namespace PageFeed

namespace Html.Document

def parentElement? (document : Document) (id : NodeId) : Option NodeId :=
  (document.parent? id).filter document.isElement

def ancestorsTo (document : Document) : Nat → NodeId → List NodeId
  | 0, _ => []
  | depth + 1, id =>
    match document.parentElement? id with
    | some parent => parent :: document.ancestorsTo depth parent
    | none => []

def ancestors (document : Document) (id : NodeId) : List NodeId :=
  document.ancestorsTo document.nodes.size id

def childElements (document : Document) (id : NodeId) : List NodeId :=
  (document.children id).filter document.isElement

def familyOf (document : Document) (id : NodeId) : List NodeId :=
  match document.parent? id with
  | some parent => document.childElements parent
  | none => [id]

def siblingsBefore (document : Document) (id : NodeId) : List NodeId :=
  ((document.familyOf id).takeWhile (· != id)).reverse

def siblingsAfter (document : Document) (id : NodeId) : List NodeId :=
  ((document.familyOf id).dropWhile (· != id)).drop 1

def below (document : Document) (id : NodeId) : List NodeId := (document.tree id).ids.drop 1

/-- The nodes that a relative selector may reach from an element: those below it, its later
siblings, and those below these. -/
def reachable (document : Document) (id : NodeId) : List NodeId :=
  document.below id ++
    (document.siblingsAfter id).flatMap fun sibling => (document.tree sibling).ids

end Html.Document

namespace Selector

open Html (Document NodeId)
open Text (foldAscii)

/-- Where matching takes place. Without a scope, the root element is the scope. -/
structure View where
  document : Document
  scope : Option NodeId
  anchor : Option NodeId := none

def isInfix (part : List Char) : List Char → Bool
  | [] => part.isEmpty
  | c :: rest => part.isPrefixOf (c :: rest) || isInfix part rest

namespace ValueTest

/-- Whether a value passes a test, with both sides in the case that counts. Nothing starts with,
ends in, contains or lists an empty text. -/
def passes (comparison : Comparison) (wanted value : List Char) : Bool :=
  match comparison with
  | .equal => value == wanted
  | .start => !wanted.isEmpty && wanted.isPrefixOf value
  | .finish => !wanted.isEmpty && wanted.isSuffixOf value
  | .part => !wanted.isEmpty && isInfix wanted value
  | .includes => (Text.wordsBy Text.isAsciiBlank value).contains wanted
  | .dash => value == wanted || (wanted ++ ['-']).isPrefixOf value

def holds (test : ValueTest) (isHtml : Bool) (value : String) : Bool :=
  let ignoresCase := match test.caseRule with
    | .exact => false
    | .ignored => true
    | .ignoredInHtml => isHtml
  let fold (text : String) := if ignoresCase then text.toList.map foldAscii else text.toList
  passes test.comparison (fold test.value) (fold value)

end ValueTest

/-- Whether a place, counted from one, is at a position. Distances are kept within 32 bits. -/
def Position.includes (position : Position) (place : Nat) : Bool :=
  let distance : Int := place - position.offset
  if 2147483647 < distance then false
  else if position.step = 0 then distance = 0
  else distance.tdiv position.step ≥ 0 && position.step * distance.tdiv position.step = distance

namespace View

def isHtml (view : View) (id : NodeId) : Bool :=
  (view.document.elementName? id).any fun name => name.vocabulary == .html

def nameFor (view : View) (id : NodeId) (name : String) : String :=
  if view.isHtml id then name.toLower else name

def place (view : View) (counting : Counting) (id : NodeId) : Nat :=
  let others := if counting.isFromEnd then view.document.siblingsAfter id
    else view.document.siblingsBefore id
  let name := view.document.elementName? id
  let counted := if counting.isOfType then
      others.filter fun other => view.document.elementName? other == name
    else others
  counted.length + 1

def isRoot (view : View) (id : NodeId) : Bool :=
  (view.document.parent? id).any fun parent => view.document.data parent == .root

def isEmpty (view : View) (id : NodeId) : Bool :=
  (view.document.children id).all fun child =>
    !view.document.isElement child && !(view.document.data child).isText

def hasClass (view : View) (id : NodeId) (name : String) : Bool :=
  (view.document.attrs id).any fun attr =>
    attr.name.localName == "class" &&
      (Text.wordsBy Text.isAsciiBlank attr.value.toList).contains name.toList

def hasAttr (view : View) (id : NodeId) (isAnySpace : Bool) (name : String)
    (test : Option ValueTest) : Bool :=
  let isHtml := view.isHtml id
  let name := view.nameFor id name
  (view.document.attrs id).any fun attr =>
    (isAnySpace || attr.name.space == .plain) && attr.name.localName == name &&
      test.all fun test => test.holds isHtml attr.value

def leftOf (view : View) (combinator : Combinator) (id : NodeId) : List NodeId :=
  match combinator with
  | .child => (view.document.parentElement? id).toList
  | .descendant => view.document.ancestors id
  | .nextSibling => (view.document.siblingsBefore id).take 1
  | .laterSibling => view.document.siblingsBefore id

end View

/-- How an attempt to match a selector at an element ends. A failure tells which other elements are
still worth an attempt: its siblings as well, only those that it lies in, or none at all. -/
inductive Search
  | found
  | retryAtSibling
  | retryAtAncestor
  | hopeless
deriving DecidableEq, Repr

/-- Attempts to match at one element after the other, in the order in which a relation reaches them,
as long as that is worth it. Siblings lie in the same elements, so what is missing around one of
them is missing around all; and a farther element has fewer before it and around it than a nearer
one. -/
def Combinator.tryEach (combinator : Combinator) (search : NodeId → Search) :
    List NodeId → Search
  | [] =>
    match combinator with
    | .child => .hopeless
    | .descendant => .hopeless
    | .nextSibling => .retryAtAncestor
    | .laterSibling => .retryAtAncestor
  | id :: rest =>
    match combinator, search id with
    | _, .found => .found
    | _, .hopeless => .hopeless
    | .nextSibling, failure => failure
    | .child, _ => .retryAtAncestor
    | .laterSibling, .retryAtAncestor => .retryAtAncestor
    | .laterSibling, .retryAtSibling => combinator.tryEach search rest
    | .descendant, _ => combinator.tryEach search rest

mutual

def Simple.holds (view : View) (id : NodeId) : Simple → Bool
  | .type name => (view.document.elementName? id).any (·.localName == view.nameFor id name)
  | .universal => true
  | .noVocabulary => false
  | .id name =>
    (view.document.attrs id).find? (·.name.localName == "id") |>.any (·.value == name)
  | .className name => view.hasClass id name
  | .attr isAnySpace name test => view.hasAttr id isAnySpace name test
  | .root => view.isRoot id
  | .empty => view.isEmpty id
  | .scope =>
    match view.scope with
    | some scope => id == scope
    | none => view.isRoot id
  | .anchor => view.anchor == some id
  | .never => false
  | .position counting position => position.includes (view.place counting id)
  | .only isOfType => view.place ⟨isOfType, false⟩ id == 1 && view.place ⟨isOfType, true⟩ id == 1
  | .anyOf choices => someHold view id choices
  | .noneOf choices => !someHold view id choices
  | .has choices =>
    (view.document.reachable id).any fun other =>
      view.document.isElement other && someHold { view with anchor := some id } other choices

def allHold (view : View) (id : NodeId) : List Simple → Bool
  | [] => true
  | condition :: rest => condition.holds view id && allHold view id rest

def Complex.search (view : View) (id : NodeId) : Complex → Search
  | .compound parts => if allHold view id parts then .found else .retryAtSibling
  | .related left combinator parts =>
    if allHold view id parts then
      combinator.tryEach (fun other => left.search view other) (view.leftOf combinator id)
    else .retryAtSibling

def someHold (view : View) (id : NodeId) : List Complex → Bool
  | [] => false
  | choice :: rest => choice.search view id == .found || someHold view id rest

end

def holds (selector : PageFeed.Selector) (view : View) (id : NodeId) : Bool :=
  view.document.isElement id && someHold view id selector.choices

/-- The elements of a page that satisfy a selector, in the order in which they were created.
Elements that are in no tree are left out. -/
def select (selector : PageFeed.Selector) (document : Document) : List NodeId :=
  document.ids.filter fun id =>
    (document.parent? id).isSome && selector.holds ⟨document, none, none⟩ id

def selectBelow (selector : PageFeed.Selector) (document : Document) (scope : NodeId) :
    List NodeId :=
  (document.below scope).filter (selector.holds ⟨document, some scope, none⟩)

end Selector

end PageFeed
