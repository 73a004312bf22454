import PageFeed.Html.Construction.Step
import PageFeed.Html.Token.Lexer
import PageFeed.Html.Tree

/-! Pages read from their markup. The kind of text that the next tokens are read as depends on the
tree under construction, so tokens are read and treated in turn. -/

namespace PageFeed.Html

def dropMark : List Char → List Char
  | '\ufeff' :: rest => rest
  | text => text

def unifyLines : List Char → List Char
  | [] => []
  | '\r' :: '\n' :: rest => '\n' :: unifyLines rest
  | '\r' :: rest => '\n' :: unifyLines rest
  | c :: rest => c :: unifyLines rest

/-- What the next token of a page depends on: the tree so far, the kind of the text that follows,
and the name of the last start tag. -/
structure Progress where
  builder : Builder
  kind : TextKind := .markup
  element : String := ""
deriving Inhabited

namespace Progress

def take (progress : Progress) (token : Token) : Progress :=
  let (kind, builder) := (Build.take token).run progress.builder
  match token with
  | .startTag tag => ⟨builder, kind, tag.name⟩
  | .endTag _ => { progress with builder, kind := .markup }
  | _ => { progress with builder }

def isForeign (progress : Progress) : Bool :=
  progress.builder.currentHas fun name => name.vocabulary != .html

def closesScript (progress : Progress) : List Token → Bool
  | [.endTag tag] => progress.builder.mode == .inText && tag.name == "script"
  | _ => false

/-- Takes in the tokens of a text one after the other. Behind a script the text starts anew, so that
a byte order mark there is left out. Every round takes at least one character. -/
def takeAll : (rounds : Nat) → Progress → List Char → Progress
  | 0, progress, _ => progress
  | _ + 1, progress, [] => progress
  | rounds + 1, progress, text =>
    let (tokens, rest) := Token.next progress.kind progress.element progress.isForeign text
    let rest := if progress.closesScript tokens then dropMark rest else rest
    takeAll rounds (tokens.foldl take progress) rest

def takePage (progress : Progress) (text : List Char) : Builder :=
  ((takeAll text.length progress text).take .finish).builder

end Progress

def prepare (source : String) : List Char := unifyLines (dropMark source.toList)

def parse (source : String) : Document :=
  (Progress.takePage { builder := {} } (prepare source)).document

/-- The tree of a piece of markup as it would stand in the body of a page. -/
def parseFragment (source : String) : Document :=
  let (_, document) := Document.blank.createElement (.html "body") []
  let builder : Builder := { document, isFragment := true, mode := .inBody }
  (Progress.takePage { builder := builder.openRoot [] } (prepare source)).document

def textOfFragment (source : String) : String :=
  let document := parseFragment source
  match (document.children Document.rootId).find? document.isElement with
  | some id => String.ofList (document.tree id).text
  | none => ""

end PageFeed.Html
