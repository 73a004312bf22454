import PageFeed.Html.Construction.Table
import PageFeed.Html.Reference

/-! Tokens in every mode of a construction, tokens in foreign elements, and the treatment of one
token until nothing is left to do about it. -/

namespace PageFeed.Html.Build

def initial (token : Token) : Build Outcome := do
  let otherwise := retry .beforeHtml token fun b => { b with isQuirky := true }
  match token with
  | .text content => if isBlankText content then ignore else otherwise
  | .comment text => change (·.addCommentTo Document.rootId text)
  | _ => otherwise

def beforeHtml (token : Token) : Build Outcome := do
  let otherwise := retry .beforeHead token (·.openRoot [])
  match token with
  | .text content => if isBlankText content then ignore else otherwise
  | .comment text => change (·.addCommentTo Document.rootId text)
  | .startTag tag =>
    if tag.name = "html" then enter .beforeHead (·.openRoot tag.attrs) else otherwise
  | .endTag tag =>
    if ["head", "body", "html", "br"].contains tag.name then otherwise else ignore
  | _ => otherwise

def openHead (attrs : List Attr) (b : Builder) : Builder :=
  let (id, b) := b.openElement (.html "head") attrs
  { b with head := some id }

def beforeHead (token : Token) : Build Outcome := do
  let otherwise := retry .inHead token (openHead [])
  match token with
  | .text content => if isBlankText content then ignore else otherwise
  | .comment text => change (·.addComment text)
  | .startTag tag =>
    match tag.name with
    | "html" => mergeRoot tag
    | "head" => enter .inHead (openHead tag.attrs)
    | _ => otherwise
  | .endTag tag =>
    if ["head", "body", "html", "br"].contains tag.name then otherwise else ignore
  | _ => otherwise

/-- Treats content of the head that comes after it: the head is opened again for it. -/
def reopenHead (token : Token) : Build Outcome := do
  match (← get).head with
  | none => ignore
  | some head =>
    modify (·.push head)
    let outcome ← inHead token
    modify (·.close head)
    return outcome

def afterHead (token : Token) : Build Outcome := do
  let otherwise := retry .inBody token (·.openMissing "body")
  match token with
  | .text content => if isBlankText content then change (·.addText content) else otherwise
  | .comment text => change (·.addComment text)
  | .startTag tag =>
    if headNames.contains tag.name then reopenHead token
    else
      match tag.name with
      | "html" => mergeRoot tag
      | "body" => enter .inBody fun b => forbidFrameset (b.openTag tag)
      | "frameset" => enter .inFrameset (·.openTag tag)
      | "head" => ignore
      | _ => otherwise
  | .endTag tag =>
    match tag.name with
    | "template" => inHead token
    | "body" | "html" | "br" => otherwise
    | _ => ignore
  | _ => otherwise

def inText (token : Token) : Build Outcome := do
  match token with
  | .text content => change (·.addText content)
  | .finish =>
    modify Builder.pop
    return .again (← get).returnMode token
  | .endTag _ => change fun b => { b.pop with mode := b.returnMode }
  | _ => ignore

def afterBody (token : Token) : Build Outcome := do
  match token with
  | .text content => if isBlankText content then inBody token else return .again .inBody token
  | .comment text =>
    change fun b => b.addCommentTo (b.outermost?.getD Document.rootId) text
  | .startTag tag => if tag.name = "html" then mergeRoot tag else return .again .inBody token
  | .endTag tag =>
    if tag.name = "html" then
      change fun b => if b.isFragment then b else { b with mode := .afterAfterBody }
    else return .again .inBody token
  | .finish => ignore
  | _ => return .again .inBody token

def afterFrameset (token : Token) : Build Outcome := do
  match token with
  | .text content => if isBlankText content then change (·.addText content) else ignore
  | .comment text => change (·.addComment text)
  | .startTag tag =>
    match tag.name with
    | "html" => mergeRoot tag
    | "noframes" => inHead token
    | _ => ignore
  | .endTag tag => if tag.name = "html" then enter .afterAfterFrameset id else ignore
  | _ => ignore

def afterAfterBody (token : Token) : Build Outcome := do
  match token with
  | .text content => if isBlankText content then inBody token else return .again .inBody token
  | .comment text => change (·.addCommentTo Document.rootId text)
  | .startTag tag => if tag.name = "html" then mergeRoot tag else return .again .inBody token
  | .finish => ignore
  | _ => return .again .inBody token

def afterAfterFrameset (token : Token) : Build Outcome := do
  match token with
  | .text content => if isBlankText content then inBody token else ignore
  | .comment text => change (·.addCommentTo Document.rootId text)
  | .startTag tag =>
    match tag.name with
    | "html" => mergeRoot tag
    | "noframes" => inHead token
    | _ => ignore
  | _ => ignore

def inMode (mode : Mode) (token : Token) : Build Outcome :=
  match mode with
  | .initial => initial token
  | .beforeHtml => beforeHtml token
  | .beforeHead => beforeHead token
  | .inHead => inHead token
  | .afterHead => afterHead token
  | .inBody => inBody token
  | .inText => inText token
  | .inTable => inTable token
  | .inTableText => inTableText token
  | .inCaption => inCaption token
  | .inColumnGroup => inColumnGroup token
  | .inTableBody => inTableBody token
  | .inRow => inRow token
  | .inCell => inCell token
  | .inSelect => inSelect token
  | .inSelectInTable => inSelectInTable token
  | .inTemplate => inTemplate token
  | .afterBody => afterBody token
  | .inFrameset => inFrameset token
  | .afterFrameset => afterFrameset token
  | .afterAfterBody => afterAfterBody token
  | .afterAfterFrameset => afterAfterFrameset token

def breaksOut (tag : Tag) : Bool :=
  [ "b", "big", "blockquote", "body", "br", "center", "code", "dd", "div", "dl", "dt", "em",
    "embed", "h1", "h2", "h3", "h4", "h5", "h6", "head", "hr", "i", "img", "li", "listing", "menu",
    "meta", "nobr", "ol", "p", "pre", "ruby", "s", "small", "span", "strong", "strike", "sub",
    "sup", "table", "tt", "u", "ul", "var" ].contains tag.name ||
  (tag.name == "font" && tag.attrs.any fun attr =>
    ["color", "face", "size"].contains attr.name.localName)

def breakOut (token : Token) : Build Outcome := do
  modify fun b =>
    b.popUntilCurrent fun name => name.vocabulary == .html || name.holdsMathText || name.holdsHtml
  inMode (← get).mode token

/-- Finds the foreign element that an end tag closes, from the innermost on. Below the innermost, an
HTML element hands the tag over to the mode in force. -/
def closeForeign (tag : Tag) (first : Bool) : List NodeId → Build Outcome
  | [] => ignore
  | [_] => ignore
  | id :: outer => do
    let name := (← get).nameOf id
    if !first && name.vocabulary == .html then inMode (← get).mode (.endTag tag)
    else if String.ofList (name.localName.toList.map Text.foldAscii) == tag.name then
      change fun b => { b with opened := outer }
    else closeForeign tag false outer

def addWithinCurrent (tag : Tag) (b : Builder) : Builder :=
  match b.opened.head? with
  | some id => b.addWithinForeign (b.nameOf id).vocabulary tag
  | none => b

def inForeign (token : Token) : Build Outcome := do
  match token with
  | .null => change (·.addText [Reference.replacement])
  | .text content =>
    change fun b => (if isBlankText content then b else forbidFrameset b).addText content
  | .comment text => change (·.addComment text)
  | .startTag tag =>
    if breaksOut tag then breakOut token else change (addWithinCurrent tag)
  | .endTag tag =>
    if tag.name = "br" || tag.name = "p" then breakOut token
    else closeForeign tag true (← get).opened
  | _ => ignore

def belongsToForeign (b : Builder) (token : Token) : Bool :=
  match b.opened.head? with
  | none => false
  | some id =>
    let name := b.nameOf id
    if name.vocabulary == .html || token == .finish then false
    else
      let isText := match token with
        | .text _ => true
        | .null => true
        | _ => false
      let startName := match token with
        | .startTag tag => some tag.name
        | _ => none
      let inMath := name.holdsMathText &&
        (isText || (startName.isSome && startName != some "mglyph" &&
          startName != some "malignmark"))
      let inSvg := name.holdsHtml && (isText || startName.isSome)
      let inAnnotation := name == ⟨.mathml, "annotation-xml"⟩ && startName == some "svg"
      !(inMath || inSvg || inAnnotation)

def step (token : Token) : Build Outcome := do
  let b ← get
  if belongsToForeign b token then inForeign token else inMode b.mode token

def settle : Nat → Token → Build TextKind
  | 0, _ => return .markup
  | times + 1, token => do
    match ← step token with
    | .done => return .markup
    | .readAs kind => return kind
    | .again mode token =>
      modify fun b => { b with mode }
      settle times token

/-- Treats a token. It is looked at again only in a mode further down in their order, or after an
element or a template has been closed, so that it never comes to the bound. Ahead of that, each piece of
text that was collected in a table may open the formatting elements again. -/
def treat (token : Token) : Build TextKind := do
  let b ← get
  settle (16 + 8 * (b.opened.length + b.pending.length * b.formatting.length +
    b.templateModes.length)) token

def runs : List Char → List (List Char)
  | [] => []
  | c :: rest =>
    let like (d : Char) : Bool := Text.isAsciiBlank c == Text.isAsciiBlank d
    (c :: rest.takeWhile like) :: runs (rest.dropWhile like)
termination_by text => text.length
decreasing_by exact Nat.lt_succ_of_le (List.dropWhile_sublist _).length_le

def oldPublicIds : List String := [
  "-//w3o//dtd w3 html strict 3.0//en//", "-/w3c/dtd html 4.0 transitional/en", "html"]

def oldPublicStarts : List String := [
  "-//advasoft ltd//dtd html 3.0 aswedit + extensions//",
  "-//as//dtd html 3.0 aswedit + extensions//", "-//ietf//dtd html 2.0 level 1//",
  "-//ietf//dtd html 2.0 level 2//", "-//ietf//dtd html 2.0 strict level 1//",
  "-//ietf//dtd html 2.0 strict level 2//", "-//ietf//dtd html 2.0 strict//",
  "-//ietf//dtd html 2.0//", "-//ietf//dtd html 2.1e//", "-//ietf//dtd html 3.0//",
  "-//ietf//dtd html 3.2 final//", "-//ietf//dtd html 3.2//", "-//ietf//dtd html 3//",
  "-//ietf//dtd html level 0//", "-//ietf//dtd html level 1//", "-//ietf//dtd html level 2//",
  "-//ietf//dtd html level 3//", "-//ietf//dtd html strict level 0//",
  "-//ietf//dtd html strict level 1//", "-//ietf//dtd html strict level 2//",
  "-//ietf//dtd html strict level 3//", "-//ietf//dtd html strict//", "-//ietf//dtd html//",
  "-//metrius//dtd metrius presentational//",
  "-//microsoft//dtd internet explorer 2.0 html strict//",
  "-//microsoft//dtd internet explorer 2.0 html//",
  "-//microsoft//dtd internet explorer 2.0 tables//",
  "-//microsoft//dtd internet explorer 3.0 html strict//",
  "-//microsoft//dtd internet explorer 3.0 html//",
  "-//microsoft//dtd internet explorer 3.0 tables//", "-//netscape comm. corp.//dtd html//",
  "-//netscape comm. corp.//dtd strict html//", "-//o'reilly and associates//dtd html 2.0//",
  "-//o'reilly and associates//dtd html extended 1.0//",
  "-//o'reilly and associates//dtd html extended relaxed 1.0//",
  "-//softquad software//dtd hotmetal pro 6.0::19990601::extensions to html 4.0//",
  "-//softquad//dtd hotmetal pro 4.0::19971010::extensions to html 4.0//",
  "-//spyglass//dtd html 2.0 extended//", "-//sq//dtd html 2.0 hotmetal + extensions//",
  "-//sun microsystems corp.//dtd hotjava html//",
  "-//sun microsystems corp.//dtd hotjava strict html//", "-//w3c//dtd html 3 1995-03-24//",
  "-//w3c//dtd html 3.2 draft//", "-//w3c//dtd html 3.2 final//", "-//w3c//dtd html 3.2//",
  "-//w3c//dtd html 3.2s draft//", "-//w3c//dtd html 4.0 frameset//",
  "-//w3c//dtd html 4.0 transitional//", "-//w3c//dtd html experimental 19960712//",
  "-//w3c//dtd html experimental 970421//", "-//w3c//dtd w3 html//", "-//w3o//dtd w3 html 3.0//",
  "-//webtechs//dtd mozilla html 2.0//", "-//webtechs//dtd mozilla html//"]

def olderWithoutSystem : List String := [
  "-//w3c//dtd html 4.01 frameset//", "-//w3c//dtd html 4.01 transitional//"]

def oldSystemId : String := "http://www.ibm.com/data/dtd/v11/ibmxhtml1-transitional.dtd"

/-- Whether a declaration asks for the old rules, under which a table may stand in a paragraph. -/
def asksForOldRules (declaration : Doctype) : Bool :=
  let folded (text : String) : List Char := text.toList.map Text.foldAscii
  let startsLike (starts : List String) (id : String) : Bool :=
    starts.any fun start => start.toList.isPrefixOf (folded id)
  declaration.defective || declaration.name != some "html" ||
    (declaration.publicId.any fun id => oldPublicIds.any fun old => old.toList == folded id) ||
    (declaration.systemId.any fun id => oldSystemId.toList == folded id) ||
    (declaration.publicId.any fun id => startsLike oldPublicStarts id) ||
    (declaration.systemId.isNone &&
      declaration.publicId.any fun id => startsLike olderWithoutSystem id)

def treatDoctype (declaration : Doctype) : Build Unit :=
  modify fun b =>
    if b.mode = .initial then
      let (id, document) := b.document.create (.doctype (declaration.name.getD ""))
      { b with
        document := document.append Document.rootId id
        isQuirky := asksForOldRules declaration, mode := .beforeHtml }
    else b

def treatRuns : List (List Char) → Build Unit
  | [] => return ()
  | run :: rest => do
    let _ ← treat (.text run)
    treatRuns rest

/-- Takes in the next token of a page. A line feed right after some start tags is left out. The
result is the kind of the text that follows. -/
def take (token : Token) : Build TextKind := do
  let drops := (← get).dropsLineFeed
  modify fun b => { b with dropsLineFeed := false }
  match token with
  | .slip => return .markup
  | .doctype declaration => do
    treatDoctype declaration
    return .markup
  | .text content =>
    let content := if drops && content.head? = some '\n' then content.tail else content
    treatRuns (runs content)
    return .markup
  | _ => treat token

end PageFeed.Html.Build
