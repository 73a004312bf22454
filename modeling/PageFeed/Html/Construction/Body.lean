import PageFeed.Html.Construction.Adoption
import PageFeed.Html.Construction.Foreign
import PageFeed.Text.Digits

/-! Tokens in the head and in the body of a page, the two parts in which most elements are at home.
The other parts fall back on them. -/

namespace PageFeed.Html

open Text (isAsciiBlank)

def isBlankText (content : List Char) : Bool := content.all isAsciiBlank

def headNames : List String := [
  "base", "basefont", "bgsound", "link", "meta", "noframes", "script", "style", "template", "title"]

def blockNames : List String := [
  "address", "article", "aside", "blockquote", "center", "details", "dialog", "dir", "div", "dl",
  "fieldset", "figcaption", "figure", "footer", "header", "hgroup", "main", "menu", "nav", "ol",
  "search", "section", "summary", "ul"]

/-- Elements that format the text in them, without those that must not lie in one another. -/
def formattingNames : List String := [
  "b", "big", "code", "em", "font", "i", "s", "small", "strike", "strong", "tt", "u"]

def inlineVoidNames : List String := ["area", "br", "embed", "img", "keygen", "wbr"]

def strayNames : List String := [
  "caption", "col", "colgroup", "frame", "head", "tbody", "td", "tfoot", "th", "thead", "tr"]

namespace Build

def change (f : Builder → Builder) : Build Outcome := do
  modify f
  return .done

def ignore : Build Outcome := return .done

def enter (mode : Mode) (f : Builder → Builder) : Build Outcome :=
  change fun b => { f b with mode }

def retry (mode : Mode) (token : Token) (f : Builder → Builder) : Build Outcome := do
  modify f
  return .again mode token

def openTextOf (kind : TextKind) (tag : Tag) : Build Outcome := do
  modify fun b => { b.openTag tag with returnMode := b.mode, mode := .inText }
  return .readAs kind

def mergeRoot (tag : Tag) : Build Outcome :=
  change fun b =>
    if b.hasOpen "template" then b
    else
      match b.outermost? with
      | some id => { b with document := b.document.addMissingAttrs id tag.attrs }
      | none => b

def closeTemplate : Build Outcome :=
  change fun b =>
    if b.hasOpen "template" then
      let b := ((b.popWhile (·.endsInTemplate)).popUntilNamed "template").clearFormatting
      let b := { b with templateModes := b.templateModes.tail }
      { b with mode := b.modeFor }
    else b

def isForShadow (tag : Tag) (b : Builder) : Bool :=
  ["open", "close"].any (Attr.plainValue? tag.attrs "shadowrootmode" == some ·) &&
    b.opened.length > 1

/-- Opens a template. There are no shadow trees: the element of a template for one is left out, and
its content goes where the element would be. -/
def openTemplate (tag : Tag) (b : Builder) : Builder :=
  let b := if isForShadow tag b then b else b.openTag tag
  { b.markFormatting with
    framesetAllowed := false, mode := .inTemplate
    templateModes := .inTemplate :: b.templateModes }

def inHead (token : Token) : Build Outcome := do
  let otherwise := retry .afterHead token Builder.pop
  match token with
  | .text content => if isBlankText content then change (·.addText content) else otherwise
  | .comment text => change (·.addComment text)
  | .startTag tag =>
    match tag.name with
    | "html" => mergeRoot tag
    | "base" | "basefont" | "bgsound" | "link" | "meta" => change (·.addTag tag)
    | "title" => openTextOf .escapable tag
    | "noframes" | "style" | "noscript" => openTextOf .raw tag
    | "script" => openTextOf .script tag
    | "template" => change (openTemplate tag)
    | "head" => ignore
    | _ => otherwise
  | .endTag tag =>
    match tag.name with
    | "head" => enter .afterHead Builder.pop
    | "body" | "html" | "br" => otherwise
    | "template" => closeTemplate
    | _ => ignore
  | _ => otherwise

def finishTemplate (token : Token) : Build Outcome := do
  if (← get).hasOpen "template" then
    modify fun b => (b.popUntilNamed "template").clearFormatting
    modify fun b => { b with templateModes := b.templateModes.tail }
    modify fun b => { b with mode := b.modeFor }
    return .again (← get).mode token
  else ignore

def isHidden (tag : Tag) : Bool :=
  match Attr.plainValue? tag.attrs "type" with
  | some value => value.toList.map Text.foldAscii == "hidden".toList
  | none => false

def forbidFrameset (b : Builder) : Builder := { b with framesetAllowed := false }

/-- The innermost open element that the start tag of an item closes. The search passes only elements
that may stand between items of one list. -/
def openItem? (b : Builder) (closing : List String) : List NodeId → Option String
  | [] => none
  | id :: outer =>
    let name := b.nameOf id
    if name.among closing then some name.localName
    else if name.isSpecial && !name.among ["address", "div", "p"] then none
    else openItem? b closing outer

def openItem (tag : Tag) (b : Builder) : Builder :=
  let b := forbidFrameset b
  let b := match openItem? b (if tag.name = "li" then ["li"] else ["dd", "dt"]) b.opened with
    | some name => (b.closeImpliedExcept name).popUntilNamed name
    | none => b
  b.closeParagraphInScope.openTag tag

def openLink (tag : Tag) (b : Builder) : Builder :=
  let b := match b.formattingToMarker.find? (·.isNamed "a") with
    | some (.element id _) => (((b.adopt "a").forget id).close id)
    | _ => b
  b.reopenFormatting.openFormatting tag

def mergeBody (tag : Tag) (b : Builder) : Builder :=
  match b.body? with
  | some id =>
    if b.hasOpen "template" then b
    else { b with framesetAllowed := false, document := b.document.addMissingAttrs id tag.attrs }
  | none => b

def replaceBody (tag : Tag) (b : Builder) : Builder :=
  if b.framesetAllowed then
    match b.body? with
    | some id =>
      let b := { b with document := b.document.detach id, opened := b.outermost?.toList }
      { b.openTag tag with mode := .inFrameset }
    | none => b
  else b

def openForm (tag : Tag) (b : Builder) : Builder :=
  let inTemplate := b.hasOpen "template"
  if b.form.isSome && !inTemplate then b
  else
    let (id, b) := b.closeParagraphInScope.openElement (.html tag.name) tag.attrs
    if inTemplate then b else { b with form := some id }

def closeForm (b : Builder) : Builder :=
  if b.hasOpen "template" then
    if b.namedInScope (·.boundsScope) "form" then b.closeImplied.popUntilNamed "form" else b
  else
    match b.form with
    | none => b
    | some id =>
      let b := { b with form := none }
      if b.inScope (·.boundsScope) (· == id) then b.closeImplied.close id else b

def openSelect (tag : Tag) (b : Builder) : Builder :=
  let b := forbidFrameset (b.reopenFormatting.openTag tag)
  let inTable := [Mode.inTable, .inCaption, .inTableBody, .inRow, .inCell].contains b.mode
  { b with mode := if inTable then .inSelectInTable else .inSelect }

def closeInScope (localName : String) (b : Builder) : Builder :=
  if b.namedInScope (·.boundsScope) localName then b.closeImplied.popUntilNamed localName else b

def openBlock (tag : Tag) (b : Builder) : Builder := b.closeParagraphInScope.openTag tag

def openHeading (tag : Tag) (b : Builder) : Builder :=
  let b := b.closeParagraphInScope
  (if b.currentHas (·.isHeading) then b.pop else b).openTag tag

def openPreformatted (tag : Tag) (b : Builder) : Builder :=
  { openBlock tag b with dropsLineFeed := true, framesetAllowed := false }

def openInline (tag : Tag) (b : Builder) : Builder := b.reopenFormatting.openTag tag

def addInline (tag : Tag) (b : Builder) : Builder := forbidFrameset (b.reopenFormatting.addTag tag)

def openButton (tag : Tag) (b : Builder) : Builder :=
  forbidFrameset (openInline tag (closeInScope "button" b))

def openNoBreak (tag : Tag) (b : Builder) : Builder :=
  let b := b.reopenFormatting
  (if b.namedInScope (·.boundsScope) "nobr" then (b.adopt "nobr").reopenFormatting else b)
    |>.openFormatting tag

def openEmbedded (tag : Tag) (b : Builder) : Builder :=
  forbidFrameset (openInline tag b).markFormatting

/-- Opens a table. By old rules it may stand in a paragraph. -/
def openTable (tag : Tag) (b : Builder) : Builder :=
  { (if b.isQuirky then b else b.closeParagraphInScope).openTag tag with
    framesetAllowed := false, mode := .inTable }

def addInput (tag : Tag) (b : Builder) : Builder :=
  if isHidden tag then b.reopenFormatting.addTag tag else addInline tag b

def addRule (tag : Tag) (b : Builder) : Builder :=
  forbidFrameset (b.closeParagraphInScope.addTag tag)

def openOption (tag : Tag) (b : Builder) : Builder :=
  openInline tag (if b.currentIs "option" then b.pop else b)

def openRubyBase (tag : Tag) (b : Builder) : Builder :=
  (if b.namedInScope (·.boundsScope) "ruby" then b.closeImplied else b).openTag tag

def openRubyText (tag : Tag) (b : Builder) : Builder :=
  (if b.namedInScope (·.boundsScope) "ruby" then b.closeImpliedExcept "rtc" else b).openTag tag

def startOwnInBody (tag : Tag) : Build Outcome :=
  match tag.name with
  | "html" => mergeRoot tag
  | "body" => change (mergeBody tag)
  | "frameset" => change (replaceBody tag)
  | "pre" | "listing" => change (openPreformatted tag)
  | "form" => change (openForm tag)
  | "li" | "dd" | "dt" => change (openItem tag)
  | "plaintext" => do
    modify (openBlock tag)
    return .readAs .plain
  | "button" => change (openButton tag)
  | "a" => change (openLink tag)
  | "nobr" => change (openNoBreak tag)
  | "applet" | "marquee" | "object" => change (openEmbedded tag)
  | "table" => change (openTable tag)
  | "input" => change (addInput tag)
  | "param" | "source" | "track" => change (·.addTag tag)
  | "hr" => change (addRule tag)
  | "image" => change (addInline { tag with name := "img" })
  | "textarea" => do
    modify fun b => { b with dropsLineFeed := true, framesetAllowed := false }
    openTextOf .escapable tag
  | "xmp" => do
    modify fun b => forbidFrameset b.closeParagraphInScope.reopenFormatting
    openTextOf .raw tag
  | "iframe" => do
    modify forbidFrameset
    openTextOf .raw tag
  | "noembed" | "noscript" => openTextOf .raw tag
  | "select" => change (openSelect tag)
  | "optgroup" | "option" => change (openOption tag)
  | "rb" | "rtc" => change (openRubyBase tag)
  | "rp" | "rt" => change (openRubyText tag)
  | "math" => change (·.addForeign .mathml "math" tag)
  | "svg" => change (·.addForeign .svg "svg" tag)
  | _ => change (openInline tag)

def startInBody (tag : Tag) : Build Outcome :=
  if headNames.contains tag.name then inHead (.startTag tag)
  else if blockNames.contains tag.name || tag.name = "p" then change (openBlock tag)
  else if ElementName.headingNames.contains tag.name then change (openHeading tag)
  else if formattingNames.contains tag.name then
    change fun b => b.reopenFormatting.openFormatting tag
  else if inlineVoidNames.contains tag.name then change (addInline tag)
  else if strayNames.contains tag.name then ignore
  else startOwnInBody tag

def closeOrMakeParagraph (b : Builder) : Builder :=
  (if b.namedInScope (·.boundsButtonScope) "p" then b else b.openMissing "p").closeParagraph

def closeItem (localName : String) (b : Builder) : Builder :=
  let bounds := if localName = "li" then ElementName.boundsItemScope else ElementName.boundsScope
  if b.namedInScope bounds localName then
    (b.closeImpliedExcept localName).popUntilNamed localName
  else b

def closeHeading (b : Builder) : Builder :=
  if b.inScope (·.boundsScope) fun id => (b.nameOf id).isHeading then
    b.closeImplied.popUntil (·.isHeading)
  else b

def closeEmbedded (localName : String) (b : Builder) : Builder :=
  if b.namedInScope (·.boundsScope) localName then
    (b.closeImplied.popUntilNamed localName).clearFormatting
  else b

def endOwnInBody (tag : Tag) : Build Outcome := do
  match tag.name with
  | "template" => closeTemplate
  | "body" =>
    if (← get).namedInScope (·.boundsScope) "body" then enter .afterBody id else ignore
  | "html" =>
    if (← get).namedInScope (·.boundsScope) "body" then return .again .afterBody (.endTag tag)
    else ignore
  | "button" | "listing" | "pre" => change (closeInScope tag.name)
  | "form" => change closeForm
  | "p" => change closeOrMakeParagraph
  | "li" | "dd" | "dt" => change (closeItem tag.name)
  | "a" | "nobr" => change (·.adopt tag.name)
  | "applet" | "marquee" | "object" => change (closeEmbedded tag.name)
  | "br" => startInBody { name := "br", attrs := [], selfClosing := tag.selfClosing }
  | _ => change (·.closeNamed tag.name)

def endInBody (tag : Tag) : Build Outcome :=
  if blockNames.contains tag.name then change (closeInScope tag.name)
  else if ElementName.headingNames.contains tag.name then change closeHeading
  else if formattingNames.contains tag.name then change (·.adopt tag.name)
  else endOwnInBody tag

def inBody (token : Token) : Build Outcome := do
  match token with
  | .text content =>
    change fun b =>
      let b := b.reopenFormatting
      (if isBlankText content then b else forbidFrameset b).addText content
  | .comment text => change (·.addComment text)
  | .startTag tag => startInBody tag
  | .endTag tag => endInBody tag
  | .finish => if (← get).templateModes.isEmpty then ignore else finishTemplate token
  | _ => ignore

end Build

end PageFeed.Html
