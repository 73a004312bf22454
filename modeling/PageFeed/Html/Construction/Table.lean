import PageFeed.Html.Construction.Body

/-! Tokens in tables and their parts, in selection lists, in templates and in frame sets. -/

namespace PageFeed.Html.Build

def fosterInBody (token : Token) : Build Outcome := do
  modify fun b => { b with fosters := true }
  let outcome ← inBody token
  modify fun b => { b with fosters := false }
  return outcome

def clearToTable (b : Builder) : Builder := b.popUntilCurrent (·.boundsTableScope)

/-- Treats text in a table: it is collected first, since it depends on all of it where it goes. -/
def textInTable (token : Token) : Build Outcome := do
  if (← get).currentHas (·.isTablePart) then
    retry .inTableText token fun b => { b with returnMode := b.mode }
  else fosterInBody token

def addTableForm (tag : Tag) (b : Builder) : Builder :=
  if b.hasOpen "template" || b.form.isSome then b
  else { (b.addElement (.html tag.name) tag.attrs).2 with
    form := some (b.addElement (.html tag.name) tag.attrs).1 }

def closeTable (b : Builder) : Builder :=
  if b.namedInScope (·.boundsTableScope) "table" then
    let b := b.popUntilNamed "table"
    { b with mode := b.modeFor }
  else b

def inTable (token : Token) : Build Outcome := do
  match token with
  | .text _ | .null => textInTable token
  | .comment text => change (·.addComment text)
  | .startTag tag =>
    match tag.name with
    | "caption" =>
      enter .inCaption fun b => (clearToTable b).markFormatting.openTag tag
    | "colgroup" => enter .inColumnGroup fun b => (clearToTable b).openTag tag
    | "col" => retry .inColumnGroup token fun b => (clearToTable b).openMissing "colgroup"
    | "tbody" | "tfoot" | "thead" => enter .inTableBody fun b => (clearToTable b).openTag tag
    | "td" | "th" | "tr" =>
      retry .inTableBody token fun b => (clearToTable b).openMissing "tbody"
    | "table" =>
      if (← get).namedInScope (·.boundsTableScope) "table" then
        modify fun b => b.popUntilNamed "table"
        return .again (← get).modeFor token
      else ignore
    | "style" | "script" | "template" => inHead token
    | "input" => if isHidden tag then change (·.addTag tag) else fosterInBody token
    | "form" => change (addTableForm tag)
    | _ => fosterInBody token
  | .endTag tag =>
    match tag.name with
    | "table" => change closeTable
    | "body" | "caption" | "col" | "colgroup" | "html" | "tbody" | "td" | "tfoot" | "th" | "thead"
    | "tr" => ignore
    | "template" => inHead token
    | _ => fosterInBody token
  | .finish => inBody token
  | _ => fosterInBody token

def fosterPieces : List (List Char) → Build Unit
  | [] => return ()
  | content :: rest => do
    let _ ← fosterInBody (.text content)
    fosterPieces rest

/-- Treats a token after text in a table: text is collected, and any other token puts it into the
table if it is blank and in front of the table if it is not. -/
def inTableText (token : Token) : Build Outcome := do
  match token with
  | .null => ignore
  | .text content => change fun b => { b with pending := content :: b.pending }
  | _ =>
    let pending := (← get).pending.reverse
    modify fun b => { b with pending := [] }
    if pending.all isBlankText then
      modify fun b => pending.foldl (fun b content => b.addText content) b
    else fosterPieces pending
    return .again (← get).returnMode token

def leaveCaption (after : Build Outcome) : Build Outcome := do
  if (← get).namedInScope (·.boundsTableScope) "caption" then
    modify fun b => (b.closeImplied.popUntilNamed "caption").clearFormatting
    after
  else ignore

def inCaption (token : Token) : Build Outcome :=
  match token with
  | .startTag tag =>
    match tag.name with
    | "caption" | "col" | "colgroup" | "tbody" | "td" | "tfoot" | "th" | "thead" | "tr" =>
      leaveCaption (return .again .inTable token)
    | _ => inBody token
  | .endTag tag =>
    match tag.name with
    | "table" => leaveCaption (return .again .inTable token)
    | "caption" => leaveCaption (enter .inTable id)
    | "body" | "col" | "colgroup" | "html" | "tbody" | "td" | "tfoot" | "th" | "thead" | "tr" =>
      ignore
    | _ => inBody token
  | _ => inBody token

def leaveColumnGroup (token : Token) : Build Outcome := do
  if (← get).currentIs "colgroup" then retry .inTable token Builder.pop else ignore

def inColumnGroup (token : Token) : Build Outcome := do
  match token with
  | .text content => if isBlankText content then change (·.addText content) else leaveColumnGroup token
  | .comment text => change (·.addComment text)
  | .startTag tag =>
    match tag.name with
    | "html" => mergeRoot tag
    | "col" => change (·.addTag tag)
    | "template" => inHead token
    | _ => leaveColumnGroup token
  | .endTag tag =>
    match tag.name with
    | "colgroup" =>
      if (← get).currentIs "colgroup" then enter .inTable Builder.pop else ignore
    | "col" => ignore
    | "template" => inHead token
    | _ => leaveColumnGroup token
  | .finish => inBody token
  | _ => leaveColumnGroup token

def clearToRows (b : Builder) : Builder := b.popUntilCurrent (·.holdsRows)

def leaveTableBody (token : Token) : Build Outcome := do
  let b ← get
  if b.inScope (·.boundsTableScope) fun id => (b.nameOf id).among ["table", "tbody", "tfoot"] then
    retry .inTable token fun b => (clearToRows b).pop
  else ignore

def inTableBody (token : Token) : Build Outcome := do
  match token with
  | .startTag tag =>
    match tag.name with
    | "tr" => enter .inRow fun b => (clearToRows b).openTag tag
    | "th" | "td" => retry .inRow token fun b => (clearToRows b).openMissing "tr"
    | "caption" | "col" | "colgroup" | "tbody" | "tfoot" | "thead" => leaveTableBody token
    | _ => inTable token
  | .endTag tag =>
    match tag.name with
    | "tbody" | "tfoot" | "thead" =>
      if (← get).namedInScope (·.boundsTableScope) tag.name then
        enter .inTable fun b => (clearToRows b).pop
      else ignore
    | "table" => leaveTableBody token
    | "body" | "caption" | "col" | "colgroup" | "html" | "td" | "th" | "tr" => ignore
    | _ => inTable token
  | _ => inTable token

def closeRow (b : Builder) : Builder := (b.popUntilCurrent (·.holdsCells)).pop

def leaveRow (token : Token) : Build Outcome := do
  if (← get).namedInScope (·.boundsTableScope) "tr" then retry .inTableBody token closeRow
  else ignore

def inRow (token : Token) : Build Outcome := do
  match token with
  | .startTag tag =>
    match tag.name with
    | "th" | "td" =>
      enter .inCell fun b =>
        ((b.popUntilCurrent (·.holdsCells)).openTag tag).markFormatting
    | "caption" | "col" | "colgroup" | "tbody" | "tfoot" | "thead" | "tr" => leaveRow token
    | _ => inTable token
  | .endTag tag =>
    match tag.name with
    | "tr" =>
      if (← get).namedInScope (·.boundsTableScope) "tr" then enter .inTableBody closeRow
      else ignore
    | "table" => leaveRow token
    | "tbody" | "tfoot" | "thead" =>
      if (← get).namedInScope (·.boundsTableScope) tag.name then leaveRow token else ignore
    | "body" | "caption" | "col" | "colgroup" | "html" | "td" | "th" => ignore
    | _ => inTable token
  | _ => inTable token

def closeCell (b : Builder) : Builder := (b.closeImplied.popUntil (·.isCell)).clearFormatting

def leaveCell (token : Token) : Build Outcome := do
  let b ← get
  if b.inScope (·.boundsTableScope) fun id => (b.nameOf id).isCell then
    retry .inRow token closeCell
  else ignore

def inCell (token : Token) : Build Outcome := do
  match token with
  | .startTag tag =>
    match tag.name with
    | "caption" | "col" | "colgroup" | "tbody" | "td" | "tfoot" | "th" | "thead" | "tr" =>
      leaveCell token
    | _ => inBody token
  | .endTag tag =>
    match tag.name with
    | "td" | "th" =>
      if (← get).namedInScope (·.boundsTableScope) tag.name then
        enter .inRow fun b => (b.closeImplied.popUntilNamed tag.name).clearFormatting
      else ignore
    | "body" | "caption" | "col" | "colgroup" | "html" => ignore
    | "table" | "tbody" | "tfoot" | "thead" | "tr" =>
      if (← get).namedInScope (·.boundsTableScope) tag.name then retry .inRow token closeCell
      else ignore
    | _ => inBody token
  | _ => inBody token

def popIf (localName : String) (b : Builder) : Builder :=
  if b.currentIs localName then b.pop else b

def closeOptions (b : Builder) : Builder :=
  let endsInOption := match b.opened with
    | _ :: outer :: _ => b.currentIs "option" && (b.nameOf outer).among ["optgroup"]
    | _ => false
  popIf "optgroup" (if endsInOption then b.pop else b)

def leaveSelect (after : Build Outcome) : Build Outcome := do
  if (← get).namedInScope (·.boundsSelectScope) "select" then
    modify fun b => b.popUntilNamed "select"
    after
  else ignore

def resume : Build Outcome := change fun b => { b with mode := b.modeFor }

def resumeWith (token : Token) : Build Outcome := do return .again (← get).modeFor token

def inSelect (token : Token) : Build Outcome := do
  match token with
  | .text content => change (·.addText content)
  | .comment text => change (·.addComment text)
  | .startTag tag =>
    match tag.name with
    | "html" => mergeRoot tag
    | "option" => change fun b => (popIf "option" b).openTag tag
    | "optgroup" => change fun b => (popIf "optgroup" (popIf "option" b)).openTag tag
    | "hr" => change fun b => (popIf "optgroup" (popIf "option" b)).addTag tag
    | "select" => leaveSelect resume
    | "input" | "keygen" | "textarea" => leaveSelect (resumeWith token)
    | "script" | "template" => inHead token
    | _ => ignore
  | .endTag tag =>
    match tag.name with
    | "optgroup" => change closeOptions
    | "option" => change (popIf "option")
    | "select" => leaveSelect resume
    | "template" => inHead token
    | _ => ignore
  | .finish => inBody token
  | _ => ignore

def inSelectInTable (token : Token) : Build Outcome := do
  let parts := ["caption", "table", "tbody", "tfoot", "thead", "tr", "td", "th"]
  match token with
  | .startTag tag =>
    if parts.contains tag.name then
      modify fun b => b.popUntilNamed "select"
      resumeWith token
    else inSelect token
  | .endTag tag =>
    if parts.contains tag.name then
      if (← get).namedInScope (·.boundsTableScope) tag.name then
        modify fun b => b.popUntilNamed "select"
        resumeWith token
      else ignore
    else inSelect token
  | _ => inSelect token

def fillTemplate (mode : Mode) (token : Token) : Build Outcome :=
  retry mode token fun b => { b with templateModes := mode :: b.templateModes.tail }

def inTemplate (token : Token) : Build Outcome :=
  match token with
  | .text _ | .comment _ => inBody token
  | .startTag tag =>
    if headNames.contains tag.name then inHead token
    else
      match tag.name with
      | "caption" | "colgroup" | "tbody" | "tfoot" | "thead" => fillTemplate .inTable token
      | "col" => fillTemplate .inColumnGroup token
      | "tr" => fillTemplate .inTableBody token
      | "td" | "th" => fillTemplate .inRow token
      | _ => fillTemplate .inBody token
  | .endTag tag => if tag.name = "template" then inHead token else ignore
  | .finish => finishTemplate token
  | _ => ignore

def closeFrameset (b : Builder) : Builder :=
  if b.opened.length = 1 then b
  else
    let b := b.pop
    if !b.isFragment && !b.currentIs "frameset" then { b with mode := .afterFrameset } else b

def inFrameset (token : Token) : Build Outcome := do
  match token with
  | .text content => if isBlankText content then change (·.addText content) else ignore
  | .comment text => change (·.addComment text)
  | .startTag tag =>
    match tag.name with
    | "html" => mergeRoot tag
    | "frameset" => change (·.openTag tag)
    | "frame" => change (·.addTag tag)
    | "noframes" => inHead token
    | _ => ignore
  | .endTag tag =>
    if tag.name = "frameset" then change closeFrameset else ignore
  | _ => ignore

end PageFeed.Html.Build
