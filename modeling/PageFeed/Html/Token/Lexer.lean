import PageFeed.Html.Token.Declaration

/-! The next tokens at the head of a page, for each kind of text that markup can be in the middle
of. -/

namespace PageFeed.Html.Token

open Text (isAsciiBlank foldAscii dropWord?)

/-- Whether a text that follows `</` closes an element: the element's name, in either case, and then
a blank, a slash or a closing bracket. -/
def closes (element : String) (text : List Char) : Bool :=
  match dropWord? element.toList text with
  | some (c :: _) => isAsciiBlank c || c == '/' || c == '>'
  | _ => false

def beforeClose (element : String) : List Char → List Char × List Char
  | [] => ([], [])
  | c :: rest =>
    if c = '<' && rest.head? = some '/' && closes element rest.tail then ([], c :: rest)
    else
      let (content, after) := beforeClose element rest
      (c :: content, after)

/-- Where the reading of a script stands: outside of comments, in the opening of a comment with as
many of its characters read after the bracket, within a comment, or within a script element inside a
comment, each with the number of dashes just read, up to two. -/
inductive ScriptState
  | outside
  | opening (read : Nat)
  | commented (dashes : Nat)
  | nested (dashes : Nat)
deriving DecidableEq, Repr

def namesScript (text : List Char) : Bool := closes "script" text

def isLetter (c : Char) : Bool := c.isAlpha

def oneMoreDash (dashes : Nat) : Nat := min 2 (dashes + 1)

def ScriptState.afterOutside (c : Char) (rest : List Char) : ScriptState :=
  if c = '<' && rest.head? = some '!' then .opening 0 else .outside

def ScriptState.next (state : ScriptState) (c : Char) (rest : List Char) : ScriptState :=
  match state with
  | .outside => afterOutside c rest
  | .opening 0 => .opening 1
  | .opening 1 => if c = '-' then .opening 2 else afterOutside c rest
  | .opening _ => if c = '-' then .commented 2 else afterOutside c rest
  | .commented dashes =>
    if c = '-' then .commented (oneMoreDash dashes)
    else if c = '>' && dashes = 2 then .outside
    else if c = '<' && namesScript rest then .nested 0
    else .commented 0
  | .nested dashes =>
    if c = '-' then .nested (oneMoreDash dashes)
    else if c = '>' && dashes = 2 then .outside
    else if c = '<' && rest.head? = some '/' && namesScript rest.tail then .commented 0
    else .nested 0

/-- Splits off the text of a script in front of the tag that closes it, or all of it. Such a tag
does not count within a script element inside a comment. -/
def beforeScriptClose (element : String) : ScriptState → List Char → List Char × List Char
  | _, [] => ([], [])
  | state, c :: rest =>
    let inert := match state with
      | .nested _ => true
      | _ => false
    if !inert && c = '<' && rest.head? = some '/' && closes element rest.tail then ([], c :: rest)
    else
      let (content, after) := beforeScriptClose element (state.next c rest) rest
      (c :: content, after)

def afterBracket (foreign : Bool) (text : List Char) : List Token × List Char :=
  match text with
  | '!' :: rest =>
    match rest with
    | '-' :: '-' :: after =>
      let (token, rest) := readComment after
      ([token], rest)
    | _ =>
      match dropWord? "doctype".toList rest with
      | some after =>
        let (token, rest) := readDoctype after
        ([token], rest)
      | none =>
        match if foreign then "[CDATA[".toList.isPrefixOf? rest else none with
        | some after =>
          let (content, rest) := cdataSection after
          (ofSection content, rest)
        | none =>
          let (token, rest) := readBogusComment rest
          ([token], rest)
  | '/' :: rest =>
    match rest with
    | [] => ([.text ['<', '/']], [])
    | '>' :: after => ([.slip], after)
    | c :: _ =>
      if isLetter c then
        match tag? rest with
        | some (tag, rest) => ([.endTag tag], rest)
        | none => ([], [])
      else
        let (token, rest) := readBogusComment rest
        ([token], rest)
  | c :: _ =>
    if isLetter c then
      match tag? text with
      | some (tag, rest) => ([.startTag tag], rest)
      | none => ([], [])
    else if c = '?' then
      let (token, rest) := readBogusComment text
      ([token], rest)
    else ([.text ['<']], text)
  | [] => ([.text ['<']], [])

def ofMarkup (foreign : Bool) (text : List Char) : List Token × List Char :=
  match text with
  | '<' :: rest => afterBracket foreign rest
  | _ => (ofText false false (text.takeWhile (· != '<')), text.dropWhile (· != '<'))

/-- The tokens at the head of a page in the middle of a text of some kind: for markup the next run,
tag, comment or declaration, for other texts the text up to the tag that closes `element`, or that
tag. -/
def next (kind : TextKind) (element : String) (foreign : Bool) (text : List Char) :
    List Token × List Char :=
  let upTo (split : List Char × List Char) (tokens : List Char → List Token) :
      List Token × List Char :=
    if split.1.isEmpty then ofMarkup foreign split.2 else (tokens split.1, split.2)
  match kind with
  | .markup => ofMarkup foreign text
  | .escapable => upTo (beforeClose element text) (ofText false true)
  | .raw => upTo (beforeClose element text) fun content => [.text (content.map replaceNul)]
  | .script =>
    upTo (beforeScriptClose element .outside text) fun content => [.text (content.map replaceNul)]
  | .plain => ([.text (text.map replaceNul)], [])

end PageFeed.Html.Token
