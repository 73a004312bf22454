import PageFeed.Html.Token.Tag

/-! Comments, document type declarations and CDATA sections as they stand in a page. -/

namespace PageFeed.Html.Token

open Text (isAsciiBlank dropWord?)

inductive CommentState
  | start
  | startDash
  | inside
  | dash
  | dashDash
  | bang
deriving DecidableEq, Repr

/-- Reads a comment after its opening; the result holds its text in reverse. The end of the page
ends a comment. -/
def commentFrom : CommentState → List Char → List Char → List Char × List Char
  | _, read, [] => (read, [])
  | .start, read, c :: rest =>
    if c = '-' then commentFrom .startDash read rest
    else if c = '>' then (read, rest)
    else commentFrom .inside (replaceNul c :: read) rest
  | .startDash, read, c :: rest =>
    if c = '-' then commentFrom .dashDash read rest
    else if c = '>' then (read, rest)
    else commentFrom .inside (replaceNul c :: '-' :: read) rest
  | .inside, read, c :: rest =>
    if c = '-' then commentFrom .dash read rest
    else commentFrom .inside (replaceNul c :: read) rest
  | .dash, read, c :: rest =>
    if c = '-' then commentFrom .dashDash read rest
    else commentFrom .inside (replaceNul c :: '-' :: read) rest
  | .dashDash, read, c :: rest =>
    if c = '>' then (read, rest)
    else if c = '!' then commentFrom .bang read rest
    else if c = '-' then commentFrom .dashDash ('-' :: read) rest
    else commentFrom .inside (replaceNul c :: '-' :: '-' :: read) rest
  | .bang, read, c :: rest =>
    if c = '-' then commentFrom .dash ('!' :: '-' :: '-' :: read) rest
    else if c = '>' then (read, rest)
    else commentFrom .inside (replaceNul c :: '!' :: '-' :: '-' :: read) rest

def readComment (text : List Char) : Token × List Char :=
  let (read, rest) := commentFrom .start [] text
  (.comment (String.ofList read.reverse), rest)

/-- Reads what counts as a comment without being written as one: all up to the next bracket. -/
def readBogusComment (text : List Char) : Token × List Char :=
  (.comment (String.ofList ((text.takeWhile (· != '>')).map replaceNul)),
    (text.dropWhile (· != '>')).tail)

/-- Reads a quoted identifier after its opening quote. The second part is false when the identifier
is not closed. -/
def identifier (quote : Char) (text : List Char) : String × Bool × List Char :=
  let inside (c : Char) : Bool := c != quote && c != '>'
  let read := String.ofList ((text.takeWhile inside).map replaceNul)
  match text.dropWhile inside with
  | c :: rest => if c = quote then (read, true, rest) else (read, false, c :: rest)
  | [] => (read, false, [])

def skipDeclaration (text : List Char) : List Char := (text.dropWhile (· != '>')).tail

def defective (declaration : Doctype) (rest : List Char) : Doctype × List Char :=
  ({ declaration with defective := true }, skipDeclaration rest)

def afterSystem (declaration : Doctype) (text : List Char) : Doctype × List Char :=
  match text.dropWhile isAsciiBlank with
  | [] => defective declaration []
  | rest => (declaration, skipDeclaration rest)

def systemIdentifier (declaration : Doctype) (text : List Char) : Doctype × List Char :=
  match text.dropWhile isAsciiBlank with
  | [] => defective declaration []
  | c :: rest =>
    if c = '"' || c = '\x27' then
      let (read, closed, rest) := identifier c rest
      let declaration := { declaration with systemId := some read }
      if closed then afterSystem declaration rest else defective declaration rest
    else defective declaration (c :: rest)

def afterPublic (declaration : Doctype) (text : List Char) : Doctype × List Char :=
  match text.dropWhile isAsciiBlank with
  | '>' :: rest => (declaration, rest)
  | rest => systemIdentifier declaration rest

def publicIdentifier (declaration : Doctype) (text : List Char) : Doctype × List Char :=
  match text.dropWhile isAsciiBlank with
  | [] => defective declaration []
  | c :: rest =>
    if c = '"' || c = '\x27' then
      let (read, closed, rest) := identifier c rest
      let declaration := { declaration with publicId := some read }
      if closed then afterPublic declaration rest else defective declaration rest
    else defective declaration (c :: rest)

def readDoctype (text : List Char) : Token × List Char :=
  let inName (c : Char) : Bool := !isAsciiBlank c && c != '>'
  let (declaration, rest) : Doctype × List Char :=
    match text.dropWhile isAsciiBlank with
    | [] => defective {} []
    | '>' :: rest => ({ defective := true }, rest)
    | rest =>
      let declaration : Doctype := { name := some (nameOf (rest.takeWhile inName)) }
      match (rest.dropWhile inName).dropWhile isAsciiBlank with
      | [] => defective declaration []
      | '>' :: rest => (declaration, rest)
      | rest =>
        match dropWord? "public".toList rest with
        | some rest => publicIdentifier declaration rest
        | none =>
          match dropWord? "system".toList rest with
          | some rest => systemIdentifier declaration rest
          | none => defective declaration rest
  (.doctype declaration, rest)

def cdataSection : List Char → List Char × List Char
  | [] => ([], [])
  | c :: rest =>
    match (c :: rest : List Char) with
    | ']' :: ']' :: '>' :: after => ([], after)
    | _ =>
      let (content, after) := cdataSection rest
      (c :: content, after)

end PageFeed.Html.Token
