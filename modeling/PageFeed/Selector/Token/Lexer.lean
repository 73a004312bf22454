import PageFeed.Selector.Token
import PageFeed.Text.Blank

/-! The tokens of a text. Every text has tokens: what fits nothing else is a token of one character,
and what is left open at the end of the text is closed there. -/

namespace PageFeed.Selector

open PageFeed.Text (isDigit isAsciiBlank)

def replacement : Char := '\ufffd'

def isLineEnd (c : Char) : Bool := c == '\n' || c == '\r' || c == '\x0c'

def isNameStart (c : Char) : Bool := c.isAlpha || c == '_' || c == '\x00' || 0x80 ≤ c.toNat

def isNameChar (c : Char) : Bool := isNameStart c || isDigit c || c == '-'

def startsWithLineEnd : List Char → Bool
  | c :: _ => isLineEnd c
  | [] => false

def dropLineEnd : List Char → List Char
  | '\r' :: '\n' :: rest => rest
  | _ :: rest => rest
  | [] => []

/-- Whether a text starts with a name. A backslash starts one unless a line ends behind it. -/
def startsWithName : List Char → Bool
  | '-' :: '\\' :: _ => true
  | '-' :: c :: _ => isNameStart c || c == '-'
  | '\\' :: rest => !startsWithLineEnd rest
  | c :: _ => isNameStart c
  | [] => false

def codePoint (n : Nat) : Char :=
  if n != 0 && n.isValidChar then Char.ofNat n else replacement

def readEscape : List Char → Char × List Char
  | [] => (replacement, [])
  | '\x00' :: rest => (replacement, rest)
  | c :: rest =>
    if (Text.hexDigit? c).isSome then
      let digits := ((c :: rest).take 6).takeWhile fun c => (Text.hexDigit? c).isSome
      let value := digits.foldl (fun n c => 16 * n + (Text.hexDigit? c).getD 0) 0
      let rest := (c :: rest).drop digits.length
      let rest := match rest with
        | c :: more => if isAsciiBlank c then dropLineEnd (c :: more) else c :: more
        | [] => []
      (codePoint value, rest)
    else (c, rest)

def readNameFrom : (rounds : Nat) → List Char → List Char × List Char
  | 0, text => ([], text)
  | _ + 1, [] => ([], [])
  | rounds + 1, c :: rest =>
    if c == '\\' then
      if startsWithLineEnd rest then ([], c :: rest)
      else
        let (escaped, rest) := readEscape rest
        let (name, rest) := readNameFrom rounds rest
        (escaped :: name, rest)
    else if isNameChar c then
      let (name, rest) := readNameFrom rounds rest
      ((if c == '\x00' then replacement else c) :: name, rest)
    else ([], c :: rest)

def readName (text : List Char) : String × List Char :=
  let (name, rest) := readNameFrom text.length text
  (String.ofList name, rest)

/-- Reads the content of a string up to its quote. A line that ends before makes the string bad. -/
def readStringFrom (quote : Char) : (rounds : Nat) → List Char → Bool × List Char × List Char
  | 0, text => (true, [], text)
  | _ + 1, [] => (true, [], [])
  | rounds + 1, c :: rest =>
    if c == quote then (true, [], rest)
    else if isLineEnd c then (false, [], c :: rest)
    else if c == '\\' then
      if rest.isEmpty then (true, [], [])
      else if startsWithLineEnd rest then readStringFrom quote rounds (dropLineEnd rest)
      else
        let (escaped, rest) := readEscape rest
        let (isGood, content, rest) := readStringFrom quote rounds rest
        (isGood, escaped :: content, rest)
    else
      let (isGood, content, rest) := readStringFrom quote rounds rest
      (isGood, (if c == '\x00' then replacement else c) :: content, rest)

def readString (quote : Char) (text : List Char) : Token × List Char :=
  let (isGood, content, rest) := readStringFrom quote text.length text
  (if isGood then .string (String.ofList content) else .badString (String.ofList content), rest)

def readExponent : List Char → Option Char × List Char × List Char
  | mark :: rest =>
    if mark == 'e' || mark == 'E' then
      match rest with
      | sign :: digit :: _ =>
        if (sign == '+' || sign == '-') && isDigit digit then
          let digits := (rest.drop 1).takeWhile isDigit
          (some sign, digits, rest.drop (1 + digits.length))
        else
          let digits := rest.takeWhile isDigit
          if digits.isEmpty then (none, [], mark :: rest)
          else (none, digits, rest.drop digits.length)
      | _ =>
        let digits := rest.takeWhile isDigit
        if digits.isEmpty then (none, [], mark :: rest) else (none, digits, rest.drop digits.length)
    else (none, [], mark :: rest)
  | [] => (none, [], [])

def readNumber (text : List Char) : Token × List Char :=
  let (sign, text) := match text with
    | '+' :: rest => (some '+', rest)
    | '-' :: rest => (some '-', rest)
    | _ => (none, text)
  let whole := text.takeWhile isDigit
  let text := text.drop whole.length
  let fraction := match text with
    | '.' :: rest => rest.takeWhile isDigit
    | _ => []
  let text := if fraction.isEmpty then text else text.drop (1 + fraction.length)
  let (exponentSign, exponent, text) := readExponent text
  let numeral : Numeral := ⟨sign, whole, fraction, exponentSign, exponent⟩
  match text with
  | '%' :: rest => (.number numeral .percent, rest)
  | _ =>
    if startsWithName text then
      let (name, rest) := readName text
      (.number numeral (.named name), rest)
    else (.number numeral .none, text)

def startsWithNumber : List Char → Bool
  | '.' :: d :: _ => isDigit d
  | s :: '.' :: d :: _ => isDigit s || ((s == '+' || s == '-') && isDigit d)
  | s :: d :: _ => isDigit s || ((s == '+' || s == '-') && isDigit d)
  | [d] => isDigit d
  | [] => false

def spoilsUrl (c : Char) : Bool :=
  c == '"' || c == '\x27' || c == '(' || c == '\x7f' || (c.toNat < 0x20 && c != '\x00')

def dropBadUrl : List Char → Bool × List Char
  | [] => (false, [])
  | ')' :: rest => (true, rest)
  | '\\' :: ')' :: rest => dropBadUrl rest
  | '\\' :: '\\' :: rest => dropBadUrl rest
  | _ :: rest => dropBadUrl rest

def readUrlFrom : (rounds : Nat) → List Char → Bool × List Char × List Char
  | 0, text => (true, [], text)
  | _ + 1, [] => (true, [], [])
  | rounds + 1, c :: rest =>
    if c == ')' then (true, [], rest)
    else if isAsciiBlank c then
      match rest.dropWhile isAsciiBlank with
      | [] => (true, [], [])
      | ')' :: rest => (true, [], rest)
      | _ :: rest => (false, [], rest)
    else if spoilsUrl c then (false, [], rest)
    else if c == '\\' then
      if startsWithLineEnd rest then (false, [], rest)
      else
        let (escaped, rest) := readEscape rest
        let (isGood, content, rest) := readUrlFrom rounds rest
        (isGood, escaped :: content, rest)
    else
      let (isGood, content, rest) := readUrlFrom rounds rest
      (isGood, (if c == '\x00' then replacement else c) :: content, rest)

def readUrl? (text : List Char) : Option (Token × List Char) :=
  match text.dropWhile isAsciiBlank with
  | '"' :: _ => none
  | '\x27' :: _ => none
  | text =>
    let (isGood, content, rest) := readUrlFrom text.length text
    if isGood then some (.url (String.ofList content), rest)
    else
      let (isClosed, final) := dropBadUrl rest
      let content := text.take (text.length - final.length)
      some (.badUrl (String.ofList (if isClosed then content.dropLast else content)), final)

def readIdent (text : List Char) : Token × List Char :=
  let (name, rest) := readName text
  match rest with
  | '(' :: rest =>
    if name.toLower == "url" then (readUrl? rest).getD (.function name, rest)
    else (.function name, rest)
  | _ => (.ident name, rest)

def readComment : List Char → List Char × List Char
  | [] => ([], [])
  | '*' :: '/' :: rest => ([], rest)
  | c :: rest =>
    let (text, rest) := readComment rest
    (c :: text, rest)

def comparison? (c : Char) : Option Comparison :=
  match c with
  | '~' => some .includes
  | '|' => some .dash
  | '^' => some .start
  | '$' => some .finish
  | '*' => some .part
  | _ => none

def single (c : Char) : Token :=
  match c with
  | '(' => .opener .round
  | ')' => .closer .round
  | '[' => .opener .square
  | ']' => .closer .square
  | '\x7b' => .opener .curly
  | '\x7d' => .closer .curly
  | ',' => .comma
  | ':' => .colon
  | ';' => .semicolon
  | _ => .delim c

def Token.next (c : Char) (rest : List Char) : Token × List Char :=
  if isAsciiBlank c then
    let more := rest.takeWhile isAsciiBlank
    (.blank (String.ofList (c :: more)), rest.drop more.length)
  else if c == '"' || c == '\x27' then readString c rest
  else if startsWithNumber (c :: rest) then readNumber (c :: rest)
  else if (comparison? c).isSome && rest.head? == some '=' then
    (match comparison? c with
      | some comparison => .compare comparison
      | none => .delim c, rest.drop 1)
  else match c, rest with
    | '/', '*' :: rest =>
      let (text, rest) := readComment rest
      (.comment (String.ofList text), rest)
    | '<', '!' :: '-' :: '-' :: rest => (.commentOpen, rest)
    | '-', '-' :: '>' :: rest => (.commentClose, rest)
    | '#', rest =>
      if startsWithName rest then
        let (name, rest) := readName rest
        (.hash name true, rest)
      else match rest with
        | d :: _ =>
          if isDigit d || d == '-' then
            let (name, rest) := readName rest
            (.hash name false, rest)
          else (.delim c, rest)
        | [] => (.delim c, rest)
    | '@', rest =>
      if startsWithName rest then
        let (name, rest) := readName rest
        (.atKeyword name, rest)
      else (.delim c, rest)
    | c, rest => if startsWithName (c :: rest) then readIdent (c :: rest) else (single c, rest)

def Token.scanFrom : (rounds : Nat) → List Char → List Token
  | 0, _ => []
  | _ + 1, [] => []
  | rounds + 1, c :: rest =>
    let (token, rest) := Token.next c rest
    token :: scanFrom rounds rest

def Token.scan (text : String) : List Token :=
  let chars := text.toList
  Token.scanFrom chars.length chars

end PageFeed.Selector
