import PageFeed.Html.Token.Text
import PageFeed.Text.Blank

/-! Tags as they stand in a page, from the letter that begins their name to their closing
bracket. -/

namespace PageFeed.Html.Token

open Text (isAsciiBlank foldAscii)

def nameOf (written : List Char) : String :=
  String.ofList (written.map fun c => foldAscii (replaceNul c))

def goesOnTagName (c : Char) : Bool := !isAsciiBlank c && c != '/' && c != '>'

def goesOnAttrName (c : Char) : Bool := goesOnTagName c && c != '='

def goesOnBareValue (c : Char) : Bool := !isAsciiBlank c && c != '>'

/-- Splits off a value at the head of a text: between quotes, or up to a blank or the closing
bracket. A value whose quotes are not closed takes all of the text. -/
def attrValue (text : List Char) : List Char × List Char :=
  match text with
  | '"' :: rest => (rest.takeWhile (· != '"'), (rest.dropWhile (· != '"')).tail)
  | '\x27' :: rest => (rest.takeWhile (· != '\x27'), (rest.dropWhile (· != '\x27')).tail)
  | _ => (text.takeWhile goesOnBareValue, text.dropWhile goesOnBareValue)

theorem length_attrValue (text : List Char) : (attrValue text).2.length ≤ text.length := by
  unfold attrValue
  split
  · next rest =>
    have shorter := (List.dropWhile_sublist (· != '"') (l := rest)).length_le
    simp only [List.length_tail, List.length_cons]
    omega
  · next rest =>
    have shorter := (List.dropWhile_sublist (· != '\x27') (l := rest)).length_le
    simp only [List.length_tail, List.length_cons]
    omega
  · exact (List.dropWhile_sublist _).length_le

def addAttr (attrs : List Attr) (name value : String) : List Attr :=
  if attrs.any fun attr => attr.name.localName == name then attrs
  else attrs ++ [⟨AttrName.plain name, value⟩]

def afterName (text : List Char) : List Char × List Char :=
  match text.dropWhile isAsciiBlank with
  | '=' :: rest => attrValue (rest.dropWhile isAsciiBlank)
  | rest => ([], rest)

theorem length_afterName (text : List Char) : (afterName text).2.length ≤ text.length := by
  have blanks := (List.dropWhile_sublist isAsciiBlank (l := text)).length_le
  unfold afterName
  split
  · next rest same =>
    have value := length_attrValue (rest.dropWhile isAsciiBlank)
    have more := (List.dropWhile_sublist isAsciiBlank (l := rest)).length_le
    rw [same, List.length_cons] at blanks
    omega
  · exact blanks

/-- Reads the attributes of a tag up to its closing bracket, after those in `attrs`. There is no
result when the page ends first. -/
def attrs? (attrs : List Attr) : List Char → Option (List Attr × Bool × List Char)
  | [] => none
  | c :: rest =>
    if isAsciiBlank c then attrs? attrs rest
    else if c = '>' then some (attrs, false, rest)
    else if c = '/' then
      if rest.head? = some '>' then some (attrs, true, rest.tail) else attrs? attrs rest
    else
      let name := c :: rest.takeWhile goesOnAttrName
      let value := afterName (rest.dropWhile goesOnAttrName)
      attrs? (addAttr attrs (nameOf name) (valueOf value.1)) value.2
termination_by text => text.length
decreasing_by
  · simp
  · simp
  · exact Nat.lt_succ_of_le
      (Nat.le_trans (length_afterName _) (List.dropWhile_sublist _).length_le)

def tag? (text : List Char) : Option (Tag × List Char) :=
  match attrs? [] (text.dropWhile goesOnTagName) with
  | none => none
  | some (attrs, selfClosing, rest) =>
    some (⟨nameOf (text.takeWhile goesOnTagName), attrs, selfClosing⟩, rest)

end PageFeed.Html.Token
