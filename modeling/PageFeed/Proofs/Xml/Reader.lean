import Mathlib.Data.List.Infix
import PageFeed.Xml.Markup

/-! A reader of the part of XML that feeds are written in: a declaration, tags with attributes, text
with the five predefined entities, and CDATA sections. It refuses what is not well-formed: a misplaced
`<` or `&`, a name that is none, an attribute given twice, tags that do not match, `]]>` in text, and
text outside of the root element. It refuses the rest of XML too: comments, processing instructions,
document types and character references. Any character may stand in a text. Text and CDATA sections are
both character data, and data that stands side by side is one stretch of it. Line ends and blanks are
kept as they are. -/

namespace PageFeed.Xml

/-- The attributes of a tag, in order. -/
abbrev Attributes := List (String × String)

/-- What a reader finds in a document one after the other. -/
inductive Token
  | declaration (attributes : Attributes)
  | startTag (name : String) (attributes : Attributes)
  | endTag (name : String)
  | characters (text : List Char)
deriving DecidableEq, Repr

/-- The blanks that may stand in tags and around the root element. -/
def isBlank (c : Char) : Bool := c == ' ' || c == '\n' || c == '\t' || c == '\r'

/-- The characters that a text with entities stands for. -/
def decode : List Char → Option (List Char)
  | [] => some []
  | '&' :: 'a' :: 'm' :: 'p' :: ';' :: rest => (decode rest).map ('&' :: ·)
  | '&' :: 'l' :: 't' :: ';' :: rest => (decode rest).map ('<' :: ·)
  | '&' :: 'g' :: 't' :: ';' :: rest => (decode rest).map ('>' :: ·)
  | '&' :: 'a' :: 'p' :: 'o' :: 's' :: ';' :: rest => (decode rest).map ('\x27' :: ·)
  | '&' :: 'q' :: 'u' :: 'o' :: 't' :: ';' :: rest => (decode rest).map ('"' :: ·)
  | '&' :: _ => none
  | c :: rest => (decode rest).map (c :: ·)

/-- Cuts a text at the first place where a mark stands. -/
def cutAt (mark : List Char) : List Char → Option (List Char × List Char)
  | [] => none
  | c :: rest =>
    match mark.isPrefixOf? (c :: rest) with
    | some behind => some ([], behind)
    | none => (cutAt mark rest).map fun parts => (c :: parts.1, parts.2)

theorem length_cutAt {mark text before behind : List Char}
    (cut : cutAt mark text = some (before, behind)) : behind.length ≤ text.length := by
  induction text generalizing before with
  | nil => cases cut
  | cons c rest ih =>
    rw [cutAt] at cut
    split at cut
    · next found =>
      cases cut
      have parts := List.isPrefixOf?_eq_some_iff_append_eq.1 found
      rw [← parts, List.length_append]
      omega
    · obtain ⟨⟨inner, after⟩, held, same⟩ := Option.map_eq_some_iff.1 cut
      cases same
      exact (ih held).trans (Nat.le_succ _)

/-- Reads a name. -/
def readName (text : List Char) : Option (String × List Char) :=
  if isName (String.ofList (text.takeWhile isNamePart)) then
    some (String.ofList (text.takeWhile isNamePart), text.dropWhile isNamePart)
  else none

/-- Reads a value in quotes, which may hold entities but no tags. -/
def readValue : List Char → Option (String × List Char)
  | [] => none
  | quote :: text =>
    match text.dropWhile (· != quote) with
    | [] => none
    | _ :: rest =>
      if (quote == '"' || quote == '\x27') && !(text.takeWhile (· != quote)).contains '<' then
        (decode (text.takeWhile (· != quote))).map fun value => (String.ofList value, rest)
      else none

/-- Reads an attribute. -/
def readAttr (text : List Char) : Option ((String × String) × List Char) :=
  match readName text with
  | some (name, '=' :: rest) => (readValue rest).map fun read => ((name, read.1), read.2)
  | _ => none

theorem length_readName {text rest : List Char} {name : String}
    (read : readName text = some (name, rest)) : rest.length ≤ text.length := by
  unfold readName at read
  split at read
  · cases read
    exact (List.dropWhile_sublist _).length_le
  · cases read

theorem length_readValue {text rest : List Char} {value : String}
    (read : readValue text = some (value, rest)) : rest.length < text.length := by
  unfold readValue at read
  split at read
  · cases read
  · next quote text =>
    have shorter := (List.dropWhile_sublist (l := text) (· != quote)).length_le
    split at read
    · cases read
    · next mark behind found =>
      split at read
      · obtain ⟨_, _, same⟩ := Option.map_eq_some_iff.1 read
        cases same
        simp only [found, List.length_cons] at shorter ⊢
        omega
      · cases read

theorem length_readAttr {text rest : List Char} {attr : String × String}
    (read : readAttr text = some (attr, rest)) : rest.length < text.length := by
  unfold readAttr at read
  split at read
  · next name behind found =>
    have first := length_readName found
    obtain ⟨⟨value, after⟩, held, same⟩ := Option.map_eq_some_iff.1 read
    cases same
    have second := length_readValue held
    simp only [List.length_cons] at first ⊢
    omega
  · cases read

/-- Reads attributes, each behind blanks, and the blanks at the end of a tag. -/
def readAttrs (text : List Char) : Attributes × List Char :=
  match text with
  | [] => ([], [])
  | c :: behind =>
    if isBlank c then
      match _read : readAttr (behind.dropWhile isBlank) with
      | some (attr, rest) => (readAttrs rest).map (attr :: ·) id
      | none => ([], behind.dropWhile isBlank)
    else ([], c :: behind)
termination_by text.length
decreasing_by
  have shorter := length_readAttr ‹readAttr _ = _›
  have blanks := (List.dropWhile_sublist (l := behind) isBlank).length_le
  simp only [List.length_cons]
  omega

theorem length_readAttrs (text : List Char) : (readAttrs text).2.length ≤ text.length := by
  fun_induction readAttrs text with
  | case1 => simp
  | case2 c behind blank attr rest read ih =>
    have shorter := length_readAttr read
    have blanks := (List.dropWhile_sublist (l := behind) isBlank).length_le
    simp only [Prod.map_snd, id_eq, List.length_cons]
    omega
  | case3 c behind blank read =>
    have blanks := (List.dropWhile_sublist (l := behind) isBlank).length_le
    simp only [List.length_cons]
    omega
  | case4 => simp

/-- Reads a name with attributes, none of them twice. -/
def readNamed (text : List Char) : Option (String × Attributes × List Char) :=
  (readName text).bind fun named =>
    if ((readAttrs named.2).1.map Prod.fst).Nodup then some (named.1, readAttrs named.2) else none

theorem length_readNamed {text rest : List Char} {name : String} {attrs : Attributes}
    (read : readNamed text = some (name, attrs, rest)) : rest.length ≤ text.length := by
  obtain ⟨⟨word, behind⟩, found, held⟩ := Option.bind_eq_some_iff.1 read
  split at held
  · obtain ⟨_, same⟩ := Prod.mk.inj (Option.some.inj held)
    have attrs := length_readAttrs behind
    rw [same] at attrs
    exact attrs.trans (length_readName found)
  · cases held

/-- Reads the characters up to the next tag. -/
def readCharacters (text : List Char) : Option (List Char) :=
  if (cutAt cdataClose (text.takeWhile (· != '<'))).isSome then none
  else decode (text.takeWhile (· != '<'))

/-- Reads what a document goes on with. An element without content is a start tag and an end tag at
once. -/
def readTokens (text : List Char) : Option (List Token × List Char) :=
  match text with
  | '<' :: '?' :: 'x' :: 'm' :: 'l' :: rest =>
    match readAttrs rest with
    | (attrs, '?' :: '>' :: rest) => some ([.declaration attrs], rest)
    | _ => none
  | '<' :: '!' :: rest =>
    (cdataOpen.isPrefixOf? ('<' :: '!' :: rest)).bind fun inside =>
      (cutAt cdataClose inside).map fun parts => ([.characters parts.1], parts.2)
  | '<' :: '/' :: rest =>
    match readName rest with
    | some (name, rest) =>
      match rest.dropWhile isBlank with
      | '>' :: rest => some ([.endTag name], rest)
      | _ => none
    | none => none
  | '<' :: rest =>
    match readNamed rest with
    | some (name, attrs, '>' :: rest) => some ([.startTag name attrs], rest)
    | some (name, attrs, '/' :: '>' :: rest) => some ([.startTag name attrs, .endTag name], rest)
    | _ => none
  | text =>
    (readCharacters text).map fun characters => ([.characters characters], text.dropWhile (· != '<'))

theorem length_readTokens {c : Char} {behind rest : List Char} {tokens : List Token}
    (read : readTokens (c :: behind) = some (tokens, rest)) : rest.length ≤ behind.length := by
  unfold readTokens at read
  split at read
  · next inside same =>
    cases same
    have shorter := length_readAttrs inside
    split at read
    · next attrs after found =>
      cases read
      rw [found] at shorter
      simp only [List.length_cons] at shorter ⊢
      omega
    · cases read
  · next inside _ same =>
    cases same
    obtain ⟨content, opened, read⟩ := Option.bind_eq_some_iff.1 read
    obtain ⟨⟨before, after⟩, cut, same⟩ := Option.map_eq_some_iff.1 read
    cases same
    have parts := congrArg List.length (List.isPrefixOf?_eq_some_iff_append_eq.1 opened)
    have shorter := length_cutAt cut
    have mark : cdataOpen.length = 9 := rfl
    simp only [List.length_append, List.length_cons, mark] at parts ⊢
    omega
  · next inside _ same =>
    cases same
    split at read
    · next name after found =>
      have named := length_readName found
      have blanks := (List.dropWhile_sublist (l := after) isBlank).length_le
      split at read
      · next last dropped =>
        cases read
        rw [dropped] at blanks
        simp only [List.length_cons] at blanks ⊢
        omega
      · cases read
    · cases read
  · next inside _ _ _ same =>
    cases same
    split at read
    · next name attrs after found =>
      cases read
      have shorter := length_readNamed found
      simp only [List.length_cons] at shorter
      omega
    · next name attrs after found =>
      cases read
      have shorter := length_readNamed found
      simp only [List.length_cons] at shorter
      omega
    · cases read
  · next text _ _ _ notTag =>
    obtain ⟨_, _, same⟩ := Option.map_eq_some_iff.1 read
    cases same
    have other : c ≠ '<' := by
      rintro rfl
      exact notTag behind rfl
    rw [List.dropWhile_cons_of_pos (by simpa using other)]
    exact (List.dropWhile_sublist _).length_le

/-- The tokens of a document. -/
def tokens (text : List Char) : Option (List Token) :=
  match text with
  | [] => some []
  | c :: behind =>
    match _read : readTokens (c :: behind) with
    | some (first, rest) => (tokens rest).map (first ++ ·)
    | none => none
termination_by text.length
decreasing_by exact Nat.lt_succ_of_le (length_readTokens ‹readTokens _ = _›)

/-- What stands in a document: elements, and stretches of character data. -/
inductive Node
  | element (name : String) (attrs : Attributes) (children : List Node)
  | characters (text : List Char)

/-- The nodes read so far in the innermost open element, the last first, and the open elements, each
with the nodes that stand before it in its own parent. -/
structure Reading where
  nodes : List Node := []
  opened : List (String × Attributes × List Node) := []

/-- Adds character data behind nodes, to the data that stands there if there is some. -/
def addCharacters (text : List Char) : List Node → List Node
  | .characters before :: nodes => .characters (before ++ text) :: nodes
  | nodes => if text.isEmpty then nodes else .characters text :: nodes

/-- Takes in one token. Tags have to match, and only blanks stand outside of the root element. -/
def Reading.take (reading : Reading) : Token → Option Reading
  | .declaration _ => none
  | .startTag name attrs => some ⟨[], (name, attrs, reading.nodes) :: reading.opened⟩
  | .endTag name =>
    match reading.opened with
    | [] => none
    | (other, attrs, before) :: outer =>
      if name = other then some ⟨.element name attrs reading.nodes.reverse :: before, outer⟩
      else none
  | .characters text =>
    if !reading.opened.isEmpty then
      some { reading with nodes := addCharacters text reading.nodes }
    else if text.all isBlank then some reading
    else none

/-- A document: the attributes of its declaration, and its root element. -/
structure Document where
  declaration : Attributes
  root : Node

/-- Reads a document. -/
def readDocument (text : List Char) : Option Document :=
  match tokens text with
  | some (.declaration attrs :: rest) =>
    match rest.foldlM Reading.take {} with
    | some ⟨[.element name given children], []⟩ => some ⟨attrs, .element name given children⟩
    | _ => none
  | _ => none

end PageFeed.Xml
