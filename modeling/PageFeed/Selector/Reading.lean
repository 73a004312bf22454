import PageFeed.Selector.Fault
import PageFeed.Selector.Part
import PageFeed.Selector.Token.Lexer

/-! Selectors read from their text. What stands between two commas is read on its own, and so is
what stands in a bracket. Where a list of choices is forgiving, a choice that cannot be read is one
that no element satisfies. -/

namespace PageFeed.Selector

/-- Reading from the front of a list of parts. What is left is known after a fault too. -/
abbrev Reading := ExceptT Fault (StateM (List Part))

inductive ChoiceKind
  | forgiving
  | strict
  | relative
  | lone
deriving DecidableEq, Repr

structure Setting where
  allowsPseudoElements : Bool := true
  allowsCombinators : Bool := true
  allowsRelative : Bool := true
deriving DecidableEq, Repr, Inhabited

namespace Reading

def outcome {α : Type} (reading : Reading α) (parts : List Part) : Except Fault α × List Part :=
  Id.run (StateT.run (ExceptT.run reading) parts)

def skipSpace : Reading PUnit := modify fun parts => parts.dropWhile Part.isSpace

def isComment (part : Part) : Bool :=
  match part with
  | .single (.comment _) => true
  | _ => false

def next? : Reading (Option Part) := do
  match (← get).dropWhile isComment with
  | part :: rest =>
    set rest
    return some part
  | [] =>
    set ([] : List Part)
    return none

def next : Reading Part := do
  match ← next? with
  | some part => return part
  | none => throw .unexpectedEnd

def nextSolid? : Reading (Option Part) := do
  skipSpace
  next?

def nextSolid : Reading Part := do
  skipSpace
  next

def expectEnd : Reading PUnit := do
  match (← get).dropWhile Part.isSpace with
  | part :: _ => throw (.unexpected part.token)
  | [] => return

def within {α : Type} (content : List Part) (reading : Reading α) : Reading α :=
  match (outcome (do let result ← reading; expectEnd; return result) content).1 with
  | .ok result => return result
  | .error fault => throw fault

inductive Qualifier
  | unstated
  | noVocabulary
  | anyVocabulary
deriving DecidableEq, Repr

inductive Qualified
  | absent (token : Token)
  | found (qualifier : Qualifier) (name : Option String)
deriving DecidableEq, Repr

def readLocal (inAttr : Bool) (qualifier : Qualifier) : Reading Qualified := do
  match ← next with
  | .single (.ident name) => return .found qualifier (some name)
  | part =>
    match part.token with
    | .delim '*' =>
      if inAttr then throw (.unnamedAttrInSpace part.token) else return .found qualifier none
    | token => throw (if inAttr then .unnamedAttrInSpace token else .unnamedInSpace token)

def isBar : Option Part → Bool
  | some (.single (.delim '|')) => true
  | _ => false

/-- Reads a name that may be qualified. There are no declared vocabularies, so a name in front of
the bar is refused. -/
def readQualified (inAttr : Bool) : Reading Qualified := do
  let start ← get
  match ← next? with
  | none =>
    set start
    throw .unexpectedEnd
  | some (.single (.ident name)) =>
    let behind ← get
    if isBar (← next?) then throw (.unknownSpace name)
    set behind
    return .found .unstated (some name)
  | some (.single (.delim '*')) =>
    let behind ← get
    let follower ← next?
    if isBar follower then readLocal inAttr .anyVocabulary
    else if inAttr then
      match follower with
      | some part => throw (.expectedBar part.token)
      | none => throw .unexpectedEnd
    else
      set behind
      return .found .unstated none
  | some (.single (.delim '|')) => readLocal inAttr .noVocabulary
  | some part =>
    set start
    return .absent part.token

def readType : Reading (List Simple) := do
  let outcome : Except Fault Qualified ←
    tryCatch (Except.ok <$> readQualified false) fun fault => return .error fault
  match outcome with
  | .error .unexpectedEnd => return []
  | .error fault => throw fault
  | .ok (.absent _) => return []
  | .ok (.found qualifier name) =>
    let condition := match name with
      | some name => Simple.type name
      | none => .universal
    return if qualifier = .noVocabulary then [.noVocabulary, condition] else [condition]

def caselessNames : List String := [
  "accept", "accept-charset", "align", "alink", "axis", "bgcolor", "charset", "checked", "clear",
  "codetype", "color", "compact", "declare", "defer", "dir", "direction", "disabled", "enctype",
  "face", "frame", "hreflang", "http-equiv", "lang", "language", "link", "media", "method",
  "multiple", "nohref", "noresize", "noshade", "nowrap", "readonly", "rel", "rev", "rules", "scope",
  "scrolling", "selected", "shape", "target", "text", "type", "valign", "valuetype", "vlink"]

def readCaseMark : Reading (Option CaseRule) := do
  match ← nextSolid? with
  | none => return none
  | some (.single (.ident mark)) =>
    if mark.toLower == "i" then return some .ignored
    else if mark.toLower == "s" then return some .exact
    else throw (.unexpected (.ident mark))
  | some part => throw (.unexpected part.token)

def readValue : Reading String := do
  match ← nextSolid with
  | .single (.ident value) => return value
  | .single (.string value) => return value
  | part => throw (.badValue part.token)

def readTest (isAnySpace : Bool) (name : String) : Reading (Option ValueTest) := do
  match ← nextSolid? with
  | none => return none
  | some part =>
    let comparison ← match part.token with
      | .delim '=' => pure Comparison.equal
      | .compare comparison => pure comparison
      | token => throw (.unknownOperator token)
    let value ← readValue
    let caseRule := (← readCaseMark).getD
      (if !isAnySpace && caselessNames.contains name.toLower then .ignoredInHtml else .exact)
    return some ⟨comparison, value, caseRule⟩

def readAttr : Reading Simple := do
  skipSpace
  match ← readQualified true with
  | .absent token => throw (.unnamedAttr token)
  | .found _ none => throw .unexpectedEnd
  | .found qualifier (some name) =>
    let isAnySpace := qualifier = .anyVocabulary
    return .attr isAnySpace name (← readTest isAnySpace name)

/-- The offset in a name of the form `n-5`. -/
def dashOffset? (name : List Char) : Option Int :=
  match name with
  | n :: '-' :: digits =>
    if (n == 'n' || n == 'N') && !digits.isEmpty && digits.all Text.isDigit then
      some (Numeral.clamp (-(Text.decimal digits : Int)))
    else none
  | _ => none

def readOffset (step sign : Int) : Reading Position := do
  let part ← nextSolid
  match part with
  | .single (.number numeral .none) =>
    match numeral.sign, numeral.int? with
    | none, some n => return ⟨step, sign * n⟩
    | _, _ => throw (.unexpected part.token)
  | _ => throw (.unexpected part.token)

def readSignedOffset (step : Int) : Reading Position := do
  let start ← get
  match ← nextSolid? with
  | some (.single (.delim '+')) => readOffset step 1
  | some (.single (.delim '-')) => readOffset step (-1)
  | some (.single (.number numeral .none)) =>
    match numeral.sign, numeral.int? with
    | some _, some n => return ⟨step, n⟩
    | _, _ =>
      set start
      return ⟨step, 0⟩
  | _ =>
    set start
    return ⟨step, 0⟩

/-- Reads a position that starts with a name. Behind a plus sign only a step is left. -/
def readNamedPosition (isSigned : Bool) (name : String) : Reading Position := do
  let refused : Reading Position := throw (.unexpected (.ident name))
  let unsigned (step : Int) (chars : List Char) : Reading Position :=
    if chars == ['n'] then readSignedOffset step
    else if chars == ['n', '-'] then readOffset step (-1)
    else match dashOffset? chars with
      | some offset => return ⟨step, offset⟩
      | none => refused
  match name.toLower.toList with
  | ['e', 'v', 'e', 'n'] => if isSigned then refused else return ⟨2, 0⟩
  | ['o', 'd', 'd'] => if isSigned then refused else return ⟨2, 1⟩
  | '-' :: rest => if isSigned then refused else unsigned (-1) rest
  | chars => unsigned 1 chars

def readPosition : Reading Position := do
  let part ← nextSolid
  match part with
  | .single (.number numeral unit) =>
    match numeral.int?, unit with
    | some offset, .none => return ⟨0, offset⟩
    | some step, .named name =>
      if name.toLower == "n" then readSignedOffset step
      else if name.toLower == "n-" then readOffset step (-1)
      else match dashOffset? name.toList with
        | some offset => return ⟨step, offset⟩
        | none => throw (.unexpected (.ident name))
    | _, _ => throw (.unexpected part.token)
  | .single (.ident name) => readNamedPosition false name
  | .single (.delim '+') =>
    match ← next with
    | .single (.ident name) => readNamedPosition true name
    | other => throw (.unexpected other.token)
  | _ => throw (.unexpected part.token)

abbrev ReadChoices := Setting → ChoiceKind → List Part → Except Fault (List Complex)

def pseudoClass? (name : String) : Option Simple :=
  match name with
  | "first-child" => some (.position ⟨false, false⟩ ⟨0, 1⟩)
  | "last-child" => some (.position ⟨false, true⟩ ⟨0, 1⟩)
  | "first-of-type" => some (.position ⟨true, false⟩ ⟨0, 1⟩)
  | "last-of-type" => some (.position ⟨true, true⟩ ⟨0, 1⟩)
  | "only-child" => some (.only false)
  | "only-of-type" => some (.only true)
  | "root" => some .root
  | "empty" => some .empty
  | "scope" => some .scope
  | _ => none

def counting? (name : String) : Option Counting :=
  match name with
  | "nth-child" => some ⟨false, false⟩
  | "nth-last-child" => some ⟨false, true⟩
  | "nth-of-type" => some ⟨true, false⟩
  | "nth-last-of-type" => some ⟨true, true⟩
  | _ => none

def readNested (readChoices : ReadChoices) (setting : Setting) (kind : ChoiceKind)
    (content : List Part) : Reading (List Complex) :=
  match readChoices setting kind content with
  | .ok choices => return choices
  | .error fault => throw fault

def readFunction (readChoices : ReadChoices) (setting : Setting) (name : String)
    (content : List Part) : Reading Simple := do
  let inner := { setting with allowsPseudoElements := false }
  match counting? name.toLower, name.toLower with
  | some counting, _ => .position counting <$> within content readPosition
  | none, "is" => .anyOf <$> readNested readChoices inner .forgiving content
  | none, "where" => .anyOf <$> readNested readChoices inner .forgiving content
  | none, "not" => .noneOf <$> readNested readChoices inner .strict content
  | none, "has" =>
    if setting.allowsRelative then
      .has <$> readNested readChoices { inner with allowsRelative := false } .relative content
    else throw .misplaced
  | none, "host" =>
    let _ ← readNested readChoices { inner with allowsCombinators := false } .lone content
    return .never
  | none, _ => throw (.unsupportedPseudo name)

def oldPseudoElements : List String := ["before", "after", "first-line", "first-letter"]

/-- Reads what stands behind a colon. There are no pseudo-elements. -/
def readPseudo (readChoices : ReadChoices) (setting : Setting) : Reading Simple := do
  let first ← next
  let isDouble := first.token = .colon
  let part ← if isDouble then next else pure first
  let name ← match part.token with
    | .ident name => pure name
    | .function name => pure name
    | token => throw (.unnamedPseudo token)
  if isDouble || oldPseudoElements.contains name.toLower then
    throw (if setting.allowsPseudoElements then .unsupportedPseudo name else .misplaced)
  else
    match part with
    | .block _ content => readFunction readChoices setting name content
    | .single _ =>
      match pseudoClass? name.toLower with
      | some condition => return condition
      | none => throw (.unsupportedPseudo name)

def readSimple? (readChoices : ReadChoices) (setting : Setting) : Reading (Option Simple) := do
  let start ← get
  match ← next? with
  | some (.single (.hash name true)) => return some (.id name)
  | some (.single (.delim '.')) =>
    match ← next with
    | .single (.ident name) => return some (.className name)
    | part => throw (.unnamedClass part.token)
  | some (.block (.opener .square) content) => some <$> within content readAttr
  | some (.single .colon) => some <$> readPseudo readChoices setting
  | _ =>
    set start
    return none

def readSimples (readChoices : ReadChoices) (setting : Setting) :
    (rounds : Nat) → Reading (List Simple)
  | 0 => return []
  | rounds + 1 => do
    match ← readSimple? readChoices setting with
    | none => return []
    | some condition => return condition :: (← readSimples readChoices setting rounds)

def readCompound (readChoices : ReadChoices) (setting : Setting) : Reading (List Simple) := do
  skipSpace
  let type ← readType
  return type ++ (← readSimples readChoices setting (← get).length)

/-- The combinator at the front of some parts. Blanks alone are one if something follows them. -/
def combinatorFrom (sawBlank : Bool) : List Part → Option Combinator × List Part
  | [] => (none, [])
  | part :: rest =>
    match part.token with
    | .comment _ => combinatorFrom sawBlank rest
    | .blank _ => combinatorFrom true rest
    | .delim '>' => (some .child, rest)
    | .delim '+' => (some .nextSibling, rest)
    | .delim '~' => (some .laterSibling, rest)
    | _ => (if sawBlank then some .descendant else none, part :: rest)

def readCombinator? : Reading (Option Combinator) :=
  modifyGet (combinatorFrom false)

def readRelated (readChoices : ReadChoices) (setting : Setting) :
    (rounds : Nat) → Option (Complex × Combinator) → Reading Complex
  | 0, _ => throw .empty
  | rounds + 1, left => do
    let parts ← readCompound readChoices setting
    if parts.isEmpty then throw (if left.isSome then .dangling else .empty)
    let complex := match left with
      | some (left, combinator) => .related left combinator parts
      | none => .compound parts
    match ← readCombinator? with
    | none => return complex
    | some combinator =>
      if setting.allowsCombinators then
        readRelated readChoices setting rounds (some (complex, combinator))
      else throw .misplaced

def readComplex (readChoices : ReadChoices) (setting : Setting) (isRelative : Bool) :
    Reading Complex := do
  skipSpace
  let left ← if isRelative then do
      pure (some (.compound [.anchor], (← readCombinator?).getD .descendant))
    else pure none
  readRelated readChoices setting ((← get).length + 1) left

def readChoice (readChoices : ReadChoices) (setting : Setting) (kind : ChoiceKind)
    (parts : List Part) : Except Fault Complex :=
  let reading : Reading Complex := do
    let complex ← readComplex readChoices setting (kind = .relative)
    expectEnd
    return complex
  match outcome reading parts with
  | (.ok complex, _) => .ok complex
  | (.error fault, rest) =>
    if kind = .forgiving then
      match Part.firstBadOfAll? rest with
      | some token => .error (.unexpected token)
      | none => .ok (.compound [.never])
    else .error fault

def readChoicesTo : (depth : Nat) → ReadChoices
  | 0, _, _, _ => .error .empty
  | depth + 1, setting, kind, parts =>
    let items := if kind = .lone then [parts] else Part.splitAtCommas parts
    items.mapM (readChoice (readChoicesTo depth) setting kind)

end Reading

/-- Reads a selector. Brackets cannot be nested deeper than there are tokens. -/
def read (text : String) : Except Fault PageFeed.Selector :=
  let tokens := Token.scan text
  (Reading.readChoicesTo (tokens.length + 1) {} .strict (Part.ofTokens tokens)).map Selector.mk

end PageFeed.Selector
