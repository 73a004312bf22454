import PageFeed.Yaml.Token.Lexer
import PageFeed.Yaml.Tree.Basic

/-! Trees read from tokens. Values may be left out in many places; they are then blank. A list of
tokens that fits no tree has none. -/

namespace PageFeed.Yaml

abbrev Handles := List (String × TagBytes)

def commonHandles : Handles := [("!", .ofText "!"), ("!!", .ofText "tag:yaml.org,2002:")]

abbrev Outcome := Option (Tree String × List Token)

def nextIs (kinds : List TokenKind) (tokens : List Token) : Bool :=
  (tokens.head?).any fun token => kinds.contains token.kind

def blankHere (tokens : List Token) : Outcome :=
  (tokens.head?).map fun token => (Tree.blank token.start, tokens)

def resolveTag? (handles : Handles) (handle : String) (rest : TagBytes) : Option TagBytes :=
  if handle.isEmpty then some rest else (handles.lookup handle).map (· ++ rest)

def readProperties? (handles : Handles) (tokens : List Token) :
    Option (Properties × Spot × List Token) :=
  match tokens with
  | ⟨.anchor anchor, start, _⟩ :: ⟨.tag handle rest, _, _⟩ :: tokens =>
    (resolveTag? handles handle rest).map fun tag => (⟨some anchor, some tag⟩, start, tokens)
  | ⟨.tag handle rest, start, _⟩ :: ⟨.anchor anchor, _, _⟩ :: tokens =>
    (resolveTag? handles handle rest).map fun tag => (⟨some anchor, some tag⟩, start, tokens)
  | ⟨.anchor anchor, start, _⟩ :: tokens => some (⟨some anchor, none⟩, start, tokens)
  | ⟨.tag handle rest, start, _⟩ :: tokens =>
    (resolveTag? handles handle rest).map fun tag => (⟨none, some tag⟩, start, tokens)
  | token :: _ => some ({}, token.start, tokens)
  | [] => none

mutual

/-- Reads a value. Blocks and sequences without indentation are not allowed everywhere. The fuel
bounds the number of steps. -/
def readTree? (handles : Handles) : (fuel : Nat) → (block indentless : Bool) → List Token → Outcome
  | 0, _, _, _ => none
  | fuel + 1, block, indentless, tokens =>
    match tokens with
    | ⟨.alias name, start, _⟩ :: rest => some (.alias start name, rest)
    | _ => do
      let (properties, start, tokens) ← readProperties? handles tokens
      match tokens with
      | [] => none
      | token :: rest =>
        match token.kind with
        | .blockEntry =>
          if indentless then do
            let (items, rest) ← readIndentless? handles fuel tokens
            some (.sequence start properties items, rest)
          else if properties == {} then none
          else some (.scalar start properties .plain "", tokens)
        | .scalar style text => some (.scalar start properties style text, rest)
        | .flowSequence => do
          let (items, rest) ← readFlowItems? handles fuel true rest
          some (.sequence start properties items, rest)
        | .flowMapping => do
          let (entries, rest) ← readFlowEntries? handles fuel true rest
          some (.mapping start properties entries, rest)
        | kind =>
          if block && kind == .blockSequence then do
            let (items, rest) ← readBlockItems? handles fuel rest
            some (.sequence start properties items, rest)
          else if block && kind == .blockMapping then do
            let (entries, rest) ← readBlockEntries? handles fuel rest
            some (.mapping start properties entries, rest)
          else if properties == {} then none
          else some (.scalar start properties .plain "", tokens)

def readIndentless? (handles : Handles) :
    (fuel : Nat) → List Token → Option (List (Tree String) × List Token)
  | 0, _ => none
  | fuel + 1, tokens =>
    match tokens with
    | ⟨.blockEntry, _, stop⟩ :: rest => do
      let (item, rest) ←
        if nextIs [.blockEntry, .key, .value, .blockEnd] rest then some (Tree.blank stop, rest)
        else readTree? handles fuel true false rest
      let (items, rest) ← readIndentless? handles fuel rest
      some (item :: items, rest)
    | _ => some ([], tokens)

def readBlockItems? (handles : Handles) :
    (fuel : Nat) → List Token → Option (List (Tree String) × List Token)
  | 0, _ => none
  | fuel + 1, tokens =>
    match tokens with
    | ⟨.blockEntry, _, stop⟩ :: rest => do
      let (item, rest) ←
        if nextIs [.blockEntry, .blockEnd] rest then some (Tree.blank stop, rest)
        else readTree? handles fuel true false rest
      let (items, rest) ← readBlockItems? handles fuel rest
      some (item :: items, rest)
    | ⟨.blockEnd, _, _⟩ :: rest => some ([], rest)
    | _ => none

def readBlockEntries? (handles : Handles) :
    (fuel : Nat) → List Token → Option (List (Tree String × Tree String) × List Token)
  | 0, _ => none
  | fuel + 1, tokens =>
    match tokens with
    | ⟨.key, _, stop⟩ :: rest => do
      let (key, rest) ←
        if nextIs [.key, .value, .blockEnd] rest then some (Tree.blank stop, rest)
        else readTree? handles fuel true true rest
      let (value, rest) ← readBlockValue? handles fuel rest
      let (entries, rest) ← readBlockEntries? handles fuel rest
      some ((key, value) :: entries, rest)
    | ⟨.blockEnd, _, _⟩ :: rest => some ([], rest)
    | _ => none

def readBlockValue? (handles : Handles) : (fuel : Nat) → List Token → Outcome
  | 0, _ => none
  | fuel + 1, tokens =>
    match tokens with
    | ⟨.value, _, stop⟩ :: rest =>
      if nextIs [.key, .value, .blockEnd] rest then some (Tree.blank stop, rest)
      else readTree? handles fuel true true rest
    | _ => blankHere tokens

/-- Reads the members of a sequence in brackets with its end. A key among them starts a mapping with
a single entry. -/
def readFlowItems? (handles : Handles) :
    (fuel : Nat) → (isFirst : Bool) → List Token → Option (List (Tree String) × List Token)
  | 0, _, _ => none
  | fuel + 1, isFirst, tokens => do
    if nextIs [.flowSequenceEnd] tokens then some ([], tokens.drop 1)
    else
      let tokens ←
        if isFirst then some tokens
        else if nextIs [.flowEntry] tokens then some (tokens.drop 1)
        else none
      match tokens with
      | ⟨.flowSequenceEnd, _, _⟩ :: rest => some ([], rest)
      | ⟨.key, start, _⟩ :: rest =>
        let (entry, rest) ← readSingleEntry? handles fuel rest
        let (items, rest) ← readFlowItems? handles fuel false rest
        some (.mapping start {} [entry] :: items, rest)
      | _ =>
        let (item, rest) ← readTree? handles fuel false false tokens
        let (items, rest) ← readFlowItems? handles fuel false rest
        some (item :: items, rest)

/-- Reads the entry behind a key in a sequence in brackets. Where the key is left out, the token in
its place is dropped. -/
def readSingleEntry? (handles : Handles) :
    (fuel : Nat) → List Token → Option ((Tree String × Tree String) × List Token)
  | 0, _ => none
  | fuel + 1, tokens => do
    let (key, rest) ←
      if nextIs [.value, .flowEntry, .flowSequenceEnd] tokens then
        (tokens.head?).map fun token => (Tree.blank token.stop, tokens.drop 1)
      else readTree? handles fuel false false tokens
    let (value, rest) ← readFlowValue? handles fuel .flowSequenceEnd rest
    some ((key, value), rest)

def readFlowValue? (handles : Handles) :
    (fuel : Nat) → (close : TokenKind) → List Token → Outcome
  | 0, _, _ => none
  | fuel + 1, close, tokens =>
    match tokens with
    | ⟨.value, _, _⟩ :: rest =>
      if nextIs [.flowEntry, close] rest then blankHere rest
      else readTree? handles fuel false false rest
    | _ => blankHere tokens

def readFlowEntries? (handles : Handles) :
    (fuel : Nat) → (isFirst : Bool) → List Token →
      Option (List (Tree String × Tree String) × List Token)
  | 0, _, _ => none
  | fuel + 1, isFirst, tokens => do
    if nextIs [.flowMappingEnd] tokens then some ([], tokens.drop 1)
    else
      let tokens ←
        if isFirst then some tokens
        else if nextIs [.flowEntry] tokens then some (tokens.drop 1)
        else none
      match tokens with
      | ⟨.flowMappingEnd, _, _⟩ :: rest => some ([], rest)
      | ⟨.key, _, _⟩ :: rest =>
        let (key, rest) ←
          if nextIs [.value, .flowEntry, .flowMappingEnd] rest then blankHere rest
          else readTree? handles fuel false false rest
        let (value, rest) ← readFlowValue? handles fuel .flowMappingEnd rest
        let (entries, rest) ← readFlowEntries? handles fuel false rest
        some ((key, value) :: entries, rest)
      | _ =>
        let (key, rest) ← readTree? handles fuel false false tokens
        let (value, rest) ← blankHere rest
        let (entries, rest) ← readFlowEntries? handles fuel false rest
        some ((key, value) :: entries, rest)

end

structure Directives where
  hasVersion : Bool := false
  handles : Handles := []
deriving Inhabited

def readDirectives? : Directives → List Token → Option (Directives × List Token)
  | directives, ⟨.version major minor, _, _⟩ :: rest =>
    if !directives.hasVersion && major == 1 && (minor == 1 || minor == 2) then
      readDirectives? { directives with hasVersion := true } rest
    else none
  | directives, ⟨.tagHandle handle lead, _, _⟩ :: rest =>
    if (directives.handles.lookup handle).isSome then none
    else readDirectives? { directives with handles := directives.handles ++ [(handle, lead)] } rest
  | directives, tokens => some (directives, tokens)

def atContentEnd (tokens : List Token) : Bool :=
  match tokens with
  | ⟨.version _ _, _, _⟩ :: _ => true
  | ⟨.tagHandle _ _, _, _⟩ :: _ => true
  | _ => nextIs [.documentStart, .documentEnd, .finish] tokens

def readContent? (handles : Handles) (mayBeBlank : Bool) (tokens : List Token) : Outcome := do
  let (tree, rest) ←
    if mayBeBlank && atContentEnd tokens then blankHere tokens
    else readTree? (handles ++ commonHandles) (4 * tokens.length + 8) true false tokens
  some (tree, if nextIs [.documentEnd] rest then rest.drop 1 else rest)

def readMarked? (tokens : List Token) : Outcome := do
  let (directives, rest) ← readDirectives? {} tokens
  if nextIs [.documentStart] rest then readContent? directives.handles true (rest.drop 1) else none

def readMore? : (rounds : Nat) → List Token → Option (List (Tree String))
  | 0, _ => none
  | rounds + 1, tokens => do
    let tokens := tokens.dropWhile (·.kind == .documentEnd)
    if nextIs [.finish] tokens then some []
    else
      let (tree, rest) ← readMarked? tokens
      some (tree :: (← readMore? rounds rest))

/-- Reads the documents of a text. Only the first one may do without a mark in front of it. -/
def documents? (text : String) : Option (List (Tree String)) := do
  let tokens ← tokens? text
  if nextIs [.finish] tokens then some []
  else
    let (tree, rest) ←
      if atContentEnd tokens then readMarked? tokens else readContent? [] false tokens
    some (tree :: (← readMore? tokens.length rest))

end PageFeed.Yaml
