import PageFeed.Selector.Token

/-! Tokens grouped by their brackets. A bracket that is never closed holds all that follows, and a
closing bracket that does not fit the innermost open one is a token like any other. -/

namespace PageFeed.Selector

inductive Part
  | single (token : Token)
  | block (opening : Token) (content : List Part)
deriving Inhabited

namespace Part

def token : Part → Token
  | single token => token
  | block opening _ => opening

def isSpace (part : Part) : Bool := part.token.isSpace

/-- The open brackets, innermost first, with the parts in front of each, and the parts read since.
The parts are in reverse order. -/
structure Nesting where
  outer : List (Token × Bracket × List Part) := []
  current : List Part := []
deriving Inhabited

namespace Nesting

def close (nesting : Nesting) : Nesting :=
  match nesting.outer with
  | (opening, _, before) :: outer => ⟨outer, .block opening nesting.current.reverse :: before⟩
  | [] => nesting

def take (nesting : Nesting) (token : Token) : Nesting :=
  match token.opens? with
  | some bracket => ⟨(token, bracket, nesting.current) :: nesting.outer, []⟩
  | none =>
    match token, nesting.outer with
    | .closer bracket, (_, open_, _) :: _ =>
      if bracket == open_ then nesting.close
      else { nesting with current := .single token :: nesting.current }
    | _, _ => { nesting with current := .single token :: nesting.current }

def finish (nesting : Nesting) : List Part :=
  (nesting.outer.foldl (fun nesting _ => nesting.close) nesting).current.reverse

end Nesting

def ofTokens (tokens : List Token) : List Part := (tokens.foldl Nesting.take {}).finish

def splitAtCommas : List Part → List (List Part)
  | [] => [[]]
  | part :: rest =>
    match part, splitAtCommas rest with
    | .single .comma, items => [] :: items
    | part, first :: items => (part :: first) :: items
    | part, [] => [[part]]

mutual

def firstBad? : Part → Option Token
  | single token => if token.isBad then some token else none
  | block _ content => firstBadOfAll? content

def firstBadOfAll? : List Part → Option Token
  | [] => none
  | part :: rest =>
    match part.firstBad? with
    | some token => some token
    | none => firstBadOfAll? rest

end

end Part

end PageFeed.Selector
