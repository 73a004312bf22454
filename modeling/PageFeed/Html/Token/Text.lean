import PageFeed.Html.Reference
import PageFeed.Html.Token

/-! Text as it stands in a page: character references are resolved, and NUL characters become
replacement characters wherever they are not tokens of their own. -/

namespace PageFeed.Html.Token

open Reference (replacement)

def replaceNul (c : Char) : Char := if c = '\x00' then replacement else c

theorem length_digitsFrom (base : Nat) (value? : Char → Option Nat) (read : Option Nat)
    (text : List Char) :
    (Reference.digitsFrom base value? read text).2.length ≤ text.length := by
  induction text generalizing read with
  | nil => simp [Reference.digitsFrom]
  | cons c rest ih =>
    rw [Reference.digitsFrom]
    split
    · exact Nat.le_succ_of_le (ih _)
    · simp

theorem length_numeric? {base : Nat} {value? : Char → Option Nat} {text : List Char}
    {found : Reference.Found} (read : Reference.numeric? base value? text = some found) :
    found.rest.length ≤ text.length := by
  have shorter := length_digitsFrom base value? none text
  unfold Reference.numeric? at read
  split at read
  · cases read
  · next same =>
    cases read
    rw [same, List.length_cons] at shorter
    exact Nat.le_of_succ_le shorter
  · next same =>
    cases read
    rw [same] at shorter
    exact shorter

theorem length_named? {inValue : Bool} {text : List Char} {found : Reference.Found}
    (read : Reference.named? inValue text = some found) : found.rest.length ≤ text.length := by
  unfold Reference.named? at read
  split at read
  · cases read
  · next name chars _ =>
    simp only at read
    split at read
    · cases read
    · cases read
      simp

theorem length_read? {inValue : Bool} {text : List Char} {found : Reference.Found}
    (read : Reference.read? inValue text = some found) : found.rest.length ≤ text.length := by
  unfold Reference.read? at read
  split at read
  · exact Nat.le_succ_of_le (Nat.le_succ_of_le (length_numeric? read))
  · exact Nat.le_succ_of_le (Nat.le_succ_of_le (length_numeric? read))
  · exact Nat.le_succ_of_le (length_numeric? read)
  · split at read
    · exact length_named? read
    · cases read
  · cases read

def isPlain (c : Char) : Bool := c != '&' && c != '\x00'

/-- The tokens of a text with references. A NUL character is a token of its own unless it is to be
replaced. -/
def ofText (inValue replaces : Bool) : List Char → List Token
  | [] => []
  | c :: rest =>
    if c = '&' then
      match read : Reference.read? inValue rest with
      | some found =>
        (if found.unclosed then [.slip, .text found.chars] else [.text found.chars]) ++
          ofText inValue replaces found.rest
      | none => .text [c] :: ofText inValue replaces rest
    else if c = '\x00' then
      (if replaces then .text [replacement] else .null) :: ofText inValue replaces rest
    else
      .text (c :: rest.takeWhile isPlain) :: ofText inValue replaces (rest.dropWhile isPlain)
termination_by text => text.length
decreasing_by
  · exact Nat.lt_succ_of_le (length_read? read)
  · simp
  · simp
  · exact Nat.lt_succ_of_le (List.dropWhile_sublist _).length_le

def textOf (tokens : List Token) : List Char :=
  tokens.flatMap fun token =>
    match token with
    | .text content => content
    | _ => []

def valueOf (written : List Char) : String := String.ofList (textOf (ofText true true written))

def ofSection (content : List Char) : List Token :=
  match content with
  | [] => []
  | c :: rest =>
    if c = '\x00' then .null :: ofSection rest
    else .text (c :: rest.takeWhile (· != '\x00')) :: ofSection (rest.dropWhile (· != '\x00'))
termination_by content.length
decreasing_by
  · simp
  · exact Nat.lt_succ_of_le (List.dropWhile_sublist _).length_le

end PageFeed.Html.Token
