import PageFeed.Decimal.Shortest

/-! Decimal numbers laid out as text: positional where the exponent of the leading digit allows it,
otherwise with an exponent. -/

namespace PageFeed.Decimal

structure Notation where
  /-- The exponents of the leading digit that are written positionally. -/
  isPositional : Int → Bool
  /-- Whether a whole number gets a point and a zero. -/
  pointZero : Bool
  /-- Whether an exponent that is not negative gets a sign. -/
  exponentPlus : Bool
  tie : Tie

namespace Notation

def layOut (style : Notation) (decimal : Digits) : List Char :=
  let digits := Nat.toDigits 10 decimal.digits
  let lead : Int := decimal.exponent + digits.length - 1
  if style.isPositional lead then
    if 0 ≤ decimal.exponent then
      digits ++ List.replicate decimal.exponent.toNat '0' ++
        if style.pointZero then ['.', '0'] else []
    else if 0 ≤ lead then
      digits.take (lead.toNat + 1) ++ '.' :: digits.drop (lead.toNat + 1)
    else '0' :: '.' :: List.replicate ((-lead).toNat - 1) '0' ++ digits
  else
    let mantissa := match digits with
      | [digit] => [digit]
      | first :: rest => first :: '.' :: rest
      | [] => []
    let sign := if lead < 0 then ['-'] else if style.exponentPlus then ['+'] else []
    mantissa ++ 'e' :: sign ++ Nat.toDigits 10 lead.natAbs

def write (style : Notation) (number : Reading) : List Char :=
  let signed (isNegative : Bool) (text : List Char) := if isNegative then '-' :: text else text
  match number with
  | .notNumber => "NaN".toList
  | .infinite isNegative => signed isNegative "inf".toList
  | .zero isNegative => signed isNegative ('0' :: if style.pointZero then ['.', '0'] else [])
  | .finite isNegative value => signed isNegative (style.layOut (value.shortest style.tie))

def plain : Notation := ⟨fun _ => true, false, false, .up⟩

def pointed : Notation := ⟨fun lead => -4 ≤ lead && lead < 16, true, false, .up⟩

end Notation

end PageFeed.Decimal
