import PageFeed.Json.Cursor
import PageFeed.Text.Digits

/-! Numbers in JSON. Whole numbers that fit 64 bits are exact. Others are floating-point numbers,
computed from at most as many leading digits as fit 64 bits. -/

namespace PageFeed.Json

inductive Number
  | whole (value : Int)
  | float (value : Float)

namespace Number

def greatest : Nat := 18446744073709551615

def powerOfTen (exponent : Nat) : Float := Float.ofScientific 1 false exponent

def scaleDown : (rounds : Nat) → Float → Int → Float × Int
  | 0, value, exponent => (value, exponent)
  | rounds + 1, value, exponent =>
    if exponent < -308 && value != 0 then scaleDown rounds (value / powerOfTen 308) (exponent + 308)
    else (value, exponent)

def scale? (significand : Nat) (exponent : Int) : Option Float :=
  let value := Float.ofNat significand
  let (value, exponent) := scaleDown 8 value exponent
  if value == 0 then some value
  else if exponent < -308 then some 0
  else if 308 < exponent then none
  else if exponent < 0 then some (value / powerOfTen exponent.natAbs)
  else
    let scaled := value * powerOfTen exponent.natAbs
    if scaled.isInf then none else some scaled

/-- Adds digits to a significand as long as it fits. The result also has the number of digits used
and the position behind them. -/
def takeDigits (significand used : Nat) (cursor : Cursor) : List Char → Nat × Nat × Cursor
  | [] => (significand, used, cursor)
  | c :: rest =>
    match Text.digit? c with
    | some digit =>
      if greatest < significand * 10 + digit then (significand, used, cursor)
      else takeDigits (significand * 10 + digit) (used + 1) cursor.advance rest
    | none => (significand, used, cursor)

def finish (isNegative : Bool) (significand : Nat) (exponent : Int) (cursor : Cursor) :
    Except Data.Fault (Number × Cursor) :=
  match scale? significand exponent with
  | some value => .ok (.float (if isNegative then -value else value), cursor)
  | none => .error (cursor.flawHere .numberOutOfRange)

def readExponent (isNegative : Bool) (significand : Nat) (exponent : Int) (cursor : Cursor) :
    Except Data.Fault (Number × Cursor) :=
  let cursor := cursor.advance
  let isDown := cursor.peek? == some '-'
  let cursor := if isDown || cursor.peek? == some '+' then cursor.advance else cursor
  match cursor.peek? with
  | none => .error (cursor.flawHere .endInValue)
  | some c =>
    if Text.isDigit c then
      let digits := cursor.rest.takeWhile Text.isDigit
      let fitting := (List.range (digits.length + 1)).find? fun n =>
        2147483647 < Text.decimal (digits.take n)
      match fitting with
      | some n =>
        let stop := (List.range n).foldl (fun cursor _ => cursor.advance) cursor
        if significand != 0 && !isDown then .error (stop.flawHere .numberOutOfRange)
        else .ok (.float (if isNegative then -0.0 else 0.0), cursor.skipDigits)
      | none =>
        let size : Int := Text.decimal digits
        let final := if isDown then exponent - size else exponent + size
        finish isNegative significand final cursor.skipDigits
    else .error (cursor.flawAhead .invalidNumber)

def hasExponent (cursor : Cursor) : Bool := cursor.peek? == some 'e' || cursor.peek? == some 'E'

def readScaled (isNegative : Bool) (significand : Nat) (exponent : Int) (cursor : Cursor) :
    Except Data.Fault (Number × Cursor) :=
  if hasExponent cursor then readExponent isNegative significand exponent cursor
  else finish isNegative significand exponent cursor

def readFraction (isNegative : Bool) (significand : Nat) (exponent : Int) (cursor : Cursor) :
    Except Data.Fault (Number × Cursor) :=
  let cursor := cursor.advance
  match cursor.peek? with
  | none => .error (cursor.flawAhead .endInValue)
  | some c =>
    if Text.isDigit c then
      let (significand, used, cursor) := takeDigits significand 0 cursor cursor.rest
      readScaled isNegative significand (exponent - used) cursor.skipDigits
    else .error (cursor.flawAhead .invalidNumber)

def ofWhole (isNegative : Bool) (significand : Nat) : Number :=
  if isNegative then
    if significand == 0 || 9223372036854775808 < significand then
      .float (-(Float.ofNat significand))
    else .whole (-significand)
  else .whole significand

def read (isNegative : Bool) (cursor : Cursor) : Except Data.Fault (Number × Cursor) :=
  match cursor.peek? with
  | none => .error (cursor.flawHere .endInValue)
  | some '0' =>
    let behind := cursor.advance
    match behind.peek? with
    | some c =>
      if Text.isDigit c then .error (behind.flawAhead .invalidNumber)
      else if c == '.' then readFraction isNegative 0 0 behind
      else if hasExponent behind then readExponent isNegative 0 0 behind
      else .ok (ofWhole isNegative 0, behind)
    | none => .ok (ofWhole isNegative 0, behind)
  | some c =>
    if Text.isDigit c then
      let (significand, _, fitting) := takeDigits 0 0 cursor cursor.rest
      let behind := fitting.skipDigits
      let dropped : Int := (behind.column - fitting.column : Nat)
      if behind.peek? == some '.' then readFraction isNegative significand dropped behind
      else if hasExponent behind then readExponent isNegative significand dropped behind
      else if dropped == 0 then .ok (ofWhole isNegative significand, behind)
      else finish isNegative significand dropped behind
    else .error (cursor.flawAhead .invalidNumber)

end Number

end PageFeed.Json
