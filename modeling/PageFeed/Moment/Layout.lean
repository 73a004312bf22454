import PageFeed.Moment.Basic
import PageFeed.Moment.Names
import PageFeed.Text.Blank

/-! Layouts of dates: sequences of items that a written date follows from its first character to its
last. A blank in a layout stands for any number of blanks, none included, and blanks may stand in
front of every number and offset. -/

namespace PageFeed.Moment

open Text (isBlank number?)

inductive Item
  | literal (c : Char)
  | blanks
  | year
  | month
  | day
  | hour
  | minute
  | second
  | monthName
  | monthShort
  | weekdayName
  | weekdayShort
  | offset
deriving DecidableEq, Repr

/-- A layout is read from left to right. No layout has two items for one part of a date. -/
abbrev Layout := List Item

structure Parts where
  year : Option Int := none
  month : Option Nat := none
  day : Option Nat := none
  hour : Option Nat := none
  minute : Option Nat := none
  second : Option Nat := none
  nanosecond : Option Nat := none
  weekday : Option Nat := none
  offset : Option Int := none
deriving DecidableEq, Repr

namespace Parts

/-- The date, when the parts name one and the weekday, if named, is the right one. -/
def date? (parts : Parts) : Option Date :=
  match parts.year, parts.month, parts.day with
  | some year, some month, some day =>
    match Date.of? year month day with
    | some date =>
      match parts.weekday with
      | some weekday => if date.weekday = weekday then some date else none
      | none => some date
    | none => none
  | _, _, _ => none

def clock? (parts : Parts) : Option Clock :=
  match parts.hour, parts.minute with
  | some hour, some minute =>
    Clock.of? hour minute (parts.second.getD 0) (parts.nanosecond.getD 0)
  | _, _ => none

def moment? (parts : Parts) : Option Moment :=
  match parts.date?, parts.clock?, parts.offset with
  | some date, some clock, some offset => Moment.of? date clock offset
  | _, _, _ => none

def utc? (parts : Parts) : Option Moment :=
  match parts.date?, parts.clock? with
  | some date, some clock => some (Moment.utc date clock)
  | _, _ => none

def midnight? (parts : Parts) : Option Moment :=
  parts.date?.map fun date => Moment.utc date Clock.midnight

end Parts

def skipBlanks (text : List Char) : List Char := text.dropWhile isBlank

def year? (text : List Char) : Option (Int × List Char) :=
  match text with
  | '-' :: rest => (number? 1 none rest).map fun read => (-(read.1 : Int), read.2)
  | '+' :: rest => (number? 1 none rest).map fun read => ((read.1 : Int), read.2)
  | _ => (number? 1 (some 4) text).map fun read => ((read.1 : Int), read.2)

/-- Reads the sign of an offset. The typographic minus counts only where `wide` allows it. -/
def sign? (wide : Bool) : List Char → Option (Int × List Char)
  | '+' :: rest => some (1, rest)
  | '-' :: rest => some (-1, rest)
  | '−' :: rest => if wide then some (-1, rest) else none
  | _ => none

/-- Reads an offset: a sign, two digits of hours, what `between` allows, and two digits of minutes
below sixty. -/
def offset? (wide : Bool) (between : List Char → Option (List Char)) (text : List Char) :
    Option (Int × List Char) :=
  match sign? wide text with
  | none => none
  | some (sign, rest) =>
    match number? 2 (some 2) rest with
    | none => none
    | some (hours, rest) =>
      match between rest with
      | none => none
      | some rest =>
        match number? 2 (some 2) rest with
        | none => none
        | some (minutes, rest) =>
          if minutes < 60 then some (sign * (60 * hours + minutes), rest) else none

def colonsAndBlanks (text : List Char) : Option (List Char) :=
  some (text.dropWhile fun c => c == ':' || isBlank c)

def Item.read? (item : Item) (parts : Parts) (text : List Char) : Option (Parts × List Char) :=
  let two (set : Nat → Parts) : Option (Parts × List Char) :=
    (number? 1 (some 2) (skipBlanks text)).map fun read => (set read.1, read.2)
  match item with
  | .literal c =>
    match text with
    | d :: rest => if d = c then some (parts, rest) else none
    | [] => none
  | .blanks => some (parts, skipBlanks text)
  | .year => (year? (skipBlanks text)).map fun read => ({ parts with year := some read.1 }, read.2)
  | .month => two fun n => { parts with month := some n }
  | .day => two fun n => { parts with day := some n }
  | .hour => two fun n => { parts with hour := some n }
  | .minute => two fun n => { parts with minute := some n }
  | .second => two fun n => { parts with second := some n }
  | .monthName =>
    (longName? monthNames text).map fun read => ({ parts with month := some (read.1 + 1) }, read.2)
  | .monthShort =>
    (shortName? monthNames text).map fun read => ({ parts with month := some (read.1 + 1) }, read.2)
  | .weekdayName =>
    (longName? weekdayNames text).map fun read => ({ parts with weekday := some read.1 }, read.2)
  | .weekdayShort =>
    (shortName? weekdayNames text).map fun read => ({ parts with weekday := some read.1 }, read.2)
  | .offset =>
    (offset? true colonsAndBlanks (skipBlanks text)).map fun read =>
      ({ parts with offset := some read.1 }, read.2)

def Layout.readFrom? (parts : Parts) : Layout → List Char → Option (Parts × List Char)
  | [], text => some (parts, text)
  | item :: layout, text =>
    match item.read? parts text with
    | none => none
    | some (parts, rest) => Layout.readFrom? parts layout rest

def Layout.read? (layout : Layout) (text : List Char) : Option Parts :=
  match Layout.readFrom? {} layout text with
  | some (parts, []) => some parts
  | _ => none

end PageFeed.Moment
