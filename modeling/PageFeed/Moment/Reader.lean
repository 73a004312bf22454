import PageFeed.Moment.Mail

/-! Reading dates from free text: the internet form, the mail form, and then a list of common
layouts. The first form that names a moment decides. -/

namespace PageFeed.Moment

def numericDate (separator : Char) : Layout :=
  [.year, .literal separator, .month, .literal separator, .day]

def hourMinute : Layout := [.hour, .literal ':', .minute]

def hourMinuteSecond : Layout := [.hour, .literal ':', .minute, .literal ':', .second]

def zonedLayouts : List Layout := [
  numericDate '-' ++ [Item.blanks] ++ hourMinuteSecond ++ [Item.blanks, .offset],
  numericDate '-' ++ [Item.blanks] ++ hourMinute ++ [Item.blanks, .offset],
  numericDate '-' ++ [Item.literal 'T'] ++ hourMinuteSecond ++ [Item.offset],
  [Item.day, .blanks, .monthShort, .blanks, .year, .blanks] ++ hourMinuteSecond ++
    [Item.blanks, .offset],
  [Item.weekdayShort, .literal ',', .blanks, .day, .blanks, .monthShort, .blanks, .year, .blanks] ++
    hourMinuteSecond ++ [Item.blanks, .offset]]

/-- Layouts of a date and time without an offset, which are read as universal time. -/
def localLayouts : List Layout := [
  numericDate '-' ++ [Item.blanks] ++ hourMinuteSecond,
  numericDate '-' ++ [Item.blanks] ++ hourMinute,
  numericDate '-' ++ [Item.literal 'T'] ++ hourMinuteSecond,
  numericDate '-' ++ [Item.literal 'T'] ++ hourMinute,
  numericDate '/' ++ [Item.blanks] ++ hourMinuteSecond,
  numericDate '/' ++ [Item.blanks] ++ hourMinute,
  [Item.monthName, .blanks, .day, .literal ',', .blanks, .year, .blanks] ++ hourMinute,
  [Item.monthShort, .blanks, .day, .literal ',', .blanks, .year, .blanks] ++ hourMinute]

/-- Layouts of a date alone, which stands for its beginning in universal time. -/
def dateLayouts : List Layout := [
  numericDate '-',
  numericDate '/',
  [.day, .literal '.', .month, .literal '.', .year],
  [.monthName, .blanks, .day, .literal ',', .blanks, .year],
  [.monthShort, .blanks, .day, .literal ',', .blanks, .year],
  [.day, .blanks, .monthName, .blanks, .year],
  [.day, .blanks, .monthShort, .blanks, .year],
  [.weekdayName, .literal ',', .blanks, .monthName, .blanks, .day, .literal ',', .blanks, .year],
  [.weekdayShort, .literal ',', .blanks, .monthShort, .blanks, .day, .literal ',', .blanks, .year]]

def firstLayout? (name? : Parts → Option Moment) (layouts : List Layout) (text : List Char) :
    Option Moment :=
  layouts.findSome? fun layout => (layout.read? text).bind name?

def readTrimmed? (text : List Char) : Option Moment :=
  if text.isEmpty then none
  else
    (internet? text)
    <|> (mail? text)
    <|> (firstLayout? Parts.moment? zonedLayouts text)
    <|> (firstLayout? Parts.utc? localLayouts text)
    <|> (firstLayout? Parts.midnight? dateLayouts text)

def read? (text : String) : Option Moment :=
  readTrimmed? (Text.stripBy Text.isBlank text.toList)

abbrev Reader := String → Option Moment

end PageFeed.Moment
