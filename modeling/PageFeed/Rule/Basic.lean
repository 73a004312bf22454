import PageFeed.Error
import PageFeed.Selector.Reading
import PageFeed.Text.Blank

/-! Rules. A rule says where a value is found in a page, what is taken from there, and how it
becomes the final text. A rule with a literal has that value whatever the page holds. -/

namespace PageFeed

inductive Content
  | text
  | innerMarkup
  | outerMarkup
  | attr (name : String)
deriving DecidableEq, Repr, Inhabited

inductive ValueType
  | plain
  | cdata
  | dateTime
deriving DecidableEq, Repr, Inhabited

structure Pattern where
  source : String
  selector : Selector
  reads : Selector.read source = .ok selector

def Pattern.read (source : String) : Except Error Pattern :=
  match reads : Selector.read source with
  | .ok selector => .ok ⟨source, selector, reads⟩
  | .error fault => .error (.selector source fault)

structure Settings where
  pattern : Option Pattern := none
  isAbsolute : Bool := false
  literal : Option String := none
  content : Content := .text
  lead : Option String := none
  trail : Option String := none
  valueType : ValueType := .plain

/-- A function that a text goes through. It sees the settings of its rule as well, but neither the
functions that stand in the rule, of which it is one, nor the filter. -/
abbrev Processor := Settings → String → String

abbrev Filter := Entry → Bool

structure Rule extends Settings where
  processor : Option Processor := none
  filter : Option Filter := none

instance : Inhabited Settings := ⟨{}⟩

instance : Inhabited Rule := ⟨{}⟩

namespace Rule

/-- A rule for what a selector finds. A selector of blanks alone counts as none. -/
def ofSelector (source : String) : Except Error Rule :=
  if (Text.trim source).isEmpty then .ok {}
  else do return { pattern := some (← Pattern.read source) }

def ofLiteral (value : String) : Rule := { literal := some value }

def source? (settings : Settings) : Option String := settings.pattern.map Pattern.source

end Rule

end PageFeed
