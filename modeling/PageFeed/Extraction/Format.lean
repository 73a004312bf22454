import PageFeed.Html.Tree
import PageFeed.Moment.Reader
import PageFeed.Rule.Basic

/-! From an element to the final text of a rule: what is taken from the element, what the processor
makes of it, what is put around it, and what it is turned into. -/

namespace PageFeed

open Html (Document NodeId)

def Content.take (document : Document) (id : NodeId) : Content → String
  | text => Text.trim (String.ofList (document.tree id).text)
  | innerMarkup => String.ofList (document.tree id).innerMarkup
  | outerMarkup => String.ofList (document.tree id).outerMarkup
  | attr name => (Html.Attr.plainValue? (document.attrs id) name).getD ""

/-- A text as a CDATA section. It is not escaped, so a text with the closing mark breaks the
section. -/
def cdataSection (text : String) : String := "<![CDATA[" ++ text ++ "]]>"

/-- What a text is turned into. A text that names no moment becomes empty. -/
def ValueType.coerce (dates : Moment.Reader) (text : String) : ValueType → String
  | plain => text
  | cdata => cdataSection text
  | dateTime =>
    match dates text with
    | some moment => moment.iso
    | none => ""

def Settings.wrap (settings : Settings) (text : String) : String :=
  settings.lead.getD "" ++ text ++ settings.trail.getD ""

def Rule.process (rule : Rule) (text : String) : String :=
  match rule.processor with
  | some processor => processor rule.toSettings text
  | none => text

def Rule.format (rule : Rule) (dates : Moment.Reader) (document : Document) (id : NodeId) :
    String :=
  rule.valueType.coerce dates (rule.wrap (rule.process (rule.content.take document id)))

def Rule.formatOptional (rule : Rule) (dates : Moment.Reader) (document : Document) :
    Option NodeId → String
  | some id => rule.format dates document id
  | none => ""

end PageFeed
