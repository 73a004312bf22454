import PageFeed.Extraction.Entries
import PageFeed.Feed
import PageFeed.Html.Page

/-! A rule set ready to run over pages. Nothing is kept from one page to the next. -/

namespace PageFeed

structure Extractor where
  rules : RuleSet
  dates : Moment.Reader := Moment.read?

instance : Inhabited Extractor := ⟨{ rules := default }⟩

abbrev Renderer := Feed → Except Error String

def atomRenderer (indent : Option Nat) : Renderer := fun feed =>
  (Atom.render indent feed).mapError .render

namespace Extractor

def extract (extractor : Extractor) (document : Html.Document) : Feed where
  info := Extraction.info extractor.dates document extractor.rules.info
  entries := Extraction.entries extractor.dates document extractor.rules

def extractMarkup (extractor : Extractor) (markup : String) : Feed :=
  extractor.extract (Html.parse markup)

def render (extractor : Extractor) (document : Html.Document) (renderer : Renderer) :
    Except Error String :=
  renderer (extractor.extract document)

end Extractor

end PageFeed
