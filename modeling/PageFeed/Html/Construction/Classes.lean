import PageFeed.Html.Name

/-! Classes of elements that the construction of a page tells apart. -/

namespace PageFeed.Html.ElementName

def among (names : List String) (name : ElementName) : Bool :=
  name.vocabulary == .html && names.contains name.localName

def holdsMathText (name : ElementName) : Bool :=
  name.vocabulary == .mathml && ["mi", "mo", "mn", "ms", "mtext"].contains name.localName

def holdsHtml (name : ElementName) : Bool :=
  name.vocabulary == .svg && ["foreignObject", "desc", "title"].contains name.localName

/-- Elements that bound the reach of an end tag. -/
def boundsScope (name : ElementName) : Bool :=
  name.among ["applet", "caption", "html", "table", "td", "th", "marquee", "object", "template"] ||
    name.holdsMathText || name.holdsHtml

def boundsItemScope (name : ElementName) : Bool := name.boundsScope || name.among ["ol", "ul"]

def boundsButtonScope (name : ElementName) : Bool := name.boundsScope || name.among ["button"]

def boundsTableScope (name : ElementName) : Bool := name.among ["html", "table", "template"]

def boundsSelectScope (name : ElementName) : Bool := !name.among ["optgroup", "option"]

def holdsRows (name : ElementName) : Bool :=
  name.among ["tbody", "tfoot", "thead", "template", "html"]

def holdsCells (name : ElementName) : Bool := name.among ["tr", "template", "html"]

def isCell (name : ElementName) : Bool := name.among ["td", "th"]

def headingNames : List String := ["h1", "h2", "h3", "h4", "h5", "h6"]

def isHeading (name : ElementName) : Bool := name.among headingNames

def endsImplicitly (name : ElementName) : Bool :=
  name.among ["dd", "dt", "li", "option", "optgroup", "p", "rb", "rp", "rt", "rtc"]

def endsInTemplate (name : ElementName) : Bool :=
  name.endsImplicitly ||
    name.among ["caption", "colgroup", "tbody", "td", "tfoot", "th", "thead", "tr"]

/-- Elements around which content is moved to the front of the table. -/
def isTablePart (name : ElementName) : Bool :=
  name.among ["table", "tbody", "tfoot", "thead", "tr"]

/-- Elements that stop the search for the start tag of an end tag. -/
def isSpecial (name : ElementName) : Bool :=
  name.among [
    "address", "applet", "area", "article", "aside", "base", "basefont", "bgsound", "blockquote",
    "body", "br", "button", "caption", "center", "col", "colgroup", "dd", "details", "dir", "div",
    "dl", "dt", "embed", "fieldset", "figcaption", "figure", "footer", "form", "frame", "frameset",
    "h1", "h2", "h3", "h4", "h5", "h6", "head", "header", "hgroup", "hr", "html", "iframe", "img",
    "input", "isindex", "li", "link", "listing", "main", "marquee", "menu", "meta", "nav",
    "noembed", "noframes", "noscript", "object", "ol", "p", "param", "plaintext", "pre", "script",
    "section", "select", "source", "style", "summary", "table", "tbody", "td", "template",
    "textarea", "tfoot", "th", "thead", "title", "tr", "track", "ul", "wbr", "xmp"]

end PageFeed.Html.ElementName
