import PageFeed.Html.Construction.Insertion

/-! Elements of MathML and SVG, whose names and attributes are not folded to lower case as those of
HTML are. -/

namespace PageFeed.Html

def svgAttrNames : List String := [
  "attributeName", "attributeType", "baseFrequency", "baseProfile", "calcMode", "clipPathUnits",
  "diffuseConstant", "edgeMode", "filterUnits", "glyphRef", "gradientTransform", "gradientUnits",
  "kernelMatrix", "kernelUnitLength", "keyPoints", "keySplines", "keyTimes", "lengthAdjust",
  "limitingConeAngle", "markerHeight", "markerUnits", "markerWidth", "maskContentUnits",
  "maskUnits", "numOctaves", "pathLength", "patternContentUnits", "patternTransform",
  "patternUnits", "pointsAtX", "pointsAtY", "pointsAtZ", "preserveAlpha", "preserveAspectRatio",
  "primitiveUnits", "refX", "refY", "repeatCount", "repeatDur", "requiredExtensions",
  "requiredFeatures", "specularConstant", "specularExponent", "spreadMethod", "startOffset",
  "stdDeviation", "stitchTiles", "surfaceScale", "systemLanguage", "tableValues", "targetX",
  "targetY", "textLength", "viewBox", "viewTarget", "xChannelSelector", "yChannelSelector",
  "zoomAndPan"]

def svgElementNames : List String := [
  "altGlyph", "altGlyphDef", "altGlyphItem", "animateColor", "animateMotion", "animateTransform",
  "clipPath", "feBlend", "feColorMatrix", "feComponentTransfer", "feComposite",
  "feConvolveMatrix", "feDiffuseLighting", "feDisplacementMap", "feDistantLight",
  "feDropShadow", "feFlood", "feFuncA", "feFuncB", "feFuncG", "feFuncR", "feGaussianBlur",
  "feImage", "feMerge", "feMergeNode", "feMorphology", "feOffset", "fePointLight",
  "feSpecularLighting", "feSpotLight", "feTile", "feTurbulence", "foreignObject", "glyphRef",
  "linearGradient", "radialGradient", "textPath"]

def borrowedAttrs : List (String × AttrName) := [
  ("xlink:actuate", ⟨.xlink, "actuate"⟩), ("xlink:arcrole", ⟨.xlink, "arcrole"⟩),
  ("xlink:href", ⟨.xlink, "href"⟩), ("xlink:role", ⟨.xlink, "role"⟩),
  ("xlink:show", ⟨.xlink, "show"⟩), ("xlink:title", ⟨.xlink, "title"⟩),
  ("xlink:type", ⟨.xlink, "type"⟩), ("xml:lang", ⟨.xml, "lang"⟩), ("xml:space", ⟨.xml, "space"⟩),
  ("xmlns", ⟨.declaration, "xmlns"⟩), ("xmlns:xlink", ⟨.xmlns, "xlink"⟩)]

def ownSpelling (spellings : List String) (name : String) : String :=
  (spellings.find? fun spelling =>
    String.ofList (spelling.toList.map Char.toLower) == name).getD name

def foreignAttr (vocabulary : Vocabulary) (attr : Attr) : Attr :=
  let spelled := match vocabulary with
    | .mathml => ownSpelling ["definitionURL"] attr.name.localName
    | .svg => ownSpelling svgAttrNames attr.name.localName
    | .html => attr.name.localName
  match borrowedAttrs.lookup spelled with
  | some name => ⟨name, attr.value⟩
  | none => ⟨AttrName.plain spelled, attr.value⟩

namespace Builder

def addForeign (b : Builder) (vocabulary : Vocabulary) (localName : String) (tag : Tag) : Builder :=
  let (id, b) := b.addElement ⟨vocabulary, localName⟩ (tag.attrs.map (foreignAttr vocabulary))
  if tag.selfClosing then b else b.push id

def addWithinForeign (b : Builder) (vocabulary : Vocabulary) (tag : Tag) : Builder :=
  let localName := match vocabulary with
    | .svg => ownSpelling svgElementNames tag.name
    | _ => tag.name
  b.addForeign vocabulary localName tag

end Builder

end PageFeed.Html
