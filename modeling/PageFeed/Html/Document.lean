import PageFeed.Html.Name

/-! Pages as trees of nodes. Nodes are numbered in the order in which they are created, and a node
knows its parent and its children. A node without parent that is not the root is in no tree: it has
been created but not put anywhere, or it has been taken out. -/

namespace PageFeed.Html

abbrev NodeId := Nat

/-- What a node is. A `holder` holds the content of a template. -/
inductive NodeData
  | root
  | holder
  | doctype (name : String)
  | comment (text : String)
  | text (text : String)
  | element (name : ElementName) (attrs : List Attr)
deriving DecidableEq, Repr, Inhabited

namespace NodeData

def isElement : NodeData → Bool
  | element _ _ => true
  | _ => false

def isText : NodeData → Bool
  | text _ => true
  | _ => false

end NodeData

structure Node where
  data : NodeData
  parent : Option NodeId
  children : Array NodeId
deriving DecidableEq, Repr, Inhabited

/-- The nodes of a page in the order of their creation. The root is node 0. -/
structure Document where
  nodes : Array Node
deriving Inhabited

namespace Document

def blank : Document := ⟨#[⟨.root, none, #[]⟩]⟩

def rootId : NodeId := 0

def node? (document : Document) (id : NodeId) : Option Node := document.nodes[id]?

/-- What a node is; a number without node counts as an empty holder. -/
def data (document : Document) (id : NodeId) : NodeData :=
  match document.node? id with
  | some node => node.data
  | none => .holder

def parent? (document : Document) (id : NodeId) : Option NodeId :=
  (document.node? id).bind Node.parent

def children (document : Document) (id : NodeId) : List NodeId :=
  match document.node? id with
  | some node => node.children.toList
  | none => []

def lastChild? (document : Document) (id : NodeId) : Option NodeId :=
  (document.node? id).bind fun node => node.children.back?

def elementName? (document : Document) (id : NodeId) : Option ElementName :=
  match document.data id with
  | .element name _ => some name
  | _ => none

def attrs (document : Document) (id : NodeId) : List Attr :=
  match document.data id with
  | .element _ attrs => attrs
  | _ => []

def isElement (document : Document) (id : NodeId) : Bool := (document.data id).isElement

def modify (document : Document) (id : NodeId) (change : Node → Node) : Document :=
  ⟨document.nodes.modify id change⟩

def create (document : Document) (data : NodeData) : NodeId × Document :=
  (document.nodes.size, ⟨document.nodes.push ⟨data, none, #[]⟩⟩)

/-- Creates an element; a template gets a holder for its content. -/
def createElement (document : Document) (name : ElementName) (attrs : List Attr) :
    NodeId × Document :=
  let (id, document) := document.create (.element name (Attr.ordered attrs))
  if name = ElementName.html "template" then
    let (holder, document) := document.create .holder
    (id, (document.modify holder fun node => { node with parent := some id }).modify id
      fun node => { node with children := #[holder] })
  else (id, document)

def detach (document : Document) (id : NodeId) : Document :=
  match document.parent? id with
  | none => document
  | some parent =>
    (document.modify parent fun node => { node with children := node.children.erase id }).modify id
      fun node => { node with parent := none }

def append (document : Document) (parent id : NodeId) : Document :=
  let document := document.detach id
  (document.modify parent fun node => { node with children := node.children.push id }).modify id
    fun node => { node with parent := some parent }

def putBefore (sibling id : NodeId) : List NodeId → List NodeId
  | [] => []
  | other :: rest =>
    if other = sibling then id :: other :: rest else other :: putBefore sibling id rest

/-- Puts a node in front of another; nothing is put in front of a node without parent. -/
def insertBefore (document : Document) (sibling id : NodeId) : Document :=
  let document := document.detach id
  match document.parent? sibling with
  | none => document
  | some parent =>
    (document.modify parent fun node =>
      { node with children := (putBefore sibling id node.children.toList).toArray }).modify id
      fun node => { node with parent := some parent }

def extendText (document : Document) (id : NodeId) (more : String) : Document :=
  document.modify id fun node =>
    match node.data with
    | .text text => { node with data := .text (text ++ more) }
    | _ => node

def memberBefore? (sibling : NodeId) : List NodeId → Option NodeId
  | first :: second :: rest =>
    if second = sibling then some first else memberBefore? sibling (second :: rest)
  | _ => none

def appendText (document : Document) (parent : NodeId) (text : String) : Document :=
  match document.lastChild? parent with
  | some last =>
    if (document.data last).isText then document.extendText last text
    else
      let (id, document) := document.create (.text text)
      document.append parent id
  | none =>
    let (id, document) := document.create (.text text)
    document.append parent id

def insertTextBefore (document : Document) (sibling : NodeId) (text : String) : Document :=
  match document.parent? sibling with
  | none => document
  | some parent =>
    match memberBefore? sibling (document.children parent) with
    | some previous =>
      if (document.data previous).isText then document.extendText previous text
      else
        let (id, document) := document.create (.text text)
        document.insertBefore sibling id
    | none =>
      let (id, document) := document.create (.text text)
      document.insertBefore sibling id

def moveChildren (document : Document) (source target : NodeId) : Document :=
  (document.children source).foldl (fun document id => document.append target id) document

def addMissingAttrs (document : Document) (id : NodeId) (more : List Attr) : Document :=
  document.modify id fun node =>
    match node.data with
    | .element name attrs =>
      { node with data := .element name (more.foldl (fun sorted attr => attr.place sorted) attrs) }
    | _ => node

def templateContent (document : Document) (id : NodeId) : NodeId :=
  ((document.children id).head?).getD id

def ids (document : Document) : List NodeId := List.range document.nodes.size

end Document

end PageFeed.Html
