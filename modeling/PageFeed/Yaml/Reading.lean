import PageFeed.Yaml.Scalar
import PageFeed.Yaml.Tree.Reading

/-! Structured data read from YAML. Aliases become copies of what they refer to. A text with more
than one document, or with an alias for nothing, is no data. -/

namespace PageFeed.Yaml

open Data (Node Mark)

/-- The anchors of a document. An anchor has as its number the count of names in front of it; so
when a name is used again, two anchors may share a number, and the later one counts. -/
structure Anchors where
  numbers : List (String × Nat) := []
  starts : List (Nat × Nat) := []
  trees : List (Nat × Tree Nat) := []
  count : Nat := 0
deriving Inhabited

namespace Anchors

def note (anchors : Anchors) (anchor : Option String) : Anchors :=
  match anchor with
  | none => anchors
  | some name =>
    let number := anchors.numbers.length
    { anchors with
      numbers := (name, number) :: anchors.numbers.filter (·.1 != name)
      starts := (number, anchors.count) :: anchors.starts }

def close (anchors : Anchors) (start : Nat) (tree : Tree Nat) : Anchors :=
  { anchors with trees := (start, tree) :: anchors.trees }

def step (anchors : Anchors) (n : Nat) : Anchors := { anchors with count := anchors.count + n }

def target? (anchors : Anchors) (number : Nat) : Option (Tree Nat) :=
  (anchors.starts.lookup number).bind fun start => anchors.trees.lookup start

end Anchors

mutual

def resolve? (anchors : Anchors) : Tree String → Option (Tree Nat × Anchors)
  | .alias spot name =>
    (anchors.numbers.lookup name).map fun number => (.alias spot number, anchors.step 1)
  | .scalar spot properties style text =>
    let tree := Tree.scalar spot properties style text
    some (tree, ((anchors.note properties.anchor).close anchors.count tree).step 1)
  | .sequence spot properties items => do
    let (items, inner) ← resolveAll? ((anchors.note properties.anchor).step 1) items
    let tree := Tree.sequence spot properties items
    some (tree, (inner.close anchors.count tree).step 1)
  | .mapping spot properties entries => do
    let (entries, inner) ← resolveEntries? ((anchors.note properties.anchor).step 1) entries
    let tree := Tree.mapping spot properties entries
    some (tree, (inner.close anchors.count tree).step 1)

def resolveAll? (anchors : Anchors) : List (Tree String) → Option (List (Tree Nat) × Anchors)
  | [] => some ([], anchors)
  | item :: rest => do
    let (item, anchors) ← resolve? anchors item
    let (rest, anchors) ← resolveAll? anchors rest
    some (item :: rest, anchors)

def resolveEntries? (anchors : Anchors) :
    List (Tree String × Tree String) → Option (List (Tree Nat × Tree Nat) × Anchors)
  | [] => some ([], anchors)
  | (key, value) :: rest => do
    let (key, anchors) ← resolve? anchors key
    let (value, anchors) ← resolve? anchors value
    let (rest, anchors) ← resolveEntries? anchors rest
    some ((key, value) :: rest, anchors)

end

def markOf (spot : Spot) : Option Mark :=
  if spot.line == 0 && spot.column == 0 then none else some ⟨spot.line + 1, spot.column + 1⟩

def stepOf (key : Tree Nat) : Data.Step :=
  match key with
  | .scalar _ _ _ text => .field text
  | _ => .unnamed

def maxDepth : Nat := 128

/-- Makes data of a tree, counting the copies that aliases stand for. Neither their number nor the
depth may exceed its limit. -/
def toNode (anchors : Anchors) : (fuel depth : Nat) → Tree Nat → StateM Nat Node
  | 0, _, _ => pure (.broken ⟨.tooDeep, none, []⟩)
  | fuel + 1, depth, tree => do
    match tree with
    | .alias _ number =>
      modify (· + 1)
      if 100 * anchors.count < (← get) then return .broken ⟨.tooManyCopies, none, []⟩
      match anchors.target? number with
      | some target => toNode anchors fuel depth target
      | none => return .broken ⟨.tooManyCopies, none, []⟩
    | .scalar spot properties style text =>
      return .scalar (markOf spot) (readScalar properties style text)
    | .sequence spot properties items =>
      let mark := markOf spot
      match depth with
      | 0 =>
        return if isVariant properties then .list mark mark true [] none
          else .broken ⟨.tooDeep, mark, []⟩
      | depth + 1 =>
        let items ← items.mapM (toNode anchors fuel depth)
        return .list mark mark (isVariant properties) (items.map fun item => ⟨item, none⟩) none
    | .mapping spot properties entries =>
      let mark := markOf spot
      match depth with
      | 0 =>
        return if isVariant properties then .table mark true [] none
          else .broken ⟨.tooDeep, mark, []⟩
      | depth + 1 =>
        let entries ← entries.mapM fun entry => do
          let key ← toNode anchors fuel depth entry.1
          let value ← toNode anchors fuel depth entry.2
          return Data.Pair.mk (stepOf entry.1) key mark value mark
        return .table mark (isVariant properties) entries none

def read? (text : String) : Option Node := do
  match ← documents? text with
  | [] => some (.scalar none (readScalar {} .plain ""))
  | [tree] =>
    let (tree, anchors) ← resolve? {} tree
    some ((toNode anchors (2 * maxDepth + 4) maxDepth tree).run 0).1
  | _ => none

end PageFeed.Yaml
