import PageFeed.Yaml.Token

/-! YAML documents as trees. -/

namespace PageFeed.Yaml

structure Properties where
  anchor : Option String := none
  tag : Option TagBytes := none
deriving DecidableEq, Repr, Inhabited

/-- A value with the place where it starts. Aliases refer to other values in a way that is left
open. -/
inductive Tree (ref : Type)
  | alias (spot : Spot) (target : ref)
  | scalar (spot : Spot) (properties : Properties) (style : ScalarStyle) (text : String)
  | sequence (spot : Spot) (properties : Properties) (items : List (Tree ref))
  | mapping (spot : Spot) (properties : Properties) (entries : List (Tree ref × Tree ref))

instance {ref : Type} : Inhabited (Tree ref) := ⟨.scalar {} {} .plain ""⟩

def Tree.blank {ref : Type} (spot : Spot) : Tree ref := .scalar spot {} .plain ""

end PageFeed.Yaml
