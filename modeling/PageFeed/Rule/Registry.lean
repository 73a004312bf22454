import PageFeed.Html.Page
import PageFeed.Rule.Basic
import PageFeed.Text.Case

/-! Functions under names. Written rule sets refer to processors and filters by name; the names are
looked up when the rule set is compiled. -/

namespace PageFeed

structure Registry where
  processors : Fields Processor := ∅
  filters : Fields Filter := ∅

instance : Inhabited Registry := ⟨{}⟩

namespace Registry

def withProcessor (registry : Registry) (name : String) (processor : Processor) : Registry :=
  { registry with processors := registry.processors.insert name processor }

def withFilter (registry : Registry) (name : String) (filter : Filter) : Registry :=
  { registry with filters := registry.filters.insert name filter }

def processor? (registry : Registry) (name : String) : Option Processor :=
  registry.processors.get? name

def filter? (registry : Registry) (name : String) : Option Filter := registry.filters.get? name

/-- The processors that every rule set can use. None of them looks at the rule. -/
def builtin : Registry where
  processors := .ofList [
    ("trim", fun _ => Text.trim),
    ("squish", fun _ => Text.squish),
    ("lowercase", fun _ => Text.Case.lower),
    ("uppercase", fun _ => Text.Case.upper),
    ("strip_tags", fun _ => Html.textOfFragment)]

end Registry

end PageFeed
