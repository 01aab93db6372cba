import ChassisWatch.Config.Basic
import ChassisWatch.Snapshot.Basic

/-!
# Facts

What is known of a component without reading anything: its class, its parent, and the leaves that
its configuration gives it.
-/

namespace ChassisWatch

/-- The facts of a component. A configured leaf stands in the stead of the class or the parent. -/
def componentFacts (name kind : String) (parent : Option String)
    (attributes : List (String × String)) : Snapshot :=
  .ofData ((componentKey name "class", kind)
    :: (parent.map fun p => (componentKey name "parent", p)).toList
    ++ attributes.map fun e => (componentKey name e.1, e.2))

/-- The facts of a configured component. -/
def ComponentConfig.facts (c : ComponentConfig) : Snapshot :=
  componentFacts c.name c.kind c.parent c.attributes.toList

end ChassisWatch
