import Std.Data.ExtTreeMap
import LayeredPage.Host.Node

/-!
# Nodes of a document in memory
-/

namespace LayeredPage

/-- What a form control holds, and the scroll offset of a node. -/
structure FormState where
  inputType : Option String
  value : String
  checked : Bool
  min : Option Float
  max : Option Float
  step : Option Float
  selectedIndex : Option UInt32
  scrollLeft : Float
  scrollTop : Float

namespace FormState

def initial : FormState := ⟨none, "", false, none, none, none, none, 0, 0⟩

def set (f : FormState) : FormProperty → FormState
  | .inputType kind => { f with inputType := some kind }
  | .value text => { f with value := text }
  | .checked state => { f with checked := state }
  | .min x => { f with min := some x }
  | .max x => { f with max := some x }
  | .step x => { f with step := some x }
  | .selectedIndex n => { f with selectedIndex := some n }
  | .scrollLeft x => { f with scrollLeft := x }
  | .scrollTop x => { f with scrollTop := x }

end FormState

/-- A canvas: its sizes, the scale of its context, and how often it was cleared. -/
structure SurfaceState where
  metrics : SurfaceMetrics
  scale : Float
  clears : Nat

def SurfaceState.initial : SurfaceState := ⟨⟨0, 0, 0, 0⟩, 1, 0⟩

abbrev Names := Std.ExtTreeMap String String

structure MemoryNode where
  kind : NodeKind
  parent : Option NodeId
  children : List NodeId
  attributes : Names
  style : Names
  linkStyle : Names
  html : String
  form : FormState
  bindings : List (UInt32 × InputBinding)
  surface : SurfaceState

/-- A node in its empty state. -/
def MemoryNode.fresh (kind : NodeKind) : MemoryNode :=
  ⟨kind, none, [], ∅, ∅, ∅, "", .initial, [], .initial⟩

end LayeredPage
