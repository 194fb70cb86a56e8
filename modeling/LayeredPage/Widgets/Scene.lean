import LayeredPage.Input.Identifier
import LayeredPage.Layers.Stage
import LayeredPage.Widgets.Build
import LayeredPage.Widgets.Update

/-!
# The scene

The live elements on a stage. Applying a patch creates, updates, restacks or deletes an element,
works on a clip container, or asks for an image. A creation that finds no place for its element
gives everything back that it took.
-/

namespace LayeredPage

structure Scene extends Stage where
  elements : Std.ExtTreeMap UInt32 Element
  fonts : FontCache
  config : Config

namespace Scene

/-- The leaf of an element. -/
def leaf? (s : Scene) (id : UInt32) : Option NodeId := (s.elements[id]?).map (·.leaf.id)

/-- A part of an element. -/
def part? (s : Scene) (id : UInt32) (i : Nat) : Option NodeId :=
  (s.elements[id]?).bind fun e => e.part? i

/-- An option of an element. -/
def option? (s : Scene) (id : UInt32) (i : Nat) : Option NodeId :=
  (s.elements[id]?).bind fun e => (e.options[i]?).map (·.id)

def ofStage (stage : Stage) (config : Config) : Scene := ⟨stage, ∅, .empty, config⟩

/-- Takes over `mount`, with nodes from these pools. -/
def attachWith (pools : NodePools) (mount : NodeId) (config : Config) :
    Script Patching (Except PatchError Scene) := do
  return (← Stage.attach pools mount).map fun stage => ofStage stage config

/-- Takes over `mount`, with a pool for every kind of node. -/
def attach : NodeId → Config → Script Patching (Except PatchError Scene) := attachWith .complete

def onStage {α : Type} (act : Work Stage α) : Work Scene α :=
  Action.focus Scene.toStage (fun stage s => { s with toStage := stage }) act

def onPools {α : Type} (act : Work NodePools α) : Work Scene α := onStage (Stage.onPools act)

/-- Works on one element at the bench; gives the outcome and the element as it is then. -/
def atBench (e : Element) (craft : Craft Unit) : Work Scene (Except PatchError Unit × Element) :=
  fun s => do
    let (result, b) ← Bench.carryOut craft ⟨s.pools, s.fonts, e⟩
    return (.ok (result, b.element), { s with pools := b.pools, fonts := b.fonts })

def putElement (id : UInt32) (e : Element) : Work Scene Unit :=
  modify fun s => { s with elements := s.elements.insert id e }

/-- The element with this id, if it is of this kind. -/
def lookup (id : UInt32) (widget : Widget) : Work Scene Element := do
  match (← get).elements[id]? with
  | none => throw (.unknownElement id)
  | some e =>
    if e.widget = widget then return e else throw (.kindMismatch id widget e.widget)

/-- Gives all nodes of an element back and stops its sampler. -/
def release (e : Element) : Work Scene Unit := do
  if e.observed then ask (.unobserveSize e.leaf.id)
  each e.scroll fun r => (ask (.cancelSampler r.sampler) : Script Patching Unit)
  onPools do
    Bench.giveBack e.options
    Bench.giveBack e.parts
    Pools.put e.leaf.kind e.leaf

def create (widget : Widget) (c : Creation) : Work Scene Unit := do
  if (← get).elements.contains c.id then throw (.duplicateElement c.id)
  let leaf ← onPools (Pools.take NodeKind.div)
  ask (.setAttribute leaf.id "class" Element.leafClass)
  ask (.setAttribute leaf.id nativeIdAttribute (toString c.id))
  let (built, e) ← atBench (.start widget leaf c) (Craft.build (← get).config c.id widget)
  let placed ← Action.outcome do
    liftExcept built
    onStage (Stage.addElement leaf.id c.frame c.layer)
  match placed with
  | .ok _ => putElement c.id e
  | .error why =>
    release e
    throw why
where
  liftExcept (result : Except PatchError Unit) : Work Scene Unit :=
    match result with
    | .ok _ => pure ()
    | .error why => throw why

def update (id : UInt32) (change : Change) : Work Scene Unit := do
  let e ← lookup id change.widget
  let (result, e) ← atBench e (Craft.update id change)
  putElement id e
  match result with
  | .ok _ => pure ()
  | .error why => throw why

def delete (widget : Widget) (id : UInt32) : Work Scene Unit := do
  let e ← lookup id widget
  modify fun s => { s with elements := s.elements.erase id }
  release e

/-- The tab index of controls at a depth, if it fits 64 bits. -/
def tabIndex? (config : Config) (depth : UInt32) : Option Int :=
  let tab := config.tabIndexBase.toInt - (depth.toNat : Int)
  if -9223372036854775808 ≤ tab then some tab else none

/-- Moves an element to another layer, and to another depth on it. -/
def restack (id layer depth : UInt32) : Work Scene Unit := do
  match (← get).elements[id]? with
  | none => throw (.unknownElement id)
  | some e =>
    onStage (Stage.addElement e.leaf.id e.frame layer)
    match tabIndex? (← get).config depth with
    | none => (Script.broken .tabIndexRange : Script Patching Unit)
    | some tab =>
      putElement id { e with layer, tabIndex := some tab }
      ask (.setStyle e.leaf.id "z-index" (toString depth))
      ((e.parts ++ e.options).filter fun node => node.kind.isFocusable).forM fun node =>
        (ask (.setAttribute node.id "tabindex" (toString tab)) : Script Patching Unit)

/-- Asks the page for an image unless the core has it. -/
def loadImage (id : UInt32) (path : String) : Work Scene Unit := do
  if !(← tell (.imageLoaded path)) then
    ask (.loadImage ⟨id, path, (← get).config.imageRetry⟩)

def apply : Patch → Work Scene Unit
  | .create widget c => create widget c
  | .update id change => update id change
  | .delete widget id => delete widget id
  | .restack id layer depth => restack id layer depth
  | .createFrame c => onStage (Stage.addContainer c.id c.frame)
  | .updateFrame id g => onStage (Stage.updateContainer id g)
  | .deleteFrame id => onStage (Stage.removeContainer id)
  | .loadImage id path => loadImage id path

/-- Applies patches up to the first that is refused. -/
def applyAll (patches : List Patch) : Work Scene Unit := patches.forM apply

/-- The movement of every scroller since it was last asked for, by id. -/
def scrollDeltas (s : Scene) (now : Float) : Script Patching (List (UInt32 × Point Float)) :=
  s.elements.toList.filterMapM fun (id, e) =>
    match e.scroll with
    | some r => do return some (id, ← ask (.scrollDelta r.sampler now))
    | none => pure none

/-- Clears every canvas, and resizes those whose buffer does not fit their layout at this ratio. -/
def clearSurfaces (s : Scene) (ratio : Float) : Script Patching Unit :=
  s.surfaces.values.forM fun canvas => do
    ask (.clearSurface canvas)
    match (← ask (.surfaceMetrics canvas)).resizeTarget? ratio with
    | some (width, height) => ask (.resizeSurface canvas width height ratio)
    | none => pure ()

end Scene

end LayeredPage
