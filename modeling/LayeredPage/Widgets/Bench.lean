import LayeredPage.Widgets.Element
import LayeredPage.Widgets.FontCache

/-!
# The bench

While a widget is built or updated, only its own element, the pools and the fonts are at hand. A
craft is a script of bench requests; they name nodes by their place, so a craft reaches no node but
those of the element.
-/

namespace LayeredPage

/-- What is at hand while one element is worked on. -/
structure Bench where
  pools : NodePools
  fonts : FontCache
  element : Element

/-- What shows of an element at the bench: its notes, how many parts and options it has, and how it
scrolls. -/
structure ElementView extends Notes where
  parts : Nat
  options : Nat
  scroll : Option ScrollRegion

def Element.view (e : Element) : ElementView :=
  ⟨e.toNotes, e.parts.length, e.options.length, e.scroll⟩

inductive BenchRequest where
  | look
  | note (notes : Notes)
  | addPart (parent : Spot) (kind : NodeKind)
  | addOption (parent : Spot) (kind : NodeKind)
  | clearOptions
  | write (spot : Spot) (w : NodeWrite)
  | html (spot : Spot)
  | sample (tracker : ScrollTracker Float) (interval : UInt32)
  | resizeRegion (width height : Option Float)
  | useFont (font : Font)

@[reducible] def BenchRequest.Reply : BenchRequest → Type
  | .look => ElementView
  | .addPart .. | .addOption .. => Spot
  | .html _ => String
  | .note _ | .clearOptions | .write .. | .sample .. | .resizeRegion .. | .useFont _ => Unit

@[reducible] def Benchwork : Interface := ⟨BenchRequest, BenchRequest.Reply⟩

abbrev Craft := Script Benchwork

namespace Craft

/-- Puts one request to the bench. -/
def call (r : BenchRequest) : Craft r.Reply := Script.request (I := Benchwork) r

def remember (f : Notes → Notes) : Craft Unit := do
  let view ← call .look
  call (.note (f view.toNotes))

end Craft

namespace Bench

def onPools {α : Type} (act : Work NodePools α) : Work Bench α :=
  Action.focus Bench.pools (fun pools b => { b with pools }) act

def onFonts {α : Type} (act : Work FontCache α) : Work Bench α :=
  Action.focus Bench.fonts (fun fonts b => { b with fonts }) act

def modifyElement (f : Element → Element) : Work Bench Unit :=
  modify fun b => { b with element := f b.element }

/-- Takes a node, hangs it under `parent`, and records it as a part. -/
def addPart (parent : Spot) (kind : NodeKind) : Work Bench Spot := do
  let node ← onPools (Pools.take kind)
  let e := (← get).element
  ask (.appendChild (e.node parent) node.id)
  modifyElement fun e => { e with parts := e.parts ++ [node] }
  return .part e.parts.length

/-- Takes a node, hangs it under `parent`, gives it the element's tab index if it takes the focus,
and records it as an option. -/
def addOption (parent : Spot) (kind : NodeKind) : Work Bench Spot := do
  let node ← onPools (Pools.take kind)
  let e := (← get).element
  ask (.appendChild (e.node parent) node.id)
  if kind.isFocusable then
    each e.tabIndex fun tab => ask (.setAttribute node.id "tabindex" (toString tab))
  modifyElement fun e => { e with options := e.options ++ [node] }
  return .option e.options.length

/-- Gives nodes back, last one first. -/
def giveBack (nodes : List OwnedNode) : Work NodePools Unit :=
  nodes.reverse.forM fun node => Pools.put node.kind node

/-- Gives the options back. -/
def clearOptions : Work Bench Unit := do
  let options := (← get).element.options
  modifyElement fun e => { e with options := [] }
  onPools (giveBack options)

/-- Samples the leaf from now on, in place of the sampler that the element has. -/
def sample (tracker : ScrollTracker Float) (interval : UInt32) : Work Bench Unit := do
  let e := (← get).element
  let sampler ← ask (.sampleScroll e.leaf.id tracker interval)
  modifyElement fun e => { e with scroll := some ⟨sampler, 0, 0⟩ }
  each e.scroll fun r => (ask (.cancelSampler r.sampler) : Script Patching Unit)

/-- Does what a craft asks for. -/
def perform : (r : BenchRequest) → Work Bench r.Reply
  | .look => do return (← get).element.view
  | .note notes => modifyElement fun e => { e with toNotes := notes }
  | .addPart parent kind => addPart parent kind
  | .addOption parent kind => addOption parent kind
  | .clearOptions => clearOptions
  | .write spot w => do NodeWrite.apply w ((← get).element.node spot)
  | .html spot => do ask (.innerHtml ((← get).element.node spot))
  | .sample tracker interval => sample tracker interval
  | .resizeRegion width height =>
    modifyElement fun e => { e with scroll := e.scroll.map fun r => r.resize width height }
  | .useFont font => do
    let _ ← onFonts (FontCache.register font)

/-- Carries a craft out, request by request. -/
def carryOut {α : Type} : Craft α → Work Bench α
  | .done a => pure a
  | .ask r next => do carryOut (next (← perform r))
  | .broken why => (Script.broken why : Script Patching α)

end Bench

end LayeredPage
