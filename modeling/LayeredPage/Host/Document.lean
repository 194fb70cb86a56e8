import LayeredPage.Host.Node
import LayeredPage.Motion.ScrollTracker

/-!
# What can be asked of a document

Every change that the chassis makes to a page is one of these requests, and so is everything it
reads back.
-/

namespace LayeredPage

/-- A scroll sampler, by its place among all samplers of the document. -/
structure SamplerId where
  index : Nat
deriving DecidableEq, Repr

/-- Text of a sampler in diagnostics. -/
def SamplerId.describe (_ : SamplerId) : String := "SamplerHandle \x7b armed: true \x7d"

inductive DocumentRequest where
  | createElement (kind : NodeKind)
  | appendChild (parent child : NodeId)
  | detach (node : NodeId)
  | parent (node : NodeId)
  | childCount (node : NodeId)
  | reset (node : NodeId)
  | setAttribute (node : NodeId) (name value : String)
  | removeAttribute (node : NodeId) (name : String)
  | setStyle (node : NodeId) (property value : String)
  | removeStyle (node : NodeId) (property : String)
  | setLinkStyle (node : NodeId) (property value : String)
  | setRootProperty (name value : String)
  | removeRootProperty (name : String)
  | setInnerHtml (node : NodeId) (html : String)
  | innerHtml (node : NodeId)
  | setText (node : NodeId) (text : String)
  | setForm (node : NodeId) (property : FormProperty)
  | focus (node : NodeId)
  | bindInput (node : NodeId) (id : UInt32) (binding : InputBinding)
  | observeSize (node : NodeId)
  | unobserveSize (node : NodeId)
  | sampleScroll (node : NodeId) (tracker : ScrollTracker Float) (interval : UInt32)
  | cancelSampler (sampler : SamplerId)
  | scrollDelta (sampler : SamplerId) (now : Float)
  | surfaceMetrics (node : NodeId)
  | clearSurface (node : NodeId)
  | resizeSurface (node : NodeId) (width height : UInt32) (scale : Float)
  | loadFace (request : FaceRequest)
  | loadImage (request : ImageRequest)

@[reducible] def DocumentRequest.Reply : DocumentRequest → Type
  | .createElement _ => NodeId
  | .parent _ => Option NodeId
  | .childCount _ => Nat
  | .innerHtml _ => String
  | .sampleScroll .. => SamplerId
  | .scrollDelta .. => Point Float
  | .surfaceMetrics _ => SurfaceMetrics
  | .appendChild .. | .detach _ | .reset _ | .setAttribute .. | .removeAttribute ..
  | .setStyle .. | .removeStyle .. | .setLinkStyle .. | .setRootProperty ..
  | .removeRootProperty _ | .setInnerHtml .. | .setText .. | .setForm .. | .focus _
  | .bindInput .. | .observeSize _ | .unobserveSize _ | .cancelSampler _ | .clearSurface _
  | .resizeSurface .. | .loadFace _ | .loadImage _ => Unit

/-- A document, and the calls to the core that patching needs. -/
inductive PatchRequest where
  | document (r : DocumentRequest)
  | addContext (layer : Nat)
  | removeContext (layer : Nat)
  | imageLoaded (path : String)

@[reducible] def PatchRequest.Reply : PatchRequest → Type
  | .document r => r.Reply
  | .addContext _ => Unit
  | .removeContext _ => Unit
  | .imageLoaded _ => Bool

@[reducible] def Patching : Interface := ⟨PatchRequest, PatchRequest.Reply⟩

/-- Patching steps with the state `σ`. -/
abbrev Work (σ : Type) := Action (Script Patching) σ

/-- Puts one request to the document. -/
def ask (r : DocumentRequest) : Script Patching r.Reply :=
  Script.request (I := Patching) (.document r)

/-- Puts one request to the core. -/
def tell (r : PatchRequest) : Script Patching r.Reply := Script.request (I := Patching) r

/-- A change to one node, whichever it is. -/
inductive NodeWrite where
  | attr (name value : String)
  | style (property value : String)
  | noStyle (property : String)
  | linkStyle (property value : String)
  | html (markup : String)
  | text (content : String)
  | form (property : FormProperty)
  | focus
  | bind (id : UInt32) (binding : InputBinding)
  | observe

/-- Makes the change to a node. -/
def NodeWrite.apply (w : NodeWrite) (node : NodeId) : Script Patching Unit :=
  match w with
  | .attr name value => ask (.setAttribute node name value)
  | .style property value => ask (.setStyle node property value)
  | .noStyle property => ask (.removeStyle node property)
  | .linkStyle property value => ask (.setLinkStyle node property value)
  | .html markup => ask (.setInnerHtml node markup)
  | .text content => ask (.setText node content)
  | .form property => ask (.setForm node property)
  | .focus => ask (.focus node)
  | .bind id binding => ask (.bindInput node id binding)
  | .observe => ask (.observeSize node)

abbrev NodePools := Pools (Script Patching) NodeKind OwnedNode

namespace NodePools

/-- Creates a node for the pool of a kind. -/
def make (kind : NodeKind) : Script Patching OwnedNode := do
  return ⟨← ask (.createElement kind), kind⟩

/-- Empties a node that comes back. -/
def renew (node : OwnedNode) : Script Patching OwnedNode := do
  ask (.reset node.id)
  return node

/-- A pool for every kind. -/
def forAll (keeps : Bool) : NodePools :=
  NodeKind.all.foldl (fun ps kind => ps.set kind { Pool.start (make kind) renew with keeps }) .empty

/-- Pools for every kind that hand returned nodes out again. -/
def complete : NodePools := forAll true

/-- Pools for every kind that make every node anew. -/
def disposable : NodePools := forAll false

/-- Text of the pools in diagnostics. -/
def describe (ps : NodePools) : String :=
  let entry := fun (kind : NodeKind) => (ps.get? kind).map fun p =>
    kind.title ++ ": ObjectPool \x7b free: " ++ toString p.available ++ ", created: " ++
      toString p.created ++ ", .. \x7d"
  "\x7b" ++ ", ".intercalate (NodeKind.all.filterMap entry) ++ "\x7d"

end NodePools

end LayeredPage
