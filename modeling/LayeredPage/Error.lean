import LayeredPage.Widgets.Kind

/-!
# Refused patches and broken promises

A `PatchError` is the stream's fault: the patch is refused and the next one may be applied. A
`Breach` is a promise broken by a caller or by the surroundings; nothing goes on after it.
-/

namespace LayeredPage

/-- What is wrong with a batch. -/
inductive BatchFault where
  /-- It is no list of objects, or a payload does not fit its tag; its reader put it like this. -/
  | form (text : String)
  /-- An object has this number of keys instead of one. -/
  | keys (count : Nat)
deriving DecidableEq, Repr

def BatchFault.text : BatchFault → String
  | .form text => text
  | .keys count => s!"patch objects have exactly one key, found {count}"

inductive PatchError where
  | unregisteredTag (tag : String)
  | unknownElement (id : UInt32)
  | duplicateElement (id : UInt32)
  | kindMismatch (id : UInt32) (expected actual : Widget)
  | unknownContainer (id : UInt32)
  | duplicateContainer (id : UInt32)
  | containerInUse (id : UInt32) (members : Nat)
  | layerInUse (layer : Nat) (members : Nat)
  | malformed (fault : BatchFault)
deriving DecidableEq, Repr

namespace PatchError

def text : PatchError → String
  | .unregisteredTag tag => s!"no pool registered for tag {tag}"
  | .unknownElement id => s!"native element {id} does not exist"
  | .duplicateElement id => s!"native element {id} already exists"
  | .kindMismatch id expected actual =>
    "native element " ++ toString id ++ " is a " ++ actual.name ++ ", not a " ++ expected.name
  | .unknownContainer id => s!"clip container {id} does not exist"
  | .duplicateContainer id => s!"clip container {id} already exists"
  | .containerInUse id members => s!"clip container {id} still has {members} member node(s)"
  | .layerInUse layer members => s!"occlusion layer {layer} still holds {members} element(s)"
  | .malformed fault => "malformed patch batch: " ++ fault.text

/-- Text of the error, unless its reader worded it. -/
def message? : PatchError → Option String
  | .malformed (.form _) => none
  | e => some e.text

end PatchError

inductive Breach where
  /-- A node that this document never issued. -/
  | unissuedNode (index : Nat)
  /-- A node that the page never handed out. -/
  | unknownNode (index : Nat)
  /-- A surface registered while it is registered. -/
  | surfaceTwice (layer : Nat)
  /-- A surface removed that is not registered. -/
  | surfaceMissing (layer : Nat)
  /-- A layer used before the stack has grown to it. -/
  | layerMissing (layer : Nat)
  /-- A container whose chain of parents has no end. -/
  | endlessContainers (id : UInt32)
  /-- A tab index outside 64 bits. -/
  | tabIndexRange
  /-- The page would not create an element. -/
  | elementRefused (tag : String)
deriving DecidableEq, Repr

/-- The documented text of a breach, where there is one. -/
def Breach.message? : Breach → Option String
  | .unissuedNode index => some s!"NodeId({index}) was not issued by this MemoryDom"
  | .unknownNode index => some s!"NodeId({index}) was not issued by this host"
  | _ => none

end LayeredPage
