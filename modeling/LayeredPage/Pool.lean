import LayeredPage.Host.Script
import LayeredPage.Text.Quoted

/-!
# Pools

A pool hands out the item that came back last, or makes a new one; an item that comes back is reset
first. A pool that keeps nothing, the measure of what recycling may change, makes every item anew.
Pools are kept under tags, and a tag without a pool is an error that touches nothing.
-/

namespace LayeredPage

/-- `free` is latest first; `created` counts the items made so far. -/
structure Pool (m : Type → Type) (τ : Type) where
  free : List τ
  created : Nat
  /-- Whether items that come back are handed out again. -/
  keeps : Bool
  make : m τ
  reset : τ → m τ

namespace Pool

variable {m : Type → Type} [Monad m] {τ : Type}

def start (make : m τ) (reset : τ → m τ) : Pool m τ := ⟨[], 0, true, make, reset⟩

def available (p : Pool m τ) : Nat := p.free.length

def take (p : Pool m τ) : m (τ × Pool m τ) :=
  match p.free with
  | item :: free => pure (item, { p with free })
  | [] => do return (← p.make, { p with created := p.created + 1 })

def put (p : Pool m τ) (item : τ) : m (Pool m τ) := do
  let item ← p.reset item
  return if p.keeps then { p with free := item :: p.free } else p

end Pool

/-- Tags that diagnostics can name. -/
class Described (κ : Type) where
  describe : κ → String

instance : Described String where
  describe := Text.quoted

/-- Pools by tag, each tag once. -/
structure Pools (m : Type → Type) (κ τ : Type) where
  entries : List (κ × Pool m τ)

namespace Pools

variable {m : Type → Type} {κ τ : Type} [DecidableEq κ]

def empty : Pools m κ τ := ⟨[]⟩

def get? (ps : Pools m κ τ) (tag : κ) : Option (Pool m τ) :=
  (ps.entries.find? fun e => decide (e.1 = tag)).map (·.2)

def isRegistered (ps : Pools m κ τ) (tag : κ) : Bool := (ps.get? tag).isSome

def setIn (tag : κ) (p : Pool m τ) : List (κ × Pool m τ) → List (κ × Pool m τ)
  | [] => [(tag, p)]
  | e :: rest => if e.1 = tag then (tag, p) :: rest else e :: setIn tag p rest

/-- Sets the pool of a tag, in the place of the one it has. -/
def set (ps : Pools m κ τ) (tag : κ) (p : Pool m τ) : Pools m κ τ := ⟨setIn tag p ps.entries⟩

def register (ps : Pools m κ τ) (tag : κ) (make : m τ) (reset : τ → m τ) : Pools m κ τ :=
  ps.set tag (.start make reset)

variable [Monad m] [Described κ]

/-- The pool of a tag, or the error that there is none. -/
def pool (tag : κ) : Action m (Pools m κ τ) (Pool m τ) := do
  match (← get).get? tag with
  | some p => return p
  | none => throw (.unregisteredTag (Described.describe tag))

def take (tag : κ) : Action m (Pools m κ τ) τ := do
  let (item, p) ← (← pool tag).take
  modify fun ps => ps.set tag p
  return item

def put (tag : κ) (item : τ) : Action m (Pools m κ τ) Unit := do
  let p ← (← pool tag).put item
  modify fun ps => ps.set tag p

end Pools

end LayeredPage
