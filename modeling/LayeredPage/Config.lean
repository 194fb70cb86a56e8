import LayeredPage.Number.Scalar

/-!
# Configuration

The retry schedule for images, the tuning of scroll prediction, and the base of the tab order.
-/

namespace LayeredPage

/-- `attempts` tries; the wait after the first failure doubles after each further one. -/
structure Backoff where
  attempts : UInt32
  initialDelay : UInt32
deriving DecidableEq, Repr

namespace Backoff

def longestDelay : Nat := 4294967295

def delaysFrom (delay : Nat) : Nat → List Nat
  | 0 => []
  | attempts + 1 => delay :: delaysFrom (min (2 * delay) longestDelay) attempts

/-- The waits in milliseconds, one for each attempt. -/
def delays (b : Backoff) : List Nat := delaysFrom b.initialDelay.toNat b.attempts.toNat

end Backoff

structure ScrollConfig (α : Type) where
  /-- Most samples that prediction keeps. -/
  capacity : Nat
  /-- Equal samples in a row after which motion counts as stopped. -/
  stopAfterIdentical : UInt32
  /-- Part of the way to the prediction that one report covers. -/
  smoothing : α
  /-- Milliseconds between samples. -/
  sampleInterval : UInt32

namespace ScrollConfig

def standard : ScrollConfig Float where
  capacity := 100
  stopAfterIdentical := 4
  smoothing := 0.95
  sampleInterval := 0

end ScrollConfig

structure Config where
  imageRetry : Backoff
  scroll : ScrollConfig Float
  /-- A focusable control at depth `z` gets this number less `z` as its tab index, so the keyboard
  visits front controls first. -/
  tabIndexBase : Int64

namespace Config

def standard : Config where
  imageRetry := ⟨8, 100⟩
  scroll := .standard
  tabIndexBase := 1000000

end Config

end LayeredPage
