import LayeredPage.Config
import LayeredPage.Motion.Hermite

/-!
# Scroll tracking

A scroller moves on its own; the core learns of it by the movement since the last report. While a
finger is down, and once motion has stopped, a report is exact. After release it goes a fixed part
of the way to the predicted offset, which hides the delay until the frame is painted.
-/

namespace LayeredPage

inductive ScrollMode where
  | direct
  | predicting
deriving DecidableEq, Repr

structure ScrollTracker (α : Type) where
  config : ScrollConfig α
  x : Hermite α
  y : Hermite α
  last : Point α
  reported : Point α
  /-- Length of the present run of equal samples. -/
  identical : Nat
  touching : Bool
  mode : ScrollMode

namespace ScrollTracker

variable {α : Type} [Scalar α]

def start (config : ScrollConfig α) : ScrollTracker α where
  config := config
  x := .empty config.capacity
  y := .empty config.capacity
  last := .zero
  reported := .zero
  identical := 0
  touching := false
  mode := .direct

def longestRun : Nat := 4294967295

def isStopped (s : ScrollTracker α) : Bool :=
  s.config.stopAfterIdentical.toNat ≤ s.identical

def setTouching (s : ScrollTracker α) (touching : Bool) : ScrollTracker α :=
  { s with touching, mode := if touching || s.isStopped then .direct else .predicting }

/-- Records the offset seen at `now`. Once motion has stopped, samples no longer feed the
prediction. -/
def sample (s : ScrollTracker α) (now : α) (offset : Point α) : ScrollTracker α :=
  let again := offset.same s.last && 0 < s.identical
  let s :=
    { s with
      identical := if again then min (s.identical + 1) longestRun else 1
      last := offset }
  if s.isStopped then { s with mode := .direct }
  else { s with x := s.x.update now offset.x, y := s.y.update now offset.y }

/-- Where the next report leads to. -/
def target (s : ScrollTracker α) (now : α) : Point α :=
  match s.mode with
  | .direct => s.last
  | .predicting => s.reported.lerp ⟨s.x.predict now, s.y.predict now⟩ s.config.smoothing

/-- The movement to report at `now`; it counts as reported. -/
def delta (s : ScrollTracker α) (now : α) : Point α × ScrollTracker α :=
  let target := s.target now
  (target.sub s.reported, { s with reported := target })

end ScrollTracker

end LayeredPage
