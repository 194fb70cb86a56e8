import LayeredPage.Number.Scalar

/-!
# Hermite prediction

A bounded history of one coordinate, extrapolated by the cubic through the two latest samples with
their velocities. Times count from the first sample.
-/

namespace LayeredPage

structure Sample (α : Type) where
  time : α
  position : α
  velocity : α

/-- `samples` are latest first; there are at most `capacity` of them. -/
structure Hermite (α : Type) where
  samples : List (Sample α)
  capacity : Nat
  origin : Option α

namespace Hermite

variable {α : Type} [Scalar α]

open Scalar (ofNat below atMost)

/-- At least two samples are kept. -/
def empty (capacity : Nat) : Hermite α := ⟨[], max capacity 2, none⟩

/-- Mean velocity from a sample to a later one; zero if time does not advance. -/
def slope (s : Sample α) (time position : α) : α :=
  let span := time - s.time
  if below (ofNat 0) span then (position - s.position) / span else ofNat 0

/-- The samples that stay when one more comes. -/
def kept (h : Hermite α) : List (Sample α) :=
  if h.samples.length = h.capacity then h.samples.dropLast else h.samples

/-- Slope from the previous sample, averaged with the slope before it if there is one. -/
def velocity (earlier : List (Sample α)) (time position : α) : α :=
  match earlier with
  | [] => ofNat 0
  | [last] => slope last time position
  | last :: before :: _ =>
    ofNat 1 / ofNat 2 * (slope last time position + slope before last.time last.position)

def update (h : Hermite α) (timestamp position : α) : Hermite α :=
  let origin := h.origin.getD timestamp
  let time := timestamp - origin
  { h with
    samples := ⟨time, position, velocity h.kept time position⟩ :: h.kept
    origin := some origin }

/-- The cubic with these ends, `span` apart, at the fraction `m` of the way. -/
def cubic (s₀ s₁ : Sample α) (span m : α) : α :=
  let m₂ := m * m
  let m₃ := m * m * m
  let h₀₀ := ofNat 2 * m₃ - ofNat 3 * m₂ + ofNat 1
  let h₁₀ := m₃ - ofNat 2 * m₂ + m
  let h₀₁ := (ofNat 0 - ofNat 2) * m₃ + ofNat 3 * m₂
  let h₁₁ := m₃ - m₂
  h₀₀ * s₀.position + h₁₀ * span * s₀.velocity + h₀₁ * s₁.position + h₁₁ * span * s₁.velocity

/-- The estimated position at `timestamp`; a single sample stays where it is. -/
def predict (h : Hermite α) (timestamp : α) : α :=
  match h.samples with
  | [] => ofNat 0
  | [s] => s.position
  | s₁ :: s₀ :: _ =>
    let time := timestamp - h.origin.getD timestamp
    let span := s₁.time - s₀.time
    if atMost span (ofNat 0) then s₁.position
    else cubic s₀ s₁ span ((time - s₀.time) / span)

end Hermite

end LayeredPage
