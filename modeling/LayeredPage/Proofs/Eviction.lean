import LayeredPage.Motion.Hermite
import LayeredPage.Proofs.Exact
import Mathlib.Data.List.Basic

/-!
# Samples that were let go

The velocity of a sample is that of the way from the two samples before it, and a prediction follows
the two latest samples. With room for three samples, the ones that make way for others are thus not
missed: the interpolator predicts as one that remembers everything. With room for two it does not,
for then a new sample finds one sample before it.
-/

namespace LayeredPage.Hermite

variable {α : Type} [Scalar α]

/-- Takes one more sample and lets none go. -/
def remember (h : Hermite α) (timestamp position : α) : Hermite α :=
  let origin := h.origin.getD timestamp
  let time := timestamp - origin
  { h with
    samples := ⟨time, position, velocity h.samples time position⟩ :: h.samples
    origin := some origin }

/-- What an interpolator holds after some updates, each a timestamp and a position. -/
def updated (h : Hermite α) (updates : List (α × α)) : Hermite α :=
  updates.foldl (fun h u => h.update u.1 u.2) h

/-- What one holds that keeps its whole history. -/
def remembering (h : Hermite α) (updates : List (α × α)) : Hermite α :=
  updates.foldl (fun h u => h.remember u.1 u.2) h

end LayeredPage.Hermite

namespace LayeredPage.Proofs

section Windows

variable {α : Type} {h whole : Hermite α} {timestamp position : α} {n : Nat}
  {samples : List (Sample α)}

/-- `h` holds the latest samples of `whole`, as many as it has room for. -/
structure Window (h whole : Hermite α) : Prop where
  samples : h.samples = whole.samples.take h.capacity
  origin : h.origin = whole.origin

lemma Window.kept (window : Window h whole) : h.kept = whole.samples.take (h.capacity - 1) := by
  unfold Hermite.kept
  rw [window.samples]
  split
  · next full => rw [List.dropLast_eq_take, full, List.take_take, Nat.min_eq_left (Nat.sub_le ..)]
  · next room =>
    -- Nothing was let go so far.
    have all : whole.samples.length ≤ h.capacity - 1 := by
      rw [List.length_take] at room
      omega
    rw [List.take_of_length_le all, List.take_of_length_le (by omega)]

variable [Scalar α]

lemma velocity_take (two : 2 ≤ n) (time : α) :
    Hermite.velocity (samples.take n) time position = Hermite.velocity samples time position := by
  obtain ⟨n, rfl⟩ := Nat.exists_eq_add_of_le' two
  rcases samples with _ | ⟨_, _ | ⟨_, _⟩⟩ <;> rfl

/-- One more update, on both. -/
lemma Window.update (window : Window h whole) (room : 3 ≤ h.capacity) :
    Window (h.update timestamp position) (whole.remember timestamp position) := by
  obtain ⟨n, three⟩ := Nat.exists_eq_add_of_le' room
  have kept : h.kept = whole.samples.take (n + 2) := by
    rw [window.kept, three]
    rfl
  have seen (time : α) :
      Hermite.velocity h.kept time position = Hermite.velocity whole.samples time position := by
    rw [kept]
    exact velocity_take (Nat.le_add_left ..) time
  constructor
  · simp only [Hermite.update, Hermite.remember, seen, window.origin]
    rw [kept, three]
    rfl
  · simp only [Hermite.update, Hermite.remember, window.origin]

lemma Window.predict (window : Window h whole) (room : 2 ≤ h.capacity) (t : α) :
    h.predict t = whole.predict t := by
  obtain ⟨n, two⟩ := Nat.exists_eq_add_of_le' room
  unfold Hermite.predict
  rw [window.samples, window.origin, two]
  rcases whole.samples with _ | ⟨_, _ | ⟨_, _⟩⟩ <;> rfl

/-- Updates keep the one a window of the other. -/
lemma Window.updated (window : Window h whole) (room : 3 ≤ h.capacity) (updates : List (α × α)) :
    Window (h.updated updates) (whole.remembering updates) := by
  induction updates generalizing h whole with
  | nil => exact window
  | cons u updates ih => exact ih (window.update room) room

lemma capacity_updated (updates : List (α × α)) : (h.updated updates).capacity = h.capacity := by
  induction updates generalizing h with
  | nil => rfl
  | cons u updates ih => exact ih (h := h.update u.1 u.2)

lemma length_remembering (updates : List (α × α)) :
    (whole.remembering updates).samples.length = whole.samples.length + updates.length := by
  induction updates generalizing whole with
  | nil => rfl
  | cons u updates ih =>
    change ((whole.remember u.1 u.2).remembering updates).samples.length = _
    rw [ih]
    simp only [Hermite.remember, List.length_cons]
    omega

end Windows

section Results

variable {α : Type} [Scalar α] {capacity : Nat}

/-- Whatever the timestamps and the positions, an interpolator with room for three samples or more
holds as many of the latest samples as it has room for, and predicts at all times as one that keeps
its whole history. -/
theorem predictions_survive_eviction (room : 3 ≤ capacity) (updates : List (α × α)) :
    ((Hermite.empty capacity).updated updates).samples.length = min updates.length capacity ∧
      ((Hermite.empty capacity).updated updates).samples =
        ((Hermite.empty capacity).remembering updates).samples.take capacity ∧
      ((Hermite.empty capacity).remembering updates).samples.length = updates.length ∧
      ∀ t : α, ((Hermite.empty capacity).updated updates).predict t =
        ((Hermite.empty capacity).remembering updates).predict t := by
  have start : (Hermite.empty capacity : Hermite α).capacity = capacity :=
    Nat.max_eq_left (by omega)
  have size : ((Hermite.empty capacity).updated updates).capacity = capacity :=
    (capacity_updated updates).trans start
  have window :
      Window ((Hermite.empty capacity).updated updates)
        ((Hermite.empty capacity).remembering updates) :=
    Window.updated ⟨List.take_nil.symm, rfl⟩ (room.trans_eq start.symm) updates
  have latest := window.samples
  rw [size] at latest
  have all : ((Hermite.empty capacity).remembering updates).samples.length = updates.length :=
    (length_remembering updates).trans (Nat.zero_add _)
  refine ⟨?_, latest, all, window.predict (by omega)⟩
  rw [latest, List.length_take, all, Nat.min_comm]

/-- A drag that speeds up, with two samples at one time. -/
def drag : List (ℚ × ℚ) := [(100, 0), (110, 1), (120, 4), (120, 5), (130, 9), (140, 16)]

theorem predictions_of_a_drag : ((Hermite.empty 3).updated drag).samples.length = 3 ∧
    ((Hermite.empty 3).updated drag).predict 150 = 7 ∧
    ((Hermite.empty 3).remembering drag).predict 150 = 7 := by
  obtain ⟨held, _, _, same⟩ := predictions_survive_eviction (le_refl 3) drag
  have ahead : ((Hermite.empty 3).updated drag).predict 150 = 7 := by decide +kernel
  exact ⟨held, ahead, (same 150).symm.trans ahead⟩

/-- With room for two samples, the velocity before the last step is not known any more. -/
example :
    ((Hermite.empty 2).updated drag).predict 150 ≠
      ((Hermite.empty 2).remembering drag).predict 150 := by decide +kernel

end Results

end LayeredPage.Proofs
