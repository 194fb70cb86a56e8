import LayeredPage.Proofs.Eviction
import Mathlib.Data.List.Induction
import Mathlib.Tactic.Linarith
import Mathlib.Tactic.Ring

/-!
# What predictions are exact for

A prediction follows the cubic through the two latest samples. Nothing is divided by zero on the way
to it, whatever the times, for a span is divided by only where time went on. The cubic goes through
both samples, and it is a line if they lie on one and move along it. The first sample is taken to be
at rest, so that needs a third one. When time began is of no importance.
-/

namespace LayeredPage

/-- A number, or none if something was divided by zero to get it. Comparisons with none are
false. -/
structure Guarded where
  value? : Option ℚ

namespace Guarded

def of (x : ℚ) : Guarded := ⟨some x⟩

def combine (f : ℚ → ℚ → Option ℚ) (a b : Guarded) : Guarded :=
  ⟨a.value?.bind fun x => b.value?.bind (f x)⟩

def compare (p : ℚ → ℚ → Bool) (a b : Guarded) : Bool := a.value?.any fun x => b.value?.any (p x)

instance : Scalar Guarded where
  add := combine fun x y => some (x + y)
  sub := combine fun x y => some (x - y)
  mul := combine fun x y => some (x * y)
  div := combine fun x y => if y = 0 then none else some (x / y)
  ofNat n := of n
  below := compare Scalar.below
  atMost := compare Scalar.atMost
  same := compare Scalar.same

variable {x y : ℚ}

@[simp] lemma of_add : of x + of y = of (x + y) := rfl

@[simp] lemma of_sub : of x - of y = of (x - y) := rfl

@[simp] lemma of_mul : of x * of y = of (x * y) := rfl

lemma of_div (nonzero : y ≠ 0) : of x / of y = of (x / y) := congrArg mk (if_neg nonzero)

@[simp] lemma ofNat_eq (n : ℕ) : (Scalar.ofNat n : Guarded) = of (Scalar.ofNat n) := rfl

example : (of 1 / of 0).value? = none := rfl

end Guarded

def Sample.map {α β : Type} (f : α → β) (s : Sample α) : Sample β :=
  ⟨f s.time, f s.position, f s.velocity⟩

def Hermite.map {α β : Type} (f : α → β) (h : Hermite α) : Hermite β :=
  ⟨h.samples.map (Sample.map f), h.capacity, h.origin.map f⟩

/-- The update at which a sample was taken, if time counts from `origin`. -/
def Sample.taken (origin : ℚ) (s : Sample ℚ) : ℚ × ℚ := (s.time + origin, s.position)

end LayeredPage

namespace LayeredPage.Proofs

section Cases

variable {α : Type} [Scalar α] {h : Hermite α} {s s₀ s₁ : Sample α}
  {older : List (Sample α)} {time position : α}

lemma slope_onward (onward : Scalar.below (Scalar.ofNat 0) (time - s.time) = true) :
    Hermite.slope s time position = (position - s.position) / (time - s.time) := if_pos onward

lemma slope_still (still : ¬Scalar.below (Scalar.ofNat 0) (time - s.time) = true) :
    Hermite.slope s time position = Scalar.ofNat 0 := if_neg still

lemma predict_still (latest : h.samples = s₁ :: s₀ :: older)
    (still : Scalar.atMost (s₁.time - s₀.time) (Scalar.ofNat 0) = true)
    (t : α) : h.predict t = s₁.position := by
  simp only [Hermite.predict, latest]
  exact if_pos still

lemma predict_onward (latest : h.samples = s₁ :: s₀ :: older)
    (onward : ¬Scalar.atMost (s₁.time - s₀.time) (Scalar.ofNat 0) = true) (t : α) :
    h.predict t =
      Hermite.cubic s₀ s₁ (s₁.time - s₀.time)
      ((t - h.origin.getD t - s₀.time) / (s₁.time - s₀.time)) := by
  simp only [Hermite.predict, latest]
  exact if_neg onward

end Cases

section Divisions

variable {h : Hermite ℚ} {s s₀ s₁ : Sample ℚ} {samples : List (Sample ℚ)} {time position : ℚ}

open Guarded (of)

lemma slope_guarded :
    Hermite.slope (s.map of) (of time) (of position) = of (Hermite.slope s time position) := by
  by_cases onward : Scalar.below (Scalar.ofNat 0) (time - s.time) = true
  · have span : time - s.time ≠ 0 := (of_decide_eq_true onward).ne'
    rw [slope_onward onward, slope_onward (s := s.map of) onward]
    exact Guarded.of_div span
  · rw [slope_still onward, slope_still (s := s.map of) onward]
    rfl

lemma velocity_guarded :
    Hermite.velocity (samples.map (Sample.map of)) (of time) (of position) =
      of (Hermite.velocity samples time position) := by
  rcases samples with _ | ⟨last, _ | ⟨before, older⟩⟩
  · rfl
  · exact slope_guarded
  · have half : of 1 / of 2 = of (1 / 2) := Guarded.of_div two_ne_zero
    calc Hermite.velocity ((last :: before :: older).map (Sample.map of)) (of time) (of position)
        = of 1 / of 2 * (Hermite.slope (last.map of) (of time) (of position) +
            Hermite.slope (before.map of) (of last.time) (of last.position)) := rfl
      _ =
        of
          (1 / 2 *
            (Hermite.slope last time position + Hermite.slope before last.time last.position)) := by
          rw [half, slope_guarded, slope_guarded, Guarded.of_add, Guarded.of_mul]
      _ = of (Hermite.velocity (last :: before :: older) time position) := rfl

lemma kept_map {α β : Type} (f : α → β) (h : Hermite α) :
    (h.map f).kept = h.kept.map (Sample.map f) := by
  simp only [Hermite.kept, Hermite.map, List.length_map]
  split
  · exact List.map_dropLast.symm
  · rfl

lemma update_guarded :
    (h.map of).update (of time) (of position) = (h.update time position).map of := by
  have origin : (h.map of).origin.getD (of time) = of (h.origin.getD time) := Option.getD_map ..
  simp only [Hermite.update, origin, kept_map, Guarded.of_sub, velocity_guarded]
  rfl

lemma updated_guarded (updates : List (ℚ × ℚ)) :
    (h.map of).updated (updates.map (Prod.map of of)) = (h.updated updates).map of := by
  induction updates generalizing h with
  | nil => rfl
  | cons u updates ih =>
    change ((h.map of).update (of u.1) (of u.2)).updated _ =
      ((h.update u.1 u.2).updated updates).map of
    rw [update_guarded, ih]

lemma cubic_guarded (span m : ℚ) :
    Hermite.cubic (s₀.map of) (s₁.map of) (of span) (of m) = of (Hermite.cubic s₀ s₁ span m) := by
  simp only [Hermite.cubic, Sample.map, Guarded.ofNat_eq, Guarded.of_sub,
    Guarded.of_mul, Guarded.of_add]

lemma predict_guarded (t : ℚ) : (h.map of).predict (of t) = of (h.predict t) := by
  rcases latest : h.samples with _ | ⟨s₁, _ | ⟨s₀, older⟩⟩
  · simp only [Hermite.predict, Hermite.map, latest]
    rfl
  · simp only [Hermite.predict, Hermite.map, latest]
    rfl
  · have mapped : (h.map of).samples = s₁.map of :: s₀.map of :: older.map (Sample.map of) :=
      congrArg (List.map _) latest
    have origin : (h.map of).origin.getD (of t) = of (h.origin.getD t) := Option.getD_map ..
    by_cases still : Scalar.atMost (s₁.time - s₀.time) (Scalar.ofNat 0) = true
    · rw [predict_still latest still, predict_still mapped still]
      rfl
    · have span : s₁.time - s₀.time ≠ 0 := fun zero => still (decide_eq_true zero.le)
      rw [predict_onward latest still, predict_onward mapped still, origin, ← cubic_guarded,
        ← Guarded.of_div span]
      rfl

end Divisions

section Records

variable {h : Hermite ℚ} {updates : List (ℚ × ℚ)}

/-- The samples of `h` are those of the latest updates, of two at least if there were so many. -/
structure Records (h : Hermite ℚ) (updates : List (ℚ × ℚ)) : Prop where
  origin : h.origin = updates.head?.map Prod.fst
  latest : h.samples.map (Sample.taken (h.origin.getD 0)) <+: updates.reverse
  two : min updates.length 2 ≤ h.samples.length

lemma kept_latest (h : Hermite ℚ) : h.kept <+: h.samples := by
  unfold Hermite.kept
  split
  · exact List.dropLast_prefix _
  · exact List.prefix_refl _

/-- The latest sample always stays. -/
lemma kept_cons {s : Sample ℚ} {older : List (Sample ℚ)} (room : 2 ≤ h.capacity)
    (latest : h.samples = s :: older) :
    ∃ rest, h.kept = s :: rest := by
  unfold Hermite.kept
  rw [latest]
  split
  · next full =>
    obtain ⟨before, rest, rfl⟩ : ∃ before rest, older = before :: rest :=
      List.exists_cons_of_length_pos (by simp only [List.length_cons] at full; omega)
    exact ⟨_, rfl⟩
  · exact ⟨older, rfl⟩

lemma updated_concat (u : ℚ × ℚ) :
    h.updated (updates ++ [u]) = (h.updated updates).update u.1 u.2 := by
  simp only [Hermite.updated, List.foldl_append, List.foldl_cons, List.foldl_nil]

lemma Records.update (records : Records h updates) (room : 2 ≤ h.capacity) (u : ℚ × ℚ) :
    Records (h.update u.1 u.2) (updates ++ [u]) where
  origin := by
    change some (h.origin.getD u.1) = _
    rw [records.origin]
    cases updates <;> rfl
  latest := by
    have kept : h.kept.map (Sample.taken (h.origin.getD u.1)) <+: updates.reverse := by
      refine ((kept_latest h).map _).trans ?_
      cases start : h.origin with
      | some origin => simpa only [start, Option.getD_some] using records.latest
      | none =>
        -- There was no update yet, so there is no sample.
        obtain rfl : updates = [] :=
          List.head?_eq_none_iff.1 (Option.map_eq_none_iff.1 (records.origin.symm.trans start))
        have none : h.samples = [] := List.map_eq_nil_iff.1 (List.prefix_nil.1 records.latest)
        rw [none]
        exact List.prefix_refl _
    have now : (u.1 - h.origin.getD u.1 + h.origin.getD u.1, u.2) = u :=
      Prod.ext (sub_add_cancel _ _) rfl
    change (u.1 - h.origin.getD u.1 + h.origin.getD u.1, u.2) ::
      h.kept.map (Sample.taken (h.origin.getD u.1)) <+: _
    rw [now, List.reverse_concat]
    exact List.cons_prefix_cons.2 ⟨rfl, kept⟩
  two := by
    change _ ≤ h.kept.length + 1
    rw [List.length_append, List.length_singleton]
    have two := records.two
    rcases some : h.samples with _ | ⟨s, older⟩
    · rw [some, List.length_nil] at two
      omega
    · obtain ⟨rest, kept⟩ := kept_cons room some
      rw [kept, List.length_cons]
      omega

lemma room_updated (capacity : ℕ) (updates : List (ℚ × ℚ)) :
    2 ≤ ((Hermite.empty capacity).updated updates).capacity := by
  rw [capacity_updated]
  exact Nat.le_max_right capacity 2

lemma records_updated (capacity : ℕ) (updates : List (ℚ × ℚ)) :
    Records ((Hermite.empty capacity).updated updates) updates := by
  induction updates using List.reverseRecOn with
  | nil => exact ⟨rfl, List.prefix_refl _, Nat.zero_le _⟩
  | append_singleton updates u ih =>
    rw [updated_concat]
    exact ih.update (room_updated capacity updates) u

/-- The two latest samples. -/
lemma Records.latest_two {before : List (ℚ × ℚ)} {u₀ u₁ : ℚ × ℚ}
    (records : Records h (before ++ [u₀, u₁])) :
    ∃ s₁ s₀ older, h.samples = s₁ :: s₀ :: older ∧ s₁.taken (h.origin.getD 0) = u₁ ∧
      s₀.taken (h.origin.getD 0) = u₀ := by
  have latest := records.latest
  have two := records.two
  rcases samples : h.samples with _ | ⟨s₁, _ | ⟨s₀, older⟩⟩
  · simp [samples] at two
  · simp [samples] at two
  · rw [samples, List.reverse_append] at latest
    obtain ⟨now, latest⟩ := List.cons_prefix_cons.1 latest
    exact ⟨s₁, s₀, older, rfl, now, (List.cons_prefix_cons.1 latest).1⟩

end Records

section Ends

variable {h : Hermite ℚ} {s₀ s₁ : Sample ℚ} {older : List (Sample ℚ)} {span v : ℚ}

lemma cubic_start : Hermite.cubic s₀ s₁ span 0 = s₀.position := by
  simp only [Hermite.cubic, Scalar.ofNat]
  push_cast
  ring

lemma cubic_end : Hermite.cubic s₀ s₁ span 1 = s₁.position := by
  simp only [Hermite.cubic, Scalar.ofNat]
  push_cast
  ring

/-- Between two samples that move alike and lie as far apart as they move, the cubic is the line. -/
lemma cubic_line (m : ℚ) (apart : s₁.position = s₀.position + v * span) (first : s₀.velocity = v)
    (second : s₁.velocity = v) :
    Hermite.cubic s₀ s₁ span m = s₀.position + v * (m * span) := by
  simp only [Hermite.cubic, Scalar.ofNat, apart, first, second]
  push_cast
  ring

variable {before : List (ℚ × ℚ)} {u₀ u₁ : ℚ × ℚ}

lemma Records.origin_getD (records : Records h (before ++ [u₀, u₁])) (t : ℚ) :
    h.origin.getD t = h.origin.getD 0 := by
  rw [records.origin]
  cases before <;> rfl

lemma Records.predict_still (records : Records h (before ++ [u₀, u₁])) (still : u₁.1 ≤ u₀.1)
    (t : ℚ) : h.predict t = u₁.2 := by
  obtain ⟨s₁, s₀, older, samples, rfl, rfl⟩ := records.latest_two
  have span : s₁.time - s₀.time ≤ 0 := sub_nonpos.2 ((add_le_add_iff_right _).1 still)
  exact Proofs.predict_still samples (decide_eq_true span) t

/-- The samples of two updates between which time went on, and the cubic through them. -/
lemma Records.predict_onward (records : Records h (before ++ [u₀, u₁])) (onward : u₀.1 < u₁.1) :
    ∃ s₁ s₀ older, h.samples = s₁ :: s₀ :: older ∧ s₁.taken (h.origin.getD 0) = u₁ ∧
      s₀.taken (h.origin.getD 0) = u₀ ∧
      ∀ t, h.predict t = Hermite.cubic s₀ s₁ (u₁.1 - u₀.1) ((t - u₀.1) / (u₁.1 - u₀.1)) := by
  obtain ⟨s₁, s₀, older, samples, rfl, rfl⟩ := records.latest_two
  refine ⟨s₁, s₀, older, samples, rfl, rfl, fun t => ?_⟩
  have span :
      s₁.time - s₀.time = (s₁.taken (h.origin.getD 0)).1 - (s₀.taken (h.origin.getD 0)).1 := by
    simp only [Sample.taken]
    ring
  have part : t - h.origin.getD t - s₀.time = t - (s₀.taken (h.origin.getD 0)).1 := by
    rw [records.origin_getD t]
    simp only [Sample.taken]
    ring
  rw [← span, ← part]
  refine Proofs.predict_onward samples (fun still => ?_) t
  have back : s₁.time - s₀.time ≤ 0 := of_decide_eq_true still
  rw [span] at back
  exact absurd onward (sub_nonpos.1 back).not_gt

end Ends

section Lines

variable {h : Hermite ℚ} {updates part : List (ℚ × ℚ)} {s : Sample ℚ} {older : List (Sample ℚ)}
  {u : ℚ × ℚ} {a v origin : ℚ}

/-- Updates, the latest first, between which time goes on and whose positions lie on one line. -/
structure Straight (a v : ℚ) (updates : List (ℚ × ℚ)) : Prop where
  onward : updates.Pairwise fun u w => w.1 < u.1
  line : ∀ u ∈ updates, u.2 = a + v * u.1

lemma Straight.sublist (straight : Straight a v updates) (sub : part.Sublist updates) :
    Straight a v part :=
  ⟨straight.onward.sublist sub, fun u there => straight.line u (sub.subset there)⟩

lemma slope_straight (straight : Straight a v [u, s.taken origin]) :
    Hermite.slope s (u.1 - origin) u.2 = v := by
  have later : s.time + origin < u.1 :=
    List.rel_of_pairwise_cons straight.onward (List.mem_singleton_self _)
  have there : u.2 = a + v * u.1 := straight.line u List.mem_cons_self
  have here : s.position = a + v * (s.time + origin) :=
    straight.line (s.taken origin) (List.mem_cons_of_mem _ List.mem_cons_self)
  have span : 0 < u.1 - origin - s.time := by linarith
  rw [slope_onward (decide_eq_true span), there, here, div_eq_iff span.ne']
  ring

/-- With one sample before it or with more, the next sample moves along the line. -/
lemma velocity_straight (straight : Straight a v (u :: (s :: older).map (Sample.taken origin))) :
    Hermite.velocity (s :: older) (u.1 - origin) u.2 = v := by
  have last : Hermite.slope s (u.1 - origin) u.2 = v := slope_straight (straight.sublist (by simp))
  rcases older with _ | ⟨before, older⟩
  · exact last
  · have first : Hermite.slope before s.time s.position = v := by
      have step : Straight a v [s.taken origin, before.taken origin] :=
        straight.sublist (.cons _ (by simp))
      simpa only [Sample.taken, add_sub_cancel_right] using slope_straight step
    calc Hermite.velocity (s :: before :: older) (u.1 - origin) u.2
        =
          1 / 2 *
            (Hermite.slope s (u.1 - origin) u.2 + Hermite.slope before s.time s.position) := rfl
      _ = v := by rw [last, first]; ring

lemma Records.velocity (records : Records h updates) (room : 2 ≤ h.capacity) (some : updates ≠ [])
    (straight : Straight a v (u :: updates.reverse)) :
    ∃ s, (h.update u.1 u.2).samples = s :: h.kept ∧ s.velocity = v := by
  refine ⟨_, rfl, ?_⟩
  have origin : h.origin.getD u.1 = h.origin.getD 0 := by
    rw [records.origin]
    cases updates with
    | nil => exact absurd rfl some
    | cons first updates => rfl
  have kept : (h.kept.map (Sample.taken (h.origin.getD 0))).Sublist updates.reverse :=
    ((kept_latest h).map _).sublist.trans records.latest.sublist
  rcases samples : h.samples with _ | ⟨s, older⟩
  · have two := records.two
    rw [samples, List.length_nil] at two
    have := List.length_pos_of_ne_nil some
    omega
  · obtain ⟨rest, stays⟩ := kept_cons room samples
    rw [stays] at kept
    change Hermite.velocity h.kept (u.1 - h.origin.getD u.1) u.2 = v
    rw [stays, origin]
    exact velocity_straight (straight.sublist (kept.cons_cons u))

variable {before : List (ℚ × ℚ)} {u₀ u₁ : ℚ × ℚ} (capacity : ℕ)

/-- From the second update on, all samples move along the line. -/
lemma velocities_straight (some : before ≠ [])
    (straight : Straight a v (before ++ [u₀, u₁]).reverse) :
    ∃ s₁ s₀ older,
    ((Hermite.empty capacity).updated (before ++ [u₀, u₁])).samples = s₁ :: s₀ :: older ∧
      s₀.velocity = v ∧ s₁.velocity = v := by
  have ordered : Straight a v (u₁ :: u₀ :: before.reverse) := by simpa using straight
  obtain ⟨s₀, samples₀, moves₀⟩ :=
    (records_updated capacity before).velocity (room_updated capacity before) some
      (ordered.sublist (.cons _ (.refl _)))
  rw [← updated_concat] at samples₀
  obtain ⟨s₁, samples₁, moves₁⟩ :=
    (records_updated capacity (before ++ [u₀])).velocity (room_updated capacity _) (by simp)
      (by simpa using ordered)
  rw [← updated_concat, ← List.append_cons] at samples₁
  obtain ⟨rest, stays⟩ := kept_cons (room_updated capacity (before ++ [u₀])) samples₀
  exact ⟨s₁, s₀, rest, samples₁.trans (congrArg _ stays), moves₀, moves₁⟩

lemma predict_straight (some : before ≠ [])
    (straight : Straight a v (before ++ [u₀, u₁]).reverse) (t : ℚ) :
    ((Hermite.empty capacity).updated (before ++ [u₀, u₁])).predict t = a + v * t := by
  have ordered : Straight a v (u₁ :: u₀ :: before.reverse) := by simpa using straight
  have onward : u₀.1 < u₁.1 := List.rel_of_pairwise_cons ordered.onward List.mem_cons_self
  have here : u₀.2 = a + v * u₀.1 := ordered.line u₀ (by simp)
  have there : u₁.2 = a + v * u₁.1 := ordered.line u₁ (by simp)
  obtain ⟨s₁, s₀, older, samples, taken₁, taken₀, along⟩ :=
    (records_updated capacity (before ++ [u₀, u₁])).predict_onward onward
  obtain ⟨_, _, _, same, moves₀, moves₁⟩ := velocities_straight capacity some straight
  obtain ⟨rfl, rfl, rfl⟩ : s₁ = _ ∧ s₀ = _ ∧ older = _ := by
    simpa only [List.cons.injEq] using samples.symm.trans same
  have position₀ : s₀.position = u₀.2 := congrArg Prod.snd taken₀
  have position₁ : s₁.position = u₁.2 := congrArg Prod.snd taken₁
  have apart : s₁.position = s₀.position + v * (u₁.1 - u₀.1) := by
    rw [position₀, position₁, here, there]
    ring
  have span : u₁.1 - u₀.1 ≠ 0 := (sub_pos.2 onward).ne'
  rw [along, cubic_line _ apart moves₀ moves₁, position₀, here, div_mul_cancel₀ _ span]
  ring

end Lines

section Shifts

variable {h late : Hermite ℚ} {shift : ℚ}

/-- The same samples, with all times counted from a later one. -/
structure Delayed (shift : ℚ) (h late : Hermite ℚ) : Prop where
  samples : late.samples = h.samples
  capacity : late.capacity = h.capacity
  origin : late.origin = h.origin.map (· + shift)

lemma Delayed.origin_getD (delayed : Delayed shift h late) (t : ℚ) :
    late.origin.getD (t + shift) = h.origin.getD t + shift := by
  rw [delayed.origin]
  exact Option.getD_map ..

lemma Delayed.since (delayed : Delayed shift h late) (t : ℚ) :
    t + shift - late.origin.getD (t + shift) = t - h.origin.getD t := by
  rw [delayed.origin_getD]
  exact add_sub_add_right_eq_sub ..

lemma Delayed.update (delayed : Delayed shift h late) (time position : ℚ) :
    Delayed shift (h.update time position) (late.update (time + shift) position) := by
  have kept : late.kept = h.kept := by simp only [Hermite.kept, delayed.samples, delayed.capacity]
  refine ⟨?_, delayed.capacity, congrArg some (delayed.origin_getD time)⟩
  simp only [Hermite.update, kept]
  rw [delayed.since]

lemma Delayed.updated (delayed : Delayed shift h late) (updates : List (ℚ × ℚ)) :
    Delayed shift (h.updated updates) (late.updated (updates.map fun u => (u.1 + shift, u.2))) := by
  induction updates generalizing h late with
  | nil => exact delayed
  | cons u updates ih => exact ih (delayed.update u.1 u.2)

lemma Delayed.predict (delayed : Delayed shift h late) (t : ℚ) :
    late.predict (t + shift) = h.predict t := by
  simp only [Hermite.predict, delayed.samples]
  rw [delayed.since]

end Shifts

section Results

lemma exists_latest_two {updates : List (ℚ × ℚ)} (two : 2 ≤ updates.length) :
    ∃ before u₀ u₁, updates = before ++ [u₀, u₁] := by
  obtain ⟨upto, u₁, rfl⟩ :=
    List.eq_nil_or_concat' updates |>.resolve_left (by rintro rfl; simp at two)
  obtain ⟨before, u₀, rfl⟩ :=
    List.eq_nil_or_concat' upto |>.resolve_left (by rintro rfl; simp at two)
  exact ⟨before, u₀, u₁, (List.append_cons ..).symm⟩

/-- Whatever the capacity and the times, everything that an interpolator holds or predicts is a
number. Where time did not go on at last, it predicts the latest position, and elsewhere its
prediction meets the two latest updates. Three updates or more on a line are followed along that
line, to all times. Only the distances between times matter. -/
theorem predictions_are_exact (capacity : ℕ) (updates : List (ℚ × ℚ)) :
    ((Hermite.empty capacity).updated (updates.map (Prod.map .of .of)) =
        ((Hermite.empty capacity).updated updates).map Guarded.of ∧
      ∀ t : ℚ,
        ((Hermite.empty capacity).updated (updates.map (Prod.map .of .of))).predict (Guarded.of t) =
          .of (((Hermite.empty capacity).updated updates).predict t)) ∧
    (∀ before t₀ p₀ t₁ p₁, updates = before ++ [(t₀, p₀), (t₁, p₁)] →
      (t₁ ≤ t₀ → ∀ t, ((Hermite.empty capacity).updated updates).predict t = p₁) ∧
      (t₀ < t₁ → ((Hermite.empty capacity).updated updates).predict t₀ = p₀ ∧
        ((Hermite.empty capacity).updated updates).predict t₁ = p₁)) ∧
    (3 ≤ updates.length → updates.Pairwise (fun u w => u.1 < w.1) →
      ∀ a v : ℚ, (∀ u ∈ updates, u.2 = a + v * u.1) →
      ∀ t, ((Hermite.empty capacity).updated updates).predict t = a + v * t) ∧
    ∀ shift t,
    ((Hermite.empty capacity).updated (updates.map fun u => (u.1 + shift, u.2))).predict
      (t + shift) =
      ((Hermite.empty capacity).updated updates).predict t := by
  refine ⟨?_, ?_, fun three onward a v line t => ?_, fun shift => ?_⟩
  · have numbers : (Hermite.empty capacity).updated (updates.map (Prod.map .of .of)) =
        ((Hermite.empty capacity).updated updates).map Guarded.of :=
          updated_guarded (h := .empty capacity) updates
    exact ⟨numbers, fun t => numbers ▸ predict_guarded t⟩
  · rintro before t₀ p₀ t₁ p₁ rfl
    have records := records_updated capacity (before ++ [(t₀, p₀), (t₁, p₁)])
    refine ⟨records.predict_still, fun onward => ?_⟩
    obtain ⟨s₁, s₀, older, -, taken₁, taken₀, along⟩ := records.predict_onward onward
    constructor
    · rw [along, sub_self, zero_div, cubic_start]
      exact congrArg Prod.snd taken₀
    · rw [along, div_self (sub_pos.2 onward).ne', cubic_end]
      exact congrArg Prod.snd taken₁
  · obtain ⟨before, u₀, u₁, rfl⟩ := exists_latest_two (Nat.le_of_succ_le three)
    have some : before ≠ [] := by
      rintro rfl
      simp at three
    exact predict_straight capacity some ⟨List.pairwise_reverse.2 onward, fun u there =>
      line u (List.mem_reverse.1 there)⟩ t
  · have start : Delayed shift (.empty capacity) (.empty capacity) := ⟨rfl, rfl, rfl⟩
    exact (start.updated updates).predict

/-- A glide at constant speed, sampled at uneven times. -/
def glide : List (ℚ × ℚ) := [(100, 3), (110, 5), (130, 9)]

theorem predictions_of_a_glide :
    glide.Pairwise (fun u w => u.1 < w.1) ∧ (∀ u ∈ glide, u.2 = -17 + 1 / 5 * u.1) ∧
    ((Hermite.empty 2).updated glide).predict 200 = 23 ∧
    ((Hermite.empty 2).updated glide).predict 110 = 5 := by
  have onward : glide.Pairwise fun u w => u.1 < w.1 := by decide +kernel
  have line : ∀ u ∈ glide, u.2 = -17 + 1 / 5 * u.1 := by decide +kernel
  obtain ⟨_, ends, lines, _⟩ := predictions_are_exact 2 glide
  refine ⟨onward, line, ?_, ?_⟩
  · rw [lines (by decide) onward (-17) (1 / 5) line 200]
    norm_num
  · exact ((ends [(100, 3)] 110 5 130 9 rfl).2 (by norm_num)).1

/-- Two updates are not followed along their line, since the first sample counts as being at
rest. -/
example : ((Hermite.empty 2).updated (glide.take 2)).predict 120 = 3 := by decide +kernel

end Results

end LayeredPage.Proofs
