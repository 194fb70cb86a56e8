import LayeredPage.Motion.ScrollTracker
import LayeredPage.Proofs.Exact
import Mathlib.Algebra.BigOperators.Group.List.Basic

/-!
# Scroll movement

Whatever the order of samples, touches and reports, the reported movements add up to where the
tracker says it is, and an exact report brings that to the last sampled offset. So a predicted
report that went too far is taken back, and nothing is counted twice.
-/

namespace LayeredPage.Proofs

inductive ScrollCall where
  | sample (now : ℚ) (offset : Point ℚ)
  | touch (touching : Bool)
  | report (now : ℚ)

namespace ScrollCall

def offset? : ScrollCall → Option (Point ℚ)
  | sample _ offset => some offset
  | _ => none

def perform : ScrollCall → ScrollTracker ℚ → ScrollTracker ℚ
  | sample now offset, s => s.sample now offset
  | touch touching, s => s.setTouching touching
  | report now, s => (s.delta now).2

/-- What the call returns. -/
def movement? : ScrollCall → ScrollTracker ℚ → Option (Point ℚ)
  | report now, s => some (s.delta now).1
  | _, _ => none

end ScrollCall

def tracked (s : ScrollTracker ℚ) (calls : List ScrollCall) : ScrollTracker ℚ :=
  calls.foldl (fun s c => c.perform s) s

/-- The movements that the calls return, in order. -/
def movements (s : ScrollTracker ℚ) : List ScrollCall → List (Point ℚ)
  | [] => []
  | c :: calls => (c.movement? s).toList ++ movements (c.perform s) calls

/-- The offset that was sampled last. -/
def lastOffset (calls : List ScrollCall) : Point ℚ :=
  (calls.filterMap ScrollCall.offset?).getLastD 0

section Scrolling

variable {s : ScrollTracker ℚ} {now : ℚ}

@[simp] lemma tracked_append (calls more : List ScrollCall) :
    tracked s (calls ++ more) = tracked (tracked s calls) more := by
  simp [tracked]

lemma last_sample (offset : Point ℚ) : (s.sample now offset).last = offset := by
  simp only [ScrollTracker.sample, apply_ite ScrollTracker.last, ite_self]

lemma reported_sample (offset : Point ℚ) : (s.sample now offset).reported = s.reported := by
  simp only [ScrollTracker.sample, apply_ite ScrollTracker.reported, ite_self]

lemma last_perform (c : ScrollCall) : (c.perform s).last = c.offset?.getD s.last := by
  cases c with
  | sample now offset => exact last_sample offset
  | touch touching => rfl
  | report now => rfl

/-- A report is the way from one reported position to the next; nothing else moves that position. -/
lemma reported_perform (c : ScrollCall) :
    (c.movement? s).toList.sum + s.reported = (c.perform s).reported := by
  cases c with
  | sample now offset => simp [ScrollCall.movement?, ScrollCall.perform, reported_sample]
  | touch touching => simp [ScrollCall.movement?, ScrollCall.perform, ScrollTracker.setTouching]
  | report now => simp [ScrollCall.movement?, ScrollCall.perform, ScrollTracker.delta]

lemma last_tracked (calls : List ScrollCall) :
    (tracked s calls).last = (calls.filterMap ScrollCall.offset?).getLastD s.last := by
  induction calls generalizing s with
  | nil => rfl
  | cons c calls ih =>
    have step := ih (s := c.perform s)
    rw [last_perform] at step
    change (tracked (c.perform s) calls).last = _
    rw [step]
    cases h : c.offset? with
    | none => rw [List.filterMap_cons_none h, Option.getD_none]
    | some offset => rw [List.filterMap_cons_some h, List.getLastD_cons, Option.getD_some]

lemma reported_tracked (calls : List ScrollCall) :
    (movements s calls).sum + s.reported = (tracked s calls).reported := by
  induction calls generalizing s with
  | nil => simp [movements, tracked]
  | cons c calls ih =>
    calc (movements s (c :: calls)).sum + s.reported
        = (movements (c.perform s) calls).sum + ((c.movement? s).toList.sum + s.reported) := by
          simp only [movements, List.sum_append]
          abel
      _ = (movements (c.perform s) calls).sum + (c.perform s).reported := by rw [reported_perform]
      _ = (tracked s (c :: calls)).reported := ih

lemma target_direct (direct : s.mode = .direct) : s.target now = s.last := by
  simp [ScrollTracker.target, direct]

lemma movement_direct (direct : s.mode = .direct) : (s.delta now).1 = s.last - s.reported := by
  simp [ScrollTracker.delta, target_direct direct]

lemma last_unsampled {calls : List ScrollCall} (unsampled : ∀ c ∈ calls, c.offset? = none) :
    (tracked s calls).last = s.last := by
  rw [last_tracked, List.filterMap_eq_nil_iff.2 unsampled]
  rfl

/-- An exact report that comes after another one, with no sample in between, takes back the
movements in between. -/
lemma movement_again {pause : List ScrollCall} (exact : s.reported = s.last)
    (unsampled : ∀ c ∈ pause, c.offset? = none) (direct : (tracked s pause).mode = .direct) :
    ((tracked s pause).delta now).1 = -(movements s pause).sum := by
  rw [movement_direct direct, last_unsampled unsampled, ← reported_tracked, exact]
  abel

/-- Exact reports that come after another one, with no sample in between, report nothing. -/
lemma movements_settled {pause : List ScrollCall} (settled : s.reported = s.last)
    (unsampled : ∀ c ∈ pause, c.offset? = none)
    (exact : ∀ before now after, pause = before ++ .report now :: after →
      (tracked s before).mode = .direct) :
    (movements s pause).sum = 0 := by
  induction pause generalizing s with
  | nil => rfl
  | cons c pause ih =>
    obtain ⟨first, rest⟩ := List.forall_mem_cons.1 unsampled
    have onward : ∀ before now after, pause = before ++ .report now :: after →
        (tracked (c.perform s) before).mode = .direct :=
      fun before now after split => exact (c :: before) now after (by rw [split, List.cons_append])
    cases c with
    | sample now offset => cases first
    | touch touching => exact ih settled rest onward
    | report now =>
      have direct : s.mode = .direct := exact [] now pause rfl
      have still : (s.delta now).1 = 0 := by rw [movement_direct direct, settled, sub_self]
      have again : (movements (s.delta now).2 pause).sum = 0 :=
        ih (target_direct direct) rest onward
      simp [movements, ScrollCall.movement?, ScrollCall.perform, still, again]

section Fresh

variable (config : ScrollConfig ℚ)

def followed (calls : List ScrollCall) : ScrollTracker ℚ := tracked (.start config) calls

/-- The sum of all that the calls return. -/
def travelled (calls : List ScrollCall) : Point ℚ := (movements (.start config) calls).sum

lemma travelled_eq (calls : List ScrollCall) :
    travelled config calls = (followed config calls).reported := by
  have account := reported_tracked (s := .start config) calls
  rwa [show (ScrollTracker.start config).reported = 0 from rfl, add_zero] at account

lemma last_followed (calls : List ScrollCall) : (followed config calls).last = lastOffset calls :=
  last_tracked calls

lemma followed_report (calls : List ScrollCall) (now : ℚ) :
    followed config (calls ++ [.report now]) = ((followed config calls).delta now).2 :=
  tracked_append calls [.report now]

/-- No movement is lost and none is counted twice: the movements add up to the reported position,
which after an exact report is the offset sampled last. Until the next sample, an exact report only
takes back what was predicted since the one before it; that is nothing if no report in between was
predicted. -/
theorem movement_of_calls (calls : List ScrollCall) :
    travelled config calls = (followed config calls).reported ∧
    ((followed config calls).mode = .direct → ∀ now : ℚ,
      travelled config (calls ++ [.report now]) = lastOffset calls ∧
      ∀ (pause : List ScrollCall) (later : ℚ), (∀ c ∈ pause, c.offset? = none) →
        (followed config (calls ++ .report now :: pause)).mode = .direct →
          ((followed config (calls ++ .report now :: pause)).delta later).1 =
            travelled config (calls ++ [.report now]) - travelled config
              (calls ++ .report now :: pause) ∧
          ((∀ before t after, pause = before ++ .report t :: after →
              (followed config (calls ++ .report now :: before)).mode = .direct) →
            ((followed config (calls ++ .report now :: pause)).delta later).1 = 0)) := by
  refine ⟨travelled_eq config calls, fun direct now => ?_⟩
  have settled : (followed config (calls ++ [.report now])).reported =
      (followed config (calls ++ [.report now])).last := by
    rw [followed_report]
    exact target_direct direct
  constructor
  · rw [travelled_eq, settled, last_followed]
    simp [lastOffset, ScrollCall.offset?]
  · intro pause later unsampled still
    have onward (pause : List ScrollCall) : followed config (calls ++ .report now :: pause) =
        tracked (followed config (calls ++ [.report now])) pause := by
      rw [followed, followed, ← tracked_append, List.append_assoc, List.singleton_append]
    rw [onward pause] at still ⊢
    have taken : ((tracked (followed config (calls ++ [.report now])) pause).delta later).1 =
        -(movements (followed config (calls ++ [.report now])) pause).sum :=
      movement_again settled unsampled still
    constructor
    · rw [taken, travelled_eq, travelled_eq, onward pause,
        ← reported_tracked (s := followed config _) pause]
      abel
    · intro exact
      have still : (movements (followed config (calls ++ [.report now])) pause).sum = 0 :=
        movements_settled settled unsampled fun before t after split =>
          onward before ▸ exact before t after split
      rw [taken, still, neg_zero]

end Fresh

/-- A drag, a release after which a report goes ahead of the samples, and four equal samples that
end the motion short of it. -/
def flick : List ScrollCall :=
  [.touch true, .sample 10 ⟨0, 10⟩, .sample 20 ⟨0, 20⟩, .sample 30 ⟨0, 30⟩, .report 30,
    .touch false, .report 40, .sample 50 ⟨0, 35⟩, .sample 60 ⟨0, 35⟩, .sample 70 ⟨0, 35⟩,
    .sample 80 ⟨0, 35⟩]

def steady : ScrollConfig ℚ := ⟨100, 4, 19 / 20, 0⟩

theorem movement_of_flick :
    travelled steady flick = ⟨0, 79 / 2⟩ ∧ travelled steady (flick ++ [.report 90]) = ⟨0, 35⟩ ∧
      ((followed steady (flick ++ [.report 90, .touch true, .report 95])).delta 100).1 = 0 := by
  have account := (movement_of_calls steady flick).2 (by decide +kernel) 90
  refine ⟨by decide +kernel, account.1.trans (by decide +kernel), ?_⟩
  refine (account.2 [.touch true, .report 95] 100 (by simp [ScrollCall.offset?])
    (by decide +kernel)).2 ?_
  intro before t after split
  have between : before = [.touch true] := by
    rcases before with _ | ⟨c, _ | ⟨c', before⟩⟩ <;> simp at split ⊢
    exact split.1.symm
  subst between
  decide +kernel

def heldDrag : List ScrollCall :=
  [.touch true, .sample 10 ⟨0, 10⟩, .sample 20 ⟨0, 20⟩, .sample 30 ⟨0, 30⟩]

/-- A release after which a report goes ahead of the samples, and the next touch. -/
def lapse : List ScrollCall := [.touch false, .report 40, .touch true]

theorem second_report_takes_back :
    (followed steady heldDrag).mode = .direct ∧ (∀ c ∈ lapse, c.offset? = none) ∧
      (followed steady (heldDrag ++ .report 30 :: lapse)).mode = .direct ∧
        ((followed steady (heldDrag ++ .report 30 :: lapse)).delta 50).1 = ⟨0, -19 / 2⟩ := by
  decide +kernel

end Scrolling

end LayeredPage.Proofs
