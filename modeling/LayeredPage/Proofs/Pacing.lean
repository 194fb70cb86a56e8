import LayeredPage.Proofs.Departures

/-!
# One frame at a time

A loop asks for a frame when it is started and for the next one each time its callback returns. It
is followed here call by call, also through the calls that the callback makes itself. There is one
frame to wait for while the loop runs and none while it does not, at every moment, as long as no
callback returns to a loop that it has stopped and started again. From such a return on there are
two, or there is one although the loop does not run.
-/

namespace LayeredPage

inductive LoopCall where
  | start
  | stop
  | drop
deriving DecidableEq

def LoopCall.act : LoopCall → Animation → Animation
  | .start, a => a.start.2
  | .stop, a => a.stop.2
  | .drop, a => a.drop.2

/-- What happens to a loop: a call from anywhere, the delivery of a frame, and the end of the
callback that the delivery began. -/
inductive LoopEvent where
  | call (c : LoopCall)
  | delivered (t : FrameTicket)
  | returned (goOn : Bool)
deriving DecidableEq

/-- A loop, whether its callback is at work, and how often it was. -/
structure Pacing where
  loop : Animation
  inside : Bool
  runs : Nat
deriving DecidableEq

namespace Pacing

/-- Frames that were asked for are delivered one at a time. -/
def next? (p : Pacing) : LoopEvent → Option Pacing
  | .call c => some { p with loop := c.act p.loop }
  | .delivered t =>
    if p.inside = false ∧ t ∈ p.loop.pending then
      match p.loop.begin t with
      | (true, loop) => some ⟨loop, true, p.runs + 1⟩
      | (false, loop) => some { p with loop }
    else none
  | .returned goOn =>
    if p.inside then some { p with loop := (p.loop.finish goOn).2, inside := false } else none

/-- A loop after some events, latest first. -/
def after : List LoopEvent → Option Pacing
  | [] => some ⟨.idle, false, 0⟩
  | e :: es => (after es).bind fun p => p.next? e

end Pacing

end LayeredPage

namespace LayeredPage.Proofs

/-- At most one frame is waited for; when no callback is at work, it is if and only if the loop
runs, and runs the callback when it comes. -/
structure Paced (p : Pacing) : Prop where
  atMostOne : p.loop.pending.length ≤ 1
  awaited : p.inside = false → (p.loop.running = true ↔ p.loop.pending.length = 1)
  called : p.inside = false → ∀ t ∈ p.loop.pending, ∃ p', p.next? (.delivered t) = some p' ∧
    p'.inside = true ∧ p'.runs = p.runs + 1

/-- The calls since something else happened, latest first. -/
def callsSince : List LoopEvent → List LoopCall
  | .call c :: es => c :: callsSince es
  | _ => []

/-- The loop was stopped by one of these calls and is started by the latest. -/
def Renewed (calls : List LoopCall) : Prop := calls.head? = some .start ∧ ∃ c ∈ calls, c ≠ .start

instance : DecidablePred Renewed := fun _ => inferInstanceAs (Decidable (_ ∧ _))

/-- No callback returns to a loop that it has renewed. -/
def Undoubled (es : List LoopEvent) : Prop :=
  ∀ goOn earlier, .returned goOn :: earlier <:+ es → ¬Renewed (callsSince earlier)

/-- A loop whose callback has made these calls. -/
structure Calling (calls : List LoopCall) (a : Animation) : Prop where
  running : a.running = true ↔ ∀ c ∈ calls.head?, c = .start
  placed : a.running = true → ∃ callback, a.callback = some callback
  renewed : Renewed calls → Looped a
  spent : ¬Renewed calls → a.pending = []

/-- What is known of a loop while no return has doubled its frames. -/
def Paces (es : List LoopEvent) (p : Pacing) : Prop :=
  if p.inside then Calling (callsSince es) p.loop else Looped p.loop

section Calls

variable {a : Animation} {calls : List LoopCall} {c : LoopCall}

lemma start_of_running (running : a.running = true) : a.start.2 = a := by
  simp [Animation.start, running]

/-- A start asks for a frame for a callback of its own. -/
lemma start_of_still (still : a.running = false) (spent : a.pending = []) :
    a.start.2.running = true ∧ a.start.2.callback = some (a.callbacks + 1) ∧
      a.start.2.pending = [⟨a.start.2.latest, a.callbacks + 1⟩] := by
  simp [Animation.start, Animation.request, still, spent]

lemma looped_of_still (still : a.running = false) (spent : a.pending = []) : Looped a.start.2 := by
  obtain ⟨running, placed, asked⟩ := start_of_still still spent
  exact ⟨fun _ => ⟨_, placed, asked⟩, fun stopped =>
    absurd (running.symm.trans stopped) (by decide)⟩

lemma running_stop (a : Animation) : a.stop.2.running = false := by
  cases running : a.running <;> simp [Animation.stop, Animation.cancel, running]

lemma pending_stop (spent : a.pending = []) : a.stop.2.pending = [] := by
  cases running : a.running <;> simp [Animation.stop, Animation.cancel, running, spent]

/-- All calls but a start end the loop. -/
lemma running_of_ends (ends : c ≠ .start) : (c.act a).running = false := by
  cases c with
  | start => exact absurd rfl ends
  | stop => exact running_stop a
  | drop => exact running_stop a

lemma pending_of_ends (ends : c ≠ .start) (spent : a.pending = []) : (c.act a).pending = [] := by
  cases c with
  | start => exact absurd rfl ends
  | stop => exact pending_stop spent
  | drop => exact pending_stop spent

/-- A loop in order takes its request back when it ends. -/
lemma Looped.pending_of_ends (looped : Looped a) (ends : c ≠ .start) : (c.act a).pending = [] := by
  cases c with
  | start => exact absurd rfl ends
  | stop => exact looped.stop.1
  | drop => exact looped.stop.1

lemma frames_act (c : LoopCall) (a : Animation) : (c.act a).frames = a.frames := by
  cases running : a.running <;> cases c <;>
    simp [LoopCall.act, Animation.start, Animation.stop, Animation.drop, Animation.request,
      Animation.cancel, running]

/-- Calls from outside keep a loop in order. -/
lemma Looped.act (looped : Looped a) (c : LoopCall) : Looped (c.act a) := by
  by_cases ends : c = .start
  · subst ends
    cases running : a.running with
    | true =>
      rw [LoopCall.act, start_of_running running]
      exact looped
    | false => exact looped_of_still running (looped.stopped running)
  · refine ⟨fun running => ?_, fun _ => looped.pending_of_ends ends⟩
    rw [running_of_ends ends] at running
    cases running

lemma renewed_cons_start : Renewed (.start :: calls) ↔ ∃ c ∈ calls, c ≠ .start := by
  simp [Renewed]

lemma not_renewed_of_ends (ends : c ≠ .start) : ¬Renewed (c :: calls) := by
  intro renewed
  exact ends (Option.some.inj renewed.1)

/-- A callback that has not ended the loop, or has started it again, has a running loop around
it. -/
lemma Calling.renewed_iff (calling : Calling calls a) (running : a.running = true) :
    Renewed calls ↔ ∃ c ∈ calls, c ≠ .start := by
  refine ⟨fun renewed => renewed.2, fun ends => ⟨?_, ends⟩⟩
  obtain ⟨c, there, -⟩ := ends
  cases calls with
  | nil => cases there
  | cons latest calls => exact congrArg some (calling.running.1 running latest rfl)

/-- What a start from inside does: nothing to a running loop, and one that was stopped is
renewed. -/
lemma Calling.start (calling : Calling calls a) : Calling (.start :: calls) a.start.2 := by
  have latest : ∀ c ∈ (LoopCall.start :: calls).head?, c = .start := by
    intro c there
    exact (Option.some.inj there).symm
  cases running : a.running with
  | true =>
    rw [start_of_running running]
    refine ⟨⟨fun _ => latest, fun _ => running⟩, calling.placed, fun renewed =>
      ?_, fun renewed => ?_⟩
    · exact calling.renewed ((calling.renewed_iff running).2 (renewed_cons_start.1 renewed))
    · exact calling.spent fun before => renewed (renewed_cons_start.2 before.2)
  | false =>
    have ended : ∃ c ∈ calls.head?, c ≠ .start := by
      by_contra none
      push Not at none
      rw [calling.running.2 none] at running
      cases running
    obtain ⟨c, there, ends⟩ := ended
    have spent : a.pending = [] :=
      calling.spent fun renewed => ends (Option.some.inj (there.symm.trans renewed.1))
    obtain ⟨runs, placed, -⟩ := start_of_still running spent
    refine ⟨⟨fun _ => latest, fun _ => runs⟩, fun _ => ⟨_, placed⟩, fun _ =>
      looped_of_still running spent, fun renewed => ?_⟩
    exact absurd (renewed_cons_start.2 ⟨c, List.mem_of_mem_head? there, ends⟩) renewed

lemma Calling.act (calling : Calling calls a) (c : LoopCall) : Calling (c :: calls) (c.act a) := by
  by_cases ends : c = .start
  · subst ends
    exact calling.start
  · have still := running_of_ends (a := a) ends
    refine ⟨⟨fun running => ?_, fun latest => absurd (latest c rfl) ends⟩, fun running => ?_,
      fun renewed => absurd renewed (not_renewed_of_ends ends), fun _ => ?_⟩
    · rw [still] at running
      cases running
    · rw [still] at running
      cases running
    · by_cases renewed : Renewed calls
      · exact (calling.renewed renewed).pending_of_ends ends
      · exact pending_of_ends ends (calling.spent renewed)

/-- A callback that has not renewed the loop leaves it in order. -/
lemma Calling.finish (calling : Calling calls a) (once : ¬Renewed calls) (goOn : Bool) :
    Looped (a.finish goOn).2 := by
  have spent := calling.spent once
  cases running : a.running with
  | true =>
    obtain ⟨callback, placed⟩ := calling.placed running
    exact Looped.finish placed running spent goOn
  | false =>
    cases goOn with
    | false => exact ⟨nofun, fun _ => spent⟩
    | true =>
      have still : (a.finish true).2 = a := by simp [Animation.finish, running]
      rw [still]
      exact ⟨fun runs => absurd (running.symm.trans runs) (by decide), fun _ => spent⟩

end Calls

section Histories

variable {e : LoopEvent} {es earlier later : List LoopEvent} {p p' : Pacing} {t : FrameTicket}

lemma after_cons (history : Pacing.after (e :: es) = some p) :
    ∃ q, Pacing.after es = some q ∧ q.next? e = some p :=
  Option.bind_eq_some_iff.1 history

lemma next?_delivered (next : p.next? (.delivered t) = some p') :
    p.inside = false ∧ t ∈ p.loop.pending ∧
    p' =
      if (p.loop.begin t).1 then ⟨(p.loop.begin t).2, true, p.runs + 1⟩
        else { p with loop := (p.loop.begin t).2 } := by
  rw [Pacing.next?] at next
  split at next
  · next due =>
    refine ⟨due.1, due.2, ?_⟩
    split at next
    all_goals
      next begun =>
      rw [begun, ← Option.some.inj next]
      rfl
  · cases next

lemma next?_returned {goOn : Bool} (next : p.next? (.returned goOn) = some p') :
    p.inside = true ∧ p' = { p with loop := (p.loop.finish goOn).2, inside := false } := by
  rw [Pacing.next?] at next
  split at next
  · next inside => exact ⟨inside, (Option.some.inj next).symm⟩
  · cases next

/-- In a loop in order the frame that comes is the one that it waits for. -/
lemma Looped.delivered (looped : Looped p.loop) (due : t ∈ p.loop.pending) :
    p.loop.begin t = (true, { p.loop with pending := [], frames := p.loop.frames + 1 }) ∧
    p.loop.running = true ∧
      ∃ callback, p.loop.callback = some callback := by
  cases running : p.loop.running with
  | false =>
    rw [looped.stopped running] at due
    cases due
  | true =>
    obtain ⟨t', callback, pending, placed, begun⟩ := looped.begin running
    rw [pending] at due
    obtain rfl := List.mem_singleton.1 due
    exact ⟨begun, rfl, callback, placed⟩

lemma Paces.next (paces : Paces es p) (next : p.next? e = some p')
    (undoubled : Undoubled (e :: es)) : Paces (e :: es) p' := by
  cases e with
  | call c =>
    obtain rfl := Option.some.inj next
    rw [Paces] at paces ⊢
    split
    · next inside =>
      rw [if_pos inside] at paces
      exact paces.act c
    · next inside =>
      rw [if_neg inside] at paces
      exact paces.act c
  | delivered t =>
    obtain ⟨outside, due, rfl⟩ := next?_delivered next
    rw [Paces, if_neg (by simp [outside])] at paces
    obtain ⟨begun, running, callback, placed⟩ := paces.delivered due
    rw [begun, Paces, if_pos rfl, if_pos rfl]
    refine ⟨⟨fun _ => nofun, fun _ => running⟩, fun _ => ⟨callback, placed⟩,
      fun renewed => ?_, fun _ => rfl⟩
    cases renewed.1
  | returned goOn =>
    obtain ⟨inside, rfl⟩ := next?_returned next
    rw [Paces, if_pos inside] at paces
    exact paces.finish (undoubled goOn es (List.suffix_refl _)) goOn

lemma Undoubled.tail (undoubled : Undoubled (e :: es)) : Undoubled es :=
  fun goOn earlier suffix => undoubled goOn earlier (suffix.trans (List.suffix_cons _ _))

lemma paces_of_after (history : Pacing.after es = some p) (undoubled : Undoubled es) :
    Paces es p := by
  induction es generalizing p with
  | nil =>
    obtain rfl := Option.some.inj history
    exact ⟨nofun, fun _ => rfl⟩
  | cons e es ih =>
    obtain ⟨q, before, next⟩ := after_cons history
    exact (ih before undoubled.tail).next next undoubled

lemma Paces.paced (paces : Paces es p) : Paced p := by
  rw [Paces] at paces
  split at paces
  · next inside =>
    refine ⟨?_, fun outside => ?_, fun outside => ?_⟩
    · by_cases renewed : Renewed (callsSince es)
      · rw [(paces.renewed renewed).pending_length]
        split <;> decide
      · rw [paces.spent renewed]
        exact Nat.zero_le _
    all_goals
      rw [inside] at outside
      cases outside
  · next outside =>
    have outside : p.inside = false := Bool.eq_false_of_not_eq_true outside
    refine ⟨?_, fun _ => ?_, fun _ t due => ?_⟩
    · rw [paces.pending_length]
      split <;> decide
    · rw [paces.pending_length]
      cases p.loop.running <;> decide
    · obtain ⟨begun, -⟩ := paces.delivered due
      refine ⟨⟨(p.loop.begin t).2, true, p.runs + 1⟩, ?_, rfl, rfl⟩
      rw [Pacing.next?, if_pos ⟨outside, due⟩, begun]

/-- A return to a renewed loop leaves a frame too many. -/
lemma Calling.doubled {calls : List LoopCall} {a : Animation} (calling : Calling calls a)
    (renewed : Renewed calls) (goOn : Bool) (runs : Nat) :
    ¬Paced ⟨(a.finish goOn).2, false, runs⟩ := by
  intro paced
  have running : a.running = true := by
    rw [calling.running, renewed.1]
    intro c there
    exact (Option.some.inj there).symm
  obtain ⟨callback, placed, pending⟩ := (calling.renewed renewed).running running
  cases goOn with
  | true =>
    have two := paced.atMostOne
    simp [Animation.finish, Animation.request, running, placed, pending] at two
  | false =>
    have awaited := (paced.awaited rfl).2
    simp [Animation.finish, pending] at awaited

lemma exists_doubled (history : Pacing.after es = some p) (doubled : ¬Undoubled es) :
    ∃ es' q, es' <:+ es ∧ Pacing.after es' = some q ∧ ¬Paced q := by
  induction es generalizing p with
  | nil =>
    refine absurd (fun goOn earlier suffix => ?_) doubled
    cases List.suffix_nil.1 suffix
  | cons e es ih =>
    obtain ⟨q, before, next⟩ := after_cons history
    by_cases undoubled : Undoubled es
    · -- the first return to a renewed loop
      have here : ∃ goOn, e = .returned goOn ∧ Renewed (callsSince es) := by
        by_contra none
        refine doubled fun goOn earlier suffix renewed => ?_
        obtain same | suffix := List.suffix_cons_iff.1 suffix
        · obtain ⟨rfl, rfl⟩ := List.cons.inj same
          exact none ⟨goOn, rfl, renewed⟩
        · exact undoubled goOn earlier suffix renewed
      obtain ⟨goOn, rfl, renewed⟩ := here
      obtain ⟨inside, rfl⟩ := next?_returned next
      have paces := paces_of_after before undoubled
      rw [Paces, if_pos inside] at paces
      exact ⟨_, _, List.suffix_refl _, history, paces.doubled renewed goOn q.runs⟩
    · obtain ⟨es', q', suffix, reached, unpaced⟩ := ih before undoubled
      exact ⟨es', q', suffix.trans (List.suffix_cons _ _), reached, unpaced⟩

lemma frames_begin (a : Animation) (t : FrameTicket) :
    (a.begin t).2.frames = a.frames + if (a.begin t).1 then 1 else 0 := by
  by_cases due : a.pending.contains t = true
  · rw [Animation.begin, if_pos due]
    dsimp only
    split
    · rfl
    · rfl
  · rw [Animation.begin, if_neg due]
    rfl

lemma frames_finish (a : Animation) (goOn : Bool) : (a.finish goOn).2.frames = a.frames := by
  unfold Animation.finish
  repeat' split
  all_goals rfl

/-- A loop counts the runs of its callback. -/
lemma frames_of_after (history : Pacing.after es = some p) : p.loop.frames = p.runs := by
  induction es generalizing p with
  | nil =>
    obtain rfl := Option.some.inj history
    rfl
  | cons e es ih =>
    obtain ⟨q, before, next⟩ := after_cons history
    cases e with
    | call c =>
      obtain rfl := Option.some.inj next
      exact (frames_act c q.loop).trans (ih before)
    | delivered t =>
      obtain ⟨-, -, rfl⟩ := next?_delivered next
      have frames := frames_begin q.loop t
      split at frames
      · next runs => rw [if_pos runs, frames, ih before]
      · next runs => rw [if_neg runs, frames, ih before, Nat.add_zero]
    | returned goOn =>
      obtain ⟨-, rfl⟩ := next?_returned next
      exact (frames_finish q.loop goOn).trans (ih before)

lemma begin_of_still {a : Animation} (still : a.running = false) :
    (a.begin t).1 = false ∧ (a.begin t).2.running = false := by
  unfold Animation.begin
  repeat' split
  all_goals simp_all

/-- Nothing but a start makes a loop run. -/
lemma next?_of_still (still : p.loop.running = false) (next : p.next? e = some p')
    (idle : e ≠ .call .start) :
    p'.loop.running = false ∧ p'.runs = p.runs := by
  cases e with
  | call c =>
    obtain rfl := Option.some.inj next
    exact ⟨running_of_ends fun same => idle (congrArg _ same), rfl⟩
  | delivered t =>
    obtain ⟨-, -, rfl⟩ := next?_delivered next
    obtain ⟨idle, still⟩ := begin_of_still (t := t) still
    rw [if_neg (by simp [idle])]
    exact ⟨still, rfl⟩
  | returned goOn =>
    obtain ⟨-, rfl⟩ := next?_returned next
    cases goOn <;> simp [Animation.finish, still]

/-- A loop that was ended stays so until it is started. -/
lemma still_of_after {c : LoopCall}
    (history : Pacing.after (later ++ .call c :: earlier) = some p) (ends : c ≠ .start)
    (idle : .call .start ∉ later) : p.loop.running = false ∧ ∃ q, Pacing.after earlier = some q ∧
      p.runs = q.runs := by
  induction later generalizing p with
  | nil =>
    obtain ⟨q, before, next⟩ := after_cons history
    obtain rfl := Option.some.inj next
    exact ⟨running_of_ends ends, q, before, rfl⟩
  | cons e later ih =>
    obtain ⟨first, idle⟩ := not_or.1 (mt List.mem_cons.2 idle)
    obtain ⟨q', before, next⟩ := after_cons history
    obtain ⟨still, q, reached, same⟩ := ih before idle
    obtain ⟨still, kept⟩ := next?_of_still still next (Ne.symm first)
    exact ⟨still, q, reached, kept.trans same⟩

/-- A loop counts the runs of its callback, which does not run between a stop and the next start. It
waits for one frame while it runs and for none while it does not, each of which runs the callback,
at every moment if and only if no callback has returned to a loop that it had stopped and started
again. -/
theorem pace_of_history (history : Pacing.after es = some p) :
    p.loop.frames = p.runs ∧
      (∀ later c earlier, es = later ++ .call c :: earlier → c ≠ .start → .call .start ∉ later →
        ∃ q, Pacing.after earlier = some q ∧ p.runs = q.runs) ∧
      ((∀ es' q, es' <:+ es → Pacing.after es' = some q → Paced q) ↔ Undoubled es) := by
  refine ⟨frames_of_after history, ?_, fun paced => ?_, fun undoubled => ?_⟩
  · rintro later c earlier rfl ends idle
    exact (still_of_after history ends idle).2
  · by_contra doubled
    obtain ⟨es', q, suffix, reached, unpaced⟩ := exists_doubled history doubled
    exact unpaced (paced es' q suffix reached)
  · intro es' q suffix reached
    have undoubled : Undoubled es' :=
      fun goOn earlier inner => undoubled goOn earlier (inner.trans suffix)
    exact (paces_of_after reached undoubled).paced

/-- A callback that stops the loop, starts it and stops it again. -/
theorem pace_of_restless_callback :
    Pacing.after [.returned true, .call .stop, .call .start, .call .stop, .delivered ⟨1, 1⟩,
      .call .start] =
      some ⟨⟨[], 2, false, 2, 2, some 2, 1⟩, false, 1⟩ ∧
    Paced ⟨⟨[], 2, false, 2, 2, some 2, 1⟩, false, 1⟩ := by
  have history :
      Pacing.after [.returned true, .call .stop, .call .start, .call .stop, .delivered ⟨1, 1⟩,
        .call .start] =
        some ⟨⟨[], 2, false, 2, 2, some 2, 1⟩, false, 1⟩ := by decide
  refine ⟨history, (pace_of_history history).2.2.2 (fun goOn earlier suffix => ?_) _ _
    (List.suffix_refl _) history⟩
  simp only [List.suffix_cons_iff, List.suffix_nil, List.cons.injEq, reduceCtorEq,
    false_and, or_false] at suffix
  rw [suffix.2]
  decide

/-- A callback that stops the loop and starts it again has it ask for two frames. -/
theorem two_frames_after_restart :
    ∃ p,
      Pacing.after
        [.returned true, .call .start, .call .stop, .delivered ⟨1, 1⟩, .call .start] = some p ∧
      p.loop.pending = [⟨2, 2⟩, ⟨3, 2⟩] ∧ ¬Paced p :=
  ⟨_, rfl, rfl, fun paced => absurd paced.atMostOne (by decide)⟩

end Histories

end LayeredPage.Proofs
