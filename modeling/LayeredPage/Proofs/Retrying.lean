import LayeredPage.Proofs.PageTree

/-!
# Images are tried again

A load is followed on its page, while other things happen there: its attempts are made when the page
settles, and in between it waits for a timer. It makes as many attempts as it has, but stops at the
first that succeeds. Each wait is twice as long as the one before, as far as numbers and timers go,
and follows a failure after which there is another attempt. The core hears of the image once if an
attempt succeeds, and never otherwise.
-/

namespace LayeredPage

/-- An attempt at an image: the page that it finds, what it comes to, and what it asks of the page,
in order. -/
structure Attempt where
  before : Page
  outcome : Option Picture
  calls : List PageCall

/-- Where the next attempt of a load waits. -/
inductive Waiting where
  | ready (i : Nat)
  | sleeping (i : Nat)
deriving DecidableEq

/-- A load on a page, with the attempts that it made so far, in order; it waits nowhere when it is
over. -/
structure Pursuit where
  page : Page
  place : Option Waiting
  attempts : List Attempt

namespace Page

/-- The page as the task at a place among the ready ones finds it. -/
def upTo (p : Page) (i : Nat) : Page := (p.ready.take i).foldl run { p with ready := [] }

/-- What an attempt comes to on this page, with so many left after it. -/
def attempt (p : Page) (request : ImageRequest) (left delay : Nat) : Attempt where
  before := p
  outcome := (p.fetchPicture request.path).1
  calls :=
    let calls := (p.run (.image request (left + 1) delay)).calls
    (calls.take (calls.length - p.calls.length)).reverse

/-- The task that waits at a place. -/
def taskAt? (p : Page) : Waiting → Option Task
  | .ready i => p.ready[i]?
  | .sleeping i => p.sleeping[i]?.map (·.task)

/-- Whether a timer can be set. -/
def hasTimers (p : Page) : Bool := !p.lacks .window && !p.lacks .setTimeout

end Page

namespace Pursuit

/-- Everything that the load asked of the page, in order. -/
def calls (l : Pursuit) : List PageCall := l.attempts.flatMap (·.calls)

/-- The load at its start. -/
def begin (p : Page) (request : ImageRequest) : Pursuit :=
  ⟨p.loadImage request, some (.ready p.ready.length), []⟩

/-- The timers of the page fire. -/
def wake (l : Pursuit) : Pursuit :=
  let place := l.place.map fun
    | .ready i => .ready i
    | .sleeping i => .ready (l.page.ready.length + i)
  { l with page := l.page.wake, place }

/-- The page settles. If the task of the load is among those that are ready, it is run after the
ones before it. A task that it puts to sleep is for the next attempt; a task without attempts does
nothing. -/
def settle (l : Pursuit) : Pursuit :=
  match l.place with
  | some (.ready i) =>
    match l.page.ready[i]? with
    | some (.image request (left + 1) delay) =>
      let before := l.page.upTo i
      { page := l.page.settle
        place :=
          if before.sleeping.length <
            (before.run (.image request (left + 1) delay)).sleeping.length then
            some (.sleeping before.sleeping.length)
          else none
        attempts := l.attempts ++ [before.attempt request left delay] }
    | _ => { l with page := l.page.settle, place := none }
  | place => { l with page := l.page.settle, place }

/-- The timers fire again and again, and each time the page settles. -/
def rounds (l : Pursuit) : Nat → Pursuit
  | 0 => l
  | n + 1 => (l.rounds n).wake.settle

end Pursuit

/-- What can become of a load. Whatever else happens on the page, no task is lost. -/
inductive Pursued (request : ImageRequest) : Pursuit → Prop where
  | begun (p : Page) : Pursued request (.begin p request)
  | woken {l : Pursuit} (pursued : Pursued request l) : Pursued request l.wake
  | settled {l : Pursuit} (pursued : Pursued request l) : Pursued request l.settle
  | beside {l : Pursuit} {page : Page} (pursued : Pursued request l)
    (ready : l.page.ready <+: page.ready)
    (sleeping : l.page.sleeping <+: page.sleeping) : Pursued request { l with page }

/-- What a load asks of the page, but for what it paints to see the pixels. -/
inductive LoadStep where
  | fetch (url : String)
  | wait (milliseconds : Nat)
  | notify (text : String) (payload : Option ByteArray)
deriving DecidableEq

def PageCall.loadStep? : PageCall → Option LoadStep
  | .fetch url => some (.fetch url)
  | .setTimeout _ delay => some (.wait delay)
  | .core (.interrupt text payload) => some (.notify text payload)
  | _ => none

def Pursuit.steps (l : Pursuit) : List LoadStep := l.calls.filterMap PageCall.loadStep?

def Attempt.steps (a : Attempt) : List LoadStep := a.calls.filterMap PageCall.loadStep?

namespace Backoff

/-- How many attempts are made: up to the first that succeeds, and no more than there are. -/
def tries (b : Backoff) (script : List (Option Picture)) : Nat :=
  match script.findIdx? (·.isSome) with
  | some i => min b.attempts.toNat (i + 1)
  | none => b.attempts.toNat

/-- The first success among the attempts that there are. -/
def success? (b : Backoff) (script : List (Option Picture)) : Option Picture :=
  (script.take b.attempts.toNat).findSome? id

/-- The wait after an attempt, with the attempts counted from zero. -/
def wait (b : Backoff) (i : Nat) : Nat :=
  min (min (b.initialDelay.toNat * 2 ^ i) 4294967295) 2147483647

end Backoff

namespace ImageRequest

/-- The core hears of an image: whose it is and its size, and its pixels. -/
def notice (request : ImageRequest) (picture : Picture) : LoadStep :=
  .notify
    (Interrupt.image request.id request.path picture.width picture.height : Interrupt Float).text
      (some picture.pixels)

/-- The steps of an attempt after which there is another. -/
def retrial (request : ImageRequest) (i : Nat) : List LoadStep :=
  [.fetch request.path, .wait (request.retry.wait i)]

/-- The steps of an attempt after which there is none. -/
def finale (request : ImageRequest) (outcome : Option Picture) : List LoadStep :=
  .fetch request.path :: (outcome.map request.notice).toList

/-- The steps of an attempt in a load that goes by a script. -/
def stepsOf (request : ImageRequest) (script : List (Option Picture)) (i : Nat) : List LoadStep :=
  if i + 1 < request.retry.tries script then request.retrial i else request.finale
    (request.retry.success? script)

end ImageRequest

end LayeredPage

namespace LayeredPage.Proofs

/-! ## Tasks on a page -/

/-- The second page has what waits on the first, and more timers perhaps. -/
structure Outlasts (p p' : Page) : Prop where
  ready : p'.ready = p.ready
  sleeping : p.sleeping <+: p'.sleeping

section Tasks

variable {p p' q : Page} {request : ImageRequest} {left delay : Nat}

lemma Outlasts.refl : Outlasts p p := ⟨rfl, List.prefix_rfl⟩

lemma Outlasts.trans (first : Outlasts p p') (second : Outlasts p' q) : Outlasts p q :=
  ⟨second.ready.trans first.ready, first.sleeping.trans second.sleeping⟩

lemma outlasts_of_same (ready : p'.ready = p.ready) (sleeping : p'.sleeping = p.sleeping) :
    Outlasts p p' :=
  ⟨ready, sleeping ▸ List.prefix_rfl⟩

lemma hasTimers_iff :
    p.hasTimers = true ↔ p.lacks .window = false ∧ p.lacks .setTimeout = false := by
  simp [Page.hasTimers]

lemma fetch_looks (window : p.lacks .window = false) (url : String) : ∃ network,
    (p.fetch url).2 = { p with network, calls := .fetch url :: p.calls } := by
  unfold Page.fetch
  rw [if_neg (by simp [window])]
  dsimp only
  split <;> exact ⟨_, rfl⟩

/-- Who looks for a picture leaves what waits alone. -/
lemma fetchPicture_looks (window : p.lacks .window = false) (url : String) : ∃ network calls,
    (p.fetchPicture url).2 = { p with network, calls := calls ++ p.calls } ∧
      calls.filterMap PageCall.loadStep? = [.fetch url] := by
  obtain ⟨network, fetched⟩ := fetch_looks window url
  unfold Page.fetchPicture
  rcases same :
    p.fetch url with ⟨_ | ⟨text, _ | picture⟩, q⟩ <;> rw [same] at fetched <;> subst fetched
  · exact ⟨network, [.fetch url], rfl, rfl⟩
  · exact ⟨network, [.fetch url], rfl, rfl⟩
  · dsimp only
    unfold Page.decode
    dsimp only
    split
    · exact ⟨network, [.offscreen picture.width picture.height, .fetch url], rfl, rfl⟩
    · exact ⟨network, [.closeBitmap, .offscreen picture.width picture.height, .fetch url], rfl, rfl⟩

/-- An attempt succeeds if the network answers with a picture, and the page can paint it. -/
theorem attempt_outcome (window : p.lacks .window = false) :
    (p.attempt request left delay).outcome =
    if p.lacks .getContext then none
    else ((p.network[request.path]?.bind List.head?).bind (·.body?)).bind (·.picture) := by
  change (p.fetchPicture request.path).1 = _
  unfold Page.fetchPicture Page.fetch
  rw [if_neg (by simp [window])]
  dsimp only [Page.note]
  rcases p.network[request.path]? with _ | _ | ⟨outcome, rest⟩
  · simp
  · simp
  · rcases body : outcome.body? with _ | ⟨text, _ | picture⟩
    · simp [body]
    · simp [body]
    · have lacks (calls : List PageCall) :
        Page.lacks { p with network := p.network.insert request.path rest, calls } .getContext =
        p.lacks .getContext := rfl
      simp only [body, Page.decode, Page.note, lacks]
      split <;> simp [body]

lemma attempt_steps {calls : List PageCall}
    (ran : (p.run (.image request (left + 1) delay)).calls = calls ++ p.calls) :
    (p.attempt request left delay).steps = (calls.filterMap PageCall.loadStep?).reverse := by
  rw [Attempt.steps, Page.attempt, ran]
  dsimp only
  rw [List.length_append, Nat.add_sub_cancel, List.take_left, List.filterMap_reverse]

/-- A success is told to the core, and ends the load. -/
lemma attempt_of_success {picture : Picture} (timers : p.hasTimers = true)
    (success : (p.attempt request left delay).outcome = some picture) :
    (p.attempt request left delay).steps = request.finale (some picture) ∧
      (p.run (.image request (left + 1) delay)).sleeping = p.sleeping := by
  obtain ⟨network, calls, looked, looks⟩ :=
    fetchPicture_looks (hasTimers_iff.1 timers).1 request.path
  have found :
      p.fetchPicture request.path = (some picture, { p with network, calls := calls ++ p.calls }) :=
        Prod.ext success looked
  let told : PageCall := .core (.interrupt
    (Interrupt.image request.id request.path picture.width picture.height : Interrupt Float).text
      (some picture.pixels))
  have ran : (p.run (.image request (left + 1) delay)).calls = told :: calls ++ p.calls ∧
      (p.run (.image request (left + 1) delay)).sleeping = p.sleeping := by
    rw [Page.run, Page.attemptImage, found]
    exact ⟨rfl, rfl⟩
  refine ⟨?_, ran.2⟩
  rw [attempt_steps ran.1, List.filterMap_cons, looks]
  rfl

/-- A failure of the last attempt ends the load too. -/
lemma attempt_of_last (timers : p.hasTimers = true)
    (failure : (p.attempt request 0 delay).outcome = none) :
    (p.attempt request 0 delay).steps = request.finale none ∧
    (p.run (.image request 1 delay)).sleeping = p.sleeping := by
  obtain ⟨network, calls, looked, looks⟩ :=
    fetchPicture_looks (hasTimers_iff.1 timers).1 request.path
  have found :
      p.fetchPicture request.path = (none, { p with network, calls := calls ++ p.calls }) :=
        Prod.ext failure looked
  have ran : p.run (.image request 1 delay) = { p with network, calls := calls ++ p.calls } := by
    rw [Page.run, Page.attemptImage, found]
    rfl
  refine ⟨?_, congrArg (·.sleeping) ran⟩
  rw [attempt_steps (congrArg (·.calls) ran), looks]
  rfl

/-- After any other failure the load waits for a timer. -/
lemma attempt_of_failure (timers : p.hasTimers = true)
    (failure : (p.attempt request (left + 1) delay).outcome = none) :
    (p.attempt request (left + 1) delay).steps =
      [.fetch request.path, .wait (min delay Page.longestTimer)] ∧
      ∃ id, (p.run (.image request (left + 2) delay)).sleeping =
        p.sleeping ++ [⟨id, .image request (left + 1) (min (2 * delay) Backoff.longestDelay)⟩] := by
  obtain ⟨window, timeout⟩ := hasTimers_iff.1 timers
  obtain ⟨network, calls, looked, looks⟩ := fetchPicture_looks window request.path
  have found :
      p.fetchPicture request.path = (none, { p with network, calls := calls ++ p.calls }) :=
        Prod.ext failure looked
  have awake : (Page.lacks { p with network, calls := calls ++ p.calls } .window ||
      Page.lacks { p with network, calls := calls ++ p.calls } .setTimeout) = false := by
    simpa [Page.lacks] using And.intro window timeout
  let timer : PageCall := .setTimeout (p.timers + 1) (min delay Page.longestTimer)
  have ran : (p.run (.image request (left + 2) delay)).calls = timer :: calls ++ p.calls ∧
      (p.run (.image request (left + 2) delay)).sleeping =
        p.sleeping ++
          [⟨p.timers + 1, .image request (left + 1) (min (2 * delay) Backoff.longestDelay)⟩] := by
    rw [Page.run, Page.attemptImage, found]
    dsimp only
    rw [if_neg (Nat.succ_ne_zero left), Page.sleep, awake]
    exact ⟨rfl, rfl⟩
  refine ⟨?_, _, ran.2⟩
  rw [attempt_steps ran.1, List.filterMap_cons, looks]
  rfl

/-- Who fetches a text, or reads a file, leaves what waits alone. -/
lemma outlasts_fetch (url : String) : Outlasts p (p.fetch url).2 := by
  unfold Page.fetch
  split
  · exact .refl
  · dsimp only
    split <;> exact outlasts_of_same rfl rfl

lemma outlasts_fetchPicture (url : String) : Outlasts p (p.fetchPicture url).2 := by
  have fetched : Outlasts p (p.fetch url).2 := outlasts_fetch url
  unfold Page.fetchPicture
  rcases same : p.fetch url with ⟨_ | ⟨text, _ | picture⟩, q⟩ <;> rw [same] at fetched
  · exact fetched
  · exact fetched
  · refine fetched.trans ?_
    dsimp only
    unfold Page.decode
    dsimp only
    split <;> exact outlasts_of_same rfl rfl

lemma outlasts_attemptImage (request : ImageRequest) (attempts delay : Nat) :
    Outlasts p (p.attemptImage request attempts delay) := by
  unfold Page.attemptImage
  cases attempts with
  | zero => exact .refl
  | succ left =>
    have tried : Outlasts p (p.fetchPicture request.path).2 := outlasts_fetchPicture request.path
    dsimp only
    rcases same : p.fetchPicture request.path with ⟨_ | picture, q⟩ <;> rw [same] at tried
    · dsimp only
      split
      · exact tried
      · refine tried.trans ?_
        unfold Page.sleep
        split
        · exact .refl
        · exact ⟨rfl, List.prefix_append _ _⟩
    · exact tried.trans (outlasts_of_same rfl rfl)

lemma outlasts_append? {parent child : ElementId} (hung : p.append? parent child = some p') :
    Outlasts p p' := by
  unfold Page.append? at hung
  split at hung
  · cases hung
  · cases hung
    unfold Page.remove
    split <;> exact outlasts_of_same rfl rfl

/-- A stylesheet changes elements. -/
lemma outlasts_addStylesheet (url : String) : Outlasts p (p.addStylesheet url) := by
  have fetched : Outlasts p (p.fetch url).2 := outlasts_fetch url
  unfold Page.addStylesheet
  rcases same : p.fetch url with ⟨_ | body, q⟩ <;> rw [same] at fetched
  · exact fetched
  · refine fetched.trans ?_
    have written : Outlasts q ((q.create "style").2.setText (q.create "style").1 body.text) := by
      obtain ⟨elements, written⟩ :=
        (replaced_setText (p := (q.create "style").2) (e := (q.create "style").1) body.text).beside
      rw [written]
      exact outlasts_of_same rfl rfl
    dsimp only
    split
    · exact .refl
    · split
      · exact written
      · cases hung :
          ((q.create "style").2.setText (q.create "style").1 body.text).append? Page.head
            (q.create "style").1 with
        | none => exact written
        | some p' => exact written.trans (outlasts_append? hung)

lemma outlasts_run (task : Task) : Outlasts p (p.run task) := by
  cases task with
  | image request attempts delay => exact outlasts_attemptImage request attempts delay
  | stylesheet url => exact outlasts_addStylesheet url
  | face family =>
    change Outlasts p (p.addFace family)
    unfold Page.addFace
    split
    · exact .refl
    · exact outlasts_of_same rfl rfl
  | dropped position file =>
    change Outlasts p (p.sendFile position file)
    unfold Page.sendFile
    split
    · exact .refl
    · exact outlasts_of_same rfl rfl

lemma outlasts_foldl (tasks : List Task) : Outlasts p (tasks.foldl Page.run p) := by
  induction tasks generalizing p with
  | nil => exact .refl
  | cons task tasks ih => exact (outlasts_run task).trans ih

end Tasks

/-! ## The course of a load -/

section Loads

variable {request : ImageRequest} {l : Pursuit} {p p' : Page} {place : Waiting} {task : Task}

/-- A load that is not over has only failed so far, and the task of its next attempt waits. -/
structure Ongoing (request : ImageRequest) (l : Pursuit) : Prop where
  failed : ∀ a ∈ l.attempts, a.outcome = none
  left : l.attempts.length < request.retry.attempts.toNat ∨ l.attempts = []
  steps : l.steps = (List.range l.attempts.length).flatMap request.retrial
  task : ∀ place, l.place = some place → l.page.taskAt? place = some (.image request
    (request.retry.attempts.toNat - l.attempts.length)
    (min (request.retry.initialDelay.toNat * 2 ^ l.attempts.length) Backoff.longestDelay))

/-- A load that is over has succeeded in the end, or has used up its attempts. -/
structure Ended (request : ImageRequest) (l : Pursuit) : Prop where
  failed : ∀ a ∈ l.attempts.dropLast, a.outcome = none
  most : l.attempts.length ≤ request.retry.attempts.toNat
  spent : (∀ a ∈ l.attempts, a.outcome = none) → l.attempts.length = request.retry.attempts.toNat
  steps : l.steps = (List.range (l.attempts.length - 1)).flatMap request.retrial ++
    l.attempts.getLast?.toList.flatMap fun a => request.finale a.outcome

lemma getElem?_of_grown {α : Type} {xs ys : List α} {x : α} {i : Nat} (grown : xs <+: ys)
    (there : xs[i]? = some x) :
    ys[i]? = some x := by
  obtain ⟨more, rfl⟩ := grown
  obtain ⟨inside, -⟩ := List.getElem?_eq_some_iff.1 there
  rw [List.getElem?_append_left inside, there]

lemma taskAt?_of_grown (ready : p.ready <+: p'.ready) (sleeping : p.sleeping <+: p'.sleeping)
    (there : p.taskAt? place = some task) :
    p'.taskAt? place = some task := by
  cases place with
  | ready i => exact getElem?_of_grown ready there
  | sleeping i =>
    obtain ⟨sleeper, found, rfl⟩ := Option.map_eq_some_iff.1 there
    exact Option.map_eq_some_iff.2 ⟨sleeper, getElem?_of_grown sleeping found, rfl⟩

lemma initialDelay_le {b : Backoff} : b.initialDelay.toNat ≤ Backoff.longestDelay := by
  have := b.initialDelay.toNat_lt
  unfold Backoff.longestDelay
  omega

lemma ongoing_begin : Ongoing request (.begin p request) := by
  refine ⟨nofun, .inr rfl, rfl, fun place there => ?_⟩
  cases there
  simp [Pursuit.begin, Page.taskAt?, Page.loadImage, Page.spawn, initialDelay_le]

lemma Ongoing.beside (ongoing : Ongoing request l) (ready : l.page.ready <+: p.ready)
    (sleeping : l.page.sleeping <+: p.sleeping) :
    Ongoing request { l with page := p } :=
  { ongoing with task := fun place there => taskAt?_of_grown ready sleeping (ongoing.task
    place there) }

lemma Ongoing.woken (ongoing : Ongoing request l) : Ongoing request l.wake := by
  refine { ongoing with task := fun place there => ?_ }
  obtain ⟨before, was, rfl⟩ := Option.map_eq_some_iff.1 there
  have task := ongoing.task before was
  cases before with
  | ready i => exact getElem?_of_grown (List.prefix_append _ _) task
  | sleeping i =>
    change (l.page.ready ++ l.page.sleeping.map (·.task))[l.page.ready.length + i]? = _
    rw [List.getElem?_append_right (Nat.le_add_right _ _),
      Nat.add_sub_cancel_left, List.getElem?_map]
    exact task

/-- Settling runs the tasks before one that is ready, then that one, then the rest. -/
lemma settle_eq {i : Nat} (there : p.ready[i]? = some task) :
    p.settle = (p.ready.drop (i + 1)).foldl Page.run ((p.upTo i).run task) := by
  obtain ⟨inside, rfl⟩ := List.getElem?_eq_some_iff.1 there
  have split : p.ready = p.ready.take i ++ p.ready[i] :: p.ready.drop (i + 1) := by
    rw [← List.drop_eq_getElem_cons inside, List.take_append_drop]
  rw [Page.settle, Page.upTo]
  conv_lhs => rw [split]
  rw [List.foldl_append, List.foldl_cons]

lemma outlasts_settle : p.sleeping <+: p.settle.sleeping := by
  have settled : Outlasts { p with ready := [] } p.settle := outlasts_foldl p.ready
  exact settled.sleeping

section Attempts

variable {a : Attempt} {page : Page} {place : Option Waiting}

lemma steps_concat : Pursuit.steps ⟨page, place, l.attempts ++ [a]⟩ = l.steps ++ a.steps := by
  simp [Pursuit.steps, Attempt.steps, Pursuit.calls]

/-- One more attempt, which failed and is not the last. -/
lemma Ongoing.failure {waiting : Waiting} (ongoing : Ongoing request l)
    (steps : a.steps = request.retrial l.attempts.length)
    (failure : a.outcome = none) (more : l.attempts.length + 1 < request.retry.attempts.toNat)
    (task : page.taskAt? waiting =
      some (.image request (request.retry.attempts.toNat - (l.attempts.length + 1))
        (min (request.retry.initialDelay.toNat * 2 ^ (l.attempts.length + 1))
          Backoff.longestDelay))) :
    Ongoing request ⟨page, some waiting, l.attempts ++ [a]⟩ := by
  refine ⟨fun b there => ?_, .inl ?_, ?_, fun place' there => ?_⟩
  · obtain there | there := List.mem_append.1 there
    · exact ongoing.failed b there
    · rw [List.mem_singleton.1 there, failure]
  · rw [List.length_append]
    exact more
  · rw [steps_concat, ongoing.steps, steps, List.length_append, List.length_singleton,
      List.range_succ, List.flatMap_append,
      List.flatMap_singleton]
  · cases there
    rw [List.length_append]
    exact task

/-- One more attempt, which succeeded or was the last. -/
lemma Ongoing.last (ongoing : Ongoing request l) (steps : a.steps = request.finale a.outcome)
    (most : l.attempts.length + 1 ≤ request.retry.attempts.toNat)
    (spent : a.outcome = none → l.attempts.length + 1 = request.retry.attempts.toNat) :
    Ended request ⟨page, none, l.attempts ++ [a]⟩ := by
  refine ⟨fun b there => ?_, ?_, fun failed => ?_, ?_⟩
  · rw [List.dropLast_concat] at there
    exact ongoing.failed b there
  · rw [List.length_append]
    exact most
  · rw [List.length_append]
    exact spent (failed a (by simp))
  · rw [steps_concat, ongoing.steps, steps, List.length_append, List.length_singleton,
      Nat.add_sub_cancel, List.getLast?_concat]
    simp

/-- A load without attempts is over at once. -/
lemma Ongoing.idle (ongoing : Ongoing request l)
    (idle : request.retry.attempts.toNat = 0) (page : Page) :
    Ended request ⟨page, none, l.attempts⟩ := by
  have fresh : l.attempts = [] := ongoing.left.resolve_left (by omega)
  rw [fresh]
  exact ⟨nofun, Nat.zero_le _, fun _ => idle.symm, rfl⟩

end Attempts

/-- A load goes on, or it is over. -/
def Scheduled (request : ImageRequest) (l : Pursuit) : Prop :=
  (l.place = none → Ended request l) ∧ (l.place ≠ none → Ongoing request l)

lemma settle_of_attempt {i left delay : Nat} (place : l.place = some (.ready i))
    (there : l.page.ready[i]? = some (.image request (left + 1) delay)) : l.settle =
      { page := l.page.settle
        place :=
          if (l.page.upTo i).sleeping.length <
            ((l.page.upTo i).run (.image request (left + 1) delay)).sleeping.length then
            some (.sleeping (l.page.upTo i).sleeping.length)
          else none
        attempts := l.attempts ++ [(l.page.upTo i).attempt request left delay] } := by
  unfold Pursuit.settle
  rw [place]
  dsimp only
  rw [there]

lemma wait_succ {n d : Nat} : min (2 * min (d * 2 ^ n) Backoff.longestDelay) Backoff.longestDelay =
    min (d * 2 ^ (n + 1)) Backoff.longestDelay := by
  rw [pow_succ, ← mul_assoc]
  omega

/-- What a load makes of its turn. -/
lemma Ongoing.turn {i : Nat} (ongoing : Ongoing request l) (place : l.place = some (.ready i))
    (working : ∀ a ∈ l.settle.attempts, a.before.hasTimers = true) :
    Scheduled request l.settle := by
  have there : l.page.ready[i]? = _ := ongoing.task _ place
  cases rest : request.retry.attempts.toNat - l.attempts.length with
  | zero =>
    have settled : l.settle = ⟨l.page.settle, none, l.attempts⟩ := by
      unfold Pursuit.settle
      rw [place]
      dsimp only
      rw [there, rest]
    have idle : request.retry.attempts.toNat = 0 := by
      obtain some | fresh := ongoing.left
      · omega
      · rwa [fresh] at rest
    rw [settled]
    exact ⟨fun _ => ongoing.idle idle _, fun some => absurd rfl some⟩
  | succ left =>
    rw [rest] at there
    have settled := settle_of_attempt place there
    rw [settled] at working ⊢
    have timers : (l.page.upTo i).hasTimers = true :=
      working ((l.page.upTo i).attempt request left _)
        (List.mem_append_right _ (List.mem_singleton_self _))
    cases outcome : ((l.page.upTo i).attempt request left
        (min (request.retry.initialDelay.toNat * 2 ^ l.attempts.length)
          Backoff.longestDelay)).outcome with
    | some picture =>
      obtain ⟨steps, sleeping⟩ := attempt_of_success timers outcome
      rw [sleeping, if_neg (lt_irrefl _)]
      exact ⟨fun _ => ongoing.last (outcome ▸ steps) (by omega) fun failed =>
        absurd (outcome.symm.trans failed) nofun, fun some => absurd rfl some⟩
    | none =>
      cases left with
      | zero =>
        obtain ⟨steps, sleeping⟩ := attempt_of_last timers outcome
        rw [sleeping, if_neg (lt_irrefl _)]
        exact ⟨fun _ => ongoing.last (outcome ▸ steps) (by omega) fun _ => by omega,
          fun some => absurd rfl some⟩
      | succ left =>
        obtain ⟨steps, id, sleeping⟩ := attempt_of_failure timers outcome
        have asleep :
            (l.page.upTo i).sleeping.length < ((l.page.upTo i).run (.image request (left + 1 + 1)
              (min (request.retry.initialDelay.toNat * 2 ^ l.attempts.length)
                Backoff.longestDelay))).sleeping.length := by
          rw [sleeping, List.length_append]
          exact Nat.lt_succ_self _
        rw [if_pos asleep]
        refine ⟨fun none => absurd none nofun, fun _ => ongoing.failure steps outcome (by omega) ?_⟩
        have kept := (settle_eq there).symm ▸ (outlasts_foldl (l.page.ready.drop (i + 1))).sleeping
        have next : request.retry.attempts.toNat - (l.attempts.length + 1) = left + 1 := by omega
        rw [Page.taskAt?, getElem?_of_grown kept (by rw [sleeping, List.getElem?_concat_length]),
          next, wait_succ]
        rfl

lemma settle_of_elsewhere (elsewhere : ∀ i, l.place ≠ some (.ready i)) :
    l.settle = { l with page := l.page.settle } := by
  unfold Pursuit.settle
  split
  · next i place => exact absurd place (elsewhere i)
  · rfl

lemma attempts_settle : l.attempts <+: l.settle.attempts := by
  unfold Pursuit.settle
  split
  · split
    · exact List.prefix_append _ _
    · exact List.prefix_rfl
  · exact List.prefix_rfl

lemma Scheduled.settled (scheduled : Scheduled request l)
    (working : ∀ a ∈ l.settle.attempts, a.before.hasTimers = true) :
    Scheduled request l.settle := by
  rcases place : l.place with _ | i | i
  · rw [settle_of_elsewhere (by simp [place])]
    have ended := scheduled.1 place
    exact ⟨fun _ => { ended with }, fun some => absurd place some⟩
  · exact (scheduled.2 (by simp [place])).turn place working
  · rw [settle_of_elsewhere (by simp [place])]
    refine ⟨fun none => absurd (place.symm.trans none) nofun, fun some => ?_⟩
    have ongoing := scheduled.2 some
    refine { ongoing with task := fun place' there => ?_ }
    cases place.symm.trans there
    obtain ⟨sleeper, found, task⟩ := Option.map_eq_some_iff.1 (ongoing.task _ place)
    exact Option.map_eq_some_iff.2 ⟨sleeper, getElem?_of_grown outlasts_settle found, task⟩

lemma scheduled_of_pursued (pursued : Pursued request l)
    (working : ∀ a ∈ l.attempts, a.before.hasTimers = true) : Scheduled request l := by
  induction pursued with
  | begun p => exact ⟨nofun, fun _ => ongoing_begin⟩
  | woken _ ih =>
    have scheduled := ih working
    refine ⟨fun none => ?_, fun some =>
      (scheduled.2 fun none => some (by rw [Pursuit.wake, none]; rfl)).woken⟩
    have ended := scheduled.1 (Option.map_eq_none_iff.1 none)
    exact { ended with }
  | settled _ ih =>
    exact (ih fun a there => working a (attempts_settle.subset there)).settled working
  | beside _ ready sleeping ih =>
    have scheduled := ih working
    refine ⟨fun none => ?_, fun some => (scheduled.2 some).beside ready sleeping⟩
    have ended := scheduled.1 none
    exact { ended with }

/-- A turn of a load that has attempts left is an attempt. -/
lemma Ongoing.turns {i : Nat} (ongoing : Ongoing request l) (place : l.place = some (.ready i))
    (some : 0 < request.retry.attempts.toNat) :
    l.settle.attempts.length = l.attempts.length + 1 := by
  have there : l.page.ready[i]? = _ := ongoing.task _ place
  cases rest : request.retry.attempts.toNat - l.attempts.length with
  | zero =>
    obtain left | fresh := ongoing.left
    · omega
    · rw [fresh] at rest
      exact absurd rest some.ne'
  | succ left =>
    rw [rest] at there
    rw [settle_of_attempt place there, List.length_append, List.length_singleton]

lemma pursued_rounds (pursued : Pursued request l) (n : Nat) : Pursued request (l.rounds n) := by
  induction n with
  | zero => exact pursued
  | succ n ih => exact ih.woken.settled

/-- A turn of a load that has no attempts at all ends it. -/
lemma Ongoing.idles {i : Nat} (ongoing : Ongoing request l) (place : l.place = some (.ready i))
    (idle : request.retry.attempts.toNat = 0) : l.settle.place = none := by
  have there : l.page.ready[i]? = _ := ongoing.task _ place
  rw [idle, Nat.zero_sub] at there
  unfold Pursuit.settle
  rw [place]
  dsimp only
  rw [there]

lemma wake_ready {place : Waiting} (there : l.place = some place) :
    ∃ i, l.wake.place = some (.ready i) := by
  unfold Pursuit.wake
  rw [there]
  cases place <;> exact ⟨_, rfl⟩

/-- Each round of a load that is not over is an attempt. -/
lemma rounds_made (pursued : Pursued request l) (n : Nat)
    (working : ∀ a ∈ (l.rounds n).attempts, a.before.hasTimers = true) :
    (l.rounds n).place = none ∨ n ≤ (l.rounds n).attempts.length := by
  induction n with
  | zero => exact .inr (Nat.zero_le _)
  | succ n ih =>
    have before : ∀ a ∈ (l.rounds n).attempts, a.before.hasTimers = true :=
      fun a there => working a ((attempts_settle : (l.rounds n).wake.attempts <+: _).subset there)
    have scheduled := scheduled_of_pursued (pursued_rounds pursued n) before
    cases place : (l.rounds n).place with
    | none =>
      refine .inl ?_
      rw [Pursuit.rounds, settle_of_elsewhere (by simp [Pursuit.wake, place])]
      simp [Pursuit.wake, place]
    | some _ =>
      have ongoing := (scheduled.2 (by simp [place])).woken
      obtain ⟨i, ready⟩ := wake_ready place
      obtain idle | some := Nat.eq_zero_or_pos request.retry.attempts.toNat
      · exact .inl (ongoing.idles ready idle)
      · refine .inr ?_
        have made := (ih before).resolve_left (by simp [place])
        rw [Pursuit.rounds, ongoing.turns ready some]
        exact Nat.succ_le_succ made

/-- A load that has its turn often enough comes to its end. -/
lemma rounds_end (pursued : Pursued request l) {n : Nat}
    (working : ∀ a ∈ (l.rounds n).attempts, a.before.hasTimers = true)
    (many : request.retry.attempts.toNat < n) : (l.rounds n).place = none := by
  by_contra there
  have made := (rounds_made pursued n working).resolve_left there
  have ongoing := (scheduled_of_pursued (pursued_rounds pursued n) working).2 there
  obtain few | none := ongoing.left
  · omega
  · rw [none] at made
    exact absurd made (by simp; omega)

/-! ## The attempts of a script -/

lemma saturated_mul {d m n : Nat} (some : 0 < m) : min (min d n * m) n = min (d * m) n := by
  rcases le_total d n with small | large
  · rw [min_eq_left small]
  · rw [min_eq_right large, min_eq_right (Nat.le_mul_of_pos_right _ some),
      min_eq_right (large.trans (Nat.le_mul_of_pos_right _ some))]

lemma delaysFrom_getElem? {delay attempts i : Nat} (there : i < attempts)
    (small : delay ≤ Backoff.longestDelay) :
    (Backoff.delaysFrom delay attempts)[i]? = some (min (delay * 2 ^ i) Backoff.longestDelay) := by
  induction attempts generalizing delay i with
  | zero => exact absurd there (Nat.not_lt_zero i)
  | succ attempts ih =>
    cases i with
    | zero => simp [Backoff.delaysFrom, small]
    | succ i =>
      rw [Backoff.delaysFrom, List.getElem?_cons_succ, ih (by omega) (Nat.min_le_right _ _),
        saturated_mul (Nat.two_pow_pos i),
        Nat.mul_comm 2 delay, Nat.mul_assoc, Nat.pow_succ']

/-- The wait after an attempt is the delay that the schedule gives it, as far as timers go. -/
theorem delays_getElem? {b : Backoff} {i : Nat} (there : i < b.attempts.toNat) :
    b.delays[i]?.map (min · Page.longestTimer) = some (b.wait i) := by
  rw [Backoff.delays, delaysFrom_getElem? there initialDelay_le]
  rfl

section Scripts

variable {b : Backoff} {script : List (Option Picture)} {n j : Nat} {picture : Picture}

/-- An attempt is made if there is one and all before it fail. -/
lemma lt_tries : j < b.tries script ↔ j < b.attempts.toNat ∧ ∀ i < j, script[i]?.join = none := by
  unfold Backoff.tries
  split
  · next i first =>
    obtain ⟨inside, success, before⟩ := List.findIdx?_eq_some_iff_getElem.1 first
    rw [lt_min_iff, Nat.lt_succ_iff]
    refine and_congr_right fun _ => ⟨fun le h earlier => ?_, fun failed => not_lt.1 fun later => ?_⟩
    · have := before h (by omega)
      rw [List.getElem?_eq_getElem (by omega)]
      simpa using this
    · have := failed i later
      rw [List.getElem?_eq_getElem inside] at this
      simp_all
  · next never =>
    refine (and_iff_left fun i _ => ?_).symm
    rw [List.findIdx?_eq_none_iff] at never
    cases there : script[i]? with
    | none => rfl
    | some outcome => simpa using never outcome (List.mem_of_getElem? there)

lemma findSome?_take_of_failed (failed : ∀ i < n, script[i]?.join = none) :
    (script.take n).findSome? id = none := by
  refine List.findSome?_eq_none_iff.2 fun outcome there => ?_
  obtain ⟨i, inside, rfl⟩ := List.mem_take_iff_getElem.1 there
  have := failed i (by omega)
  rwa [List.getElem?_eq_getElem (by omega)] at this

lemma success?_of_first (there : j < b.attempts.toNat) (failed : ∀ i < j, script[i]?.join = none)
    (success : script[j]?.join = some picture) : b.success? script = some picture := by
  have found : (script.take b.attempts.toNat)[j]? = some (some picture) := by
    rw [List.getElem?_take_of_lt there]
    exact Option.join_eq_some_iff.1 success
  obtain ⟨inside, is⟩ := List.getElem?_eq_some_iff.1 found
  rw [Backoff.success?, ← List.take_append_drop j (script.take b.attempts.toNat), List.take_take,
    min_eq_left there.le,
    List.findSome?_append, findSome?_take_of_failed failed, List.drop_eq_getElem_cons inside, is]
  rfl

lemma success?_of_none (failed : ∀ i < b.attempts.toNat, script[i]?.join = none) :
    b.success? script = none :=
  findSome?_take_of_failed failed

lemma flatMap_retrial (few : ∀ i < n, i + 1 < request.retry.tries script) :
    (List.range n).flatMap request.retrial = (List.range n).flatMap (request.stepsOf script) := by
  refine List.flatMap_congr fun i there => ?_
  rw [ImageRequest.stepsOf, if_pos (few i (List.mem_range.1 there))]

end Scripts

section Scripted

variable {script : List (Option Picture)}
  (scripted : ∀ (i : Nat) a, l.attempts[i]? = some a → a.outcome = script[i]?.join)
include scripted

lemma script_failed {i : Nat} {attempts : List Attempt} (made : attempts <+: l.attempts)
    (inside : i < attempts.length)
    (failed : ∀ a ∈ attempts, a.outcome = none) : script[i]?.join = none := by
  have there : attempts[i]? = some attempts[i] := List.getElem?_eq_getElem inside
  rw [← scripted i _ (getElem?_of_grown made there)]
  exact failed _ (List.getElem_mem inside)

lemma Ongoing.tallies (ongoing : Ongoing request l) :
    l.attempts.length ≤ request.retry.tries script ∧
    (0 < request.retry.attempts.toNat → l.attempts.length < request.retry.tries script) := by
  have failed : ∀ i < l.attempts.length, script[i]?.join = none :=
    fun i inside => script_failed scripted List.prefix_rfl inside ongoing.failed
  obtain few | none := ongoing.left
  · have lt := lt_tries.2 ⟨few, failed⟩
    exact ⟨lt.le, fun _ => lt⟩
  · rw [none] at failed ⊢
    exact ⟨Nat.zero_le _, fun some => lt_tries.2 ⟨some, failed⟩⟩

lemma Ended.tallies (ended : Ended request l) : l.attempts.length = request.retry.tries script ∧
    l.attempts.getLast?.bind (·.outcome) = request.retry.success? script := by
  obtain none | ⟨before, last, attempts⟩ := l.attempts.eq_nil_or_concat'
  · have spent := ended.spent (by simp [none])
    rw [none] at spent ⊢
    refine ⟨(Nat.eq_zero_of_not_pos fun some => ?_).symm,
      (success?_of_none fun i inside => ?_).symm⟩
    · exact absurd (lt_tries.1 some).1 (by rw [← spent]; exact Nat.lt_irrefl _)
    · exact absurd inside (by rw [← spent]; exact Nat.not_lt_zero _)
  · have failed : ∀ i < before.length, script[i]?.join = Option.none := fun i inside =>
      script_failed scripted (attempts ▸ List.prefix_append _ _) inside fun a there =>
        ended.failed a (by simp [attempts, there])
    have outcome : last.outcome = script[before.length]?.join := scripted _ _ (by simp [attempts])
    have most := ended.most
    rw [attempts, List.length_append, List.length_singleton] at most ⊢
    rw [List.getLast?_concat, Option.bind_some]
    have least := lt_tries.2 ⟨most, failed⟩
    cases came : last.outcome with
    | some picture =>
      refine ⟨le_antisymm least (not_lt.1 fun later => ?_),
        (success?_of_first most failed (outcome.symm.trans came)).symm⟩
      exact absurd
        ((outcome.symm.trans came).symm.trans ((lt_tries.1 later).2 _ (Nat.lt_succ_self _))) nofun
    | none =>
      have all : ∀ i < before.length + 1, script[i]?.join = Option.none := fun i inside =>
        (Nat.lt_succ_iff_lt_or_eq.1 inside).elim (failed i) fun here =>
          here ▸ outcome.symm.trans came
      have spent : before.length + 1 = request.retry.attempts.toNat := by
        rw [← ended.spent, attempts, List.length_append, List.length_singleton]
        intro a there
        rw [attempts] at there
        obtain early | late := List.mem_append.1 there
        · exact ended.failed a (by rwa [attempts, List.dropLast_concat])
        · rw [List.mem_singleton.1 late, came]
      refine ⟨le_antisymm least (not_lt.1 fun later => ?_), (success?_of_none (spent ▸ all)).symm⟩
      exact absurd (lt_tries.1 later).1 (by omega)

lemma Ongoing.steps_scripted (ongoing : Ongoing request l) :
    l.steps = (List.range l.attempts.length).flatMap (request.stepsOf script) := by
  rw [ongoing.steps]
  refine flatMap_retrial fun i inside => ?_
  obtain few | none := ongoing.left
  · have := (ongoing.tallies scripted).2 (by omega)
    omega
  · rw [none] at inside
    exact absurd inside (Nat.not_lt_zero _)

lemma Ended.steps_scripted (ended : Ended request l) :
    l.steps = (List.range l.attempts.length).flatMap (request.stepsOf script) := by
  obtain ⟨made, success⟩ := ended.tallies scripted
  have steps := ended.steps
  obtain none | ⟨before, last, attempts⟩ := l.attempts.eq_nil_or_concat'
  · rw [steps, none]
    rfl
  · rw [attempts, List.getLast?_concat, Option.bind_some] at success
    rw [attempts, List.length_append, List.length_singleton] at made
    rw [steps, attempts, List.length_append, List.length_singleton, Nat.add_sub_cancel,
      List.getLast?_concat, List.range_succ,
      List.flatMap_append, List.flatMap_singleton, ImageRequest.stepsOf,
      if_neg (by omega), ← success,
      flatMap_retrial fun i inside => (Nat.succ_lt_succ inside).trans_eq made]
    simp

end Scripted

/-- For every request and every script of outcomes: a load makes as many attempts as the script
gives it. It waits after each but the last, and tells the core of the image in the end when an
attempt succeeded. It is over when they are made, and they are all made if the timers of the page
fire and the page settles often enough. -/
theorem loading_of_pursuit {script : List (Option Picture)} (pursued : Pursued request l)
    (working : ∀ a ∈ l.attempts, a.before.hasTimers = true)
    (scripted : ∀ (i : Nat) a, l.attempts[i]? = some a → a.outcome = script[i]?.join) :
    l.attempts.length ≤ request.retry.tries script ∧
      l.steps = (List.range l.attempts.length).flatMap (request.stepsOf script) ∧
      (l.place = none → l.attempts.length = request.retry.tries script) ∧
      (0 < request.retry.attempts.toNat →
        l.attempts.length = request.retry.tries script → l.place = none) ∧
      ∀ n, request.retry.attempts.toNat < n →
        (∀ a ∈ (l.rounds n).attempts, a.before.hasTimers = true) → (l.rounds n).place = none := by
  have scheduled := scheduled_of_pursued pursued working
  have ends : ∀ n, request.retry.attempts.toNat < n →
    (∀ a ∈ (l.rounds n).attempts, a.before.hasTimers = true) →
      (l.rounds n).place = none := fun n many later => rounds_end pursued later many
  by_cases finished : l.place = none
  · have ended := scheduled.1 finished
    have made := (ended.tallies scripted).1
    exact ⟨made.le, ended.steps_scripted scripted, fun _ => made, fun _ _ => finished, ends⟩
  · have ongoing := scheduled.2 finished
    obtain ⟨le, lt⟩ := ongoing.tallies scripted
    exact ⟨le, ongoing.steps_scripted scripted, fun none => absurd none finished, fun some is =>
      absurd is (lt some).ne, ends⟩

def logo : Picture := ⟨2, 1, ⟨#[1, 2, 3, 4, 5, 6, 7, 8]⟩⟩

def ofLogo : ImageRequest := ⟨7, "logo.png", ⟨5, 1500000000⟩⟩

/-- A page on which the logo arrives in the end. -/
def answering : Page :=
  let answers : List FetchOutcome := [.rejected, .status 500, .undecodable, .picture logo]
  { Page.fresh with
    network := (∅ : Std.ExtTreeMap String (List FetchOutcome)).insert ofLogo.path answers }

theorem loading_of_logo : ((Pursuit.begin answering ofLogo).rounds 4).steps =
    [.fetch "logo.png", .wait 1500000000, .fetch "logo.png", .wait 2147483647, .fetch "logo.png",
      .wait 2147483647, .fetch "logo.png", ofLogo.notice logo] := by
  let l := (Pursuit.begin answering ofLogo).rounds 4
  have outcomes : l.attempts.map (·.outcome) = [none, none, none, some logo] := by rfl
  have working : ∀ a ∈ l.attempts, a.before.hasTimers = true :=
    List.all_eq_true.1 (by decide +kernel)
  have scripted (i : Nat) (a : Attempt) (there : l.attempts[i]? = some a) :
      a.outcome = ([none, none, none, some logo] : List (Option Picture))[i]?.join := by
    rw [← outcomes, List.getElem?_map, there]
    rfl
  have loading := loading_of_pursuit (pursued_rounds (.begun answering) 4) working scripted
  have made : l.attempts.length = 4 := congrArg List.length outcomes
  refine loading.2.1.trans ?_
  rw [made]
  rfl

end Loads

end LayeredPage.Proofs
