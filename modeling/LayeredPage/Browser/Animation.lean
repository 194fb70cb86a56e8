/-!
# Animation loops

A loop runs a callback once per animation frame until the callback declines, or until it is stopped.
Each start makes a callback of its own, which takes the place of the one before; a frame that is
delivered to a callback that has been replaced does nothing. A delivery is `begin`, then the
callback's work, in which the loop may be stopped and started, then `finish`.
-/

namespace LayeredPage

/-- A frame that was asked for. -/
structure FrameTicket where
  id : Nat
  /-- The callback that it is for. -/
  callback : Nat
deriving DecidableEq, Repr

inductive FrameCall where
  | request (id : Nat)
  | cancel (id : Nat)
deriving DecidableEq, Repr

structure Animation where
  /-- Frames asked for and not yet delivered, in order. -/
  pending : List FrameTicket
  requested : Nat
  running : Bool
  /-- The id of the latest request. -/
  latest : Nat
  /-- Callbacks made so far. -/
  callbacks : Nat
  /-- The callback in place. -/
  callback : Option Nat
  /-- Frames that ran the callback. -/
  frames : Nat
deriving DecidableEq, Repr

namespace Animation

/-- Text of the loop in diagnostics. -/
def describe (a : Animation) : String :=
  "RafLoop \x7b running: " ++ toString a.running ++ ", frame_counter: " ++ toString a.frames ++
    ", .. \x7d"

def idle : Animation := ⟨[], 0, false, 0, 0, none, 0⟩

/-- Asks for a frame for a callback. -/
def request (a : Animation) (callback : Nat) : List FrameCall × Animation :=
  let id := a.requested + 1
  ([.request id],
    { a with pending := a.pending ++ [⟨id, callback⟩], requested := id, latest := id })

def cancel (a : Animation) (id : Nat) : List FrameCall × Animation :=
  ([.cancel id], { a with pending := a.pending.filter fun t => t.id != id })

/-- Starts the loop unless it runs. -/
def start (a : Animation) : List FrameCall × Animation :=
  if a.running then ([], a)
  else
    let callback := a.callbacks + 1
    { a with running := true, callbacks := callback, callback := some callback }.request callback

/-- Stops the loop and takes its latest request back. -/
def stop (a : Animation) : List FrameCall × Animation :=
  if a.running then { a with running := false }.cancel a.latest else ([], a)

/-- Stops the loop for good. -/
def drop (a : Animation) : List FrameCall × Animation :=
  let (calls, a) := a.stop
  (calls, { a with callback := none })

/-- Delivers a frame; tells whether the callback is to run. -/
def begin (a : Animation) (t : FrameTicket) : Bool × Animation :=
  if a.pending.contains t then
    let a := { a with pending := a.pending.erase t }
    if a.callback == some t.callback && a.running then (true, { a with frames := a.frames + 1 })
    else (false, a)
  else (false, a)

/-- Goes on after the callback has run; `goOn` is its answer. -/
def finish (a : Animation) (goOn : Bool) : List FrameCall × Animation :=
  if !goOn then ([], { a with running := false })
  else
    match a.running, a.callback with
    | true, some callback => a.request callback
    | _, _ => ([], a)

end Animation

end LayeredPage
