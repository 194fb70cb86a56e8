import LayeredPage.Error

/-!
# Scripts

A script is a computation that may put requests to its surroundings and go on with their replies.
What it may ask is its interface; who answers is decided when it runs. So the same patching code
drives every page and every core, and what it can do to them is visible in its type.
-/

namespace LayeredPage

/-- Requests, and the kind of reply that each one gets. -/
structure Interface where
  Request : Type
  Reply : Request → Type

inductive Script (I : Interface) (α : Type) where
  | done (a : α)
  | ask (r : I.Request) (next : I.Reply r → Script I α)
  | broken (why : Breach)

namespace Script

variable {I J : Interface} {α β γ ε : Type}

def bind (s : Script I α) (f : α → Script I β) : Script I β :=
  match s with
  | .done a => f a
  | .ask r next => .ask r fun reply => (next reply).bind f
  | .broken why => .broken why

instance : Monad (Script I) where
  pure := .done
  bind := bind

theorem bind_done (s : Script I α) : s.bind .done = s := by
  induction s with
  | done a => rfl
  | ask r next ih => simp only [bind, ih]
  | broken why => rfl

theorem bind_assoc (s : Script I α) (f : α → Script I β) (g : β → Script I γ) :
    (s.bind f).bind g = s.bind fun a => (f a).bind g := by
  induction s with
  | done a => rfl
  | ask r next ih => simp only [bind, ih]
  | broken why => rfl

instance : LawfulMonad (Script I) :=
  LawfulMonad.mk' (Script I) (fun s => bind_done s) (fun _ _ => rfl) bind_assoc

def request (r : I.Request) : Script I (I.Reply r) := .ask r .done

/-- One who answers the requests of an interface, with a state of its own. -/
abbrev Answerer (I : Interface) (ε : Type) := (r : I.Request) → StateT ε (Except Breach) (I.Reply r)

def run (answer : Answerer I ε) : Script I α → StateT ε (Except Breach) α
  | .done a => pure a
  | .ask r next => do (next (← answer r)).run answer
  | .broken why => throw why

theorem run_bind (answer : Answerer I ε) (s : Script I α) (f : α → Script I β) :
    (s.bind f).run answer = (s.run answer >>= fun a => (f a).run answer) := by
  induction s with
  | done a => simp [bind, run]
  | ask r next ih => simp [bind, run, ih]
  | broken why => rfl

/-- Requests of one interface that are requests of a larger one. -/
structure Embedding (I J : Interface) where
  request : I.Request → J.Request
  reply : (r : I.Request) → J.Reply (request r) → I.Reply r

/-- The same script with its requests put to a larger interface. -/
def embed (e : Embedding I J) : Script I α → Script J α
  | .done a => .done a
  | .ask r next => .ask (e.request r) fun reply => (next (e.reply r reply)).embed e
  | .broken why => .broken why

end Script

/-- Does something with a value that is present. -/
def each {m : Type → Type} [Monad m] {α : Type} (value : Option α) (f : α → m Unit) : m Unit :=
  match value with
  | some a => f a
  | none => pure ()

/-- Steps with a state of their own that a patch error may end; the state reached so far stays. -/
abbrev Action (m : Type → Type) (σ : Type) := ExceptT PatchError (StateT σ m)

namespace Action

variable {m : Type → Type} [Monad m] {σ τ α β : Type}

/-- Works on a part of the state. -/
def focus (get : σ → τ) (set : τ → σ → σ) (act : Action m τ α) : Action m σ α :=
  fun s => do
    let (result, t) ← act (get s)
    return (result, set t s)

/-- The outcome of an action as a value. -/
def outcome (act : Action m σ α) : Action m σ (Except PatchError α) :=
  fun s => do
    let (result, s) ← act s
    return (.ok result, s)

/-- Steps in a row go on where the steps before end with a value. -/
theorem bind_apply (act : Action m σ α) (f : α → Action m σ β) (s : σ) :
    (act >>= f) s = (act s : m (Except PatchError α × σ)) >>= fun r =>
      match r.1 with
      | .ok a => f a r.2
      | .error e => pure (.error e, r.2) := by
  change StateT.bind act _ s = _
  unfold StateT.bind
  congr 1
  funext ⟨r, s⟩
  cases r <;> rfl

theorem pure_apply (a : α) (s : σ) : (pure a : Action m σ α) s = pure (.ok a, s) := rfl

variable [LawfulMonad m]

theorem get_apply (s : σ) : (get : Action m σ σ) s = pure (.ok s, s) := pure_bind (s, s) _

theorem modify_apply (f : σ → σ) (s : σ) :
    (modify f : Action m σ Unit) s = pure (.ok (), f s) := pure_bind ((), f s) _

/-- What is asked of the surroundings leaves the state alone. -/
theorem liftM_apply (act : m α) (s : σ) :
    (liftM act : Action m σ α) s = act >>= fun a => pure (.ok a, s) := by
  change (act >>= fun a => pure (a, s)) >>= _ = _
  rw [bind_assoc]
  exact congrArg (act >>= ·) (funext fun a => pure_bind _ _)

end Action

end LayeredPage
