import LayeredPage.Frame.Chassis
import LayeredPage.Proofs.Manners

/-!
# Paths through scripts

A path through a script is what may be exchanged on the way to one of its results. Whoever answers a
script, a run takes one of its paths: `noting` keeps the exchanges of a run, and `path_of_noted`
says that they are a path. So a fact about all paths holds for all surroundings.
-/

namespace LayeredPage.Proofs

/-- A request with the reply that it got. -/
abbrev Exchange (I : Interface) := (r : I.Request) × I.Reply r

section Scripts

variable {I J : Interface} {α β ε : Type} {a : α} {b : β} {log log' : List (Exchange I)}

/-- The exchanges on the way to a result, whatever the replies are. -/
inductive Path : Script I α → List (Exchange I) → α → Prop where
  | done (a : α) : Path (.done a) [] a
  | ask {r : I.Request} {next : I.Reply r → Script I α} {reply : I.Reply r}
    {log : List (Exchange I)} {a : α} :
      Path (next reply) log a → Path (.ask r next) (⟨r, reply⟩ :: log) a

lemma path_pure {a' : α} : Path (pure a : Script I α) log a' ↔ log = [] ∧ a' = a := by
  constructor
  · rintro ⟨⟩
    exact ⟨rfl, rfl⟩
  · rintro ⟨rfl, rfl⟩
    exact .done a'

lemma path_request {r : I.Request} {reply : I.Reply r} :
    Path (Script.request r) log reply ↔ log = [⟨r, reply⟩] := by
  constructor
  · rintro ⟨⟩
    rename_i rest
    cases rest
    rfl
  · rintro rfl
    exact .ask (.done reply)

lemma path_bind {script : Script I α} {f : α → Script I β} :
    Path (script >>= f) log b ↔ ∃ before a after, Path script before a ∧ Path (f a) after b ∧
      log = before ++ after := by
  constructor
  · intro path
    induction script generalizing log with
    | done a => exact ⟨[], a, log, .done a, path, rfl⟩
    | ask r next ih =>
      cases path with
      | @ask _ _ reply log _ rest =>
        obtain ⟨before, a, after, first, second, rfl⟩ := ih reply rest
        exact ⟨⟨r, reply⟩ :: before, a, after, .ask first, second, rfl⟩
    | broken why => cases path
  · rintro ⟨before, a, after, first, second, rfl⟩
    induction first with
    | done a => exact second
    | ask _ ih => exact .ask (ih second)

/-- Answers like another, and keeps the exchanges. -/
def noting (answer : Script.Answerer I ε) : Script.Answerer I (ε × List (Exchange I)) :=
  fun r e => (answer r e.1).map fun p => (p.1, (p.2, e.2 ++ [⟨r, p.1⟩]))

lemma run_noting_ask {answer : Script.Answerer I ε} {r : I.Request}
    {next : I.Reply r → Script I α} {e : ε} :
    Script.run (noting answer) (.ask r next) (e, log) =
      (answer r e).bind fun p =>
        Script.run (noting answer) (next p.1) (p.2, log ++ [⟨r, p.1⟩]) := by
  change ((answer r e).map _).bind _ = _
  rcases answer r e with why | ⟨reply, e'⟩ <;> rfl

/-- What a run keeps is a path. -/
theorem path_of_noted {answer : Script.Answerer I ε} {script : Script I α} {e e' : ε}
    (run : Script.run (noting answer) script (e, log) = .ok (a, (e', log'))) :
    ∃ added, log' = log ++ added ∧ Path script added a := by
  induction script generalizing e log with
  | done a =>
    cases run
    exact ⟨[], (List.append_nil _).symm, .done a⟩
  | ask r next ih =>
    rw [run_noting_ask] at run
    cases answered : answer r e with
    | error why =>
      rw [answered] at run
      cases run
    | ok p =>
      rw [answered] at run
      obtain ⟨added, rfl, path⟩ := ih p.1 run
      exact ⟨⟨r, p.1⟩ :: added, by rw [List.append_assoc]; rfl, .ask path⟩
  | broken why => cases run

/-- Keeping the exchanges changes nothing else about a run. -/
theorem exists_noted {answer : Script.Answerer I ε} {script : Script I α} {e e' : ε}
    (run : Script.run answer script e = .ok (a, e')) (log : List (Exchange I)) :
    ∃ added, Script.run (noting answer) script (e, log) = .ok (a, (e', log ++ added)) := by
  induction script generalizing e log with
  | done a =>
    cases run
    exact ⟨[], by rw [List.append_nil]; rfl⟩
  | ask r next ih =>
    change (answer r e).bind _ = _ at run
    rw [run_noting_ask]
    cases answered : answer r e with
    | error why =>
      rw [answered] at run
      cases run
    | ok p =>
      rw [answered] at run
      obtain ⟨added, noted⟩ := ih p.1 run (log ++ [⟨r, p.1⟩])
      exact ⟨⟨r, p.1⟩ :: added, by rw [List.append_assoc] at noted; exact noted⟩
  | broken why => cases run

end Scripts

/-! ## Steps with a state -/

section Steps

variable {I : Interface} {σ τ α β : Type} {log : List (Exchange I)} {s s' : σ}
  {r : Except PatchError α}

/-- The steps may exchange this on the way to an outcome and a state. -/
def Does (act : Action (Script I) σ α) (s : σ) (log : List (Exchange I))
    (r : Except PatchError α) (s' : σ) : Prop :=
  Path (act s) log (r, s')

lemma does_pure {a : α} :
    Does (pure a : Action (Script I) σ α) s log r s' ↔ log = [] ∧ r = .ok a ∧ s' = s := by
  refine Iff.trans path_pure (and_congr_right fun _ => ?_)
  rw [Prod.mk.injEq]

lemma does_throw {e : PatchError} :
    Does (throw e : Action (Script I) σ α) s log r s' ↔ log = [] ∧ r = .error e ∧ s' = s := by
  refine Iff.trans path_pure (and_congr_right fun _ => ?_)
  rw [Prod.mk.injEq]

lemma does_get {r : Except PatchError σ} :
    Does (get : Action (Script I) σ σ) s log r s' ↔ log = [] ∧ r = .ok s ∧ s' = s := by
  refine Iff.trans path_pure (and_congr_right fun _ => ?_)
  rw [Prod.mk.injEq]

lemma does_modify {f : σ → σ} {r : Except PatchError PUnit} :
    Does (modify f : Action (Script I) σ PUnit) s log r s' ↔ log = [] ∧ r = .ok ⟨⟩ ∧ s' = f s := by
  refine Iff.trans path_pure (and_congr_right fun _ => ?_)
  rw [Prod.mk.injEq]

/-- Steps go on where the steps before end with a value; a refusal ends them all. -/
lemma does_bind {act : Action (Script I) σ α} {f : α → Action (Script I) σ β}
    {r : Except PatchError β} :
    Does (act >>= f) s log r s' ↔
      (∃ before a s₁ after, Does act s before (.ok a) s₁ ∧ Does (f a) s₁ after r s' ∧
        log = before ++ after) ∨
        ∃ e, Does act s log (.error e) s' ∧ r = .error e := by
  unfold Does
  rw [Action.bind_apply, path_bind]
  constructor
  · rintro ⟨before, ⟨e | a, s₁⟩, after, first, second, rfl⟩
    · obtain ⟨rfl, same⟩ := path_pure.1 second
      cases same
      exact .inr ⟨e, by rwa [List.append_nil], rfl⟩
    · exact .inl ⟨before, a, s₁, after, first, second, rfl⟩
  · rintro (⟨before, a, s₁, after, first, second, rfl⟩ | ⟨e, first, rfl⟩)
    · exact ⟨before, (.ok a, s₁), after, first, second, rfl⟩
    · exact ⟨log, (.error e, s'), [], first, path_pure.2 ⟨rfl, rfl⟩, (List.append_nil _).symm⟩

lemma does_script {script : Script I α} :
    Does (liftM script : Action (Script I) σ α) s log r s' ↔ ∃ a, Path script log a ∧
      r = .ok a ∧ s' = s := by
  unfold Does
  rw [Action.liftM_apply, path_bind]
  constructor
  · rintro ⟨before, a, after, path, done, rfl⟩
    obtain ⟨rfl, same⟩ := path_pure.1 done
    cases same
    exact ⟨a, by rwa [List.append_nil], rfl, rfl⟩
  · rintro ⟨a, path, rfl, rfl⟩
    exact ⟨log, a, [], path, path_pure.2 ⟨rfl, rfl⟩, (List.append_nil _).symm⟩

lemma does_script_bind {script : Script I α} {f : α → Action (Script I) σ β}
    {r : Except PatchError β} :
    Does (liftM script >>= f) s log r s' ↔ ∃ before a after, Path script before a ∧
      Does (f a) s after r s' ∧ log = before ++ after := by
  refine does_bind.trans ⟨?_, ?_⟩
  · rintro (⟨before, a, s₁, after, first, second, rfl⟩ | ⟨e, first, _⟩)
    · obtain ⟨_, path, same, rfl⟩ := does_script.1 first
      cases same
      exact ⟨before, a, after, path, second, rfl⟩
    · obtain ⟨_, _, same, _⟩ := does_script.1 first
      cases same
  · rintro ⟨before, a, after, path, second, rfl⟩
    exact .inl ⟨before, a, s, after, does_script.2 ⟨a, path, rfl, rfl⟩, second, rfl⟩

lemma does_get_bind {f : σ → Action (Script I) σ α} :
    Does (get >>= f) s log r s' ↔ Does (f s) s log r s' := by
  refine does_bind.trans
    ⟨?_, fun second => .inl ⟨[], s, s, log, does_get.2 ⟨rfl, rfl, rfl⟩, second, rfl⟩⟩
  rintro (⟨before, a, s₁, after, first, second, rfl⟩ | ⟨e, first, _⟩)
  · obtain ⟨rfl, same, rfl⟩ := does_get.1 first
    cases same
    exact second
  · obtain ⟨_, same, _⟩ := does_get.1 first
    cases same

lemma does_outcome {act : Action (Script I) σ α} {r : Except PatchError (Except PatchError α)} :
    Does (Action.outcome act) s log r s' ↔ ∃ inner, Does act s log inner s' ∧ r = .ok inner := by
  have key : (Action.outcome act) s = act s >>= fun p => pure (.ok p.1, p.2) := rfl
  unfold Does
  rw [key, path_bind]
  constructor
  · rintro ⟨before, ⟨inner, s₁⟩, after, path, done, rfl⟩
    obtain ⟨rfl, same⟩ := path_pure.1 done
    cases same
    exact ⟨inner, by rwa [List.append_nil], rfl⟩
  · rintro ⟨inner, path, rfl⟩
    exact ⟨log, (inner, s'), [], path, path_pure.2 ⟨rfl, rfl⟩, (List.append_nil _).symm⟩

end Steps

end LayeredPage.Proofs
