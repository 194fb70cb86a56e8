import LayeredPage.Proofs.Paths

/-!
# Runs that come to no result

A run may break off: its script gives up, or one of its requests gets no reply. `spoken` is what was
exchanged until then, with the request that was left open. `Breaks` says after which exchanges a
script may stop, whoever answers, as `Path` says which of them lead to a result.
-/

namespace LayeredPage.Proofs

section Scripts

variable {I : Interface} {α β ε : Type} {log : List (Exchange I)} {last : Option I.Request}

/-- The exchanges of a run, and the request that got no reply, if there is one. -/
def spoken (answer : Script.Answerer I ε) : Script I α → ε → List (Exchange I) × Option I.Request
  | .done _, _ => ([], none)
  | .ask r next, e =>
    match answer r e with
    | .ok (reply, e) =>
      let (log, last) := spoken answer (next reply) e
      (⟨r, reply⟩ :: log, last)
    | .error _ => ([], some r)
  | .broken _, _ => ([], none)

/-- The exchanges up to where a script gives up, or to a request that gets no reply. -/
inductive Breaks : Script I α → List (Exchange I) → Option I.Request → Prop where
  | broken (why : Breach) : Breaks (.broken why) [] none
  | unanswered (r : I.Request) (next : I.Reply r → Script I α) : Breaks (.ask r next) [] (some r)
  | ask {r : I.Request} {next : I.Reply r → Script I α} {reply : I.Reply r}
    {log : List (Exchange I)} {last : Option I.Request} :
      Breaks (next reply) log last →
      Breaks (.ask r next) (⟨r, reply⟩ :: log) last

/-- A run that comes to no result breaks off after what was spoken. -/
theorem breaks_of_run {answer : Script.Answerer I ε} {script : Script I α} {e : ε} {why : Breach}
    (run : Script.run answer script e = .error why) :
    Breaks script (spoken answer script e).1 (spoken answer script e).2 := by
  induction script generalizing e with
  | done a => cases run
  | ask r next ih =>
    change (answer r e).bind _ = _ at run
    unfold spoken
    cases answered : answer r e with
    | error b => exact .unanswered r next
    | ok p =>
      rw [answered] at run
      exact .ask (ih p.1 run)
  | broken b => exact .broken b

/-- A request is left open where whoever answers breaks off, for the same cause. -/
lemma unanswered_of_spoken {answer : Script.Answerer I ε} {script : Script I α} {e : ε}
    {why : Breach} {r : I.Request}
    (run : Script.run answer script e = .error why) (left : (spoken answer script e).2 = some r) :
    ∃ e', answer r e' = .error why := by
  induction script generalizing e with
  | done a => cases run
  | ask r' next ih =>
    change (answer r' e).bind _ = _ at run
    unfold spoken at left
    cases answered : answer r' e with
    | error b =>
      rw [answered] at run left
      cases run
      cases left
      exact ⟨e, answered⟩
    | ok p =>
      rw [answered] at run left
      exact ih p.1 run left
  | broken b => cases left

lemma not_breaks_pure {a : α} : ¬Breaks (pure a : Script I α) log last := by
  rintro ⟨⟩

lemma breaks_request {r : I.Request} :
    Breaks (Script.request r) log last ↔ log = [] ∧ last = some r := by
  constructor
  · rintro (_ | _ | ⟨⟨⟩⟩)
    exact ⟨rfl, rfl⟩
  · rintro ⟨rfl, rfl⟩
    exact .unanswered r .done

/-- Of two scripts in a row the first breaks, or it comes to a result and the second breaks. -/
lemma breaks_bind {script : Script I α} {f : α → Script I β} : Breaks (script >>= f) log last ↔
    Breaks script log last ∨
      ∃ before a after, Path script before a ∧ Breaks (f a) after last ∧ log = before ++ after := by
  constructor
  · intro breaks
    induction script generalizing log with
    | done a => exact .inr ⟨[], a, log, .done a, breaks, rfl⟩
    | ask r next ih =>
      cases breaks with
      | unanswered => exact .inl (.unanswered r next)
      | @ask _ _ reply log _ rest =>
        obtain first | ⟨before, a, after, first, second, rfl⟩ := ih reply rest
        · exact .inl (.ask first)
        · exact .inr ⟨⟨r, reply⟩ :: before, a, after, .ask first, second, rfl⟩
    | broken why =>
      cases breaks
      exact .inl (.broken why)
  · rintro (first | ⟨before, a, after, first, second, rfl⟩)
    · induction first with
      | broken why => exact .broken why
      | unanswered r next => exact .unanswered r fun reply => (next reply).bind f
      | ask _ ih => exact .ask ih
    · induction first with
      | done a => exact second
      | ask _ ih => exact .ask (ih second)

/-- A script that never gives up breaks at one of its requests. -/
lemma Uses.breaks {allowed : I.Request → Prop} {script : Script I α} (uses : Uses allowed script)
    (breaks : Breaks script log last) : ∃ r, last = some r ∧ allowed r := by
  induction breaks with
  | broken why => exact uses.elim
  | unanswered r next => exact ⟨r, rfl, uses.1⟩
  | ask _ ih => exact ih (uses.2 _)

end Scripts

/-! ## Steps with a state -/

section Steps

variable {I : Interface} {σ α β : Type} {log : List (Exchange I)} {last : Option I.Request} {s : σ}

/-- The steps may stop after this. -/
def Halts (act : Action (Script I) σ α) (s : σ) (log : List (Exchange I))
    (last : Option I.Request) : Prop :=
  Breaks (act s) log last

lemma not_halts_pure {a : α} : ¬Halts (pure a : Action (Script I) σ α) s log last := not_breaks_pure

lemma not_halts_throw {e : PatchError} : ¬Halts (throw e : Action (Script I) σ α) s log last :=
  not_breaks_pure

lemma not_halts_modify {f : σ → σ} : ¬Halts (modify f : Action (Script I) σ PUnit) s log last :=
  not_breaks_pure

/-- Of two steps in a row the first breaks, or it ends with a value and the second breaks. -/
lemma halts_bind {act : Action (Script I) σ α} {f : α → Action (Script I) σ β} :
    Halts (act >>= f) s log last ↔
    Halts act s log last ∨
      ∃ before a s₁ after, Does act s before (.ok a) s₁ ∧ Halts (f a) s₁ after last ∧
        log = before ++ after := by
  unfold Halts Does
  rw [Action.bind_apply, breaks_bind]
  refine or_congr_right ⟨?_, ?_⟩
  · rintro ⟨before, ⟨e | a, s₁⟩, after, first, second, rfl⟩
    · exact absurd second not_breaks_pure
    · exact ⟨before, a, s₁, after, first, second, rfl⟩
  · rintro ⟨before, a, s₁, after, first, second, rfl⟩
    exact ⟨before, (.ok a, s₁), after, first, second, rfl⟩

lemma halts_get_bind {f : σ → Action (Script I) σ α} :
    Halts (get >>= f) s log last ↔ Halts (f s) s log last := by
  refine halts_bind.trans
    ⟨?_, fun second => .inr ⟨[], s, s, log, does_get.2 ⟨rfl, rfl, rfl⟩, second, rfl⟩⟩
  rintro (first | ⟨before, a, s₁, after, first, second, rfl⟩)
  · exact absurd first not_breaks_pure
  · obtain ⟨rfl, same, rfl⟩ := does_get.1 first
    cases same
    exact second

lemma halts_script {script : Script I α} :
    Halts (liftM script : Action (Script I) σ α) s log last ↔ Breaks script log last := by
  unfold Halts
  rw [Action.liftM_apply, breaks_bind]
  exact or_iff_left fun ⟨_, _, _, _, done, _⟩ => not_breaks_pure done

lemma halts_script_bind {script : Script I α} {f : α → Action (Script I) σ β} :
    Halts (liftM script >>= f) s log last ↔ Breaks script log last ∨
      ∃ before a after, Path script before a ∧ Halts (f a) s after last ∧
        log = before ++ after := by
  rw [halts_bind, halts_script]
  refine or_congr_right ⟨?_, ?_⟩
  · rintro ⟨before, a, s₁, after, first, second, rfl⟩
    obtain ⟨_, path, same, rfl⟩ := does_script.1 first
    cases same
    exact ⟨before, a, after, path, second, rfl⟩
  · rintro ⟨before, a, after, path, second, rfl⟩
    exact ⟨before, a, s, after, does_script.2 ⟨a, path, rfl, rfl⟩, second, rfl⟩

lemma halts_outcome {act : Action (Script I) σ α} :
    Halts (Action.outcome act) s log last ↔ Halts act s log last := by
  have key : (Action.outcome act) s = act s >>= fun p => pure (.ok p.1, p.2) := rfl
  unfold Halts
  rw [key, breaks_bind]
  exact or_iff_left fun ⟨_, _, _, _, done, _⟩ => not_breaks_pure done

end Steps

end LayeredPage.Proofs
