import LayeredPage.Proofs.Surroundings

/-!
# Frames on a page

A frame asks the scrollers for their movement, clears the canvases, ticks, applies a batch, paints
and hands the batch back. Only the patches of the batch touch nodes, listeners and timers, so a
frame keeps the scene in concert with its page, whether its batch is applied to the end or refused
on the way.
-/

namespace LayeredPage.Proofs

/-! ## What holds again when steps end -/

section Steps

variable {I J : Interface} {ε σ τ α β : Type} {answer : Script.Answerer I ε} {R : σ → ε → Prop}

/-- However these steps end, what held of the state and the surroundings holds again. -/
def Upholds (answer : Script.Answerer I ε) (R : σ → ε → Prop)
    (act : Action (Script I) σ α) : Prop :=
  ∀ s e r s' e', R s e → Script.run answer (act s) e = .ok ((r, s'), e') → R s' e'

lemma run_bind_inv {script : Script I α} {f : α → Script I β} {e e' : ε} {b : β}
    (run : Script.run answer (script >>= f) e = .ok (b, e')) :
    ∃ a e₁, Script.run answer script e = .ok (a, e₁) ∧
      Script.run answer (f a) e₁ = .ok (b, e') := by
  change Script.run answer (script.bind f) e = _ at run
  rw [Script.run_bind] at run
  change (Script.run answer script e).bind _ = _ at run
  cases first : Script.run answer script e with
  | error why =>
    rw [first] at run
    cases run
  | ok p =>
    rw [first] at run
    exact ⟨p.1, p.2, rfl, run⟩

lemma upholds_pure (a : α) : Upholds answer R (pure a : Action (Script I) σ α) := by
  rintro s e r s' e' holds ⟨⟩
  exact holds

lemma upholds_throw (why : PatchError) : Upholds answer R (throw why : Action (Script I) σ α) := by
  rintro s e r s' e' holds ⟨⟩
  exact holds

lemma upholds_modify {f : σ → σ} (all : ∀ s e, R s e → R (f s) e) :
    Upholds answer R (modify f : Action (Script I) σ PUnit) := by
  rintro s e r s' e' holds ⟨⟩
  exact all s e holds

lemma Upholds.bind {act : Action (Script I) σ α} {f : α → Action (Script I) σ β}
    (first : Upholds answer R act)
    (rest : ∀ a, Upholds answer R (f a)) : Upholds answer R (act >>= f) := by
  intro s e r s' e' holds run
  rw [Action.bind_apply] at run
  obtain ⟨⟨r₁, s₁⟩, e₁, before, after⟩ := run_bind_inv run
  have between := first s e r₁ s₁ e₁ holds before
  cases r₁ with
  | ok a => exact rest a s₁ e₁ r s' e' between after
  | error why =>
    cases after
    exact between

/-- Steps may depend on the state. -/
lemma upholds_get_bind {f : σ → Action (Script I) σ β}
    (rest : ∀ s e r s' e', R s e → Script.run answer (f s s) e = .ok ((r, s'), e') → R s' e') :
    Upholds answer R (get >>= f) :=
  fun s e r s' e' holds run => rest s e r s' e' holds run

lemma upholds_script {script : Script I α}
    (all : ∀ s e a e', R s e → Script.run answer script e = .ok (a, e') → R s e') :
    Upholds answer R (liftM script : Action (Script I) σ α) := by
  intro s e r s' e' holds run
  rw [Action.liftM_apply] at run
  obtain ⟨a, e₁, first, rest⟩ := run_bind_inv run
  cases rest
  exact all s e a e' holds first

lemma Upholds.outcome {act : Action (Script I) σ α} (upholds : Upholds answer R act) :
    Upholds answer R (Action.outcome act) := by
  intro s e r s' e' holds run
  have key : Action.outcome act s = act s >>= fun p => pure (.ok p.1, p.2) := rfl
  rw [key] at run
  obtain ⟨⟨r₁, s₁⟩, e₁, first, rest⟩ := run_bind_inv run
  cases rest
  exact upholds _ _ _ _ _ holds first

lemma upholds_forM {xs : List β} {f : β → Action (Script I) σ PUnit}
    (all : ∀ x, Upholds answer R (f x)) :
    Upholds answer R (xs.forM f) := by
  induction xs with
  | nil => exact upholds_pure _
  | cons x xs ih => exact (all x).bind fun _ => ih

/-- What all allowed requests keep is kept by the scripts that use no others. -/
lemma Uses.keeps {allowed : I.Request → Prop} {Q : ε → Prop} {script : Script I α}
    (uses : Uses allowed script)
    (each : ∀ r e reply e', allowed r → Q e → answer r e = .ok (reply, e') → Q e') {e e' : ε}
    {a : α} (holds : Q e) (run : Script.run answer script e = .ok (a, e')) : Q e' := by
  induction script generalizing e with
  | done a =>
    cases run
    exact holds
  | ask r next ih =>
    change (answer r e).bind _ = _ at run
    cases answered : answer r e with
    | error why =>
      rw [answered] at run
      cases run
    | ok p =>
      rw [answered] at run
      exact ih p.1 (uses.2 p.1) (each r e p.1 p.2 uses.1 holds answered) run
  | broken why => cases run

/-- A script embedded in a larger interface is answered as before. -/
lemma run_embed {answer' : Script.Answerer J ε} {m : Script.Embedding I J} (same : ∀ r,
    (do return m.reply r (← answer' (m.request r)) : StateT ε (Except Breach) (I.Reply r)) =
      answer r)
    (script : Script I α) (e : ε) :
    Script.run answer' (script.embed m) e = Script.run answer script e := by
  induction script generalizing e with
  | done a => rfl
  | ask r next ih =>
    change (answer' (m.request r) e).bind _ = (answer r e).bind _
    rw [← same r]
    change _ = ((answer' (m.request r) e).bind _).bind _
    cases answer' (m.request r) e with
    | error why => rfl
    | ok p => exact ih _ _
  | broken why => rfl

end Steps

/-! ## Frames -/

section Frames

variable {g : Ground} {before : Page} {outside : List Registration} {alien : List Nat}
  {s : Scene} {c c' : Chassis} {d d' : BrowserDocument}

lemma Unnoticed.rests (unnoticed : Unnoticed d d') : Rests d d' := by
  obtain ⟨page, rfl, neutral⟩ := unnoticed
  exact rests_of_page neutral.elsewhere

lemma rests_modifyTracker (sampler : SamplerId) (f : ScrollTracker Float → ScrollTracker Float) :
    Rests d (d.modifyTracker sampler f) :=
  ⟨rfl, rfl, map_modify_of_hidden (f := fun k : BrowserSampler => { k with tracker := f k.tracker })
    fun _ => rfl, .refl⟩

/-- A document that is looked at rests. -/
lemma rests_of_looks {r : PatchRequest} {reply : r.Reply} (looks : Looks r)
    (run : BrowserDocument.answerPatch r d = .ok (reply, d')) : Rests d d' := by
  cases r with
  | addContext | removeContext | imageLoaded => exact looks.elim
  | document r =>
    change BrowserDocument.answer r d = _ at run
    cases r with
    | scrollDelta sampler now =>
      obtain rfl : _ = d' := congrArg Prod.snd (Except.ok.inj run)
      dsimp only
      split
      · dsimp only
        exact rests_modifyTracker sampler _
      · exact rests_of_page .refl
    | clearSurface n => exact (unnoticed_of_answer (r := .clearSurface n) trivial run).rests
    | resizeSurface n width height ratio =>
      exact (unnoticed_of_answer (r := .resizeSurface n width height ratio) trivial run).rests
    | surfaceMetrics n =>
      change (BrowserDocument.read n d).bind _ = _ at run
      cases looked : BrowserDocument.read n d with
      | error why =>
        rw [looked] at run
        cases run
      | ok p =>
        rw [looked] at run
        cases run
        rw [browser_read_inv looked]
        exact rests_of_page .refl
    | _ => exact looks.elim

/-- A scene is lodged, as part of a chassis. -/
abbrev Housed (g : Ground) (before : Page) (outside : List Registration) (alien : List Nat)
    (c : Chassis) (d : BrowserDocument) : Prop :=
  Lodged g before outside alien c.scene d

lemma upholds_looks {α : Type} {script : Script Patching α} (uses : Uses Looks script) :
    Upholds BrowserDocument.answerFrame (Housed g before outside alien)
    (liftM (script.embed framePatching) : Chassis.Step α) := by
  refine upholds_script fun c d a d' lodged run => ?_
  rw [run_embed fun r => bind_pure _] at run
  exact uses.keeps (fun r d reply d' looks lodged answered =>
    lodged.rests (rests_of_looks looks answered)) lodged run

lemma upholds_call {r : FrameRequest} (other : ∀ q, r ≠ .patch q) :
    Upholds BrowserDocument.answerFrame (Housed g before outside alien)
    (liftM (call r) : Chassis.Step r.Reply) := by
  refine upholds_script fun c d a d' lodged run => lodged.rests ?_
  have answered : BrowserDocument.answerFrame r d = .ok (a, d') := by
    change (BrowserDocument.answerFrame r d).bind (fun p => .ok (p.1, p.2)) = _ at run
    cases told : BrowserDocument.answerFrame r d with
    | error why =>
      rw [told] at run
      cases run
    | ok p =>
      rw [told] at run
      exact run
  cases r with
  | patch q => exact absurd rfl (other q)
  | tick =>
    obtain rfl : _ = d' := congrArg Prod.snd (Except.ok.inj answered)
    exact rests_of_page (elsewhere_of_elements rfl rfl rfl)
  | _ =>
    obtain rfl : _ = d' := congrArg Prod.snd (Except.ok.inj answered)
    exact rests_of_page (elsewhere_noteCore _)

lemma onScene_inv {α : Type} {act : Work Scene α} {r : Except PatchError α}
    (run : Script.run BrowserDocument.answerFrame (Chassis.onScene act c) d = .ok ((r, c'), d')) :
    ∃ s, Script.run BrowserDocument.answerPatch (act c.scene) d = .ok ((r, s), d') ∧
      c' = { c with scene := s } := by
  have key : Chassis.onScene act c = (act c.scene).embed framePatching >>= fun p =>
      pure (p.1, { c with scene := p.2 }) := rfl
  rw [key] at run
  obtain ⟨⟨r₁, s₁⟩, d₁, first, rest⟩ := run_bind_inv run
  rw [run_embed fun r => bind_pure _] at first
  cases rest
  exact ⟨s₁, first, rfl⟩

lemma upholds_onScene {α : Type} {act : Work Scene α}
    (upholds : Upholds BrowserDocument.answerPatch (Lodged g before outside alien) act) :
    Upholds BrowserDocument.answerFrame (Housed g before outside alien) (Chassis.onScene act) := by
  intro c d r c' d' lodged run
  obtain ⟨s, applied, rfl⟩ := onScene_inv run
  exact upholds _ _ _ _ _ lodged applied

lemma upholds_applyAll (patches : List Patch) :
    Upholds BrowserDocument.answerPatch (Lodged g before outside alien) (Scene.applyAll patches) :=
  upholds_forM fun _ _ _ _ _ _ lodged run => lodged.apply run

lemma upholds_applyBatch [Wording] (bytes : ByteArray) (width height : Float) :
    Upholds BrowserDocument.answerFrame (Housed g before outside alien)
    (Chassis.applyBatch bytes width height) := by
  unfold Chassis.applyBatch
  cases Batch.decode bytes with
  | error why => exact upholds_throw why
  | ok patches =>
    have patching : Upholds BrowserDocument.answerFrame (Housed g before outside alien) (do
        Chassis.onScene (Scene.applyAll patches)
        return patches.length : Chassis.Step Nat) :=
      (upholds_onScene (upholds_applyAll patches)).bind fun _ => upholds_pure _
    refine upholds_get_bind fun c d r c' d' lodged run => ?_
    dsimp only at run
    split at run
    · refine ((upholds_call (r := .viewport width height) fun _ same => by cases same).bind fun _ =>
        ?_) c d r c' d' lodged run
      exact (upholds_modify (f := fun c : Chassis => { c with initialized := true })
        fun _ _ lodged => lodged).bind fun _ => patching
    · exact patching c d r c' d' lodged run

lemma upholds_reportScrolling (now : Float) :
    Upholds BrowserDocument.answerFrame (Housed g before outside alien)
    (Chassis.reportScrolling now) := by
  refine upholds_get_bind fun c d r c' d' lodged run => ?_
  refine ((upholds_looks (uses_scrollDeltas c.scene now)).bind fun deltas => ?_) c
    d r c' d' lodged run
  refine (upholds_forM fun delta => ?_).bind fun _ => upholds_pure _
  exact (upholds_call (r := .interrupt (Interrupt.scroll delta).text none) fun _ same =>
    by cases same).bind fun _ => upholds_pure _

/-- A frame keeps the scene in concert with its page, whatever the batch is and whatever it comes
to. -/
theorem upholds_frame [Wording] (now ratio width height : Float) :
    Upholds BrowserDocument.answerFrame (Housed g before outside alien)
    (Chassis.frame now ratio width height) := by
  unfold Chassis.frame
  refine upholds_get_bind fun first d r c' d' lodged run => ?_
  refine ((upholds_reportScrolling now).bind fun scrolled => ?_) first d r c' d' lodged run
  refine upholds_get_bind fun c d r c' d' lodged run => ?_
  refine ((upholds_looks (uses_clearSurfaces c.scene ratio)).bind fun _ => ?_) c
    d r c' d' lodged run
  refine (upholds_call (r := .tick) fun _ same => by cases same).bind fun span => ?_
  refine (upholds_applyBatch span.bytes width height).outcome.bind fun applied => ?_
  have rendered : Upholds BrowserDocument.answerFrame (Housed g before outside alien)
      (call .render : Chassis.Step Unit) :=
    upholds_call (r := .render) fun _ same => by cases same
  have freed : Upholds BrowserDocument.answerFrame (Housed g before outside alien)
      (call (.deallocate span) : Chassis.Step Unit) :=
    upholds_call (r := .deallocate span) fun _ same => by cases same
  -- What the batch came to decides how the frame ends; the scene decides whether it is drawn first.
  cases applied with
  | ok patches =>
    dsimp only
    split
    · refine rendered.bind fun _ => ?_
      refine freed.bind fun _ => ?_
      exact upholds_pure _
    · exact freed.bind fun _ => upholds_pure _
  | error why =>
    dsimp only
    split
    · refine rendered.bind fun _ => ?_
      refine freed.bind fun _ => ?_
      exact upholds_throw why
    · exact freed.bind fun _ => upholds_throw why

end Frames

end LayeredPage.Proofs
