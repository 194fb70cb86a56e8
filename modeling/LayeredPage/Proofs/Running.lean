import Mathlib
import LayeredPage.Memory.Host
import LayeredPage.Widgets.Scene

/-!
# Running patching steps

`Ends` says where a run of patching steps on a document in memory may end: with a value, with a
refusal, or at a broken promise. Each way of putting steps together has its equation here, so a fact
about a run is read off the steps from the last to the first. `Answers` is the same for plain
scripts.
-/

namespace LayeredPage.Proofs

variable {κ : Type} [Core κ] {σ τ α β : Type}

def Answers (script : Script Patching α) (h : MemoryHost κ) (post : α → MemoryHost κ → Prop)
    (breach : Breach → Prop) : Prop :=
  match MemoryHost.serve script h with
  | .ok (a, h) => post a h
  | .error b => breach b

def Ends (act : Work σ α) (s : σ) (h : MemoryHost κ) (post : α → σ → MemoryHost κ → Prop)
    (refused : PatchError → σ → MemoryHost κ → Prop) (breach : Breach → Prop) : Prop :=
  match MemoryHost.patch act s h with
  | .ok ((.ok a, s), h) => post a s h
  | .ok ((.error e, s), h) => refused e s h
  | .error b => breach b

/-- The run ends with a value, whatever happens. -/
abbrev Yields (act : Work σ α) (s : σ) (h : MemoryHost κ)
    (post : α → σ → MemoryHost κ → Prop) : Prop :=
  Ends act s h post (fun _ _ _ => False) (fun _ => False)

section Scripts

variable {h : MemoryHost κ} {breach : Breach → Prop}

theorem serve_bind (script : Script Patching α) (f : α → Script Patching β) :
    MemoryHost.serve (script >>= f) h =
      (MemoryHost.serve script h).bind fun r => MemoryHost.serve (f r.1) r.2 := by
  change MemoryHost.serve (script.bind f) h = _
  unfold MemoryHost.serve
  rw [Script.run_bind]
  rfl

theorem answers_pure (a : α) (post : α → MemoryHost κ → Prop) :
    Answers (pure a : Script Patching α) h post breach ↔ post a h := Iff.rfl

theorem answers_bind (script : Script Patching α) (f : α → Script Patching β)
    (post : β → MemoryHost κ → Prop) :
    Answers (script >>= f) h post breach ↔
      Answers script h (fun a h => Answers (f a) h post breach) breach := by
  unfold Answers
  rw [serve_bind]
  rcases MemoryHost.serve script h with b | ⟨a, h⟩ <;> rfl

lemma serve_ask (r : DocumentRequest) : MemoryHost.serve (ask r) h =
    (MemoryDocument.answer r h.document).bind fun p => .ok (p.1, { h with document := p.2 }) := by
  change ((MemoryDocument.answer r h.document).bind _).bind _ = _
  rcases MemoryDocument.answer r h.document with b | ⟨a, d⟩ <;> rfl

theorem answers_ask (r : DocumentRequest) (post : r.Reply → MemoryHost κ → Prop) :
    Answers (ask r) h post breach ↔
      match MemoryDocument.answer r h.document with
      | .ok (a, d) => post a { h with document := d }
      | .error b => breach b := by
  unfold Answers
  rw [serve_ask]
  rcases MemoryDocument.answer r h.document with b | ⟨a, d⟩ <;> rfl

theorem Answers.mono {script : Script Patching α} {post post' : α → MemoryHost κ → Prop}
    {breach' : Breach → Prop} (run : Answers script h post breach)
    (hp : ∀ a h, post a h → post' a h) (hb : ∀ b, breach b → breach' b) :
    Answers script h post' breach' := by
  unfold Answers at run ⊢
  revert run
  rcases MemoryHost.serve script h with b | ⟨a, h⟩
  · exact hb b
  · exact hp a h

end Scripts

section Steps

variable {s : σ} {h : MemoryHost κ} {refused : PatchError → σ → MemoryHost κ → Prop}
  {breach : Breach → Prop}

/-- Steps are a script that ends with an outcome and a state. -/
theorem answers_work (act : Work σ α) (post : Except PatchError α × σ → MemoryHost κ → Prop) :
    Answers (act s) h post breach ↔
      Ends act s h (fun a s => post (.ok a, s)) (fun e s => post (.error e, s)) breach := by
  unfold Answers Ends MemoryHost.patch
  rcases MemoryHost.serve (act s) h with b | ⟨⟨e | a, s⟩, h⟩ <;> rfl

theorem Ends.mono {act : Work σ α} {post post' : α → σ → MemoryHost κ → Prop}
    {refused' : PatchError → σ → MemoryHost κ → Prop} {breach' : Breach → Prop}
    (run : Ends act s h post refused breach) (hp : ∀ a s h, post a s h → post' a s h)
    (hr : ∀ e s h, refused e s h → refused' e s h) (hb : ∀ b, breach b → breach' b) :
    Ends act s h post' refused' breach' := by
  unfold Ends at run ⊢
  revert run
  rcases MemoryHost.patch act s h with b | ⟨⟨e | a, s⟩, h⟩
  · exact hb b
  · exact hr e s h
  · exact hp a s h

/-- What always ends with a value fits wherever its value does. -/
theorem Yields.ends {act : Work σ α} {post post' : α → σ → MemoryHost κ → Prop}
    (run : Yields act s h post) (hp : ∀ a s h, post a s h → post' a s h) :
    Ends act s h post' refused breach :=
  run.mono hp (fun _ _ _ => False.elim) (fun _ => False.elim)

/-- Two accounts of the same run. -/
theorem Ends.and {act : Work σ α} {post post' : α → σ → MemoryHost κ → Prop}
    {refused' : PatchError → σ → MemoryHost κ → Prop} {breach' : Breach → Prop}
    (run : Ends act s h post refused breach) (run' : Ends act s h post' refused' breach') :
    Ends act s h (fun a s h => post a s h ∧ post' a s h)
    (fun e s h => refused e s h ∧ refused' e s h)
      fun b => breach b ∧ breach' b := by
  unfold Ends at run run' ⊢
  revert run run'
  rcases MemoryHost.patch act s h with b | ⟨⟨e | a, s⟩, h⟩
  · exact fun one two => ⟨one, two⟩
  · exact fun one two => ⟨one, two⟩
  · exact fun one two => ⟨one, two⟩

theorem Yields.and {act : Work σ α} {post post' : α → σ → MemoryHost κ → Prop}
    (run : Yields act s h post)
    (run' : Yields act s h post') : Yields act s h fun a s h => post a s h ∧ post' a s h :=
  (Ends.and run run').mono (fun _ _ _ both => both) (fun _ _ _ no => no.1) fun _ no => no.1

theorem ends_get (post : σ → σ → MemoryHost κ → Prop) :
    Ends (get : Work σ σ) s h post refused breach ↔ post s s h := Iff.rfl

theorem ends_modify (f : σ → σ) (post : PUnit → σ → MemoryHost κ → Prop) :
    Ends (modify f : Work σ PUnit) s h post refused breach ↔ post ⟨⟩ (f s) h := Iff.rfl

theorem patch_bind (act : Work σ α) (f : α → Work σ β) :
    MemoryHost.patch (act >>= f) s h = (MemoryHost.patch act s h).bind fun r =>
      match r with
      | ((.ok a, s), h) => MemoryHost.patch (f a) s h
      | ((.error e, s), h) => .ok ((.error e, s), h) := by
  unfold MemoryHost.patch
  rw [Action.bind_apply, serve_bind]
  congr 1
  funext ⟨⟨r, s⟩, h⟩
  cases r <;> rfl

theorem ends_bind (act : Work σ α) (f : α → Work σ β) (post : β → σ → MemoryHost κ → Prop) :
    Ends (act >>= f) s h post refused breach ↔
      Ends act s h (fun a s h => Ends (f a) s h post refused breach) refused breach := by
  unfold Ends
  rw [patch_bind]
  rcases MemoryHost.patch act s h with b | ⟨⟨a | a, s⟩, h⟩ <;> rfl

lemma patch_script (script : Script Patching α) : MemoryHost.patch (liftM script : Work σ α) s h =
    (MemoryHost.serve script h).bind fun r => .ok ((.ok r.1, s), r.2) := by
  unfold MemoryHost.patch
  rw [Action.liftM_apply]
  exact serve_bind ..

theorem ends_script (script : Script Patching α) (post : α → σ → MemoryHost κ → Prop) :
    Ends (liftM script : Work σ α) s h post refused breach ↔
      Answers script h (fun a h => post a s h) breach := by
  unfold Ends Answers
  rw [patch_script]
  rcases MemoryHost.serve script h with b | ⟨a, h⟩ <;> rfl

theorem ends_ask (r : DocumentRequest) (post : r.Reply → σ → MemoryHost κ → Prop) :
    Ends (liftM (ask r) : Work σ r.Reply) s h post refused breach ↔
      match MemoryDocument.answer r h.document with
      | .ok (a, d) => post a s { h with document := d }
      | .error b => breach b := by
  rw [ends_script, answers_ask]

lemma patch_focus {get : σ → τ} {set : τ → σ → σ} (act : Work τ α) :
    MemoryHost.patch (Action.focus get set act) s h =
      (MemoryHost.patch act (get s) h).bind fun r => .ok ((r.1.1, set r.1.2 s), r.2) := by
  exact serve_bind ..

theorem ends_focus {get : σ → τ} {set : τ → σ → σ} (act : Work τ α)
    (post : α → σ → MemoryHost κ → Prop) :
    Ends (Action.focus get set act) s h post refused breach ↔
      Ends act (get s) h (fun a t h => post a (set t s) h) (fun e t h => refused e (set t s) h)
        breach := by
  unfold Ends
  rw [patch_focus]
  rcases MemoryHost.patch act (get s) h with b | ⟨⟨e | a, t⟩, h⟩ <;> rfl

theorem ends_onPools {s : Stage} (act : Work NodePools α) (post : α → Stage → MemoryHost κ → Prop)
    (refused : PatchError → Stage → MemoryHost κ → Prop) :
    Ends (Stage.onPools act) s h post refused breach ↔
      Ends act s.pools h (fun a pools h => post a { s with pools } h)
        (fun e pools h => refused e { s with pools } h) breach := by
  unfold Stage.onPools Stage.onWorkshop Workshop.onPools
  rw [ends_focus, ends_focus]

theorem ends_onStage {s : Scene} (act : Work Stage α) (post : α → Scene → MemoryHost κ → Prop)
    (refused : PatchError → Scene → MemoryHost κ → Prop) :
    Ends (Scene.onStage act) s h post refused breach ↔
      Ends act s.toStage h (fun a stage h => post a { s with toStage := stage } h)
        (fun e stage h => refused e { s with toStage := stage } h) breach :=
  ends_focus act post

lemma patch_atBench {s : Scene} (e : Element) (craft : Craft Unit) :
    MemoryHost.patch (Scene.atBench e craft) s h =
      (MemoryHost.patch (Bench.carryOut craft) ⟨s.pools, s.fonts, e⟩ h).bind fun r =>
        .ok ((.ok (r.1.1, r.1.2.element), { s with pools := r.1.2.pools, fonts := r.1.2.fonts }),
          r.2) := by
  exact serve_bind ..

theorem ends_atBench {s : Scene} (e : Element) (craft : Craft Unit)
    (post : Except PatchError Unit × Element → Scene → MemoryHost κ → Prop)
    (refused : PatchError → Scene → MemoryHost κ → Prop) :
    Ends (Scene.atBench e craft) s h post refused breach ↔
      Ends (Bench.carryOut craft) ⟨s.pools, s.fonts, e⟩ h
        (fun _ b h => post (.ok (), b.element) { s with pools := b.pools, fonts := b.fonts } h)
        (fun why b h =>
          post (.error why, b.element) { s with pools := b.pools, fonts := b.fonts } h) breach := by
  unfold Ends
  rw [patch_atBench]
  rcases MemoryHost.patch (Bench.carryOut craft)
    ⟨s.pools, s.fonts, e⟩ h with b | ⟨⟨e | a, t⟩, h⟩ <;> rfl

lemma patch_outcome (act : Work σ α) : MemoryHost.patch (Action.outcome act) s h =
    (MemoryHost.patch act s h).bind fun r => .ok ((.ok r.1.1, r.1.2), r.2) := by
  exact serve_bind ..

theorem ends_outcome (act : Work σ α) (post : Except PatchError α → σ → MemoryHost κ → Prop) :
    Ends (Action.outcome act) s h post refused breach ↔
      Ends act s h (fun a => post (.ok a)) (fun e => post (.error e)) breach := by
  unfold Ends
  rw [patch_outcome]
  rcases MemoryHost.patch act s h with b | ⟨⟨e | a, s⟩, h⟩ <;> rfl

end Steps

end LayeredPage.Proofs
