import LayeredPage.Proofs.Asking

/-!
# Two runs in lockstep

`Sync` says that two runs of steps, each on its own host, end alike: both with values, both with the
same refusal, or both at the same broken promise; and how their ends are related. It is read off the
steps as `Ends` is.
-/

namespace LayeredPage.Proofs

variable {κ : Type} [Core κ] {σ τ α α' β β' : Type}

def Sync (act : Work σ α) (act' : Work σ α') (s : σ) (h : MemoryHost κ) (s' : σ) (h' : MemoryHost κ)
    (post : α → σ → MemoryHost κ → α' → σ → MemoryHost κ → Prop)
    (refused : PatchError → σ → MemoryHost κ → σ → MemoryHost κ → Prop) : Prop :=
  Ends act s h
    (fun a s₁ h₁ => ∃ a' s₁' h₁', MemoryHost.patch act' s' h' = .ok ((.ok a', s₁'), h₁') ∧
      post a s₁ h₁ a' s₁' h₁')
    (fun e s₁ h₁ => ∃ s₁' h₁', MemoryHost.patch act' s' h' = .ok ((.error e, s₁'), h₁') ∧
      refused e s₁ h₁ s₁' h₁')
    (fun b => MemoryHost.patch act' s' h' = .error b)

section Steps

variable {s s' : σ} {h h' : MemoryHost κ}
  {post post₁ : α → σ → MemoryHost κ → α' → σ → MemoryHost κ → Prop}
  {refused refused₁ : PatchError → σ → MemoryHost κ → σ → MemoryHost κ → Prop}

theorem Sync.mono {act : Work σ α} {act' : Work σ α'} (run : Sync act act' s h s' h' post refused)
    (hp : ∀ a s h a' s' h', post a s h a' s' h' → post₁ a s h a' s' h')
    (hr : ∀ e s h s' h', refused e s h s' h' → refused₁ e s h s' h') :
    Sync act act' s h s' h' post₁ refused₁ := by
  refine Ends.mono run ?_ ?_ fun _ same => same
  · rintro a s₁ h₁ ⟨a', s₁', h₁', run', kept⟩
    exact ⟨a', s₁', h₁', run', hp _ _ _ _ _ _ kept⟩
  · rintro e s₁ h₁ ⟨s₁', h₁', run', kept⟩
    exact ⟨s₁', h₁', run', hr _ _ _ _ _ kept⟩

/-- What is known of the first run alone may be used as well. -/
theorem Sync.with {act : Work σ α} {act' : Work σ α'} {alone : α → σ → MemoryHost κ → Prop}
    {blamed : PatchError → σ → MemoryHost κ → Prop} {breach : Breach → Prop}
    (run : Sync act act' s h s' h' post refused) (first : Ends act s h alone blamed breach) :
    Sync act act' s h s' h' (fun a s h a' s' h' => alone a s h ∧ post a s h a' s' h')
      (fun e s h s' h' => blamed e s h ∧ refused e s h s' h') := by
  unfold Sync Ends at run ⊢
  unfold Ends at first
  revert run first
  rcases MemoryHost.patch act s h with b | ⟨⟨e | a, s⟩, h⟩
  · exact fun same _ => same
  · exact fun ⟨s₁', h₁', run', kept⟩ known => ⟨s₁', h₁', run', known, kept⟩
  · exact fun ⟨a', s₁', h₁', run', kept⟩ known => ⟨a', s₁', h₁', run', known, kept⟩

/-- Two runs that both give values, whatever they are. -/
theorem sync_of_yields {act : Work σ α} {act' : Work σ α'} {first : α → σ → MemoryHost κ → Prop}
    {second : α' → σ → MemoryHost κ → Prop} (run : Yields act s h first)
    (run' : Yields act' s' h' second)
    (kept : ∀ a s h a' s' h', first a s h → second a' s' h' → post a s h a' s' h') :
    Sync act act' s h s' h' post refused := by
  refine Ends.mono run ?_ (fun _ _ _ => False.elim) (fun _ => False.elim)
  intro a s₁ h₁ fact
  unfold Yields Ends at run'
  revert run'
  rcases eq : MemoryHost.patch act' s' h' with b | ⟨⟨e | a', s₁'⟩, h₁'⟩
  · exact False.elim
  · exact False.elim
  · exact fun fact' => ⟨a', s₁', h₁', rfl, kept _ _ _ _ _ _ fact fact'⟩

theorem sync_pure {a : α} {a' : α'} (kept : post a s h a' s' h') :
    Sync (pure a : Work σ α) (pure a' : Work σ α') s h s' h' post refused := ⟨a', s', h', rfl, kept⟩

theorem sync_throw {e : PatchError} (kept : refused e s h s' h') :
    Sync (throw e : Work σ α) (throw e : Work σ α') s h s' h' post refused := ⟨s', h', rfl, kept⟩

theorem sync_get {post : σ → σ → MemoryHost κ → σ → σ → MemoryHost κ → Prop}
    (kept : post s s h s' s' h') :
    Sync (get : Work σ σ) (get : Work σ σ) s h s' h' post refused := ⟨s', s', h', rfl, kept⟩

theorem sync_modify {f f' : σ → σ}
    {post : PUnit → σ → MemoryHost κ → PUnit → σ → MemoryHost κ → Prop}
    (kept : post ⟨⟩ (f s) h ⟨⟩ (f' s') h') :
    Sync (modify f : Work σ PUnit) (modify f' : Work σ PUnit) s h s' h' post refused :=
  ⟨⟨⟩, f' s', h', rfl, kept⟩

theorem sync_broken (why : Breach) :
    Sync (liftM (Script.broken why : Script Patching α) : Work σ α)
      (liftM (Script.broken why : Script Patching α') : Work σ α') s h s' h' post refused :=
  (rfl : (.error why : Except Breach ((Except PatchError α' × σ) × MemoryHost κ)) = .error why)

theorem sync_bind {act : Work σ α} {act' : Work σ α'} {f : α → Work σ β} {f' : α' → Work σ β'}
    {post : β → σ → MemoryHost κ → β' → σ → MemoryHost κ → Prop} (first : Sync act act' s h s' h'
      (fun a s h a' s' h' => Sync (f a) (f' a') s h s' h' post refused) refused) :
    Sync (act >>= f) (act' >>= f') s h s' h' post refused := by
  refine (ends_bind _ _ _).2 (Ends.mono first ?_ ?_ ?_)
  · rintro a s₁ h₁ ⟨a', s₁', h₁', run', rest⟩
    unfold Sync at rest
    rw [patch_bind, run']
    exact rest
  · rintro e s₁ h₁ ⟨s₁', h₁', run', kept⟩
    rw [patch_bind, run']
    exact ⟨s₁', h₁', rfl, kept⟩
  · intro b run'
    rw [patch_bind, run']
    rfl

/-- Scripts that both give a value. -/
theorem sync_script {script : Script Patching α} {script' : Script Patching α'} {a : α} {a' : α'}
    {h₁ h₁' : MemoryHost κ} (run : MemoryHost.serve script h = .ok (a, h₁))
    (run' : MemoryHost.serve script' h' = .ok (a', h₁')) (kept : post a s h₁ a' s' h₁') :
    Sync (liftM script : Work σ α) (liftM script' : Work σ α') s h s' h' post refused := by
  unfold Sync Ends
  rw [patch_script, patch_script, run, run']
  exact ⟨a', s', h₁', rfl, kept⟩

theorem sync_focus {get : σ → τ} {set : τ → σ → σ} {act : Work τ α} {act' : Work τ α'}
    (run : Sync act act' (get s) h (get s') h'
      (fun a t h a' t' h' => post a (set t s) h a' (set t' s') h')
      (fun e t h t' h' => refused e (set t s) h (set t' s') h')) :
    Sync (Action.focus get set act) (Action.focus get set act') s h s' h' post refused := by
  refine (ends_focus _ _).2 (Ends.mono run ?_ ?_ ?_)
  · rintro a t h₁ ⟨a', t', h₁', run', kept⟩
    exact ⟨a', set t' s', h₁', by rw [patch_focus, run']; rfl, kept⟩
  · rintro e t h₁ ⟨t', h₁', run', kept⟩
    exact ⟨set t' s', h₁', by rw [patch_focus, run']; rfl, kept⟩
  · intro b run'
    rw [patch_focus, run']
    rfl

theorem sync_outcome {act : Work σ α} {act' : Work σ α'}
    {post : Except PatchError α → σ → MemoryHost κ → Except PatchError α' → σ → MemoryHost κ → Prop}
    (run : Sync act act' s h s' h' (fun a s h a' s' h' => post (.ok a) s h (.ok a') s' h')
      (fun e s h s' h' => post (.error e) s h (.error e) s' h')) :
    Sync (Action.outcome act) (Action.outcome act') s h s' h' post refused := by
  refine (ends_outcome _ _).2 (Ends.mono run ?_ ?_ ?_)
  · rintro a s₁ h₁ ⟨a', s₁', h₁', run', kept⟩
    exact ⟨.ok a', s₁', h₁', by rw [patch_outcome, run']; rfl, kept⟩
  · rintro e s₁ h₁ ⟨s₁', h₁', run', kept⟩
    exact ⟨.error e, s₁', h₁', by rw [patch_outcome, run']; rfl, kept⟩
  · intro b run'
    rw [patch_outcome, run']
    rfl

end Steps

section Places

variable {h h' : MemoryHost κ}

theorem sync_onPools {s s' : Stage} {act : Work NodePools α} {act' : Work NodePools α'}
    {post : α → Stage → MemoryHost κ → α' → Stage → MemoryHost κ → Prop}
    {refused : PatchError → Stage → MemoryHost κ → Stage → MemoryHost κ → Prop}
    (run : Sync act act' s.pools h s'.pools h'
      (fun a ps h a' ps' h' => post a { s with pools := ps } h a' { s' with pools := ps' } h')
      (fun e ps h ps' h' => refused e { s with pools := ps } h { s' with pools := ps' } h')) :
    Sync (Stage.onPools act) (Stage.onPools act') s h s' h' post refused := by
  unfold Stage.onPools Stage.onWorkshop Workshop.onPools
  refine sync_focus ?_
  exact sync_focus run

theorem sync_onStage {s s' : Scene} {act : Work Stage α} {act' : Work Stage α'}
    {post : α → Scene → MemoryHost κ → α' → Scene → MemoryHost κ → Prop}
    {refused : PatchError → Scene → MemoryHost κ → Scene → MemoryHost κ → Prop}
    (run : Sync act act' s.toStage h s'.toStage h'
      (fun a t h a' t' h' => post a { s with toStage := t } h a' { s' with toStage := t' } h')
      (fun e t h t' h' => refused e { s with toStage := t } h { s' with toStage := t' } h')) :
    Sync (Scene.onStage act) (Scene.onStage act') s h s' h' post refused := by
  unfold Scene.onStage
  exact sync_focus run

theorem sync_atBench {s s' : Scene} {e e' : Element} {craft : Craft Unit}
    {post : Except PatchError Unit × Element → Scene → MemoryHost κ →
      Except PatchError Unit × Element → Scene → MemoryHost κ → Prop}
    {refused : PatchError → Scene → MemoryHost κ → Scene → MemoryHost κ → Prop}
    (run : Sync (Bench.carryOut craft) (Bench.carryOut craft) ⟨s.pools, s.fonts, e⟩ h
      ⟨s'.pools, s'.fonts, e'⟩ h'
      (fun _ b h _ b' h' => post (.ok (), b.element) { s with pools := b.pools, fonts := b.fonts } h
        (.ok (), b'.element) { s' with pools := b'.pools, fonts := b'.fonts } h')
      (fun why b h b' h' =>
        post (.error why, b.element) { s with pools := b.pools, fonts := b.fonts } h
        (.error why, b'.element) { s' with pools := b'.pools, fonts := b'.fonts } h')) :
    Sync (Scene.atBench e craft) (Scene.atBench e' craft) s h s' h' post refused := by
  refine (ends_atBench _ _ _ _).2 (Ends.mono run ?_ ?_ ?_)
  · rintro a b h₁ ⟨a', b', h₁', run', kept⟩
    exact ⟨_, _, h₁', by rw [patch_atBench, run']; rfl, kept⟩
  · rintro why b h₁ ⟨b', h₁', run', kept⟩
    exact ⟨_, _, h₁', by rw [patch_atBench, run']; rfl, kept⟩
  · intro b run'
    rw [patch_atBench, run']
    rfl

end Places

end LayeredPage.Proofs
