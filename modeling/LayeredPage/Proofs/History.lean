import LayeredPage.Proofs.Patching
import LayeredPage.Proofs.Reaching

/-!
# Histories of a scene

A scene takes over a mount, and patches are applied to it one after the other. One that is refused
ends there, and the next one goes on from what it left; one that breaks a promise of its
surroundings leads nowhere. Every scene that a history leads to is in order.
-/

namespace LayeredPage.Proofs

open MemoryDocument

section Starting

variable {κ : Type} [Core κ] {h : MemoryHost κ} {mount : NodeId} {d : MemoryDocument}

lemma stocked_forAll (keeps : Bool) : Stocked keeps (.forAll keeps) := by
  intro kind
  cases kind <;> exact ⟨_, rfl, rfl, rfl, rfl⟩

/-- Pools that made nothing yet leave everything to those who were there before. -/
lemma Owned.start (linked : Linked d) : Owned d.nodes.size .complete [] d where
  stocked := stocked_forAll true
  linked := linked
  base_le := le_rfl
  ledger := by
    rw [Nat.sub_self]
    exact .refl _
  kinds n hn := absurd hn List.not_mem_nil
  fresh n hn := absurd hn List.not_mem_nil
  sorted kind n hn := by
    cases kind <;> exact absurd hn List.not_mem_nil
  counted kind := by
    cases kind <;> rfl

/-- A stage without layers. -/
def bare (pools : NodePools) (mount : NodeId) : Stage := ⟨⟨pools, ∅⟩, mount, #[], ∅⟩

lemma Standing.start (linked : Linked d) (there : d.issued mount) :
    Standing d.nodes.size mount [] (bare .complete mount) d where
  owned := .start linked
  mounted := rfl
  mount := of_decide_eq_true there
  outside n p hp _ := by
    have below := (linked n p).2 hp
    cases found : d.node? p with
    | none => simp [children, found] at below
    | some node => simpa [issued] using issued_of_node? found
  layers i l hl := by simp [bare] at hl
  frames i l id node hl := by simp [bare] at hl
  surfaces i := by simp [bare]

/-- Taking over a mount is adding the first layer. -/
lemma answers_stage (pools : NodePools) {breach : Breach → Prop}
    (post : Except PatchError Stage → MemoryHost κ → Prop) :
    Answers (Stage.attach pools mount) h post breach ↔
      Ends Stage.addLayer (bare pools mount) h (fun _ s h => post (.ok s) h)
      (fun e _ h => post (.error e) h) breach := by
  unfold Stage.attach Stage.addLayer
  rw [ends_bind, ends_get, ends_bind, answers_bind, answers_work]
  refine Iff.trans ?_ (ends_focus _ _).symm
  exact Iff.rfl

lemma answers_attach (pools : NodePools) (config : Config) {breach : Breach → Prop}
    (post : Except PatchError Scene → MemoryHost κ → Prop) :
    Answers (Scene.attachWith pools mount config) h post breach ↔
      Ends Stage.addLayer (bare pools mount) h (fun _ s h => post (.ok (.ofStage s config)) h)
        (fun e _ h => post (.error e) h) breach := by
  unfold Scene.attachWith
  rw [answers_bind, answers_stage]
  exact Iff.rfl

/-- A stage without elements is a scene in order. -/
lemma Standing.scene {base : Nat} {s : Stage} (st : Standing base mount [] s d) :
    InOrder base mount s ∅ d :=
  ⟨st, fun id e he => by simp at he, fun id e he => by simp at he⟩

/-- Every issued node can be taken over. -/
theorem attach_sound (linked : Linked h.document)
    (there : h.document.issued mount) (config : Config) :
    Answers (Scene.attach mount config) h
      (fun r h' => ∃ s, r = .ok s ∧ s.config = config ∧ Sound h.document.nodes.size mount s h')
        fun _ => False := by
  refine (answers_attach _ _ _).2 ((Standing.start linked there).addLayer.mono ?_ ?_ ?_)
  · rintro _ s h' ⟨grown, _⟩
    exact ⟨_, rfl, rfl, grown.standing.scene⟩
  · exact fun _ _ _ => False.elim
  · exact fun _ => False.elim

end Starting

/-- The scenes that patches lead to from where a mount was taken over. -/
inductive History {κ : Type} [Core κ] (mount : NodeId) (config : Config) (h₀ : MemoryHost κ) :
    Scene → MemoryHost κ → Prop where
  | attached {s : Scene} {h : MemoryHost κ} :
    MemoryHost.serve (Scene.attach mount config) h₀ = .ok (.ok s, h) →
      History mount config h₀ s h
  | patched {s s' : Scene} {h h' : MemoryHost κ} {p : Patch} {result : Except PatchError Unit} :
      History mount config h₀ s h → MemoryHost.patch (Scene.apply p) s h = .ok ((result, s'), h') →
      History mount config h₀ s' h'

section Histories

variable {κ : Type} [Core κ] {mount : NodeId} {config : Config}
  {h₀ h h' : MemoryHost κ} {s s' : Scene}

/-- A scene is in order after a patch, whatever its result. -/
lemma Sound.patched {base : Nat} {p : Patch} {result : Except PatchError Unit}
    (sound : Sound base mount s h)
    (run : MemoryHost.patch (Scene.apply p) s h = .ok ((result, s'), h')) :
    Sound base mount s' h' := by
  have kept := sound.apply p
  unfold Keeps Ends at kept
  rw [run] at kept
  cases result with
  | ok => exact kept
  | error why => exact kept.1

theorem History.sound (history : History mount config h₀ s h) (linked : Linked h₀.document)
    (there : h₀.document.issued mount) : Sound h₀.document.nodes.size mount s h := by
  induction history with
  | attached run =>
    have start := attach_sound linked there config
    unfold Answers at start
    rw [run] at start
    obtain ⟨s, eq, _, sound⟩ := start
    cases eq
    exact sound
  | patched _ run sound => exact sound.patched run

/-- What every answered request keeps, every script keeps. -/
lemma serve_keeps {P : MemoryDocument → Prop} {α : Type}
    (keeps : ∀ {d d' : MemoryDocument} {r : DocumentRequest} {reply : r.Reply}, P d →
      answer r d = .ok (reply, d') → P d')
    {script : Script Patching α} {a : α} (run : MemoryHost.serve script h = .ok (a, h'))
    (hp : P h.document) : P h'.document := by
  induction script generalizing h with
  | done b =>
    cases run
    exact hp
  | broken why => cases run
  | ask r next ih =>
    change (MemoryHost.answerPatch r h).bind _ = _ at run
    cases r with
    | document r =>
      change ((answer r h.document).bind _).bind _ = _ at run
      cases step : answer r h.document with
      | error b =>
        rw [step] at run
        cases run
      | ok p =>
        rw [step] at run
        exact ih p.1 run (keeps hp step)
    | addContext | removeContext | imageLoaded => exact ih _ run hp

/-- So does every history. -/
theorem History.keeps {P : MemoryDocument → Prop} (history : History mount config h₀ s h)
    (keeps : ∀ {d d' : MemoryDocument} {r : DocumentRequest} {reply : r.Reply}, P d →
      answer r d = .ok (reply, d') → P d')
    (start : P h₀.document) : P h.document := by
  induction history with
  | attached run => exact serve_keeps keeps run start
  | patched _ run ih => exact serve_keeps keeps run ih

/-- The answers to some patches, each applied to what the one before left. -/
def play : List Patch → Scene → MemoryHost.Step κ (List (Except PatchError Unit) × Scene)
  | [], s => pure ([], s)
  | p :: ps, s => do
    let (result, s) ← MemoryHost.patch (Scene.apply p) s
    let (results, s) ← play ps s
    return (result :: results, s)

lemma exists_play_cons {p : Patch} {ps : List Patch} {results : List (Except PatchError Unit)}
    (run : play (p :: ps) s h = .ok ((results, s'), h')) :
    ∃ result rest s₁ h₁, MemoryHost.patch (Scene.apply p) s h = .ok ((result, s₁), h₁) ∧
      play ps s₁ h₁ = .ok ((rest, s'), h') ∧ results = result :: rest := by
  unfold play at run
  simp only [bind, StateT.bind] at run
  cases step : MemoryHost.patch (Scene.apply p) s h with
  | error b =>
    rw [step] at run
    cases run
  | ok r =>
    obtain ⟨⟨result, s₁⟩, h₁⟩ := r
    rw [step] at run
    simp only [Except.bind] at run
    cases rest : play ps s₁ h₁ with
    | error b =>
      rw [rest] at run
      cases run
    | ok r =>
      obtain ⟨⟨results₂, s₂⟩, h₂⟩ := r
      rw [rest] at run
      cases run
      exact ⟨result, results₂, s₁, h₁, rfl, rest, rfl⟩

lemma History.play {ps : List Patch} {results : List (Except PatchError Unit)}
    (history : History mount config h₀ s h)
    (run : Proofs.play ps s h = .ok ((results, s'), h')) : History mount config h₀ s' h' := by
  induction ps generalizing s h results with
  | nil =>
    cases run
    exact history
  | cons p ps ih =>
    obtain ⟨result, rest, s₁, h₁, step, run, _⟩ := exists_play_cons run
    exact ih (history.patched step) run

/-- Whether these patches lead from a mount to a scene like this. -/
def leads (mount : NodeId) (config : Config) (h₀ : MemoryHost κ) (ps : List Patch)
    (test : Scene → Bool) : Bool :=
  match MemoryHost.serve (Scene.attach mount config) h₀ with
  | .ok (.ok s, h) =>
    match Proofs.play ps s h with
    | .ok ((_, s), _) => test s
    | .error _ => false
  | _ => false

lemma exists_history (mount : NodeId) (config : Config) (h₀ : MemoryHost κ) (ps : List Patch)
    (test : Scene → Bool) (run : leads mount config h₀ ps test = true) :
    ∃ (s : Scene) (h : MemoryHost κ), History mount config h₀ s h ∧ test s = true := by
  unfold leads at run
  split at run
  · next s h start =>
    split at run
    · next played => exact ⟨_, _, (History.attached start).play played, run⟩
    · cases run
  · cases run

end Histories

end LayeredPage.Proofs
