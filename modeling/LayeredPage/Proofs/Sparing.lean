import LayeredPage.Proofs.Running

/-!
# What steps leave alone

`Spares view act` says that `act` never touches what `view` shows of its state, on any document and
with any core. It goes through every way of putting steps together, so it is read off the steps one
by one.
-/

namespace LayeredPage.Proofs

variable {σ τ ρ α β : Type} {view : σ → ρ} {act : Work σ α}

def Spares (view : σ → ρ) (act : Work σ α) : Prop :=
  ∀ (κ : Type) [Core κ] (s : σ) (h : MemoryHost κ),
    Ends act s h (fun _ s' _ => view s' = view s) (fun _ s' _ => view s' = view s) fun _ => True

section Steps

lemma spares_pure (a : α) : Spares view (pure a : Work σ α) := fun _ _ _ _ => rfl

lemma spares_throw (e : PatchError) : Spares view (throw e : Work σ α) := fun _ _ _ _ => rfl

lemma spares_get : Spares view (get : Work σ σ) := fun _ _ _ _ => rfl

lemma spares_modify {f : σ → σ} (hf : ∀ s, view (f s) = view s) :
    Spares view (modify f : Work σ PUnit) :=
  fun _ _ s _ => hf s

lemma Spares.bind {f : α → Work σ β} (first : Spares view act) (next : ∀ a, Spares view (f a)) :
    Spares view (act >>= f) := by
  intro κ _ s h
  refine (ends_bind _ _ _).2 ((first κ s h).mono ?_ (fun _ _ _ same => same) fun _ _ => trivial)
  intro a s' h' same
  refine (next a κ s' h').mono ?_ ?_ fun _ _ => trivial
  · exact fun _ _ _ same' => same'.trans same
  · exact fun _ _ _ same' => same'.trans same

lemma spares_script (script : Script Patching α) : Spares view (liftM script : Work σ α) := by
  intro κ _ s h
  refine (ends_script _ _).2 ?_
  unfold Answers
  split
  · rfl
  · trivial

/-- Whatever is done to a part that does not show. -/
lemma spares_focus {get : σ → τ} {set : τ → σ → σ}
    (hidden : ∀ t s, view (set t s) = view s) (act : Work τ α) :
    Spares view (Action.focus get set act) := by
  intro κ _ s h
  refine (ends_focus _ _).2 ?_
  unfold Ends
  split
  · exact hidden _ _
  · exact hidden _ _
  · trivial

/-- What is spared in a part is spared in the whole if it shows there. -/
lemma Spares.focus {get : σ → τ} {set : τ → σ → σ} {inner : τ → ρ} {act : Work τ α}
    (spares : Spares inner act)
    (shows : ∀ s, inner (get s) = view s) (kept : ∀ t s, inner t = view (set t s)) :
    Spares view (Action.focus get set act) := by
  intro κ _ s h
  refine (ends_focus _ _).2 ((spares κ (get s) h).mono ?_ ?_ fun _ _ => trivial)
  · exact fun _ t _ same => (kept t s).symm.trans (same.trans (shows s))
  · exact fun _ t _ same => (kept t s).symm.trans (same.trans (shows s))

lemma Spares.outcome (spares : Spares view act) : Spares view (Action.outcome act) :=
  fun κ _ s h => (ends_outcome _ _).2 (spares κ s h)

lemma spares_each (value : Option β) (f : β → Work σ Unit) (spares : ∀ b, Spares view (f b)) :
    Spares view (each value f) := by
  cases value with
  | none => exact spares_pure _
  | some b => exact spares b

lemma spares_forM {xs : List β} {f : β → Work σ PUnit} (spares : ∀ x, Spares view (f x)) :
    Spares view (xs.forM f) := by
  induction xs with
  | nil => exact spares_pure _
  | cons x xs ih => exact (spares x).bind fun _ => ih

lemma spares_foldlM {xs : List β} {f : α → β → Work σ α}
    (spares : ∀ a x, Spares view (f a x)) (a : α) :
    Spares view (xs.foldlM f a) := by
  induction xs generalizing a with
  | nil => exact spares_pure _
  | cons x xs ih => exact (spares a x).bind ih

lemma spares_mapM {xs : List β} {f : β → Work σ α} (spares : ∀ x, Spares view (f x)) :
    Spares view (xs.mapM f) := by
  induction xs with
  | nil => exact spares_pure _
  | cons x xs ih =>
    rw [List.mapM_cons]
    refine (spares x).bind fun _ => ?_
    refine ih.bind fun _ => ?_
    exact spares_pure _

end Steps

section Stages

open Stage

lemma spares_onWorkshop (act : Work Workshop α) : Spares Stage.containers (onWorkshop act) := by
  refine spares_focus ?_ act
  exact fun _ _ => rfl

lemma spares_stagePools (act : Work NodePools α) : Spares Stage.containers (Stage.onPools act) :=
  spares_onWorkshop _

lemma spares_addLayer : Spares Stage.containers addLayer := by
  refine spares_get.bind fun s => ?_
  refine (spares_onWorkshop _).bind fun layer => ?_
  exact spares_modify fun _ => rfl

lemma spares_addLayers (count : Nat) : Spares Stage.containers (addLayers count) := by
  induction count with
  | zero => exact spares_pure _
  | succ count ih => exact spares_addLayer.bind fun _ => ih

lemma spares_instantiate (layer : Nat) (parent : NodeId) (id : UInt32) :
    Spares Stage.containers (instantiate layer parent id) := by
  refine (spares_stagePools _).bind fun node => ?_
  refine (spares_script _).bind fun _ => ?_
  refine (spares_script _).bind fun _ => ?_
  refine (spares_script _).bind fun _ => ?_
  refine (spares_script _).bind fun _ => ?_
  refine (spares_script _).bind fun _ => ?_
  exact Spares.bind (spares_modify fun _ => rfl) fun _ => spares_pure _

lemma spares_attachPoint (x : Option UInt32) (layer : Nat) :
    Spares Stage.containers (attachPoint x layer) := by
  refine spares_get.bind fun s => ?_
  split
  · exact spares_script _
  · split
    · exact spares_pure _
    · split
      · exact spares_foldlM (spares_instantiate layer) _
      · exact spares_throw _
      · exact spares_script _

lemma spares_addElement (node : NodeId) (x : Option UInt32) (layer : UInt32) :
    Spares Stage.containers (Stage.addElement node x layer) := by
  refine Spares.bind (spares_get.bind fun s => spares_addLayers _) fun _ => ?_
  exact (spares_attachPoint x layer.toNat).bind fun _ => spares_script _

end Stages

section Scenes

open Scene

/-- The table of containers in a scene. -/
abbrev listed (s : Scene) : Std.ExtTreeMap UInt32 Container := s.containers

/-- A view of scenes in which neither elements show nor their nodes and fonts, nor what is done to
place an element. -/
structure Offstage (view : Scene → ρ) : Prop where
  elements : ∀ s elements, view { s with elements } = view s
  supplies : ∀ s pools fonts, view { s with pools, fonts } = view s
  pools : ∀ {α : Type} (act : Work NodePools α), Spares view (Scene.onPools act)
  placing : ∀ (node : NodeId) (x : Option UInt32) (layer : UInt32),
    Spares view (Scene.onStage (Stage.addElement node x layer))

lemma Spares.onStage {act : Work Stage α} (spares : Spares Stage.containers act) :
    Spares listed (Scene.onStage act) :=
  spares.focus (fun _ => rfl) fun _ _ => rfl

lemma offstage_listed : Offstage listed where
  elements _ _ := rfl
  supplies _ _ _ := rfl
  pools act := (spares_stagePools act).onStage
  placing _ _ _ := (spares_addElement _ _ _).onStage

lemma spares_config (act : Work Stage α) : Spares Scene.config (Scene.onStage act) := by
  refine spares_focus ?_ act
  exact fun _ _ => rfl

lemma offstage_config : Offstage Scene.config where
  elements _ _ := rfl
  supplies _ _ _ := rfl
  pools _ := spares_config _
  placing _ _ _ := spares_config _

lemma spares_lookup {view : Scene → ρ} (id : UInt32) (widget : Widget) :
    Spares view (lookup id widget) := by
  refine spares_get.bind fun s => ?_
  split
  · exact spares_throw _
  · split
    · exact spares_pure _
    · exact spares_throw _

namespace Offstage

variable {view : Scene → ρ}

lemma atBench (offstage : Offstage view) (e : Element) (craft : Craft Unit) :
    Spares view (atBench e craft) := by
  intro κ _ s h
  refine (ends_atBench _ _ _ _).2 ?_
  unfold Ends
  split
  · exact offstage.supplies _ _ _
  · exact offstage.supplies _ _ _
  · trivial

lemma putElement (offstage : Offstage view) (id : UInt32) (e : Element) :
    Spares view (putElement id e) :=
  spares_modify fun _ => offstage.elements _ _

lemma release (offstage : Offstage view) (e : Element) : Spares view (release e) := by
  unfold Scene.release
  have stopped : Spares view (do
      each e.scroll fun r => (ask (.cancelSampler r.sampler) : Script Patching Unit)
      Scene.onPools do
        Bench.giveBack e.options
        Bench.giveBack e.parts
        Pools.put e.leaf.kind e.leaf) :=
    (spares_each _ _ fun _ => spares_script _).bind fun _ => offstage.pools _
  split
  · exact (spares_script _).bind fun _ => stopped
  · exact stopped

lemma create (offstage : Offstage view) (widget : Widget) (c : Creation) :
    Spares view (create widget c) := by
  unfold Scene.create
  refine spares_get.bind fun s => ?_
  split
  · exact spares_throw _
  · refine (offstage.pools _).bind fun leaf => ?_
    refine (spares_script _).bind fun _ => ?_
    refine (spares_script _).bind fun _ => ?_
    refine spares_get.bind fun s => ?_
    refine (offstage.atBench _ _).bind fun r => ?_
    refine Spares.bind (Spares.outcome (Spares.bind ?_ fun _ => offstage.placing _ _ _))
      fun placed => ?_
    · unfold create.liftExcept
      split
      · exact spares_pure _
      · exact spares_throw _
    · split
      · exact offstage.putElement _ _
      · exact (offstage.release _).bind fun _ => spares_throw _

lemma update (offstage : Offstage view) (id : UInt32) (change : Change) :
    Spares view (update id change) := by
  refine (spares_lookup _ _).bind fun e => ?_
  refine (offstage.atBench _ _).bind fun r => ?_
  refine (offstage.putElement _ _).bind fun _ => ?_
  split
  · exact spares_pure _
  · exact spares_throw _

lemma delete (offstage : Offstage view) (widget : Widget) (id : UInt32) :
    Spares view (delete widget id) := by
  refine (spares_lookup _ _).bind fun e =>
    Spares.bind (spares_modify fun _ => offstage.elements _ _) fun _ => offstage.release e

lemma restack (offstage : Offstage view) (id layer depth : UInt32) :
    Spares view (restack id layer depth) := by
  refine spares_get.bind fun s => ?_
  split
  · exact spares_throw _
  · refine (offstage.placing _ _ _).bind fun _ => ?_
    refine spares_get.bind fun s => ?_
    split
    · exact spares_script _
    · refine (offstage.putElement _ _).bind fun _ => ?_
      refine (spares_script _).bind fun _ => ?_
      exact spares_forM fun _ => spares_script _

end Offstage

lemma spares_loadImage {view : Scene → ρ} (id : UInt32) (path : String) :
    Spares view (loadImage id path) := by
  refine (spares_script _).bind fun known => ?_
  split
  · exact spares_get.bind fun s => spares_script _
  · exact spares_pure _

/-- No patch changes the configuration. -/
lemma apply_spares_config (p : Patch) : Spares Scene.config (Scene.apply p) := by
  cases p with
  | create widget c => exact offstage_config.create widget c
  | update id change => exact offstage_config.update id change
  | delete widget id => exact offstage_config.delete widget id
  | restack id layer depth => exact offstage_config.restack id layer depth
  | createFrame | updateFrame | deleteFrame => exact spares_config _
  | loadImage id path => exact spares_loadImage id path

end Scenes

end LayeredPage.Proofs
