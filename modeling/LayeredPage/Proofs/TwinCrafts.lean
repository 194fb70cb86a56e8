import LayeredPage.Proofs.Twins
import LayeredPage.Proofs.Workbench

/-!
# The same craft at two benches

A craft names nodes by their place, so it does the same to an element and to its twin.
-/

namespace LayeredPage.Proofs

/-- An element watches the sampler on its leaf. -/
def watches (e : Element) : List (NodeId × Nat) :=
  e.scroll.toList.map fun r => (e.leaf.id, r.sampler.index)

/-- Two benches with the same fonts and the same element under different names, while `others` are
held by others, who also watch `ws`. -/
structure BenchTwins {κ : Type} (base : Nat) (f : NodeId → NodeId) (others : List OwnedNode)
    (ws : List (NodeId × Nat)) (b b' : Bench) (h h' : MemoryHost κ) : Prop where
  fonts : b'.fonts = b.fonts
  element : b'.element = renamedElement f b.element
  twins : Twins base f (b.element.nodes ++ others) (watches b.element ++ ws) b.pools b'.pools h h'
  apart : ∀ p ∈ ws, p.1 ∈ others.map (·.id)

/-- What a request to both benches leads to: the same reply, and benches that are twins again. -/
def Crafted {κ α : Type} (base : Nat) (f : NodeId → NodeId) (others : List OwnedNode)
    (ws : List (NodeId × Nat))
    (leaf : OwnedNode) (a : α) (b : Bench) (h : MemoryHost κ) (a' : α) (b' : Bench)
    (h' : MemoryHost κ) : Prop :=
  a' = a ∧ b.element.leaf = leaf ∧ ∃ f', Steady base (leaf :: others) f f' ∧
    BenchTwins base f' others ws b b' h h'

section Elements

variable {f f' : NodeId → NodeId} {e : Element} {others : List OwnedNode}
  {n : OwnedNode} {base : Nat}

lemma eq_leaf_of_watched {p : NodeId × Nat} (hp : p ∈ watches e) : p.1 = e.leaf.id := by
  obtain ⟨r, _, rfl⟩ := List.mem_map.1 hp
  rfl

lemma leaf_and_others : ∀ n ∈ e.leaf :: others, n ∈ e.nodes ++ others := by
  intro n hn
  rcases List.mem_cons.1 hn with rfl | hn
  · exact List.mem_append_left _ List.mem_cons_self
  · exact List.mem_append_right _ hn

lemma known_node {spot : Spot} : Known base (e.nodes ++ others) (e.node spot) :=
  .inr (mem_held (node_mem e spot))

lemma nodes_part : ({ e with parts := e.parts ++ [n] } : Element).nodes.Perm (n :: e.nodes) := by
  rw [Element.nodes, Element.fittings, List.append_assoc]
  exact (List.perm_middle.cons _).trans (.swap ..)

lemma nodes_option :
    ({ e with options := e.options ++ [n] } : Element).nodes.Perm (n :: e.nodes) := by
  rw [Element.nodes, Element.fittings, ← List.append_assoc]
  exact ((List.perm_append_singleton ..).cons _).trans (.swap ..)

lemma renamed_part (same : renamedElement f' e = renamedElement f e) :
    { renamedElement f e with parts := (renamedElement f e).parts ++ [renamedNode f' n] } =
      renamedElement f' { e with parts := e.parts ++ [n] } := by
  rw [← same]
  simp [renamedElement]

lemma renamed_option (same : renamedElement f' e = renamedElement f e) :
    { renamedElement f e with options := (renamedElement f e).options ++ [renamedNode f' n] } =
      renamedElement f' { e with options := e.options ++ [n] } := by
  rw [← same]
  simp [renamedElement]

end Elements

section Benches

variable {κ α : Type} {base : Nat} {f f' : NodeId → NodeId} {mine others : List OwnedNode}
  {ws : List (NodeId × Nat)} {ps ps' : NodePools} {b b' : Bench} {h h' h₁ h₁' : MemoryHost κ}

/-- Requests that touch neither nodes nor samplers. -/
lemma BenchTwins.noted (bt : BenchTwins base f others ws b b' h h') {e : Element} {a : α}
    (leaf : e.leaf = b.element.leaf) (parts : e.parts = b.element.parts)
    (options : e.options = b.element.options) (scroll : watches e = watches b.element)
    (twins : Twins base f (b.element.nodes ++ others)
      (watches b.element ++ ws) b.pools b'.pools h₁ h₁') :
    Crafted base f others ws b.element.leaf a { b with element := e } h₁ a
      { b' with element := renamedElement f e } h₁' := by
  have nodes : e.nodes = b.element.nodes := by
    rw [Element.nodes, Element.fittings, leaf, parts, options]; rfl
  refine ⟨rfl, leaf, f, .refl f, bt.fonts, rfl, ?_, bt.apart⟩
  dsimp only
  rwa [nodes, scroll]

variable [Core κ]

/-- A face is loaded in both runs or in neither. -/
lemma Twins.register (twins : Twins base f mine ws ps ps' h h') (font : Font) (fonts : FontCache)
    {refused : PatchError → FontCache → MemoryHost κ → FontCache → MemoryHost κ → Prop} :
    Sync (FontCache.register font) (FontCache.register font) fonts h fonts h'
      (fun _ t h _ t' h' => t' = t ∧ Twins base f mine ws ps ps' h h') refused := by
  unfold FontCache.register
  cases font.face? with
  | none => exact sync_pure ⟨rfl, twins⟩
  | some face =>
    refine sync_bind (sync_get ?_)
    by_cases loaded : face ∈ fonts.faces
    · rw [if_pos loaded]
      exact sync_pure ⟨rfl, twins⟩
    · rw [if_neg loaded]
      refine sync_bind (twins.face face fun h₁ h₁' twins => ?_)
      exact ⟨_, _, _, rfl, rfl, twins⟩

omit [Core κ] in
lemma BenchTwins.node (bt : BenchTwins base f others ws b b' h h')
    (steady : Steady base (b.element.nodes ++ others) f f') {spot : Spot} :
    b'.element.node spot = f' (b.element.node spot) := by
  rw [bt.element, node_renamed, steady _ known_node]

/-- The sampler of an element is cancelled in both runs, so the element watches it no longer. -/
lemma Twins.unsample {σ : Type} {s s' : σ} {e : Element}
    {post : Unit → σ → MemoryHost κ → Unit → σ → MemoryHost κ → Prop}
    {refused : PatchError → σ → MemoryHost κ → σ → MemoryHost κ → Prop}
    (twins : Twins base f mine (watches e ++ ws) ps ps' h h')
    (next : ∀ h h', Twins base f mine ws ps ps' h h' → post () s h () s' h') :
    Sync
      (each e.scroll fun r => (ask (.cancelSampler r.sampler) : Script Patching Unit) : Work σ Unit)
      (each e.scroll fun r => (ask (.cancelSampler r.sampler) : Script Patching Unit) : Work σ Unit)
        s h s' h' post
      refused := by
  unfold watches at twins
  cases scroll : e.scroll with
  | none =>
    rw [scroll] at twins
    exact sync_pure (next h h' twins)
  | some r =>
    rw [scroll] at twins
    refine twins.cancel (fun p hp other => ?_) next
    rcases List.mem_cons.1 hp with rfl | watched
    · exact absurd rfl other
    · exact watched

variable {refused : PatchError → Bench → MemoryHost κ → Bench → MemoryHost κ → Prop}

lemma BenchTwins.addPart (bt : BenchTwins base f others ws b b' h h')
    (parent : Spot) (kind : NodeKind) :
    Sync (Bench.addPart parent kind) (Bench.addPart parent kind) b h b' h'
      (Crafted base f others ws b.element.leaf) refused := by
  unfold Bench.addPart
  refine sync_bind (sync_focus ((bt.twins.take kind).mono ?_ fun _ _ _ _ _ kept => kept))
  rintro n ps₁ h₁ n' ps₁' h₁' ⟨f', steady, rfl, _, twins⟩
  refine sync_bind (sync_get (sync_bind ?_))
  dsimp only
  rw [bt.node steady]
  refine twins.hang (known_node.cons n) List.mem_cons_self fun h₂ h₂' twins => ?_
  refine sync_bind
    (sync_modify (sync_pure ⟨?_, rfl, f', steady.sub leaf_and_others, bt.fonts, ?_, ?_, bt.apart⟩))
  · rw [bt.element]
    simp [renamedElement]
  · dsimp only
    rw [bt.element]
    exact renamed_part (steady.element fun m hm => List.mem_append_left _ hm)
  · exact twins.perm (nodes_part.append_right others).symm fun _ hp => hp

lemma BenchTwins.addOption (bt : BenchTwins base f others ws b b' h h')
    (parent : Spot) (kind : NodeKind) :
    Sync (Bench.addOption parent kind) (Bench.addOption parent kind) b h b' h'
      (Crafted base f others ws b.element.leaf) refused := by
  unfold Bench.addOption
  refine sync_bind (sync_focus ((bt.twins.take kind).mono ?_ fun _ _ _ _ _ kept => kept))
  rintro n ps₁ h₁ n' ps₁' h₁' ⟨f', steady, rfl, _, twins⟩
  refine sync_bind (sync_get (sync_bind ?_))
  dsimp only
  rw [bt.node steady]
  refine twins.hang (known_node.cons n) List.mem_cons_self fun h₂ h₂' twins => ?_
  have record (h h' : MemoryHost κ)
      (twins : Twins base f' (n :: (b.element.nodes ++ others))
        (watches b.element ++ ws) ps₁ ps₁' h h') :
      Crafted base f others ws b.element.leaf (Spot.option b.element.options.length)
        { b with pools := ps₁, element := { b.element with options := b.element.options ++ [n] } } h
        (Spot.option b'.element.options.length)
        { b' with
          pools := ps₁'
          element :=
            { b'.element with options := b'.element.options ++ [renamedNode f' n] } } h' := by
    refine ⟨?_, rfl, f', steady.sub leaf_and_others, bt.fonts, ?_, ?_, bt.apart⟩
    · rw [bt.element]
      simp [renamedElement]
    · dsimp only
      rw [bt.element]
      exact renamed_option (steady.element fun m hm => List.mem_append_left _ hm)
    · exact twins.perm (nodes_option.append_right others).symm fun _ hp => hp
  have same : b'.element.tabIndex = b.element.tabIndex := by rw [bt.element]; rfl
  cases kind.isFocusable with
  | false =>
    simp only [Bool.false_eq_true, if_false]
    exact sync_bind (sync_modify (sync_pure (record _ _ twins)))
  | true =>
    simp only [if_true, same]
    cases b.element.tabIndex with
    | none => exact sync_bind (sync_pure (sync_bind (sync_modify (sync_pure (record _ _ twins)))))
    | some tab =>
      refine sync_bind
        (twins.write (.inr List.mem_cons_self) (.attr "tabindex" (toString tab))
          fun h₃ h₃' twins => ?_)
      exact sync_bind (sync_modify (sync_pure (record _ _ twins)))

lemma BenchTwins.clearOptions (bt : BenchTwins base f others ws b b' h h') :
    Sync Bench.clearOptions Bench.clearOptions b h b' h'
      (Crafted base f others ws b.element.leaf) refused := by
  unfold Bench.clearOptions
  refine sync_bind (sync_get (sync_bind (sync_modify (sync_focus ?_))))
  have held :
      (b.element.nodes ++ others).Perm
        (b.element.options ++ (b.element.leaf :: b.element.parts ++ others)) := by
    rw [Element.nodes, Element.fittings, ← List.cons_append, ← List.append_assoc b.element.options]
    exact List.perm_append_comm.append_right others
  have twins := bt.twins.perm held fun _ hp => hp
  have option_mem {n : OwnedNode} (hn : n ∈ b.element.options) :
      n.id ∈ b.element.fittings.map (·.id) :=
    List.mem_map_of_mem (List.mem_append_right _ hn)
  rw [bt.element]
  refine (twins.giveBack fun n hn i watched => ?_).mono ?_ fun _ _ _ _ _ kept => kept
  · refine notMem_fittings bt.twins.owned (.inr ?_) (option_mem hn)
    exact (List.mem_append.1 watched).imp eq_leaf_of_watched (bt.apart _)
  · rintro _ ps₁ h₁ _ ps₁' h₁' twins
    refine ⟨rfl, rfl, f, .refl f, bt.fonts, rfl, ?_, bt.apart⟩
    have nodes :
        Element.nodes { b.element with options := [] } = b.element.leaf :: b.element.parts := by
      simp [Element.nodes, Element.fittings]
    dsimp only
    rw [nodes]
    exact twins

/-- The new sampler of an element takes the place of the old one in both runs. -/
lemma BenchTwins.sample (bt : BenchTwins base f others ws b b' h h') (tracker : ScrollTracker Float)
    (interval : UInt32) :
    Sync (Bench.sample tracker interval) (Bench.sample tracker interval) b h b' h'
      (Crafted base f others ws b.element.leaf) refused := by
  unfold Bench.sample
  refine sync_bind (sync_get (sync_bind ?_))
  have name : b'.element.leaf.id = f b.element.leaf.id := by rw [bt.element]; rfl
  have same : b'.element.scroll = b.element.scroll := by rw [bt.element]; rfl
  have leaf : Known base (b.element.nodes ++ others) b.element.leaf.id :=
    .inr (mem_held List.mem_cons_self)
  rw [name, same]
  refine bt.twins.sample leaf tracker interval fun h₁ h₁' i twins => sync_bind (sync_modify ?_)
  have sampled (h h' : MemoryHost κ)
      (twins : Twins base f (b.element.nodes ++ others)
        ((b.element.leaf.id, i) :: ws) b.pools b'.pools h h') :
      Crafted base f others ws b.element.leaf
        () { b with element := { b.element with scroll := some ⟨⟨i⟩, 0, 0⟩ } } h
        () { b' with element := { b'.element with scroll := some ⟨⟨i⟩, 0, 0⟩ } } h' := by
    refine ⟨rfl, rfl, f, .refl f, bt.fonts, ?_, twins, bt.apart⟩
    dsimp only
    rw [bt.element]
    rfl
  have both (p) (hp : p ∈ (b.element.leaf.id, i) :: (watches b.element ++ ws)) :
      p ∈ watches b.element ++ (b.element.leaf.id, i) :: ws := List.perm_middle.symm.subset hp
  exact (twins.perm (.refl _) both).unsample sampled

/-- Whatever a craft asks for is done on both benches. -/
theorem BenchTwins.perform (bt : BenchTwins base f others ws b b' h h') (r : BenchRequest) :
    Sync (Bench.perform r) (Bench.perform r) b h b' h'
      (Crafted base f others ws b.element.leaf) refused := by
  have element := bt.element
  cases r with
  | look =>
    refine sync_bind (sync_get (sync_pure ⟨?_, rfl, f, .refl f, bt⟩))
    rw [element, view_renamed]
  | note notes =>
    refine sync_modify ?_
    rw [element]
    exact bt.noted rfl rfl rfl rfl bt.twins
  | resizeRegion width height =>
    refine sync_modify ?_
    rw [element]
    refine bt.noted rfl rfl rfl ?_ bt.twins
    cases scroll : b.element.scroll <;> simp [watches, scroll, ScrollRegion.resize]
  | write spot w =>
    refine sync_bind (sync_get ?_)
    rw [bt.node (.refl f)]
    exact bt.twins.write known_node w fun h₁ h₁' twins => ⟨rfl, rfl, f, .refl f, { bt with twins }⟩
  | html spot =>
    refine sync_bind (sync_get ?_)
    rw [bt.node (.refl f)]
    exact bt.twins.innerHtml known_node fun _ => ⟨rfl, rfl, f, .refl f, bt⟩
  | sample tracker interval => exact bt.sample tracker interval
  | useFont font =>
    refine sync_bind (sync_focus ?_)
    rw [bt.fonts]
    refine (bt.twins.register font b.fonts).mono ?_ fun _ _ _ _ _ kept => kept
    rintro _ t h₁ _ t' h₁' ⟨rfl, twins⟩
    exact sync_pure ⟨rfl, rfl, f, .refl f, rfl, element, twins, bt.apart⟩
  | clearOptions => exact bt.clearOptions
  | addPart parent kind => exact bt.addPart parent kind
  | addOption parent kind => exact bt.addOption parent kind

/-- A craft is carried out alike on both benches, to the promise that it breaks if it breaks one. -/
theorem BenchTwins.carryOut (bt : BenchTwins base f others ws b b' h h') (craft : Craft α) :
    Sync (Bench.carryOut craft) (Bench.carryOut craft) b h b' h'
      (Crafted base f others ws b.element.leaf)
      refused := by
  induction craft generalizing b b' f h h' with
  | done a => exact sync_pure ⟨rfl, rfl, f, .refl f, bt⟩
  | ask r next ih =>
    refine sync_bind ((bt.perform r).mono ?_ fun _ _ _ _ _ kept => kept)
    rintro a b₁ h₁ _ b₁' h₁' ⟨rfl, leaf, f₁, steady, bt₁⟩
    refine (ih _ bt₁).mono ?_ fun _ _ _ _ _ kept => kept
    rintro c b₂ h₂ _ b₂' h₂' ⟨rfl, leaf₂, f₂, steady₂, bt₂⟩
    rw [leaf] at steady₂
    exact ⟨rfl, leaf₂.trans leaf, f₂, steady.trans steady₂, bt₂⟩
  | broken why => exact sync_broken why

end Benches

end LayeredPage.Proofs
