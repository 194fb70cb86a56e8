import LayeredPage.Proofs.Forest
import LayeredPage.Proofs.Supplying

/-!
# Where a climb gets lost

A container may outlive those around it, so the way up from a place can come to one that is not
registered. As long as no container is inside itself every way up ends, outside all containers or at
a missing one, and a refusal for want of a place names the missing one that is met first.
-/

namespace LayeredPage.Proofs

/-- The table puts one container right inside another, which may be missing. -/
def Inside (cs : Std.ExtTreeMap UInt32 Container) (id outer : UInt32) : Prop :=
  ∃ c, cs[id]? = some c ∧ c.parent = some outer

/-- Containers form a forest up to missing ancestors: none is inside itself. -/
def Acyclic (cs : Std.ExtTreeMap UInt32 Container) : Prop :=
  ∀ id, ¬ Relation.TransGen (Inside cs) id id

/-- The containers passed on the way up from a place, innermost first, and the missing one that ends
it. -/
inductive Strays (cs : Std.ExtTreeMap UInt32 Container) :
    Option UInt32 → List UInt32 → UInt32 → Prop where
  | missing {id : UInt32} : cs[id]? = none → Strays cs (some id) [] id
  | inner {id lost : UInt32} {c : Container} {ids : List UInt32} : cs[id]? = some c →
    Strays cs c.parent ids lost →
      Strays cs (some id) (id :: ids) lost

section Tables

variable {cs : Std.ExtTreeMap UInt32 Container} {x : Option UInt32} {ids ids' : List UInt32}
  {id lost lost' : UInt32}

/-- Numbers that grow inwards leave no way round. -/
lemma acyclic_of_lt (less : ∀ p ∈ cs.toList, ∀ outer, p.2.parent = some outer → outer < p.1) :
    Acyclic cs := by
  have down {id outer : UInt32} (inside : Relation.TransGen (Inside cs) id outer) : outer < id := by
    induction inside with
    | single step =>
      obtain ⟨c, found, parent⟩ := step
      exact less (_, c) (Std.ExtTreeMap.mem_toList_iff_getElem?_eq_some.2 found) _ parent
    | tail _ step ih =>
      obtain ⟨c, found, parent⟩ := step
      exact UInt32.lt_trans
        (less (_, c) (Std.ExtTreeMap.mem_toList_iff_getElem?_eq_some.2 found) _ parent) ih
  exact fun id round => UInt32.lt_irrefl id (down round)

/-- A way that ends outside all containers does not get lost. -/
lemma Line.not_strays (line : Line cs x ids) : ¬ Strays cs x ids' lost := by
  induction line generalizing ids' with
  | top => nofun
  | inner found _ ih =>
    intro strays
    cases strays with
    | missing none => simp [found] at none
    | inner found' rest =>
      cases found.symm.trans found'
      exact ih rest

/-- There is one way up only. -/
lemma Strays.unique (strays : Strays cs x ids lost) (strays' : Strays cs x ids' lost') :
    lost = lost' := by
  induction strays generalizing ids' with
  | missing none =>
    cases strays' with
    | missing => rfl
    | inner found => simp [none] at found
  | inner found _ ih =>
    cases strays' with
    | missing none => simp [found] at none
    | inner found' rest =>
      cases found.symm.trans found'
      exact ih rest

lemma Strays.registered (strays : Strays cs x ids lost) : ∀ i ∈ ids, i ∈ cs := by
  induction strays with
  | missing => nofun
  | inner found _ ih => exact List.forall_mem_cons.2 ⟨mem_iff_exists.2 ⟨_, found⟩, ih⟩

/-- What is passed is around the place. -/
lemma Strays.around (strays : Strays cs (some id) ids lost) :
    ∀ i ∈ ids, Relation.ReflTransGen (Inside cs) id i := by
  generalize start : some id = x at strays
  induction strays generalizing id with
  | missing => nofun
  | @inner first _ c ids found rest ih =>
    cases start
    refine List.forall_mem_cons.2 ⟨.refl, fun i hi => ?_⟩
    cases parent : c.parent with
    | none => simp [parent] at rest; cases rest
    | some outer => exact .head ⟨c, found, parent⟩ (ih parent.symm i hi)

lemma Strays.nodup (strays : Strays cs x ids lost) (acyclic : Acyclic cs) : ids.Nodup := by
  induction strays with
  | missing => exact List.nodup_nil
  | @inner id _ c ids found rest ih =>
    refine List.nodup_cons.2 ⟨fun again => ?_, ih⟩
    cases parent : c.parent with
    | none => rw [parent] at rest; cases rest
    | some outer =>
      rw [parent] at rest
      exact acyclic id (.head' ⟨c, found, parent⟩ (rest.around id again))

/-- Every way up ends. -/
theorem Acyclic.ends (acyclic : Acyclic cs) (x : Option UInt32) :
    (∃ ids, Line cs x ids) ∨ ∃ ids lost, Strays cs x ids lost := by
  have outwards : WellFounded fun outer id => Relation.TransGen (Inside cs) id outer := by
    have : IsTrans UInt32 fun outer id => Relation.TransGen (Inside cs) id outer :=
      ⟨fun _ _ _ first next => next.trans first⟩
    have : Std.Irrefl fun outer id => Relation.TransGen (Inside cs) id outer := ⟨acyclic⟩
    exact Finite.wellFounded_of_trans_of_irrefl _
  cases x with
  | none => exact .inl ⟨[], .top⟩
  | some id =>
    induction id using outwards.induction with
    | _ id ih =>
      cases found : cs[id]? with
      | none => exact .inr ⟨[], id, .missing found⟩
      | some c =>
        cases parent : c.parent with
        | none => exact .inl ⟨[id], .inner found (parent ▸ .top)⟩
        | some outer =>
          rcases ih outer (.single ⟨c, found, parent⟩) with ⟨ids, line⟩ | ⟨ids, lost, strays⟩
          · exact .inl ⟨id :: ids, .inner found (parent ▸ line)⟩
          · exact .inr ⟨id :: ids, lost, .inner found (parent ▸ strays)⟩

end Tables

section Stages

variable {κ : Type} [Core κ] {base layer : Nat} {mount : NodeId} {others : List OwnedNode}
  {s : Stage} {h : MemoryHost κ}
  {d : MemoryDocument} {l : Layer} {x : Option UInt32} {ids : List UInt32} {id lost : UInt32}

/-- The climb for a place goes the same way, unless it finds a node on the layer first. -/
lemma Strays.route {fuel : Nat} {inner : List UInt32}
    (strays : Strays s.containers (some id) ids lost)
    (bare : ∀ i ids, Strays s.containers (some i) ids lost → l.frames[i]? = none)
    (enough : ids.length < fuel) :
    s.route l fuel id inner = .unknown lost := by
  induction fuel generalizing id ids inner with
  | zero => omega
  | succ fuel ih =>
    have none := bare id ids strays
    cases strays with
    | missing unknown => simp [Stage.route, none, unknown]
    | @inner _ _ c ids found rest =>
      cases parent : c.parent with
      | none => rw [parent] at rest; cases rest
      | some outer =>
        rw [parent] at rest
        rw [List.length_cons] at enough
        simp [Stage.route, none, found, parent, ih rest (Nat.lt_of_succ_lt_succ enough)]

/-- No container has a node from where the way up gets lost. -/
lemma Standing.bare_of_strays (st : Standing base mount others s d) (hl : s.layers[layer]? = some l)
    (strays : Strays s.containers (some id) ids lost) : l.frames[id]? = none := by
  cases found : l.frames[id]? with
  | none => rfl
  | some node =>
    obtain ⟨_, _, _, _, _, chain⟩ := st.frames layer l id node hl found
    obtain ⟨_, line⟩ := chain.line
    exact absurd strays line.not_strays

/-- Where the way up gets lost there is no place, and nothing happens. -/
theorem Standing.attachPoint_strays (st : Standing base mount others s h.document)
    (inside : layer < s.layers.size)
    (acyclic : Acyclic s.containers) (strays : Strays s.containers x ids lost) :
    Ends (Stage.attachPoint x layer) s h (fun _ _ _ => False)
      (fun why s' h' => why = .unknownContainer lost ∧ s' = s ∧ h' = h) fun _ => False := by
  obtain ⟨l, hl⟩ : ∃ l, s.layers[layer]? = some l := ⟨_, Array.getElem?_eq_getElem inside⟩
  have short : ids.length < s.containers.size + 1 :=
    Nat.lt_succ_of_le (length_le_size (strays.nodup acyclic) strays.registered)
  unfold Stage.attachPoint
  refine (ends_bind _ _ _).2 ((ends_get _).2 ?_)
  simp only [hl]
  cases x with
  | none => cases strays
  | some id =>
    dsimp only
    rw [strays.route (fun _ _ way => st.bare_of_strays hl way) short]
    exact ⟨rfl, rfl, rfl⟩

end Stages

end LayeredPage.Proofs
