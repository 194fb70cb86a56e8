import LayeredPage.Memory.Recorder
import LayeredPage.Proofs.History

/-!
# Where elements are

At every point of a history, the parents of an element's leaf are the nodes of its containers on its
layer, from the innermost out, then the overlay of the layer, then the mount. So a live element can
be moved to any layer.
-/

namespace LayeredPage.Proofs

open MemoryDocument

section Placement

variable {κ : Type} [Core κ] {mount : NodeId} {config : Config} {h₀ h : MemoryHost κ} {s : Scene}

lemma Placed.climbs {base : Nat} {others : List OwnedNode} {e : Element}
    {d : MemoryDocument} {s : Stage} (st : Standing base mount others s d) (placed : Placed s e d) :
    ∃ ns, Chain s e.layer.toNat e.frame ns ∧ Climbs d e.leaf.id ns := by
  obtain ⟨parent, ns, chain⟩ := placed
  obtain ⟨t, rest, rfl, place, climbs⟩ := st.climbs chain
  exact ⟨_, chain, parent.trans place, climbs⟩

/-- Elements hang from their containers, containers on a layer from their parents, and no restacking
of a live element fails whose tab index is one. -/
theorem placement_of_history (reached : Reached h₀.document) (there : h₀.document.issued mount)
    (history : History mount config h₀ s h) :
    s.mount = mount ∧
    (∀ (id : UInt32) (e : Element), s.elements[id]? = some e →
      (∃ l, s.layers[e.layer.toNat]? = some l) ∧
        ∃ ns, Chain s.toStage e.layer.toNat e.frame ns ∧ Climbs h.document e.leaf.id ns) ∧
    (∀ (i : Nat) (l : Layer) (id : UInt32) (node : OwnedNode), s.layers[i]? = some l →
      l.frames[id]? = some node →
      ∃ c t, s.containers[id]? = some c ∧ target? s.toStage i c.parent = some t ∧
        h.document.parent? node.id = some t) ∧
    ∀ (id layer depth : UInt32) (e : Element) (tab : Int), s.elements[id]? = some e →
      Scene.tabIndex? s.config depth = some tab →
      Yields (Scene.apply (.restack id layer depth)) s h fun _ _ _ => True := by
  have sound := history.sound reached.tidy.linked there
  refine ⟨sound.stage.mounted, ?_, ?_, ?_⟩
  · intro id e he
    obtain ⟨ns, chain, climbs⟩ := (sound.placed id e he).climbs sound.stage
    exact ⟨chain.layer, ns, chain, climbs⟩
  · intro i l id node hl hn
    obtain ⟨_, c, hc, parent, ns, chain⟩ := sound.stage.frames i l id node hl hn
    cases chain with
    | inner hc' _ _ outer =>
      obtain rfl := Option.some.inj (hc.symm.trans hc')
      obtain ⟨t, _, _, place⟩ := outer.head
      exact ⟨c, t, hc, place, parent.trans place⟩
  · intro id layer depth e tab he inRange
    refine (sound.restack id layer depth).mono (fun _ _ _ _ => trivial) ?_ ?_
    · rintro _ _ _ ⟨_, _, gone⟩
      simp [he] at gone
    · intro _ lost
      simp [inRange] at lost

/-- A host whose document is one node. -/
def blankPage : MemoryHost Recorder := ⟨(MemoryDocument.empty.create .div).2, .start⟩

lemma reached_blankPage : Reached blankPage.document :=
  .asked (r := .createElement .div) .empty (by simp [named]) rfl

theorem placement_in_nested_frames : ∃ (s : Scene) (h : MemoryHost Recorder),
    History ⟨0⟩ .standard blankPage s h ∧ (∃ e, s.elements[(7 : UInt32)]? = some e) ∧
      ∀ (id : UInt32) (e : Element), s.elements[id]? = some e →
        ∃ ns, Chain s.toStage e.layer.toNat e.frame ns ∧ Climbs h.document e.leaf.id ns := by
  obtain ⟨s, h, history, lives⟩ := exists_history ⟨0⟩ .standard blankPage
    [.createFrame ⟨1, none, 0⟩, .createFrame ⟨2, some 1, 0⟩, .create .button ⟨7, some 2, 1⟩]
    (fun s => s.elements[(7 : UInt32)]?.isSome) (by decide +kernel)
  refine ⟨s, h, history, Option.isSome_iff_exists.1 lives, fun id e he => ?_⟩
  exact ((placement_of_history reached_blankPage rfl history).2.1 id e he).2

end Placement

end LayeredPage.Proofs
