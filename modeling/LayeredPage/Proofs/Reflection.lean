import LayeredPage.Proofs.Conduct
import LayeredPage.Proofs.Slots

/-!
# A document in memory and the page that shows it

Each node has an element of its own on the page, under the element of its parent and above those of
its children, in their order. The elements that were on the page before are only hung under, and
never move. Each change of the tree keeps it so if it is made to both.
-/

namespace LayeredPage.Proofs

open MemoryDocument

/-- What there was before a mount was taken over: what was in it, and how many elements the page
had. The mount may be `kindred`, of a kind that nodes can have. -/
structure Ground where
  front : List ElementId
  old : Nat
  kindred : Prop

/-- An element looks as the node it stands for. Whatever was in the mount before stays in front. -/
structure Portrays (g : Ground) (E : NodeId → Option ElementId) (size : Nat)
    (n : NodeId) (o : Outline) (node : MemoryNode) : Prop where
  tag : g.kindred ∨ 1 ≤ n.index → o.tag = node.kind.tagName
  children : o.children = (if n.index = 0 then g.front else []) ++ node.children.filterMap E
  html : 1 ≤ n.index → o.html = node.html
  parent : 1 ≤ n.index → o.parent = node.parent.bind E
  links : 1 ≤ n.index → ∀ y ∈ o.links, y.index < size ∧ ∀ k, E k ≠ some y

/-- The elements of the nodes on a page. -/
structure Shows (g : Ground) (E : NodeId → Option ElementId) (m : MemoryDocument) (p : Page) :
    Prop where
  issued : ∀ n, (E n).isSome = m.issued n
  placed : ∀ n x, E n = some x → x.index < p.elements.size
  distinct : ∀ n k x, E n = some x → E k = some x → n = k
  mount : ∀ x, E ⟨0⟩ = some x → x.index < g.old
  made : ∀ n x, E n = some x → 1 ≤ n.index → g.old ≤ x.index
  portraits : ∀ n x, E n = some x → ∃ o node, outline? p x = some o ∧ m.node? n = some node ∧
    Portrays g E p.elements.size n o node
  outer : ∀ x y, x.index < g.old → p.parent? x = some y → y.index < g.old
  front : ∀ y ∈ g.front, y.index < g.old
  inside : g.old ≤ p.elements.size

section Images

variable {E : NodeId → Option ElementId} {c : NodeId} {x : ElementId} {cs : List NodeId}

/-- The images of a list without one of its members. -/
lemma filterMap_filter_ne (distinct : ∀ n k x, E n = some x → E k = some x → n = k)
    (hc : E c = some x) (cs : List NodeId) :
    (cs.filter (· ≠ c)).filterMap E = (cs.filterMap E).filter (· ≠ x) := by
  simp only [ne_eq, decide_not]
  induction cs with
  | nil => rfl
  | cons k cs ih =>
    by_cases same : k = c
    · subst same
      simp [hc, ih]
    · cases hk : E k with
      | none => simp [same, hk, ih]
      | some y =>
        have other : y ≠ x := fun h => same (distinct k c x (h ▸ hk) hc)
        simp [same, hk, other, ih]

lemma eq_some_of_map {α : Type} {a b : Option α} {f : α → α} {v : α}
    (closed : b = a.map f) (h : a = some v) :
    b = some (f v) := by
  rw [closed, h]
  rfl

end Images

section Trees

variable {g : Ground} {E : NodeId → Option ElementId} {m m' : MemoryDocument} {p p' : Page}
  {n q c : NodeId} {x y : ElementId}

lemma Shows.parent? (shows : Shows g E m p) (hx : E n = some x) (own : 1 ≤ n.index) :
    p.parent? x = (m.parent? n).bind E := by
  obtain ⟨o, node, ho, hn, portrays⟩ := shows.portraits n x hx
  rw [pageParent?_eq, ho, parent?_of_node? hn]
  exact portrays.parent own

lemma Shows.children (shows : Shows g E m p) (hx : E n = some x) :
    p.children x = (if n.index = 0 then g.front else []) ++ (m.children n).filterMap E := by
  obtain ⟨o, node, ho, hn, portrays⟩ := shows.portraits n x hx
  rw [pageChildren_eq, ho, children_of_node? hn]
  exact portrays.children

lemma Shows.ne (shows : Shows g E m p) (hx : E n = some x) (hy : E c = some y) : x = y ↔ n = c :=
  ⟨fun same => shows.distinct n c y (same ▸ hx) hy, fun same =>
    Option.some.inj (hx.symm.trans (same ▸ hy))⟩

/-- A node is taken out of its parent on both sides. -/
theorem Shows.detach (shows : Shows g E m p) (linked : Linked m) (hc : E c = some y)
    (own : 1 ≤ c.index) :
    Shows g E (m.detach c) (p.remove y) := by
  obtain ⟨elements, eq, size⟩ := exists_remove (p := p) (e := y)
  have sized : (p.remove y).elements.size = p.elements.size := by rw [eq]; exact size
  have issued (n : NodeId) : (m.detach c).issued n = m.issued n := by
    obtain ⟨nodes, eq, size⟩ := exists_detach (d := m) (n := c)
    unfold MemoryDocument.issued
    rw [eq]
    simp [size]
  refine ⟨fun n => (shows.issued n).trans (issued n).symm, fun n x hx =>
    sized ▸ shows.placed n x hx, shows.distinct,
    shows.mount, shows.made, fun n x hx => ?_, fun x z hx hz => ?_, shows.front,
    sized ▸ shows.inside⟩
  · obtain ⟨o, node, ho, hn, portrays⟩ := shows.portraits n x hx
    refine ⟨_, _, eq_some_of_map outline?_remove ho,
      eq_some_of_map (node?_detach linked) hn, portrays.tag, ?_,
      portrays.html, ?_, ?_⟩
    · -- The page filters the children of the parent only; elsewhere there is nothing to filter.
      have kept :
        ((if n.index = 0 then g.front else []) ++ node.children.filterMap E).filter (· ≠ y) =
          (if n.index = 0 then g.front else []) ++ (node.children.filter (· ≠ c)).filterMap E := by
        rw [List.filter_append, filterMap_filter_ne shows.distinct hc]
        congr 1
        refine List.filter_eq_self.2 fun z hz => ?_
        split at hz
        · have := shows.front z hz
          have := shows.made c y hc own
          exact decide_eq_true fun same => by subst same; omega
        · exact absurd hz List.not_mem_nil
      dsimp only
      rw [← kept, ← portrays.children]
      split
      · rfl
      · next elsewhere =>
        have absent : c ∉ node.children := by
          intro child
          rw [← children_of_node? hn, linked] at child
          refine elsewhere ?_
          rw [shows.parent? hc own, child]
          exact hx
        rw [portrays.children, kept, filter_ne_of_notMem absent]
    · intro own'
      dsimp only
      rw [portrays.parent own']
      by_cases same : n = c
      · rw [if_pos same, if_pos ((shows.ne hx hc).2 same)]
        rfl
      · rw [if_neg same, if_neg fun h => same ((shows.ne hx hc).1 h)]
    · intro own' z hz
      rw [sized]
      dsimp only at hz
      split at hz
      · exact portrays.links own' z (List.mem_of_mem_filter hz)
      · exact portrays.links own' z hz
  · rw [pageParent?_eq, outline?_remove] at hz
    cases ho : outline? p x with
    | none =>
      rw [ho] at hz
      cases hz
    | some o =>
      rw [ho, Option.map_some, Option.bind_some] at hz
      dsimp only at hz
      split at hz
      · cases hz
      · exact shows.outer x z hx (by rw [pageParent?_eq, ho]; exact hz)

/-- Climbing from an element leads to that of a node only where climbing from its node leads to
it. -/
lemma Shows.not_climbs (shows : Shows g E m p) (hc : E c = some y) (own : 1 ≤ c.index)
    (fuel : Nat) (x : ElementId) (away : (∃ n, E n = some x ∧ ¬ Under m n c) ∨ x.index < g.old) :
    p.climbsTo y fuel x = false := by
  induction fuel generalizing x with
  | zero => rfl
  | succ fuel ih =>
    have made := shows.made c y hc own
    have other : x ≠ y := by
      rintro rfl
      rcases away with ⟨n, hx, apart⟩ | outside
      · exact apart (shows.distinct n c x hx hc ▸ .refl)
      · omega
    unfold Page.climbsTo
    rw [if_neg other]
    cases above : p.parent? x with
    | none => rfl
    | some z =>
      refine ih z ?_
      have upwards (outside : x.index < g.old) : z.index < g.old := shows.outer x z outside above
      rcases away with ⟨n, hx, apart⟩ | outside
      · by_cases mount : n.index = 0
        · have root : n = ⟨0⟩ := congrArg NodeId.mk mount
          exact .inr (upwards (shows.mount x (root ▸ hx)))
        · rw [shows.parent? hx (Nat.one_le_iff_ne_zero.2 mount)] at above
          obtain ⟨q, parent, hz⟩ := Option.bind_eq_some_iff.1 above
          exact .inl ⟨q, hz, fun under => apart (.head parent under)⟩
      · exact .inr (upwards outside)

lemma node?_append_detached : (m.append q c).node? n = ((m.detach c).node? n).map fun node =>
    { node with
      parent := if n = c then some q else node.parent
      children := if n = q then node.children ++ [c] else node.children } := by
  unfold MemoryDocument.append
  rw [node?_modify, node?_modify]
  cases (m.detach c).node? n with
  | none => simp
  | some node =>
    by_cases parent : n = q
    · by_cases child : n = c
      · simp only [if_pos parent, if_pos child, Option.map_some]
      · simp only [if_pos parent, if_neg child, Option.map_some]
    · by_cases child : n = c
      · simp only [if_neg parent, if_pos child, Option.map_some]
      · simp only [if_neg parent, if_neg child, Option.map_some]

/-- A loose node is hung on both sides, unless its new parent is below it. -/
theorem Shows.append (shows : Shows g E (m.detach c) p) (linked : Linked m)
    (hq : E q = some x) (hc : E c = some y) (own : 1 ≤ c.index) (apart : ¬ Under m q c) :
    ∃ elements, p.append? x y = some { p with elements } ∧
      Shows g E (m.append q c) { p with elements } := by
  have loose : p.parent? y = none := by
    rw [shows.parent? hc own, parent?_detach linked, if_pos rfl]
    rfl
  have apart' : ¬ Under (m.detach c) q c := by
    refine fun under => apart ?_
    have longer {k r : NodeId} (parent : (m.detach c).parent? k = some r) :
        m.parent? k = some r := by
      rw [parent?_detach linked] at parent
      split at parent
      · cases parent
      · exact parent
    exact Relation.ReflTransGen.mono (fun _ _ => longer) _ _ under
  obtain ⟨elements, hung, sized, outlines⟩ :=
    exists_append? (shows.not_climbs hc own (p.elements.size + 1) x (.inl ⟨q, hq, apart'⟩)) loose
  have issued (n : NodeId) : (m.append q c).issued n = (m.detach c).issued n := by
    rw [Bool.eq_iff_iff, issued_iff, issued_iff, node?_append_detached]
    cases (m.detach c).node? n <;> simp
  refine ⟨elements, hung, fun n => (shows.issued n).trans (issued n).symm, fun n z hz =>
    sized ▸ shows.placed n z hz,
    shows.distinct, shows.mount, shows.made, fun n z hz => ?_, fun z w hz hw => ?_, shows.front,
    sized ▸ shows.inside⟩
  · obtain ⟨o, node, ho, hn, portrays⟩ := shows.portraits n z hz
    refine ⟨_, _, eq_some_of_map (outlines z) ho, eq_some_of_map node?_append_detached hn,
      portrays.tag, ?_, portrays.html, ?_, ?_⟩
    · dsimp only
      rw [portrays.children]
      by_cases same : n = q
      · rw [if_pos same, if_pos ((shows.ne hz hq).2 same), List.filterMap_append, List.append_assoc]
        simp [hc]
      · rw [if_neg same, if_neg fun h => same ((shows.ne hz hq).1 h)]
    · intro own'
      dsimp only
      rw [portrays.parent own']
      by_cases same : n = c
      · rw [if_pos same, if_pos ((shows.ne hz hc).2 same), Option.bind_some, hq]
      · rw [if_neg same, if_neg fun h => same ((shows.ne hz hc).1 h)]
    · exact fun own' w hw => sized ▸ portrays.links own' w hw
  · have made := shows.made c y hc own
    rw [pageParent?_eq, outlines] at hw
    cases ho : outline? p z with
    | none =>
      rw [ho] at hw
      cases hw
    | some o =>
      have other : z ≠ y := by
        rintro rfl
        omega
      rw [ho, Option.map_some, Option.bind_some, if_neg other] at hw
      exact shows.outer z w hz (by rw [pageParent?_eq, ho]; exact hw)

/-- The content of a node is replaced on both sides. -/
theorem Shows.replaced {html : String} (shows : Shows g E m p) (linked : Linked m)
    (hx : E n = some x) (own : 1 ≤ n.index)
    (replaced : Replaced x html p p') : Shows g E (m.setHtml n html) p' := by
  have issued (k : NodeId) : (m.setHtml n html).issued k = m.issued k := by
    rw [Bool.eq_iff_iff, issued_iff, issued_iff, node?_setHtml linked]
    cases m.node? k <;> simp
  obtain ⟨o₀, node₀, ho₀, hn₀, portrays₀⟩ := shows.portraits n x hx
  have below {k : NodeId} {z : ElementId} (hz : E k = some z) : z ∈ p.children x ++ p.links x ↔
      m.parent? k = some n := by
    rw [← linked, List.mem_append, shows.children hx, if_neg (by omega), List.nil_append,
      List.mem_filterMap, links_eq, ho₀]
    constructor
    · rintro (⟨j, hj, image⟩ | link)
      · exact shows.distinct j k z image hz ▸ hj
      · exact absurd hz ((portrays₀.links own z link).2 k)
    · exact fun child => .inl ⟨k, child, hz⟩
  refine ⟨fun k => (shows.issued k).trans (issued k).symm, fun k z hz =>
    (shows.placed k z hz).trans_le replaced.grown,
    shows.distinct, shows.mount, shows.made, fun k z hz => ?_, fun z w hz hw => ?_, shows.front,
    shows.inside.trans replaced.grown⟩
  · obtain ⟨o, node, ho, hk, portrays⟩ := shows.portraits k z hz
    obtain ⟨new, fresh, closed⟩ := replaced.outlines z (shows.placed k z hz)
    refine ⟨_, _, eq_some_of_map closed ho, eq_some_of_map (node?_setHtml linked html) hk,
      portrays.tag, ?_, ?_, ?_, ?_⟩
    · dsimp only
      by_cases same : k = n
      · rw [if_pos same, if_pos ((shows.ne hz hx).2 same), same, if_neg (by omega)]
        rfl
      · rw [if_neg same, if_neg fun h => same ((shows.ne hz hx).1 h)]
        exact portrays.children
    · intro own'
      dsimp only
      by_cases same : k = n
      · rw [if_pos same, if_pos ((shows.ne hz hx).2 same)]
      · rw [if_neg same, if_neg fun h => same ((shows.ne hz hx).1 h)]
        exact portrays.html own'
    · intro own'
      have under := below hz
      rw [parent?_of_node? hk] at under
      dsimp only
      by_cases child : node.parent = some n
      · rw [if_pos child, if_pos (under.2 child)]
        rfl
      · rw [if_neg child, if_neg fun h => child (under.1 h)]
        exact portrays.parent own'
    · intro own' w hw
      dsimp only at hw
      split at hw
      · refine ⟨(fresh w hw).2, fun j hj => ?_⟩
        have := shows.placed j w hj
        have := (fresh w hw).1
        omega
      · exact ⟨(portrays.links own' w hw).1.trans_le replaced.grown, (portrays.links own' w hw).2⟩
  · obtain ⟨new, _, closed⟩ := replaced.outlines z (hz.trans_le shows.inside)
    rw [pageParent?_eq, closed] at hw
    cases ho : outline? p z with
    | none =>
      rw [ho] at hw
      cases hw
    | some o =>
      rw [ho, Option.map_some, Option.bind_some] at hw
      dsimp only at hw
      split at hw
      · cases hw
      · exact shows.outer z w hz (by rw [pageParent?_eq, ho]; exact hw)

/-- A node is made on both sides. -/
theorem Shows.create {E' : NodeId → Option ElementId} (shows : Shows g E m p) (linked : Linked m)
    (mounted : m.issued ⟨0⟩) (kind : NodeKind)
    (grown : ∀ n, E' n = if n = (m.create kind).1 then some (p.create kind.tagName).1 else E n) :
    Shows g E' (m.create kind).2 (p.create kind.tagName).2 := by
  have size : (p.create kind.tagName).2.elements.size = p.elements.size + 1 := by simp [Page.create]
  have kept {k : NodeId} (hk : m.issued k) : E' k = E k := by
    rw [grown, if_neg]
    rintro rfl
    simp [MemoryDocument.issued, MemoryDocument.create] at hk
  have made {n : NodeId} {x : ElementId} (hx : E' n = some x) :
      (n = (m.create kind).1 ∧ x = (p.create kind.tagName).1) ∨ (m.issued n ∧ E n = some x) := by
    rw [grown] at hx
    split at hx
    · next new => exact .inl ⟨new, (Option.some.inj hx).symm⟩
    · exact .inr ⟨(shows.issued n).symm.trans (Option.isSome_iff_exists.2 ⟨x, hx⟩), hx⟩
  have fresh {n : NodeId} {x : ElementId} (hx : E n = some x) : x ≠ (p.create kind.tagName).1 := by
    rintro rfl
    exact absurd (shows.placed n _ hx) (lt_irrefl _)
  refine ⟨fun n => ?_, fun n x hx => ?_, fun n k x hx hk => ?_, fun x hx => ?_, fun n x hx own =>
    ?_, fun n x hx => ?_,
    fun x y hx hy => ?_, shows.front, size ▸ shows.inside.trans (Nat.le_succ _)⟩
  · rw [grown]
    by_cases new : n = (m.create kind).1
    · rw [if_pos new, new]
      simp [MemoryDocument.issued, MemoryDocument.create]
    · rw [if_neg new, shows.issued, Bool.eq_iff_iff, issued_iff, issued_iff,
        node?_create, if_neg new]
  · rcases made hx with ⟨-, rfl⟩ | ⟨-, hx⟩
    · exact size ▸ Nat.lt_succ_self _
    · exact size ▸ (shows.placed n x hx).trans (Nat.lt_succ_self _)
  · rcases made hx with ⟨rfl, rfl⟩ | ⟨-, hx⟩ <;> rcases made hk with ⟨rfl, new⟩ | ⟨-, hk⟩
    · rfl
    · exact absurd rfl (fresh hk)
    · exact absurd new (fresh hx)
    · exact shows.distinct n k x hx hk
  · exact shows.mount x (kept mounted ▸ hx)
  · rcases made hx with ⟨-, rfl⟩ | ⟨-, hx⟩
    · exact shows.inside
    · exact shows.made n x hx own
  · rcases made hx with ⟨rfl, rfl⟩ | ⟨there, hx⟩
    · refine ⟨_, _, by rw [outline?_create, if_pos rfl],
        by rw [node?_create, if_pos rfl], fun _ => rfl, ?_,
        fun _ => rfl, fun _ => rfl, fun _ y hy => absurd hy List.not_mem_nil⟩
      have later : ¬ (m.create kind).1.index = 0 := fun first => by
        simp only [MemoryDocument.issued, decide_eq_true_eq] at mounted
        exact absurd first (Nat.pos_iff_ne_zero.1 mounted)
      rw [if_neg later]
      rfl
    · obtain ⟨o, node, ho, hn, portrays⟩ := shows.portraits n x hx
      refine ⟨o, node, by rw [outline?_create, if_neg (fresh hx), ho],
        (node?_create_of_issued kind there).trans hn, portrays.tag,
        ?_, portrays.html, fun own => ?_, fun own y hy => ?_⟩
      · rw [portrays.children]
        congr 1
        refine List.filterMap_congr fun c hc => (kept ?_).symm
        rw [← children_of_node? hn, linked] at hc
        exact issued_of_parent? hc
      · rw [portrays.parent own]
        cases above : node.parent with
        | none => rfl
        | some q => exact (kept (linked.issued_parent ((parent?_of_node? hn).trans above))).symm
      · have old := portrays.links own y hy
        refine ⟨size ▸ old.1.trans (Nat.lt_succ_self _), fun k hk => ?_⟩
        rcases made hk with ⟨-, rfl⟩ | ⟨-, hk⟩
        · exact absurd old.1 (lt_irrefl _)
        · exact old.2 k hk
  · rw [pageParent?_eq, outline?_create] at hy
    split at hy
    · cases hy
    · exact shows.outer x y hx (by rw [pageParent?_eq, hy])

/-! ## What does not show -/

/-- What a portrait shows of a node. -/
def features (node : MemoryNode) : NodeKind × Option NodeId × List NodeId × String :=
  (node.kind, node.parent, node.children, node.html)

/-- Every node looks the same in both documents. -/
def Lookalike (m m' : MemoryDocument) : Prop :=
  ∀ n, (m'.node? n).map features = (m.node? n).map features

lemma Lookalike.refl : Lookalike m m := fun _ => rfl

lemma alike_of_nodes (same : m'.nodes = m.nodes) : Lookalike m m' :=
  fun _ => by rw [node?_of_nodes same]

lemma alike_modify {f : MemoryNode → MemoryNode}
    (same : ∀ node, features (f node) = features node) : Lookalike m (m.modify n f) := by
  intro k
  rw [node?_modify]
  cases m.node? k with
  | none => simp
  | some node =>
    split
    · exact congrArg some (same node)
    · rfl

lemma Lookalike.nodeTies (alike : Lookalike m m') : nodeTies m' = nodeTies m := by
  refine Array.ext_getElem? fun i => ?_
  have shown (m : MemoryDocument) :
      (Proofs.nodeTies m)[i]? = ((m.node? ⟨i⟩).map features).map fun f => ⟨f.2.1, f.2.2.1⟩ := by
    rw [Option.map_map]
    exact Array.getElem?_map
  rw [shown, shown, alike]

lemma Lookalike.linked (alike : Lookalike m m') (linked : Linked m) : Linked m' := by
  intro n q
  rw [← parent?_nodeTies, ← children_nodeTies, alike.nodeTies, parent?_nodeTies, children_nodeTies]
  exact linked n q

/-- A reset leaves a node as if it had been taken out and its content replaced by nothing. -/
lemma alike_reset (linked : Linked m) : Lookalike ((m.detach n).setHtml n "") (m.reset n) := by
  intro k
  rw [node?_reset linked, node?_setHtml linked.of_detach, node?_detach linked, Option.map_map]
  cases m.node? k with
  | none => simp
  | some node =>
    by_cases same : k = n
    · simp [same, features, MemoryNode.fresh]
    · simp [same, features, without]

theorem Shows.alike (shows : Shows g E m p) (alike : Lookalike m m')
    (size : p'.elements.size = p.elements.size)
    (outlines : ∀ x, outline? p' x = outline? p x) : Shows g E m' p' := by
  refine ⟨fun n => ?_, fun n x hx => size ▸ shows.placed n x hx, shows.distinct, shows.mount,
    shows.made, fun n x hx => ?_,
    fun x y hx hy => ?_, shows.front, size ▸ shows.inside⟩
  · have same := congrArg Option.isSome (alike n)
    rw [Option.isSome_map, Option.isSome_map] at same
    rw [shows.issued, Bool.eq_iff_iff, issued_iff, issued_iff, ← Option.isSome_iff_exists,
      ← Option.isSome_iff_exists, same]
  · obtain ⟨o, node, ho, hn, portrays⟩ := shows.portraits n x hx
    have same := alike n
    rw [hn, Option.map_some, Option.map_eq_some_iff] at same
    obtain ⟨node', hn', same⟩ := same
    simp only [features, Prod.mk.injEq] at same
    obtain ⟨kind, parent, children, html⟩ := same
    refine ⟨o, node', (outlines x).trans ho, hn', ?_, ?_, ?_, ?_, ?_⟩
    · exact fun own => by rw [kind, portrays.tag own]
    · rw [children, portrays.children]
    · exact html ▸ portrays.html
    · exact parent ▸ portrays.parent
    · exact size ▸ portrays.links
  · rw [pageParent?_eq, outlines, ← pageParent?_eq] at hy
    exact shows.outer x y hx hy

end Trees

end LayeredPage.Proofs
