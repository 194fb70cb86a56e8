import LayeredPage.Proofs.Records
import LayeredPage.Proofs.Workbench

/-!
# Work on one element leaves the others alone

Besides the pools, the work on an element shares the fonts and the focus with the others, and
nothing more. Their nodes are recorded and observed as before, and neither the root's properties nor
the images nor the core are touched.
-/

namespace LayeredPage.Proofs

open MemoryDocument

/-- Starts a sampler. -/
def Samples : BenchRequest → Prop
  | .sample .. => True
  | _ => False

/-- What work leaves alone that concerns none of these nodes: it may load faces, each entered in the
cache. Samplers stay as they are while it is `still`. -/
structure Discreet {κ : Type} (still : Prop) (K : NodeId → Prop) (fonts : FontCache)
    (h : MemoryHost κ) (fonts' : FontCache) (h' : MemoryHost κ) : Prop where
  records : Kept K h.document h'.document
  observed : ∀ m, K m → (m.index ∈ h'.document.observed ↔ m.index ∈ h.document.observed)
  properties : h'.document.rootProperties = h.document.rootProperties
  images : h'.document.images = h.document.images
  loads : ∃ faces, h'.document.faces = h.document.faces ++ faces ∧
    fonts'.faces = faces.reverse ++ fonts.faces
  samplers : still → h'.document.samplers = h.document.samplers
  core : h'.core = h.core

namespace Discreet

variable {κ : Type} {still still' : Prop} {K : NodeId → Prop} {fonts fonts' fonts'' : FontCache}
  {h h' h'' : MemoryHost κ}

lemma refl : Discreet still K fonts h fonts h :=
  ⟨.refl, fun _ _ => Iff.rfl, rfl, rfl, ⟨[], (List.append_nil _).symm, rfl⟩, fun _ => rfl, rfl⟩

lemma trans (first : Discreet still K fonts h fonts' h')
    (second : Discreet still' K fonts' h' fonts'' h'') :
    Discreet (still ∧ still') K fonts h fonts'' h'' := by
  obtain ⟨faces, document, cache⟩ := first.loads
  obtain ⟨faces', document', cache'⟩ := second.loads
  refine ⟨first.records.trans second.records, fun m hm =>
    (second.observed m hm).trans (first.observed m hm),
    second.properties.trans first.properties, second.images.trans first.images,
    ⟨faces ++ faces', ?_, ?_⟩,
    fun both => (second.samplers both.2).trans (first.samplers both.1),
    second.core.trans first.core⟩
  · rw [document', document, List.append_assoc]
  · rw [cache', cache, List.reverse_append, List.append_assoc]

lemma mono (discreet : Discreet still K fonts h fonts' h') (fewer : still' → still) :
    Discreet still' K fonts h fonts' h' :=
  { discreet with samplers := fun hs => discreet.samplers (fewer hs) }

/-- Nodes may change, what is observed of them, and the focus. -/
lemma of_nodewise (records : Kept K h.document h'.document)
    (observed : ∀ m, K m → (m.index ∈ h'.document.observed ↔ m.index ∈ h.document.observed))
    (nodewise : Nodewise h.document h'.document) (core : h'.core = h.core) :
    Discreet still K fonts h fonts h' := by
  obtain ⟨nodes, observed', focused, eq⟩ := nodewise
  refine ⟨records, observed, ?_, ?_, ⟨[], ?_, rfl⟩, fun _ => ?_, core⟩ <;> rw [eq]
  exact (List.append_nil _).symm

/-- A write to a stranger, with no known node right below if it replaces what is there. -/
lemma written {n : NodeId} (linked : Linked h.document) (w : NodeWrite) (other : ¬ K n)
    (apart : replaces w = true → ∀ m, K m → h.document.parent? m ≠ some n)
    (doc : h'.document = Proofs.written w n h.document) (core : h'.core = h.core) :
    Discreet still K fonts h fonts h' := by
  refine .of_nodewise (doc ▸ .written linked w other apart) (fun m hm => ?_)
    (doc ▸ nodewise_written w n _) core
  rw [doc]
  have index : n.index ≠ m.index :=
    fun same => other (by rwa [show n = m from congrArg NodeId.mk same])
  cases w with
  | observe =>
    change m.index ∈ h.document.observed.insert n.index ↔ _
    rw [Std.ExtTreeSet.mem_insert, compare_eq_iff_eq]
    exact or_iff_right index
  | html markup =>
    obtain ⟨nodes, eq, _⟩ := exists_setHtml (d := h.document) (n := n) markup
    simp only [Proofs.written, eq]
  | text content =>
    obtain ⟨nodes, eq, _⟩ := exists_setHtml (d := h.document) (n := n) (Text.escapeData content)
    simp only [Proofs.written, eq]
  | attr | style | noStyle | linkStyle | form | bind | focus => exact Iff.rfl

end Discreet

section Requests

variable {κ : Type} {still : Prop} {base : Nat} {rest : List OwnedNode} {e₀ : Element}
  {d₀ : MemoryDocument} {b : Bench} {h : MemoryHost κ} {fonts : FontCache}

/-- A node joins the element below one of its nodes. -/
lemma AtWork.joined (work : AtWork base rest e₀ d₀ b h.document) {ps : NodePools} {n : OwnedNode}
    {kind : NodeKind} {p : NodeId}
    {h₁ : MemoryHost κ} (o : Owned base ps (n :: (b.element.nodes ++ rest)) h₁.document)
    (blank : h₁.document.node? n.id = some (.fresh kind))
    (taken : Kept (Known base (b.element.nodes ++ rest)) h.document h₁.document)
    (core : h₁.core = h.core) (same : ∃ nodes, h₁.document = { h.document with nodes })
    (hp : p ∈ b.element.nodes.map (·.id)) :
    Discreet still
      (Known base rest) fonts h fonts { h₁ with document := h₁.document.append p n.id } := by
  have new (known : Known base rest n.id) : False := ne_of_joined o (known.behind _) rfl
  have own (known : Known base rest p) : False := work.owned.strange hp known rfl
  have hung : Kept (Known base rest) h₁.document (h₁.document.append p n.id) :=
    .append o.linked new own (parent?_of_node? blank)
  have whole : ∃ nodes, h₁.document.append p n.id = { h.document with nodes } := by
    obtain ⟨nodes, eq⟩ := same
    obtain ⟨nodes', eq', _⟩ := exists_append (d := h₁.document) (p := p) (c := n.id)
    exact ⟨nodes', by rw [eq', eq]⟩
  obtain ⟨nodes, eq⟩ := whole
  refine .of_nodewise ((taken.mono fun m hm => hm.behind _).trans hung) (fun m _ => ?_)
    ⟨nodes, _, _, eq⟩ core
  dsimp only
  rw [eq]

variable [Core κ]

/-- A face is loaded when it is entered in the cache. -/
lemma register_loads (font : Font) (fonts : FontCache) :
    Yields (FontCache.register font) fonts h fun _ fonts' h' => ∃ faces,
    fonts'.faces = faces.reverse ++ fonts.faces ∧
      h' = { h with document := { h.document with faces := h.document.faces ++ faces } } := by
  unfold FontCache.register
  cases font.face? with
  | none => exact ⟨[], rfl, by rw [List.append_nil]⟩
  | some face =>
    refine (ends_bind _ _ _).2 ((ends_get _).2 ?_)
    by_cases loaded : face ∈ fonts.faces
    · rw [if_pos loaded]
      exact ⟨[], rfl, by rw [List.append_nil]⟩
    · rw [if_neg loaded]
      exact ⟨[face], rfl, rfl⟩

theorem AtWork.perform_discreet (work : AtWork base rest e₀ d₀ b h.document) (r : BenchRequest) :
    Yields (Bench.perform r) b h fun _ b' h' =>
      Discreet (¬ Samples r) (Known base rest) b.fonts h b'.fonts h' := by
  have issued {n : NodeId} (hn : n ∈ b.element.nodes.map (·.id)) : h.document.issued n :=
    work.owned.issued_of_known (.inr (mem_held hn))
  have stranger {m p : NodeId} (hm : Known base rest m) (hp : p ∈ b.element.nodes.map (·.id)) :
      h.document.parent? m ≠ some p :=
    work.family.stranger work.owned (hm.imp_right .inr) hp
  cases r with
  | look | note | resizeRegion => exact .refl
  | write spot w =>
    have hn := node_mem b.element spot
    refine (ends_bind _ _ _).2
      ((ends_get _).2 ((ends_script _ _).2 ((answers_write w (issued hn)).2 ?_)))
    exact .written work.owned.linked w (fun known => work.owned.strange hn known rfl)
      (fun _ m hm => stranger hm hn) rfl rfl
  | html spot =>
    obtain ⟨record, hn⟩ := issued_iff.1 (issued (node_mem b.element spot))
    refine (ends_bind _ _ _).2 ((ends_get _).2 ((ends_ask _ _).2 ?_))
    rw [answer_innerHtml hn]
    exact .refl
  | sample tracker interval =>
    have begun {d : MemoryDocument} (eq : ∃ samplers, d = { h.document with samplers }) :
        Discreet (¬ Samples (.sample tracker interval)) (Known base rest) b.fonts h b.fonts
          { h with document := d } := by
      obtain ⟨samplers, rfl⟩ := eq
      exact ⟨.of_nodes rfl, fun _ _ => Iff.rfl, rfl, rfl, ⟨[], (List.append_nil _).symm, rfl⟩,
        fun no => absurd trivial no, rfl⟩
    refine (ends_bind _ _ _).2 ((ends_get _).2 ((ends_bind _ _ _).2 ((ends_ask _ _).2 ?_)))
    cases hs : b.element.scroll with
    | none => exact begun ⟨_, rfl⟩
    | some region => exact begun ⟨_, rfl⟩
  | useFont font =>
    refine (ends_bind _ _ _).2 ((ends_focus _ _).2 ((register_loads font b.fonts).ends ?_))
    rintro _ fonts h' ⟨faces, cache, rfl⟩
    exact ⟨.of_nodes rfl, fun _ _ => Iff.rfl, rfl, rfl, ⟨faces, rfl, cache⟩, fun _ => rfl, rfl⟩
  | clearOptions =>
    have held : (b.element.nodes ++ rest).Perm
        (b.element.options ++ (b.element.leaf :: b.element.parts ++ rest)) := by
      rw [Element.nodes, Element.fittings, ← List.cons_append,
        ← List.append_assoc b.element.options]
      exact List.perm_append_comm.append_right rest
    have own (n) (hn : n ∈ b.element.options) : n.id ∈ b.element.fittings.map (·.id) :=
      List.mem_map_of_mem (List.mem_append_right _ hn)
    refine (ends_bind _ _ _).2
      ((ends_get _).2 ((ends_bind _ _ _).2 ((ends_modify _ _).2 ((ends_focus _ _).2 ?_))))
    refine (Owned.giveBack_returns (K := Known base rest) (work.owned.perm held) fun m hm n hn =>
      ?_).ends ?_
    · have inside := List.mem_cons_of_mem b.element.leaf.id (own n hn)
      exact ⟨work.owned.strange inside hm, stranger hm inside⟩
    · rintro _ ps h' ⟨_, back⟩
      refine .of_nodewise (back.records.kept work.owned.linked fun m hm =>
        ⟨hm, fun c hc above => ?_⟩) back.observed
        back.nodewise back.core
      obtain ⟨n, hn, rfl⟩ := List.mem_map.1 hc
      exact work.owned.strange ((work.family n.id m above).2 (own n hn)) hm rfl
  | addPart parent kind =>
    have hp := node_mem b.element parent
    refine (ends_bind _ _ _).2 ((ends_focus _ _).2 ((work.owned.take_kept kind).ends ?_))
    rintro n ps h' ⟨⟨o, _, blank, _⟩, taken, core, same⟩
    refine (ends_bind _ _ _).2 ((ends_get _).2 ((ends_bind _ _ _).2 ((ends_ask _ _).2 ?_)))
    rw [answer_appendChild (o.issued_of_known (.inr (List.mem_cons_of_mem _ (mem_held hp))))
      (issued_of_node? blank)]
    exact work.joined o blank taken core same hp
  | addOption parent kind =>
    have hp := node_mem b.element parent
    refine (ends_bind _ _ _).2 ((ends_focus _ _).2 ((work.owned.take_kept kind).ends ?_))
    rintro n ps h' ⟨⟨o, _, blank, _⟩, taken, core, same⟩
    refine (ends_bind _ _ _).2 ((ends_get _).2 ((ends_bind _ _ _).2 ((ends_ask _ _).2 ?_)))
    have above : Known base (n :: (b.element.nodes ++ rest)) (b.element.node parent) :=
      .inr (List.mem_cons_of_mem _ (mem_held hp))
    have below : n.id ∈ (n :: (b.element.nodes ++ rest)).map (·.id) := List.mem_cons_self
    rw [answer_appendChild (o.issued_of_known above) (issued_of_node? blank)]
    have hung : Discreet True (Known base rest) b.fonts h b.fonts
        { h' with document := h'.document.append (b.element.node parent) n.id } :=
          work.joined o blank taken core same hp
    have o₂ := o.append above below
    cases focusable : kind.isFocusable with
    | false => exact hung.mono fun _ => trivial
    | true =>
      cases tabIndex : b.element.tabIndex with
      | none => exact hung.mono fun _ => trivial
      | some tab =>
        refine (ends_bind _ _ _).2 ((ends_ask _ _).2 ?_)
        rw [answer_setAttribute (o₂.issued_of_known (.inr below))]
        have other (known : Known base rest n.id) : False := ne_of_joined o (known.behind _) rfl
        let marked : MemoryHost κ :=
          { h' with document := written (.attr "tabindex" (toString tab)) n.id (h'.document.append
            (b.element.node parent) n.id) }
        have second : Discreet True (Known base rest) b.fonts
            { h' with document := h'.document.append (b.element.node parent) n.id } b.fonts
              marked :=
          .written o₂.linked (.attr "tabindex" (toString tab)) other
            (fun no => absurd no Bool.false_ne_true) rfl rfl
        have whole :
            Discreet (¬ Samples (.addOption parent kind))
              (Known base rest) b.fonts h b.fonts marked :=
          (hung.trans second).mono fun _ => ⟨trivial, trivial⟩
        exact whole

/-- A whole craft is as discreet as its requests. -/
theorem AtWork.carryOut_discreet {α : Type}
    (work : AtWork base rest e₀ d₀ b h.document) (craft : Craft α) :
    Ends (Bench.carryOut craft) b h
      (fun _ b' h' => AtWork base rest e₀ d₀ b' h'.document ∧
        Discreet (Uses (¬ Samples ·) craft) (Known base rest) b.fonts h b'.fonts h')
      (fun _ _ _ => False) (fun _ => ¬ Uses (fun _ => True) craft) := by
  induction craft generalizing b h with
  | done a => exact ⟨work, .refl⟩
  | ask r next ih =>
    refine (ends_bind _ _ _).2 (((work.perform r).and (work.perform_discreet r)).ends ?_)
    rintro reply b₁ h₁ ⟨work₁, first⟩
    refine (ih reply work₁).mono ?_ (fun _ _ _ => id) fun _ broken uses => broken (uses.2 reply)
    rintro a b₂ h₂ ⟨work₂, second⟩
    exact ⟨work₂, (first.trans second).mono fun uses => ⟨uses.1, uses.2 reply⟩⟩
  | broken why => exact id

end Requests

end LayeredPage.Proofs
