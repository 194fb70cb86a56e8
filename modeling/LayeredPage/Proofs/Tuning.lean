import LayeredPage.Proofs.Hushing
import LayeredPage.Proofs.Patching

/-!
# What is heard of the live elements

All that a document can report comes from live elements: input from their parts and sizes from the
leaves of texts (`Voiced`), movement from the leaves of scrollers (`Sampled`). Work on an element
keeps it so, and an element that is given back takes its share of it away.
-/

namespace LayeredPage.Proofs

open MemoryDocument

/-- All that is heard in a document or observed belongs to these elements, and their leaves carry
their ids. -/
structure Voiced (elements : Std.ExtTreeMap UInt32 Element) (d : MemoryDocument) : Prop where
  heard : ∀ (n : NodeId) (id : UInt32) (b : InputBinding), (id, b) ∈ heard d n →
    ∃ e, elements[id]? = some e ∧ speaker b = e.widget ∧ n ∈ e.parts.map (·.id)
  labels : ∀ (id : UInt32) (e : Element), elements[id]? = some e →
    label? d e.leaf.id = some (toString id)
  observed : ∀ i ∈ d.observed, ∃ (id : UInt32) (e : Element), elements[id]? = some e ∧
    e.widget = .text ∧ e.leaf.id.index = i

/-- The live samplers are those of these elements, each on its leaf. -/
structure Sampled (elements : Std.ExtTreeMap UInt32 Element) (samplers : Array MemorySampler) :
    Prop where
  claimed : ∀ (i : Nat) (m : MemorySampler), samplers[i]? = some m → m.live →
    ∃ (id : UInt32) (e : Element) (r : ScrollRegion),
    elements[id]? = some e ∧ e.scroll = some r ∧ r.sampler.index = i
  running : ∀ (id : UInt32) (e : Element) (r : ScrollRegion),
    elements[id]? = some e → e.scroll = some r →
    ∃ m, samplers[r.sampler.index]? = some m ∧ m.live ∧ m.node = e.leaf.id

structure Tuned (elements : Std.ExtTreeMap UInt32 Element) (d : MemoryDocument) : Prop where
  voiced : Voiced elements d
  sampled : Sampled elements d.samplers

/-- Scrollers scroll, and no other element does. -/
def Furnished (elements : Std.ExtTreeMap UInt32 Element) : Prop :=
  ∀ (id : UInt32) (e : Element), elements[id]? = some e →
    (e.scroll.isSome = true ↔ e.widget = .scroller)

/-- The second element is the first one after some work on it. -/
structure Continues (e e' : Element) : Prop where
  widget : e'.widget = e.widget
  leaf : e'.leaf = e.leaf
  parts : ∀ n ∈ e.parts.map (·.id), n ∈ e'.parts.map (·.id)

section Tables

variable {elements : Std.ExtTreeMap UInt32 Element} {id : UInt32} {e e' : Element}
  {d d' : MemoryDocument} {samplers : Array MemorySampler} {spared : NodeId → Prop}

lemma Continues.refl : Continues e e := ⟨rfl, rfl, fun _ => id⟩

lemma Voiced.hush (voiced : Voiced elements d) (hush : Hushes spared d d')
    (leaves : ∀ (id : UInt32) (e : Element), elements[id]? = some e → spared e.leaf.id) :
    Voiced elements d' where
  heard n id b hb := voiced.heard n id b (hush.heard n _ hb)
  labels id e he := (hush.labels _ (leaves id e he)).trans (voiced.labels id e he)
  observed i hi := voiced.observed i (hush.observed i hi)

lemma Tuned.hush (tuned : Tuned elements d) (hush : Hushes spared d d')
    (leaves : ∀ (id : UInt32) (e : Element), elements[id]? = some e → spared e.leaf.id) :
    Tuned elements d' :=
  ⟨tuned.voiced.hush hush leaves, hush.samplers ▸ tuned.sampled⟩

lemma insert_of_found (found : elements[id]? = some e) : elements.insert id e = elements := by
  refine Std.ExtTreeMap.ext_getElem? fun j => ?_
  rw [getElem?_insert_eq]
  split
  · next here => rw [here, found]
  · rfl

lemma insert_erase_of_found (found : elements[id]? = some e) :
    (elements.erase id).insert id e = elements := by
  refine Std.ExtTreeMap.ext_getElem? fun j => ?_
  rw [getElem?_insert_eq]
  split
  · next here => rw [here, found]
  · next other =>
    rw [Std.ExtTreeMap.getElem?_erase, if_neg]
    exact fun same => other (Std.LawfulEqCmp.eq_of_compare same).symm

/-- Whoever is in the table is there after the change too, as itself or further on. -/
lemma exists_continued (c : Continues e e') {j : UInt32} {x : Element}
    (hx : (elements.insert id e)[j]? = some x) :
    ∃ x', (elements.insert id e')[j]? = some x' ∧ Continues x x' := by
  rcases getElem?_table_insert hx with ⟨rfl, rfl⟩ | ⟨other, hx⟩
  · exact ⟨e', Std.ExtTreeMap.getElem?_insert_self, c⟩
  · exact ⟨x, (getElem?_insert_of_ne other).trans hx, .refl⟩

/-- The element at hand may go on while nothing else happens. -/
lemma Voiced.goOn (voiced : Voiced (elements.insert id e) d) (c : Continues e e') :
    Voiced (elements.insert id e') d where
  heard n j b hb := by
    obtain ⟨x, hx, kind, part⟩ := voiced.heard n j b hb
    obtain ⟨x', hx', on⟩ := exists_continued c hx
    exact ⟨x', hx', kind.trans on.widget.symm, on.parts n part⟩
  labels j x' hx' := by
    rcases getElem?_table_insert hx' with ⟨rfl, rfl⟩ | ⟨other, hx⟩
    · rw [c.leaf]
      exact voiced.labels j e Std.ExtTreeMap.getElem?_insert_self
    · exact voiced.labels j x' ((getElem?_insert_of_ne other).trans hx)
  observed i hi := by
    obtain ⟨j, x, hx, kind, leaf⟩ := voiced.observed i hi
    obtain ⟨x', hx', on⟩ := exists_continued c hx
    exact ⟨j, x', hx', on.widget.trans kind, by rw [on.leaf, leaf]⟩

/-- An element that keeps its sampler may change in all else. -/
lemma Sampled.goOn (sampled : Sampled (elements.insert id e) samplers) (leaf : e'.leaf = e.leaf)
    (scroll : e'.scroll.map (·.sampler) = e.scroll.map (·.sampler)) :
    Sampled (elements.insert id e') samplers where
  claimed i m hm live := by
    obtain ⟨j, x, r, hx, hr, index⟩ := sampled.claimed i m hm live
    rcases getElem?_table_insert hx with ⟨rfl, rfl⟩ | ⟨other, hx⟩
    · rw [hr] at scroll
      obtain ⟨r', hr', same⟩ := Option.map_eq_some_iff.1 scroll
      exact ⟨j, e', r', Std.ExtTreeMap.getElem?_insert_self, hr', by rw [same, index]⟩
    · exact ⟨j, x, r, (getElem?_insert_of_ne other).trans hx, hr, index⟩
  running j x r hx hr := by
    rcases getElem?_table_insert hx with ⟨rfl, rfl⟩ | ⟨other, hx⟩
    · rw [hr] at scroll
      obtain ⟨r', hr', same⟩ := Option.map_eq_some_iff.1 scroll.symm
      have same : r'.sampler = r.sampler := same
      rw [← same, leaf]
      exact sampled.running j e r' Std.ExtTreeMap.getElem?_insert_self hr'
    · exact sampled.running j x r ((getElem?_insert_of_ne other).trans hx) hr

/-- An element that did not scroll has its leaf sampled. -/
lemma Sampled.start (sampled : Sampled (elements.insert id e) samplers) (still : e.scroll = none)
    {m : MemorySampler} (live : m.live) (node : m.node = e.leaf.id) (width height : Float) :
    Sampled (elements.insert id { e with scroll := some ⟨⟨samplers.size⟩, width, height⟩ })
    (samplers.push m) where
  claimed i m' hm' live' := by
    rw [Array.getElem?_push] at hm'
    split at hm'
    · next new => exact ⟨id, _, _, Std.ExtTreeMap.getElem?_insert_self, rfl, new.symm⟩
    · obtain ⟨j, x, r, hx, hr, index⟩ := sampled.claimed i m' hm' live'
      rcases getElem?_table_insert hx with ⟨rfl, rfl⟩ | ⟨other, hx⟩
      · rw [still] at hr
        cases hr
      · exact ⟨j, x, r, (getElem?_insert_of_ne other).trans hx, hr, index⟩
  running j x r hx hr := by
    rcases getElem?_table_insert hx with ⟨rfl, rfl⟩ | ⟨other, hx⟩
    · cases hr
      exact ⟨m, Array.getElem?_push_size, live, node⟩
    · obtain ⟨m', hm', live', node'⟩ :=
        sampled.running j x r ((getElem?_insert_of_ne other).trans hx) hr
      have old := (Array.getElem?_eq_some_iff.1 hm').1
      exact ⟨m', by rw [Array.getElem?_push, if_neg old.ne, hm'], live', node'⟩

/-- The sampler of an element is stopped; nobody else samples its leaf. -/
lemma Sampled.stop (sampled : Sampled (elements.insert id e) samplers) {r : ScrollRegion}
    (hr : e.scroll = some r)
    (apart : ∀ (j : UInt32) (x : Element), j ≠ id → elements[j]? = some x → x.leaf.id ≠ e.leaf.id) :
    Sampled (elements.insert id { e with scroll := none })
      (samplers.modify r.sampler.index fun m => { m with live := false }) where
  claimed i m hm live := by
    rw [Array.getElem?_modify] at hm
    split at hm
    · obtain ⟨m', _, rfl⟩ := Option.map_eq_some_iff.1 hm
      cases live
    · next elsewhere =>
      obtain ⟨j, x, r', hx, hr', index⟩ := sampled.claimed i m hm live
      rcases getElem?_table_insert hx with ⟨rfl, rfl⟩ | ⟨other, hx⟩
      · rw [hr] at hr'
        cases hr'
        exact absurd index elsewhere
      · exact ⟨j, x, r', (getElem?_insert_of_ne other).trans hx, hr', index⟩
  running j x r' hx hr' := by
    rcases getElem?_table_insert hx with ⟨rfl, rfl⟩ | ⟨other, hx⟩
    · cases hr'
    · obtain ⟨m', hm', live', node'⟩ :=
        sampled.running j x r' ((getElem?_insert_of_ne other).trans hx) hr'
      obtain ⟨m, hm, _, node⟩ := sampled.running id e r Std.ExtTreeMap.getElem?_insert_self hr
      refine ⟨m', ?_, live', node'⟩
      rw [Array.getElem?_modify, if_neg, hm']
      intro same
      rw [same, hm'] at hm
      cases hm
      exact apart j x other hx (node'.symm.trans node)

lemma Voiced.bind (voiced : Voiced elements d) (found : elements[id]? = some e)
    {n : NodeId} {b : InputBinding} (kind : speaker b = e.widget) (part : n ∈ e.parts.map (·.id)) :
    Voiced elements (written (.bind id b) n d) where
  heard m j c hc := by
    by_cases old : (j, c) ∈ Proofs.heard d m
    · exact voiced.heard m j c old
    · unfold Proofs.heard at hc old
      change (j, c) ∈
        (((d.modify n (recorded (.bind id b))).node? m).map (·.bindings)).getD [] at hc
      rw [node?_modify] at hc
      by_cases same : m = n
      · cases hm : d.node? m with
        | none =>
          rw [if_pos same, hm] at hc
          exact absurd hc List.not_mem_nil
        | some node =>
          rw [if_pos same, hm] at hc
          rw [hm] at old
          rcases List.mem_append.1 hc with before | added
          · exact absurd before old
          · cases List.mem_singleton.1 added
            exact ⟨e, found, kind, same ▸ part⟩
      · rw [if_neg same] at hc
        exact absurd hc old
  labels j x hx := by
    have kept : label? (written (.bind id b) n d) x.leaf.id = label? d x.leaf.id := by
      unfold label? attributeOf?
      change ((d.modify n (recorded (.bind id b))).node? _).bind _ = _
      rw [node?_modify]
      split
      · cases d.node? x.leaf.id <;> rfl
      · rfl
    rw [kept]
    exact voiced.labels j x hx
  observed := voiced.observed

lemma Voiced.observe (voiced : Voiced elements d) (found : elements[id]? = some e)
    (text : e.widget = .text) :
    Voiced elements (written .observe e.leaf.id d) where
  heard := voiced.heard
  labels := voiced.labels
  observed i hi := by
    rcases Std.ExtTreeSet.mem_insert.1 hi with here | before
    · exact ⟨id, e, found, text, Std.LawfulEqCmp.eq_of_compare here⟩
    · exact voiced.observed i before

end Tables

/-! ## Work on an element -/

/-- The element at the bench counts among these, and has as much as its craft has added. -/
structure Tended (base : Nat) (rest : List OwnedNode) (e₀ : Element) (d₀ : MemoryDocument)
    (elements : Std.ExtTreeMap UInt32 Element) (id : UInt32) (t : Tally) (b : Bench)
    (d : MemoryDocument) : Prop where
  work : AtWork base rest e₀ d₀ b d
  tuned : Tuned (elements.insert id b.element) d
  parts : b.element.parts.length = t.parts
  sampled : b.element.scroll.isSome = t.sampled

section Requests

variable {κ : Type} [Core κ] {base : Nat} {rest : List OwnedNode} {e₀ : Element}
  {d₀ : MemoryDocument} {elements : Std.ExtTreeMap UInt32 Element} {id : UInt32} {t : Tally}
  {b : Bench} {h : MemoryHost κ}

lemma node_part {e : Element} {i : Nat} (hi : i < e.parts.length) :
    e.node (.part i) ∈ e.parts.map (·.id) := by
  have there : e.parts[i]? = some e.parts[i] := List.getElem?_eq_getElem hi
  simp only [Element.node, Element.part?, there, Option.map_some, Option.getD_some]
  exact List.mem_map_of_mem (List.getElem_mem hi)

/-- What is heard stays with the elements when the bench does something decent. -/
lemma Tended.tuned_perform (tended : Tended base rest e₀ d₀ elements id t b h.document)
    (others : ∀ (j : UInt32) (x : Element), j ≠ id → elements[j]? = some x →
      x.leaf.id ∈ rest.map (·.id))
    {r : BenchRequest} (decent : Decent e₀.widget id t r) :
    Ends (Bench.perform r) b h
      (fun reply b' h' => Tuned (elements.insert id b'.element) h'.document ∧
        b'.element.parts.length = (t.after r).parts ∧
        b'.element.scroll.isSome = (t.after r).sampled ∧ Numbered t r reply)
      (fun _ _ _ => True) fun _ => True := by
  obtain ⟨work, tuned, parts, sampled⟩ := tended
  have found : (elements.insert id b.element)[id]? = some b.element :=
    Std.ExtTreeMap.getElem?_insert_self
  let spared (n : NodeId) : Prop := n = b.element.leaf.id ∨ n ∈ rest.map (·.id)
  have leaves (j : UInt32) (x : Element) (hx : (elements.insert id b.element)[j]? = some x) :
      spared x.leaf.id := by
    rcases getElem?_table_insert hx with ⟨rfl, rfl⟩ | ⟨other, hx⟩
    · exact .inl rfl
    · exact .inr (others j x other hx)
  have advance {e : Element} {d : MemoryDocument} (hush : Hushes spared h.document d)
    (c : Continues b.element e)
    (scroll : e.scroll.map (·.sampler) = b.element.scroll.map (·.sampler)) :
      Tuned (elements.insert id e) d :=
    ⟨(tuned.voiced.hush hush leaves).goOn c, hush.samplers ▸ tuned.sampled.goOn c.leaf scroll⟩
  have take (kind : NodeKind) :
      Hushed (fun ps => ps) spared (Pools.take kind : Work NodePools OwnedNode) := hushed_take kind
  have asked (r : DocumentRequest) (harmless : Harmless spared r) {h : MemoryHost κ} :
      Answers (ask r) h (fun _ h' => Hushes spared h.document h'.document) fun _ => True :=
    answers_quiet ⟨harmless, fun _ => trivial⟩
  cases r with
  | look => exact ⟨tuned, parts, sampled, trivial⟩
  | note notes => exact ⟨advance .refl ⟨rfl, rfl, fun _ hn => hn⟩ rfl, parts, sampled, trivial⟩
  | resizeRegion width height =>
    refine ⟨advance .refl ⟨rfl, rfl, fun _ hn => hn⟩ ?_, parts, ?_, trivial⟩
    · change (b.element.scroll.map fun r => r.resize width height).map (·.sampler) = _
      cases b.element.scroll <;> rfl
    · exact Option.isSome_map.trans sampled
  | html spot =>
    refine (ends_bind _ _ _).2
      ((ends_get _).2 ((ends_script _ _).2 ((asked (.innerHtml _) trivial).mono ?_
        fun _ _ => trivial)))
    exact fun _ _ hush => ⟨tuned.hush hush leaves, parts, sampled, trivial⟩
  | write spot w =>
    refine (ends_bind _ _ _).2 ((ends_get _).2 ((ends_script _ _).2 ?_))
    have issued : h.document.issued (b.element.node spot) :=
      work.owned.issued_of_known (.inr (mem_held (node_mem b.element spot)))
    have quietly (quiet : Uses (Quiet spared) (w.apply (b.element.node spot))) :
        Answers (w.apply (b.element.node spot)) h
          (fun _ h' => Tuned (elements.insert id b.element) h'.document ∧
            b.element.parts.length = t.parts ∧ b.element.scroll.isSome = t.sampled ∧
            True) fun _ => True :=
      (answers_quiet quiet).mono (fun _ _ hush => ⟨tuned.hush hush leaves, parts, sampled, trivial⟩)
        fun _ _ => trivial
    cases w with
    | bind j binding =>
      obtain ⟨rfl, kind, i, hi, rfl⟩ := decent
      refine (answers_write _ issued).2 ⟨⟨?_, tuned.sampled⟩, parts, sampled, trivial⟩
      exact tuned.voiced.bind found (kind.trans work.widget.symm) (node_part (parts ▸ hi))
    | observe =>
      obtain ⟨text, rfl⟩ := decent
      refine (answers_write _ issued).2 ⟨⟨?_, tuned.sampled⟩, parts, sampled, trivial⟩
      exact tuned.voiced.observe found (work.widget.trans text)
    | attr name value => exact quietly ⟨fun _ => decent, fun _ => trivial⟩
    | style | noStyle | linkStyle | html | text | form | focus =>
      exact quietly ⟨trivial, fun _ => trivial⟩
  | sample tracker interval =>
    have still : b.element.scroll = none := by
      rw [← Option.isNone_iff_eq_none, ← Option.not_isSome, sampled, decent.2]
      rfl
    refine (ends_bind _ _ _).2 ((ends_get _).2 ((ends_bind _ _ _).2 ((ends_ask _ _).2 ?_)))
    rw [still]
    let region : ScrollRegion := ⟨⟨h.document.samplers.size⟩, 0, 0⟩
    have scrolling : Continues b.element { b.element with scroll := some region } :=
      ⟨rfl, rfl, fun _ hn => hn⟩
    have voiced := tuned.voiced.goOn scrolling
    refine ⟨⟨⟨voiced.heard, voiced.labels, voiced.observed⟩, ?_⟩, parts, rfl, trivial⟩
    exact tuned.sampled.start still rfl rfl 0 0
  | useFont font =>
    refine (ends_bind _ _ _).2 ((ends_focus _ _).2 ((register_yields font b.fonts).ends ?_))
    rintro _ fonts h' ⟨faces, doc⟩
    have hush : Hushes spared h.document h'.document := by
      rw [doc]
      exact .of_nodes rfl (fun _ hi => hi) rfl
    exact ⟨advance hush .refl rfl, parts, sampled, trivial⟩
  | clearOptions =>
    have strange (n) (hn : n ∈ b.element.options) : ¬ spared n.id := fun own =>
      notMem_fittings work.owned (.inr own) (List.mem_map_of_mem (List.mem_append_right _ hn))
    refine (ends_bind _ _ _).2
      ((ends_get _).2 ((ends_bind _ _ _).2 ((ends_modify _ _).2 ((ends_focus _ _).2 ?_))))
    refine (ends_giveBack_silent work.owned.stocked strange).mono ?_
      (fun _ _ _ _ => trivial) fun _ _ => trivial
    rintro _ ps h' ⟨⟨_, hush⟩, _⟩
    exact ⟨advance hush ⟨rfl, rfl, fun _ hn => hn⟩ rfl, parts, sampled, trivial⟩
  | addPart parent kind =>
    refine (ends_bind _ _ _).2
      ((ends_focus _ _).2 ((take kind κ b.pools h work.owned.stocked).mono ?_
        (fun _ _ _ _ => trivial) fun _ _ => trivial))
    rintro n ps h₁ ⟨_, hush₁⟩
    refine (ends_bind _ _ _).2 ((ends_get _).2 ((ends_bind _ _ _).2 ((ends_script _ _).2
      ((asked (.appendChild _ _) trivial).mono ?_ fun _ _ => trivial))))
    intro _ h₂ hush₂
    refine ⟨advance (hush₁.trans hush₂) ⟨rfl, rfl, fun m hm => ?_⟩ rfl, ?_, sampled, ?_⟩
    · rw [List.map_append]
      exact List.mem_append_left _ hm
    · simp [Tally.after, parts]
    · exact congrArg Spot.part parts
  | addOption parent kind =>
    refine (ends_bind _ _ _).2
      ((ends_focus _ _).2 ((take kind κ b.pools h work.owned.stocked).mono ?_
        (fun _ _ _ _ => trivial) fun _ _ => trivial))
    rintro n ps h₁ ⟨_, hush₁⟩
    refine (ends_bind _ _ _).2 ((ends_get _).2 ((ends_bind _ _ _).2 ((ends_script _ _).2
      ((asked (.appendChild _ _) trivial).mono ?_ fun _ _ => trivial))))
    intro _ h₂ hush₂
    have joined {h' : MemoryHost κ} (hush : Hushes spared h₂.document h'.document) :
        Tuned
          (elements.insert id { b.element with options := b.element.options ++ [n] }) h'.document ∧
          b.element.parts.length = t.parts ∧ b.element.scroll.isSome = t.sampled ∧ True :=
      ⟨advance ((hush₁.trans hush₂).trans hush) ⟨rfl, rfl, fun _ hn => hn⟩ rfl,
        parts, sampled, trivial⟩
    cases kind.isFocusable with
    | false => exact joined .refl
    | true =>
      cases b.element.tabIndex with
      | none => exact joined .refl
      | some tab =>
        have other : "tabindex" ≠ nativeIdAttribute := by decide
        refine (ends_bind _ _ _).2 ((ends_script _ _).2
          ((asked (.setAttribute n.id _ _) fun _ => other).mono ?_ fun _ _ => trivial))
        exact fun _ h₃ hush₃ => joined hush₃

lemma Tended.perform (tended : Tended base rest e₀ d₀ elements id t b h.document)
    (others : ∀ (j : UInt32) (x : Element), j ≠ id → elements[j]? = some x →
      x.leaf.id ∈ rest.map (·.id))
    {r : BenchRequest} (decent : Decent e₀.widget id t r) :
    Yields (Bench.perform r) b h fun reply b' h' =>
      Tended base rest e₀ d₀ elements id (t.after r) b' h'.document ∧ Numbered t r reply := by
  refine (Ends.and (tended.work.perform r) (tended.tuned_perform others decent)).mono ?_
    (fun _ _ _ no => no.1) fun _ no => no.1
  rintro reply b' h' ⟨work, tuned, parts, sampled, numbered⟩
  exact ⟨⟨work, tuned, parts, sampled⟩, numbered⟩

/-- A craft that follows the manners of its kind leaves everything with the elements. -/
theorem Tended.carryOut {α : Type} {craft : Craft α} {post : α → Tally → Prop}
    (tended : Tended base rest e₀ d₀ elements id t b h.document)
    (others : ∀ (j : UInt32) (x : Element), j ≠ id → elements[j]? = some x →
      x.leaf.id ∈ rest.map (·.id))
    (follows : Follows e₀.widget id t craft post) : Yields (Bench.carryOut craft) b h fun a b' h' =>
      ∃ t', Tended base rest e₀ d₀ elements id t' b' h'.document ∧ post a t' := by
  induction craft generalizing t b h with
  | done a => exact ⟨t, tended, follows⟩
  | ask r next ih =>
    refine (ends_bind _ _ _).2
      ((tended.perform others follows.1).ends fun reply b' h' ⟨tended', numbered⟩ => ?_)
    exact ih reply tended' (follows.2 reply numbered)
  | broken why => exact follows.elim

end Requests

/-! ## Giving an element back -/

section Release

variable {κ : Type} [Core κ] {base : Nat} {mount : NodeId}
  {elements : Std.ExtTreeMap UInt32 Element} {id : UInt32}
  {e : Element} {d d' : MemoryDocument} {h : MemoryHost κ} {spared : NodeId → Prop}

/-- An element whose nodes are silent and whose sampler is stopped leaves nothing behind. -/
lemma Tuned.dismissed (tuned : Tuned (elements.insert id e) d) (absent : elements[id]? = none)
    (still : e.scroll = none) (hush : Hushes spared d d')
    (leaves : ∀ (j : UInt32) (x : Element), elements[j]? = some x → spared x.leaf.id)
    (silent : ∀ n ∈ e.nodes, Silent d' n.id) : Tuned elements d' := by
  have listed {j : UInt32} {x : Element} (hx : elements[j]? = some x) :
      (elements.insert id e)[j]? = some x :=
    getElem?_insert_of_new absent hx
  refine ⟨⟨fun n j b hb => ?_, fun j x hx => ?_, fun i hi => ?_⟩,
    ⟨fun i m hm live => ?_, fun j x r hx hr => ?_⟩⟩
  · obtain ⟨x, hx, kind, part⟩ := tuned.voiced.heard n j b (hush.heard n _ hb)
    rcases getElem?_table_insert hx with ⟨rfl, rfl⟩ | ⟨_, hx⟩
    · obtain ⟨node, inside, rfl⟩ := List.mem_map.1 part
      have nothing := (silent node (List.mem_cons_of_mem _ (List.mem_append_left _ inside))).1
      rw [nothing] at hb
      exact absurd hb List.not_mem_nil
    · exact ⟨x, hx, kind, part⟩
  · exact (hush.labels _ (leaves j x hx)).trans (tuned.voiced.labels j x (listed hx))
  · obtain ⟨j, x, hx, kind, leaf⟩ := tuned.voiced.observed i (hush.observed i hi)
    rcases getElem?_table_insert hx with ⟨rfl, rfl⟩ | ⟨_, hx⟩
    · exact absurd (leaf ▸ hi) (silent x.leaf List.mem_cons_self).2
    · exact ⟨j, x, hx, kind, leaf⟩
  · rw [hush.samplers] at hm
    obtain ⟨j, x, r, hx, hr, index⟩ := tuned.sampled.claimed i m hm live
    rcases getElem?_table_insert hx with ⟨rfl, rfl⟩ | ⟨_, hx⟩
    · rw [still] at hr
      cases hr
    · exact ⟨j, x, r, hx, hr, index⟩
  · rw [hush.samplers]
    exact tuned.sampled.running j x r (listed hx) hr

/-- All nodes of an element go back, and nothing is heard of them any more. -/
lemma ends_handBack_silent {s : Scene} (stocked : Stocked true s.pools)
    (strange : ∀ n ∈ e.nodes, ¬ spared n.id) :
    Ends (Scene.onPools (handBack e)) s h
      (fun _ _ h' => Hushes spared h.document h'.document ∧ ∀ n ∈ e.nodes, Silent h'.document n.id)
      (fun _ _ _ => True) fun _ => True := by
  have option (n) (hn : n ∈ e.options) : n ∈ e.nodes :=
    List.mem_cons_of_mem _ (List.mem_append_right _ hn)
  have part (n) (hn : n ∈ e.parts) : n ∈ e.nodes :=
    List.mem_cons_of_mem _ (List.mem_append_left _ hn)
  refine (ends_onStage _ _ _).2 ((ends_onPools _ _ _).2 ((ends_bind _ _ _).2 ?_))
  refine (ends_giveBack_silent stocked fun n hn => strange n (option n hn)).mono ?_
    (fun _ _ _ _ => trivial) fun _ _ => trivial
  rintro _ ps₁ h₁ ⟨⟨stocked₁, hush₁⟩, silent₁⟩
  refine (ends_bind _ _ _).2 ?_
  refine (ends_giveBack_silent stocked₁ fun n hn => strange n (part n hn)).mono ?_
    (fun _ _ _ _ => trivial) fun _ _ => trivial
  rintro _ ps₂ h₂ ⟨⟨stocked₂, hush₂⟩, silent₂⟩
  refine (ends_put_silent stocked₂ _ (strange e.leaf List.mem_cons_self)).mono ?_
    (fun _ _ _ _ => trivial) fun _ _ => trivial
  rintro _ ps₃ h₃ ⟨⟨_, hush₃⟩, silent₃⟩
  refine ⟨(hush₁.trans hush₂).trans hush₃, fun n hn => ?_⟩
  rcases List.mem_cons.1 hn with rfl | below
  · exact silent₃
  · rcases List.mem_append.1 below with among | among
    · exact (silent₂ n among).hushed hush₃
    · exact ((silent₁ n among).hushed hush₂).hushed hush₃

/-- The element at hand is given back, and what was heard of it is gone. -/
theorem AtHand.release_tuned {s : Scene} (hand : AtHand base mount s.toStage elements e h.document)
    (tuned : Tuned (elements.insert id e) h.document) (absent : elements[id]? = none) :
    Ends (Scene.release e) s h (fun _ _ h' => Tuned elements h'.document)
    (fun _ _ _ => True) fun _ => True := by
  let spared (n : NodeId) : Prop := n ∈ (elementNodes elements).map (·.id)
  have leaves (j : UInt32) (x : Element) (hx : elements[j]? = some x) : spared x.leaf.id :=
    List.mem_map_of_mem (mem_elementNodes.2 ⟨j, x, hx, List.mem_cons_self⟩)
  have strange (n : OwnedNode) (hn : n ∈ e.nodes) : ¬ spared n.id := fun other =>
    hand.stage.notMem_others other (List.mem_map_of_mem hn)
  have apart (j : UInt32) (x : Element) (_ : j ≠ id) (hx : elements[j]? = some x) :
      x.leaf.id ≠ e.leaf.id := fun same =>
    strange e.leaf List.mem_cons_self (same ▸ leaves j x hx)
  -- Once its sampler is stopped the nodes can go.
  have given {h₁ : MemoryHost κ}
    (tuned₁ : Tuned (elements.insert id { e with scroll := none }) h₁.document) :
      Ends (Scene.onPools (Proofs.handBack e)) s h₁
        (fun _ _ h' => Tuned elements h'.document) (fun _ _ _ => True)
        fun _ => True := by
    refine (ends_handBack_silent hand.stage.owned.stocked strange).mono ?_
      (fun _ _ _ _ => trivial) fun _ _ => trivial
    exact fun _ _ h' ⟨hush, silent⟩ => tuned₁.dismissed absent rfl hush leaves silent
  have released {h₁ : MemoryHost κ} (tuned₁ : Tuned (elements.insert id e) h₁.document) :
      Ends (do
        each e.scroll fun r => (ask (.cancelSampler r.sampler) : Script Patching Unit)
        Scene.onPools (Proofs.handBack e) :
          Work Scene Unit) s h₁ (fun _ _ h' => Tuned elements h'.document) (fun _ _ _ => True)
        fun _ => True := by
    have alone : Continues e { e with scroll := none } := ⟨rfl, rfl, fun _ hn => hn⟩
    cases scroll : e.scroll with
    | none => exact given ⟨tuned₁.voiced.goOn alone, tuned₁.sampled.goOn rfl (by rw [scroll])⟩
    | some r =>
      refine (ends_bind _ _ _).2 ((ends_ask _ _).2 (given ?_))
      have voiced := tuned₁.voiced.goOn alone
      exact ⟨⟨voiced.heard, voiced.labels, voiced.observed⟩, tuned₁.sampled.stop scroll apart⟩
  unfold Scene.release
  cases e.observed with
  | false => exact released tuned
  | true =>
    have hush :
        Hushes (fun _ => True) h.document
          { h.document with observed := h.document.observed.erase e.leaf.id.index } :=
      .of_nodes rfl (fun i hi => Std.ExtTreeSet.mem_of_mem_erase hi) rfl
    exact (ends_bind _ _ _).2 ((ends_ask _ _).2 (released (tuned.hush hush fun _ _ _ => trivial)))

end Release

end LayeredPage.Proofs
