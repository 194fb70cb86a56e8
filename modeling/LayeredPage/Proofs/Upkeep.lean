import LayeredPage.Proofs.Connections
import LayeredPage.Proofs.Equipment

/-!
# The upkeep of live elements

The listeners and timers that a document has on its page are those of the live elements: one
listener for each input that an element of the kind binds, and for each scroller a timer and a
listener for fingers going down and coming up. An accepted creation adds those of the new element, a
refused one takes back whatever it made, a deletion takes back those of its element, and no other
patch touches any.
-/

namespace LayeredPage.Proofs

open MemoryDocument

/-! ## What belongs to an element -/

/-- The listeners for the input of an element. -/
def inputListeners (d : BrowserDocument) (e : Element) : List Registration :=
  (e.parts.head?.bind fun part => d.slot? part.id).elim [] (·.listeners)

/-- The sampler of an element on the page. -/
def regionSampler? (d : BrowserDocument) (e : Element) : Option BrowserSampler :=
  e.scroll.bind fun r => d.sampler? r.sampler

/-- The listeners for fingers on an element. -/
def fingerListeners (d : BrowserDocument) (e : Element) : List Registration :=
  (regionSampler? d e).elim [] (·.listeners)

/-- All listeners of an element. -/
def elementListeners (d : BrowserDocument) (e : Element) : List Registration :=
  inputListeners d e ++ fingerListeners d e

/-- The timer of an element. -/
def elementTimer? (d : BrowserDocument) (e : Element) : Option Nat :=
  (regionSampler? d e).bind (·.interval)

/-- What is on the page for an element: a listener for each input of its kind, on its first part;
and for a scroller a timer, and listeners for fingers on its leaf. -/
structure Equips (d : BrowserDocument) (id : UInt32) (e : Element) : Prop where
  input : ∃ x, (∀ part ∈ e.parts.head?, d.element? part.id = some x) ∧
    List.Forall₂ (Serves d.page) (inputListeners d e)
      ((bound e.widget).map fun b => inputWire x (id, b))
  fingers : e.widget = .scroller → ∃ r x timer, e.scroll = some r ∧ d.element? e.leaf.id = some x ∧
    List.Forall₂ (Serves d.page) (fingerListeners d e) (fingerWires x r.sampler) ∧
    elementTimer? d e = some timer ∧ ⟨timer, r.sampler⟩ ∈ d.page.intervals
  still : e.widget ≠ .scroller → fingerListeners d e = [] ∧ elementTimer? d e = none

/-- On a page there is what others have there and what the live elements need, everything once. -/
structure Upkept (outside : List Registration) (alien : List Nat) (s : Scene)
    (d : BrowserDocument) : Prop where
  distinct : ((enlisted d.page).map (·.serial)).Nodup ∧ (ticking d.page).Nodup
  listeners :
    (enlisted d.page).Perm (outside ++ s.elements.toList.flatMap fun p => elementListeners d p.2)
  timers :
    (ticking d.page).Perm (alien ++ s.elements.toList.flatMap fun p => (elementTimer? d p.2).toList)
  equips : ∀ (id : UInt32) (e : Element), s.elements[id]? = some e → Equips d id e

/-- What a patch with this result may make on the page and take back. -/
def Settles (s s' : Scene) (d d' : BrowserDocument) (made taken : List Registration)
    (started stopped : List Nat) :
    Patch → Except PatchError Unit → Prop
  | .create _ c, .ok _ =>
    taken = [] ∧ stopped = [] ∧ ∃ e, s'.elements[c.id]? = some e ∧
      made.Perm (elementListeners d' e) ∧
      started.Perm (elementTimer? d' e).toList
  | .create .., .error _ => taken.Perm made ∧ stopped.Perm started
  | .delete _ id, .ok _ =>
    made = [] ∧ started = [] ∧ ∃ e, s.elements[id]? = some e ∧ taken.Perm (elementListeners d e) ∧
      stopped.Perm (elementTimer? d e).toList
  | _, _ => made = [] ∧ taken = [] ∧ started = [] ∧ stopped = []

/-! ## Tables with owners -/

section Tables

variable {α β γ : Type}

lemma flatMap_filter_of_nil {p : α → Bool} {f : α → List β} (xs : List α)
    (bare : ∀ x ∈ xs, p x = false → f x = []) :
    (xs.filter p).flatMap f = xs.flatMap f := by
  induction xs with
  | nil => rfl
  | cons x xs ih =>
    have rest := ih fun y hy => bare y (List.mem_cons_of_mem _ hy)
    cases keep : p x with
    | true => rw [List.filter_cons_of_pos keep, List.flatMap_cons, List.flatMap_cons, rest]
    | false =>
      rw [List.filter_cons_of_neg (by simp [keep]), List.flatMap_cons,
        bare x List.mem_cons_self keep, rest, List.nil_append]

lemma flatMap_filterMap_eq {f : γ → Option α} {g : α → List β} (xs : List γ) :
    (xs.filterMap f).flatMap g = xs.flatMap fun x => (f x).elim [] g := by
  induction xs with
  | nil => rfl
  | cons x xs ih =>
    cases hx : f x with
    | none =>
      rw [List.filterMap_cons_none hx, List.flatMap_cons, hx, ih, Option.elim_none, List.nil_append]
    | some a =>
      rw [List.filterMap_cons_some hx, List.flatMap_cons, List.flatMap_cons, hx,
        ih, Option.elim_some]

lemma toList_eq_filterMap (items : Array α) :
    items.toList = (List.range items.size).filterMap (items[·]?) := by
  have each : (List.range items.size).map (items[·]?) = items.toList.map some := by
    refine List.ext_getElem (by simp) fun i inside _ => ?_
    rw [List.length_map, List.length_range] at inside
    simp [inside]
  have all := congrArg (List.filterMap id) each
  rw [List.filterMap_map, List.filterMap_map] at all
  exact List.filterMap_some.symm.trans all.symm

/-- If every entry of a table that holds something has one owner, what the table holds is what the
owners do. -/
lemma flatMap_owned (items : Array α) (f : α → List β) {owners : List γ} {index? : γ → Option Nat}
    (distinct : (owners.filterMap index?).Nodup)
    (owned : ∀ i a, items[i]? = some a → f a ≠ [] → i ∈ owners.filterMap index?) :
    (items.toList.flatMap f).Perm
      (owners.flatMap fun o => ((index? o).bind (items[·]?)).elim [] f) := by
  have bare (i : Nat) (unowned : i ∉ owners.filterMap index?) : (items[i]?).elim [] f = [] := by
    cases there : items[i]? with
    | none => rfl
    | some a => exact not_not.1 fun some_held => unowned (owned i a there some_held)
  have outside (i : Nat) (beyond : items.size ≤ i) : (items[i]?).elim [] f = [] := by
    rw [Array.getElem?_eq_none beyond, Option.elim_none]
  have flat : (owners.flatMap fun o => ((index? o).bind (items[·]?)).elim [] f) =
      (owners.filterMap index?).flatMap fun i => (items[i]?).elim [] f := by
    rw [flatMap_filterMap_eq]
    congr 1
    funext o
    cases index? o <;> rfl
  rw [toList_eq_filterMap items, flatMap_filterMap_eq, flat]
  rw [← flatMap_filter_of_nil (p := fun i => decide (i ∈ owners.filterMap index?))
    (List.range items.size)
    fun i _ unowned => bare i (of_decide_eq_false unowned),
    ← flatMap_filter_of_nil (p := fun i => decide (i < items.size)) (owners.filterMap index?)
    fun i _ beyond => outside i (Nat.le_of_not_lt (of_decide_eq_false beyond))]
  refine List.Perm.flatMap_right _
    ((List.perm_ext_iff_of_nodup (List.nodup_range.filter _) (distinct.filter _)).2 fun i => ?_)
  simp only [List.mem_filter, List.mem_range, decide_eq_true_eq]
  exact and_comm

end Tables

/-! ## Scenes in concert -/

/-- A scene over a document in memory and one on a page that are in concert; every element has its
outfit. -/
structure Ensemble (g : Ground) (past : List CoreCall) (outside : List Registration)
    (alien : List Nat) (s : Scene) (h : MemoryHost Recorder) (d : BrowserDocument) :
    Prop extends Concert g past outside alien h d where
  sound : Sound 1 ⟨0⟩ s h
  attuned : Attuned s h
  equipped : Equipped s.elements h.document

section Elements

variable {g : Ground} {past : List CoreCall} {outside : List Registration}
  {alien : List Nat} {s s' : Scene}
  {h h' : MemoryHost Recorder} {d d' : BrowserDocument} {id j : UInt32} {e e' x : Element}

lemma inputListeners_eq : inputListeners d e =
    ((e.parts.head?.map (·.id.index)).bind ((faces d)[·]?)).elim [] (·.2) := by
  unfold inputListeners faces
  cases e.parts.head? with
  | none => rfl
  | some part =>
    rw [Option.bind_some, Option.map_some, Option.bind_some, Array.getElem?_map]
    unfold BrowserDocument.slot?
    cases d.slots[part.id.index]? <;> rfl

lemma regionSampler?_eq : (regionSampler? d e).map (fun k => (k.element, k.interval, k.listeners)) =
    (e.scroll.map (·.sampler.index)).bind ((gauges d)[·]?) := by
  unfold regionSampler? gauges
  cases e.scroll with
  | none => rfl
  | some r =>
    rw [Option.bind_some, Option.map_some, Option.bind_some, Array.getElem?_map]
    rfl

lemma fingerListeners_eq :
    fingerListeners d e = ((e.scroll.map (·.sampler.index)).bind ((gauges d)[·]?)).elim []
    (·.2.2) := by
  rw [← regionSampler?_eq]
  unfold fingerListeners
  cases regionSampler? d e <;> rfl

lemma elementTimer?_eq :
    elementTimer? d e = ((e.scroll.map (·.sampler.index)).bind ((gauges d)[·]?)).bind (·.2.1) := by
  rw [← regionSampler?_eq]
  unfold elementTimer?
  cases regionSampler? d e <;> rfl

/-- Two live elements have no node in common. -/
lemma InOrder.id_of_node {base : Nat} {mount : NodeId} {stage : Stage}
    {elements : Std.ExtTreeMap UInt32 Element}
    {m : MemoryDocument} {n : NodeId} (order : InOrder base mount stage elements m)
    (found : elements[id]? = some e)
    (found' : elements[j]? = some x) (hn : n ∈ e.nodes.map (·.id)) (hn' : n ∈ x.nodes.map (·.id)) :
    id = j := by
  by_contra other
  have there : (elements.erase id)[j]? = some x := getElem?_erase_iff.2 ⟨Ne.symm other, found'⟩
  exact (order.pick found).stage.disjoint there hn hn'

lemma nodup_filterMap_elements {elements : Std.ExtTreeMap UInt32 Element} {f : Element → Option Nat}
    (apart : ∀ (id j : UInt32) (e x : Element) i, elements[id]? = some e →
      elements[j]? = some x → f e = some i →
      f x = some i → id = j) : (elements.toList.filterMap fun p => f p.2).Nodup := by
  refine List.pairwise_filterMap.2 ((nodup_toList elements).pairwise_of_forall_ne ?_)
  rintro ⟨id, e⟩ he ⟨j, x⟩ hx other i hi k hk rfl
  rw [Std.ExtTreeMap.mem_toList_iff_getElem?_eq_some] at he hx
  refine other ?_
  obtain rfl := apart id j e x i he hx hi hk
  rw [he] at hx
  rw [Option.some.inj hx]

lemma mem_filterMap_elements {elements : Std.ExtTreeMap UInt32 Element}
    {f : Element → Option Nat} {i : Nat} (found : elements[id]? = some e) (hi : f e = some i) :
    i ∈ elements.toList.filterMap fun p => f p.2 :=
  List.mem_filterMap.2 ⟨(id, e), Std.ExtTreeMap.mem_toList_iff_getElem?_eq_some.2 found, hi⟩

lemma mem_nodes_of_head? {part : OwnedNode} (first : e.parts.head? = some part) :
    part.id ∈ e.nodes.map (·.id) :=
  List.mem_map_of_mem
    (List.mem_cons_of_mem _ (List.mem_append_left _ (List.mem_of_mem_head? first)))

/-- Only the first parts of live elements have listeners. -/
lemma Ensemble.face_owned (ensemble : Ensemble g past outside alien s h d) {i : Nat}
    {face : ElementId × List Registration}
    (there : (faces d)[i]? = some face) (some_held : face.2 ≠ []) :
    i ∈ s.elements.toList.filterMap fun p => p.2.parts.head?.map (·.id.index) := by
  have tapped := ensemble.wired.nodes i face there
  have loud : heard h.document ⟨i⟩ ≠ [] := by
    intro silent
    unfold Tapped at tapped
    rw [silent] at tapped
    exact some_held (List.forall₂_nil_right_iff.1 tapped)
  obtain ⟨⟨id, b⟩, hb⟩ := List.exists_mem_of_ne_nil _ loud
  obtain ⟨e, found, _, part⟩ := ensemble.attuned.tuned.voiced.heard ⟨i⟩ id b hb
  obtain ⟨n, hn, place⟩ := List.mem_map.1 part
  obtain ⟨k, hk, rfl⟩ := List.mem_iff_getElem.1 hn
  have outfit := (ensemble.equipped id e found).heard k _ (List.getElem?_eq_getElem hk)
  rw [place] at outfit
  have first : k = 0 := by
    by_contra later
    rw [if_neg later] at outfit
    exact loud outfit
  subst first
  refine mem_filterMap_elements (f := fun e => e.parts.head?.map (·.id.index)) found ?_
  rw [List.head?_eq_getElem?, List.getElem?_eq_getElem hk, Option.map_some, place]

/-- Only the samplers of live scrollers have anything on the page. -/
lemma Ensemble.gauge_owned (ensemble : Ensemble g past outside alien s h d) {i : Nat}
    {gauge : ElementId × Option Nat × List Registration} (there : (gauges d)[i]? = some gauge)
    (busy : gauge.2 ≠ (none, [])) :
    i ∈ s.elements.toList.filterMap fun p => p.2.scroll.map (·.sampler.index) := by
  obtain ⟨post, hp, manned⟩ := ensemble.wired.samplers i gauge there
  unfold posts at hp
  rw [Array.getElem?_map] at hp
  obtain ⟨k, hk, rfl⟩ := Option.map_eq_some_iff.1 hp
  have live : k.live = true := by
    by_contra dead
    exact busy (manned.dead (Bool.eq_false_of_not_eq_true dead))
  obtain ⟨id, e, r, found, hr, rfl⟩ := ensemble.attuned.tuned.sampled.claimed i k hk live
  exact mem_filterMap_elements (f := fun e => e.scroll.map (·.sampler.index)) found
    (by rw [hr, Option.map_some])

lemma Ensemble.distinct_inputs (ensemble : Ensemble g past outside alien s h d) :
    (s.elements.toList.filterMap fun p => p.2.parts.head?.map (·.id.index)).Nodup := by
  refine nodup_filterMap_elements (f := fun e => e.parts.head?.map (·.id.index))
    fun id j e x i found found' hi hk => ?_
  obtain ⟨n, hn, rfl⟩ := Option.map_eq_some_iff.1 hi
  obtain ⟨k, hk, same⟩ := Option.map_eq_some_iff.1 hk
  have shared := mem_nodes_of_head? hk
  rw [show k.id = n.id from congrArg NodeId.mk same] at shared
  exact InOrder.id_of_node ensemble.sound found found' (mem_nodes_of_head? hn) shared

lemma Ensemble.distinct_samplers (ensemble : Ensemble g past outside alien s h d) :
    (s.elements.toList.filterMap fun p => p.2.scroll.map (·.sampler.index)).Nodup := by
  refine nodup_filterMap_elements (f := fun e => e.scroll.map (·.sampler.index))
    fun id j e x i found found' hi hk => ?_
  obtain ⟨r, hr, rfl⟩ := Option.map_eq_some_iff.1 hi
  obtain ⟨q, hq, same⟩ := Option.map_eq_some_iff.1 hk
  obtain ⟨m, hm, _, leaf⟩ := ensemble.attuned.tuned.sampled.running id e r found hr
  obtain ⟨m', hm', _, leaf'⟩ := ensemble.attuned.tuned.sampled.running j x q found' hq
  rw [same, hm] at hm'
  cases hm'
  exact InOrder.id_of_leaf ensemble.sound found found' (leaf.symm.trans leaf')

/-- The document holds for its nodes and samplers what belongs to the live elements. -/
lemma Ensemble.holdings_perm (ensemble : Ensemble g past outside alien s h d) :
    (holdings d).Perm (s.elements.toList.flatMap fun p => elementListeners d p.2) := by
  have inputs := flatMap_owned (faces d) (·.2) ensemble.distinct_inputs fun i face there =>
    ensemble.face_owned there
  have fingers :=
    flatMap_owned (gauges d) (·.2.2) ensemble.distinct_samplers fun i gauge there busy =>
    ensemble.gauge_owned there fun idle => busy (by rw [idle])
  simp only [← inputListeners_eq] at inputs
  simp only [← fingerListeners_eq] at fingers
  exact (inputs.append fingers).trans (List.flatMap_append_perm _ _ _)

lemma Ensemble.clocks_perm (ensemble : Ensemble g past outside alien s h d) :
    (clocks d).Perm (s.elements.toList.flatMap fun p => (elementTimer? d p.2).toList) := by
  have timers :=
    flatMap_owned (gauges d) (·.2.1.toList) ensemble.distinct_samplers fun i gauge there busy =>
    ensemble.gauge_owned there fun idle => busy (by rw [idle]; rfl)
  have same (e : Element) :
      ((e.scroll.map (·.sampler.index)).bind ((gauges d)[·]?)).elim [] (·.2.1.toList) =
        (elementTimer? d e).toList := by
    rw [elementTimer?_eq]
    cases (e.scroll.map (·.sampler.index)).bind ((gauges d)[·]?) <;> rfl
  simp only [same] at timers
  exact timers

lemma Ensemble.input (ensemble : Ensemble g past outside alien s h d)
    (found : s.elements[id]? = some e) :
    ∃ x, (∀ part ∈ e.parts.head?, d.element? part.id = some x) ∧
      List.Forall₂ (Serves d.page) (inputListeners d e)
      ((bound e.widget).map fun b => inputWire x (id, b)) := by
  have outfit := ensemble.equipped id e found
  cases first : e.parts.head? with
  | none =>
    have partless := outfit.partless (List.head?_eq_none_iff.1 first)
    refine ⟨⟨0⟩, nofun, ?_⟩
    unfold inputListeners
    rw [first, partless]
    exact .nil
  | some part =>
    have known :=
      ensemble.sound.stage.owned.issued (List.mem_append_right _ (mem_elementNodes.2 ⟨id, e, found,
        List.mem_cons_of_mem _ (List.mem_append_left _ (List.mem_of_mem_head? first))⟩))
    obtain ⟨x, hx⟩ := ensemble.exists_element? known
    obtain ⟨slot, hs, rfl⟩ := exists_slot hx
    have tapped := ensemble.wired.nodes _ _ (getElem?_faces hs)
    have input := outfit.heard 0 part (by rw [← List.head?_eq_getElem?, first])
    rw [if_pos rfl] at input
    unfold Tapped at tapped
    rw [input, List.map_map] at tapped
    refine ⟨slot.element, ?_, ?_⟩
    · rintro _ ⟨⟩
      exact hx
    unfold inputListeners
    rw [first, Option.bind_some, hs]
    exact tapped

lemma Ensemble.fingers (ensemble : Ensemble g past outside alien s h d)
    (found : s.elements[id]? = some e) {r : ScrollRegion}
    (hr : e.scroll = some r) : ∃ x timer, d.element? e.leaf.id = some x ∧
      List.Forall₂ (Serves d.page) (fingerListeners d e) (fingerWires x r.sampler) ∧
      elementTimer? d e = some timer ∧ ⟨timer, r.sampler⟩ ∈ d.page.intervals := by
  obtain ⟨m, hm, live, leaf⟩ := ensemble.attuned.tuned.sampled.running id e r found hr
  have inside : r.sampler.index < (gauges d).size := by
    rw [show (gauges d).size = d.samplers.size from Array.size_map .., ensemble.samplers]
    exact (Array.getElem?_eq_some_iff.1 hm).1
  have there := Array.getElem?_eq_getElem inside
  obtain ⟨post, hp, manned⟩ := ensemble.wired.samplers _ _ there
  unfold posts at hp
  rw [Array.getElem?_map, hm] at hp
  cases hp
  obtain ⟨timer, runs, listed, serves⟩ := manned.live live
  refine ⟨(gauges d)[r.sampler.index].1, timer, leaf ▸ show d.element? m.node =
    _ from manned.element, ?_, ?_, listed⟩
  · rw [fingerListeners_eq, hr, Option.map_some, Option.bind_some, there]
    exact serves
  · rw [elementTimer?_eq, hr, Option.map_some, Option.bind_some, there]
    exact runs

/-- Every live element has what it needs on the page. -/
lemma Ensemble.equips (ensemble : Ensemble g past outside alien s h d)
    (found : s.elements[id]? = some e) : Equips d id e where
  input := ensemble.input found
  fingers scroller := by
    obtain ⟨r, hr⟩ :=
      Option.isSome_iff_exists.1 ((ensemble.attuned.furnished id e found).2 scroller)
    obtain ⟨x, timer, rest⟩ := ensemble.fingers found hr
    exact ⟨r, x, timer, hr, rest⟩
  still other := by
    have unscrolled : e.scroll = none := by
      by_contra scrolls
      exact other ((ensemble.attuned.furnished id e found).1 (Option.isSome_iff_ne_none.2 scrolls))
    unfold fingerListeners elementTimer? regionSampler?
    rw [unscrolled]
    exact ⟨rfl, rfl⟩

/-- So the page has what the live elements need, and what others have there. -/
theorem Ensemble.upkept (ensemble : Ensemble g past outside alien s h d) :
    Upkept outside alien s d where
  distinct := ⟨ensemble.tallied.orderly.serials, ensemble.tallied.orderly.ids⟩
  listeners := ensemble.tallied.listeners.trans (ensemble.holdings_perm.append_left _)
  timers := ensemble.tallied.timers.trans (ensemble.clocks_perm.append_left _)
  equips _ _ found := ensemble.equips found

/-! ## What a patch does -/

/-- An element that outlives a patch keeps its listeners and its timer. -/
lemma Ensemble.keeps {l : Licence} {made taken : List Registration} {started stopped : List Nat}
    (ensemble : Ensemble g past outside alien s h d)
    (ensemble' : Ensemble g past outside alien s' h' d')
    (passage : Passage l d d' made taken started stopped) (found : s.elements[id]? = some e)
    (found' : s'.elements[id]? = some e') (same : gear e' = gear e)
    (spared : ∀ part ∈ e.parts.head?, ¬ l.binds part.id ∧ ¬ l.resets part.id) :
    elementListeners d' e' = elementListeners d e ∧ elementTimer? d' e' = elementTimer? d e := by
  have parts : e'.parts = e.parts := congrArg (·.2.1) same
  have samplers : e'.scroll.map (·.sampler) = e.scroll.map (·.sampler) := congrArg (·.2.2.2) same
  have indices : e'.scroll.map (·.sampler.index) = e.scroll.map (·.sampler.index) := by
    have both := congrArg (Option.map SamplerId.index) samplers
    rw [Option.map_map, Option.map_map] at both
    exact both
  have input : inputListeners d' e' = inputListeners d e := by
    rw [inputListeners_eq, inputListeners_eq, parts]
    cases first : e.parts.head? with
    | none => rfl
    | some part =>
      obtain ⟨x, hx, -⟩ := ensemble.input found
      obtain ⟨slot, hs, rfl⟩ := exists_slot (hx part first)
      obtain ⟨unbound, kept⟩ := spared part first
      rw [Option.map_some, Option.bind_some, Option.bind_some, getElem?_faces hs,
        passage.face part.id _ (getElem?_faces hs) unbound kept]
  have region : (e.scroll.map (·.sampler.index)).bind ((gauges d')[·]?) =
      (e.scroll.map (·.sampler.index)).bind ((gauges d)[·]?) := by
    cases hr : e.scroll with
    | none => rfl
    | some r =>
      obtain ⟨q, hq, there⟩ := Option.map_eq_some_iff.1 (samplers.trans (congrArg _ hr))
      obtain ⟨_, timer, _, _, runs, _⟩ := ensemble.fingers found hr
      obtain ⟨_, timer', _, _, runs', _⟩ := ensemble'.fingers found' hq
      rw [elementTimer?_eq, hr, Option.map_some, Option.bind_some] at runs
      rw [elementTimer?_eq, hq, Option.map_some, Option.bind_some, there] at runs'
      rw [Option.map_some, Option.bind_some, Option.bind_some]
      obtain ⟨gauge, hg, _⟩ := Option.bind_eq_some_iff.1 runs
      rcases passage.gauge _ gauge hg with kept | gone
      · rw [hg, kept]
      · rw [gone] at runs'
        cases runs'
  rw [elementListeners, elementListeners, input, fingerListeners_eq, fingerListeners_eq,
    elementTimer?_eq, elementTimer?_eq,
    indices, region]
  exact ⟨rfl, rfl⟩

lemma fixed_of_head? {elements : Std.ExtTreeMap UInt32 Element} {part : OwnedNode}
    (there : elements[id]? = some e) (first : e.parts.head? = some part) : Fixed elements part.id :=
  ⟨id, e, there, List.mem_map_of_mem (List.mem_cons_of_mem _ (List.mem_of_mem_head? first))⟩

/-- What belongs to the elements of two tables is the same if it is so for each id. -/
lemma flatMap_elements_eq {β : Type} {elements elements' : Std.ExtTreeMap UInt32 Element}
    (f f' : Element → List β)
    (same : ∀ id : UInt32, (elements'[id]?).map f' = (elements[id]?).map f) :
    (elements'.toList.flatMap fun p => f' p.2) = elements.toList.flatMap fun p => f p.2 := by
  have maps : elements'.map (fun _ => f') = elements.map fun _ => f := by
    refine Std.ExtTreeMap.ext_getElem? fun id => ?_
    rw [Std.ExtTreeMap.getElem?_map, Std.ExtTreeMap.getElem?_map, same]
  have lists := congrArg Std.ExtTreeMap.toList maps
  rw [Std.ExtTreeMap.toList_map, Std.ExtTreeMap.toList_map] at lists
  have flat := congrArg (List.flatMap Prod.snd) lists
  rw [List.flatMap_map, List.flatMap_map] at flat
  exact flat

/-- A patch comes to the same in memory, and keeps the scene in concert. -/
lemma Ensemble.serve {l : Licence} {p : Patch} {result : Except PatchError Unit}
    (ensemble : Ensemble g past outside alien s h d) (minds : Minds 1 l (Scene.apply p) s h)
    (run : Script.run BrowserDocument.answerPatch (Scene.apply p s) d = .ok ((result, s'), d')) :
    ∃ h', MemoryHost.patch (Scene.apply p) s h = .ok ((result, s'), h') ∧
      Ensemble g past outside alien s' h' d' ∧
      Shift s p result s'.elements ∧ ∃ made taken started stopped,
      Passage l d d' made taken started stopped := by
  have concur := ensemble.toConcert.serve minds
  rw [run] at concur
  generalize served : MemoryHost.serve (Scene.apply p s) h = r at concur
  cases concur with
  | @value a h' d' related =>
    obtain ⟨concert, passage⟩ := related
    have sound := ensemble.sound.patched served
    have ends :=
      ((ensemble.attuned.apply ensemble.sound p).and (ensemble.equipped.apply ensemble.sound p)).and
      (ensemble.sound.shift p)
    unfold Ends at ends
    rw [show MemoryHost.patch (Scene.apply p) s h = .ok ((result, s'), h') from served] at ends
    refine ⟨h', served, ?_, ?_, passage⟩
    · cases result with
      | ok => exact ⟨concert, sound, ends.1.1, ends.1.2⟩
      | error why => exact ⟨concert, sound, ends.1.1, ends.1.2⟩
    · cases result with
      | ok => exact ends.2
      | error why => exact ends.2

/-- What the elements of a table have on the page. -/
def keepings (elements : Std.ExtTreeMap UInt32 Element) (d : BrowserDocument) :
    List Registration × List Nat :=
  (elements.toList.flatMap fun p => elementListeners d p.2, elements.toList.flatMap fun p =>
    (elementTimer? d p.2).toList)

/-- Two accounts of listeners and timers that differ in their order at most. -/
def Matches (one two : List Registration × List Nat) : Prop := one.1.Perm two.1 ∧ one.2.Perm two.2

lemma keepings_cons {elements elements' : Std.ExtTreeMap UInt32 Element}
    (listed : elements'.toList.Perm ((id, e) :: elements.toList)) :
    Matches (keepings elements' d)
      (elementListeners d e ++ (keepings elements d).1,
        (elementTimer? d e).toList ++ (keepings elements d).2) :=
  ⟨List.Perm.flatMap_right (fun p : UInt32 × Element => elementListeners d p.2) listed,
    List.Perm.flatMap_right (fun p : UInt32 × Element => (elementTimer? d p.2).toList) listed⟩

/-- The elements of a table that outlive a patch have the same on the page as before. -/
lemma Ensemble.keepings_eq {p : Patch} {binds : Prop} {made taken : List Registration}
    {started stopped : List Nat} (elements elements' : Std.ExtTreeMap UInt32 Element)
    (ensemble : Ensemble g past outside alien s h d)
    (ensemble' : Ensemble g past outside alien s' h' d')
    (passage : Passage (guarding (survivors s p) binds) d d' made taken started stopped)
    (outlive : ∀ (id : UInt32) (e : Element), elements[id]? = some e →
      (survivors s p)[id]? = some e ∧ s.elements[id]? = some e)
    (there : ∀ (id : UInt32) (e : Element), elements'[id]? = some e → s'.elements[id]? = some e)
    (same : ∀ id : UInt32, (elements'[id]?).map gear = (elements[id]?).map gear) :
    keepings elements' d' = keepings elements d := by
  have each (id : UInt32) :
      (elements'[id]?).map (fun e => (elementListeners d' e, elementTimer? d' e)) =
        (elements[id]?).map fun e => (elementListeners d e, elementTimer? d e) := by
    have alike := same id
    cases found : elements[id]? with
    | none =>
      rw [found, Option.map_none, Option.map_eq_none_iff] at alike
      rw [alike, Option.map_none, Option.map_none]
    | some e =>
      rw [found, Option.map_some] at alike
      obtain ⟨e', found', gears⟩ := Option.map_eq_some_iff.1 alike
      obtain ⟨survives, old⟩ := outlive id e found
      obtain ⟨listeners, timer⟩ :=
        ensemble.keeps ensemble' passage old (there id e' found') gears fun part first =>
        ⟨fun bound => bound.2 (fixed_of_head? survives first), fun reset =>
          reset (fixed_of_head? survives first)⟩
      rw [found', Option.map_some, Option.map_some, listeners, timer]
  have listeners := flatMap_elements_eq (elementListeners d) (elementListeners d') fun id => by
    have one := congrArg (Option.map Prod.fst) (each id)
    rwa [Option.map_map, Option.map_map] at one
  have timers :=
    flatMap_elements_eq (fun e => (elementTimer? d e).toList)
      (fun e => (elementTimer? d' e).toList) fun id => by
    have one := congrArg (Option.map fun pair => pair.2.toList) (each id)
    rwa [Option.map_map, Option.map_map] at one
  unfold keepings
  rw [listeners, timers]

/-- The books of a patch, in terms of what the live elements have. -/
lemma Ensemble.balance {made taken : List Registration} {started stopped : List Nat}
    (ensemble : Ensemble g past outside alien s h d)
    (ensemble' : Ensemble g past outside alien s' h' d')
    (transaction : Transaction d d' made taken started stopped) :
    Matches ((keepings s.elements d).1 ++ made, (keepings s.elements d).2 ++ started)
      ((keepings s'.elements d').1 ++ taken, (keepings s'.elements d').2 ++ stopped) :=
  ⟨((ensemble.holdings_perm.append_right made).symm.trans transaction.held).trans
    (ensemble'.holdings_perm.append_right taken),
    ((ensemble.clocks_perm.append_right started).symm.trans transaction.timed).trans
      (ensemble'.clocks_perm.append_right stopped)⟩

/-- A patch keeps the scene in concert, and what it makes and takes back is what it should. -/
theorem Ensemble.apply {p : Patch} {result : Except PatchError Unit}
    (ensemble : Ensemble g past outside alien s h d)
    (run : Script.run BrowserDocument.answerPatch (Scene.apply p s) d = .ok ((result, s'), d')) :
    (∃ h', Ensemble g past outside alien s' h' d') ∧ ∃ made taken started stopped,
      Turnover d.page d'.page made taken started stopped ∧
      Settles s s' d d' made taken started stopped p result := by
  obtain ⟨h', served, ensemble', shift, made, taken, started, stopped, passage⟩ :=
    ensemble.serve (ensemble.sound.minds_apply p) run
  refine ⟨⟨h', ensemble'⟩, ?_⟩
  have balance := ensemble.balance ensemble' passage.toTransaction
  have uncreated (no : ¬ Creates p) : made = [] ∧ started = [] :=
    passage.unbound fun _ bound => no bound.1
  generalize after : s'.elements = elements at shift
  cases shift with
  | @created c widget e new kind =>
    -- The licence of an accepted creation does not let it take anything back.
    have minds := ensemble.sound.minds_accepted widget c
    unfold Ends at minds
    rw [show MemoryHost.patch (Scene.create widget c) s h =
      .ok ((.ok (), s'), h') from served] at minds
    obtain ⟨_, _, _, _, made, taken, started, stopped, sparing⟩ :=
      ensemble.serve (p := .create widget c) minds run
    obtain ⟨rfl, rfl⟩ := sparing.kept (fun _ => id) fun _ => id
    have balance := ensemble.balance ensemble' sparing.toTransaction
    have others :=
      ensemble.keepings_eq s.elements s.elements ensemble' passage (fun _ _ found => ⟨found, found⟩)
      (fun j x found => by rw [after]; exact getElem?_insert_of_new new found) fun _ => rfl
    have whole := keepings_cons (d := d') (after ▸ toList_insert_perm_of_new new)
    rw [others] at whole
    rw [List.append_nil, List.append_nil] at balance
    have listeners := (balance.1.trans whole.1).trans List.perm_append_comm
    have timers := (balance.2.trans whole.2).trans List.perm_append_comm
    refine ⟨made, [], started, [], sparing.toTurnover, rfl, rfl, e, ?_,
      (List.perm_append_left_iff _).1 listeners,
      (List.perm_append_left_iff _).1 timers⟩
    rw [after, Std.ExtTreeMap.getElem?_insert_self]
  | @deleted id widget e found kind =>
    obtain ⟨rfl, rfl⟩ := uncreated not_false
    have survive : survivors s (.delete widget id) = s.elements.erase id :=
      kind ▸ survivors_delete found
    have others :=
      ensemble.keepings_eq (s.elements.erase id) (s.elements.erase id) ensemble' passage
      (fun j x there => ⟨survive ▸ there, (getElem?_erase_iff.1 there).2⟩)
        (fun j x there => after ▸ there) fun _ => rfl
    have whole := keepings_cons (d := d) (toList_perm_erase found)
    rw [after, others, List.append_nil, List.append_nil] at balance
    have listeners := (whole.1.symm.trans balance.1).trans List.perm_append_comm
    have timers := (whole.2.symm.trans balance.2).trans List.perm_append_comm
    exact ⟨[], taken, [], stopped, passage.toTurnover, rfl, rfl, e, found,
      ((List.perm_append_right_iff _).1 listeners).symm,
      ((List.perm_append_right_iff _).1 timers).symm⟩
  | kept still outlive gears =>
    have unmoved := ensemble.keepings_eq s.elements s'.elements ensemble' passage
      (fun id e found => ⟨outlive ▸ found, found⟩) (fun _ _ found => found) (after ▸ gears)
    rw [unmoved] at balance
    have listeners := (List.perm_append_left_iff _).1 balance.1
    have timers := (List.perm_append_left_iff _).1 balance.2
    refine ⟨made, taken, started, stopped, passage.toTurnover, ?_⟩
    have idle (no : ¬ Creates p) : made = [] ∧ taken = [] ∧ started = [] ∧ stopped = [] := by
      obtain ⟨rfl, rfl⟩ := uncreated no
      exact ⟨rfl, List.nil_perm.1 listeners, rfl, List.nil_perm.1 timers⟩
    cases p with
    | create =>
      cases result with
      | ok => exact absurd trivial still
      | error => exact ⟨listeners.symm, timers.symm⟩
    | delete =>
      cases result with
      | ok => exact absurd trivial still
      | error => exact idle not_false
    | _ => exact idle not_false

end Elements

end LayeredPage.Proofs
