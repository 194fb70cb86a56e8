import LayeredPage.Proofs.Choices
import LayeredPage.Proofs.Clipping
import LayeredPage.Proofs.Departures
import LayeredPage.Proofs.Toggles

/-!
# The rows of a radio set on a page

A change below a radio set is told to the core with the row that it happened in, found among the
children of the fieldset. A selection finds its button by counting the options of the element in
threes. Both count alike, whatever was built and dropped before: the button that a selection checks
is the one that reports it.
-/

namespace LayeredPage.Proofs

open MemoryDocument

/-! ## Patches on a page -/

/-- A page that can take a scene into one of its elements; whoever listens on it already does so on
elements of it. -/
structure Hospitable (page : Page) (x : ElementId) : Prop where
  found : ∃ element, page.element? x = some element
  whole : WholePage page x
  able : page.lacks .createElement = false
  orderly : InSeries page
  within : ∀ r ∈ enlisted page, ∀ y, r.target = .element y → y.index < page.elements.size

/-- What a scene in an element of a page, and its document, are after patches; latest first. -/
inductive Tour (page : Page) (x : ElementId) (config : Config) :
    Log → Scene → BrowserDocument → Prop
  | attached {s : Scene} {d : BrowserDocument} :
      Script.run BrowserDocument.answerPatch (Scene.attach ⟨0⟩ config)
      (BrowserDocument.withMount page x) = .ok (.ok s, d) →
      Tour page x config [] s d
  | patched {log : Log} {s s' : Scene} {d d' : BrowserDocument} {p : Patch}
    {result : Except PatchError Unit} :
      Tour page x config log s d → Script.run BrowserDocument.answerPatch (Scene.apply p s) d =
        .ok ((result, s'), d') →
      Tour page x config ((p, result) :: log) s' d'

/-- A scene in memory that went through the same. -/
structure Paired (page : Page) (x : ElementId) (config : Config) (log : Log) (s : Scene)
    (h : MemoryHost Recorder) (d : BrowserDocument) : Prop where
  chronicle : Chronicle ⟨0⟩ config (MemoryHost.withMount .div page.core.loaded) log s h
  ensemble : Ensemble (ground page x False) (coreCalls page) (enlisted page) (ticking page) s h d
  matched : Matched h.document d

section Tours

variable {page : Page} {x : ElementId} {config : Config} {log : Log} {s s' : Scene}
  {h h' : MemoryHost Recorder}
  {d d' : BrowserDocument} {p : Patch} {result : Except PatchError Unit}

lemma matched_withMount :
    Matched (MemoryHost.withMount .div page.core.loaded).document
      (BrowserDocument.withMount page x) := by
  intro n y state _ held
  unfold held? MemoryHost.withMount at held
  rw [node?_create] at held
  split at held <;> cases held

lemma Hospitable.arrival (hosts : Hospitable page x) (config : Config) :
    Concur (fun h d => Matched h.document d)
    (MemoryHost.serve (Scene.attach ⟨0⟩ config) (MemoryHost.withMount .div page.core.loaded))
    (Script.run BrowserDocument.answerPatch (Scene.attach ⟨0⟩ config)
      (BrowserDocument.withMount page x)) := by
  obtain ⟨element, found⟩ := hosts.found
  have concert := concert_withMount found hosts.whole hosts.able hosts.orderly
  have behaves := behaves_attach (l := .free) concert.linked concert.mounted config
  rw [single_withMount] at behaves
  exact (concert.matches matched_withMount behaves).mono fun _ _ related => related.2.1

lemma Hospitable.attached (hosts : Hospitable page x)
    (run : Script.run BrowserDocument.answerPatch (Scene.attach ⟨0⟩ config)
      (BrowserDocument.withMount page x) = .ok (.ok s, d)) :
    ∃ h,
      MemoryHost.serve (Scene.attach ⟨0⟩ config) (MemoryHost.withMount .div page.core.loaded) =
        .ok (.ok s, h) ∧
      Paired page x config [] s h d := by
  obtain ⟨element, found⟩ := hosts.found
  have concert := concert_withMount found hosts.whole hosts.able hosts.orderly
  obtain ⟨⟨h, served, ensemble⟩, _⟩ := concert.attach (unheard_mount .div) (single_withMount ..) run
  have concur := hosts.arrival config
  rw [served, run] at concur
  cases concur with
  | value related => exact ⟨h, served, .attached served, ensemble, related⟩

lemma Paired.patched (paired : Paired page x config log s h d)
    (run : Script.run BrowserDocument.answerPatch (Scene.apply p s) d = .ok ((result, s'), d')) :
    ∃ h', MemoryHost.patch (Scene.apply p) s h = .ok ((result, s'), h') ∧
      Paired page x config ((p, result) :: log) s' h' d' ∧
      Retains d d' := by
  have minds := paired.ensemble.sound.minds_apply p
  obtain ⟨h', served, ensemble, _⟩ := paired.ensemble.serve minds run
  have concur := paired.ensemble.toConcert.matches paired.matched minds
  rw [show MemoryHost.serve (Scene.apply p s) h = .ok ((result, s'), h') from served, run] at concur
  cases concur with
  | value related =>
    exact ⟨h', served, ⟨paired.chronicle.patched served, ensemble, related.2.1⟩, related.2.2⟩

/-- What goes well in memory goes well on the page. -/
lemma Paired.followed (paired : Paired page x config log s h d)
    (run : MemoryHost.patch (Scene.apply p) s h = .ok ((result, s'), h')) :
    ∃ d', Script.run BrowserDocument.answerPatch (Scene.apply p s) d = .ok ((result, s'), d') ∧
      Paired page x config ((p, result) :: log) s' h' d' ∧ Retains d d' := by
  have concur := paired.ensemble.toConcert.serve (paired.ensemble.sound.minds_apply p)
  rw [show MemoryHost.serve (Scene.apply p s) h = .ok ((result, s'), h') from run] at concur
  generalize there : Script.run BrowserDocument.answerPatch (Scene.apply p s) d = r at concur
  cases concur with
  | @value _ _ d' _ =>
    obtain ⟨h₁, run₁, paired', retains⟩ := paired.patched there
    rw [run] at run₁
    cases run₁
    exact ⟨d', rfl, paired', retains⟩

theorem Tour.paired (tour : Tour page x config log s d) (hosts : Hospitable page x) :
    ∃ h, Paired page x config log s h d := by
  induction tour with
  | attached run =>
    obtain ⟨h, _, paired⟩ := hosts.attached run
    exact ⟨h, paired⟩
  | patched _ run ih =>
    obtain ⟨h, paired⟩ := ih
    obtain ⟨h', _, paired', _⟩ := paired.patched run
    exact ⟨h', paired'⟩

/-- Every run of patches in memory is one on a page. -/
theorem Chronicle.tour
    (chronicle : Chronicle ⟨0⟩ config (MemoryHost.withMount .div page.core.loaded) log s h)
    (hosts : Hospitable page x) : ∃ d, Tour page x config log s d ∧
      Paired page x config log s h d := by
  induction chronicle with
  | attached served =>
    have concur := hosts.arrival config
    rw [served] at concur
    generalize run :
      Script.run BrowserDocument.answerPatch (Scene.attach ⟨0⟩ config)
        (BrowserDocument.withMount page x) = r at concur
    cases concur with
    | @value _ _ d _ =>
      obtain ⟨h, served', paired⟩ := hosts.attached run
      rw [served] at served'
      cases served'
      exact ⟨d, .attached run, paired⟩
  | patched _ served ih =>
    obtain ⟨d, tour, paired⟩ := ih
    obtain ⟨d', run, paired', _⟩ := paired.followed served
    exact ⟨d', tour.patched run, paired'⟩

lemma Paired.inUse (paired : Paired page x config log s h d) : InUse 1 ⟨0⟩ s h :=
  single_withMount .div page.core.loaded ▸ paired.chronicle.usage.inUse reached_blankPage rfl

end Tours

/-! ## What is heard on an element -/

section Listeners

variable {g : Ground} {past : List CoreCall} {outside : List Registration} {alien : List Nat}
  {s : Scene} {h : MemoryHost Recorder}
  {d : BrowserDocument} {id : UInt32} {e : Element} {part : OwnedNode}
  {b : InputBinding} {y : ElementId}

lemma exists_wire {p : Page} {rs : List Registration} {ws : List Wire}
    (serves : List.Forall₂ (Serves p) rs ws) {r : Registration}
    (hr : r ∈ rs) : ∃ w ∈ ws, Serves p r w := by
  induction serves with
  | nil => cases hr
  | cons first _ ih =>
    rcases List.mem_cons.1 hr with rfl | later
    · exact ⟨_, List.mem_cons_self, first⟩
    · obtain ⟨w, hw, served⟩ := ih later
      exact ⟨w, List.mem_cons_of_mem _ hw, served⟩

/-- Listeners with the same number are the same. -/
lemma InSeries.listener_inj {p : Page} (orderly : InSeries p) {l l' : Listener}
    (hl : l ∈ p.listeners) (hl' : l' ∈ p.listeners)
    (same : l'.toRegistration = l.toRegistration) : l' = l := by
  have distinct := orderly.serials
  rw [enlisted, List.map_map] at distinct
  exact List.inj_on_of_nodup_map distinct hl' hl (congrArg Registration.serial same)

/-- The listeners of a live element are on its first part, but for those of fingers. -/
lemma Ensemble.listener_of (ensemble : Ensemble g past outside alien s h d) {r : Registration}
    (found : s.elements[id]? = some e)
    (hr : r ∈ elementListeners d e) (untouched : r.event ≠ "touchstart" ∧ r.event ≠ "touchend") :
    ∃ part y, e.parts.head? = some part ∧ d.element? part.id = some y ∧ r.target = .element y ∧
      r ∈ inputListeners d e := by
  rcases List.mem_append.1 hr with input | finger
  · obtain ⟨y, hy, serves⟩ := ensemble.input found
    obtain ⟨w, hw, l, _, rfl, hl⟩ := exists_wire serves input
    obtain ⟨b, _, rfl⟩ := List.mem_map.1 hw
    cases first : e.parts.head? with
    | none =>
      unfold inputListeners at input
      rw [first] at input
      cases input
    | some part => exact ⟨part, y, rfl, hy part first, congrArg Wire.target hl, input⟩
  · cases hr : e.scroll with
    | none =>
      unfold fingerListeners regionSampler? at finger
      rw [hr] at finger
      cases finger
    | some region =>
      obtain ⟨z, _, _, serves, _⟩ := ensemble.fingers found hr
      obtain ⟨w, hw, l, _, rfl, hl⟩ := exists_wire serves finger
      have event : l.event = w.event := congrArg Wire.event hl
      simp only [fingerWires, List.mem_cons, List.not_mem_nil, or_false] at hw
      rcases hw with rfl | rfl
      · exact absurd event untouched.1
      · exact absurd event untouched.2

lemma Ensemble.made (ensemble : Ensemble g past outside alien s h d)
    (found : s.elements[id]? = some e) {n : OwnedNode} (hn : n ∈ e.nodes) : 1 ≤ n.id.index :=
  ensemble.sound.stage.owned.base_le_of_mem
    (List.mem_append_right _ (mem_elementNodes.2 ⟨id, e, found, hn⟩))

/-- Nobody else listens on the first part of an element, to anything but fingers. -/
lemma Ensemble.listens (ensemble : Ensemble g past outside alien s h d)
    (within : ∀ r ∈ outside, ∀ y, r.target = .element y → y.index < g.old)
    (found : s.elements[id]? = some e)
    (first : e.parts.head? = some part) (hy : d.element? part.id = some y) {r : Registration}
    (there : r ∈ enlisted d.page)
    (target : r.target = .element y) (untouched : r.event ≠ "touchstart" ∧ r.event ≠ "touchend") :
    r ∈ inputListeners d e := by
  rcases List.mem_append.1 (ensemble.upkept.listeners.mem_iff.1 there) with foreign | own
  · have own :=
      ensemble.made found
        (List.mem_cons_of_mem _ (List.mem_append_left _ (List.mem_of_mem_head? first)))
    exact absurd (within r foreign y target) (Nat.not_lt.2 (ensemble.shows.made _ _ hy own))
  · obtain ⟨⟨j, x⟩, hx, listens⟩ := List.mem_flatMap.1 own
    rw [Std.ExtTreeMap.mem_toList_iff_getElem?_eq_some] at hx
    obtain ⟨k, z, hk, hz, place, input⟩ := ensemble.listener_of hx listens untouched
    cases target.symm.trans place
    -- Both parts have the same element on the page, so they are the same node, and this has one
    -- owner.
    have shared : k.id = part.id := ensemble.shows.distinct _ _ _ hz hy
    have same : j = id :=
      InOrder.id_of_node ensemble.sound hx found (mem_nodes_of_head? hk)
        (shared ▸ mem_nodes_of_head? first)
    rw [same, found] at hx
    cases hx
    exact input

/-- An element whose kind binds one input is told of it by one listener. -/
theorem Ensemble.heard_element (ensemble : Ensemble g past outside alien s h d)
    (within : ∀ r ∈ outside, ∀ y, r.target = .element y → y.index < g.old)
    (found : s.elements[id]? = some e)
    (only : bound e.widget = [b]) (first : e.parts.head? = some part)
    (hy : d.element? part.id = some y) :
    d.page.heard (.element y) b.event = [.bound y id b] := by
  obtain ⟨z, hz, serves⟩ := ensemble.input found
  obtain rfl : z = y := Option.some.inj ((hz part first).symm.trans hy)
  rw [only] at serves
  obtain ⟨r, _, ⟨l, hl, rfl, wired⟩, nothing, listed⟩ := List.forall₂_cons_right_iff.1 serves
  rw [List.forall₂_nil_right_iff.1 nothing] at listed
  have untouched : b.event ≠ "touchstart" ∧ b.event ≠ "touchend" := by cases b <;> decide
  have ours (l' : Listener) :
      l' ∈ d.page.listeners.filter (fun l => decide (l.target = .element z) && l.event == b.event) ↔
      l' = l := by
    rw [List.mem_filter, Bool.and_eq_true, decide_eq_true_iff, beq_iff_eq]
    constructor
    · rintro ⟨hl', target, event⟩
      have listens :=
        ensemble.listens within found first hy (List.mem_map_of_mem hl') target (by rwa [event])
      rw [listed] at listens
      exact ensemble.tallied.orderly.listener_inj hl hl' (List.mem_singleton.1 listens)
    · rintro rfl
      exact ⟨hl, congrArg Wire.target wired, congrArg Wire.event wired⟩
  have distinct : d.page.listeners.Nodup := .of_map _ (.of_map _ ensemble.tallied.orderly.serials)
  have single :=
    (List.perm_ext_iff_of_nodup (distinct.filter _) (List.nodup_singleton l)).2 fun l' =>
    (ours l').trans List.mem_singleton.symm
  unfold Page.heard
  rw [List.perm_singleton.1 single, List.map_singleton]
  exact congrArg (fun w => [w.handler]) wired

end Listeners

/-! ## Rows as they are read -/

/-- The button of a row of a radio set. -/
def buttonOf? (d : BrowserDocument) (e : Element) (i : Nat) : Option ElementId :=
  (e.options[3 * i + 1]?).bind fun button => d.element? button.id

/-- Whether the button of a row is checked on the page. -/
def pressed? (d : BrowserDocument) (e : Element) (i : Nat) : Option Bool :=
  (buttonOf? d e i).bind fun y => (d.page.element? y).map (·.checked)

/-- Of a change at `y`, below the first part of an element, the core is told that it happened in
this row; and that is all. -/
def Announces (d : BrowserDocument) (id : UInt32) (e : Element) (y : ElementId)
    (row : UInt32) : Prop :=
  ∃ part fieldset, e.parts.head? = some part ∧ d.element? part.id = some fieldset ∧
    ∀ (b : Browser) (event : PageEvent), b.document = d → event.name = "change" →
      event.target = some y →
      Browser.dispatch (.element fieldset) event b =
        .ok ((), b.onPage fun p =>
          p.noteCore (.interrupt (Interrupt.text (.radioSetChange id row)) none))

/-- The children on the page of the first part of an element. -/
def rowsOf (d : BrowserDocument) (e : Element) : List ElementId :=
  (e.parts.head?.bind fun part => d.element? part.id).elim [] d.page.children

/-- A radio set with this many rows: a button in each, which reports the row. -/
structure Rowed (d : BrowserDocument) (id : UInt32) (e : Element) (count : Nat) : Prop where
  options : e.options.length = 3 * count
  rows : (rowsOf d e).length = count
  reports : ∀ i < count, ∃ y, buttonOf? d e i = some y ∧ Announces d id e y (.ofNat i)
  distinct : ∀ i j y, buttonOf? d e i = some y → buttonOf? d e j = some y → i = j

section Reading

variable {page : Page} {x : ElementId} {config : Config} {log : Log} {s : Scene}
  {h : MemoryHost Recorder} {d : BrowserDocument}
  {id : UInt32} {e : Element} {base : Nat} {mount : NodeId} {i j : Nat}

/-- An event reaches the only handler that there is for it. -/
lemma dispatch_single {b : Browser} {event : PageEvent} {y : ElementId} {binding : InputBinding}
    (heard : b.page.heard (.element y) event.name = [.bound y id binding]) :
    Browser.dispatch (.element y) event b =
      .ok ((), b.onPage fun p => p.report y id binding event) := by
  unfold Browser.dispatch
  simp only [bind, StateT.bind, get, getThe, MonadStateOf.get, StateT.get, Except.bind,
    pure, Except.pure, heard]
  rfl

/-- The row is the place of the parent of the target. -/
lemma report_row {p : Page} {fieldset y row : ElementId} {event : PageEvent} {rows : List ElementId}
    (there : (p.element? fieldset).isSome)
    (children : p.children fieldset = rows) (distinct : rows.Nodup) (at_i : rows[i]? = some row)
    (above : p.parent? y = some row) (target : event.target = some y) :
    p.report fieldset id .radioSetChange event = p.send (.radioSetChange id (.ofNat i)) none := by
  obtain ⟨control, found⟩ := Option.isSome_iff_exists.1 there
  obtain ⟨inside, here⟩ := List.getElem?_eq_some_iff.1 at_i
  have place : rows.findIdx? (fun child => decide (child = row)) = some i := by
    refine List.findIdx?_eq_some_iff_getElem.2 ⟨inside, decide_eq_true here, fun j before => ?_⟩
    rw [decide_eq_true_iff, ← here, distinct.getElem_inj_iff]
    exact before.ne
  have read : p.readInput fieldset .radioSetChange event = .index (.ofNat i) := by
    simp only [Page.readInput, found, Page.rowOf, target, above, children, place,
      bind, Option.bind, pure]
  unfold Page.report
  rw [read]
  rfl

/-- The button of a row hangs in the row. -/
lemma InUse.button (inUse : InUse base mount s h) (found : s.elements[id]? = some e)
    {group : String} {noted : Option UInt32}
    {ls : List String} (offered : menu (likeness e h.document) = .ofRows group noted ls)
    (hi : i < ls.length) :
    ∃ button node, e.options[3 * i + 1]? = some button ∧ h.document.node? button.id = some node ∧
      node.kind = .input ∧
      h.document.parent? button.id = some (e.node (.option (3 * i))) := by
  have place (k : Nat) (inside : k < 3) {m : Imprint}
    (here : (row group (0 + 3 * i) ls[i])[k]? = some m) :
      ∃ n node, e.options[3 * i + k]? = some n ∧
        h.document.node? n.id = some node ∧ m.Left e node := by
    refine inUse.left found ?_
    rw [offered]
    exact (getElem_rows (List.getElem?_eq_getElem hi) inside).trans here
  obtain ⟨n, div, there, record, left⟩ := place 0 (by decide) rfl
  obtain ⟨button, node, there', record', left'⟩ := place 1 (by decide) rfl
  refine ⟨button, node, there', record', left'.kind, ?_⟩
  have here : e.node (.option (3 * i)) = n.id := by
    rw [Element.node, show e.options[3 * i]? = some n from there]; rfl
  have named : e.node (.option (0 + 3 * i + 1)) = button.id := by
    rw [Nat.zero_add, Element.node, there']; rfl
  rw [here, ← inUse.listed.linked, children_of_node? record, left.children, ← named]
  exact List.mem_cons_self

lemma Paired.offers (paired : Paired page x config log s h d) (found : s.elements[id]? = some e)
    (radioSet : e.widget = .radioSet) :
    ∃ group noted ls, menu (likeness e h.document) = .ofRows group noted ls :=
  ⟨_, _, _,
    (enduring_rows config).endures paired.chronicle.usage reached_blankPage rfl id e found radioSet⟩

lemma InUse.distinct_options (inUse : InUse base mount s h) (found : s.elements[id]? = some e) :
    (e.options.map (·.id)).Nodup := by
  have held := (inUse.sound.pick found).owned.nodup_front
  rw [Element.nodes, Element.fittings, List.map_cons, List.map_append] at held
  exact (List.nodup_append.1 (List.nodup_cons.1 held).2).2.1

/-- On the page, too, the rows are the children of the fieldset, and each has its button. -/
lemma Paired.seated (paired : Paired page x config log s h d) (found : s.elements[id]? = some e)
    (radioSet : e.widget = .radioSet) :
    ∃ part fieldset count, e.parts.head? = some part ∧ d.element? part.id = some fieldset ∧
      e.options.length = 3 * count ∧
      (d.page.children fieldset).length = count ∧ (d.page.children fieldset).Nodup ∧
      ∀ i < count, ∃ y row, buttonOf? d e i = some y ∧ d.page.parent? y = some row ∧
        (d.page.children fieldset)[i]? = some row := by
  have inUse := paired.inUse
  have ensemble := paired.ensemble
  obtain ⟨group, noted, ls, offered⟩ := paired.offers found radioSet
  obtain ⟨part, node, only, record, _, children, count, _⟩ := inUse.rows found offered
  have first : e.parts.head? = some part := by rw [only]; rfl
  have own :=
    ensemble.made found
      (List.mem_cons_of_mem _ (List.mem_append_left _ (List.mem_of_mem_head? first)))
  obtain ⟨fieldset, hf⟩ := ensemble.exists_element? (issued_of_node? record)
  -- The children of the fieldset on the page are the elements of the rows in memory.
  have listed : d.page.children fieldset = (h.document.children part.id).filterMap d.element? := by
    rw [ensemble.shows.children hf, if_neg (by omega), List.nil_append]
  have places : (d.page.children fieldset).map some = (List.range ls.length).map fun i =>
      d.element? (e.node (.option (3 * i))) := by
    rw [listed, map_some_filterMap, children_of_node? record, children, List.map_map]
    · rfl
    · intro n hn
      rw [inUse.listed.linked] at hn
      exact (ensemble.shows.issued n).trans (issued_of_parent? hn)
  refine ⟨part, fieldset, ls.length, first, hf, count, ?_, ?_, fun i hi => ?_⟩
  · simpa using congrArg List.length places
  · rw [listed]
    exact (inUse.listed.once part.id).filterMap fun n k y hn hk =>
      ensemble.shows.distinct n k y hn hk
  · obtain ⟨button, _, there, record', _, above⟩ := inUse.button found offered hi
    obtain ⟨y, hy⟩ := ensemble.exists_element? (issued_of_node? record')
    obtain ⟨row, hr⟩ := ensemble.exists_element? (inUse.listed.linked.issued_parent above)
    have held :=
      ensemble.made found
        (List.mem_cons_of_mem _ (List.mem_append_right _ (List.mem_of_getElem? there)))
    refine ⟨y, row, ?_, ?_, ?_⟩
    · rw [buttonOf?, there, Option.bind_some, hy]
    · rw [ensemble.shows.parent? hy held, above, Option.bind_some, hr]
    · have here := congrArg (·[i]?) places
      simp only [List.getElem?_map, List.getElem?_range hi, Option.map_some, hr] at here
      obtain ⟨r, hr', same⟩ := Option.map_eq_some_iff.1 here
      rw [hr', same]

lemma Paired.distinct_buttons (paired : Paired page x config log s h d)
    (found : s.elements[id]? = some e) {y : ElementId}
    (hi : buttonOf? d e i = some y) (hj : buttonOf? d e j = some y) : i = j := by
  obtain ⟨n, there, hn⟩ := Option.bind_eq_some_iff.1 hi
  obtain ⟨k, there', hk⟩ := Option.bind_eq_some_iff.1 hj
  have same : (e.options.map (·.id))[3 * i + 1]? = (e.options.map (·.id))[3 * j + 1]? := by
    rw [List.getElem?_map, List.getElem?_map, there, there', Option.map_some, Option.map_some,
      paired.ensemble.shows.distinct _ _ _ hn hk]
  have inside : 3 * i + 1 < (e.options.map (·.id)).length := by
    rw [List.length_map]
    exact (List.getElem?_eq_some_iff.1 there).1
  have places := (List.getElem?_inj inside (paired.inUse.distinct_options found)).1 same
  omega

/-- Every radio set on a page has its rows, and they report themselves. -/
theorem Paired.rowed (paired : Paired page x config log s h d) (hosts : Hospitable page x)
    (found : s.elements[id]? = some e)
    (radioSet : e.widget = .radioSet) : ∃ count, Rowed d id e count := by
  have ensemble := paired.ensemble
  obtain ⟨part, fieldset, count, first, hf, options, size, distinct, seats⟩ :=
    paired.seated found radioSet
  have heard := ensemble.heard_element hosts.within found (by rw [radioSet]; rfl) first hf
  have there : (d.page.element? fieldset).isSome := by
    obtain ⟨o, _, ho, _⟩ := ensemble.shows.portraits _ _ hf
    obtain ⟨element, he, _⟩ := Option.map_eq_some_iff.1 ho
    rw [he]
    rfl
  refine ⟨count, options, ?_, fun i hi => ?_, fun _ _ _ => paired.distinct_buttons found⟩
  · rw [rowsOf, first, Option.bind_some, hf]
    exact size
  · obtain ⟨y, row, button, parent, at_i⟩ := seats i hi
    refine ⟨y, button, part, fieldset, first, hf, fun b event same name target => ?_⟩
    subst same
    rw [show InputBinding.radioSetChange.event = event.name from name.symm] at heard
    rw [dispatch_single heard]
    have told : b.page.report fieldset id .radioSetChange event =
        b.page.send (.radioSetChange id (.ofNat i)) none :=
      report_row there rfl distinct at_i parent target
    exact congrArg
      (fun p : Page => Except.ok ((), { b with document := { b.document with page := p } })) told

/-- What is checked on the page is what is checked in memory. -/
lemma Paired.pressed (paired : Paired page x config log s h d) (found : s.elements[id]? = some e)
    (radioSet : e.widget = .radioSet)
    {count : Nat} (options : e.options.length = 3 * count) (hi : i < count) :
    pressed? d e i = (checks (likeness e h.document))[3 * i + 1]? := by
  obtain ⟨group, noted, ls, offered⟩ := paired.offers found radioSet
  obtain ⟨_, _, _, _, _, _, total, _⟩ := paired.inUse.rows found offered
  obtain ⟨button, node, there, record, kind, _⟩ :=
    paired.inUse.button found offered (i := i) (by omega)
  obtain ⟨y, hy⟩ := paired.ensemble.exists_element? (issued_of_node? record)
  have held : held? h.document button.id = some (.input, node.form.checked) := by
    rw [held?, record, Option.map_some, kind]
  obtain ⟨element, he, same⟩ := Option.map_eq_some_iff.1 (paired.matched _ _ _ hy held)
  rw [← paired.inUse.rowChecked found i, rowChecked, there, Option.bind_some, record, pressed?,
    buttonOf?, there, Option.bind_some, hy,
    Option.bind_some, he]
  exact congrArg (fun t => some t.2) same

end Reading

/-! ## Rows as they are written -/

/-- A number, if a machine word with so many values can be this number. -/
def fits? (word n : Nat) : Option Nat := if n < word then some n else none

/-- The place of the button of a row as a machine counts it: the number of the row and three times
it have to be words, and the options are counted after the first. -/
def machinePlace? (word : Nat) (row : UInt32) (options : Nat) : Option Nat :=
  (fits? word row.toNat).bind fun index => (fits? word (index * 3)).bind fun offset =>
    if 1 ≤ options ∧ offset < options - 1 then some (offset + 1) else none

/-- What a selection makes of the rows of a radio set, of which there are now so many. Its row, if
there is one, is checked and reports this selection. The other rows are as before, or unchecked if
they are new; without new ones the buttons are those from before. All inputs of other elements are
as before. -/
structure Picks (s s' : Scene) (d d' : BrowserDocument) (id : UInt32) (e e' : Element)
    (fresh : Bool) (count : Nat) (m : UInt32) :
    Prop where
  row : m.toNat < count → (∃ y, buttonOf? d' e' m.toNat = some y ∧ Announces d' id e' y m) ∧
    pressed? d' e' m.toNat = some true
  rest : ∀ j < count, j ≠ m.toNat → pressed? d' e' j = if fresh then some false else pressed? d e j
  buttons : fresh = false → ∀ j < count, buttonOf? d' e' j = buttonOf? d e j
  others : ∀ j ≠ id, s'.elements[j]? = s.elements[j]? ∧ ∀ x, s.elements[j]? = some x →
    ∀ n ∈ x.nodes, n.kind = .input →
    ∃ y, d.element? n.id = some y ∧ d'.element? n.id = some y ∧ toggle? d'.page y = toggle? d.page y

section Writing

variable {page : Page} {x : ElementId} {config : Config} {log : Log} {s s' : Scene}
  {h h' : MemoryHost Recorder} {d d' : BrowserDocument} {id : UInt32} {e e' : Element} {log' : Log}

/-- No machine that can count the options overflows when it counts rows. -/
lemma machinePlace?_eq {word options : Nat} (row : UInt32) (counted : options < word) :
    machinePlace? word row options =
      if 3 * row.toNat + 1 < options then some (3 * row.toNat + 1) else none := by
  unfold machinePlace? fits?
  by_cases index : row.toNat < word
  · rw [if_pos index, Option.bind_some]
    by_cases offset : row.toNat * 3 < word
    · rw [if_pos offset, Option.bind_some, Nat.mul_comm]
      split <;> split <;> first | rfl | omega
    · rw [if_neg offset, Option.bind_none, if_neg (by omega)]
  · rw [if_neg index, Option.bind_none, if_neg (by omega)]

lemma radioInput?_eq (row : UInt32) (e : ElementView) :
    Craft.radioInput? e row =
      (if 3 * row.toNat + 1 < e.options then some (3 * row.toNat + 1) else none).map
        Spot.option := by
  unfold Craft.radioInput?
  dsimp only
  split <;> rfl

lemma length_checks (e : Element) (m : MemoryDocument) :
    (checks (likeness e m)).length = e.options.length :=
  (List.length_map _).trans (List.length_map _)

/-- A selection checks its row, and new rows are not checked otherwise. -/
lemma getElem_picked {t t' : Likeness} {c : RadioSetChange} {m : UInt32} {j : Nat}
    (painted : paint (Craft.updateRadioSet id c) t = some ((), t'))
    (chosen : c.selected = some m) (hj : 3 * j + 1 < (checks t').length) :
    (checks t')[3 * j + 1]? = if j =
      m.toNat then some true else if c.options.isSome then some false
        else (checks t)[3 * j + 1]? := by
  have made := (Prod.mk.inj (ballot_updated painted)).2
  rw [made, length_ticked] at hj
  have left :
    (c.options.elim (checks t) fun labels => List.replicate (3 * labels.length) false)[3 * j + 1]? =
      if c.options.isSome then some false else (checks t)[3 * j + 1]? := by
    cases options : c.options with
    | none => rfl
    | some labels =>
      rw [options, Option.elim_some, List.length_replicate] at hj
      exact List.getElem?_replicate.trans (if_pos hj)
  have row := List.getElem?_eq_getElem hj
  rw [made, chosen, Option.isSome_some, Bool.or_true, Option.some_or,
    getElem_ticked _ _ row, ← left, row]
  by_cases here : j = m.toNat
  · simp [here]
  · simp [here, Ne.symm here]

lemma count_updated {c : RadioSetChange} {m m' : MemoryDocument} {count count' : Nat}
    (painted : paint (Craft.updateRadioSet id c) (likeness e m) = some ((), likeness e' m'))
    (options : e.options.length = 3 * count)
    (options' : e'.options.length = 3 * count') : count' = c.options.elim count List.length := by
  have sizes := congrArg List.length (Prod.mk.inj (ballot_updated painted)).2
  rw [length_checks, options', length_ticked] at sizes
  cases new : c.options with
  | none =>
    rw [new, Option.elim_none, length_checks, options] at sizes
    exact Nat.mul_left_cancel (by decide) sizes
  | some labels =>
    rw [new, Option.elim_some, List.length_replicate] at sizes
    exact Nat.mul_left_cancel (by decide) sizes

/-- Requests that neither add options nor take any away. -/
def Frugal : BenchRequest → Prop
  | .look | .note _ | .write .. | .html _ | .useFont _ => True
  | _ => False

lemma spares_options {r : BenchRequest} (frugal : Frugal r) :
    Spares (fun b : Bench => b.element.options) (Bench.perform r) := by
  cases r with
  | look => exact spares_get.bind fun b => spares_pure _
  | note notes => exact spares_modify fun _ => rfl
  | write | html => exact spares_get.bind fun b => spares_script _
  | useFont font =>
    refine Spares.bind (spares_focus ?_ _) fun _ => spares_pure _
    exact fun _ _ => rfl
  | addPart | addOption | clearOptions | sample | resizeRegion => exact frugal.elim

lemma Cosmetic.frugal (r : BenchRequest) (cosmetic : Cosmetic r) : Frugal r := by
  cases r with
  | look | html | useFont | write => trivial
  | note | addPart | addOption | clearOptions | sample | resizeRegion => exact cosmetic.elim

/-- An update without new options leaves those that there are. -/
lemma frugal_updateRadioSet {c : RadioSetChange} (old : c.options = none) :
    Uses Frugal (Craft.updateRadioSet id c) := by
  have call (r : BenchRequest) (frugal : Frugal r) : Uses Frugal (Craft.call r) :=
    ⟨frugal, fun _ => trivial⟩
  have noted (f : Notes → Notes) : Uses Frugal (Craft.remember f) :=
    (call .look trivial).bind fun _ => call (.note _) trivial
  have marked (spot : Spot) : Uses Frugal (Styling.setForm spot (.checked true)) :=
    call (.write ..) trivial
  have color (property : String) (value : Option Color) :
      Uses Frugal (Styling.styleColor (.part 0) property value) :=
    uses_each fun _ => call (.write ..) trivial
  unfold Craft.updateRadioSet
  refine ((cosmetic_geometry ..).mono Cosmetic.frugal).bind fun _ => ?_
  refine (uses_each fun _ => (cosmetic_textStyle ..).mono Cosmetic.frugal).bind fun _ => ?_
  rw [old]
  refine Uses.bind (uses_pure ()) fun _ => (uses_each fun _ => noted _).bind fun _ => ?_
  extract_lets rest
  have colored (u) : Uses Frugal (rest u) := by
    refine (color ..).bind fun _ => ?_
    refine (color ..).bind fun _ => ?_
    exact (color ..).bind fun _ => uses_each fun _ => call (.write ..) trivial
  exact uses_ite ((call .look trivial).bind fun e => (uses_each marked).bind colored) (colored ())

lemma options_updated {c : RadioSetChange} (old : c.options = none)
    (found : s.elements[id]? = some e) (found' : s'.elements[id]? = some e')
    (run : MemoryHost.patch (Scene.apply (.update id (.radioSet c))) s h = .ok ((.ok (), s'), h')) :
    e'.options = e.options := by
  have uses : Uses Frugal (Craft.updateRadioSet id c) := frugal_updateRadioSet old
  have carried := uses.spares fun _ => spares_options
  have ends : Ends (Scene.update id (.radioSet c)) s h
      (fun _ s' _ => ∃ e', s'.elements[id]? = some e' ∧ e'.options = e.options)
        (fun _ _ _ => True) fun _ => True := by
    unfold Scene.update
    refine (ends_bind _ _ _).2
      ((ends_lookup s h id _).mono ?_ (fun _ _ _ _ => trivial) fun _ => False.elim)
    rintro x s₁ h₁ ⟨rfl, rfl, there, _⟩
    cases found.symm.trans there
    refine (ends_bind _ _ _).2
      ((ends_atBench _ _ _ _).2 ((carried _ _ h₁).mono ?_ ?_ fun _ _ => trivial))
    · exact fun _ b h₂ same => ⟨_, Std.ExtTreeMap.getElem?_insert_self, same⟩
    · exact fun _ b h₂ same => trivial
  unfold Ends at ends
  rw [show MemoryHost.patch (Scene.update id (.radioSet c)) s h =
    .ok ((.ok (), s'), h') from run] at ends
  obtain ⟨x, there, same⟩ := ends
  cases found'.symm.trans there
  exact same

/-- The inputs of the others. -/
lemma Paired.unpicked (paired : Paired page x config log s h d)
    (paired' : Paired page x config log' s' h' d') (retains : Retains d d') {change : Change}
    (run : MemoryHost.patch (Scene.apply (.update id change)) s h = .ok ((.ok (), s'), h')) :
    ∀ j ≠ id, s'.elements[j]? = s.elements[j]? ∧ ∀ x, s.elements[j]? = some x →
      ∀ n ∈ x.nodes, n.kind = .input →
      ∃ y, d.element? n.id = some y ∧ d'.element? n.id = some y ∧
        toggle? d'.page y = toggle? d.page y := by
  have updated := paired.ensemble.sound.update_alone id change
  unfold Ends at updated
  rw [show MemoryHost.patch (Scene.update id change) s h =
    .ok ((.ok (), s'), h') from run] at updated
  refine fun j other => ⟨updated.others.entries j other, fun x there n hn input => ?_⟩
  obtain ⟨node, record, kind⟩ := paired.ensemble.sound.stage.owned.kinds n
    (List.mem_append_right _ (mem_elementNodes.2 ⟨j, x, there, hn⟩))
  have held : held? h.document n.id = some (.input, node.form.checked) := by
    rw [held?, record, Option.map_some, kind, input]
  have held' : held? h'.document n.id = some (.input, node.form.checked) := by
    rw [held?, updated.others.records j x n other there hn]
    exact held
  obtain ⟨y, hy⟩ := paired.ensemble.exists_element? (issued_of_node? record)
  have hy' := retains _ _ hy
  exact ⟨y, hy, hy', (paired'.matched _ _ _ hy' held').trans (paired.matched _ _ _ hy held).symm⟩

end Writing

/-- On every page that patches led to, the rows of a radio set are read and written alike. A change
of the button of a row is told to the core as one of this row. An update is accepted, and a
selection in it checks the button that reports it and no other; a selection that has no row checks
none. The place of the button is counted without any overflow. -/
theorem rows_of_tour {page : Page} {x : ElementId} {config : Config} {log : Log} {s : Scene}
    {d : BrowserDocument} {id : UInt32}
    {e : Element} (hosts : Hospitable page x) (tour : Tour page x config log s d)
    (found : s.elements[id]? = some e)
    (radioSet : e.widget = .radioSet) : ∃ count, Rowed d id e count ∧
      (∀ m : UInt32, Craft.radioInput? e.view m =
        (if m.toNat < count then some (3 * m.toNat + 1) else none).map Spot.option ∧
        ∀ word > e.options.length, (machinePlace? word m e.options.length).map Spot.option =
          Craft.radioInput? e.view m) ∧
      ∀ c : RadioSetChange, ∃ s' d' e',
        Script.run BrowserDocument.answerPatch (Scene.apply (.update id (.radioSet c)) s) d =
          .ok ((.ok (), s'), d') ∧
        s'.elements[id]? = some e' ∧ e'.widget = .radioSet ∧
        Rowed d' id e' (c.options.elim count List.length) ∧
        ∀ m ∈ c.selected,
        Picks s s' d d' id e e' c.options.isSome (c.options.elim count List.length) m := by
  obtain ⟨h, paired⟩ := tour.paired hosts
  obtain ⟨count, rowed⟩ := paired.rowed hosts found radioSet
  refine ⟨count, rowed, fun m => ⟨?_, fun word counted => ?_⟩, fun c => ?_⟩
  · have inside : 3 * m.toNat + 1 < e.view.options ↔ m.toNat < count := by
      change 3 * m.toNat + 1 < e.options.length ↔ _
      rw [rowed.options]
      omega
    rw [radioInput?_eq]
    simp only [inside]
  · rw [radioInput?_eq, machinePlace?_eq m counted]
    rfl
  · obtain ⟨s', h', e', run, _, found', widget, painted⟩ :=
      paired.inUse.update found (.radioSet c) radioSet
    obtain ⟨d', run', paired', retains⟩ := paired.followed run
    have kind := widget.trans radioSet
    obtain ⟨count', rowed'⟩ := paired'.rowed hosts found' kind
    obtain rfl := count_updated painted rowed.options rowed'.options
    refine ⟨s', d', e', run', found', kind, rowed', fun m chosen => ?_⟩
    have pressed (j : Nat) (hj : j < c.options.elim count List.length) : pressed? d' e' j =
        if j =
          m.toNat then some true else if c.options.isSome then some false else pressed? d e j := by
      have inside : 3 * j + 1 < (checks (likeness e' h'.document)).length := by
        rw [length_checks, rowed'.options]
        omega
      rw [paired'.pressed found' kind rowed'.options hj, getElem_picked painted chosen inside]
      cases options : c.options with
      | none =>
        rw [options] at hj
        rw [paired.pressed found radioSet rowed.options hj]
      | some labels => rfl
    refine ⟨fun inside => ⟨?_, ?_⟩, fun j hj other => ?_, fun old j hj => ?_,
      paired.unpicked paired' retains run⟩
    · have reports := rowed'.reports m.toNat inside
      rwa [UInt32.ofNat_toNat] at reports
    · rw [pressed _ inside, if_pos rfl]
    · rw [pressed j hj, if_neg other]
    · have same :=
        options_updated (Option.not_isSome_iff_eq_none.1 (Bool.eq_false_iff.1 old)) found found' run
      rw [Option.not_isSome_iff_eq_none.1 (Bool.eq_false_iff.1 old)] at hj
      obtain ⟨y, hy, _⟩ := rowed.reports j hj
      obtain ⟨button, there, placed⟩ := Option.bind_eq_some_iff.1 hy
      rw [hy, buttonOf?, same, there, Option.bind_some, retains _ _ placed]

/-- Three rows of a radio set are replaced by two, and the second of these is selected: it is
checked and reports itself, and the first one is as before. -/
theorem rows_after_replacement :
    ∃ (log : Log) (s s' : Scene) (d d' : BrowserDocument) (e e' : Element) (y : ElementId),
    Tour .fresh ⟨3⟩ .standard log s d ∧ s.elements[(1 : UInt32)]? = some e ∧ Rowed d 1 e 2 ∧
      Script.run BrowserDocument.answerPatch (Scene.apply (.update 1 (polling none (some 1))) s) d =
        .ok ((.ok (), s'), d') ∧
      Rowed d' 1 e' 2 ∧ buttonOf? d' e' 1 = some y ∧ Announces d' 1 e' y 1 ∧
      pressed? d' e' 1 = some true ∧
      pressed? d' e' 0 = pressed? d e 0 := by
  have hosts : Hospitable .fresh ⟨3⟩ :=
    ⟨⟨_, rfl⟩, wholePage_fresh, rfl, inSeries_fresh, fun _ hr => absurd hr List.not_mem_nil⟩
  have run :
      (recounted ⟨0⟩ .standard (MemoryHost.withMount .div Page.fresh.core.loaded)
        [.create .radioSet ⟨1, none, 0⟩, .update 1 (polling (some ["a", "b", "c"]) (some 2)),
          .update 1 (polling (some ["d", "e"]) none)]).map
        (fun r => r.2.elements[(1 : UInt32)]?.map fun e => (e.widget, e.options.length)) =
          some (some (.radioSet, 6)) := by decide +kernel
  obtain ⟨⟨log, s⟩, start, facts⟩ := Option.map_eq_some_iff.1 run
  obtain ⟨e, found, facts⟩ := Option.map_eq_some_iff.1 facts
  obtain ⟨radioSet, six⟩ := Prod.mk.inj facts
  obtain ⟨h, chronicle⟩ := exists_chronicle_of_recounted start
  obtain ⟨d, tour, _⟩ := chronicle.tour hosts
  obtain ⟨count, rowed, _, updates⟩ := rows_of_tour hosts tour found radioSet
  obtain rfl : count = 2 := by
    have options := rowed.options
    omega
  obtain ⟨s', d', e', told, _, _, rowed', picks⟩ :=
    updates ⟨⟨none, none, none⟩, none, some 1, none, none, none, none, none⟩
  have picks := picks 1 rfl
  obtain ⟨⟨y, button, reports⟩, pressed⟩ := picks.row (by decide)
  exact ⟨log, s, s', d, d', e, e', y, tour, found, rowed, told, rowed', button, reports, pressed,
    picks.rest 0 (by decide) (by decide)⟩

end LayeredPage.Proofs
