import LayeredPage.Proofs.Conduct
import LayeredPage.Proofs.Reflection

/-!
# Two hosts in accord

A document on a page reflects a document in memory if it has the same tree on record and the page
shows it. It gives the same answer to every proper request, and reflects the document in memory
again afterwards. So a script that conducts itself properly comes to the same on both.
-/

namespace LayeredPage.Proofs

open MemoryDocument

/-- A document on a page keeps the tree of a document in memory, on record and on the page. -/
structure Reflects (g : Ground) (m : MemoryDocument) (d : BrowserDocument) : Prop where
  ties : slotTies d = nodeTies m
  shows : Shows g d.element? m d.page
  linked : Linked m
  mounted : m.issued ⟨0⟩
  samplers : d.samplers.size = m.samplers.size

/-- Neither the core was called nor what the page offers changed. -/
structure Aside (p p' : Page) : Prop where
  lacking : p'.lacking = p.lacking
  core : p'.core = p.core
  calls : coreCalls p' = coreCalls p

lemma Bland.aside {p p' : Page} (plain : Bland p p') : Aside p p' :=
  ⟨plain.lacking, plain.core, plain.calls⟩

lemma Aside.trans {p p' p'' : Page} (one : Aside p p') (two : Aside p' p'') : Aside p p'' :=
  ⟨two.lacking.trans one.lacking, two.core.trans one.core, two.calls.trans one.calls⟩

lemma aside_of_elements {p : Page} {elements : Array PageElement} : Aside p { p with elements } :=
  ⟨rfl, rfl, rfl⟩

lemma Replaced.aside {p p' : Page} {x : ElementId} {html : String}
    (replaced : Replaced x html p p') : Aside p p' := by
  obtain ⟨elements, rfl⟩ := replaced.beside
  exact aside_of_elements

section Documents

variable {g : Ground} {m m' : MemoryDocument} {d d' : BrowserDocument} {n p c : NodeId}

lemma Reflects.exists_element? (reflects : Reflects g m d) (hn : m.issued n) :
    ∃ x, d.element? n = some x :=
  Option.isSome_iff_exists.1 ((reflects.shows.issued n).trans hn)

/-- Nothing that shows happened on either side. -/
lemma Reflects.level (reflects : Reflects g m d) (alike : Lookalike m m') (level : Level d d')
    (samplers : d'.samplers.size = m'.samplers.size) : Reflects g m' d' := by
  have same : d'.element? = d.element? := funext level.elements
  have shows := reflects.shows.alike alike level.page.size level.page.outlines
  refine ⟨?_, same ▸ shows, alike.linked reflects.linked, ?_, samplers⟩
  · rw [level.ties, reflects.ties, alike.nodeTies]
  · exact (shows.issued ⟨0⟩).symm.trans ((reflects.shows.issued ⟨0⟩).trans reflects.mounted)

/-- The tree changed in the same way on both sides. -/
lemma Reflects.moved {page : Page} (reflects : Reflects g m d)
    (moved : Moved d d' page (nodeTies m'))
    (shows : Shows g d.element? m' page) (linked : Linked m')
    (samplers : m'.samplers = m.samplers) :
    Reflects g m' d' := by
  have same : d'.element? = d.element? := funext fun _ => element?_of_faces moved.faces
  refine ⟨moved.ties, ?_, linked, ?_, ?_⟩
  · rw [same, moved.page]
    exact shows
  · exact (shows.issued ⟨0⟩).symm.trans ((reflects.shows.issued ⟨0⟩).trans reflects.mounted)
  · rw [moved.samplers, samplers, reflects.samplers]

lemma Reflects.detach (reflects : Reflects g m d) (hn : m.issued n) (own : 1 ≤ n.index) :
    Reflects g (m.detach n) (d.detach n) ∧ Aside d.page (d.detach n).page := by
  obtain ⟨x, hx⟩ := reflects.exists_element? hn
  have moved := moved_detach hx
  obtain ⟨nodes, eq, _⟩ := exists_detach (d := m) (n := n)
  obtain ⟨elements, removed, _⟩ := exists_remove (p := d.page) (e := x)
  rw [reflects.ties, ← nodeTies_detach] at moved
  refine ⟨reflects.moved moved (reflects.shows.detach reflects.linked hx own)
    reflects.linked.of_detach (by rw [eq]), ?_⟩
  rw [moved.page, removed]
  exact aside_of_elements

lemma Reflects.append (reflects : Reflects g m d) (hp : m.issued p)
    (hc : m.issued c) (own : 1 ≤ c.index)
    (apart : ¬ Under m p c) : Reflects g (m.append p c) (d.append p c) ∧
    Aside d.page (d.append p c).page := by
  obtain ⟨x, hx⟩ := reflects.exists_element? hp
  obtain ⟨y, hy⟩ := reflects.exists_element? hc
  obtain ⟨elements, hung, shows⟩ :=
    (reflects.shows.detach reflects.linked hy own).append reflects.linked hx hy own apart
  have moved := moved_append hx hy hung
  obtain ⟨nodes, eq, _⟩ := exists_append (d := m) (p := p) (c := c)
  obtain ⟨elements', removed, _⟩ := exists_remove (p := d.page) (e := y)
  rw [reflects.ties, ← nodeTies_append] at moved
  refine ⟨reflects.moved moved shows (reflects.linked.append hp hc) (by rw [eq]), ?_⟩
  rw [moved.page, removed]
  exact aside_of_elements

/-- Markup and text replace the content of a node alike. -/
lemma Reflects.replaced {html : String} {f : ElementId → Page → Page}
    (reflects : Reflects g m d) (hn : m.issued n)
    (own : 1 ≤ n.index) (replaces : ∀ x, Replaced x html d.page (f x d.page)) :
    Reflects g (m.setHtml n html) ((d.orphan n).onElement n f) ∧
    Aside d.page ((d.orphan n).onElement n f).page := by
  obtain ⟨x, hx⟩ := reflects.exists_element? hn
  have moved := moved_content (f := f) hx
  obtain ⟨nodes, eq, _⟩ := exists_setHtml (d := m) (n := n) html
  rw [reflects.ties, ← nodeTies_setHtml html] at moved
  refine ⟨reflects.moved moved (reflects.shows.replaced reflects.linked hx own (replaces x))
    (reflects.linked.setHtml html)
    (by rw [eq]), ?_⟩
  rw [moved.page]
  exact (replaces x).aside

lemma Reflects.reset (reflects : Reflects g m d) (hn : m.issued n) (own : 1 ≤ n.index) :
    Reflects g (m.reset n) (d.reset n) ∧ Aside d.page (d.reset n).page := by
  obtain ⟨loose, aside⟩ := reflects.detach hn own
  have unnoticed := unnoticed_before_content (d := d) (n := n)
  have issued : (m.detach n).issued n := (loose.shows.issued n).symm.trans (by
    obtain ⟨x, hx⟩ := reflects.exists_element? hn
    rw [element?_of_faces (moved_detach hx).faces, hx]
    rfl)
  have blurred :=
    loose.level .refl unnoticed.level
      ((congrArg Array.size unnoticed.samplers).trans loose.samplers)
  obtain ⟨hollow, aside'⟩ :=
    blurred.replaced (f := fun e p => p.setHtml e "") issued own fun x => replaced_setHtml ""
  have finish : Level (hollowed d n) (polished ((hollowed d n).silence n) n) :=
    level_silence.trans unnoticed_polished.level
  have kept : (polished ((hollowed d n).silence n) n).samplers.size =
      (hollowed d n).samplers.size :=
    (congrArg Array.size unnoticed_polished.samplers).trans size_silence
  obtain ⟨nodes, eq, _⟩ := exists_reset (d := m) (n := n)
  obtain ⟨nodes', eq', _⟩ := exists_setHtml (d := m.detach n) (n := n) ""
  obtain ⟨nodes'', eq'', _⟩ := exists_detach (d := m) (n := n)
  rw [browser_reset_eq]
  refine ⟨hollow.level (alike_reset reflects.linked) finish ?_, ?_⟩
  · rw [kept]
    refine hollow.samplers.trans ?_
    rw [eq', eq'', eq]
  · exact ((aside.trans unnoticed.level.page.aside).trans aside').trans finish.page.aside

lemma element?_create {kind : NodeKind} : (d.create kind).2.element? n =
    if n = ⟨d.slots.size⟩ then some (d.page.create kind.tagName).1 else d.element? n := by
  unfold BrowserDocument.create BrowserDocument.adopt BrowserDocument.element? BrowserDocument.slot?
  dsimp only
  rw [Array.getElem?_push]
  by_cases same : n = ⟨d.slots.size⟩
  · rw [if_pos same, if_pos (by rw [same])]
    rfl
  · rw [if_neg same, if_neg fun h => same (by cases n; simp_all)]

lemma Reflects.size (reflects : Reflects g m d) : d.slots.size = m.nodes.size := by
  have sizes := congrArg Array.size reflects.ties
  simpa [slotTies, nodeTies] using sizes

lemma Reflects.create (reflects : Reflects g m d) (kind : NodeKind) :
    (d.create kind).1 = (m.create kind).1 ∧ Reflects g (m.create kind).2 (d.create kind).2 ∧
      Aside d.page (d.create kind).2.page := by
  have numbered : (d.create kind).1 = (m.create kind).1 := congrArg NodeId.mk reflects.size
  have grown (n : NodeId) : (d.create kind).2.element? n =
      if n = (m.create kind).1 then some (d.page.create kind.tagName).1 else d.element? n := by
    rw [element?_create]
    exact congrArg (fun new => if n = new then _ else _) numbered
  have shows := reflects.shows.create reflects.linked reflects.mounted kind grown
  refine ⟨numbered,
    ⟨?_, shows, reflects.linked.create kind, ?_, reflects.samplers⟩, aside_of_elements⟩
  · have ties : slotTies (d.create kind).2 = (slotTies d).push ⟨none, []⟩ := Array.map_push
    have ties' : nodeTies (m.create kind).2 = (nodeTies m).push ⟨none, []⟩ := Array.map_push
    rw [ties, ties', reflects.ties]
  · exact issued_of_size_le (by simp [MemoryDocument.create]) reflects.mounted

end Documents

/-! ## The same answers -/

section Answers

variable {g : Ground} {m m' : MemoryDocument} {d : BrowserDocument} {n : NodeId} {l : Licence}
  {r : DocumentRequest}

/-- In memory, too, these requests change nothing that shows. -/
lemma answer_alike (known : ∀ n ∈ named r, m.issued n) (plain : Inconspicuous r) :
    ∃ reply m', answer r m = .ok (reply, m') ∧ Lookalike m m' ∧ m'.samplers = m.samplers := by
  have changed {n : NodeId} (hn : n ∈ named r) {f : MemoryNode → MemoryNode}
    (same : ∀ node, features (f node) = features node) :
      ∃ reply m', change n f m = .ok (reply, m') ∧ Lookalike m m' ∧ m'.samplers = m.samplers :=
    ⟨(), m.modify n f, change_issued (known n hn) f, alike_modify same, rfl⟩
  cases r with
  | setAttribute n | removeAttribute n | setStyle n | removeStyle n | setLinkStyle n
    | setForm n | clearSurface n
  | resizeSurface n =>
    refine changed (List.mem_singleton_self n) ?_
    exact fun _ => rfl
  | setRootProperty | removeRootProperty | loadFace | loadImage | focus
    | observeSize | unobserveSize =>
    exact ⟨(), _, rfl, alike_of_nodes rfl, rfl⟩
  | _ => exact plain.elim

/-- Such requests have nothing to reply. -/
lemma reply_eq (plain : Inconspicuous r) (a b : r.Reply) : a = b := by
  cases r <;> first | rfl | exact plain.elim

/-- What is read off the element of a node. -/
lemma Reflects.read (reflects : Reflects g m d) (hn : m.issued n) (own : 1 ≤ n.index) :
    ∃ element node,
      m.node? n = some node ∧ BrowserDocument.read n d = .ok (element, d) ∧
      element.children.length = (node.children).length ∧ element.html = node.html := by
  obtain ⟨x, hx⟩ := reflects.exists_element? hn
  obtain ⟨o, node, ho, found, portrays⟩ := reflects.shows.portraits n x hx
  obtain ⟨element, he, rfl⟩ := Option.map_eq_some_iff.1 ho
  refine ⟨element, node, found, browser_read hx he, ?_, portrays.html own⟩
  have listed := portrays.children
  rw [if_neg (by omega), List.nil_append] at listed
  refine (congrArg List.length listed).trans (List.filterMap_length_eq_length.2 fun c hc => ?_)
  rw [← children_of_node? found, reflects.linked] at hc
  exact (reflects.shows.issued c).trans (issued_of_parent? hc)

/-- The page counts the children that are on record. -/
lemma Reflects.counts (reflects : Reflects g m d) (hn : m.issued n) (own : 1 ≤ n.index) :
    BrowserDocument.answer (.childCount n) d = .ok ((m.children n).length, d) := by
  obtain ⟨element, node, found, run, counted, _⟩ := reflects.read hn own
  simp only [BrowserDocument.answer, bind, StateT.bind, run, Except.bind, counted,
    children_of_node? found]
  rfl

/-- A proper request gets the same answer from both. -/
theorem Reflects.answer (reflects : Reflects g m d) (able : d.page.lacks .createElement = false)
    (proper : Servable 1 l m r) : ∃ reply m' d', MemoryDocument.answer r m = .ok (reply, m') ∧
      BrowserDocument.answer r d = .ok (reply, d') ∧ Reflects g m' d' ∧ Aside d.page d'.page := by
  obtain ⟨known, own, upright, granted⟩ := proper
  have changed {n : NodeId} (hn : n ∈ named r) (f : BrowserDocument → BrowserDocument) :
      BrowserDocument.change n f d = .ok ((), f d) := by
    obtain ⟨x, hx⟩ := reflects.exists_element? (known n hn)
    exact browser_change hx f
  have inconspicuous (plain : Inconspicuous r) :
      ∃ reply m' d', MemoryDocument.answer r m = .ok (reply, m') ∧
        BrowserDocument.answer r d = .ok (reply, d') ∧ Reflects g m' d' ∧ Aside d.page d'.page := by
    obtain ⟨reply, m', run, alike, samplers⟩ := answer_alike known plain
    obtain ⟨reply', d', run', unnoticed⟩ := answer_inconspicuous (d := d)
      (fun n hn => (reflects.shows.issued n).trans (known n hn)) plain
    have kept : d'.samplers.size = m'.samplers.size := by
      rw [unnoticed.samplers, samplers, reflects.samplers]
    exact ⟨reply, m', d', run, reply_eq plain reply reply' ▸ run',
      reflects.level alike unnoticed.level kept,
      unnoticed.level.page.aside⟩
  cases r with
  | createElement kind =>
    obtain ⟨numbered, kept, aside⟩ := reflects.create kind
    refine ⟨(m.create kind).1, (m.create kind).2, (d.create kind).2, rfl, ?_, kept, aside⟩
    have run : BrowserDocument.answer (.createElement kind) d = .ok (d.create kind) := by
      simp only [BrowserDocument.answer, bind, StateT.bind, get, getThe, MonadStateOf.get,
        StateT.get, Except.bind, pure,
        Except.pure, able]
      rfl
    rw [run, ← numbered]
  | appendChild p c =>
    have hp := known p (by simp [named])
    have hc := known c (by simp [named])
    obtain ⟨kept, aside⟩ := reflects.append hp hc (own c (by simp [subjects])) (upright p c rfl)
    obtain ⟨y, hy⟩ := reflects.exists_element? hc
    refine ⟨(), _, d.append p c, answer_appendChild hp hc, ?_, kept, aside⟩
    simp only [BrowserDocument.answer, bind, StateT.bind, browser_require hy, Except.bind]
    exact changed (by simp [named]) _
  | detach n =>
    have hn := known n (by simp [named])
    obtain ⟨kept, aside⟩ := reflects.detach hn (own n (by simp [subjects, named]))
    refine ⟨(), m.detach n, d.detach n, ?_, changed (by simp [named]) _, kept, aside⟩
    simp only [MemoryDocument.answer, bind, StateT.bind, require_issued hn]
    rfl
  | parent n =>
    obtain ⟨node, hn⟩ := issued_iff.1 (known n (by simp [named]))
    obtain ⟨x, hx⟩ := reflects.exists_element? (known n (by simp [named]))
    have same : d.parent? n = node.parent := by
      rw [← parent?_slotTies, reflects.ties, parent?_nodeTies, parent?_of_node? hn]
    refine ⟨node.parent, m, d, ?_, ?_, reflects, Bland.refl.aside⟩
    · simp only [MemoryDocument.answer, bind, StateT.bind, read_node? hn]
      rfl
    · simp only [BrowserDocument.answer, bind, StateT.bind, browser_require hx, Except.bind]
      rw [← same]
      rfl
  | childCount n =>
    have hn := known n (by simp [named])
    exact ⟨_, m, d, answer_childCount hn, reflects.counts hn (own n (by simp [subjects, named])),
      reflects, Bland.refl.aside⟩
  | reset n =>
    have hn := known n (by simp [named])
    obtain ⟨kept, aside⟩ := reflects.reset hn (own n (by simp [subjects, named]))
    exact ⟨(), m.reset n, d.reset n, answer_reset hn, changed (by simp [named]) _, kept, aside⟩
  | setInnerHtml n html =>
    have hn := known n (by simp [named])
    obtain ⟨kept, aside⟩ :=
      reflects.replaced (f := fun e p => p.setHtml e html) hn (own n (by simp [subjects, named]))
      fun x => replaced_setHtml html
    refine ⟨(), m.setHtml n html, d.setHtml n html, ?_, changed (by simp [named]) _, kept, aside⟩
    simp only [MemoryDocument.answer, bind, StateT.bind, require_issued hn]
    rfl
  | setText n text =>
    have hn := known n (by simp [named])
    obtain ⟨kept, aside⟩ :=
      reflects.replaced (f := fun e p => p.setText e text) hn (own n (by simp [subjects, named]))
      fun x => replaced_setText text
    refine ⟨(), m.setHtml n (Text.escapeData text), d.setText n text, ?_,
      changed (by simp [named]) _, kept, aside⟩
    simp only [MemoryDocument.answer, bind, StateT.bind, require_issued hn]
    rfl
  | innerHtml n =>
    obtain ⟨element, node, found, run, _, html⟩ :=
      reflects.read (known n (by simp [named])) (own n (by simp [subjects, named]))
    refine ⟨_, m, d, answer_innerHtml found, ?_, reflects, Bland.refl.aside⟩
    simp only [BrowserDocument.answer, bind, StateT.bind, run, Except.bind, html]
    rfl
  | bindInput n id binding =>
    have level : Level d (d.bind n id binding) := level_bind id binding
    refine ⟨(), _, d.bind n id binding, change_issued (known n (by simp [named])) _,
      changed (by simp [named]) _, ?_,
      level.page.aside⟩
    refine reflects.level (alike_modify fun _ => rfl) level ?_
    rw [size_bind]
    exact reflects.samplers
  | sampleScroll n tracker interval =>
    obtain ⟨x, hx⟩ := reflects.exists_element? (known n (by simp [named]))
    have level : Level d (d.sampleScroll x tracker interval).2 :=
      level_sampleScroll tracker interval
    refine ⟨⟨m.samplers.size⟩, _, (d.sampleScroll x tracker interval).2, rfl, ?_,
      reflects.level (alike_of_nodes rfl) level ?_,
      level.page.aside⟩
    · simp only [BrowserDocument.answer, bind, StateT.bind, browser_require hx, Except.bind]
      rw [← reflects.samplers]
      rfl
    · rw [size_sampleScroll, reflects.samplers]
      exact (Array.size_push _).symm
  | cancelSampler sampler =>
    have level : Level d (d.cancelSampler sampler) := level_cancelSampler sampler
    refine ⟨(), _, d.cancelSampler sampler, rfl, rfl,
      reflects.level (alike_of_nodes rfl) level ?_, level.page.aside⟩
    rw [size_cancelSampler, reflects.samplers]
    exact Array.size_modify.symm
  | scrollDelta | surfaceMetrics => exact granted.elim
  | _ => exact inconspicuous trivial

end Answers

/-! ## The same runs -/

section Runs

variable {κ α : Type} [Core κ] {base : Nat} {l : Licence}

/-- Two runs come to the same: both to a value, in hosts that are related, or both to one breach. -/
inductive Concur (R : MemoryHost κ → BrowserDocument → Prop) :
    Except Breach (α × MemoryHost κ) → Except Breach (α × BrowserDocument) → Prop
  | value {a : α} {h : MemoryHost κ} {d : BrowserDocument} :
    R h d → Concur R (.ok (a, h)) (.ok (a, d))
  | breach {why : Breach} : Concur R (.error why) (.error why)

/-- What holds of the hosts after every proper request holds after a script of such requests. -/
theorem concur_of_behaves {R : MemoryHost κ → BrowserDocument → Prop}
    (step : ∀ (r : PatchRequest) h d, Becoming base l h.document r → R h d → ∃ reply h' d',
      MemoryHost.answerPatch r h = .ok (reply, h') ∧ BrowserDocument.answerPatch r d =
        .ok (reply, d') ∧ R h' d')
    {script : Script Patching α} {h : MemoryHost κ} {d : BrowserDocument}
    (behaves : Behaves base l script h) (start : R h d) :
    Concur R (MemoryHost.serve script h) (Script.run BrowserDocument.answerPatch script d) := by
  induction script generalizing h d with
  | done a => exact .value start
  | broken why => exact .breach
  | ask r next ih =>
    obtain ⟨reply, h', d', run, run', kept⟩ := step r h d behaves.1 start
    have first : MemoryHost.serve (.ask r next) h = MemoryHost.serve (next reply) h' := by
      change (MemoryHost.answerPatch r h).bind _ = _
      rw [run]
      rfl
    have first' : Script.run BrowserDocument.answerPatch (.ask r next) d =
        Script.run BrowserDocument.answerPatch (next reply) d' := by
      change (BrowserDocument.answerPatch r d).bind _ = _
      rw [run']
      rfl
    rw [first, first']
    exact ih reply (behaves.2 reply h' run) kept

end Runs

/-- Documents in accord, and behind them cores that have the same images and heard the same
since. -/
structure Tandem (g : Ground) (past : List CoreCall) (h : MemoryHost Recorder)
    (d : BrowserDocument) : Prop
    extends Reflects g h.document d where
  able : d.page.lacks .createElement = false
  loaded : d.page.core.loaded = h.core.loaded
  calls : coreCalls d.page = h.core.calls ++ past

section Hosts

variable {g : Ground} {past : List CoreCall} {h : MemoryHost Recorder}
  {d : BrowserDocument} {l : Licence}

/-- Both hosts tell their cores the same. -/
lemma Tandem.tell (tandem : Tandem g past h d) (call : CoreCall) :
    Tandem g past { h with core := h.core.note call } { d with page := d.page.noteCore call } where
  ties := tandem.ties
  shows := tandem.shows.alike .refl rfl fun _ => rfl
  linked := tandem.linked
  mounted := tandem.mounted
  samplers := tandem.samplers
  able := tandem.able
  loaded := tandem.loaded
  calls := congrArg (call :: ·) tandem.calls

/-- The documents may change in accord. -/
lemma Tandem.aside {m' : MemoryDocument} {d' : BrowserDocument} (tandem : Tandem g past h d)
    (reflects : Reflects g m' d')
    (aside : Aside d.page d'.page) : Tandem g past { h with document := m' } d' where
  toReflects := reflects
  able := by
    unfold Page.lacks
    rw [aside.lacking]
    exact tandem.able
  loaded := by
    rw [aside.core]
    exact tandem.loaded
  calls := by
    rw [aside.calls]
    exact tandem.calls

theorem Tandem.answer (tandem : Tandem g past h d) {r : PatchRequest}
    (becoming : Becoming 1 l h.document r) :
    ∃ reply h' d', MemoryHost.answerPatch r h = .ok (reply, h') ∧
      BrowserDocument.answerPatch r d = .ok (reply, d') ∧
      Tandem g past h' d' := by
  cases r with
  | document r =>
    obtain ⟨reply, m', d', run, run', kept, aside⟩ := tandem.toReflects.answer tandem.able becoming
    refine ⟨reply, { h with document := m' }, d', ?_, run', tandem.aside kept aside⟩
    change (MemoryDocument.answer r h.document).bind _ = _
    rw [run]
    rfl
  | addContext layer => exact ⟨(), _, _, rfl, rfl, tandem.tell (.addContext layer)⟩
  | removeContext layer => exact ⟨(), _, _, rfl, rfl, tandem.tell (.removeContext layer)⟩
  | imageLoaded path =>
    refine ⟨h.core.loaded.contains path, _, _, rfl, ?_, tandem.tell (.imageLoaded path)⟩
    rw [← tandem.loaded]
    rfl

/-- A proper script comes to the same on both hosts. -/
theorem Tandem.serve {α : Type} {script : Script Patching α} (tandem : Tandem g past h d)
    (behaves : Behaves 1 l script h) :
    Concur (Tandem g past) (MemoryHost.serve script h)
    (Script.run BrowserDocument.answerPatch script d) :=
  concur_of_behaves (fun _ _ _ becoming tandem => tandem.answer becoming) behaves tandem

end Hosts

end LayeredPage.Proofs
