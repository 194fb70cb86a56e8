import LayeredPage.Proofs.Upkeep

/-!
# What else happens on a page

While a scene is on a page the page goes on: events arrive, timers fire, files and fonts come in,
the core is called. None of it touches the nodes of the scene, or its listeners and timers, so the
scene stays in concert. A ledger of the page tells what was taken back since a day; nothing is taken
back twice.
-/

namespace LayeredPage.Proofs

/-! ## Ledgers -/

/-- All that was made on a page and taken back since it was like `before`. Whatever is there or was
taken back has a number of its own. -/
structure Ledger (before p : Page) (made removed : List Registration) (started halted : List Nat) :
    Prop where
  listeners : (enlisted before ++ made).Perm (enlisted p ++ removed)
  serials : ((enlisted p ++ removed).map (·.serial)).Nodup
  numbered : ∀ r ∈ enlisted p ++ removed, r.serial < p.registrations
  registrations : p.registrations = before.registrations + made.length
  unlistened : (wires p).unlistened = removed ++ (wires before).unlistened
  intervals : (ticking before ++ started).Perm (ticking p ++ halted)
  ids : (ticking p ++ halted).Nodup
  counted : ∀ id ∈ ticking p ++ halted, id ≤ p.timers
  cleared : (wires p).cleared = halted ++ (wires before).cleared

section Ledgers

variable {before p p' : Page} {made removed made' taken : List Registration}
  {started halted started' stopped : List Nat}

lemma InSeries.ledger (orderly : InSeries p) : Ledger p p [] [] [] [] where
  listeners := .refl _
  serials := by
    rw [List.append_nil]
    exact orderly.serials
  numbered r hr := orderly.numbered r (List.append_nil (enlisted p) ▸ hr)
  registrations := rfl
  unlistened := rfl
  intervals := .refl _
  ids := by
    rw [List.append_nil]
    exact orderly.ids
  counted id hid := orderly.counted id (List.append_nil (ticking p) ▸ hid)
  cleared := rfl

/-- Things numbered in turn, after all those that are there. -/
lemma nodup_append_range' {xs : List Nat} {n : Nat} (ys : List Nat) (distinct : xs.Nodup)
    (below : ∀ x ∈ xs, x < n)
    (turn : ys = List.range' n ys.length) : (xs ++ ys).Nodup ∧ ∀ x ∈ xs ++ ys,
    x < n + ys.length := by
  rw [turn, List.length_range']
  refine ⟨List.nodup_append.2 ⟨distinct, List.nodup_range' .., ?_⟩, fun x hx => ?_⟩
  · rintro a ha b hb rfl
    have := below a ha
    have := (List.mem_range'_1.1 hb).1
    omega
  · rcases List.mem_append.1 hx with old | new
    · exact (below x old).trans_le (Nat.le_add_right _ _)
    · exact (List.mem_range'_1.1 new).2

lemma perm_ledger {α : Type} {a a' m t r : List α} (balance : (a ++ m).Perm (a' ++ t)) :
    (a ++ r ++ m).Perm (a' ++ (t ++ r)) := by
  rw [List.append_assoc]
  refine (List.perm_append_comm.append_left a).trans ?_
  rw [← List.append_assoc, ← List.append_assoc]
  exact balance.append_right r

/-- What is made and taken back goes on the ledger. -/
lemma Ledger.turnover (ledger : Ledger before p made removed started halted)
    (turnover : Turnover p p' made' taken started' stopped) :
    Ledger before p' (made ++ made') (taken ++ removed) (started ++ started')
    (stopped ++ halted) := by
  have listeners := perm_ledger (r := removed) turnover.listeners
  have timers := perm_ledger (r := halted) turnover.intervals
  obtain ⟨serials, numbered⟩ := nodup_append_range' (made'.map (·.serial)) ledger.serials
    (fun n hn => by obtain ⟨r, hr, rfl⟩ := List.mem_map.1 hn; exact ledger.numbered r hr)
    (by rw [List.length_map]; exact turnover.serials)
  obtain ⟨ids, counted⟩ := nodup_append_range' (n := p.timers + 1) started' ledger.ids
    (fun n hn => Nat.lt_succ_of_le (ledger.counted n hn)) turnover.ids
  rw [← List.map_append] at serials numbered
  refine ⟨perm_balance ledger.listeners turnover.listeners, (listeners.map _).nodup_iff.1 serials,
    fun r hr => ?_, ?_, ?_,
    perm_balance ledger.intervals turnover.intervals, timers.nodup_iff.1 ids, fun id hid => ?_, ?_⟩
  · rw [turnover.registrations, ← List.length_map (f := (·.serial))]
    exact numbered _ (List.mem_map_of_mem (listeners.mem_iff.2 hr))
  · rw [turnover.registrations, ledger.registrations, List.length_append, Nat.add_assoc]
  · rw [turnover.unlistened, ledger.unlistened, List.append_assoc]
  · rw [turnover.timers]
    have below := counted id (timers.mem_iff.2 hid)
    omega
  · rw [turnover.cleared, ledger.cleared, List.append_assoc]

end Ledgers

/-! ## Elsewhere on the page -/

/-- What a document needs of a page. -/
def necessities : List Facility := [.createElement, .addEventListener, .window, .setInterval]

/-- Nothing that a document needs is missing. -/
def Serviceable (p : Page) : Prop := ∀ f ∈ necessities, p.lacks f = false

/-- What happened on a page did not happen to these elements, or to any listener or timer. -/
structure Elsewhere (own : ElementId → Prop) (p p' : Page) : Prop where
  grown : p.elements.size ≤ p'.elements.size
  outlines : ∀ x, own x → x.index < p.elements.size → outline? p' x = outline? p x
  parents : ∀ x y, x.index < p.elements.size → p'.parent? x = some y → p.parent? x = some y
  serviceable : Serviceable p → Serviceable p'
  listeners : p'.listeners = p.listeners
  registrations : p'.registrations = p.registrations
  unlistened : (wires p').unlistened = (wires p).unlistened
  intervals : p'.intervals = p.intervals
  timers : p.timers ≤ p'.timers
  cleared : (wires p').cleared = (wires p).cleared

/-- The elements of the nodes of a document. -/
def Displayed (d : BrowserDocument) (x : ElementId) : Prop := ∃ n, d.element? n = some x

/-- A document did nothing to its nodes, and made and took back no listeners or timers. -/
structure Rests (d d' : BrowserDocument) : Prop where
  ties : slotTies d' = slotTies d
  faces : faces d' = faces d
  gauges : gauges d' = gauges d
  page : Elsewhere (Displayed d) d.page d'.page

section Elsewhere

variable {own : ElementId → Prop} {p p' p'' : Page}

lemma Elsewhere.refl : Elsewhere own p p :=
  ⟨le_rfl, fun _ _ _ => rfl, fun _ _ _ => id, id, rfl, rfl, rfl, rfl, le_rfl, rfl⟩

lemma Elsewhere.trans (one : Elsewhere own p p') (two : Elsewhere own p' p'') :
    Elsewhere own p p'' where
  grown := one.grown.trans two.grown
  outlines x hx inside :=
    (two.outlines x hx (inside.trans_le one.grown)).trans (one.outlines x hx inside)
  parents x y inside parent :=
    one.parents x y inside (two.parents x y (inside.trans_le one.grown) parent)
  serviceable there := two.serviceable (one.serviceable there)
  listeners := two.listeners.trans one.listeners
  registrations := two.registrations.trans one.registrations
  unlistened := two.unlistened.trans one.unlistened
  intervals := two.intervals.trans one.intervals
  timers := one.timers.trans two.timers
  cleared := two.cleared.trans one.cleared

lemma serviceable_of_lacking (lacking : p'.lacking = p.lacking) (there : Serviceable p) :
    Serviceable p' := by
  intro f hf
  have has := there f hf
  unfold Page.lacks at has ⊢
  rwa [lacking]

/-- Whatever becomes of the core, of tasks and of the layout, happens elsewhere. -/
lemma elsewhere_of_elements (elements : p'.elements = p.elements) (lacking : p'.lacking = p.lacking)
    (same : wires p' = wires p) :
    Elsewhere own p p' where
  grown := by rw [elements]
  outlines x _ _ := by unfold outline? Page.element?; rw [elements]
  parents x y _ parent := by
    unfold Page.parent? Page.element? at parent ⊢
    rwa [elements] at parent
  serviceable := serviceable_of_lacking lacking
  listeners := congrArg Wires.listeners same
  registrations := congrArg Wires.registrations same
  unlistened := congrArg Wires.unlistened same
  intervals := congrArg Wires.intervals same
  timers := (congrArg Wires.timers same).ge
  cleared := congrArg Wires.cleared same

lemma Neutral.elsewhere (neutral : Neutral p p') : Elsewhere own p p' where
  grown := neutral.size.ge
  outlines x _ _ := neutral.outlines x
  parents x y _ parent := by
    rw [pageParent?_eq, neutral.outlines, ← pageParent?_eq] at parent
    exact parent
  serviceable := serviceable_of_lacking neutral.lacking
  listeners := congrArg Wires.listeners neutral.wires
  registrations := congrArg Wires.registrations neutral.wires
  unlistened := congrArg Wires.unlistened neutral.wires
  intervals := congrArg Wires.intervals neutral.wires
  timers := (congrArg Wires.timers neutral.wires).ge
  cleared := congrArg Wires.cleared neutral.wires

lemma elsewhere_foldl {α : Type} {f : Page → α → Page} (xs : List α)
    (each : ∀ p x, Elsewhere own p (f p x)) (p : Page) :
    Elsewhere own p (xs.foldl f p) := by
  induction xs generalizing p with
  | nil => exact .refl
  | cons x xs ih => exact (each p x).trans (ih (f p x))

/-! ### Tasks -/

lemma elsewhere_noteCore (call : CoreCall) : Elsewhere own p (p.noteCore call) :=
  elsewhere_of_elements rfl rfl rfl

lemma elsewhere_fetch (url : String) : Elsewhere own p (p.fetch url).2 := by
  unfold Page.fetch
  split
  · exact .refl
  · dsimp only
    split <;> exact elsewhere_of_elements rfl rfl rfl

lemma elsewhere_fetchPicture (url : String) : Elsewhere own p (p.fetchPicture url).2 := by
  have fetched : Elsewhere own p (p.fetch url).2 := elsewhere_fetch url
  unfold Page.fetchPicture
  rcases same : p.fetch url with ⟨_ | ⟨text, _ | picture⟩, q⟩ <;> rw [same] at fetched
  · exact fetched
  · exact fetched
  · refine fetched.trans ?_
    dsimp only
    unfold Page.decode
    dsimp only
    split <;> exact elsewhere_of_elements rfl rfl rfl

lemma elsewhere_attemptImage (request : ImageRequest) (attempts delay : Nat) :
    Elsewhere own p (p.attemptImage request attempts delay) := by
  unfold Page.attemptImage
  cases attempts with
  | zero => exact .refl
  | succ left =>
    have tried : Elsewhere own p (p.fetchPicture request.path).2 :=
      elsewhere_fetchPicture request.path
    dsimp only
    rcases same : p.fetchPicture request.path with ⟨_ | picture, q⟩ <;> rw [same] at tried
    · dsimp only
      split
      · exact tried
      · refine tried.trans ?_
        unfold Page.sleep
        split
        · exact .refl
        · exact ⟨le_rfl, fun _ _ _ => rfl, fun _ _ _ => id, id, rfl, rfl, rfl,
            rfl, Nat.le_succ _, rfl⟩
    · exact tried.trans (elsewhere_noteCore _)

/-- A change of elements that leaves alone those at stake, and moves none that was there. -/
lemma elsewhere_of_outlines {elements : Array PageElement} (grown : p.elements.size ≤ elements.size)
    (outlines : ∀ x, own x → x.index < p.elements.size →
      outline? { p with elements } x = outline? p x)
    (parents : ∀ x, x.index < p.elements.size → Page.parent? { p with elements } x = p.parent? x) :
    Elsewhere own p { p with elements } :=
  ⟨grown, outlines, fun x _ inside parent => (parents x inside).symm.trans parent, id, rfl, rfl,
    rfl, rfl, le_rfl, rfl⟩

/-- A new element with text in it. -/
lemma exists_written (tag text : String) : ∃ elements,
    (p.create tag).2.setText (p.create tag).1 text = { p with elements } ∧
    p.elements.size ≤ elements.size ∧
      (∀ x, x.index < p.elements.size → outline? { p with elements } x = outline? p x) ∧
      Page.parent? { p with elements } (p.create tag).1 = none := by
  have blank : outline? (p.create tag).2 (p.create tag).1 = some (outline (.fresh tag)) := by
    rw [outline?_create, if_pos rfl]
  have empty :
      (p.create tag).2.children (p.create tag).1 ++ (p.create tag).2.links
        (p.create tag).1 = [] := by
    rw [pageChildren_eq, links_eq, blank]
    rfl
  have size : (p.create tag).2.elements.size = p.elements.size + 1 := Array.size_push ..
  have replaced := replaced_setText (p := (p.create tag).2) (e := (p.create tag).1) text
  obtain ⟨elements, written⟩ := replaced.beside
  rw [written] at replaced
  refine ⟨elements, written, ?_, fun x inside => ?_, ?_⟩
  · exact (Nat.le_succ _).trans (size.symm.le.trans replaced.grown)
  · have other : x ≠ (p.create tag).1 := fun same => by
      rw [same] at inside
      exact lt_irrefl _ inside
    obtain ⟨new, _, shown⟩ := replaced.outlines x (size ▸ inside.trans (Nat.lt_succ_self _))
    simp only [empty, List.not_mem_nil, if_false, if_neg other, outline?_create] at shown
    exact shown.trans Option.map_id'
  · obtain ⟨new, _, shown⟩ := replaced.outlines (p.create tag).1 (size ▸ Nat.lt_succ_self _)
    rw [blank, empty, Option.map_some] at shown
    have parent := pageParent?_eq (p := { p with elements }) (x := (p.create tag).1)
    exact parent.trans (congrArg (Option.bind · Outline.parent) shown)

/-- A new element in the head of the page changes no other element but the head. -/
lemma elsewhere_hang (apart : ∀ x, own x → x ≠ Page.head) (tag text : String) :
    Elsewhere own p
      ((((p.create tag).2.setText (p.create tag).1 text).append? Page.head (p.create tag).1).getD
        ((p.create tag).2.setText (p.create tag).1 text)) := by
  obtain ⟨elements, written, grown, outlines, loose⟩ := exists_written (p := p) tag text
  have first : Elsewhere own p { p with elements } :=
    elsewhere_of_outlines grown (fun x _ => outlines x) fun x inside => by
      rw [pageParent?_eq, outlines x inside, ← pageParent?_eq]
  rw [written]
  cases within : Page.isWithin { p with elements } Page.head (p.create tag).1 with
  | true =>
    unfold Page.append?
    rw [within]
    exact first
  | false =>
    obtain ⟨elements', hung, size, shown⟩ := exists_append? within loose
    rw [hung, Option.getD_some]
    have other {x : ElementId} (inside : x.index < p.elements.size) :
        x ≠ (p.create tag).1 := fun same => by
      rw [same] at inside
      exact lt_irrefl _ inside
    refine elsewhere_of_outlines (grown.trans size.ge) (fun x hx inside => ?_) fun x inside => ?_
    · refine (shown x).trans ?_
      simp only [if_neg (other inside), if_neg (apart x hx)]
      exact Option.map_id'.trans (outlines x inside)
    · rw [pageParent?_eq, pageParent?_eq, ← outlines x inside]
      refine (congrArg (Option.bind · Outline.parent) (shown x)).trans ?_
      rw [Option.bind_map]
      simp only [if_neg (other inside)]
      rfl

lemma elsewhere_addStylesheet (apart : ∀ x, own x → x ≠ Page.head) (url : String) :
    Elsewhere own p (p.addStylesheet url) := by
  have fetched : Elsewhere own p (p.fetch url).2 := elsewhere_fetch url
  unfold Page.addStylesheet
  rcases same : p.fetch url with ⟨_ | body, q⟩ <;> rw [same] at fetched
  · exact fetched
  · refine fetched.trans ?_
    dsimp only
    split
    · exact .refl
    · split
      · obtain ⟨elements, written, grown, outlines, _⟩ := exists_written (p := q) "style" body.text
        rw [written]
        exact elsewhere_of_outlines grown (fun x _ => outlines x) fun x inside => by
          rw [pageParent?_eq, outlines x inside, ← pageParent?_eq]
      · exact elsewhere_hang apart "style" body.text

/-- Loading and reading happen elsewhere, unless the elements are in the head of the page, where
stylesheets go. -/
theorem elsewhere_run (apart : ∀ x, own x → x ≠ Page.head) (task : Task) :
    Elsewhere own p (p.run task) := by
  cases task with
  | image request attempts delay => exact elsewhere_attemptImage request attempts delay
  | stylesheet url => exact elsewhere_addStylesheet apart url
  | face family =>
    change Elsewhere own p (p.addFace family)
    unfold Page.addFace
    split
    · exact .refl
    · exact elsewhere_of_elements rfl rfl rfl
  | dropped position file =>
    change Elsewhere own p (p.sendFile position file)
    unfold Page.sendFile
    split
    · exact .refl
    · exact elsewhere_noteCore _

theorem elsewhere_settle (apart : ∀ x, own x → x ≠ Page.head) : Elsewhere own p p.settle :=
  (elsewhere_of_elements rfl rfl rfl : Elsewhere own p { p with ready := [] }).trans
    (elsewhere_foldl _ (fun _ task => elsewhere_run apart task) _)

theorem elsewhere_wake : Elsewhere own p p.wake := elsewhere_of_elements rfl rfl rfl

end Elsewhere

/-- A scene in concert with its page, and the ledger of the page since it was like `before`. -/
structure Lodged (g : Ground) (before : Page) (outside : List Registration)
    (alien : List Nat) (s : Scene) (d : BrowserDocument) : Prop where
  ensemble : ∃ past h, Ensemble g past outside alien s h d
  ledger : ∃ made removed started halted, Ledger before d.page made removed started halted

section Resting

variable {g : Ground} {past : List CoreCall} {before : Page} {outside : List Registration}
  {alien : List Nat} {s s' : Scene} {h : MemoryHost Recorder} {d d' d'' : BrowserDocument}

lemma rests_of_page {p : Page} (elsewhere : Elsewhere (Displayed d) d.page p) :
    Rests d { d with page := p } := ⟨rfl, rfl, rfl, elsewhere⟩

lemma Rests.element? (rests : Rests d d') (n : NodeId) : d'.element? n = d.element? n :=
  element?_of_faces rests.faces

lemma Rests.trans (one : Rests d d') (two : Rests d' d'') : Rests d d'' := by
  have shown : Displayed d' = Displayed d := by
    unfold Displayed
    simp only [one.element?]
  exact ⟨two.ties.trans one.ties, two.faces.trans one.faces, two.gauges.trans one.gauges,
    one.page.trans (shown ▸ two.page)⟩

/-- Elements may be added elsewhere, and taken out. -/
lemma Shows.elsewhere {m : MemoryDocument} {E : NodeId → Option ElementId} {p p' : Page}
    (shows : Shows g E m p)
    (elsewhere : Elsewhere (fun x => ∃ n, E n = some x) p p') : Shows g E m p' where
  issued := shows.issued
  placed n x hx := (shows.placed n x hx).trans_le elsewhere.grown
  distinct := shows.distinct
  mount := shows.mount
  made := shows.made
  portraits n x hx := by
    obtain ⟨o, node, ho, hn, portrays⟩ := shows.portraits n x hx
    exact ⟨o, node, (elsewhere.outlines x ⟨n, hx⟩ (shows.placed n x hx)).trans ho, hn,
      { portrays with
        links := fun own y hy =>
          ⟨(portrays.links own y hy).1.trans_le elsewhere.grown, (portrays.links own y hy).2⟩ }⟩
  outer x y old parent :=
    shows.outer x y old (elsewhere.parents x y (old.trans_le shows.inside) parent)
  front := shows.front
  inside := shows.inside.trans elsewhere.grown

lemma Tallied.rests (tallied : Tallied outside alien d) (serviceable : Serviceable d'.page)
    (rests : Rests d d') :
    Tallied outside alien d' := by
  have enlisted' : enlisted d'.page = enlisted d.page := by
    unfold enlisted; rw [rests.page.listeners]
  have ticking' : ticking d'.page = ticking d.page := by unfold ticking; rw [rests.page.intervals]
  refine ⟨⟨serviceable _ (by decide), ⟨serviceable _ (by decide), serviceable _ (by decide)⟩, ?_,
    ?_, ?_, ?_⟩, ?_, ?_⟩
  · rw [enlisted']
    exact tallied.orderly.serials
  · rw [enlisted', rests.page.registrations]
    exact tallied.orderly.numbered
  · rw [ticking']
    exact tallied.orderly.ids
  · rw [ticking']
    exact fun id hid => (tallied.orderly.counted id hid).trans rests.page.timers
  · unfold holdings
    rw [enlisted', rests.faces, rests.gauges]
    exact tallied.listeners
  · unfold clocks
    rw [ticking', rests.gauges]
    exact tallied.timers

lemma Ensemble.serviceable (ensemble : Ensemble g past outside alien s h d) :
    Serviceable d.page := by
  intro f hf
  simp only [necessities, List.mem_cons, List.not_mem_nil, or_false] at hf
  rcases hf with rfl | rfl | rfl | rfl
  · exact ensemble.able
  · exact ensemble.tallied.orderly.listens
  · exact ensemble.tallied.orderly.ticks.1
  · exact ensemble.tallied.orderly.ticks.2

/-- A scene stays in concert whatever happens elsewhere. What its core has and has heard since is
told anew. -/
lemma Ensemble.rests (ensemble : Ensemble g past outside alien s h d) (rests : Rests d d') :
    ∃ past h', Ensemble g past outside alien s h' d' := by
  have serviceable := rests.page.serviceable ensemble.serviceable
  have samplers : d'.samplers.size = d.samplers.size := by
    have same := congrArg Array.size rests.gauges
    unfold gauges at same
    rwa [Array.size_map, Array.size_map] at same
  have shows : Shows g d'.element? h.document d'.page := by
    rw [funext rests.element?]
    exact ensemble.shows.elsewhere rests.page
  refine ⟨coreCalls d'.page,
    { h with core := { Recorder.start with loaded := d'.page.core.loaded } }, ?_⟩
  exact {
    ties := rests.ties.trans ensemble.ties
    shows
    linked := ensemble.linked
    mounted := ensemble.mounted
    samplers := samplers.trans ensemble.samplers
    able := serviceable _ (by decide)
    loaded := rfl
    calls := rfl
    tallied := ensemble.tallied.rests serviceable rests
    wired := ensemble.wired.of_subset rests.faces rests.gauges (fun _ => rests.page.listeners ▸ id)
      fun _ => rests.page.intervals ▸ id
    sound := ensemble.sound
    attuned := ⟨ensemble.attuned.tuned, ensemble.attuned.furnished⟩
    equipped := ensemble.equipped }

lemma Ledger.elsewhere {own : ElementId → Prop} {p p' : Page} {made removed : List Registration}
    {started halted : List Nat}
    (ledger : Ledger before p made removed started halted) (elsewhere : Elsewhere own p p') :
    Ledger before p' made removed started halted := by
  have enlisted' : enlisted p' = enlisted p := by unfold enlisted; rw [elsewhere.listeners]
  have ticking' : ticking p' = ticking p := by unfold ticking; rw [elsewhere.intervals]
  refine { ledger with
    listeners := ?_, serials := ?_, numbered := ?_, intervals := ?_, ids := ?_, counted := ?_
    registrations := elsewhere.registrations.trans ledger.registrations
    unlistened := elsewhere.unlistened.trans ledger.unlistened
    cleared := elsewhere.cleared.trans ledger.cleared }
  · rw [enlisted']
    exact ledger.listeners
  · rw [enlisted']
    exact ledger.serials
  · rw [enlisted', elsewhere.registrations]
    exact ledger.numbered
  · rw [ticking']
    exact ledger.intervals
  · rw [ticking']
    exact ledger.ids
  · rw [ticking']
    exact fun id hid => (ledger.counted id hid).trans elsewhere.timers

lemma Lodged.rests (lodged : Lodged g before outside alien s d) (rests : Rests d d') :
    Lodged g before outside alien s d' := by
  obtain ⟨⟨past, h, ensemble⟩, _, _, _, _, ledger⟩ := lodged
  exact ⟨ensemble.rests rests, _, _, _, _, ledger.elsewhere rests.page⟩

/-- After every patch the scene is in concert again. -/
lemma Lodged.apply {p : Patch} {result : Except PatchError Unit}
    (lodged : Lodged g before outside alien s d)
    (run : Script.run BrowserDocument.answerPatch (Scene.apply p s) d = .ok ((result, s'), d')) :
    Lodged g before outside alien s' d' := by
  obtain ⟨⟨past, h, ensemble⟩, _, _, _, _, ledger⟩ := lodged
  obtain ⟨⟨h', ensemble'⟩, made, taken, started, stopped, turnover, _⟩ := ensemble.apply run
  exact ⟨⟨past, h', ensemble'⟩, _, _, _, _, ledger.turnover turnover⟩

end Resting

end LayeredPage.Proofs
