import LayeredPage.Proofs.Wiring

/-!
# What a request does to the wires

Only four requests have to do with listeners and timers: input is bound, a sampler is started or
cancelled, and a node is reset. Each of them is entered in the books, and none touches what others
hold.
-/

namespace LayeredPage.Proofs

/-! ## Nothing to do with the wires -/

section Unwired

variable {d d' : BrowserDocument} {n p c : NodeId} {x y : ElementId}

lemma unwired_of_page {page : Page} (same : wires page = wires d.page)
    (lacking : page.lacking = d.page.lacking) :
    Unwired d { d with page } := ⟨rfl, rfl, same, lacking⟩

lemma Unnoticed.unwired (unnoticed : Unnoticed d d') : Unwired d d' := by
  obtain ⟨page, rfl, neutral⟩ := unnoticed
  exact unwired_of_page neutral.wires neutral.lacking

/-- The tree moves, and the page changes in its elements only. -/
lemma Moved.unwired {page : Page} {ties : Ties} (moved : Moved d d' page ties)
    (beside : ∃ elements, page = { d.page with elements }) :
    Unwired d d' := by
  obtain ⟨elements, rfl⟩ := beside
  refine ⟨moved.faces, ?_, ?_, ?_⟩
  · unfold gauges
    rw [moved.samplers]
  · rw [moved.page]
    rfl
  · rw [moved.page]

lemma unwired_detach (hx : d.element? n = some x) : Unwired d (d.detach n) := by
  obtain ⟨elements, eq, _⟩ := exists_remove (p := d.page) (e := x)
  exact (moved_detach hx).unwired ⟨elements, eq⟩

lemma append?_beside {q q' : Page} (hung : q.append? x y = some q') :
    ∃ elements, q' = { q with elements } := by
  obtain ⟨elements, eq, _⟩ := exists_remove (p := q) (e := y)
  unfold Page.append? at hung
  split at hung
  · cases hung
  · rw [eq] at hung
    exact ⟨_, (Option.some.inj hung).symm⟩

lemma unwired_append (hp : d.element? p = some x) (hc : d.element? c = some y) :
    Unwired d (d.append p c) := by
  obtain ⟨elements, removed, _⟩ := exists_remove (p := d.page) (e := y)
  have loose := moved_detach hc
  cases hung : (d.page.remove y).append? x y with
  | some page =>
    obtain ⟨elements', rfl⟩ := append?_beside hung
    refine (moved_append hp hc hung).unwired ⟨elements', ?_⟩
    rw [removed]
  | none =>
    have refused : d.append p c = d.detach c := by
      unfold BrowserDocument.append
      dsimp only
      rw [(element?_of_faces loose.faces).trans hp, (element?_of_faces loose.faces).trans hc]
      dsimp only
      rw [loose.page, hung]
    rw [refused]
    exact unwired_detach hc

lemma unwired_setHtml (hx : d.element? n = some x) (html : String) : Unwired d (d.setHtml n html) :=
  (moved_content (f := fun e p => p.setHtml e html) hx).unwired (replaced_setHtml html).beside

lemma unwired_setText (hx : d.element? n = some x) (text : String) : Unwired d (d.setText n text) :=
  (moved_content (f := fun e p => p.setText e text) hx).unwired (replaced_setText text).beside

lemma Unwired.element? (unwired : Unwired d d') : d'.element? n = d.element? n :=
  element?_of_faces unwired.faces

lemma unwired_hollowed (hx : d.element? n = some x) : Unwired d (hollowed d n) := by
  have loose := unwired_detach hx
  have before := loose.trans (unnoticed_before_content (d := d) (n := n)).unwired
  exact before.trans (unwired_setHtml (before.element?.trans hx) "")

lemma faces_create (kind : NodeKind) :
    faces (d.create kind).2 = (faces d).push ((d.page.create kind.tagName).1, []) :=
  Array.map_push

end Unwired

/-! ## Requests -/

/-- Requests that have nothing to do with nodes being new, or with listeners and timers. -/
def Wireless : DocumentRequest → Prop
  | .createElement _ | .bindInput .. | .reset _ | .sampleScroll .. | .cancelSampler _ => False
  | _ => True

/-- What answering a request does to the wires. -/
inductive Rewires (d : BrowserDocument) : DocumentRequest → BrowserDocument → Prop
  | nothing {r : DocumentRequest} {d' : BrowserDocument} :
    Wireless r → Unwired d d' → Rewires d r d'
  | created (kind : NodeKind) : Rewires d (.createElement kind) (d.create kind).2
  | bound {n : NodeId} {slot : Slot} {id : UInt32} {binding : InputBinding} :
    d.slot? n = some slot →
    Rewires d (.bindInput n id binding) (d.bind n id binding)
  | reset {n : NodeId} {slot : Slot} {d₁ d' : BrowserDocument} :
    d₁.slot? n = some slot → Unwired d d₁ →
    Unwired (d₁.silence n) d' → Rewires d (.reset n) d'
  | sampled {n : NodeId} {x : ElementId} {tracker : ScrollTracker Float} {interval : UInt32} :
    d.element? n = some x →
    Rewires d (.sampleScroll n tracker interval) (d.sampleScroll x tracker interval).2
  | cancelled (sampler : SamplerId) : Rewires d (.cancelSampler sampler) (d.cancelSampler sampler)

/-- Whether a request makes listeners or timers. -/
def connects : DocumentRequest → Bool
  | .bindInput .. | .sampleScroll .. => true
  | _ => false

/-- Whether a request takes listeners or timers back. -/
def disconnects : DocumentRequest → Bool
  | .reset _ | .cancelSampler _ => true
  | _ => false

section Requests

variable {d d' : BrowserDocument} {r : DocumentRequest}
  {outside : List Registration} {alien : List Nat}

lemma exists_slot {n : NodeId} {x : ElementId} (hx : d.element? n = some x) :
    ∃ slot, d.slot? n = some slot ∧ slot.element = x := by
  obtain ⟨slot, hs, rfl⟩ := Option.map_eq_some_iff.1 hx
  exact ⟨slot, hs, rfl⟩

/-- The tracker of a sampler is no part of what it has on the page. -/
lemma unwired_modifyTracker (sampler : SamplerId) (f : ScrollTracker Float → ScrollTracker Float) :
    Unwired d (d.modifyTracker sampler f) := by
  refine ⟨rfl, ?_, rfl, rfl⟩
  exact map_modify_of_hidden (f := fun s : BrowserSampler => { s with tracker := f s.tracker })
    fun _ => rfl

/-- Whatever is asked, one of six things happens to the wires. -/
theorem answer_rewires {reply : r.Reply} (run : BrowserDocument.answer r d = .ok (reply, d')) :
    Rewires d r d' := by
  have changed {n : NodeId} {f : BrowserDocument → BrowserDocument} {reply : Unit}
    (wireless : Wireless r) (run : BrowserDocument.change n f d = .ok (reply, d'))
    (unwired : ∀ x, d.element? n = some x → Unwired d (f d)) :
      Rewires d r d' := by
    obtain ⟨x, hx, rfl⟩ := browser_change_inv run
    exact .nothing wireless (unwired x hx)
  have unnoticed (wireless : Wireless r) (plain : Inconspicuous r) : Rewires d r d' :=
    .nothing wireless (unnoticed_of_answer plain run).unwired
  have read {α : Type} {n : NodeId} {f : PageElement → α} {reply : α} (wireless : Wireless r)
      (run : (do return f (← BrowserDocument.read n) : BrowserDocument.Checked α) d =
        .ok (reply, d')) : Rewires d r d' := by
    exact browser_read_map_inv run ▸ .nothing wireless .refl
  cases r with
  | createElement kind =>
    exact browser_create_inv run ▸ .created kind
  | appendChild p c =>
    obtain ⟨y, hc, run⟩ := browser_require_bind_inv run
    exact changed trivial run fun x hp => unwired_append hp hc
  | detach n => exact changed trivial run fun x hx => unwired_detach hx
  | parent n =>
    obtain ⟨x, hx, run⟩ := browser_require_bind_inv run
    cases run
    exact .nothing trivial .refl
  | childCount n | innerHtml n | surfaceMetrics n => exact read trivial run
  | reset n =>
    have run : BrowserDocument.change n (fun d => d.reset n) d = .ok (reply, d') := run
    obtain ⟨x, hx, same⟩ := browser_change_inv run
    have hollow := unwired_hollowed hx
    obtain ⟨slot, hs, _⟩ := exists_slot (hollow.element?.trans hx)
    rw [same, browser_reset_eq]
    exact .reset hs hollow unnoticed_polished.unwired
  | setInnerHtml n html => exact changed trivial run fun x hx => unwired_setHtml hx html
  | setText n text => exact changed trivial run fun x hx => unwired_setText hx text
  | bindInput n id binding =>
    obtain ⟨x, hx, rfl⟩ := browser_change_inv run
    obtain ⟨slot, hs, _⟩ := exists_slot hx
    exact .bound hs
  | sampleScroll n tracker interval =>
    obtain ⟨x, hx, run⟩ := browser_require_bind_inv run
    obtain rfl : _ = d' := congrArg Prod.snd (Except.ok.inj run)
    exact .sampled hx
  | cancelSampler sampler =>
    obtain rfl : _ = d' := congrArg Prod.snd (Except.ok.inj run)
    exact .cancelled sampler
  | scrollDelta sampler now =>
    obtain rfl : _ = d' := congrArg Prod.snd (Except.ok.inj run)
    refine .nothing trivial ?_
    dsimp only
    split
    · exact unwired_modifyTracker sampler fun _ => _
    · exact .refl
  | _ => exact unnoticed trivial trivial

/-- What was unwired before and after some change does not count for the books of the change. -/
lemma Transaction.within {d₁ d₂ : BrowserDocument} {made taken : List Registration}
    {started stopped : List Nat}
    (before : Unwired d d₁) (transaction : Transaction d₁ d₂ made taken started stopped)
    (after : Unwired d₂ d') :
    Transaction d d' made taken started stopped := by
  have all := (before.transaction.trans transaction).trans after.transaction
  simpa only [List.nil_append, List.append_nil] using all

/-- Each request is entered in the books; only those that connect make something, and only those
that disconnect take something back. -/
theorem Rewires.transaction (rewires : Rewires d r d') (tallied : Tallied outside alien d) :
    ∃ made taken started stopped, Transaction d d' made taken started stopped ∧
      (connects r = false → made = [] ∧ started = []) ∧
      (disconnects r = false → taken = [] ∧ stopped = []) := by
  cases rewires with
  | nothing _ unwired =>
    exact ⟨[], [], [], [], unwired.transaction, fun _ => ⟨rfl, rfl⟩, fun _ => ⟨rfl, rfl⟩⟩
  | created kind =>
    refine ⟨[], [], [], [], ⟨.of_wires rfl, ?_, .refl _, rfl⟩, fun _ => ⟨rfl, rfl⟩,
      fun _ => ⟨rfl, rfl⟩⟩
    unfold holdings
    rw [faces_create, Array.toList_push, List.flatMap_append]
    simp [gauges, BrowserDocument.create, BrowserDocument.adopt]
  | bound hs => exact ⟨_, _, _, _, tallied.bind hs _ _, nofun, fun _ => ⟨rfl, rfl⟩⟩
  | reset hs before after =>
    have tallied' := tallied.transaction before.transaction
    exact ⟨_, _, _, _, (tallied'.silence hs).within before after, fun _ => ⟨rfl, rfl⟩, nofun⟩
  | sampled hx => exact ⟨_, _, _, _, tallied.sampleScroll _ _, nofun, fun _ => ⟨rfl, rfl⟩⟩
  | cancelled sampler =>
    cases found : d.sampler? sampler with
    | some there => exact ⟨_, _, _, _, tallied.cancelSampler found, fun _ => ⟨rfl, rfl⟩, nofun⟩
    | none =>
      rw [cancelSampler_of_none found]
      exact ⟨_, _, _, _, Unwired.refl.transaction, fun _ => ⟨rfl, rfl⟩, nofun⟩

/-- A node keeps its element and its listeners unless input is bound on it or it is reset. -/
theorem Rewires.face (rewires : Rewires d r d') {n : NodeId} {face : ElementId × List Registration}
    (there : (faces d)[n.index]? = some face) (unbound : ∀ id binding, r ≠ .bindInput n id binding)
    (kept : r ≠ .reset n) :
    (faces d')[n.index]? = some face := by
  have elsewhere {m : NodeId} (other : m ≠ n) (f : ElementId × List Registration →
    ElementId × List Registration) :
      ((faces d).modify m.index f)[n.index]? = some face := by
    rw [Array.getElem?_modify, if_neg, there]
    exact fun same => other (by cases m; cases n; exact congrArg NodeId.mk same)
  cases rewires with
  | nothing _ unwired =>
    rw [unwired.faces]
    exact there
  | created kind =>
    rw [faces_create, Array.getElem?_push, if_neg (Array.getElem?_eq_some_iff.1 there).1.ne]
    exact there
  | @bound m _ id binding hs =>
    rw [faces_bind hs]
    exact elsewhere (fun same => unbound id binding (by rw [same])) _
  | @reset m _ d₁ _ hs before after =>
    rw [after.faces, faces_silence hs, before.faces]
    exact elsewhere (fun same => kept (by rw [same])) _
  | sampled hx => exact there
  | cancelled sampler =>
    rw [faces_cancelSampler]
    exact there

/-- A sampler keeps what it has on the page until it is cancelled, and then it has nothing. -/
theorem Rewires.gauge (rewires : Rewires d r d') {i : Nat}
    {gauge : ElementId × Option Nat × List Registration}
    (there : (gauges d)[i]? = some gauge) : (gauges d')[i]? = some gauge ∨
      (gauges d')[i]? = some (gauge.1, none, []) ∧ r = .cancelSampler ⟨i⟩ := by
  cases rewires with
  | nothing _ unwired =>
    rw [unwired.gauges]
    exact .inl there
  | created kind => exact .inl there
  | bound hs =>
    rw [gauges_bind]
    exact .inl there
  | reset hs before after =>
    rw [after.gauges, gauges_silence, before.gauges]
    exact .inl there
  | sampled hx =>
    obtain ⟨new, pushed⟩ := exists_gauges_sampleScroll (d := d) (x := _) _ _
    rw [pushed, Array.getElem?_push, if_neg (Array.getElem?_eq_some_iff.1 there).1.ne]
    exact .inl there
  | cancelled sampler =>
    cases found : d.sampler? sampler with
    | none =>
      rw [cancelSampler_of_none found]
      exact .inl there
    | some _ =>
      rw [gauges_cancelSampler found, Array.getElem?_modify, there]
      split
      · next same => exact .inr ⟨rfl, by cases sampler; cases same; rfl⟩
      · exact .inl rfl

end Requests

end LayeredPage.Proofs
