import LayeredPage.Proofs.Agreement
import LayeredPage.Proofs.Rewiring

/-!
# What the listeners of a document do

A document in memory knows what input is bound on its nodes, and which samplers are live. A document
on a page has just the listeners and timers for that: one listener for each binding, and for each
live sampler a timer and a listener for fingers going down and coming up.
-/

namespace LayeredPage.Proofs

open MemoryDocument

/-- What a listener does: on which event, at which target and in which phase it does what. -/
structure Wire where
  target : EventTarget
  event : String
  capture : Bool
  handler : Handler
deriving DecidableEq, Repr

def wire (l : Listener) : Wire := ⟨l.target, l.event, l.capture, l.handler⟩

/-- The listener that is registered so on a page does this. -/
def Serves (p : Page) (r : Registration) (w : Wire) : Prop :=
  ∃ l ∈ p.listeners, l.toRegistration = r ∧ wire l = w

/-- The event with which input comes. -/
def inputEvent : InputBinding → String
  | .buttonClick => "click"
  | .textboxInput | .sliderChange | .textInput => "input"
  | .checkboxToggle | .textboxChange | .dropdownChange | .radioSetChange => "change"

lemma event_eq (b : InputBinding) : b.event = inputEvent b := by
  cases b <;> rfl

/-- What reports the input that is bound on an element. -/
def inputWire (x : ElementId) (b : UInt32 × InputBinding) : Wire :=
  ⟨.element x, inputEvent b.2, false, .bound x b.1 b.2⟩

/-- What tells a sampler about fingers on an element. -/
def fingerWires (x : ElementId) (sampler : SamplerId) : List Wire :=
  [⟨.element x, "touchstart", true, .touching sampler true⟩,
    ⟨.element x, "touchend", true, .touching sampler false⟩]

/-! ## Tables -/

/-- What holds at each place of a table. -/
def AtEach {α : Type} (items : Array α) (property : Nat → α → Prop) : Prop :=
  ∀ i a, items[i]? = some a → property i a

section Tables

variable {α : Type} {items : Array α} {property : Nat → α → Prop} {a : α} {k : Nat} {f : α → α}

lemma atEach_push (kept : AtEach items property) (new : property items.size a) :
    AtEach (items.push a) property := by
  intro i b hb
  rw [Array.getElem?_push] at hb
  split at hb
  · next here =>
    cases hb
    exact here ▸ new
  · exact kept i b hb

lemma atEach_modify (kept : ∀ i a, items[i]? = some a → i ≠ k → property i a)
    (changed : ∀ a, items[k]? = some a → property k (f a)) :
    AtEach (items.modify k f) property := by
  intro i b hb
  rw [Array.getElem?_modify] at hb
  split at hb
  · next here =>
    subst here
    obtain ⟨a, ha, rfl⟩ := Option.map_eq_some_iff.1 hb
    exact changed a ha
  · next other => exact kept i b hb fun same => other same.symm

end Tables

/-! ## Documents in accord about the wires -/

/-- The samplers of a document in memory: which node each is for, and whether it is live. -/
def posts (m : MemoryDocument) : Array (NodeId × Bool) := m.samplers.map fun k => (k.node, k.live)

/-- The listeners of a node do what is bound on it. -/
def Tapped (m : MemoryDocument) (p : Page) (i : Nat)
    (face : ElementId × List Registration) : Prop :=
  List.Forall₂ (Serves p) face.2 ((heard m ⟨i⟩).map (inputWire face.1))

/-- A sampler has a timer and watches for fingers as long as it is live. -/
structure Manned (d : BrowserDocument) (i : Nat)
    (gauge : ElementId × Option Nat × List Registration) (post : NodeId × Bool) :
    Prop where
  element : d.element? post.1 = some gauge.1
  live : post.2 = true → ∃ id, gauge.2.1 = some id ∧ ⟨id, ⟨i⟩⟩ ∈ d.page.intervals ∧
    List.Forall₂ (Serves d.page) gauge.2.2 (fingerWires gauge.1 ⟨i⟩)
  dead : post.2 = false → gauge.2 = (none, [])

structure Wired (m : MemoryDocument) (d : BrowserDocument) : Prop where
  nodes : AtEach (faces d) (Tapped m d.page)
  samplers : AtEach (gauges d) fun i gauge => ∃ post, (posts m)[i]? = some post ∧
    Manned d i gauge post

section Wired

variable {m m' : MemoryDocument} {d d' : BrowserDocument} {r : DocumentRequest}
  {outside : List Registration} {alien : List Nat}
  {made taken : List Registration} {started stopped : List Nat}

lemma mem_holdings_of_face {i : Nat} {face : ElementId × List Registration}
    (there : (faces d)[i]? = some face) {r : Registration} (hr : r ∈ face.2) : r ∈ holdings d :=
  List.mem_append_left _
    (List.mem_flatMap.2 ⟨face, Array.mem_toList_iff.2 (Array.mem_of_getElem? there), hr⟩)

lemma mem_holdings_of_gauge {i : Nat} {gauge : ElementId × Option Nat × List Registration}
    (there : (gauges d)[i]? = some gauge)
    {r : Registration} (hr : r ∈ gauge.2.2) : r ∈ holdings d :=
  List.mem_append_right _
    (List.mem_flatMap.2 ⟨gauge, Array.mem_toList_iff.2 (Array.mem_of_getElem? there), hr⟩)

lemma mem_clocks {i : Nat} {gauge : ElementId × Option Nat × List Registration}
    (there : (gauges d)[i]? = some gauge) {id : Nat} (hid : gauge.2.1 = some id) : id ∈ clocks d :=
  List.mem_flatMap.2 ⟨gauge, Array.mem_toList_iff.2 (Array.mem_of_getElem? there),
    Option.mem_toList.2 hid⟩

/-- A listener that is still held goes on doing what it did. -/
lemma Transaction.serves (transaction : Transaction d d' made taken started stopped)
    (tallied : Tallied outside alien d)
    {r : Registration} {w : Wire} (held : r ∈ holdings d') (serves : Serves d.page r w) :
    Serves d'.page r w := by
  obtain ⟨l, hl, rfl, same⟩ := serves
  refine (transaction.lasting l hl).elim (fun gone => ?_) fun there => ⟨l, there, rfl, same⟩
  have distinct := (tallied.orderly.nodup_serials transaction.toTurnover).1.of_map
  have enlisted' :=
    (tallied.transaction transaction).listeners.mem_iff.2 (List.mem_append_right _ held)
  exact absurd rfl ((List.nodup_append.1 distinct).2.2 _ enlisted' _ gone)

/-- So does a timer. -/
lemma Transaction.runs (transaction : Transaction d d' made taken started stopped)
    (tallied : Tallied outside alien d)
    {i : Interval} (held : i.id ∈ clocks d') (runs : i ∈ d.page.intervals) :
    i ∈ d'.page.intervals := by
  refine (transaction.running i runs).elim (fun gone => ?_) id
  have distinct := (tallied.orderly.nodup_ids transaction.toTurnover).1
  have ticks := (tallied.transaction transaction).timers.mem_iff.2 (List.mem_append_right _ held)
  exact absurd rfl ((List.nodup_append.1 distinct).2.2 _ ticks _ gone)

/-- Samplers are for the same nodes and as live as before unless one is started or cancelled. -/
lemma posts_answered {reply : r.Reply} (run : answer r m = .ok (reply, m'))
    (unsampled : ∀ n tracker interval, r ≠ .sampleScroll n tracker interval)
    (kept : ∀ sampler, r ≠ .cancelSampler sampler) : posts m' = posts m := by
  have harmless (harmless : Harmless (fun _ => False) r) : posts m' = posts m := by
    unfold posts
    rw [(Hushes.answered harmless run).samplers]
  cases r with
  | sampleScroll n tracker interval => exact absurd rfl (unsampled n tracker interval)
  | cancelSampler sampler => exact absurd rfl (kept sampler)
  | bindInput n id binding =>
    rw [change_inv run]
    rfl
  | observeSize n =>
    cases run
    rfl
  | scrollDelta sampler now =>
    obtain rfl : _ = m' := congrArg Prod.snd (Except.ok.inj run)
    dsimp only
    split
    · exact map_modify_of_hidden (f := fun k : MemorySampler => { k with tracker := _ })
        fun _ => rfl
    · rfl
  | setAttribute | removeAttribute => exact harmless False.elim
  | reset => exact harmless id
  | _ => exact harmless trivial

/-- A node keeps its element. -/
lemma Rewires.element? (rewires : Rewires d r d') {n : NodeId} {x : ElementId}
    (hx : d.element? n = some x) :
    d'.element? n = some x := by
  have changed (k : Nat) (f : List Registration → List Registration) :
      (((faces d).modify k fun face => (face.1, f face.2))[n.index]?).map (·.1) = some x := by
    rw [Array.getElem?_modify]
    rw [element?_eq] at hx
    split
    · rw [Option.map_map]
      exact hx
    · exact hx
  cases rewires with
  | nothing _ unwired => exact unwired.element?.trans hx
  | created kind =>
    rw [element?_create, if_neg, hx]
    rintro rfl
    obtain ⟨slot, hs, _⟩ := exists_slot hx
    exact absurd (Array.getElem?_eq_some_iff.1 hs).1 (lt_irrefl _)
  | bound hs =>
    rw [element?_eq, faces_bind hs]
    exact changed _ (· ++ [_])
  | reset hs before after =>
    rw [element?_eq, after.faces, faces_silence hs, before.faces]
    exact changed _ fun _ => []
  | sampled hy => exact hx
  | cancelled sampler =>
    rw [element?_eq, faces_cancelSampler, ← element?_eq]
    exact hx

/-- Where all listeners and timers are still there, they are for the same. -/
lemma Wired.of_subset (wired : Wired m d) (nodes : faces d' = faces d)
    (samplers : gauges d' = gauges d) (listeners : d.page.listeners ⊆ d'.page.listeners)
    (intervals : d.page.intervals ⊆ d'.page.intervals) : Wired m d' := by
  have serves (r : Registration) (w : Wire) (served : Serves d.page r w) : Serves d'.page r w :=
    let ⟨l, hl, same⟩ := served
    ⟨l, listeners hl, same⟩
  refine ⟨?_, ?_⟩
  · rw [nodes]
    exact fun i face hf => (wired.nodes i face hf).imp serves
  · rw [samplers]
    refine fun i gauge hg => ?_
    obtain ⟨post, hp, man⟩ := wired.samplers i gauge hg
    refine ⟨post, hp, (element?_of_faces nodes).trans man.element, fun live => ?_, man.dead⟩
    obtain ⟨id, timer, runs, served⟩ := man.live live
    exact ⟨id, timer, intervals runs, served.imp serves⟩

lemma Wired.unwired (wired : Wired m d) (unwired : Unwired d d') : Wired m d' := by
  have listeners : d'.page.listeners = d.page.listeners := congrArg Wires.listeners unwired.wires
  have intervals : d'.page.intervals = d.page.intervals := congrArg Wires.intervals unwired.wires
  exact wired.of_subset unwired.faces unwired.gauges (fun _ => listeners ▸ id)
    fun _ => intervals ▸ id

lemma serves_listen {p : Page} (listens : p.lacks .addEventListener = false)
    (target : EventTarget) (event : String) (options : ListenerOptions) (handler : Handler) :
    Serves (p.listen target event options handler).2
      ⟨p.registrations, target, event, options.capture⟩
        ⟨target, event, options.capture, handler⟩ := by
  refine ⟨⟨⟨p.registrations, target, event, options.capture⟩, handler⟩, ?_, rfl, rfl⟩
  unfold Page.listen
  dsimp only
  rw [show (Page.note { p with registrations := p.registrations + 1 }
    (.listen target event options)).lacks .addEventListener =
    false from listens]
  exact List.mem_append_right _ (List.mem_singleton_self _)

/-- A new sampler has its timer and its listeners. -/
lemma manned_sampleScroll {n : NodeId} {x : ElementId} (tallied : Tallied outside alien d)
    (hx : d.element? n = some x) (tracker : ScrollTracker Float) (interval : UInt32) :
    Manned (d.sampleScroll x tracker interval).2 d.samplers.size
      (x, some (d.page.timers + 1), fingers d.page x) (n, true) := by
  obtain ⟨first, orderly⟩ := turnover_timed tallied.orderly interval
  obtain ⟨second, orderly'⟩ := turnover_watched (x := x) tallied.orderly interval
  have third :=
    turnover_listen orderly'.listens (.element x) "touchend" .capturingPassive
      (.touching ⟨d.samplers.size⟩ false)
  have down :=
    serves_listen orderly.listens (.element x) "touchstart" .capturingPassive
      (.touching ⟨d.samplers.size⟩ true)
  have up :=
    serves_listen orderly'.listens (.element x) "touchend" .capturingPassive
      (.touching ⟨d.samplers.size⟩ false)
  have serial : (timed d interval).registrations = d.page.registrations := first.registrations
  have serial' : (watched d x interval).registrations = d.page.registrations + 1 :=
    second.registrations
  rw [serial] at down
  rw [serial'] at up
  refine ⟨hx, fun _ => ⟨_, rfl, ?_, .cons ?_ (.cons up .nil)⟩, fun dead => by cases dead⟩
  · have runs :
        (⟨d.page.timers + 1, ⟨d.samplers.size⟩⟩ : Interval) ∈ (timed d interval).intervals := by
      unfold timed Page.setInterval
      rw [tallied.orderly.ticks.1, tallied.orderly.ticks.2]
      exact List.mem_append_right _ (List.mem_singleton_self _)
    have kept : (timed d interval).intervals ⊆ (watched d x interval).intervals := by
      unfold watched Page.listen
      dsimp only
      split <;> exact fun _ => id
    exact (third.running _ (kept runs)).resolve_left List.not_mem_nil
  · obtain ⟨l, hl, same⟩ := down
    exact ⟨l, (third.lasting l hl).resolve_left List.not_mem_nil, same⟩

/-- Both documents answer, and the wires are again for what is bound and live. -/
theorem Wired.answer {reply reply' : r.Reply} (wired : Wired m d)
    (tallied : Tallied outside alien d)
    (nodes : d.slots.size = m.nodes.size) (samplers : d.samplers.size = m.samplers.size)
    (run : MemoryDocument.answer r m = .ok (reply, m'))
    (run' : BrowserDocument.answer r d = .ok (reply', d')) : Wired m' d' := by
  have rewires := answer_rewires run'
  obtain ⟨made, taken, started, stopped, transaction, -⟩ := rewires.transaction tallied
  have issued {i : Nat} {face : ElementId × List Registration} (there : (faces d)[i]? = some face) :
      m.issued ⟨i⟩ := by
    have inside := (Array.getElem?_eq_some_iff.1 there).1
    rw [show (faces d).size = d.slots.size from Array.size_map .., nodes] at inside
    exact decide_eq_true inside
  have tapped {i : Nat} {face : ElementId × List Registration} (there : (faces d)[i]? = some face)
      (there' : (faces d')[i]? = some face) (same : heard m' ⟨i⟩ = heard m ⟨i⟩) :
      Tapped m' d'.page i face := by
    unfold Tapped
    rw [same]
    exact (List.forall₂_and_left _ _).2 ⟨fun q hq => mem_holdings_of_face there' hq,
      wired.nodes i face there⟩ |>.imp
      fun _ _ served => transaction.serves tallied served.1 served.2
  have placed {n : NodeId} {x : ElementId} (hx : d.element? n = some x) :
      d'.element? n = some x := rewires.element? hx
  have manned {i : Nat} {gauge : ElementId × Option Nat × List Registration} {post : NodeId × Bool}
      (there' : (gauges d')[i]? = some gauge) (manned : Manned d i gauge post) :
      Manned d' i gauge post := by
    refine ⟨placed manned.element, fun live => ?_, manned.dead⟩
    obtain ⟨id, timer, runs, serves⟩ := manned.live live
    exact ⟨id, timer, transaction.runs tallied (mem_clocks there' timer) runs,
      (List.forall₂_and_left _ _).2
      ⟨fun q hq => mem_holdings_of_gauge there' hq, serves⟩ |>.imp fun _ _ served =>
        transaction.serves tallied served.1 served.2⟩
  have still (same : gauges d' = gauges d) (kept : posts m' = posts m) :
      AtEach (gauges d') fun i gauge => ∃ post, (posts m')[i]? = some post ∧
        Manned d' i gauge post := by
    intro i gauge hg
    obtain ⟨post, hp, man⟩ := wired.samplers i gauge (same ▸ hg)
    exact ⟨post, kept ▸ hp, manned hg man⟩
  have quiet (same : faces d' = faces d) (unbound : ∀ n id b, r ≠ .bindInput n id b)
    (kept : ∀ n, r ≠ .reset n) :
      AtEach (faces d') (Tapped m' d'.page) := fun i face hf =>
    tapped (same ▸ hf) hf (heard_answered run (issued (same ▸ hf)) (unbound _) (kept _))
  have sized : (faces d).size = m.nodes.size := (Array.size_map ..).trans nodes
  have counted : (gauges d).size = (posts m).size := by
    rw [show (gauges d).size = d.samplers.size from Array.size_map .., samplers]
    exact (Array.size_map ..).symm
  cases rewires with
  | nothing wireless unwired =>
    have other {r' : DocumentRequest} (wired : ¬ Wireless r') : r ≠ r' :=
      fun same => wired (same ▸ wireless)
    exact ⟨quiet unwired.faces (fun _ _ _ => other id) fun _ => other id,
      still unwired.gauges (posts_answered run (fun _ _ _ => other id) fun _ => other id)⟩
  | created kind =>
    obtain rfl : (m.create kind).2 = m' := congrArg Prod.snd (Except.ok.inj run)
    refine ⟨?_, still rfl rfl⟩
    have there' {i : Nat} {face : ElementId × List Registration}
      (there : (faces d)[i]? = some face) :
        (faces (d.create kind).2)[i]? = some face := by
      rw [faces_create, Array.getElem?_push,
        if_neg (Array.getElem?_eq_some_iff.1 there).1.ne, there]
    rw [faces_create]
    refine atEach_push (fun i face hf => tapped hf (there' hf) (heard_create kind (issued hf))) ?_
    have blank := node?_create (d := m) (m := (m.create kind).1) kind
    rw [if_pos rfl] at blank
    unfold Tapped
    rw [sized, heard_of_node? (n := ⟨m.nodes.size⟩) blank]
    exact .nil
  | @bound n slot id binding hs =>
    have there_n := getElem?_faces hs
    obtain rfl : m' = written (.bind id binding) n m := change_inv run
    refine ⟨?_, still (gauges_bind _ _) rfl⟩
    have after (k : NodeId) : heard (written (.bind id binding) n m) k = heard m k ++ if k =
        n then [(id, binding)] else [] :=
      heard_bound (issued there_n)
    have faces' := faces_bind hs id binding
    rw [faces']
    refine atEach_modify (fun i face hf other => tapped hf ?_ ?_) fun face hf => ?_
    · rw [faces', Array.getElem?_modify, if_neg other.symm, hf]
    · rw [after, if_neg fun same => other (congrArg NodeId.index same), List.append_nil]
    · cases there_n.symm.trans hf
      have old := wired.nodes n.index _ there_n
      have held : (faces (d.bind n id binding))[n.index]? =
          some (slot.element,
            slot.listeners ++ [upcoming d.page slot.element binding.event false]) := by
        rw [faces', Array.getElem?_modify, if_pos rfl, there_n]
        rfl
      have new :
          Serves (d.bind n id binding).page (upcoming d.page slot.element binding.event false)
            (inputWire slot.element (id, binding)) := by
        rw [page_bind hs, inputWire, ← event_eq]
        exact serves_listen tallied.orderly.listens _ _ _ _
      unfold Tapped
      rw [after, if_pos rfl, List.map_append]
      refine List.rel_append
        ((List.forall₂_and_left _ _).2 ⟨fun q hq => ?_, old⟩ |>.imp fun _ _ served =>
          transaction.serves tallied served.1 served.2) (.cons new .nil)
      exact mem_holdings_of_face held (List.mem_append_left _ hq)
  | @reset n slot d₁ _ hs before after =>
    have emptied : m' = m.reset n := by
      cases (require_inv run).2
      rfl
    have faces' : faces d' = (faces d).modify n.index fun face => (face.1, []) := by
      rw [after.faces, faces_silence hs, before.faces]
    refine ⟨?_,
      still (by rw [after.gauges, gauges_silence, before.gauges]) (posts_answered run nofun nofun)⟩
    rw [faces']
    refine atEach_modify (fun i face hf other => tapped hf ?_ ?_) fun face hf => ?_
    · rw [faces', Array.getElem?_modify, if_neg other.symm, hf]
    · rw [emptied, heard_reset fun same => other (congrArg NodeId.index same)]
    · unfold Tapped
      rw [emptied, show heard (m.reset n) ⟨n.index⟩ = [] from silent_reset.1]
      exact .nil
  | @sampled n x tracker interval hx =>
    cases run
    refine ⟨quiet rfl nofun nofun, ?_⟩
    have posts' : posts { m with samplers := m.samplers.push ⟨n, tracker, true, interval⟩ } =
        (posts m).push (n, true) :=
      Array.map_push
    have gauges' := gauges_sampleScroll tallied.orderly (x := x) tracker interval
    rw [gauges', posts']
    refine atEach_push (fun i gauge hg => ?_) ⟨(n, true), ?_, ?_⟩
    · obtain ⟨post, hp, man⟩ := wired.samplers i gauge hg
      refine ⟨post, ?_, manned ?_ man⟩
      · rw [Array.getElem?_push, if_neg (Array.getElem?_eq_some_iff.1 hp).1.ne, hp]
      · rw [gauges', Array.getElem?_push, if_neg (Array.getElem?_eq_some_iff.1 hg).1.ne, hg]
    · rw [counted]
      exact Array.getElem?_push_size
    · rw [show (gauges d).size = d.samplers.size from Array.size_map ..]
      exact manned_sampleScroll tallied hx tracker interval
  | cancelled sampler =>
    cases run
    refine ⟨quiet (faces_cancelSampler sampler) nofun nofun, ?_⟩
    have posts' : posts (m.modifySampler sampler fun k => { k with live := false }) =
        (posts m).modify sampler.index fun post => (post.1, false) :=
      map_modify_of_commutes (f := fun k : MemorySampler => { k with live := false }) fun _ => rfl
    rw [posts']
    cases found : d.sampler? sampler with
    | none =>
      have gauges' : gauges (d.cancelSampler sampler) = gauges d := by
        rw [cancelSampler_of_none found]
      rw [gauges']
      intro i gauge hg
      obtain ⟨post, hp, man⟩ := wired.samplers i gauge hg
      refine ⟨post, ?_, manned (gauges' ▸ hg) man⟩
      rw [Array.getElem?_modify, if_neg, hp]
      rintro rfl
      have absent := Array.getElem?_eq_none_iff.1 found
      rw [← Array.size_map (f := fun s : BrowserSampler => (s.element, s.interval, s.listeners))]
        at absent
      exact absurd (Array.getElem?_eq_some_iff.1 hg).1 (Nat.not_lt.2 absent)
    | some there =>
      have gauges' := gauges_cancelSampler found
      rw [gauges']
      refine atEach_modify (fun i gauge hg other => ?_) fun gauge hg => ?_
      · obtain ⟨post, hp, man⟩ := wired.samplers i gauge hg
        refine ⟨post, ?_, manned ?_ man⟩
        · rw [Array.getElem?_modify, if_neg other.symm, hp]
        · rw [gauges', Array.getElem?_modify, if_neg other.symm, hg]
      · obtain ⟨post, hp, man⟩ := wired.samplers _ gauge hg
        refine ⟨(post.1, false), ?_, placed man.element, nofun, fun _ => rfl⟩
        rw [Array.getElem?_modify, if_pos rfl, hp]
        rfl

end Wired

/-! ## Passages -/

/-- What a document did under a licence is entered in its books. Where there is no licence a node
keeps its listeners, and a sampler that did not keep what it had on the page has nothing there. -/
structure Passage (l : Licence) (d d' : BrowserDocument) (made taken : List Registration)
    (started stopped : List Nat) : Prop
    extends Transaction d d' made taken started stopped where
  unbound : (∀ n, ¬ l.binds n) → made = [] ∧ started = []
  kept : (∀ n, ¬ l.resets n) → (∀ sampler, ¬ l.cancels sampler) → taken = [] ∧ stopped = []
  face : ∀ (n : NodeId) face, (faces d)[n.index]? = some face → ¬ l.binds n → ¬ l.resets n →
    (faces d')[n.index]? = some face
  gauge : ∀ (i : Nat) gauge, (gauges d)[i]? = some gauge →
    (gauges d')[i]? = some gauge ∨ (gauges d')[i]? = some (gauge.1, none, [])

section Passages

variable {l : Licence} {d d' d'' : BrowserDocument} {r : DocumentRequest}
  {outside : List Registration} {alien : List Nat}
  {made taken made' taken' : List Registration} {started stopped started' stopped' : List Nat}

lemma Unwired.passage (unwired : Unwired d d') : Passage l d d' [] [] [] [] where
  toTransaction := unwired.transaction
  unbound _ := ⟨rfl, rfl⟩
  kept _ _ := ⟨rfl, rfl⟩
  face n face there _ _ := by rw [unwired.faces, there]
  gauge i gauge there := .inl (by rw [unwired.gauges, there])

lemma Passage.trans (one : Passage l d d' made taken started stopped)
    (two : Passage l d' d'' made' taken' started' stopped') :
    Passage l d d'' (made ++ made') (taken' ++ taken) (started ++ started')
    (stopped' ++ stopped) where
  toTransaction := one.toTransaction.trans two.toTransaction
  unbound never := by
    rw [(one.unbound never).1, (one.unbound never).2, (two.unbound never).1, (two.unbound never).2]
    exact ⟨rfl, rfl⟩
  kept spared going := by
    rw [(one.kept spared going).1, (one.kept spared going).2, (two.kept spared going).1,
      (two.kept spared going).2]
    exact ⟨rfl, rfl⟩
  face n face there unbound spared :=
    two.face n face (one.face n face there unbound spared) unbound spared
  gauge i gauge there := by
    rcases one.gauge i gauge there with same | gone
    · exact two.gauge i gauge same
    · exact .inr ((two.gauge i _ gone).elim id id)

lemma Rewires.passage (rewires : Rewires d r d') (tallied : Tallied outside alien d)
    (granted : l.grants r) :
    ∃ made taken started stopped, Passage l d d' made taken started stopped := by
  obtain ⟨made, taken, started, stopped, transaction, unconnected, connected⟩ :=
    rewires.transaction tallied
  refine ⟨made, taken, started, stopped, transaction, fun never => unconnected ?_,
    fun spared going => connected ?_,
    fun n face there unbound kept => rewires.face there ?_ ?_, fun i gauge there =>
      (rewires.gauge there).imp_right (·.1)⟩
  · cases r with
    | bindInput n | sampleScroll n => exact absurd granted (never n)
    | _ => rfl
  · cases r with
    | reset n => exact absurd granted (spared n)
    | cancelSampler sampler => exact absurd granted (going sampler)
    | _ => rfl
  · rintro id binding rfl
    exact unbound granted
  · rintro rfl
    exact kept granted

end Passages

/-- Documents in accord about the tree and the wires, with nothing else on the page but what others
have there. -/
structure Concert (g : Ground) (past : List CoreCall) (outside : List Registration)
    (alien : List Nat) (h : MemoryHost Recorder)
    (d : BrowserDocument) : Prop extends Tandem g past h d where
  tallied : Tallied outside alien d
  wired : Wired h.document d

section Concerts

variable {g : Ground} {past : List CoreCall} {outside : List Registration} {alien : List Nat}
  {h : MemoryHost Recorder} {d : BrowserDocument} {l : Licence}

theorem Concert.answer (concert : Concert g past outside alien h d) {r : PatchRequest}
    (becoming : Becoming 1 l h.document r) :
    ∃ reply h' d', MemoryHost.answerPatch r h = .ok (reply, h') ∧
      BrowserDocument.answerPatch r d = .ok (reply, d') ∧
      Concert g past outside alien h' d' ∧ ∃ made taken started stopped,
      Passage l d d' made taken started stopped := by
  obtain ⟨reply, h', d', run, run', tandem⟩ := concert.toTandem.answer becoming
  refine ⟨reply, h', d', run, run', ?_⟩
  have telling (document : h'.document = h.document) (unwired : Unwired d d') :
      Concert g past outside alien h' d' ∧
        ∃ made taken started stopped, Passage l d d' made taken started stopped :=
    ⟨⟨tandem, concert.tallied.transaction unwired.transaction,
      document ▸ concert.wired.unwired unwired⟩,
      [], [], [], [], unwired.passage⟩
  cases r with
  | document r =>
    change (MemoryDocument.answer r h.document).bind _ = _ at run
    cases asked : MemoryDocument.answer r h.document with
    | error why =>
      rw [asked] at run
      cases run
    | ok q =>
      rw [asked] at run
      cases run
      have rewires := answer_rewires run'
      obtain ⟨made, taken, started, stopped, passage⟩ :=
        rewires.passage concert.tallied becoming.granted
      exact ⟨⟨tandem, concert.tallied.transaction passage.toTransaction,
        concert.wired.answer concert.tallied concert.size concert.samplers asked run'⟩, made, taken,
        started, stopped, passage⟩
  | addContext layer =>
    cases run
    cases run'
    exact telling rfl (unwired_of_page rfl rfl)
  | removeContext layer =>
    cases run
    cases run'
    exact telling rfl (unwired_of_page rfl rfl)
  | imageLoaded path =>
    obtain rfl : _ = h' := congrArg Prod.snd (Except.ok.inj run)
    obtain rfl : _ = d' := congrArg Prod.snd (Except.ok.inj run')
    exact telling rfl (unwired_of_page rfl rfl)

/-- Proper steps come to the same on both hosts, and all that they do on the page is in the
books. -/
theorem Concert.serve {α : Type} {script : Script Patching α}
    (concert : Concert g past outside alien h d)
    (behaves : Behaves 1 l script h) : Concur (fun h' d' => Concert g past outside alien h' d' ∧
      ∃ made taken started stopped, Passage l d d' made taken started stopped)
        (MemoryHost.serve script h) (Script.run BrowserDocument.answerPatch script d) := by
  refine concur_of_behaves (fun r h₁ d₁ becoming related => ?_) behaves
    ⟨concert, [], [], [], [], Unwired.refl.passage⟩
  obtain ⟨concert₁, _, _, _, _, passage⟩ := related
  obtain ⟨reply, h₂, d₂, run, run', concert₂, _, _, _, _, passage'⟩ := concert₁.answer becoming
  exact ⟨reply, h₂, d₂, run, run', concert₂, _, _, _, _, passage.trans passage'⟩

end Concerts

end LayeredPage.Proofs
