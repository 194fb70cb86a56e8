import LayeredPage.Proofs.Slots

/-!
# Listeners and timers on the books

A page numbers its listeners and timers as they are made, and a document holds those that it made
for its nodes and samplers. Whatever a document is asked, the books balance: what was there and what
was made is what is there now and what was taken back, and the document took back only what it held.
-/

namespace LayeredPage.Proofs

/-! ## The books of a page -/

/-- The listeners on a page, as their owners know them. -/
def enlisted (p : Page) : List Registration := p.listeners.map (·.toRegistration)

/-- The timers that run on a page. -/
def ticking (p : Page) : List Nat := p.intervals.map (·.id)

/-- Listeners and timers can be added, and all of them have numbers of their own. -/
structure InSeries (p : Page) : Prop where
  listens : p.lacks .addEventListener = false
  ticks : p.lacks .window = false ∧ p.lacks .setInterval = false
  serials : ((enlisted p).map (·.serial)).Nodup
  numbered : ∀ r ∈ enlisted p, r.serial < p.registrations
  ids : (ticking p).Nodup
  counted : ∀ id ∈ ticking p, id ≤ p.timers

/-- What was made on a page and what was taken back. What was made is numbered in turn, and whatever
was there or made is there now or was taken back. -/
structure Turnover (p p' : Page) (made taken : List Registration) (started stopped : List Nat) :
    Prop where
  listeners : (enlisted p ++ made).Perm (enlisted p' ++ taken)
  serials : made.map (·.serial) = List.range' p.registrations made.length
  registrations : p'.registrations = p.registrations + made.length
  unlistened : (wires p').unlistened = taken ++ (wires p).unlistened
  intervals : (ticking p ++ started).Perm (ticking p' ++ stopped)
  ids : started = List.range' (p.timers + 1) started.length
  timers : p'.timers = p.timers + started.length
  cleared : (wires p').cleared = stopped ++ (wires p).cleared
  lasting : ∀ l ∈ p.listeners, l.toRegistration ∈ taken ∨ l ∈ p'.listeners
  running : ∀ i ∈ p.intervals, i.id ∈ stopped ∨ i ∈ p'.intervals

section Pages

variable {p p' p'' : Page} {made taken made' taken' : List Registration}
  {started stopped started' stopped' : List Nat}

/-- Balances add up. -/
lemma perm_balance {α : Type} {a b c m t m' t' : List α} (first : (a ++ m).Perm (b ++ t))
    (second : (b ++ m').Perm (c ++ t')) :
    (a ++ (m ++ m')).Perm (c ++ (t' ++ t)) := by
  rw [← Multiset.coe_eq_coe] at first second ⊢
  simp only [← Multiset.coe_add] at first second ⊢
  rw [← add_assoc, first, add_right_comm, second, add_assoc]

lemma Turnover.of_wires (same : wires p' = wires p) : Turnover p p' [] [] [] [] := by
  have listeners : p'.listeners = p.listeners := congrArg Wires.listeners same
  have intervals : p'.intervals = p.intervals := congrArg Wires.intervals same
  refine ⟨?_, rfl, congrArg Wires.registrations same, congrArg Wires.unlistened same, ?_, rfl,
    congrArg Wires.timers same,
    congrArg Wires.cleared same, fun l hl => .inr (listeners ▸ hl),
    fun i hi => .inr (intervals ▸ hi)⟩
  · unfold enlisted
    rw [listeners]
  · unfold ticking
    rw [intervals]

lemma Turnover.trans (one : Turnover p p' made taken started stopped)
    (two : Turnover p' p'' made' taken' started' stopped') :
    Turnover p p'' (made ++ made') (taken' ++ taken) (started ++ started')
    (stopped' ++ stopped) where
  listeners := perm_balance one.listeners two.listeners
  serials := by
    rw [List.map_append, one.serials, two.serials, one.registrations, List.length_append,
      List.range'_append_1]
  registrations := by rw [two.registrations, one.registrations, List.length_append, Nat.add_assoc]
  unlistened := by rw [two.unlistened, one.unlistened, List.append_assoc]
  intervals := perm_balance one.intervals two.intervals
  ids := by
    have two := two.ids
    rw [one.timers, Nat.add_right_comm] at two
    rw [List.length_append, ← List.range'_append_1, ← one.ids, ← two]
  timers := by rw [two.timers, one.timers, List.length_append, Nat.add_assoc]
  cleared := by rw [two.cleared, one.cleared, List.append_assoc]
  lasting l hl :=
    (one.lasting l hl).elim (fun gone => .inl (List.mem_append_right _ gone)) fun there =>
    (two.lasting l there).imp_left (List.mem_append_left _)
  running i hi :=
  (one.running i hi).elim (fun gone => .inl (List.mem_append_right _ gone)) fun there =>
  (two.running i there).imp_left (List.mem_append_left _)

/-- Everything that was there, or was made, has a number of its own. -/
lemma InSeries.nodup_serials (orderly : InSeries p)
    (turnover : Turnover p p' made taken started stopped) :
    ((enlisted p' ++ taken).map (·.serial)).Nodup ∧ ∀ r ∈ enlisted p' ++ taken,
    r.serial < p'.registrations := by
  have all : ((enlisted p ++ made).map (·.serial)).Nodup := by
    rw [List.map_append, turnover.serials]
    refine List.nodup_append.2 ⟨orderly.serials, List.nodup_range' .., ?_⟩
    rintro a ha b hb rfl
    obtain ⟨r, hr, rfl⟩ := List.mem_map.1 ha
    have := orderly.numbered r hr
    have := (List.mem_range'_1.1 hb).1
    omega
  refine ⟨(turnover.listeners.map _).nodup_iff.1 all, fun r hr => ?_⟩
  rw [turnover.registrations]
  rcases List.mem_append.1 (turnover.listeners.mem_iff.2 hr) with old | new
  · exact (orderly.numbered r old).trans_le (Nat.le_add_right _ _)
  · have inside := List.mem_map_of_mem (f := (·.serial)) new
    rw [turnover.serials] at inside
    exact (List.mem_range'_1.1 inside).2

lemma InSeries.nodup_ids (orderly : InSeries p)
    (turnover : Turnover p p' made taken started stopped) :
    (ticking p' ++ stopped).Nodup ∧ ∀ id ∈ ticking p' ++ stopped, id ≤ p'.timers := by
  have all : (ticking p ++ started).Nodup := by
    rw [turnover.ids]
    refine List.nodup_append.2 ⟨orderly.ids, List.nodup_range' .., ?_⟩
    rintro a ha b hb rfl
    have := orderly.counted a ha
    have := (List.mem_range'_1.1 hb).1
    omega
  refine ⟨turnover.intervals.nodup_iff.1 all, fun id hid => ?_⟩
  rw [turnover.timers]
  rcases List.mem_append.1 (turnover.intervals.mem_iff.2 hid) with old | new
  · exact (orderly.counted id old).trans (Nat.le_add_right _ _)
  · rw [turnover.ids] at new
    have := (List.mem_range'_1.1 new).2
    omega

lemma InSeries.turnover (orderly : InSeries p) (turnover : Turnover p p' made taken started stopped)
    (lacking : p'.lacking = p.lacking) :
    InSeries p' := by
  obtain ⟨serials, numbered⟩ := orderly.nodup_serials turnover
  obtain ⟨ids, counted⟩ := orderly.nodup_ids turnover
  rw [List.map_append] at serials
  refine ⟨?_, ?_, (List.nodup_append.1 serials).1, fun r hr =>
    numbered r (List.mem_append_left _ hr),
    (List.nodup_append.1 ids).1, fun id hid => counted id (List.mem_append_left _ hid)⟩
  · unfold Page.lacks
    rw [lacking]
    exact orderly.listens
  · unfold Page.lacks
    rw [lacking]
    exact orderly.ticks

/-! ### What is done to the wires of a page -/

lemma turnover_listen (listens : p.lacks .addEventListener = false)
    (target : EventTarget) (event : String) (options : ListenerOptions) (handler : Handler) :
    Turnover p (p.listen target event options handler).2
      [(p.listen target event options handler).1] [] [] [] := by
  unfold Page.listen
  dsimp only
  rw [show (Page.note { p with registrations := p.registrations + 1 }
    (.listen target event options)).lacks .addEventListener =
    false from listens]
  refine ⟨?_, rfl, rfl, rfl, .refl _, rfl, rfl, rfl, fun l hl =>
    .inr (List.mem_append_left _ hl), fun _ => .inr⟩
  unfold enlisted
  simp [Page.note]

lemma turnover_unlisten {r : Registration} (orderly : InSeries p) (there : r ∈ enlisted p) :
    Turnover p (p.unlisten r) [] [r] [] [] := by
  refine ⟨?_, rfl, rfl, rfl, .refl _, rfl, rfl, rfl, fun l hl => ?_, fun _ => .inr⟩
  rotate_left
  · by_cases same : l.toRegistration = r
    · exact .inl (List.mem_singleton.2 same)
    · exact .inr (List.mem_filter.2 ⟨hl, decide_eq_true same⟩)
  have distinct : (enlisted p).Nodup := orderly.serials.of_map
  have rest : enlisted (p.unlisten r) = (enlisted p).erase r := by
    rw [distinct.erase_eq_filter]
    unfold enlisted
    rw [List.filter_map]
    exact congrArg (List.map _) (List.filter_congr fun l _ => by
      rw [Bool.eq_iff_iff, decide_eq_true_eq, Function.comp_apply, bne_iff_ne])
  rw [rest, List.append_nil]
  exact (List.perm_cons_erase there).trans (List.perm_append_singleton r _).symm

lemma turnover_unlistenAll (rs : List Registration) (orderly : InSeries p) (distinct : rs.Nodup)
    (there : ∀ r ∈ rs, r ∈ enlisted p) :
    Turnover p (p.unlistenAll rs) [] rs.reverse [] [] := by
  induction rs generalizing p with
  | nil => exact .of_wires rfl
  | cons r rs ih =>
    have first := turnover_unlisten orderly (there r List.mem_cons_self)
    obtain ⟨new, distinct⟩ := List.nodup_cons.1 distinct
    have rest := ih (p := p.unlisten r) (orderly.turnover first rfl) distinct fun q hq => ?_
    · rw [List.reverse_cons]
      exact first.trans rest
    · have either :=
        first.listeners.mem_iff.1 (List.mem_append_left _ (there q (List.mem_cons_of_mem _ hq)))
      rcases List.mem_append.1 either with left | taken
      · exact left
      · cases List.mem_singleton.1 taken
        exact absurd hq new

lemma turnover_setInterval (orderly : InSeries p) (sampler : SamplerId) (delay : Nat) :
    (p.setInterval sampler delay).1 = some (p.timers + 1) ∧
      Turnover p (p.setInterval sampler delay).2 [] [] [p.timers + 1] [] := by
  unfold Page.setInterval
  rw [orderly.ticks.1, orderly.ticks.2]
  refine ⟨rfl, .refl _, rfl, rfl, rfl, ?_, rfl, rfl, rfl, fun _ => .inr, fun i hi =>
    .inr (List.mem_append_left _ hi)⟩
  unfold ticking
  simp

lemma turnover_clearInterval {id : Nat} (orderly : InSeries p) (there : id ∈ ticking p) :
    Turnover p (p.clearInterval id) [] [] [] [id] := by
  refine ⟨.refl _, rfl, rfl, rfl, ?_, rfl, rfl, rfl, fun _ => .inr, fun i hi => ?_⟩
  rotate_left
  · by_cases same : i.id = id
    · exact .inl (List.mem_singleton.2 same)
    · exact .inr (List.mem_filter.2 ⟨hi, bne_iff_ne.2 same⟩)
  have rest : ticking (p.clearInterval id) = (ticking p).erase id := by
    rw [orderly.ids.erase_eq_filter]
    unfold ticking
    rw [List.filter_map]
    rfl
  rw [rest, List.append_nil]
  exact (List.perm_cons_erase there).trans (List.perm_append_singleton id _).symm

end Pages

/-! ## The books of a document -/

/-- What the samplers of a document have on the page. -/
def gauges (d : BrowserDocument) : Array (ElementId × Option Nat × List Registration) :=
  d.samplers.map fun s => (s.element, s.interval, s.listeners)

/-- The listeners that a document holds, for its nodes and for its samplers. -/
def holdings (d : BrowserDocument) : List Registration :=
  (faces d).toList.flatMap (·.2) ++ (gauges d).toList.flatMap (·.2.2)

/-- The timers that a document holds. -/
def clocks (d : BrowserDocument) : List Nat := (gauges d).toList.flatMap (·.2.1.toList)

/-- What a document made and took back between two states is entered in its books. -/
structure Transaction (d d' : BrowserDocument) (made taken : List Registration)
    (started stopped : List Nat) : Prop
    extends Turnover d.page d'.page made taken started stopped where
  held : (holdings d ++ made).Perm (holdings d' ++ taken)
  timed : (clocks d ++ started).Perm (clocks d' ++ stopped)
  lacking : d'.page.lacking = d.page.lacking

/-- Besides what others have on its page there is just what the document holds. -/
structure Tallied (outside : List Registration) (alien : List Nat) (d : BrowserDocument) :
    Prop where
  orderly : InSeries d.page
  listeners : (enlisted d.page).Perm (outside ++ holdings d)
  timers : (ticking d.page).Perm (alien ++ clocks d)

/-- Nothing happened to listeners, timers, or what holds them. -/
structure Unwired (d d' : BrowserDocument) : Prop where
  faces : faces d' = faces d
  gauges : gauges d' = gauges d
  wires : wires d'.page = wires d.page
  lacking : d'.page.lacking = d.page.lacking

section Books

variable {α β : Type} {d d' d'' : BrowserDocument} {outside : List Registration} {alien : List Nat}
  {made taken made' taken' : List Registration} {started stopped started' stopped' : List Nat}

lemma Transaction.trans (one : Transaction d d' made taken started stopped)
    (two : Transaction d' d'' made' taken' started' stopped') :
    Transaction d d'' (made ++ made') (taken' ++ taken) (started ++ started')
    (stopped' ++ stopped) where
  toTurnover := one.toTurnover.trans two.toTurnover
  held := perm_balance one.held two.held
  timed := perm_balance one.timed two.timed
  lacking := two.lacking.trans one.lacking

lemma Unwired.transaction (unwired : Unwired d d') : Transaction d d' [] [] [] [] where
  toTurnover := .of_wires unwired.wires
  held := by unfold holdings; rw [unwired.faces, unwired.gauges]
  timed := by unfold clocks; rw [unwired.gauges]
  lacking := unwired.lacking

lemma Unwired.refl : Unwired d d := ⟨rfl, rfl, rfl, rfl⟩

lemma Unwired.trans (one : Unwired d d') (two : Unwired d' d'') : Unwired d d'' :=
  ⟨two.faces.trans one.faces, two.gauges.trans one.gauges, two.wires.trans one.wires,
    two.lacking.trans one.lacking⟩

lemma perm_cancel {α : Type} {a b o x m t : List α} (page : (a ++ m).Perm (b ++ t))
    (before : a.Perm (o ++ x)) {y : List α} (held : (x ++ m).Perm (y ++ t)) : b.Perm (o ++ y) := by
  rw [← List.perm_append_right_iff t, List.append_assoc]
  refine page.symm.trans ((before.append_right m).trans ?_)
  rw [List.append_assoc]
  exact held.append_left o

/-- Books that balance keep telling just what is on the page. -/
theorem Tallied.transaction (tallied : Tallied outside alien d)
    (transaction : Transaction d d' made taken started stopped) :
    Tallied outside alien d' where
  orderly := tallied.orderly.turnover transaction.toTurnover transaction.lacking
  listeners := perm_cancel transaction.listeners tallied.listeners transaction.held
  timers := perm_cancel transaction.intervals tallied.timers transaction.timed

/-- What the other entries hold when one entry of a table changes. -/
lemma exists_flatMap_modify {xs : Array α} {i : Nat} {a : α} (there : xs[i]? = some a)
    (g : α → α) (f : α → List β) :
    ∃ rest, (xs.toList.flatMap f).Perm (rest ++ f a) ∧
      ((xs.modify i g).toList.flatMap f).Perm (rest ++ f (g a)) := by
  obtain ⟨inside, rfl⟩ := Array.getElem?_eq_some_iff.1 there
  obtain ⟨front, b, back, eq, size, eq'⟩ :=
    List.exists_of_modify g (l := xs.toList) (i := i) (by simpa using inside)
  have same : xs[i] = b := by
    have at_i : xs.toList[i]? = some b := by rw [eq, ← size]; simp
    simpa [inside] using at_i
  refine ⟨front.flatMap f ++ back.flatMap f, ?_, ?_⟩
  · rw [eq, same, List.flatMap_append, List.flatMap_cons, List.append_assoc]
    exact List.perm_append_comm.append_left _
  · rw [Array.toList_modify, eq', same, List.flatMap_append, List.flatMap_cons, List.append_assoc]
    exact List.perm_append_comm.append_left _

/-- The listeners that a document holds are on the page, each once. -/
lemma Tallied.holds {rs rest : List Registration} (tallied : Tallied outside alien d)
    (held : (holdings d).Perm (rest ++ rs)) :
    rs.Nodup ∧ ∀ r ∈ rs, r ∈ enlisted d.page := by
  have all := tallied.listeners.trans (held.append_left outside)
  rw [← List.append_assoc] at all
  have distinct := all.nodup_iff.1 tallied.orderly.serials.of_map
  exact ⟨(List.nodup_append.1 distinct).2.1, fun r hr => all.mem_iff.2 (List.mem_append_right _ hr)⟩

end Books

/-! ### What is done to the wires of a document -/

section Wires

variable {d d' : BrowserDocument} {outside : List Registration} {alien : List Nat} {n : NodeId}
  {x : ElementId} {slot : Slot}

lemma faces_modifySlot {f : Slot → Slot} {g : List Registration → List Registration}
    (shows : ∀ slot, ((f slot).element, (f slot).listeners) = (slot.element, g slot.listeners)) :
    faces (d.modifySlot n f) = (faces d).modify n.index fun face => (face.1, g face.2) :=
  map_modify_of_commutes shows

lemma getElem?_faces (hs : d.slot? n = some slot) :
    (faces d)[n.index]? = some (slot.element, slot.listeners) := by
  unfold faces
  rw [Array.getElem?_map]
  exact congrArg (Option.map _) hs

lemma faces_silence (hs : d.slot? n = some slot) :
    faces (d.silence n) = (faces d).modify n.index fun face => (face.1, []) := by
  unfold BrowserDocument.silence
  rw [hs]
  exact faces_modifySlot (f := fun slot => { slot with listeners := [] })
    (g := fun _ => []) fun _ => rfl

lemma gauges_silence : gauges (d.silence n) = gauges d := by
  unfold BrowserDocument.silence
  split <;> rfl

lemma Tallied.silence (tallied : Tallied outside alien d) (hs : d.slot? n = some slot) :
    Transaction d (d.silence n) [] slot.listeners.reverse [] [] := by
  have page : (d.silence n).page = d.page.unlistenAll slot.listeners := by
    unfold BrowserDocument.silence
    rw [hs]
    rfl
  have held : (holdings d).Perm (holdings (d.silence n) ++ slot.listeners) := by
    obtain ⟨rest, before, after⟩ :=
      exists_flatMap_modify (getElem?_faces hs) (fun face => (face.1, [])) (·.2)
    unfold holdings
    rw [faces_silence hs, gauges_silence, List.append_assoc]
    refine (before.append_right _).trans ?_
    rw [List.append_assoc]
    rw [List.append_nil] at after
    exact (List.perm_append_comm.append_left _).trans (after.symm.append_right _)
  obtain ⟨distinct, there⟩ := tallied.holds held
  refine ⟨page ▸ turnover_unlistenAll _ tallied.orderly distinct there, ?_, ?_, ?_⟩
  · rw [List.append_nil]
    exact held.trans ((List.reverse_perm _).symm.append_left _)
  · unfold clocks
    rw [gauges_silence]
  · rw [page]
    exact (plain_unlistenAll _ _).lacking

/-- The next listener on a page. -/
def upcoming (p : Page) (x : ElementId) (event : String) (capture : Bool) : Registration :=
  ⟨p.registrations, .element x, event, capture⟩

lemma faces_bind (hs : d.slot? n = some slot) (id : UInt32) (binding : InputBinding) :
    faces (d.bind n id binding) =
    (faces d).modify n.index fun face =>
      (face.1, face.2 ++ [upcoming d.page slot.element binding.event false]) := by
  have hx : d.element? n = some slot.element := by
    rw [BrowserDocument.element?, hs, Option.map_some]
  unfold BrowserDocument.bind
  rw [hx]
  exact faces_modifySlot (g := (· ++ [upcoming d.page slot.element binding.event false]))
    fun _ => rfl

lemma page_bind (hs : d.slot? n = some slot) (id : UInt32) (binding : InputBinding) :
    (d.bind n id binding).page =
    (d.page.listen (.element slot.element) binding.event .bubbling
      (.bound slot.element id binding)).2 := by
  have hx : d.element? n = some slot.element := by
    rw [BrowserDocument.element?, hs, Option.map_some]
  unfold BrowserDocument.bind
  rw [hx]
  rfl

lemma gauges_bind (id : UInt32) (binding : InputBinding) :
    gauges (d.bind n id binding) = gauges d := by
  unfold BrowserDocument.bind
  split <;> rfl

lemma Tallied.bind (tallied : Tallied outside alien d) (hs : d.slot? n = some slot) (id : UInt32)
    (binding : InputBinding) :
    Transaction d
      (d.bind n id binding) [upcoming d.page slot.element binding.event false] [] [] [] := by
  obtain ⟨rest, before, after⟩ := exists_flatMap_modify (getElem?_faces hs)
    (fun face => (face.1, face.2 ++ [upcoming d.page slot.element binding.event false])) (·.2)
  refine ⟨page_bind hs id binding ▸ turnover_listen tallied.orderly.listens .., ?_, ?_, ?_⟩
  · unfold holdings
    rw [faces_bind hs, gauges_bind, List.append_nil, List.append_assoc]
    refine (List.perm_append_comm.append_left _).trans ?_
    rw [← List.append_assoc]
    refine List.Perm.append_right _ ((before.append_right _).trans ?_)
    rw [List.append_assoc]
    exact after.symm
  · unfold clocks
    rw [gauges_bind]
  · rw [page_bind hs]
    exact (plain_listen ..).lacking

/-- The page while a sampler is started: its timer runs, and then it watches for fingers. -/
def timed (d : BrowserDocument) (interval : UInt32) : Page :=
  (d.page.setInterval ⟨d.samplers.size⟩ interval.toNat).2

def watched (d : BrowserDocument) (x : ElementId) (interval : UInt32) : Page :=
  ((timed d interval).listen (.element x) "touchstart" .capturingPassive
    (.touching ⟨d.samplers.size⟩ true)).2

lemma turnover_timed (orderly : InSeries d.page) (interval : UInt32) :
    Turnover d.page (timed d interval) [] [] [d.page.timers + 1] [] ∧
    InSeries (timed d interval) := by
  have turnover := (turnover_setInterval orderly ⟨d.samplers.size⟩ interval.toNat).2
  exact ⟨turnover, orderly.turnover turnover (plain_setInterval _ _).lacking⟩

lemma turnover_watched (orderly : InSeries d.page) (interval : UInt32) :
    Turnover d.page (watched d x interval) [upcoming d.page x "touchstart" true] []
    [d.page.timers + 1] [] ∧
      InSeries (watched d x interval) := by
  obtain ⟨first, orderly₁⟩ := turnover_timed orderly interval
  have second :=
    turnover_listen orderly₁.listens (.element x) "touchstart" .capturingPassive
      (.touching ⟨d.samplers.size⟩ true)
  have serial : (timed d interval).registrations = d.page.registrations := first.registrations
  have made :
      ((timed d interval).listen (.element x) "touchstart" .capturingPassive
        (.touching ⟨d.samplers.size⟩ true)).1 =
        upcoming d.page x "touchstart" true := by
    unfold upcoming
    rw [← serial]
    rfl
  rw [made] at second
  exact ⟨first.trans second, orderly₁.turnover second (plain_listen ..).lacking⟩

/-- What a new sampler has on the page. -/
def fingers (p : Page) (x : ElementId) : List Registration :=
  [upcoming p x "touchstart" true,
    { upcoming p x "touchend" true with serial := p.registrations + 1 }]

lemma exists_gauges_sampleScroll (tracker : ScrollTracker Float) (interval : UInt32) :
    ∃ gauge, gauges (d.sampleScroll x tracker interval).2 = (gauges d).push gauge :=
  ⟨_, Array.map_push⟩

lemma gauges_sampleScroll (orderly : InSeries d.page) (tracker : ScrollTracker Float)
    (interval : UInt32) :
    gauges (d.sampleScroll x tracker interval).2 =
      (gauges d).push (x, some (d.page.timers + 1), fingers d.page x) := by
  have timer := (turnover_setInterval orderly ⟨d.samplers.size⟩ interval.toNat).1
  have first : (timed d interval).registrations = d.page.registrations :=
    (turnover_timed orderly interval).1.registrations
  have second : (watched d x interval).registrations = d.page.registrations + 1 :=
    (turnover_watched orderly interval).1.registrations
  have pushed : gauges (d.sampleScroll x tracker interval).2 = (gauges d).push
      (x, (d.page.setInterval ⟨d.samplers.size⟩ interval.toNat).1,
        [⟨(timed d interval).registrations, .element x, "touchstart", true⟩,
          ⟨(watched d x interval).registrations, .element x, "touchend", true⟩]) := Array.map_push
  rw [pushed, timer, first, second]
  rfl

lemma Tallied.sampleScroll (tallied : Tallied outside alien d) (tracker : ScrollTracker Float)
    (interval : UInt32) :
    Transaction d (d.sampleScroll x tracker interval).2
      (fingers d.page x) [] [d.page.timers + 1] [] := by
  obtain ⟨first, orderly⟩ := turnover_watched (x := x) tallied.orderly interval
  have second :=
    turnover_listen orderly.listens (.element x) "touchend" .capturingPassive
      (.touching ⟨d.samplers.size⟩ false)
  have made :
      ((watched d x interval).listen (.element x) "touchend" .capturingPassive
        (.touching ⟨d.samplers.size⟩ false)).1 =
        { upcoming d.page x "touchend" true with serial := d.page.registrations + 1 } := by
    have serial : (watched d x interval).registrations = d.page.registrations + 1 :=
      first.registrations
    rw [← serial]
    rfl
  rw [made] at second
  refine ⟨first.trans second, ?_, ?_, (level_sampleScroll tracker interval).page.lacking⟩
  · unfold holdings
    rw [gauges_sampleScroll tallied.orderly, Array.toList_push, List.flatMap_append,
      List.append_nil, List.append_assoc]
    exact .refl _
  · unfold clocks
    rw [gauges_sampleScroll tallied.orderly, Array.toList_push,
      List.flatMap_append, List.append_nil]
    exact .refl _

lemma cancelSampler_of_none {sampler : SamplerId} (absent : d.sampler? sampler = none) :
    d.cancelSampler sampler = d := by
  unfold BrowserDocument.cancelSampler
  rw [absent]

lemma cancelSampler_of_some {sampler : SamplerId} {there : BrowserSampler}
    (found : d.sampler? sampler = some there) :
    d.cancelSampler sampler = { d with
      page := (there.interval.elim d.page d.page.clearInterval).unlistenAll there.listeners
      samplers :=
        d.samplers.modify sampler.index fun s =>
          { s with interval := none, listeners := [] } } := by
  unfold BrowserDocument.cancelSampler
  rw [found]
  obtain ⟨element, tracker, interval, listeners⟩ := there
  cases interval <;> rfl

lemma gauges_cancelSampler {sampler : SamplerId} {there : BrowserSampler}
    (found : d.sampler? sampler = some there) :
    gauges (d.cancelSampler sampler) = (gauges d).modify sampler.index fun gauge =>
      (gauge.1, none, []) := by
  rw [cancelSampler_of_some found]
  exact map_modify_of_commutes
    (f := fun s : BrowserSampler => { s with interval := none, listeners := [] }) fun _ => rfl

lemma getElem?_gauges {sampler : SamplerId} {there : BrowserSampler}
    (found : d.sampler? sampler = some there) :
    (gauges d)[sampler.index]? = some (there.element, there.interval, there.listeners) := by
  unfold gauges
  rw [Array.getElem?_map]
  exact congrArg (Option.map _) found

lemma faces_cancelSampler (sampler : SamplerId) : faces (d.cancelSampler sampler) = faces d := by
  cases found : d.sampler? sampler with
  | none => rw [cancelSampler_of_none found]
  | some there =>
    rw [cancelSampler_of_some found]
    rfl

lemma Tallied.cancelSampler {sampler : SamplerId} {there : BrowserSampler}
    (tallied : Tallied outside alien d) (found : d.sampler? sampler = some there) :
    Transaction d (d.cancelSampler sampler) [] there.listeners.reverse []
      there.interval.toList := by
  have gauge := getElem?_gauges found
  have held : (holdings d).Perm (holdings (d.cancelSampler sampler) ++ there.listeners) := by
    obtain ⟨rest, before, after⟩ :=
      exists_flatMap_modify gauge (fun gauge => (gauge.1, none, [])) (·.2.2)
    unfold holdings
    rw [faces_cancelSampler, gauges_cancelSampler found, List.append_assoc]
    rw [List.append_nil] at after
    exact (before.trans (after.symm.append_right _)).append_left _
  have timed : (clocks d).Perm (clocks (d.cancelSampler sampler) ++ there.interval.toList) := by
    obtain ⟨rest, before, after⟩ :=
      exists_flatMap_modify gauge (fun gauge => (gauge.1, none, [])) (·.2.1.toList)
    unfold clocks
    rw [gauges_cancelSampler found]
    rw [show (none : Option Nat).toList = [] from rfl, List.append_nil] at after
    exact before.trans (after.symm.append_right _)
  obtain ⟨distinct, listed⟩ := tallied.holds held
  have turnover :
      Turnover d.page (d.cancelSampler sampler).page [] there.listeners.reverse []
        there.interval.toList := by
    rw [cancelSampler_of_some found]
    cases running : there.interval with
    | none => exact turnover_unlistenAll _ tallied.orderly distinct listed
    | some id =>
      rw [running] at timed
      have ticks : id ∈ ticking d.page :=
        tallied.timers.mem_iff.2
          (List.mem_append_right _
            (timed.mem_iff.2 (List.mem_append_right _ (List.mem_singleton_self id))))
      have stopped := turnover_clearInterval tallied.orderly ticks
      have silenced :=
        turnover_unlistenAll there.listeners (tallied.orderly.turnover stopped rfl) distinct listed
      have both := stopped.trans silenced
      simp only [List.append_nil, List.nil_append] at both
      exact both
  refine ⟨turnover, ?_, ?_, (level_cancelSampler sampler).page.lacking⟩
  · rw [List.append_nil]
    exact held.trans ((List.reverse_perm _).symm.append_left _)
  · rw [List.append_nil]
    exact timed

end Wires

end LayeredPage.Proofs
