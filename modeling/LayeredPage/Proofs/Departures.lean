import LayeredPage.Proofs.Arrivals

/-!
# The unmount of a chassis

An unmount stops the loop, takes the listeners of the window back, cancels the samplers of the live
scrollers and gives up the document with what its nodes still have. Then there is on the page what
others have there, and of all that was made since the mount everything was taken back once.
-/

namespace LayeredPage.Proofs

/-! ## Giving up a document -/

section Documents

variable {d : BrowserDocument} {outside : List Registration} {alien : List Nat}

/-- A cancelled sampler has nothing any more, the others have what they had. -/
lemma gauge_of_cancelled {sampler : SamplerId} {i : Nat}
    {gauge : ElementId × Option Nat × List Registration}
    (there : (gauges (d.cancelSampler sampler))[i]? = some gauge) (busy : gauge.2 ≠ (none, [])) :
    (gauges d)[i]? = some gauge ∧ (⟨i⟩ : SamplerId) ≠ sampler := by
  cases found : d.sampler? sampler with
  | none =>
    rw [cancelSampler_of_none found] at there
    refine ⟨there, ?_⟩
    rintro rfl
    have known : d.sampler? ⟨i⟩ ≠ none := by
      unfold gauges at there
      rw [Array.getElem?_map] at there
      obtain ⟨k, hk, -⟩ := Option.map_eq_some_iff.1 there
      exact Option.ne_none_iff_exists'.2 ⟨k, hk⟩
    exact known found
  | some _ =>
    rw [gauges_cancelSampler found, Array.getElem?_modify] at there
    split at there
    · obtain ⟨old, _, rfl⟩ := Option.map_eq_some_iff.1 there
      exact absurd rfl busy
    · next other => exact ⟨there, fun same => other (same ▸ rfl)⟩

/-- After a row of samplers was cancelled the books balance, and only other samplers have
anything. -/
lemma Tallied.cancelAll (samplers : List SamplerId) (tallied : Tallied outside alien d) :
    (∃ taken stopped,
      Transaction d (samplers.foldl BrowserDocument.cancelSampler d) [] taken [] stopped) ∧
      ∀ i gauge, (gauges (samplers.foldl BrowserDocument.cancelSampler d))[i]? = some gauge →
        gauge.2 ≠ (none, []) →
        (gauges d)[i]? = some gauge ∧ (⟨i⟩ : SamplerId) ∉ samplers := by
  induction samplers generalizing d with
  | nil =>
    exact ⟨⟨_, _, Unwired.refl.transaction⟩, fun i gauge there _ => ⟨there, List.not_mem_nil⟩⟩
  | cons sampler samplers ih =>
    obtain ⟨made, taken, started, stopped, first, nothing, _⟩ :=
      (Rewires.cancelled sampler).transaction tallied
    obtain ⟨rfl, rfl⟩ := nothing rfl
    obtain ⟨⟨taken', stopped', rest⟩, idle⟩ := ih (tallied.transaction first)
    refine ⟨⟨_, _, first.trans rest⟩, fun i gauge there busy => ?_⟩
    obtain ⟨before, apart⟩ := idle i gauge there busy
    obtain ⟨before, other⟩ := gauge_of_cancelled before busy
    exact ⟨before, List.not_mem_cons_of_ne_of_not_mem other apart⟩

/-- Others take listeners of theirs off the page. -/
lemma Tallied.unlistenAll {own : List Registration} (tallied : Tallied (outside ++ own) alien d) :
    Turnover d.page (d.page.unlistenAll own) [] own.reverse [] [] ∧
    Tallied outside alien (d.onPage (·.unlistenAll own)) := by
  have all := tallied.listeners
  rw [List.append_assoc] at all
  have distinct := (List.nodup_append.1 (all.nodup_iff.1 tallied.orderly.serials.of_map)).2.1
  have turnover :=
    turnover_unlistenAll own tallied.orderly (List.nodup_append.1 distinct).1 fun r hr =>
    all.mem_iff.2 (List.mem_append_right _ (List.mem_append_left _ hr))
  refine ⟨turnover,
    tallied.orderly.turnover turnover (plain_unlistenAll own d.page).lacking, ?_, ?_⟩
  · refine perm_cancel turnover.listeners all ?_
    rw [List.append_nil]
    exact List.perm_append_comm.trans ((List.reverse_perm own).symm.append_left _)
  · have timers := turnover.intervals.symm.trans (tallied.timers.append_right [])
    rw [List.append_nil, List.append_nil] at timers
    exact timers

/-- A document whose samplers have nothing holds what its nodes do. -/
lemma holdings_of_idle (idle : ∀ gauge ∈ (gauges d).toList, gauge.2 = (none, [])) :
    holdings d = d.slots.toList.flatMap (·.listeners) ∧ clocks d = [] := by
  have fingers : (gauges d).toList.flatMap (·.2.2) = [] :=
    List.flatMap_eq_nil_iff.2 fun gauge inside => by rw [idle gauge inside]
  refine ⟨?_, List.flatMap_eq_nil_iff.2 fun gauge inside => by rw [idle gauge inside]; rfl⟩
  unfold holdings faces
  rw [fingers, List.append_nil, Array.toList_map, List.flatMap_map]

/-- When its samplers have nothing any more, a document gives up all that it has. -/
lemma Tallied.close (tallied : Tallied outside alien d)
    (idle : ∀ gauge ∈ (gauges d).toList, gauge.2 = (none, [])) :
    (∃ taken, Turnover d.page d.close.page [] taken [] []) ∧ (enlisted d.close.page).Perm outside ∧
      (ticking d.close.page).Perm alien := by
  obtain ⟨held, still⟩ := holdings_of_idle idle
  obtain ⟨page, closed, same, lacking⟩ : ∃ page, d.close.page = page.unlistenAll (holdings d) ∧
    wires page = wires d.page ∧
      page.lacking = d.page.lacking := by
    unfold BrowserDocument.close
    rw [held]
    dsimp only
    split <;> exact ⟨_, rfl, rfl, rfl⟩
  have noted : Turnover d.page page [] [] [] [] := .of_wires same
  -- The nodes are given up first: then the document has nothing any more, and what they had is left
  -- to be taken back.
  have bare (page : Page) : holdings { d with page, slots := #[], observing := false } = [] ∧
      clocks { d with page, slots := #[], observing := false } = [] :=
    holdings_of_idle (d := { d with page, slots := #[], observing := false }) idle
  have listed :
      Tallied (outside ++ holdings d) alien { d with page, slots := #[], observing := false } := by
    have listeners := noted.listeners.symm.trans (tallied.listeners.append_right [])
    have timers := noted.intervals.symm.trans (tallied.timers.append_right [])
    rw [List.append_nil, List.append_nil] at listeners timers
    refine ⟨tallied.orderly.turnover noted lacking, ?_, ?_⟩
    · rw [(bare page).1, List.append_nil]
      exact listeners
    · rw [(bare page).2, ← still]
      exact timers
  obtain ⟨turnover, left⟩ := listed.unlistenAll
  have listeners := left.listeners
  have timers := left.timers
  unfold BrowserDocument.onPage at listeners timers
  rw [(bare _).1, List.append_nil] at listeners
  rw [(bare _).2, List.append_nil] at timers
  rw [closed]
  exact ⟨⟨_, noted.trans turnover⟩, listeners, timers⟩

end Documents

/-! ## Leaving -/

section Leaving

variable {g : Ground} {past : List CoreCall} {page : Page} {outside windows : List Registration}
  {alien : List Nat} {s : Scene} {h : MemoryHost Recorder} {d : BrowserDocument} {b : Browser}

lemma mem_samplers {i : Nat}
    (owned : i ∈ s.elements.toList.filterMap fun p => p.2.scroll.map (·.sampler.index)) :
    (⟨i⟩ : SamplerId) ∈ Browser.samplers s := by
  obtain ⟨⟨id, e⟩, inside, hi⟩ := List.mem_filterMap.1 owned
  obtain ⟨r, hr, rfl⟩ := Option.map_eq_some_iff.1 hi
  refine List.mem_filterMap.2 ⟨e, ?_, by rw [hr]; rfl⟩
  rw [values_eq]
  exact List.mem_map_of_mem inside

/-- All that a scene has on its page is given up when its samplers are cancelled and its document is
closed. -/
lemma Ensemble.leave (ensemble : Ensemble g past (outside ++ windows) alien s h d)
    {d' : BrowserDocument} (left : d' =
      ((Browser.samplers s).foldl BrowserDocument.cancelSampler
        (d.onPage (·.unlistenAll windows))).close) :
    (∃ taken stopped, Turnover d.page d'.page [] taken [] stopped) ∧
    (enlisted d'.page).Perm outside ∧
      (ticking d'.page).Perm alien := by
  obtain ⟨quiet, tallied⟩ := ensemble.tallied.unlistenAll
  obtain ⟨⟨taken, stopped, cancelled⟩, others⟩ := tallied.cancelAll (Browser.samplers s)
  have idle :
      ∀ gauge ∈
        (gauges
          ((Browser.samplers s).foldl BrowserDocument.cancelSampler
            (d.onPage (·.unlistenAll windows)))).toList,
        gauge.2 = (none, []) := by
    intro gauge inside
    obtain ⟨i, hi, rfl⟩ := Array.mem_iff_getElem.1 (Array.mem_toList_iff.1 inside)
    by_contra busy
    obtain ⟨there, apart⟩ := others i _ (Array.getElem?_eq_getElem hi) busy
    exact apart (mem_samplers (ensemble.gauge_owned there busy))
  obtain ⟨⟨_, closed⟩, listeners, timers⟩ := (tallied.transaction cancelled).close idle
  rw [left]
  exact ⟨⟨_, _, (quiet.trans cancelled.toTurnover).trans closed⟩, listeners, timers⟩

/-- The page has what it had before, all that was made since was taken back once, and no frame is
asked for. -/
structure Cleared (before : Page) (b : Browser) : Prop where
  listeners : (enlisted b.page).Perm (enlisted before)
  timers : (ticking b.page).Perm (ticking before)
  frames : b.animation.pending = []
  ledger : ∃ made removed started halted, Ledger before b.page made removed started halted ∧
    removed.Perm made ∧ halted.Perm started

lemma AtHome.cleared (home : AtHome g page windows b) (looped : Looped b.animation) :
    Cleared page b.unmount := by
  obtain ⟨m, hm, rfl, ⟨past, h, ensemble⟩, made, removed, started, halted, ledger⟩ :=
    home.animate Animation.drop
  have hm : b.mounted = some m := hm
  have document :
      b.unmount.document = ((Browser.samplers m.chassis.scene).foldl BrowserDocument.cancelSampler
        ((b.animate Animation.drop).document.onPage (·.unlistenAll m.listeners))).close := by
    unfold Browser.unmount
    rw [hm]
    rfl
  have animation : b.unmount.animation = { b.animation.stop.2 with callback := none } := by
    unfold Browser.unmount
    rw [hm]
    rfl
  obtain ⟨⟨taken, stopped, turnover⟩, listeners, timers⟩ := ensemble.leave document
  have final := ledger.turnover turnover
  refine ⟨listeners, timers, by rw [animation]; exact looped.stop.1, _, _, _, _, final, ?_, ?_⟩
  · exact ((List.perm_append_left_iff _).1 (final.listeners.trans (listeners.append_right _))).symm
  · exact ((List.perm_append_left_iff _).1 (final.intervals.trans (timers.append_right _))).symm

end Leaving

/-! ## Stays -/

section Stays

variable {g : Ground} {past : List CoreCall} {page : Page} {outside windows : List Registration}
  {alien : List Nat} {s : Scene}
  {h : MemoryHost Recorder} {d : BrowserDocument} {b : Browser} {selector : String}
  {config : Config} {x : ElementId}

/-- What a chassis has on its page, what a patch would make and take back, and that an unmount would
leave nothing. -/
structure WellKept (page : Page) (m : Mounted) (b : Browser) : Prop where
  windows : ∀ r ∈ m.listeners, r.target = .window
  upkept : Upkept (enlisted page ++ m.listeners) (ticking page) m.chassis.scene b.document
  frames : b.animation.pending.length = if b.animation.running then 1 else 0
  ledger : ∃ made removed started halted, Ledger page b.page made removed started halted
  patches : ∀ p result b', putPatch p b = .ok (result, b') → ∃ verdict m', result = some verdict ∧
    b'.mounted = some m' ∧
    ∃ made taken started stopped, Turnover b.page b'.page made taken started stopped ∧
      Settles m.chassis.scene m'.chassis.scene b.document b'.document made taken
        started stopped p verdict
  unmounted : Cleared page b.unmount

lemma Looped.pending_length {a : Animation} (looped : Looped a) :
    a.pending.length = if a.running then 1 else 0 := by
  split
  · next running =>
    obtain ⟨_, _, pending⟩ := looped.running running
    rw [pending]
    rfl
  · next still =>
    rw [looped.stopped (Bool.eq_false_of_not_eq_true still)]
    rfl

lemma AtHome.exists_wellKept (home : AtHome g page windows b) (looped : Looped b.animation)
    (listening : ∀ r ∈ windows, r.target = .window) :
    ∃ m, b.mounted = some m ∧ WellKept page m b := by
  obtain ⟨m, hm, rfl, ⟨past, h, ensemble⟩, ledger⟩ := id home
  refine ⟨m, hm, listening, ensemble.upkept, looped.pending_length, ledger, fun p result b' run =>
    ?_, home.cleared looped⟩
  obtain ⟨verdict, chassis, d', driven, rfl, rfl⟩ := drive_inv hm run
  obtain ⟨s', applied, rfl⟩ := onScene_inv driven
  obtain ⟨_, made, taken, started, stopped, turnover, settles⟩ := ensemble.apply applied
  exact ⟨verdict, _, rfl, rfl, made, taken, started, stopped, turnover, settles⟩

lemma inSeries_fresh : InSeries .fresh :=
  ⟨rfl, ⟨rfl, rfl⟩, .nil, fun _ hr => absurd hr List.not_mem_nil, .nil, fun _ hid =>
    absurd hid List.not_mem_nil⟩

section Wordings

variable [Wording]

/-- As long as a chassis stays on a page it is at home there, and its loop is in order. -/
theorem Stay.atHome (stay : Stay page selector config b)
    (found : Browser.findMount page selector = .ok x) (whole : WholePage page x)
    (able : page.lacks .createElement = false) (orderly : InSeries page) :
    ∃ windows, (∀ r ∈ windows, r.target = .window) ∧
      AtHome (ground page x False) page windows b ∧ Looped b.animation := by
  induction stay with
  | mounted run => exact atHome_mount found whole able orderly run
  | occurred next _ run ih =>
    obtain ⟨windows, listening, home, looped⟩ := ih
    exact ⟨windows, listening, next.occur_inv home looped run⟩
  | elsewhere _ elsewhere ih =>
    obtain ⟨windows, listening, home, looped⟩ := ih
    exact ⟨windows, listening, home.rests (rests_of_page elsewhere) rfl, looped⟩

/-- On every page on which listeners and timers can be added, whatever happens to a chassis that was
mounted there. -/
theorem wellKept_of_stay (found : Browser.findMount page selector = .ok x)
    (whole : WholePage page x) (able : page.lacks .createElement = false) (orderly : InSeries page)
    (stay : Stay page selector config b) :
    ∃ m, b.mounted = some m ∧ WellKept page m b := by
  obtain ⟨windows, listening, home, looped⟩ := stay.atHome found whole able orderly
  exact home.exists_wellKept looped listening

lemma Stay.occurAll {occasions : List Occasion} {b' : Browser} (stay : Stay page selector config b)
    (run : occasions.forM Occasion.occur b = .ok ((), b')) : Stay page selector config b' := by
  induction occasions generalizing b with
  | nil =>
    cases run
    exact stay
  | cons next occasions ih =>
    obtain ⟨_, b₁, first, rest⟩ := browser_bind_inv run
    exact ih (stay.occurred next first) rest

/-- What becomes of a chassis that is mounted on a page, if all goes well. -/
def sojourn (page : Page) (selector : String) (config : Config) (occasions : List Occasion) :
    Option Browser :=
  match Browser.mount selector config (.start page) with
  | .ok (.ok (), b) =>
    match occasions.forM Occasion.occur b with
    | .ok ((), b) => some b
    | .error _ => none
  | _ => none

lemma stay_of_sojourn {occasions : List Occasion}
    (run : sojourn page selector config occasions = some b) :
    Stay page selector config b := by
  unfold sojourn at run
  split at run
  · next mounted =>
    split at run
    · next occurred =>
      cases run
      exact (Stay.mounted mounted).occurAll occurred
    · cases run
  · cases run

/-- The page runs its tasks, and then ends all waits. -/
def loadedAndWoken (b : Browser) : Browser := b.onPage fun p => p.settle.wake

/-- What a page loads for a chassis it loads beside it, as long as no node of the chassis is the
head of the page. -/
lemma Stay.loadedAndWoken (stay : Stay page selector config b)
    (apart : ∀ slot ∈ b.document.slots.toList, slot.element ≠ Page.head) :
    Stay page selector config (loadedAndWoken b) := by
  have displayed : ∀ x, Displayed b.document x → x ≠ Page.head := by
    rintro x ⟨n, shown⟩
    obtain ⟨slot, held, rfl⟩ := Option.map_eq_some_iff.1 shown
    exact apart slot (Array.mem_toList_iff.2 (Array.mem_of_getElem? held))
  exact stay.elsewhere ((elsewhere_settle displayed).trans elsewhere_wake)

end Wordings

/-- A scroller and a button are created, an image is asked for, a frame goes by, a scroller is
refused for want of its frame, the first scroller is deleted, and another one is created. The page
fails to load the image, and is about to try again. -/
theorem wellKept_after_refusal :
    ∃ (_ : Wording) (b : Browser) (m : Mounted), Stay .fresh "#app" .standard b ∧
    b.mounted = some m ∧ b.page.ready.length = 1 ∧ ticking b.page = [3] ∧
    (enlisted b.page).map (·.serial) = List.range 16 ++ [18, 21, 22] ∧
    (m.chassis.scene.elements.toList.map fun p => (p.1, p.2.widget)) =
      [(2, .button), (4, .scroller)] ∧ WellKept .fresh m b := by
  let words : Wording := ⟨fun _ => "", fun _ _ => ""⟩
  have run :
    (sojourn .fresh "#app" .standard [.patch (.create .scroller ⟨1, none, 0⟩),
      .patch (.create .button ⟨2, none, 0⟩), .patch (.loadImage 7 "cover.png"), .frame 16, .timers,
      .patch (.create .scroller ⟨3, some 9, 0⟩), .patch (.delete .scroller 1),
      .patch (.create .scroller ⟨4, none, 1⟩)]).any (fun b =>
        (b.document.slots.toList.all fun slot => slot.element ≠ Page.head) &&
        decide ((loadedAndWoken b).page.ready.length = 1 ∧ ticking (loadedAndWoken b).page = [3] ∧
          (enlisted (loadedAndWoken b).page).map (·.serial) = List.range 16 ++ [18, 21, 22]) &&
        decide
          ((b.mounted.map fun m => m.chassis.scene.elements.toList.map fun p => (p.1, p.2.widget)) =
            some [(2, .button), (4, .scroller)])) = true := by decide +kernel
  obtain ⟨b, there, facts⟩ := (Option.any_eq_true _ _).1 run
  simp only [Bool.and_eq_true, decide_eq_true_eq] at facts
  obtain ⟨⟨apart, ready, timers, listeners⟩, elements⟩ := facts
  have stay : Stay .fresh "#app" .standard (loadedAndWoken b) :=
    (stay_of_sojourn there).loadedAndWoken fun slot inside =>
      of_decide_eq_true (List.all_eq_true.1 apart slot inside)
  have found : Browser.findMount .fresh "#app" = .ok ⟨3⟩ := by decide +kernel
  obtain ⟨m, hm, kept⟩ := wellKept_of_stay found wholePage_fresh rfl inSeries_fresh stay
  have mounted : b.mounted = some m := hm
  rw [mounted] at elements
  exact ⟨words, _, m, stay, hm, ready, timers, listeners, Option.some.inj elements, kept⟩

end Stays

end LayeredPage.Proofs
