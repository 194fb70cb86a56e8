import LayeredPage.Proofs.Retouching

/-!
# What sliders show

A slider writes a value that differs from the one it wrote last. In between the user may have set
the control to anything, and an update with the value written last leaves it there.
-/

namespace LayeredPage.Proofs

open Craft Styling

/-- The same number; zero is one number, whatever its sign. -/
def SameNumber (x y : Float) : Prop := x = y ∨ x = 0 ∧ y = -0 ∨ x = -0 ∧ y = 0

/-- The number that a slider wrote last, and what its control shows. -/
structure Dial where
  written : Option Float
  text : String

namespace Dial

/-- An update writes a number that is new, and the user sets the control to anything. -/
def after (dial : Dial) : Incident → Dial
  | .updated (.slider c) =>
    ⟨(fresh dial.written c.value).or dial.written,
      ((fresh dial.written c.value).map Number.styleText).getD dial.text⟩
  | .entered spot (.value text) => if spot = .part 0 then { dial with text } else dial
  | _ => dial

/-- What a slider has come to, after all that befell it. -/
def ofLife (past : List Incident) : Dial := past.foldr (fun i dial => dial.after i) ⟨none, ""⟩

lemma ofLife_cons (i : Incident) (past : List Incident) :
    ofLife (i :: past) = (ofLife past).after i := rfl

/-- The control shows the number that was written last. -/
def Faithful (dial : Dial) : Prop := ∀ x ∈ dial.written, dial.text = Number.styleText x

end Dial

section Numbers

variable {x y : Float} {cached : Option Float}

lemma sameNumber_of_beq (same : (x == y) = true) : SameNumber x y :=
  (Float.beq_iff_ne_nan_and_eq.1 same).2.2

lemma SameNumber.symm (same : SameNumber x y) : SameNumber y x := by
  rcases same with rfl | ⟨rfl, rfl⟩ | ⟨rfl, rfl⟩
  · exact .inl rfl
  · exact .inr (.inr ⟨rfl, rfl⟩)
  · exact .inr (.inl ⟨rfl, rfl⟩)

lemma fresh_of_new (new : ∀ y ∈ cached, (x == y) = false) : fresh cached (some x) = some x := by
  cases cached with
  | none => rfl
  | some y => exact if_pos (congrArg not (new y rfl))

lemma fresh_of_same (same : (x == y) = true) : fresh (some y) (some x) = none := by
  refine if_neg fun new => ?_
  change (!(x == y)) = true at new
  rw [same] at new
  cases new

/-- A number is new, or the one that was written last. -/
lemma fresh_cases (cached : Option Float) (x : Float) :
    fresh cached (some x) = some x ∨ fresh cached (some x) = none ∧ ∃ y, cached = some y ∧
      SameNumber x y := by
  by_cases new : ∀ y ∈ cached, (x == y) = false
  · exact .inl (fresh_of_new new)
  · push Not at new
    obtain ⟨y, rfl, same⟩ := new
    have same := Bool.eq_true_of_not_eq_false same
    exact .inr ⟨fresh_of_same same, y, rfl, sameNumber_of_beq same⟩

end Numbers

/-- What a slider remembers is what it wrote, and its control shows it, but for the value that the
user set. -/
structure Displays (dial : Dial) (cache : SliderCache) (f : FormState) : Prop where
  written : cache.value = dial.written
  value : f.value = dial.text
  min : f.min = cache.min
  max : f.max = cache.max
  step : f.step = cache.step

/-- What a slider holds after one more update. -/
def told (cache : SliderCache) (c : SliderChange) (f : FormState) : FormState :=
  { f with
    min := (news cache c).min.or f.min
    max := (news cache c).max.or f.max
    step := (news cache c).step.or f.step
    value := ((news cache c).value.map Number.styleText).getD f.value }

/-- A slider is as its life says. -/
def Dialled (past : List Incident) (t : Likeness) : Prop :=
  ∃ g, t.parts = [g] ∧ Displays (Dial.ofLife past) t.notes.slider g.form

section Lives

variable {past : List Incident} {t t' : Likeness} {dial : Dial} {cache : SliderCache}
  {f : FormState}

lemma Displays.told (shows : Displays dial cache f) (c : SliderChange) :
    Displays (dial.after (.updated (.slider c))) (SliderCache.told cache (news cache c))
      (told cache c f) where
  written := by
    rw [Dial.after, ← shows.written]
    rfl
  value := by
    rw [Dial.after, ← shows.written, ← shows.value]
    rfl
  min := congrArg (Option.or _) shows.min
  max := congrArg (Option.or _) shows.max
  step := congrArg (Option.or _) shows.step

lemma Dialled.updated {c : SliderChange} (dialled : Dialled past t)
    (painted : paint (updateSlider c) t = some ((), t')) :
    Dialled (.updated (.slider c) :: past) t' := by
  obtain ⟨notes, scroll, watched, leaf, parts, options⟩ := t
  obtain ⟨g, rfl, shows⟩ := dialled
  rw [paint_slider] at painted
  cases painted
  exact ⟨_, rfl, shows.told c⟩

/-! ### The user at a slider -/

lemma parts_set {g : Figure} (one : t.parts = [g]) (spot : Spot) (property : FormProperty) :
    (t.set spot property).parts = if spot = .part 0 then [g.written (.form property)] else [g] := by
  unfold Likeness.set Likeness.drawn
  cases spot with
  | leaf => exact one
  | option i =>
    dsimp only
    split <;> exact one
  | part i => cases i <;> simp [one]

lemma notes_set (t : Likeness) (spot : Spot) (property : FormProperty) :
    (t.set spot property).notes = t.notes := by
  unfold Likeness.set Likeness.drawn
  cases spot <;> dsimp only <;> split <;> rfl

/-- Something is set, and the slider comes to another dial with it. -/
lemma Dialled.set {past' : List Incident} (dialled : Dialled past t) (spot : Spot)
    (property : FormProperty) (elsewhere : spot ≠ .part 0 → Dial.ofLife past' = Dial.ofLife past)
    (here : spot = .part 0 → ∀ cache f, Displays (Dial.ofLife past) cache f →
      Displays (Dial.ofLife past') cache (f.set property)) :
    Dialled past' (t.set spot property) := by
  obtain ⟨g, one, shows⟩ := dialled
  by_cases at_control : spot = .part 0
  · refine ⟨_, (parts_set one spot property).trans (if_pos at_control), ?_⟩
    rw [notes_set]
    exact here at_control _ _ shows
  · refine ⟨g, (parts_set one spot property).trans (if_neg at_control), ?_⟩
    rw [notes_set, elsewhere at_control]
    exact shows

theorem abiding_dialled : Abiding .slider Dialled where
  born config id := by
    refine ⟨_, rfl, _, rfl, rfl, rfl, rfl, rfl, rfl⟩
  moved past depth tab t dialled := by
    obtain ⟨g, one, shows⟩ := dialled
    refine ⟨g.tabbed tab, by rw [Likeness.restacked, one]; rfl, ?_⟩
    have form : (g.tabbed tab).form = g.form := by
      unfold Figure.tabbed
      split <;> rfl
    rw [form]
    exact shows
  updated past id change t t' kind dialled painted := by
    cases change with
    | slider c => exact dialled.updated painted
    | _ => cases kind
  entered past spot entry t dialled := by
    cases entry with
    | value text =>
      refine dialled.set spot (.value text) (fun elsewhere => if_neg elsewhere)
        fun here cache f shows => ?_
      rw [show Dial.ofLife (.entered spot (.value text) :: past) =
        { Dial.ofLife past with text } from if_pos here]
      exact { shows with value := rfl }
    | checked state =>
      exact dialled.set spot (.checked state) (fun _ => rfl) fun _ _ _ shows => { shows with }
    | selected n =>
      exact dialled.set spot (.selectedIndex n) (fun _ => rfl) fun _ _ _ shows => { shows with }
    | scrolled left top =>
      have left_set : Dialled past (t.set spot (.scrollLeft left)) :=
        dialled.set spot (.scrollLeft left) (fun _ => rfl) fun _ _ _ shows => { shows with }
      exact left_set.set spot (.scrollTop top) (fun _ => rfl) fun _ _ _ shows => { shows with }
  fired past spot name value t dialled :=
  ⟨dialled, fun state => dialled.set spot (.checked state) (fun _ => rfl) fun _ _ _ shows =>
    { shows with }⟩

end Lives

/-- What the control of an element shows. -/
def shown (e : Element) (d : MemoryDocument) : Option String :=
  (e.part? 0).bind fun n => (d.node? n).map (·.form.value)

section Results

variable {κ : Type} [Core κ] {base : Nat} {mount : NodeId} {config : Config} {h₀ h : MemoryHost κ}
  {s : Scene} {deeds : List Deed} {id : UInt32} {e : Element}

omit [Core κ] in
lemma InUse.shown (inUse : InUse base mount s h) (found : s.elements[id]? = some e) {g : Figure}
    (one : (likeness e h.document).parts = [g]) :
    Proofs.shown e h.document = some g.form.value := by
  obtain ⟨n, parts, rfl⟩ := List.map_eq_singleton_iff.1 one
  have place : e.part? 0 = some n.id := by rw [Element.part?, parts]; rfl
  have issued := inUse.issued found (.part 0)
  rw [Element.node, place, Option.getD_some] at issued
  obtain ⟨node, there⟩ := issued_iff.1 issued
  rw [Proofs.shown, place, Option.bind_some, there]
  exact congrArg (fun face => some face.form.value) (face_of_node? there).symm

/-- A live slider takes every update, and then shows what its life says. -/
lemma InUse.told (inUse : InUse base mount s h) (found : s.elements[id]? = some e)
    (slider : e.widget = .slider) {past : List Incident}
    (dialled : Dialled past (likeness e h.document)) (c : SliderChange) :
    ∃ s' h' e', MemoryHost.patch (Scene.apply (.update id (.slider c))) s h =
      .ok ((.ok (), s'), h') ∧ s'.elements[id]? = some e' ∧
      Proofs.shown e' h'.document =
        some ((Dial.ofLife past).after (.updated (.slider c))).text := by
  obtain ⟨s', h', e', run, inUse', there, _, painted⟩ := inUse.update found (.slider c) slider
  obtain ⟨g, one, shows⟩ := dialled.updated painted
  exact ⟨s', h', e', run, there, (inUse'.shown there one).trans (congrArg some shows.value)⟩

/-- In every scene in use, an update of a slider that carries a value is accepted. The control then
shows the value, unless it equals the one written last: then it shows what it showed before. If that
was the value written last, it thus shows the value of the update in either case; if the user set it
to something else, it does not. -/
theorem slider_value_of_usage (reached : Reached h₀.document) (there : h₀.document.issued mount)
    (usage : Usage mount config h₀ deeds s h) (found : s.elements[id]? = some e)
    (slider : e.widget = .slider) (c : SliderChange) (x : Float) (carries : c.value = some x) :
    ∃ s' h' e', MemoryHost.patch (Scene.apply (.update id (.slider c))) s h =
      .ok ((.ok (), s'), h') ∧ s'.elements[id]? = some e' ∧
      ((∀ y ∈ (Dial.ofLife (life deeds id)).written, (x == y) = false) →
        shown e' h'.document = some (Number.styleText x)) ∧
      (∀ y ∈ (Dial.ofLife (life deeds id)).written, (x == y) = true →
        shown e' h'.document = shown e h.document) ∧
      ((∀ y ∈ (Dial.ofLife (life deeds id)).written, shown e h.document =
        some (Number.styleText y)) →
        ∃ y, SameNumber x y ∧ shown e' h'.document = some (Number.styleText y)) := by
  have inUse := usage.inUse reached there
  have dialled : Dialled (life deeds id) (likeness e h.document) :=
    abiding_dialled.abides usage reached there id e found slider
  obtain ⟨s', h', e', run, found', shows⟩ := inUse.told found slider dialled c
  obtain ⟨g, one, before⟩ := dialled
  have shown₀ := (inUse.shown found one).trans (congrArg some before.value)
  rw [Dial.after, carries] at shows
  refine ⟨s', h', e', run, found', fun new => ?_, fun y written same => ?_, fun faithful => ?_⟩
  · rw [shows, fresh_of_new new]
    rfl
  · rw [shows, shown₀, written, fresh_of_same same]
    rfl
  · rcases fresh_cases (Dial.ofLife (life deeds id)).written x with new | ⟨stale, y, written, same⟩
    · rw [shows, new]
      exact ⟨x, .inl rfl, rfl⟩
    · rw [shows, stale]
      exact ⟨y, same, shown₀ ▸ faithful y written⟩

/-- An update that carries a value alone. -/
def valued (x : Float) : SliderChange :=
  ⟨⟨none, none, none⟩, some x, none, none, none, none, none, none⟩

/-- The user moves a slider from 2 to 7, and the core moves it on to 3. -/
theorem slider_moves_on :
    ∃ (deeds : List Deed) (s s' : Scene) (h h' : MemoryHost Recorder) (e' : Element),
    Usage ⟨0⟩ .standard blankPage deeds s h ∧
      MemoryHost.patch (Scene.apply (.update 1 (.slider (valued 3)))) s h = .ok ((.ok (), s'), h') ∧
      s'.elements[(1 : UInt32)]? = some e' ∧ shown e' h'.document = some "3" := by
  have run : (used ⟨0⟩ .standard blankPage [.patch (.create .slider ⟨1, none, 0⟩),
      .patch
        (.update 1 (.slider ⟨⟨none, none, none⟩, some 2, none, some 0, some 10, none, none, none⟩)),
      .enter 1 (.part 0) (.value "7"), .fire 1 (.part 0) "input" (.number 7)]).map
      (fun r => (r.2.elements[(1 : UInt32)]?.map (·.widget), (Dial.ofLife (life r.1 1)).written)) =
        some (some .slider, some 2) := by
    decide +kernel
  obtain ⟨⟨deeds, s⟩, start, facts⟩ := Option.map_eq_some_iff.1 run
  obtain ⟨alive, written⟩ : s.elements[(1 : UInt32)]?.map (·.widget) = some .slider ∧
      (Dial.ofLife (life deeds 1)).written = some 2 := by
    simpa using facts
  obtain ⟨h, usage⟩ := exists_usage start
  obtain ⟨e, found, kind⟩ := Option.map_eq_some_iff.1 alive
  obtain ⟨s', h', e', step, found', shows, _⟩ :=
    slider_value_of_usage reached_blankPage rfl usage found kind (valued 3) 3 rfl
  refine ⟨deeds, s, s', h, h', e', usage, step, found',
    (shows fun y same => ?_).trans (by decide +kernel)⟩
  obtain rfl : 2 = y := Option.some.inj (written.symm.trans same)
  decide +kernel

/-- The user moves a slider from 2 to 7, and the core cannot move it back. -/
theorem slider_keeps_what_the_user_set :
    ∃ (deeds : List Deed) (s s' : Scene) (h h' : MemoryHost Recorder) (e' : Element),
    Usage ⟨0⟩ .standard blankPage deeds s h ∧
      MemoryHost.patch (Scene.apply (.update 1 (.slider (valued 2)))) s h = .ok ((.ok (), s'), h') ∧
      s'.elements[(1 : UInt32)]? = some e' ∧ shown e' h'.document = some "7" ∧
      Number.styleText 2 = "2" := by
  have run : (used ⟨0⟩ .standard blankPage [.patch (.create .slider ⟨1, none, 0⟩),
      .patch
        (.update 1 (.slider ⟨⟨none, none, none⟩, some 2, none, some 0, some 10, none, none, none⟩)),
      .enter 1 (.part 0) (.value "7"), .fire 1 (.part 0) "input" (.number 7)]).map
      (fun r =>
        (r.2.elements[(1 : UInt32)]?.map (·.widget), (Dial.ofLife (life r.1 1)).written,
          (Dial.ofLife (life r.1 1)).text)) =
      some (some .slider, some 2, "7") := by
    decide +kernel
  obtain ⟨⟨deeds, s⟩, start, facts⟩ := Option.map_eq_some_iff.1 run
  obtain ⟨alive, written, entered⟩ : s.elements[(1 : UInt32)]?.map (·.widget) = some .slider ∧
      (Dial.ofLife (life deeds 1)).written = some 2 ∧ (Dial.ofLife (life deeds 1)).text = "7" := by
    simpa using facts
  obtain ⟨h, usage⟩ := exists_usage start
  obtain ⟨e, found, kind⟩ := Option.map_eq_some_iff.1 alive
  obtain ⟨s', h', e', step, found', shows⟩ := (usage.inUse reached_blankPage rfl).told found kind
    (abiding_dialled.abides usage reached_blankPage rfl 1 e found kind) (valued 2)
  refine ⟨deeds, s, s', h, h', e', usage, step, found', shows.trans ?_, by decide +kernel⟩
  have moved : Dial.ofLife (life deeds 1) = ⟨some 2, "7"⟩ := by
    rw [← written, ← entered]
  rw [moved]
  decide +kernel

end Results

end LayeredPage.Proofs
