import LayeredPage.Proofs.Sliders

/-!
# Updates that coalesce

Updates without text styles come to the same one by one as at once, in one update that carries for
each field what came last. For sliders that holds as long as they show what they wrote.
-/

namespace LayeredPage.Proofs

open Craft Styling

/-! ## What counts as the same -/

/-- The same text, or texts of one number. -/
def SameText (a b : String) : Prop :=
  a = b ∨ ∃ x y, SameNumber x y ∧ a = Number.styleText x ∧ b = Number.styleText y

/-- The same form state, but for the signs of zeros. -/
structure SameForm (f f' : FormState) : Prop where
  value : SameText f.value f'.value
  min : Option.Rel SameNumber f.min f'.min
  max : Option.Rel SameNumber f.max f'.max
  step : Option.Rel SameNumber f.step f'.step
  rest : { f with value := f'.value, min := f'.min, max := f'.max, step := f'.step } = f'

structure SameFigure (g g' : Figure) : Prop where
  form : SameForm g.form g'.form
  rest : { g with form := g'.form } = g'

/-- Elements that look the same, but for the signs of zeros in their forms. -/
structure Coincide (t t' : Likeness) : Prop where
  leaf : t.leaf = t'.leaf
  parts : List.Forall₂ SameFigure t.parts t'.parts
  options : t.options = t'.options

section Sameness

variable {x y z : Float}

lemma SameNumber.refl (x : Float) : SameNumber x x := .inl rfl

lemma SameNumber.trans (first : SameNumber x y) (second : SameNumber y z) : SameNumber x z := by
  rcases first with rfl | ⟨rfl, rfl⟩ | ⟨rfl, rfl⟩
  · exact second
  · rcases second with rfl | ⟨_, rfl⟩ | ⟨_, rfl⟩
    · exact .inr (.inl ⟨rfl, rfl⟩)
    · exact .inr (.inl ⟨rfl, rfl⟩)
    · exact .inl rfl
  · rcases second with rfl | ⟨_, rfl⟩ | ⟨_, rfl⟩
    · exact .inr (.inr ⟨rfl, rfl⟩)
    · exact .inl rfl
    · exact .inr (.inr ⟨rfl, rfl⟩)

lemma sameNumbers_refl (x : Option Float) : Option.Rel SameNumber x x := by
  cases x with
  | none => exact .none
  | some x => exact .some (.refl x)

lemma Coincide.refl (t : Likeness) : Coincide t t :=
  have same (f : FormState) : SameForm f f :=
    ⟨.inl rfl, sameNumbers_refl _, sameNumbers_refl _, sameNumbers_refl _, rfl⟩
  ⟨rfl, List.forall₂_same.2 fun g _ => ⟨same g.form, rfl⟩, rfl⟩

end Sameness

/-! ## Updates in turn -/

/-- What updates make of a likeness, one after another. -/
def Repainted (id : UInt32) : List Change → Likeness → Likeness → Prop
  | [], t, t' => t' = t
  | c :: cs, t, t'' => ∃ t', paint (Craft.update id c) t = some ((), t') ∧ Repainted id cs t' t''

/-- Updates that were accepted, latest first. -/
def accepted (id : UInt32) (changes : List Change) : List Deed :=
  (changes.map fun c => .patched (.update id c) (.ok ())).reverse

section Turns

variable {κ : Type} [Core κ] {base : Nat} {mount : NodeId} {h : MemoryHost κ} {s : Scene}
  {deeds : List Deed} {id : UInt32}
  {e : Element} {changes : List Change} {first : Change} {rest : List Change} {t t' : Likeness}

/-- Updates for a live element are all accepted. -/
lemma InUse.updates (inUse : InUse base mount s h) (found : s.elements[id]? = some e)
    (deeds : List Deed) (changes : List Change) (kind : ∀ c ∈ changes, c.widget = e.widget) :
    ∃ s' h' e', act (changes.map fun c => .patch (.update id c)) (deeds, s) h =
      .ok ((accepted id changes ++ deeds, s'), h') ∧
      InUse base mount s' h' ∧ s'.elements[id]? = some e' ∧
      Repainted id changes (likeness e h.document) (likeness e' h'.document) := by
  induction changes generalizing s h e deeds with
  | nil => exact ⟨s, h, e, rfl, inUse, found, rfl⟩
  | cons c changes ih =>
    obtain ⟨s₁, h₁, e₁, run, inUse₁, found₁, widget, painted⟩ :=
      inUse.update found c (kind c List.mem_cons_self).symm
    obtain ⟨s', h', e', runs, inUse', found', repainted⟩ := ih inUse₁ found₁
      (.patched (.update id c) (.ok ()) :: deeds) fun c' hc =>
        (kind c' (List.mem_cons_of_mem _ hc)).trans widget.symm
    refine ⟨s', h', e', ?_, inUse', found', _, painted, repainted⟩
    have step :
        (Act.patch (.update id c)).perform s h =
          .ok ((.patched (.update id c) (.ok ()), s₁), h₁) := by
      change (MemoryHost.patch (Scene.apply (.update id c)) s h).bind _ = _
      rw [run]
      rfl
    change ((Act.patch (.update id c)).perform s h).bind _ = _
    rw [step]
    refine runs.trans ?_
    simp [accepted]

/-- Retouching in turn comes to retouching once. -/
theorem foldl_retouched (same : ∀ c ∈ rest, c.widget = first.widget) :
    rest.foldl (fun t c => retouched c t) (retouched first t) =
      retouched (rest.foldl Change.followed first) t := by
  induction rest generalizing first with
  | nil => rfl
  | cons c rest ih =>
    have alike : first.widget = c.widget := (same c List.mem_cons_self).symm
    rw [List.foldl_cons, List.foldl_cons, retouched_retouched first c alike, ih fun c' hc => ?_]
    rw [widget_followed, same c' (List.mem_cons_of_mem _ hc), alike]

/-- Unadorned updates retouch an element in turn, but for a slider. -/
theorem Repainted.retouched (repainted : Repainted id changes t t')
    (plain : ∀ c ∈ changes, Unadorned c ∧ c.widget ≠ .slider ∧
      t.parts.length = partCount c.widget) :
    t' = changes.foldl (fun t c => Proofs.retouched c t) t := by
  induction changes generalizing t with
  | nil => exact repainted
  | cons c changes ih =>
    obtain ⟨t₁, painted, repainted⟩ := repainted
    obtain ⟨here, other, parts⟩ := plain c List.mem_cons_self
    have retouched : t₁ = Proofs.retouched c t := by
      rw [paint_plain id here other parts] at painted
      exact (Prod.mk.inj (Option.some.inj painted)).2.symm
    rw [List.foldl_cons, ← retouched]
    refine ih repainted fun c' hc => ?_
    rw [length_updated painted]
    exact plain c' (List.mem_cons_of_mem _ hc)

end Turns

/-! ## Sliders in turn -/

/-- The text of a number that was sent, or else the one from before. -/
def ReadsAs (sent : Option Float) (before now : String) : Prop :=
  match sent with
  | none => now = before
  | some x => ∃ y, SameNumber x y ∧ now = Number.styleText y

/-- A form state after an update, but for the signs of zeros. -/
structure Told (c : SliderChange) (f₀ f : FormState) : Prop where
  value : ReadsAs c.value f₀.value f.value
  min : Option.Rel SameNumber (c.min.or f₀.min) f.min
  max : Option.Rel SameNumber (c.max.or f₀.max) f.max
  step : Option.Rel SameNumber (c.step.or f₀.step) f.step
  rest : { f₀ with value := f.value, min := f.min, max := f.max, step := f.step } = f

/-- A slider after an update, but for the signs of zeros. -/
def AsTold (c : SliderChange) (t₀ t : Likeness) : Prop :=
  ∃ g₀ f, t₀.parts = [g₀] ∧
    t.parts = [(g₀.dressed (sliderWear c)).holding fun _ => f] ∧ Told c g₀.form f ∧
    t.leaf = t₀.leaf.dressed (moving c.geometry) ∧ t.options = t₀.options

section Sliders

variable {cached sent before now : Option Float} {c c' : SliderChange} {f₀ f : FormState}
  {dial : Dial} {cache : SliderCache} {t₀ t t' : Likeness} {id : UInt32} {past : List Incident}

/-- A number is written, or it was there. -/
lemma rel_told (kept : now = cached) (same : Option.Rel SameNumber before now) :
    Option.Rel SameNumber (sent.or before) ((fresh cached sent).or now) := by
  subst kept
  cases sent with
  | none =>
    have idle : fresh now none = none := ite_self none
    rw [idle]
    exact same
  | some x =>
    rcases fresh_cases now x with new | ⟨stale, y, rfl, alike⟩
    · rw [new]
      exact .some (.refl x)
    · rw [stale]
      exact .some alike

lemma reads_told {before now : String} {last : Option Float}
    (faithful : ∀ y ∈ cached, now = Number.styleText y) (reads : ReadsAs last before now) :
    ReadsAs (sent.or last) before (((fresh cached sent).map Number.styleText).getD now) := by
  cases sent with
  | none =>
    have idle : fresh cached none = none := ite_self none
    rw [idle]
    exact reads
  | some x =>
    rcases fresh_cases cached x with new | ⟨stale, y, written, alike⟩
    · rw [new]
      exact ⟨x, .refl x, rfl⟩
    · rw [stale]
      exact ⟨y, alike, faithful y written⟩

lemma Displays.faithful (shows : Displays dial cache f) (faithful : dial.Faithful) :
    ∀ y ∈ cache.value, f.value = Number.styleText y := by
  rw [shows.written, shows.value]
  exact faithful

lemma told_first (shows : Displays dial cache f) (faithful : dial.Faithful) (c : SliderChange) :
    Told c f (told cache c f) where
  value := by
    have reads : ReadsAs (c.value.or none) f.value (told cache c f).value :=
      reads_told (shows.faithful faithful) rfl
    rwa [Option.or_none] at reads
  min := rel_told shows.min (sameNumbers_refl _)
  max := rel_told shows.max (sameNumbers_refl _)
  step := rel_told shows.step (sameNumbers_refl _)
  rest := rfl

lemma Told.next (before : Told c f₀ f) (shows : Displays dial cache f) (faithful : dial.Faithful)
    (c' : SliderChange) :
    Told (c.followed c') f₀ (told cache c' f) where
  value := reads_told (shows.faithful faithful) before.value
  min := by
    rw [SliderChange.followed, Option.or_assoc]
    exact rel_told shows.min before.min
  max := by
    rw [SliderChange.followed, Option.or_assoc]
    exact rel_told shows.max before.max
  step := by
    rw [SliderChange.followed, Option.or_assoc]
    exact rel_told shows.step before.step
  rest := by
    rw [← before.rest]
    rfl

lemma Dial.Faithful.after (faithful : dial.Faithful) (c : SliderChange) :
    (dial.after (.updated (.slider c))).Faithful := by
  intro x written
  change (fresh dial.written c.value).or dial.written = some x at written
  change ((fresh dial.written c.value).map Number.styleText).getD dial.text = Number.styleText x
  cases new : fresh dial.written c.value with
  | none =>
    rw [new] at written
    exact faithful x written
  | some y =>
    rw [new] at written
    exact congrArg Number.styleText (Option.some.inj written)

/-- An update of a slider that shows what it wrote. -/
lemma asTold_first (dialled : Dialled past t) (faithful : (Dial.ofLife past).Faithful)
    (painted : paint (updateSlider c) t = some ((), t')) :
    AsTold c t t' := by
  obtain ⟨notes, scroll, watched, leaf, parts, options⟩ := t
  obtain ⟨g, rfl, shows⟩ := dialled
  rw [paint_slider] at painted
  cases painted
  exact ⟨g, _, rfl, rfl, told_first shows faithful c, rfl, rfl⟩

/-- One more update. -/
lemma AsTold.next (before : AsTold c t₀ t) (dialled : Dialled past t)
    (faithful : (Dial.ofLife past).Faithful)
    (painted : paint (updateSlider c') t = some ((), t')) : AsTold (c.followed c') t₀ t' := by
  obtain ⟨notes, scroll, watched, leaf, parts, options⟩ := t
  obtain ⟨g₀, f, one₀, rfl, told, rfl, rfl⟩ := before
  obtain ⟨g, one, shows⟩ := dialled
  obtain rfl := List.singleton_inj.1 one
  rw [paint_slider] at painted
  cases painted
  refine ⟨g₀, _, one₀, ?_, told.next shows faithful c', dressed_moving .., rfl⟩
  rw [← dressed_slider]
  rfl

/-- Updates in turn come to what one update would say that carries what came last. -/
theorem AsTold.repainted {rest : List Change} (before : AsTold c t₀ t) (dialled : Dialled past t)
    (faithful : (Dial.ofLife past).Faithful)
    (repainted : Repainted id rest t t') (sliders : ∀ c ∈ rest, c.widget = .slider) :
    ∃ c', rest.foldl Change.followed (.slider c) = .slider c' ∧ AsTold c' t₀ t' := by
  induction rest generalizing c t past with
  | nil =>
    obtain rfl : t' = t := repainted
    exact ⟨c, rfl, before⟩
  | cons change rest ih =>
    obtain ⟨t₁, painted, repainted⟩ := repainted
    cases change with
    | slider c' =>
      exact ih (before.next dialled faithful painted) (dialled.updated painted)
        (faithful.after c') repainted fun x hx =>
        sliders x (List.mem_cons_of_mem _ hx)
    | _ => cases sliders _ List.mem_cons_self

/-- Two sliders that were told the same. -/
lemma AsTold.coincide (first : AsTold c t₀ t) (second : AsTold c t₀ t') : Coincide t t' := by
  obtain ⟨g₀, f, one, parts, told, leaf, options⟩ := first
  obtain ⟨g₀', f', one', parts', told', leaf', options'⟩ := second
  obtain rfl := List.singleton_inj.1 (one.symm.trans one')
  have numbers {sent x y : Option Float} (hx : Option.Rel SameNumber sent x)
      (hy : Option.Rel SameNumber sent y) : Option.Rel SameNumber x y := by
    cases hx with
    | none => exact hy
    | some same =>
      cases hy with
      | some same' => exact .some (same.symm.trans same')
  refine ⟨leaf.trans leaf'.symm, ?_, options.trans options'.symm⟩
  rw [parts, parts']
  refine .cons
    ⟨⟨?_, numbers told.min told'.min, numbers told.max told'.max, numbers told.step told'.step, ?_⟩,
      rfl⟩ .nil
  · have reads := told.value
    have reads' := told'.value
    change SameText f.value f'.value
    cases sent : c.value with
    | none =>
      rw [sent] at reads reads'
      exact .inl (reads.trans reads'.symm)
    | some x =>
      rw [sent] at reads reads'
      obtain ⟨y, same, text⟩ := reads
      obtain ⟨y', same', text'⟩ := reads'
      exact .inr ⟨y, y', same.symm.trans same', text, text'⟩
  · refine Eq.trans ?_ told'.rest
    rw [← told.rest]
    rfl

end Sliders

section Results

variable {κ : Type} [Core κ] {mount : NodeId} {config : Config} {h₀ h : MemoryHost κ} {s : Scene}
  {deeds : List Deed} {id : UInt32} {e : Element}

/-- The one update is of the same kind, and plain too. -/
lemma plain_once {first : Change} {rest : List Change} {kind : Widget}
    (plain : ∀ c ∈ first :: rest, c.widget = kind ∧ Unadorned c) :
    (rest.foldl Change.followed first).widget = kind ∧
    Unadorned (rest.foldl Change.followed first) := by
  induction rest generalizing first with
  | nil => exact plain first List.mem_cons_self
  | cons c rest ih =>
    obtain ⟨⟨kind₁, plain₁⟩, ⟨kind₂, plain₂⟩, others⟩ := by
      simpa only [List.forall_mem_cons] using plain
    refine ih
      (List.forall_mem_cons.2
        ⟨⟨(widget_followed first c).trans kind₂,
          plain₁.followed (kind₁.trans kind₂.symm) plain₂⟩, others⟩)

/-- Both ways come to the same for the likeness of an element. -/
theorem repainted_coincide {first : Change} {rest : List Change}
    {t t₁ t₂ : Likeness} {kind : Widget}
    (plain : ∀ c ∈ first :: rest, c.widget = kind ∧ Unadorned c)
    (parts : t.parts.length = partCount kind)
    (dial : kind = .slider → ∃ past, Dialled past t ∧ (Dial.ofLife past).Faithful)
    (turns : Repainted id (first :: rest) t t₁)
    (once : Repainted id [rest.foldl Change.followed first] t t₂) : Coincide t₁ t₂ := by
  obtain ⟨kind', plain'⟩ := plain_once plain
  by_cases slider : kind = .slider
  · obtain ⟨past, dialled, faithful⟩ := dial slider
    obtain ⟨t', painted, turns⟩ := turns
    obtain ⟨t'', painted', rfl⟩ := once
    have sliders : ∀ c ∈ first :: rest, c.widget = .slider :=
      fun c hc => (plain c hc).1.trans slider
    cases first with
    | slider c =>
      obtain ⟨c', both, told⟩ :=
        (asTold_first dialled faithful painted).repainted (dialled.updated painted)
          (faithful.after c) turns
        fun x hx => sliders x (List.mem_cons_of_mem _ hx)
      rw [both] at painted'
      exact told.coincide (asTold_first dialled faithful painted')
    | _ => cases sliders _ List.mem_cons_self
  · have ready (c : Change) (same : c.widget = kind) (plain : Unadorned c) :
        Unadorned c ∧ c.widget ≠ .slider ∧ t.parts.length = partCount c.widget := by
      rw [same]
      exact ⟨plain, slider, parts⟩
    have in_turn := turns.retouched fun c hc => ready c (plain c hc).1 (plain c hc).2
    have at_once := once.retouched fun c hc => by
      rw [List.mem_singleton.1 hc]
      exact ready _ kind' plain'
    have alike : ∀ c ∈ rest, c.widget = first.widget := fun c hc =>
      (plain c (List.mem_cons_of_mem _ hc)).1.trans (plain first List.mem_cons_self).1.symm
    obtain rfl : t₁ = t₂ := in_turn.trans ((foldl_retouched alike).trans at_once.symm)
    exact .refl t₁

/-- Updates of an element without text styles come to the same one by one as at once: they are all
accepted, and so is the one update that carries for each field what came last, and the element looks
the same after both. A slider must show what it wrote when they come. -/
theorem updates_coalesce (reached : Reached h₀.document) (there : h₀.document.issued mount)
    (usage : Usage mount config h₀ deeds s h)
    (found : s.elements[id]? = some e) (first : Change) (rest : List Change)
    (plain : ∀ c ∈ first :: rest, c.widget = e.widget ∧ Unadorned c)
    (showing : e.widget = .slider → ∀ x ∈ (Dial.ofLife (life deeds id)).written,
      shown e h.document = some (Number.styleText x)) :
    ∃ s₁ h₁ e₁ s₂ h₂ e₂,
      act ((first :: rest).map fun c => .patch (.update id c)) (deeds, s) h =
        .ok ((accepted id (first :: rest) ++ deeds, s₁), h₁) ∧
      act [.patch (.update id (rest.foldl Change.followed first))] (deeds, s) h =
        .ok ((accepted id [rest.foldl Change.followed first] ++ deeds, s₂), h₂) ∧
      s₁.elements[id]? = some e₁ ∧ s₂.elements[id]? = some e₂ ∧
      Coincide (likeness e₁ h₁.document) (likeness e₂ h₂.document) := by
  have inUse := usage.inUse reached there
  obtain ⟨s₁, h₁, e₁, turns, _, found₁, repainted₁⟩ :=
    inUse.updates found deeds (first :: rest) fun c hc => (plain c hc).1
  obtain ⟨s₂, h₂, e₂, single, _, found₂, repainted₂⟩ := inUse.updates found deeds
    [rest.foldl Change.followed first] fun c hc => by
      rw [List.mem_singleton.1 hc]
      exact (plain_once plain).1
  refine ⟨s₁, h₁, e₁, s₂, h₂, e₂, turns, single, found₁, found₂,
    repainted_coincide plain ?_ (fun slider => ?_) repainted₁ repainted₂⟩
  · refine (abiding_parts fun scroller => ?_).abides usage reached there id e found rfl
    obtain ⟨kind, plain⟩ := plain first List.mem_cons_self
    cases first with
    | text | radioSet | scroller => exact plain
    | _ => cases kind.trans scroller
  · have dialled : Dialled (life deeds id) (likeness e h.document) :=
      abiding_dialled.abides usage reached there id e found slider
    obtain ⟨g, one, shows⟩ := dialled
    refine ⟨life deeds id, ⟨g, one, shows⟩, fun x written => ?_⟩
    rw [← shows.value]
    exact Option.some.inj ((inUse.shown found one).symm.trans (showing slider x written))

/-- A slider that nobody touched is moved from 1 to 2, and back while it gets a bound. -/
theorem slider_updates_coalesce :
    ∃ (deeds : List Deed) (s s₁ s₂ : Scene) (h h₁ h₂ : MemoryHost Recorder) (e₁ e₂ : Element),
    Usage ⟨0⟩ .standard blankPage deeds s h ∧
      act ([.slider (valued 2), .slider { valued 1 with max := some 3 }].map fun c =>
        .patch (.update 1 c)) (deeds, s) h =
        .ok ((accepted 1 [.slider (valued 2), .slider { valued 1 with max := some 3 }] ++ deeds,
          s₁), h₁) ∧
      act [.patch (.update 1 ([.slider { valued 1 with max := some 3 }].foldl Change.followed
          (.slider (valued 2))))] (deeds, s) h =
        .ok ((accepted 1 [[.slider { valued 1 with max := some 3 }].foldl Change.followed
          (.slider (valued 2))] ++ deeds, s₂), h₂) ∧
      s₁.elements[(1 : UInt32)]? = some e₁ ∧ s₂.elements[(1 : UInt32)]? = some e₂ ∧
      Coincide (likeness e₁ h₁.document) (likeness e₂ h₂.document) := by
  have run :
      (used ⟨0⟩ .standard blankPage [.patch (.create .slider ⟨1, none, 0⟩),
        .patch (.update 1 (.slider (valued 1)))]).map
        (fun r =>
          (r.2.elements[(1 : UInt32)]?.map (·.widget), (Dial.ofLife (life r.1 1)).written,
            (Dial.ofLife (life r.1 1)).text)) =
        some (some .slider, some 1, Number.styleText 1) := by decide +kernel
  obtain ⟨⟨deeds, s⟩, start, facts⟩ := Option.map_eq_some_iff.1 run
  obtain ⟨alive, written, text⟩ : s.elements[(1 : UInt32)]?.map (·.widget) = some .slider ∧
      (Dial.ofLife (life deeds 1)).written = some 1 ∧ (Dial.ofLife (life deeds 1)).text =
        Number.styleText 1 := by
    simpa using facts
  obtain ⟨h, usage⟩ := exists_usage start
  obtain ⟨e, found, kind⟩ := Option.map_eq_some_iff.1 alive
  obtain ⟨g, one, shows⟩ := abiding_dialled.abides usage reached_blankPage rfl 1 e found kind
  have showing : shown e h.document = some (Number.styleText 1) := by
    rw [(usage.inUse reached_blankPage rfl).shown found one, shows.value, text]
  obtain ⟨s₁, h₁, e₁, s₂, h₂, e₂, turns, single, found₁, found₂, same⟩ :=
    updates_coalesce reached_blankPage rfl usage found
    (.slider (valued 2)) [.slider { valued 1 with max := some 3 }]
    (by
      rw [kind]
      exact List.forall_mem_cons.2 ⟨⟨rfl, trivial⟩, List.forall_mem_singleton.2 ⟨rfl, trivial⟩⟩)
    (fun _ x last => by
      obtain rfl : 1 = x := Option.some.inj (written.symm.trans last)
      exact showing)
  exact ⟨deeds, s, s₁, s₂, h, h₁, h₂, e₁, e₂, usage, turns, single, found₁, found₂, same⟩

/-- The user moves a slider from 1 to 7. Updates to 2 and to 1 move it back, and an update to 1 does
not. -/
theorem touched_slider_does_not_coalesce :
    ∃ (deeds deeds₁ deeds₂ : List Deed) (s s₁ s₂ : Scene) (h h₁ h₂ : MemoryHost Recorder)
    (e₁ e₂ : Element), Usage ⟨0⟩ .standard blankPage deeds s h ∧
      act [.patch (.update 1 (.slider (valued 2))), .patch (.update 1 (.slider (valued 1)))]
      (deeds, s) h = .ok ((deeds₁, s₁), h₁) ∧
      act [.patch (.update 1 (Change.followed (.slider (valued 2)) (.slider (valued 1))))]
      (deeds, s) h = .ok ((deeds₂, s₂), h₂) ∧
      s₁.elements[(1 : UInt32)]? = some e₁ ∧ s₂.elements[(1 : UInt32)]? = some e₂ ∧
      shown e₁ h₁.document = some "1" ∧ shown e₂ h₂.document = some "7" := by
  have run :
      (used ⟨0⟩ .standard blankPage [.patch (.create .slider ⟨1, none, 0⟩),
        .patch (.update 1 (.slider (valued 1))), .enter 1 (.part 0) (.value "7"),
        .fire 1 (.part 0) "input" (.number 7)]).map
        (fun r =>
          (r.2.elements[(1 : UInt32)]?.map (·.widget), (Dial.ofLife (life r.1 1)).written,
            (Dial.ofLife (life r.1 1)).text)) =
        some (some .slider, some 1, "7") := by decide +kernel
  obtain ⟨⟨deeds, s⟩, start, facts⟩ := Option.map_eq_some_iff.1 run
  obtain ⟨alive, written, text⟩ : s.elements[(1 : UInt32)]?.map (·.widget) = some .slider ∧
      (Dial.ofLife (life deeds 1)).written = some 1 ∧ (Dial.ofLife (life deeds 1)).text = "7" := by
    simpa using facts
  obtain ⟨h, usage⟩ := exists_usage start
  obtain ⟨e, found, kind⟩ := Option.map_eq_some_iff.1 alive
  have inUse := usage.inUse reached_blankPage rfl
  have dialled := abiding_dialled.abides usage reached_blankPage rfl 1 e found kind
  have moved : Dial.ofLife (life deeds 1) = ⟨some 1, "7"⟩ := by
    rw [← written, ← text]
  obtain ⟨s₁, h₁, e₁, turns, inUse₁, found₁, _, painted, _, painted', rfl⟩ :=
    inUse.updates found deeds
    [.slider (valued 2), .slider (valued 1)] (by
      rw [kind]
      exact List.forall_mem_cons.2 ⟨rfl, List.forall_mem_singleton.2 rfl⟩)
  obtain ⟨s₂, h₂, e₂, single, inUse₂, found₂, _, painted'', rfl⟩ := inUse.updates found deeds
    [Change.followed (.slider (valued 2)) (.slider (valued 1))] (by
      rw [kind]
      exact List.forall_mem_singleton.2 rfl)
  obtain ⟨g₁, one₁, shows₁⟩ := (dialled.updated painted).updated painted'
  obtain ⟨g₂, one₂, shows₂⟩ := dialled.updated painted''
  refine ⟨deeds, _, _, s, s₁, s₂, h, h₁, h₂, e₁, e₂, usage, turns, single, found₁, found₂, ?_, ?_⟩
  · rw [inUse₁.shown found₁ one₁, shows₁.value]
    rw [Dial.ofLife_cons, Dial.ofLife_cons, moved]
    decide +kernel
  · rw [inUse₂.shown found₂ one₂, shows₂.value]
    rw [Dial.ofLife_cons, moved]
    decide +kernel

end Results

end LayeredPage.Proofs
