import LayeredPage.Proofs.Portraits

/-!
# The bars of scrollers

A scroller shows a bar on an axis whose inner pane exceeds its outer size. Both sizes come in
updates, together or apart, and the last one sent of each kind counts. The bar is decided when the
size of the pane is sent, though, with the outer size that is known by then; an outer size that
comes alone afterwards is remembered, and has no effect on the bar.
-/

namespace LayeredPage.Proofs

open Craft

inductive Axis where
  | horizontal
  | vertical

/-- The sizes that an update brings on an axis. -/
structure Resizing where
  outer : Option Float
  inner : Option Float

namespace Axis

/-- The style that shows the bar. -/
def property : Axis → String
  | horizontal => "overflow-x"
  | vertical => "overflow-y"

def resizing : Axis → ScrollerChange → Resizing
  | horizontal, c => ⟨c.geometry.width, c.innerWidth⟩
  | vertical, c => ⟨c.geometry.height, c.innerHeight⟩

def size : Axis → ScrollRegion → Float
  | horizontal, r => r.width
  | vertical, r => r.height

/-- What the updates among some changes bring on an axis. -/
def resizings (a : Axis) (cs : List Change) : List Resizing :=
  cs.filterMap fun
    | .scroller c => some (a.resizing c)
    | _ => none

end Axis

/-- The outer size sent last. -/
def outerSize (rs : List Resizing) : Float := (rs.findSome? (·.outer)).getD 0

/-- The size of the inner pane sent last. -/
def innerSize? (rs : List Resizing) : Option Float := rs.findSome? (·.inner)

/-- The overflow that calls for the sizes sent last. -/
def due? (rs : List Resizing) : Option String :=
  (innerSize? rs).map fun inner => overflow inner (outerSize rs)

/-- What had been sent when the size of the pane was sent last. -/
def asOfPane (rs : List Resizing) : List Resizing := rs.dropWhile (·.inner.isNone)

/-- What has been sent since. -/
def sincePane (rs : List Resizing) : List Resizing := rs.takeWhile (·.inner.isNone)

section Sizes

variable {r : Resizing} {rs : List Resizing}

lemma innerSize?_asOfPane : innerSize? (asOfPane rs) = innerSize? rs := by
  induction rs with
  | nil => rfl
  | cons r rs ih =>
    cases inner : r.inner with
    | none => simpa [asOfPane, innerSize?, inner] using ih
    | some size => simp [asOfPane, innerSize?, inner]

/-- The bar is as it should be unless an outer size came after the last size of the pane. -/
lemma due?_asOfPane (alone : ∀ r ∈ sincePane rs, r.outer = none) :
    due? (asOfPane rs) = due? rs := by
  have outer : outerSize (asOfPane rs) = outerSize rs := by
    have parts : sincePane rs ++ asOfPane rs = rs := List.takeWhile_append_dropWhile
    have nothing : (sincePane rs).findSome? (·.outer) = none := List.findSome?_eq_none_iff.2 alone
    rw [← parts, outerSize, outerSize, List.findSome?_append, nothing, Option.none_or, parts]
  rw [due?, due?, innerSize?_asOfPane, outer]

/-- The sizes known after one more update. -/
lemma outerSize_cons : outerSize (r :: rs) = r.outer.getD (outerSize rs) := by
  cases outer : r.outer <;> simp [outerSize, outer]

lemma due?_asOfPane_cons :
    due? (asOfPane (r :: rs)) = (r.inner.map fun inner => overflow inner (outerSize (r :: rs))).or
      (due? (asOfPane rs)) := by
  cases inner : r.inner with
  | none => simp [asOfPane, inner]
  | some size => simp [asOfPane, due?, innerSize?, inner]

end Sizes

section Crafts

open Styling

variable {t : Sketch} {colours : String → Prop}

lemma faint_style (spot : Spot) {property : String} (value : String) (known : colours property) :
    Uses (Faint colours) (style spot property value) := ⟨known, fun _ => trivial⟩

lemma faint_form (spot : Spot) (property : FormProperty) :
    Uses (Faint colours) (setForm spot property) := ⟨trivial, fun _ => trivial⟩

lemma faint_geometry (placed sized : Spot) (g : Geometry) (width : colours "width")
    (height : colours "height")
    (transform : colours "transform") : Uses (Faint colours) (applyGeometry placed sized g) := by
  refine Uses.bind (uses_each fun _ => faint_style _ _ width) fun _ => ?_
  refine Uses.bind (uses_each fun _ => faint_style _ _ height) fun _ => ?_
  exact uses_each fun _ => faint_style _ _ transform

/-- One axis: its bar is decided if the size of the pane is sent. -/
lemma sketches_pane {p q : String} (apart : p ≠ q) (size : Option Float) (outer : Float) :
    Sketches t (each size fun inner => do
        style .leaf p (overflow inner outer)
        style (.part 0) q (px inner)) fun _ t' =>
      t'.scroll = t.scroll ∧
        t'.style p = (size.map fun inner => overflow inner outer).or (t.style p) ∧
        ∀ k, k ≠ p → k ≠ q → t'.style k = t.style k := by
  cases size with
  | none => exact ⟨rfl, rfl, fun _ _ _ => rfl⟩
  | some inner =>
    have barred : Sketches t (style .leaf p (overflow inner outer)) fun _ t' =>
        t' = { t with style := Function.update t.style p (some (overflow inner outer)) } :=
          sketches_style rfl
    have resized : Uses (Faint (· = q)) (style (.part 0) q (px inner)) := faint_style _ _ rfl
    refine barred.bind ?_
    rintro _ _ rfl
    refine resized.sketches.mono fun _ t' drawn => ?_
    refine ⟨drawn.2.1, (drawn.2.2 p apart).trans (Function.update_self ..), fun k notp notq => ?_⟩
    exact (drawn.2.2 k notq).trans (Function.update_of_ne notp _ _)

/-- An update brings the region up to date, and then decides the bars of the axes whose pane it
sizes. -/
theorem sketches_scroller (c : ScrollerChange) (t : Sketch) :
    Sketches t (updateScroller c) fun _ t' =>
    t'.scroll = t.scroll.map (·.resize c.geometry.width c.geometry.height) ∧
    ∀ a : Axis, t'.style a.property =
      ((a.resizing c).inner.map fun inner => overflow inner ((t'.scroll.map a.size).getD 0)).or
        (t.style a.property) := by
  have prelude : ∀ {t₁ : Sketch} {craft : Craft Unit},
    Uses (Faint fun p => p = "width" ∨ p = "height" ∨ p = "transform") craft →
      Sketches t₁ craft fun _ t₂ =>
        t₂.scroll = t₁.scroll ∧ ∀ a : Axis, t₂.style a.property = t₁.style a.property :=
    fun faint => faint.sketches.mono fun _ _ drawn =>
      ⟨drawn.2.1, fun a => drawn.2.2 _ (by cases a <;> decide)⟩
  unfold updateScroller
  refine Sketches.bind
    (prelude (faint_geometry _ _ _ (.inl rfl) (.inr (.inl rfl)) (.inr (.inr rfl))))
      fun _ t₁ sized => ?_
  refine sketches_resize (sketches_look fun view _ scroll => ?_)
  refine Sketches.bind (prelude (uses_each fun x => faint_form _ _)) fun _ t₂ across => ?_
  refine Sketches.bind (prelude (uses_each fun x => faint_form _ _)) fun _ t₃ down => ?_
  rw [scroll, ← across.1, ← down.1]
  refine Sketches.bind (sketches_pane (by decide) c.innerWidth _) fun _ t₄ wide => ?_
  refine (sketches_pane (by decide) c.innerHeight _).mono fun _ t₅ high => ?_
  have before (a : Axis) : t₃.style a.property = t.style a.property := by
    rw [down.2 a, across.2 a, ← sized.2 a]
  have region : t₃.scroll = t.scroll.map (·.resize c.geometry.width c.geometry.height) := by
    rw [down.1, across.1, sized.1]
  refine ⟨by rw [high.1, wide.1, region], fun a => ?_⟩
  rw [high.1, wide.1, ← before a]
  cases a with
  | horizontal => exact (high.2.2 _ (by decide) (by decide)).trans wide.2.1
  | vertical => exact high.2.1.trans (congrArg _ (wide.2.2 _ (by decide) (by decide)))

end Crafts

/-! ## All scrollers of a scene -/

/-- The region of a scroller has the outer sizes sent last, and its bars are as of the last size of
each pane. -/
structure Barred (cs : List Change) (t : Sketch) : Prop where
  sized : ∃ r, t.scroll = some r ∧ ∀ a : Axis, a.size r = outerSize (a.resizings cs)
  barred : ∀ (a : Axis) (bar : String), due? (asOfPane (a.resizings cs)) = some bar →
    t.style a.property = some bar

lemma size_resize (a : Axis) (r : ScrollRegion) (c : ScrollerChange) :
    a.size (r.resize c.geometry.width c.geometry.height) =
      (a.resizing c).outer.getD (a.size r) := by
  cases a <;> rfl

theorem lasting_barred : Lasting .scroller Barred where
  born e d kind pristine := by
    obtain ⟨r, region, width, height⟩ := pristine.region kind
    exact ⟨⟨r, region, fun a => by cases a <;> assumption⟩, nofun⟩
  moved cs t t' := by
    rintro ⟨⟨r, region, sized⟩, barred⟩ _ scroll styles
    exact ⟨⟨r, scroll.trans region, sized⟩, fun a bar last =>
      (styles _ (by cases a <;> decide)).trans (barred a bar last)⟩
  changed := by
    rintro cs id change t kind ⟨⟨r, region, sized⟩, barred⟩
    cases change with
    | scroller c =>
      refine (sketches_scroller c t).mono fun _ t' ⟨scroll, styles⟩ => ?_
      have region' : t'.scroll = some (r.resize c.geometry.width c.geometry.height) := by
        rw [scroll, region]; rfl
      have sized' (a : Axis) : a.size (r.resize c.geometry.width c.geometry.height) =
          outerSize (a.resizings (.scroller c :: cs)) :=
        (size_resize ..).trans (by rw [sized]; exact outerSize_cons.symm)
      refine ⟨⟨_, region', sized'⟩, fun a bar last => ?_⟩
      have last :
          ((a.resizing c).inner.map fun inner =>
            overflow inner (outerSize (a.resizings (.scroller c :: cs)))).or
            (due? (asOfPane (a.resizings cs))) = some bar := due?_asOfPane_cons.symm.trans last
      rw [styles, region', Option.map_some, Option.getD_some, sized']
      cases inner : (a.resizing c).inner with
      | none => exact barred a bar (by simpa [inner] using last)
      | some size => simpa [inner] using last
    | _ => cases kind

section Results

variable {κ : Type} [Core κ] {mount : NodeId} {config : Config} {h₀ h : MemoryHost κ} {s : Scene}
  {log : Log} {id : UInt32} {e : Element}

/-- After any run of patches, accepted or refused, the bar of a scroller on an axis whose pane has a
size is as the sizes called for that were known when the pane was last sized. That is what the sizes
sent last call for if no outer size came alone since. -/
theorem overflow_of_chronicle (reached : Reached h₀.document) (there : h₀.document.issued mount)
    (chronicle : Chronicle mount config h₀ log s h) (found : s.elements[id]? = some e)
    (scroller : e.widget = .scroller) (a : Axis)
    (paned : (innerSize? (a.resizings (changes log id))).isSome) :
    (sketch e h.document).style a.property = due? (asOfPane (a.resizings (changes log id))) ∧
      ((∀ r ∈ sincePane (a.resizings (changes log id)), r.outer = none) →
        (sketch e h.document).style a.property = due? (a.resizings (changes log id))) := by
  have barred : Barred (changes log id) (sketch e h.document) :=
    lasting_barred.portrayed chronicle reached there id e found scroller
  have decided : (due? (asOfPane (a.resizings (changes log id)))).isSome := by
    rw [due?, innerSize?_asOfPane, Option.isSome_map]
    exact paned
  obtain ⟨bar, last⟩ := Option.isSome_iff_exists.1 decided
  have shown :
      (sketch e h.document).style a.property = due? (asOfPane (a.resizings (changes log id))) := by
    rw [last]
    exact barred.barred a bar last
  exact ⟨shown, fun alone => by rw [shown, due?_asOfPane alone]⟩

/-- A scroller in a frame whose outer width came first, then the size of its pane alone, then
another height. -/
theorem overflow_of_sizes_apart : ∃ (log : Log) (s : Scene) (h : MemoryHost Recorder) (e : Element),
    Chronicle ⟨0⟩ .standard blankPage log s h ∧ s.elements[(7 : UInt32)]? = some e ∧
      (sketch e h.document).style "overflow-x" = some "auto" ∧
      due? (Axis.horizontal.resizings (changes log 7)) = some "auto" := by
  have run :
    (recounted ⟨0⟩ .standard blankPage [.createFrame ⟨1, none, 0⟩, .create .scroller ⟨7, some 1, 0⟩,
      .update 7 (.scroller ⟨⟨some 100, none, none⟩, none, none, none, none⟩),
      .update 7 (.scroller ⟨⟨none, none, none⟩, some 300, none, none, none⟩),
      .update 7 (.eventBlocker ⟨some 400, none, none⟩),
      .update 7 (.scroller ⟨⟨none, some 50, none⟩, none, none, none, none⟩)]).map
      (fun r =>
        (r.2.elements[(7 : UInt32)]?.map (·.widget),
          due? (Axis.horizontal.resizings (changes r.1 7)),
          (sincePane (Axis.horizontal.resizings (changes r.1 7))).all (·.outer.isNone))) =
          some (some .scroller, some "auto", true) := by
    decide +kernel
  obtain ⟨⟨log, s⟩, start, facts⟩ := Option.map_eq_some_iff.1 run
  obtain ⟨alive, called, alone⟩ : s.elements[(7 : UInt32)]?.map (·.widget) = some .scroller ∧
      due? (Axis.horizontal.resizings (changes log 7)) = some "auto" ∧
      ∀ r ∈ sincePane (Axis.horizontal.resizings (changes log 7)),
      r.outer = none := by simpa using facts
  obtain ⟨h, chronicle⟩ := exists_chronicle_of_recounted start
  obtain ⟨e, found, kind⟩ := Option.map_eq_some_iff.1 alive
  have paned : (innerSize? (Axis.horizontal.resizings (changes log 7))).isSome := by
    rw [← Option.isSome_map, ← due?, called]
    rfl
  exact ⟨log, s, h, e, chronicle, found,
    ((overflow_of_chronicle reached_blankPage rfl chronicle found kind .horizontal paned).2
      alone).trans called, called⟩

/-- A scroller shrank below the size of its pane, and no bar appeared. -/
theorem bar_stays_hidden : ∃ (log : Log) (s : Scene) (h : MemoryHost Recorder) (e : Element),
    Chronicle ⟨0⟩ .standard blankPage log s h ∧ s.elements[(7 : UInt32)]? = some e ∧
      (sketch e h.document).style "overflow-x" = some "hidden" ∧
      due? (Axis.horizontal.resizings (changes log 7)) = some "auto" := by
  have run : (recounted ⟨0⟩ .standard blankPage [.create .scroller ⟨7, none, 0⟩,
      .update 7 (.scroller ⟨⟨some 100, none, none⟩, some 100, none, none, none⟩),
      .update 7 (.scroller ⟨⟨some 50, none, none⟩, none, none, none, none⟩)]).map
      (fun r =>
        (r.2.elements[(7 : UInt32)]?.map (·.widget),
          due? (asOfPane (Axis.horizontal.resizings (changes r.1 7))),
          due? (Axis.horizontal.resizings (changes r.1 7)))) =
          some (some .scroller, some "hidden", some "auto") := by decide +kernel
  obtain ⟨⟨log, s⟩, start, facts⟩ := Option.map_eq_some_iff.1 run
  obtain ⟨alive, last, called⟩ : s.elements[(7 : UInt32)]?.map (·.widget) = some .scroller ∧
      due? (asOfPane (Axis.horizontal.resizings (changes log 7))) = some "hidden" ∧
      due? (Axis.horizontal.resizings (changes log 7)) = some "auto" := by simpa using facts
  obtain ⟨h, chronicle⟩ := exists_chronicle_of_recounted start
  obtain ⟨e, found, kind⟩ := Option.map_eq_some_iff.1 alive
  have barred := lasting_barred.portrayed chronicle reached_blankPage rfl 7 e found kind
  exact ⟨log, s, h, e, chronicle, found, barred.barred .horizontal "hidden" last, called⟩

end Results

end LayeredPage.Proofs
