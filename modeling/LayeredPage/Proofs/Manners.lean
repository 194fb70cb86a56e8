import Mathlib
import LayeredPage.Widgets.Scene

/-!
# What crafts ask for

`Uses` says that a script asks for nothing but what is allowed, whatever it is told, and never
breaks off. `Follows` also counts what a craft has added so far, so it can say that input is bound
on parts that are there. No craft goes beyond the manners of its kind of element.
-/

namespace LayeredPage.Proofs

section Scripts

variable {I : Interface} {α β : Type} {allowed allowed' : I.Request → Prop}

/-- Every request is allowed, whatever the replies. -/
def Uses (allowed : I.Request → Prop) : Script I α → Prop
  | .done _ => True
  | .ask r next => allowed r ∧ ∀ reply, Uses allowed (next reply)
  | .broken _ => False

lemma uses_pure (a : α) : Uses allowed (pure a : Script I α) := trivial

lemma Uses.bind {script : Script I α} {f : α → Script I β} (first : Uses allowed script)
    (next : ∀ a, Uses allowed (f a)) : Uses allowed (script >>= f) := by
  induction script with
  | done a => exact next a
  | ask r rest ih => exact ⟨first.1, fun reply => ih reply (first.2 reply)⟩
  | broken why => exact first.elim

lemma Uses.mono {script : Script I α} (uses : Uses allowed script)
    (h : ∀ r, allowed r → allowed' r) :
    Uses allowed' script := by
  induction script with
  | done a => trivial
  | ask r rest ih => exact ⟨h r uses.1, fun reply => ih reply (uses.2 reply)⟩
  | broken why => exact uses.elim

lemma uses_each {value : Option β} {f : β → Script I Unit} (all : ∀ b, Uses allowed (f b)) :
    Uses allowed (each value f) := by
  cases value with
  | none => trivial
  | some b => exact all b

lemma uses_ite {c : Prop} [Decidable c] {yes no : Script I α} (hy : Uses allowed yes)
    (hn : Uses allowed no) :
    Uses allowed (if c then yes else no) := by
  split
  · exact hy
  · exact hn

lemma uses_forM {xs : List β} {f : β → Script I PUnit} (all : ∀ x, Uses allowed (f x)) :
    Uses allowed (xs.forM f) := by
  induction xs with
  | nil => trivial
  | cons x xs ih => exact (all x).bind fun _ => ih

lemma uses_filterMapM {γ : Type} {xs : List β} {f : β → Script I (Option γ)}
    (all : ∀ x, Uses allowed (f x)) :
    Uses allowed (xs.filterMapM f) := by
  induction xs with
  | nil => exact trivial
  | cons x xs ih =>
    rw [List.filterMapM_cons]
    refine (all x).bind fun b => ?_
    cases b with
    | none => exact ih
    | some b => exact ih.bind fun _ => trivial

end Scripts

/-! ## Frames -/

/-- Requests of a frame besides those of its patches. -/
def Looks : PatchRequest → Prop
  | .document (.scrollDelta ..) | .document (.clearSurface _) | .document (.surfaceMetrics _)
    | .document (.resizeSurface ..) => True
  | _ => False

lemma uses_ask {r : DocumentRequest} (looks : Looks (.document r)) : Uses Looks (ask r) :=
  ⟨looks, fun _ => trivial⟩

lemma uses_scrollDeltas (s : Scene) (now : Float) : Uses Looks (s.scrollDeltas now) := by
  refine uses_filterMapM fun ⟨id, e⟩ => ?_
  dsimp only
  cases e.scroll with
  | some r => exact (uses_ask (r := .scrollDelta r.sampler now) trivial).bind fun _ => uses_pure _
  | none => exact uses_pure _

lemma uses_clearSurfaces (s : Scene) (ratio : Float) : Uses Looks (s.clearSurfaces ratio) := by
  refine uses_forM fun canvas => (uses_ask (r := .clearSurface canvas) trivial).bind fun _ =>
    (uses_ask (r := .surfaceMetrics canvas) trivial).bind fun metrics => ?_
  split
  · exact uses_ask trivial
  · exact trivial

/-! ## Text styles -/

/-- The styles that a text style writes. -/
def typography : List String :=
  ["font-family", "font-style", "font-weight", "color", "font-size", "text-decoration", "display",
    "justify-content", "align-items", "text-align"]

/-- What a text style asks for: fonts, styles of its two nodes, and styles of the links below the
second. -/
def Typographic (container element : Spot) : BenchRequest → Prop
  | .useFont _ => True
  | .write spot (.style property _) => (spot = container ∨ spot = element) ∧ property ∈ typography
  | .write spot (.linkStyle ..) => spot = element
  | _ => False

section Typography

open Styling

variable {container element : Spot} {property : String}

lemma typographic_container (known : property ∈ typography) (value : String) :
    Uses (Typographic container element) (style container property value) :=
  ⟨⟨.inl rfl, known⟩, fun _ => trivial⟩

lemma typographic_element (known : property ∈ typography) (value : String) :
    Uses (Typographic container element) (style element property value) :=
  ⟨⟨.inr rfl, known⟩, fun _ => trivial⟩

lemma typographic_alignment (container element : Spot) (s : TextStyle) :
    Uses (Typographic container element) (applyAlignment container element s) := by
  unfold applyAlignment
  refine (uses_each fun _ => (typographic_container (by decide) _).bind fun _ =>
    typographic_container (by decide) _).bind fun _ => ?_
  exact (uses_each fun _ => typographic_container (by decide) _).bind fun _ => uses_each fun _ =>
    typographic_element (by decide) _

/-- A font is put with the styles of a text style. -/
lemma typographic_font {put : String → String → Craft Unit}
    (typographic : ∀ p v, p ∈ typography → Uses (Typographic container element) (put p v))
    (font : Font) :
    Uses (Typographic container element) (applyFont put font) := by
  unfold applyFont
  refine Uses.bind ⟨trivial, fun _ => trivial⟩ fun _ =>
    (typographic _ _ (by decide)).bind fun _ => ?_
  exact (uses_each fun _ => typographic _ _ (by decide)).bind fun _ => uses_each fun _ =>
    typographic _ _ (by decide)

theorem typographic_textStyle (container element : Spot) (s : TextStyle) :
    Uses (Typographic container element) (applyTextStyle container element s) := by
  unfold applyTextStyle
  refine (uses_each fun _ =>
    typographic_font (fun _ v known => typographic_container known v) _).bind fun _ => ?_
  refine (uses_each fun _ => typographic_element (by decide) _).bind fun _ => ?_
  refine (uses_each fun _ => typographic_element (by decide) _).bind fun _ => ?_
  exact (uses_each fun _ => typographic_element (by decide) _).bind fun _ =>
    typographic_alignment ..

theorem typographic_linkStyle (container element : Spot) (s : TextStyle) :
    Uses (Typographic container element) (applyLinkStyle container element s) := by
  have link (p v : String) :
      Uses (Typographic container element) (write element (.linkStyle p v)) :=
    ⟨rfl, fun _ => trivial⟩
  refine (uses_each fun _ => typographic_font (fun p v _ => link p v) _).bind fun _ => ?_
  refine (uses_each fun _ => link ..).bind fun _ => ?_
  refine (uses_each fun _ => link ..).bind fun _ => ?_
  refine (uses_each fun _ => link ..).bind fun _ => ?_
  exact typographic_alignment ..

end Typography

/-! ## Updates -/

/-- What an update may ask for: it adds no part, binds no input and starts no sampler, it leaves the
ids on the page alone, and only a text has its leaf observed. -/
def Modest (widget : Widget) : BenchRequest → Prop
  | .addPart .. | .sample .. | .write _ (.bind ..) => False
  | .write spot .observe => widget = .text ∧ spot = .leaf
  | .write _ (.attr name _) => name ≠ nativeIdAttribute
  | _ => True

section Updates

open Craft Styling

variable {widget : Widget} {id : UInt32}

/-- One request that is modest. -/
lemma modest_call (r : BenchRequest) (modest : Modest widget r) :
    Uses (Modest widget) (Craft.call r) := ⟨modest, fun _ => trivial⟩

lemma modest_style (spot : Spot) (property value : String) :
    Uses (Modest widget) (style spot property value) :=
  modest_call _ trivial

lemma modest_form (spot : Spot) (property : FormProperty) :
    Uses (Modest widget) (setForm spot property) :=
  modest_call _ trivial

lemma modest_attr (spot : Spot) {name : String}
    (other : name ≠ nativeIdAttribute) (value : String) :
    Uses (Modest widget) (attr spot name value) :=
  modest_call _ other

lemma modest_px (spot : Spot) (property : String) (x : Option Float) :
    Uses (Modest widget) (stylePx spot property x) :=
  uses_each fun _ => modest_style ..

lemma modest_color (spot : Spot) (property : String) (color : Option Color) :
    Uses (Modest widget) (styleColor spot property color) :=
  uses_each fun _ => modest_style ..

lemma modest_remember (f : Notes → Notes) : Uses (Modest widget) (remember f) :=
  (modest_call .look trivial).bind fun view => modest_call (.note (f view.toNotes)) trivial

lemma modest_geometry (placed sized : Spot) (g : Geometry) :
    Uses (Modest widget) (applyGeometry placed sized g) := by
  refine (modest_px ..).bind fun _ => ?_
  exact (modest_px ..).bind fun _ => uses_each fun _ => modest_style ..

lemma Typographic.modest {container element : Spot} (r : BenchRequest)
    (typographic : Typographic container element r) : Modest widget r := by
  cases r with
  | useFont => trivial
  | write spot w =>
    cases w with
    | style | linkStyle => trivial
    | attr | noStyle | html | text | form | focus | bind | observe => exact typographic.elim
  | look | note | addPart | addOption | clearOptions | html | sample | resizeRegion =>
    exact typographic.elim

lemma modest_textStyle (container element : Spot) (s : TextStyle) :
    Uses (Modest widget) (applyTextStyle container element s) :=
  (typographic_textStyle container element s).mono Typographic.modest

lemma modest_linkStyle (container element : Spot) (s : TextStyle) :
    Uses (Modest widget) (applyLinkStyle container element s) :=
  (typographic_linkStyle container element s).mono Typographic.modest

lemma modest_text (c : TextChange) : Uses (Modest .text) (updateText c) := by
  unfold updateText
  refine (modest_call .look trivial).bind fun view => ?_
  extract_lets text html rewritten relink fill height width
  have relinked (u) : Uses (Modest .text) (relink u) := by
    refine uses_ite ((modest_call .look trivial).bind fun view => ?_) (uses_pure ())
    exact uses_each fun _ => modest_linkStyle ..
  have filled (u) : Uses (Modest .text) (fill u) := by
    have edited (editable : Bool) : Uses (Modest .text) (do
        attr text "contenteditable" (if editable then "true" else "false")
        if editable then
          style text "outline" "none"
          style text "width" "inherit"
          style text "height" "inherit") := by
      refine (modest_attr _ (by decide) _).bind fun _ => uses_ite ?_ (uses_pure ())
      refine (modest_style ..).bind fun _ => ?_
      refine (modest_style ..).bind fun _ => ?_
      exact modest_style ..
    refine (uses_each edited).bind fun _ => ?_
    refine (uses_each fun _ => modest_textStyle ..).bind fun _ => ?_
    refine (uses_each fun _ => modest_remember _).bind fun _ => uses_ite ?_ (relinked ())
    refine (uses_each fun html => ?_).bind relinked
    exact (modest_call (.write _ (.html html)) trivial).bind fun _ => modest_remember _
  have tall (u) : Uses (Modest .text) (height u) :=
    uses_ite ((modest_call (.write _ (.noStyle "height")) trivial).bind filled) (filled ())
  have wide (u) : Uses (Modest .text) (width u) := by
    refine (modest_geometry ..).bind fun _ => ?_
    exact uses_ite ((modest_call (.write _ (.noStyle "width")) trivial).bind tall) (tall ())
  refine uses_ite ?_ (wide ())
  exact (modest_call (.write _ .observe) ⟨rfl, rfl⟩).bind fun _ => (modest_remember _).bind wide

lemma modest_button (c : ButtonChange) : Uses (Modest widget) (updateButton c) := by
  unfold updateButton
  refine (modest_call .look trivial).bind fun view => uses_ite (uses_pure ()) ?_
  refine (modest_geometry ..).bind fun _ => ?_
  refine (uses_each fun _ => modest_call (.write _ (.html _)) trivial).bind fun _ => ?_
  refine (modest_call (.html _) trivial).bind fun label => ?_
  extract_lets jump
  have after (u) : Uses (Modest widget) (jump u) := by
    refine (modest_color ..).bind fun _ => ?_
    refine (modest_color ..).bind fun _ => ?_
    refine (modest_color ..).bind fun _ => ?_
    refine (modest_px ..).bind fun _ => ?_
    refine (modest_px ..).bind fun _ => ?_
    exact uses_each fun _ => modest_textStyle ..
  exact uses_ite ((modest_call (.write _ (.html _)) trivial).bind after) (after ())

lemma modest_checkbox (c : CheckboxChange) : Uses (Modest widget) (updateCheckbox c) := by
  unfold updateCheckbox
  refine (modest_geometry ..).bind fun _ => ?_
  refine (uses_each fun _ => modest_form ..).bind fun _ => ?_
  refine (modest_color ..).bind fun _ => ?_
  refine (modest_color ..).bind fun _ => ?_
  refine (modest_color ..).bind fun _ => ?_
  exact (modest_px ..).bind fun _ => modest_px ..

lemma modest_textbox (c : TextboxChange) : Uses (Modest widget) (updateTextbox c) := by
  unfold updateTextbox
  refine (modest_geometry ..).bind fun _ => ?_
  refine (uses_each fun _ => modest_textStyle ..).bind fun _ => ?_
  refine (modest_style ..).bind fun _ => ?_
  refine (modest_color ..).bind fun _ => ?_
  refine (modest_color ..).bind fun _ => ?_
  refine (modest_px ..).bind fun _ => ?_
  refine (modest_px ..).bind fun _ => ?_
  refine (uses_each fun _ => modest_form ..).bind fun _ => ?_
  exact uses_ite (modest_call (.write ..) trivial) (uses_pure ())

lemma modest_writeIfNew (input : Spot) (cached value : Option Float)
    (property : Float → FormProperty) :
    Uses (Modest widget) (writeIfNew input cached value property) := by
  unfold writeIfNew
  cases value with
  | none => exact uses_pure _
  | some x => exact uses_ite ((modest_form ..).bind fun _ => uses_pure _) (uses_pure _)

lemma modest_slider (c : SliderChange) : Uses (Modest widget) (updateSlider c) := by
  unfold updateSlider
  refine (modest_call .look trivial).bind fun view => ?_
  refine (modest_geometry ..).bind fun _ => ?_
  refine (modest_writeIfNew ..).bind fun _ => ?_
  refine (modest_writeIfNew ..).bind fun _ => ?_
  refine (modest_writeIfNew ..).bind fun _ => ?_
  refine (modest_writeIfNew ..).bind fun _ => ?_
  refine (modest_remember _).bind fun _ => ?_
  refine (modest_color ..).bind fun _ => ?_
  refine (modest_color ..).bind fun _ => ?_
  exact modest_px ..

lemma modest_dropdownOptions (select : Spot) (index : Nat) (labels : List String) :
    Uses (Modest widget) (addDropdownOptions select index labels) := by
  induction labels generalizing index with
  | nil => exact uses_pure ()
  | cons label rest ih =>
    refine (modest_call (.addOption ..) trivial).bind fun option => ?_
    refine (modest_attr _ (by decide) _).bind fun _ => ?_
    exact (modest_call (.write option (.text label)) trivial).bind fun _ => ih _

lemma modest_dropdown (c : DropdownChange) : Uses (Modest widget) (updateDropdown c) := by
  unfold updateDropdown
  refine (modest_geometry ..).bind fun _ => ?_
  refine (uses_each fun _ => modest_textStyle ..).bind fun _ => ?_
  refine (uses_each fun _ => (modest_call .clearOptions trivial).bind fun _ =>
    modest_dropdownOptions ..).bind fun _ => ?_
  refine (uses_each fun _ => modest_remember _).bind fun _ => ?_
  extract_lets jump
  have after (u) : Uses (Modest widget) (jump u) := by
    refine (modest_style ..).bind fun _ => ?_
    refine (modest_color ..).bind fun _ => ?_
    refine (modest_color ..).bind fun _ => ?_
    exact (modest_px ..).bind fun _ => modest_px ..
  refine uses_ite ((modest_call .look trivial).bind fun view => ?_) (after ())
  exact (uses_each fun _ => modest_form ..).bind after

lemma modest_radioRow (fieldset : Spot) (group label : String) :
    Uses (Modest widget) (addRadioRow fieldset group label) := by
  unfold addRadioRow
  refine (modest_call (.addOption ..) trivial).bind fun row => ?_
  refine (modest_call (.addOption ..) trivial).bind fun input => ?_
  refine (modest_call (.addOption ..) trivial).bind fun caption => ?_
  refine (modest_style ..).bind fun _ => ?_
  refine (modest_style ..).bind fun _ => ?_
  refine (modest_style ..).bind fun _ => ?_
  refine (modest_form ..).bind fun _ => ?_
  refine (modest_attr _ (by decide) _).bind fun _ => ?_
  refine (modest_attr _ (by decide) _).bind fun _ => ?_
  refine (modest_attr _ (by decide) _).bind fun _ => ?_
  exact modest_call (.write ..) trivial

lemma modest_radioSet (c : RadioSetChange) : Uses (Modest widget) (updateRadioSet id c) := by
  unfold updateRadioSet
  refine (modest_geometry ..).bind fun _ => ?_
  refine (uses_each fun _ => modest_textStyle ..).bind fun _ => ?_
  have rebuilt (labels : List String) : Uses (Modest widget) (do
      Craft.call .clearOptions
      labels.forM (addRadioRow (.part 0) (radioGroup id))) :=
    (modest_call .clearOptions trivial).bind fun _ => uses_forM fun _ => modest_radioRow ..
  refine (uses_each rebuilt).bind fun _ => ?_
  refine (uses_each fun _ => modest_remember _).bind fun _ => ?_
  extract_lets jump
  have after (u) : Uses (Modest widget) (jump u) := by
    refine (modest_color ..).bind fun _ => ?_
    refine (modest_color ..).bind fun _ => ?_
    refine (modest_color ..).bind fun _ => ?_
    exact modest_px ..
  refine uses_ite ((modest_call .look trivial).bind fun view => ?_) (after ())
  exact (uses_each fun _ => modest_form ..).bind after

lemma modest_scroller (c : ScrollerChange) : Uses (Modest widget) (updateScroller c) := by
  unfold updateScroller
  refine (modest_geometry ..).bind fun _ => ?_
  refine (modest_call (.resizeRegion ..) trivial).bind fun _ => ?_
  refine (modest_call .look trivial).bind fun view => ?_
  refine (uses_each fun _ => modest_form ..).bind fun _ => ?_
  refine (uses_each fun _ => modest_form ..).bind fun _ => ?_
  refine (uses_each fun _ => (modest_style ..).bind fun _ => modest_style ..).bind fun _ => ?_
  exact uses_each fun _ => (modest_style ..).bind fun _ => modest_style ..

/-- No update goes beyond the manners of its kind. -/
theorem modest_update (id : UInt32) (change : Change) :
    Uses (Modest change.widget) (update id change) := by
  cases change with
  | text c => exact modest_text c
  | button c => exact modest_button c
  | checkbox c => exact modest_checkbox c
  | textbox c => exact modest_textbox c
  | slider c => exact modest_slider c
  | dropdown c => exact modest_dropdown c
  | radioSet c => exact modest_radioSet c
  | scroller c => exact modest_scroller c
  | eventBlocker g => exact modest_geometry ..

end Updates

/-! ## Builds -/

/-- What a craft has added so far. -/
structure Tally where
  parts : Nat
  sampled : Bool

def Tally.after (t : Tally) : BenchRequest → Tally
  | .addPart .. => { t with parts := t.parts + 1 }
  | .sample .. => { t with sampled := true }
  | _ => t

/-- The kind of element whose input a binding reports. -/
def speaker : InputBinding → Widget
  | .buttonClick => .button
  | .checkboxToggle => .checkbox
  | .textboxInput | .textboxChange => .textbox
  | .sliderChange => .slider
  | .dropdownChange => .dropdown
  | .radioSetChange => .radioSet
  | .textInput => .text

/-- What a craft for the element with this id and kind may ask for: input is bound on parts that are
there, under the id and for the kind, and a scroller starts one sampler. -/
def Decent (widget : Widget) (id : UInt32) (t : Tally) : BenchRequest → Prop
  | .addPart .. => True
  | .sample .. => widget = .scroller ∧ t.sampled = false
  | .write spot (.bind j b) => j = id ∧ speaker b = widget ∧ ∃ i < t.parts, spot = .part i
  | r => Modest widget r

/-- The reply that a part gets at the bench. -/
def Numbered (t : Tally) : (r : BenchRequest) → r.Reply → Prop
  | .addPart .., spot => spot = .part t.parts
  | _, _ => True

/-- A craft that is told where its parts are asks for nothing but what is decent, and ends like
this. -/
def Follows {α : Type} (widget : Widget) (id : UInt32) (t : Tally) (craft : Craft α)
    (post : α → Tally → Prop) : Prop :=
  match craft with
  | .done a => post a t
  | .ask r next =>
    Decent widget id t r ∧ ∀ reply, Numbered t r reply →
      Follows widget id (t.after r) (next reply) post
  | .broken _ => False

section Builds

open Craft Styling

variable {α β : Type} {widget : Widget} {id : UInt32} {t : Tally}

/-- A modest craft adds nothing. -/
lemma Uses.follows {craft : Craft α} (uses : Uses (Modest widget) craft) :
    Follows widget id t craft fun _ t' => t' = t := by
  induction craft with
  | done a => rfl
  | ask r next ih =>
    have decent : Decent widget id t r ∧ t.after r = t := by
      have modest := uses.1
      cases r with
      | addPart | sample => exact modest.elim
      | write spot w => cases w with
        | bind => exact modest.elim
        | attr | style | noStyle | linkStyle | html | text | form | focus | observe =>
          exact ⟨modest, rfl⟩
      | look | note | addOption | clearOptions | html | resizeRegion | useFont =>
        exact ⟨modest, rfl⟩
    refine ⟨decent.1, fun reply _ => ?_⟩
    rw [decent.2]
    exact ih reply (uses.2 reply)
  | broken why => exact uses.elim

variable {post : β → Tally → Prop} {done : Unit → Tally → Prop}

lemma follows_bind {craft : Craft α} {f : α → Craft β} :
    Follows widget id t (craft >>= f) post ↔ Follows widget id t craft fun a t =>
      Follows widget id t (f a) post := by
  induction craft generalizing t with
  | done a => rfl
  | ask r next ih =>
    exact and_congr_right fun _ => forall_congr' fun reply => imp_congr_right fun _ => ih reply
  | broken why => rfl

lemma follows_addPart {parent : Spot} {kind : NodeKind} {placed : Spot → Tally → Prop} :
    Follows widget id t (addPart parent kind) placed ↔
    placed (.part t.parts) { t with parts := t.parts + 1 } := by
  constructor
  · exact fun follows => follows.2 _ rfl
  · rintro next
    refine ⟨trivial, ?_⟩
    rintro _ rfl
    exact next

lemma follows_style {spot : Spot} {property value : String} :
    Follows widget id t (style spot property value) done ↔ done () t :=
  ⟨fun follows => follows.2 () trivial, fun next => ⟨trivial, fun _ _ => next⟩⟩

lemma follows_form {spot : Spot} {property : FormProperty} :
    Follows widget id t (setForm spot property) done ↔ done () t :=
  ⟨fun follows => follows.2 () trivial, fun next => ⟨trivial, fun _ _ => next⟩⟩

lemma follows_class {spot : Spot} {value : String} :
    Follows widget id t (attr spot "class" value) done ↔ done () t := by
  have other : "class" ≠ nativeIdAttribute := by decide
  exact ⟨fun follows => follows.2 () trivial, fun next => ⟨other, fun _ _ => next⟩⟩

lemma follows_listen {spot : Spot} {binding : InputBinding} :
    Follows widget id t (listen spot id binding) done ↔
    (speaker binding = widget ∧ ∃ i < t.parts, spot = .part i) ∧ done () t :=
  ⟨fun follows => ⟨follows.1.2, follows.2 () trivial⟩, fun next =>
    ⟨⟨rfl, next.1⟩, fun _ _ => next.2⟩⟩

/-- A scroller ends up sampled, and nothing else does. -/
theorem build_follows (config : Config) (id : UInt32) (widget : Widget) :
    Follows widget id ⟨0, false⟩ (build config id widget) fun _ t => t.sampled = true ↔
      widget = .scroller := by
  cases widget with
  | text => simp [build, buildText, follows_bind, follows_addPart, follows_listen, speaker]
  | button =>
    simp [build, buildButton, follows_bind, follows_addPart, follows_class, follows_style,
      follows_listen, speaker]
  | checkbox =>
    simp [build, buildCheckbox, follows_bind, follows_addPart, follows_form,
      follows_class, follows_style,
      follows_listen, speaker]
  | textbox =>
    simp [build, buildTextbox, follows_bind, follows_addPart, follows_form, follows_style,
      follows_listen, speaker]
  | slider =>
    simp [build, buildSlider, follows_bind, follows_addPart, follows_form, follows_style,
      follows_listen, speaker]
  | dropdown => simp [build, buildDropdown, follows_bind, follows_addPart, follows_listen, speaker]
  | radioSet =>
    simp [build, buildRadioSet, follows_bind, follows_addPart, follows_style,
      follows_listen, speaker]
  | scroller => exact ⟨trivial, fun _ _ => ⟨⟨rfl, rfl⟩, fun _ _ => iff_of_true rfl rfl⟩⟩
  | eventBlocker => exact iff_of_false Bool.false_ne_true (by decide)

end Builds

end LayeredPage.Proofs
