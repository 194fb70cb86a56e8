import LayeredPage.Proofs.Usage

/-!
# What sparse updates make of an element

An update writes what it carries, and nothing else. For most kinds, what it makes of a likeness can
thus be said at once, and two updates in turn come to one that carries what the second carries, and
else what the first does.
-/

namespace LayeredPage

/-! ## One update for two -/

/-- What the second carries, and else what the first does. -/
def Geometry.followed (g g' : Geometry) : Geometry :=
  ⟨g'.width.or g.width, g'.height.or g.height, g'.transform.or g.transform⟩

def ButtonChange.followed (c c' : ButtonChange) : ButtonChange where
  geometry := c.geometry.followed c'.geometry
  content := c'.content.or c.content
  color := c'.color.or c.color
  hoverColor := c'.hoverColor.or c.hoverColor
  outlineColor := c'.outlineColor.or c.outlineColor
  outlineWidth := c'.outlineWidth.or c.outlineWidth
  borderRadius := c'.borderRadius.or c.borderRadius
  style := c'.style.or c.style

def CheckboxChange.followed (c c' : CheckboxChange) : CheckboxChange where
  geometry := c.geometry.followed c'.geometry
  checked := c'.checked.or c.checked
  background := c'.background.or c.background
  checkedBackground := c'.checkedBackground.or c.checkedBackground
  outlineColor := c'.outlineColor.or c.outlineColor
  outlineWidth := c'.outlineWidth.or c.outlineWidth
  borderRadius := c'.borderRadius.or c.borderRadius

def TextboxChange.followed (c c' : TextboxChange) : TextboxChange where
  geometry := c.geometry.followed c'.geometry
  text := c'.text.or c.text
  background := c'.background.or c.background
  strokeColor := c'.strokeColor.or c.strokeColor
  strokeWidth := c'.strokeWidth.or c.strokeWidth
  borderRadius := c'.borderRadius.or c.borderRadius
  focus := c'.focus.or c.focus
  style := c'.style.or c.style

def SliderChange.followed (c c' : SliderChange) : SliderChange where
  geometry := c.geometry.followed c'.geometry
  value := c'.value.or c.value
  step := c'.step.or c.step
  min := c'.min.or c.min
  max := c'.max.or c.max
  accent := c'.accent.or c.accent
  background := c'.background.or c.background
  borderRadius := c'.borderRadius.or c.borderRadius

def DropdownChange.followed (c c' : DropdownChange) : DropdownChange where
  geometry := c.geometry.followed c'.geometry
  options := c'.options.or c.options
  selected := c'.selected.or c.selected
  background := c'.background.or c.background
  strokeColor := c'.strokeColor.or c.strokeColor
  strokeWidth := c'.strokeWidth.or c.strokeWidth
  borderRadius := c'.borderRadius.or c.borderRadius
  style := c'.style.or c.style

/-- Two updates of one kind in one; of other kinds, and of two kinds, the second. -/
def Change.followed : Change → Change → Change
  | .button c, .button c' => .button (c.followed c')
  | .checkbox c, .checkbox c' => .checkbox (c.followed c')
  | .textbox c, .textbox c' => .textbox (c.followed c')
  | .slider c, .slider c' => .slider (c.followed c')
  | .dropdown c, .dropdown c' => .dropdown (c.followed c')
  | .eventBlocker g, .eventBlocker g' => .eventBlocker (g.followed g')
  | _, c' => c'

end LayeredPage

namespace LayeredPage.Proofs

open Craft Styling

/-! ## Styles that are written together -/

/-- Styles in the order in which they are written, some without a value. -/
abbrev Wear := List (String × Option String)

namespace Wear

/-- The value that a style gets. -/
def value : Wear → String → Option String
  | [], _ => none
  | (p, v) :: ws, q => (value ws q).or (if q = p then v else none)

/-- The values of the second, and else those of the first. -/
def followed (first second : Wear) : Wear :=
  List.zipWith (fun a b => (a.1, b.2.or a.2)) first second

lemma value_none {ws : Wear} {q : String} (other : q ∉ ws.map Prod.fst) : ws.value q = none := by
  induction ws with
  | nil => rfl
  | cons w ws ih =>
    obtain ⟨here, there⟩ := not_or.1 (List.mem_cons.not.1 other)
    rw [value, ih there, if_neg here]
    rfl

lemma value_followed {first second : Wear} (same : first.map Prod.fst = second.map Prod.fst)
    (distinct : (first.map Prod.fst).Nodup) (q : String) :
    (first.followed second).value q = (second.value q).or (first.value q) := by
  induction first generalizing second with
  | nil =>
    obtain rfl : second = [] := List.map_eq_nil_iff.1 same.symm
    rfl
  | cons a first ih =>
    obtain _ | ⟨b, second⟩ := second
    · cases same
    obtain ⟨here, rest⟩ := List.cons.inj same
    obtain ⟨new, distinct⟩ := List.nodup_cons.1 distinct
    simp only [followed, List.zipWith_cons_cons, value] at ih ⊢
    rw [ih rest distinct, ← here]
    by_cases at_key : q = a.1
    · -- Nothing else is said of this style.
      have silent : Wear.value first q = none := value_none (at_key ▸ new)
      have silent' : Wear.value second q = none := value_none (rest ▸ at_key ▸ new)
      rw [silent, silent']
      simp [at_key]
    · simp [at_key]

end Wear

namespace Figure

/-- A figure in styles. -/
def dressed (ws : Wear) (g : Figure) : Figure :=
  { g with style := fun q => (ws.value q).or (g.style q) }

/-- A figure whose form state is changed. -/
def holding (f : FormState → FormState) (g : Figure) : Figure := { g with form := f g.form }

lemma dressed_nil (g : Figure) : g.dressed [] = g := rfl

lemma dressed_cons (p : String) (v : Option String) (ws : Wear) (g : Figure) :
    g.dressed ((p, v) :: ws) = (g.styled p v).dressed ws := by
  refine Figure.ext rfl rfl (funext fun q => ?_) rfl rfl rfl rfl
  change ((ws.value q).or (if q = p then v else none)).or (g.style q) =
    (ws.value q).or (if q = p then v.or (g.style q) else g.style q)
  split
  · exact Option.or_assoc
  · rw [Option.or_none]

lemma dressed_dressed (first second : Wear) (same : first.map Prod.fst = second.map Prod.fst)
    (distinct : (first.map Prod.fst).Nodup)
    (g : Figure) : (g.dressed first).dressed second = g.dressed (first.followed second) := by
  refine Figure.ext rfl rfl (funext fun q => ?_) rfl rfl rfl rfl
  change (second.value q).or ((first.value q).or (g.style q)) =
    ((first.followed second).value q).or (g.style q)
  rw [Wear.value_followed same distinct, Option.or_assoc]

lemma dressed_holding (f : FormState → FormState) (ws : Wear) (g : Figure) :
    (g.holding f).dressed ws = (g.dressed ws).holding f := rfl

/-- A figure that got other markup, or none. -/
def lettered (content : Option String) (g : Figure) : Figure :=
  content.elim g fun content => g.written (.html (Markdown.render content))

/-- A figure without markup gets a blank. -/
def filled (g : Figure) : Figure := if g.html.isEmpty then g.written (.html " ") else g

lemma html_filled (g : Figure) : g.filled.html.isEmpty = false := by
  unfold filled
  split
  · rfl
  · next full => exact Bool.eq_false_iff.2 full

lemma written_filled (g : Figure) (markup : String) :
    g.filled.written (.html markup) = g.written (.html markup) := by
  unfold filled
  split <;> rfl

lemma labelled_labelled (first second : Option String) (g : Figure) :
    ((g.lettered first).filled.lettered second).filled = (g.lettered (second.or first)).filled := by
  cases second with
  | none => exact if_neg (Bool.eq_false_iff.1 (html_filled _))
  | some content =>
    refine congrArg filled ((written_filled ..).trans ?_)
    cases first <;> rfl

/-- What an entry of a dropdown looks like. -/
def entry (index : Nat) (label : String) : Figure :=
  ((Figure.fresh .option).written (.attr "value" (toString index))).written (.text label)

/-- The entries for labels, numbered from an index on. -/
def entries : Nat → List String → List Figure
  | _, [] => []
  | index, label :: rest => entry index label :: entries (index + 1) rest

/-- The figure with these many options below it, instead of others. -/
def listing (n : Option Nat) (g : Figure) : Figure :=
  n.elim g fun n => { g with below := g.below.filter (!isOption ·) ++ (List.range n).map .option }

lemma dressed_listing (n : Option Nat) (ws : Wear) (g : Figure) :
    (g.listing n).dressed ws = (g.dressed ws).listing n := by
  cases n <;> rfl

lemma holding_listing (n : Option Nat) (f : FormState → FormState) (g : Figure) :
    (g.holding f).listing n = (g.listing n).holding f := by
  cases n <;> rfl

lemma listing_listing (first second : Option Nat) (g : Figure) :
    (g.listing first).listing second = g.listing (second.or first) := by
  cases second with
  | none => rfl
  | some n =>
    cases first with
    | none => rfl
    | some m =>
      have none_left : ((List.range m).map Spot.option).filter (!isOption ·) = [] := by
        simp [List.filter_eq_nil_iff, isOption]
      refine Figure.ext rfl rfl rfl rfl rfl rfl ?_
      change ((g.below.filter (!isOption ·) ++ (List.range m).map Spot.option).filter
        (!isOption ·)) ++ _ = _
      rw [List.filter_append, none_left, List.append_nil, List.filter_filter]
      simp only [Bool.and_self]
      rfl

end Figure

/-! ## What each kind of update writes -/

/-- The size and the place that a geometry carries. -/
def sizing (g : Geometry) : Wear := [("width", g.width.map px), ("height", g.height.map px)]

def moving (g : Geometry) : Wear := [("transform", g.transform.map Affine.css)]

def colored (property : String) (color : Option Color) : String × Option String :=
  (property, color.map Color.css)

def measured (property : String) (x : Option Float) : String × Option String := (property, x.map px)

def buttonWear (c : ButtonChange) : Wear :=
  sizing c.geometry ++ [colored "background" c.color, colored "--hover-color" c.hoverColor,
    colored "border-color" c.outlineColor,
    measured "border-width" c.outlineWidth, measured "border-radius" c.borderRadius]

def checkboxWear (c : CheckboxChange) : Wear :=
  sizing c.geometry ++
    [colored "background" c.background, colored "--checked-color" c.checkedBackground,
      colored "border-color" c.outlineColor, measured "border-width" c.outlineWidth,
      measured "border-radius" c.borderRadius]

def textboxWear (c : TextboxChange) : Wear :=
  sizing { c.geometry with width := c.geometry.width.map (· - 10) } ++
    [("border-style", some "solid"), colored "background" c.background,
      colored "border-color" c.strokeColor, measured "border-width" c.strokeWidth,
      measured "border-radius" c.borderRadius]

def sliderWear (c : SliderChange) : Wear :=
  sizing c.geometry ++ [colored "accent-color" c.accent, colored "background-color" c.background,
    measured "border-radius" c.borderRadius]

def dropdownWear (c : DropdownChange) : Wear :=
  sizing c.geometry ++ [("border-style", some "solid"), colored "background-color" c.background,
    colored "border-color" c.strokeColor, measured "border-width" c.strokeWidth,
    measured "border-radius" c.borderRadius]

/-- How many parts an element has. -/
def partCount : Widget → Nat
  | .button => 3
  | .eventBlocker => 0
  | .text | .checkbox | .textbox | .slider | .dropdown | .radioSet | .scroller => 1

/-- A selection that is new, or that is kept for new entries. -/
def selecting (c : DropdownChange) (noted : Option UInt32) (f : FormState) : FormState :=
  if c.options.isSome ||
    c.selected.isSome
      then { f with selectedIndex := (c.selected.or noted).or f.selectedIndex } else f

/-- The likeness after an update that writes all that it carries. -/
def retouched : Change → Likeness → Likeness
  | .button c, t => { t with
      leaf := t.leaf.dressed (moving c.geometry)
      parts := (t.parts.modify 0 (·.dressed (buttonWear c))).modify 2 fun g =>
        (g.lettered c.content).filled }
  | .checkbox c, t => { t with
      leaf := t.leaf.dressed (moving c.geometry)
      parts := t.parts.modify 0 fun g => (g.dressed (checkboxWear c)).holding fun f =>
        { f with checked := c.checked.getD f.checked } }
  | .textbox c, t => { t with
      leaf := t.leaf.dressed (moving c.geometry)
      parts := t.parts.modify 0 fun g => (g.dressed (textboxWear c)).holding fun f =>
        { f with value := c.text.getD f.value } }
  | .slider c, t => { t with
      leaf := t.leaf.dressed (moving c.geometry)
      parts := t.parts.modify 0 fun g => (g.dressed (sliderWear c)).holding fun f => { f with
        min := c.min.or f.min, max := c.max.or f.max, step := c.step.or f.step,
        value := (c.value.map Number.styleText).getD f.value } }
  | .dropdown c, t => { t with
      notes := { t.notes with selected := c.selected.or t.notes.selected }
      leaf := (t.leaf.dressed (moving c.geometry)).listing (c.options.map fun _ => 0)
      parts := t.parts.modify 0 fun g =>
        ((g.dressed (dropdownWear c)).listing (c.options.map List.length)).holding
          (selecting c t.notes.selected)
      options := (c.options.map (Figure.entries 0)).getD t.options }
  | .eventBlocker g, t => { t with leaf := t.leaf.dressed (sizing g ++ moving g) }
  | .text _, t | .radioSet _, t | .scroller _, t => t

section Painted

variable {notes : Notes} {scroll : Option ScrollRegion} {watched : Bool} {leaf g : Figure}
  {rest options : List Figure}

/-- The first part, redrawn. -/
@[simp] lemma drawn_first (f : Figure → Figure) :
    Likeness.drawn ⟨notes, scroll, watched, leaf, g :: rest, options⟩ f (.part 0) =
    ⟨notes, scroll, watched, leaf, f g :: rest, options⟩ := by
  simp [Likeness.drawn]

@[simp] lemma drawn_leaf {parts : List Figure} (f : Figure → Figure) :
    Likeness.drawn ⟨notes, scroll, watched, leaf, parts, options⟩ f .leaf =
    ⟨notes, scroll, watched, f leaf, parts, options⟩ := rfl

lemma paint_checkbox (c : CheckboxChange) :
    paint (updateCheckbox c) ⟨notes, scroll, watched, leaf, g :: rest, options⟩ =
    some ((), retouched (.checkbox c) ⟨notes, scroll, watched, leaf, g :: rest, options⟩) := by
  unfold updateCheckbox
  rw [paint_then (paint_geometry ..), paint_then (paint_forms (.part 0) FormProperty.checked),
    paint_then (paint_color ..),
    paint_then (paint_color ..), paint_then (paint_color ..), paint_then (paint_px ..), paint_px]
  simp only [Likeness.placed, Likeness.styled, Likeness.formed, drawn_first, drawn_leaf, retouched,
    List.modify_zero_cons, moving, sizing,
    checkboxWear, colored, measured, List.cons_append, List.nil_append,
    Figure.dressed_cons, Figure.dressed_nil]
  cases c.checked <;> rfl

lemma paint_eventBlocker (geometry : Geometry) (t : Likeness) :
    paint (applyGeometry .leaf .leaf geometry) t =
      some ((), retouched (.eventBlocker geometry) t) := by
  rw [paint_geometry]
  simp only [Likeness.placed, Likeness.styled, Likeness.drawn, retouched, sizing, moving,
    List.cons_append, List.nil_append,
    Figure.dressed_cons, Figure.dressed_nil]

lemma paint_textbox {c : TextboxChange} (plain : c.style = none) :
    paint (updateTextbox c) ⟨notes, scroll, watched, leaf, g :: rest, options⟩ =
    some ((), retouched (.textbox c) ⟨notes, scroll, watched, leaf, g :: rest, options⟩) := by
  have focuses (t : Likeness) :
      paint (if c.focus = some true then write (.part 0) .focus else pure ()) t = some ((), t) := by
    split
    · exact congrArg (fun t => some ((), t)) (drawn_id (fun _ => rfl) (.part 0))
    · rfl
  unfold updateTextbox
  dsimp only
  rw [plain, paint_then (paint_geometry ..), paint_then paint_each, paint_then (paint_style ..),
    paint_then (paint_color ..),
    paint_then (paint_color ..), paint_then (paint_px ..), paint_then (paint_px ..),
    paint_then (paint_forms (.part 0) FormProperty.value), focuses]
  simp only [Likeness.placed, Likeness.styled, Likeness.formed, drawn_first, drawn_leaf, retouched,
    List.modify_zero_cons, moving, sizing,
    textboxWear, colored, measured, List.cons_append, List.nil_append,
    Figure.dressed_cons, Figure.dressed_nil]
  cases c.text <;> rfl

@[simp] lemma drawn_third {g₁ g₂ : Figure} (f : Figure → Figure) :
    Likeness.drawn ⟨notes, scroll, watched, leaf, g :: g₁ :: g₂ :: rest, options⟩ f (.part 2) =
      ⟨notes, scroll, watched, leaf, g :: g₁ :: f g₂ :: rest, options⟩ := by
  simp [Likeness.drawn, List.modify_succ_cons]

lemma paint_button {c : ButtonChange} {g₁ g₂ : Figure} (plain : c.style = none) :
    paint (updateButton c) ⟨notes, scroll, watched, leaf, g :: g₁ :: g₂ :: rest, options⟩ =
      some ((),
        retouched (.button c) ⟨notes, scroll, watched, leaf, g :: g₁ :: g₂ :: rest, options⟩) := by
  have read (t : Likeness) :
      paint (Craft.call (.html (.part 2))) t = some ((t.figure (.part 2)).html, t) := rfl
  have lettered (t : Likeness) :
      paint (each c.content fun content => write (.part 2) (.html (Markdown.render content))) t =
        some ((), t.drawn (·.lettered c.content) (.part 2)) := by
    cases c.content with
    | none => exact congrArg (fun t => some ((), t)) (drawn_id (fun _ => rfl) (.part 2)).symm
    | some content => rfl
  have complete :
      ¬(Likeness.view ⟨notes, scroll, watched, leaf, g :: g₁ :: g₂ :: rest, options⟩).parts <
        3 := by simp [Likeness.view]
  have dressed (t : Likeness) : paint (do
      styleColor (.part 0) "background" c.color
      styleColor (.part 0) "--hover-color" c.hoverColor
      styleColor (.part 0) "border-color" c.outlineColor
      stylePx (.part 0) "border-width" c.outlineWidth
      stylePx (.part 0) "border-radius" c.borderRadius
      each c.style (applyTextStyle (.part 1) (.part 2))) t =
      some ((), t.styled (.part 0) "background" (c.color.map Color.css)
        |>.styled (.part 0) "--hover-color" (c.hoverColor.map Color.css)
        |>.styled (.part 0) "border-color" (c.outlineColor.map Color.css)
        |>.styled (.part 0) "border-width" (c.outlineWidth.map px)
        |>.styled (.part 0) "border-radius" (c.borderRadius.map px)) := by
    rw [plain, paint_then (paint_color ..), paint_then (paint_color ..),
      paint_then (paint_color ..), paint_then (paint_px ..),
      paint_then (paint_px ..), paint_each]
  unfold updateButton
  dsimp only
  rw [paint_then paint_look, if_neg complete, paint_then (paint_geometry ..),
    paint_then (lettered _), paint_then (read _)]
  simp only [Likeness.placed, Likeness.styled, drawn_first, drawn_third, drawn_leaf, retouched,
    List.modify_zero_cons,
    List.modify_succ_cons, moving, sizing, buttonWear, colored, measured, List.cons_append,
    List.nil_append, Figure.dressed_cons,
    Figure.dressed_nil]
  change paint (if (g₂.lettered c.content).html.isEmpty then _ else _) _ =
    some ((), Likeness.mk _ _ _ _ (_ :: _ ::
      (if (g₂.lettered c.content).html.isEmpty then (g₂.lettered c.content).written
        (.html " ") else g₂.lettered c.content) :: _) _)
  split
  · rw [paint_then (paint_write _ (.html " ") fun same => by cases same), dressed]
    simp only [Likeness.styled, drawn_first, drawn_third]
  · rw [dressed]
    simp only [Likeness.styled, drawn_first]

/-! ### Dropdowns -/

/-- The last option, redrawn. -/
lemma drawn_last {parts : List Figure} (f : Figure → Figure) :
    Likeness.drawn ⟨notes, scroll, watched, leaf, parts, options ++ [g]⟩ f
      (.option options.length) =
      ⟨notes, scroll, watched, leaf, parts, options ++ [f g]⟩ := by
  simp [Likeness.drawn, List.modify_eq_take_cons_drop]

/-- A new entry hangs under the first part. -/
lemma paint_entry (index : Nat) (label : String) : paint (do
      let option ← addOption (.part 0) .option
      attr option "value" (toString index)
      write option (.text label)) ⟨notes, scroll, watched, leaf, g :: rest, options⟩ =
    some ((),
      ⟨notes, scroll, watched, leaf,
        { g with below := g.below ++ [.option options.length] } :: rest,
        options ++ [Figure.entry index label]⟩) := by
  -- Entries of a dropdown do not take the focus.
  have plain (t : Likeness) : t.newOption .option = .fresh .option := by
    unfold Likeness.newOption
    split <;> rfl
  rw [paint_then (paint_addOption ..), paint_then (paint_attr ..),
    paint_write _ (.text label) nofun]
  simp only [Likeness.withOption, Likeness.hung, drawn_first, plain, drawn_last]
  rfl

/-- New entries hang under the first part. -/
lemma paint_entries (index : Nat) (labels : List String) :
    paint (addDropdownOptions (.part 0) index labels)
    ⟨notes, scroll, watched, leaf, g :: rest, options⟩ =
      some ((),
        ⟨notes, scroll, watched, leaf,
          { g with below := g.below ++ (List.range' options.length labels.length).map .option } ::
            rest,
          options ++ Figure.entries index labels⟩) := by
  induction labels generalizing index g options with
  | nil => simp [addDropdownOptions, Figure.entries, paint_pure]
  | cons label labels ih =>
    have steps : addDropdownOptions (.part 0) index (label :: labels) = (do
      let option ← addOption (.part 0) .option
      attr option "value" (toString index)
      write option (.text label)) >>= fun _ =>
        addDropdownOptions (.part 0) (index + 1) labels := rfl
    rw [steps, paint_then (paint_entry ..), ih]
    simp [Figure.entries, List.range'_succ]

/-- What an update does to the entries of a dropdown. -/
lemma paint_relisted (labels : Option (List String)) : paint (each labels fun labels => do
      Craft.call .clearOptions
      addDropdownOptions (.part 0) 0 labels) ⟨notes, scroll, watched, leaf, [g], options⟩ =
    some ((),
      ⟨notes, scroll, watched, leaf.listing (labels.map fun _ => 0),
        [g.listing (labels.map List.length)],
        (labels.map (Figure.entries 0)).getD options⟩) := by
  cases labels with
  | none => rfl
  | some labels =>
    have cleared (t : Likeness) :
        paint (Craft.call .clearOptions) t = some ((), t.withoutOptions) := rfl
    rw [paint_each]
    dsimp only
    rw [paint_then (cleared _)]
    refine (paint_entries ..).trans ?_
    simp [Figure.listing, Likeness.bare, List.range_eq_range']

lemma paint_dropdown {c : DropdownChange} (plain : c.style = none) :
    paint (updateDropdown c) ⟨notes, scroll, watched, leaf, [g], options⟩ =
      some ((), retouched (.dropdown c) ⟨notes, scroll, watched, leaf, [g], options⟩) := by
  have noted (t : Likeness) :
      paint (each c.selected fun selected => remember fun n =>
        { n with selected := some selected }) t =
        some ((), { t with
          notes := { t.notes with selected := c.selected.or t.notes.selected } }) := by
    cases c.selected <;> rfl
  have dressed (t : Likeness) : paint (do
      style (.part 0) "border-style" "solid"
      styleColor (.part 0) "background-color" c.background
      styleColor (.part 0) "border-color" c.strokeColor
      stylePx (.part 0) "border-width" c.strokeWidth
      stylePx (.part 0) "border-radius" c.borderRadius) t =
      some ((), t.styled (.part 0) "border-style" (some "solid")
        |>.styled (.part 0) "background-color" (c.background.map Color.css)
        |>.styled (.part 0) "border-color" (c.strokeColor.map Color.css)
        |>.styled (.part 0) "border-width" (c.strokeWidth.map px)
        |>.styled (.part 0) "border-radius" (c.borderRadius.map px)) := by
    rw [paint_then (paint_style ..), paint_then (paint_color ..), paint_then (paint_color ..),
      paint_then (paint_px ..), paint_px]
  unfold updateDropdown
  dsimp only
  rw [plain, paint_then (paint_geometry ..), paint_then paint_each]
  simp only [Likeness.placed, Likeness.styled, drawn_first, drawn_leaf]
  rw [paint_then (paint_relisted _), paint_then (noted _)]
  split
  · next chosen =>
    have selects : selecting c notes.selected = fun f =>
        { f with selectedIndex := (c.selected.or notes.selected).or f.selectedIndex } :=
      funext fun f => if_pos chosen
    rw [paint_then paint_look,
      paint_then (paint_forms (.part 0) FormProperty.selectedIndex), dressed]
    simp only [Likeness.styled, Likeness.formed, Likeness.view, drawn_first, retouched, selects,
      List.modify_zero_cons, moving, sizing,
      dropdownWear, colored, measured, List.cons_append, List.nil_append,
      Figure.dressed_cons, Figure.dressed_nil]
    cases c.selected.or notes.selected <;> cases c.options <;> rfl
  · next same =>
    have keeps : selecting c notes.selected = id := funext fun f => if_neg same
    rw [dressed]
    simp only [Likeness.styled, drawn_first, retouched, keeps,
      List.modify_zero_cons, moving, sizing,
      dropdownWear, colored, measured, List.cons_append, List.nil_append,
      Figure.dressed_cons, Figure.dressed_nil]
    cases c.options <;> rfl

/-! ### Sliders -/

/-- A value that differs from the one written last. -/
def fresh (cached value : Option Float) : Option Float :=
  if differs cached value then value else none

/-- What a slider is told of an update. -/
def news (cache : SliderCache) (c : SliderChange) : SliderChange :=
  { c with
    value := fresh cache.value c.value, step := fresh cache.step c.step
    min := fresh cache.min c.min, max := fresh cache.max c.max }

/-- What was written last, after an update. -/
def SliderCache.told (cache : SliderCache) (c : SliderChange) : SliderCache :=
  ⟨c.value.or cache.value, c.step.or cache.step, c.min.or cache.min, c.max.or cache.max⟩

lemma paint_writeIfNew (t : Likeness) (spot : Spot) (cached value : Option Float)
    (property : Float → FormProperty) :
    paint (writeIfNew spot cached value property) t =
      some ((fresh cached value).or cached, t.formed spot ((fresh cached value).map property)) := by
  have idle : t.formed spot none = t := drawn_id (fun _ => rfl) spot
  cases value with
  | none =>
    have none_new : fresh cached none = none := by
      unfold fresh
      split <;> rfl
    rw [none_new, Option.map_none, idle]
    rfl
  | some x =>
    unfold writeIfNew fresh
    dsimp only
    split
    · rw [paint_then (paint_form ..)]
      rfl
    · rw [Option.map_none, idle]
      rfl

/-- A slider is told only what is new to it. -/
lemma paint_slider (c : SliderChange) :
    paint (updateSlider c) ⟨notes, scroll, watched, leaf, g :: rest, options⟩ =
    some ((),
      { retouched (.slider (news notes.slider c))
        ⟨notes, scroll, watched, leaf, g :: rest, options⟩ with
      notes := { notes with slider := SliderCache.told notes.slider (news notes.slider c) } }) := by
  unfold updateSlider
  dsimp only
  rw [paint_then paint_look, paint_then (paint_geometry ..), paint_then (paint_writeIfNew ..),
    paint_then (paint_writeIfNew ..),
    paint_then (paint_writeIfNew ..), paint_then (paint_writeIfNew ..),
    paint_then (paint_remember ..), paint_then (paint_color ..),
    paint_then (paint_color ..), paint_px]
  simp only [Likeness.placed, Likeness.styled, Likeness.formed, drawn_first, drawn_leaf, retouched,
    List.modify_zero_cons, moving, sizing,
    sliderWear, colored, measured, List.cons_append, List.nil_append,
    Figure.dressed_cons, Figure.dressed_nil]
  simp only [news, Likeness.view]
  cases fresh notes.slider.min c.min <;> cases fresh notes.slider.max c.max <;>
    cases fresh notes.slider.step c.step <;> cases fresh notes.slider.value c.value <;> rfl

end Painted

/-! ## Updates in turn -/

section Laws

variable (g : Figure)

lemma Figure.redressed {first second both : Wear} (followed : first.followed second = both)
    (same : first.map Prod.fst = second.map Prod.fst)
    (distinct : (first.map Prod.fst).Nodup) : (g.dressed first).dressed second = g.dressed both :=
  followed ▸ g.dressed_dressed first second same distinct

lemma dressed_moving (c c' : Geometry) :
    (g.dressed (moving c)).dressed (moving c') = g.dressed (moving (c.followed c')) :=
  g.redressed (by simp [moving, Wear.followed, Geometry.followed, Option.map_or])
    rfl (by simp [moving])

lemma dressed_placing (c c' : Geometry) :
    (g.dressed (sizing c ++ moving c)).dressed (sizing c' ++ moving c') =
      g.dressed (sizing (c.followed c') ++ moving (c.followed c')) :=
  g.redressed (by simp [sizing, moving, Wear.followed, Geometry.followed, Option.map_or]) rfl
    (by simp [sizing, moving])

lemma dressed_button (c c' : ButtonChange) :
    (g.dressed (buttonWear c)).dressed (buttonWear c') = g.dressed (buttonWear (c.followed c')) :=
  g.redressed
    (by simp [buttonWear, sizing, colored, measured, Wear.followed, ButtonChange.followed,
      Geometry.followed, Option.map_or]) rfl
    (by simp [buttonWear, sizing, colored, measured])

lemma dressed_checkbox (c c' : CheckboxChange) :
    (g.dressed (checkboxWear c)).dressed (checkboxWear c') =
      g.dressed (checkboxWear (c.followed c')) :=
  g.redressed
    (by simp [checkboxWear, sizing, colored, measured, Wear.followed, CheckboxChange.followed,
      Geometry.followed, Option.map_or])
    rfl (by simp [checkboxWear, sizing, colored, measured])

lemma dressed_textbox (c c' : TextboxChange) :
    (g.dressed (textboxWear c)).dressed (textboxWear c') =
      g.dressed (textboxWear (c.followed c')) :=
  g.redressed
    (by simp [textboxWear, sizing, colored, measured, Wear.followed, TextboxChange.followed,
      Geometry.followed, Option.map_or])
    rfl (by simp [textboxWear, sizing, colored, measured])

lemma dressed_slider (c c' : SliderChange) :
    (g.dressed (sliderWear c)).dressed (sliderWear c') = g.dressed (sliderWear (c.followed c')) :=
  g.redressed
    (by simp [sliderWear, sizing, colored, measured, Wear.followed, SliderChange.followed,
      Geometry.followed, Option.map_or]) rfl
    (by simp [sliderWear, sizing, colored, measured])

lemma dressed_dropdown (c c' : DropdownChange) :
    (g.dressed (dropdownWear c)).dressed (dropdownWear c') =
      g.dressed (dropdownWear (c.followed c')) :=
  g.redressed
    (by simp [dropdownWear, sizing, colored, measured, Wear.followed, DropdownChange.followed,
      Geometry.followed, Option.map_or])
    rfl (by simp [dropdownWear, sizing, colored, measured])

variable {g}

/-- Styles and the form state change apart from each other. -/
lemma Figure.dressed_held {first second both : Wear} {f f' f'' : FormState → FormState}
    (dressed : (g.dressed first).dressed second = g.dressed both) (held : ∀ s, f' (f s) = f'' s) :
    (((g.dressed first).holding f).dressed second).holding f' = (g.dressed both).holding f'' := by
  change ((g.dressed first).dressed second).holding (fun s => f' (f s)) = _
  rw [dressed, funext held]

lemma modify_twice {parts : List Figure} {f f' f'' : Figure → Figure} (i : Nat)
    (same : ∀ g, f' (f g) = f'' g) :
    (parts.modify i f).modify i f' = parts.modify i f'' := by
  rw [List.modify_modify_eq]
  exact congrArg (parts.modify i) (funext same)

lemma selecting_selecting (c c' : DropdownChange) (noted : Option UInt32) (f : FormState) :
    selecting c' (c.selected.or noted) (selecting c noted f) =
      selecting (c.followed c') noted f := by
  obtain ⟨_, options, selected, _⟩ := c
  obtain ⟨_, options', selected', _⟩ := c'
  cases options <;> cases selected <;> cases options' <;> cases selected' <;> cases noted <;> rfl

/-- Two updates in turn come to one. -/
theorem retouched_retouched (first second : Change)
    (same : first.widget = second.widget) (t : Likeness) :
    retouched second (retouched first t) = retouched (first.followed second) t := by
  cases first <;> cases second <;> try cases same
  case text.text | radioSet.radioSet | scroller.scroller => rfl
  case eventBlocker.eventBlocker c c' =>
    exact Likeness.ext rfl rfl rfl (dressed_placing _ c c') rfl rfl
  case button.button c c' =>
    refine Likeness.ext rfl rfl rfl (dressed_moving ..) ?_ rfl
    -- The first part and the third have nothing to do with each other.
    change (((t.parts.modify 0 _).modify 2 _).modify 0 _).modify 2 _ =
      (t.parts.modify 0 _).modify 2 _
    rw [List.modify_modify_ne _ _ (t.parts.modify 0 _) (by decide : (2 : Nat) ≠ 0),
      modify_twice 0 fun g => dressed_button g c c']
    exact modify_twice 2 (Figure.labelled_labelled _ _)
  case checkbox.checkbox c c' =>
    refine Likeness.ext rfl rfl rfl (dressed_moving ..) (modify_twice 0 fun g => ?_) rfl
    exact Figure.dressed_held (dressed_checkbox g c c') fun s => by
      simp only [CheckboxChange.followed, Option.getD_or]
  case textbox.textbox c c' =>
    refine Likeness.ext rfl rfl rfl (dressed_moving ..) (modify_twice 0 fun g => ?_) rfl
    exact Figure.dressed_held (dressed_textbox g c c') fun s => by
      simp only [TextboxChange.followed, Option.getD_or]
  case slider.slider c c' =>
    refine Likeness.ext rfl rfl rfl (dressed_moving ..) (modify_twice 0 fun g => ?_) rfl
    exact Figure.dressed_held (dressed_slider g c c') fun s => by
      simp only [SliderChange.followed, Option.map_or, Option.getD_or, Option.or_assoc]
  case dropdown.dropdown c c' =>
    refine Likeness.ext ?_ rfl rfl ?_ (modify_twice 0 fun g => ?_) ?_
    · simp only [retouched, Change.followed, DropdownChange.followed, Option.or_assoc]
    · simp only [retouched, Change.followed, DropdownChange.followed, Figure.dressed_listing,
        Figure.listing_listing, dressed_moving,
        Option.map_or]
    · have chosen : selecting (c.followed c') t.notes.selected =
          selecting c' (c.selected.or t.notes.selected) ∘ selecting c t.notes.selected :=
        funext fun s => (selecting_selecting c c' t.notes.selected s).symm
      rw [Figure.dressed_holding, Figure.holding_listing, Figure.dressed_listing,
        Figure.listing_listing, dressed_dropdown, ← Option.map_or,
        chosen]
      rfl
    · simp only [retouched, Change.followed, DropdownChange.followed, Option.map_or, Option.getD_or]

end Laws

/-! ## Elements that are retouched -/

/-- Updates without a text style, of the kinds that write only what they carry. -/
def Unadorned : Change → Prop
  | .button c => c.style = none
  | .textbox c => c.style = none
  | .dropdown c => c.style = none
  | .checkbox _ | .slider _ | .eventBlocker _ => True
  | .text _ | .radioSet _ | .scroller _ => False

lemma Unadorned.followed {first second : Change} (same : first.widget = second.widget)
    (plain : Unadorned first) (plain' : Unadorned second) :
    Unadorned (first.followed second) := by
  cases first <;> cases second <;> try cases same
  case checkbox.checkbox | slider.slider | eventBlocker.eventBlocker => trivial
  case text.text | radioSet.radioSet | scroller.scroller => exact plain.elim
  case button.button c c' | textbox.textbox c c' | dropdown.dropdown c c' =>
    change c'.style.or c.style = none
    rw [show c.style = none from plain, show c'.style = none from plain']
    rfl

lemma widget_followed (first second : Change) : (first.followed second).widget = second.widget := by
  cases first <;> cases second <;> rfl

/-- A plain update retouches the element; a slider compares what it carries first. -/
theorem paint_plain (id : UInt32) {change : Change} (plain : Unadorned change)
    (other : change.widget ≠ .slider) {t : Likeness}
    (parts : t.parts.length = partCount change.widget) :
    paint (Craft.update id change) t = some ((), retouched change t) := by
  obtain ⟨notes, scroll, watched, leaf, figures, options⟩ := t
  cases change with
  | text | radioSet | scroller => exact plain.elim
  | slider => exact absurd rfl other
  | eventBlocker g =>
    rw [Craft.update]
    exact paint_eventBlocker g _
  | checkbox c =>
    obtain ⟨g, rfl⟩ := List.length_eq_one_iff.1 parts
    rw [Craft.update]
    exact paint_checkbox c
  | textbox c =>
    obtain ⟨g, rfl⟩ := List.length_eq_one_iff.1 parts
    rw [Craft.update]
    exact paint_textbox plain
  | dropdown c =>
    obtain ⟨g, rfl⟩ := List.length_eq_one_iff.1 parts
    rw [Craft.update]
    exact paint_dropdown plain
  | button c =>
    obtain ⟨g, g₁, g₂, rfl⟩ := List.length_eq_three.1 parts
    rw [Craft.update]
    exact paint_button plain

lemma length_drawn (t : Likeness) (f : Figure → Figure) (spot : Spot) :
    (t.drawn f spot).parts.length = t.parts.length := by
  cases spot with
  | leaf => rfl
  | part i =>
    simp only [Likeness.drawn]
    split
    · exact List.length_modify ..
    · rfl
  | option i =>
    simp only [Likeness.drawn]
    split <;> rfl

lemma length_withPart (t : Likeness) (parent : Spot) (kind : NodeKind) :
    (t.withPart parent kind).parts.length = t.parts.length + 1 := by
  rw [Likeness.withPart, List.length_append, Likeness.hung, length_drawn]
  rfl

lemma Modest.keeps_parts {widget : Widget} (t : Likeness) (r : BenchRequest) (reply : r.Reply)
    (t' : Likeness) (modest : Modest widget r)
    (performed : t.perform r = some (reply, t')) : t'.parts.length = t.parts.length := by
  cases r with
  | addPart | sample => exact modest.elim
  | look | note | html | resizeRegion | useFont =>
    cases performed
    rfl
  | addOption =>
    cases performed
    exact length_drawn ..
  | clearOptions =>
    cases performed
    exact List.length_map _
  | write spot w =>
    cases w with
    | bind => exact modest.elim
    | observe =>
      obtain ⟨_, rfl⟩ := modest
      cases performed
      rfl
    | attr | style | noStyle | linkStyle | html | text | form | focus =>
      cases spot <;> cases performed <;> exact length_drawn ..

lemma length_updated {id : UInt32} {change : Change} {t t' : Likeness}
    (painted : paint (Craft.update id change) t = some ((), t')) :
    t'.parts.length = t.parts.length :=
  (modest_update id change).paint_keeps (fun t => t.parts.length) Modest.keeps_parts painted

/-- Nobody gains or loses parts. -/
theorem abiding_parts {kind : Widget} (other : kind ≠ .scroller) :
    Abiding kind fun _ t => t.parts.length = partCount kind where
  born config id := by
    cases kind with
    | scroller => exact absurd rfl other
    | button =>
      rw [Craft.build, buildButton, paint_then (paint_addPart ..), paint_then (paint_addPart ..),
        paint_then (paint_addPart ..),
        paint_then (paint_attr ..), paint_then (paint_attr ..),
        paint_then (paint_style ..), paint_listen]
      refine ⟨_, rfl, ?_⟩
      simp only [Likeness.styled, length_drawn, length_withPart]
      rfl
    | textbox =>
      rw [Craft.build, buildTextbox, paint_then (paint_addPart ..), paint_then (paint_form ..),
        paint_then (paint_style ..),
        paint_then (paint_style ..), paint_then (paint_style ..), paint_then (paint_style ..),
        paint_then (paint_style ..),
        paint_then (paint_listen ..), paint_listen]
      refine ⟨_, rfl, ?_⟩
      simp only [Likeness.styled, length_drawn, length_withPart]
      rfl
    | slider =>
      rw [Craft.build, buildSlider, paint_then (paint_addPart ..), paint_then (paint_form ..),
        paint_then (paint_style ..),
        paint_then (paint_style ..), paint_then (paint_style ..), paint_then (paint_style ..),
        paint_then (paint_style ..), paint_listen]
      refine ⟨_, rfl, ?_⟩
      simp only [Likeness.styled, length_drawn, length_withPart]
      rfl
    | _ => exact ⟨_, rfl, rfl⟩
  moved past depth tab t parts := (List.length_map _).trans parts
  updated past id change t t' same parts painted := (length_updated painted).trans parts
  entered past spot entry t parts := by
    cases entry with
    | value | checked | selected => exact (length_drawn ..).trans parts
    | scrolled => exact (length_drawn ..).trans ((length_drawn ..).trans parts)
  fired past spot name value t parts := ⟨parts, fun state => (length_drawn ..).trans parts⟩

end LayeredPage.Proofs
