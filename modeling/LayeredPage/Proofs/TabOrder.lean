import LayeredPage.Proofs.Cosmetics
import LayeredPage.Proofs.Layering
import LayeredPage.Proofs.Selecting
import LayeredPage.Proofs.Sizing

/-!
# Tab order

Moving an element to a depth writes the depth on its leaf and a tab index on each of its controls,
and options that come later take the tab index that the element remembers. No build and no update
writes either, so at all times both are those of the last move, whatever options came and went
since.
-/

namespace LayeredPage.Proofs

open Craft Styling

/-! ## What crafts leave alone -/

lemma isFocusable_iff {kind : NodeKind} :
    kind.isFocusable = true ↔ kind ∈ [.input, .select, .button] := by
  cases kind <;> decide

/-- A figure has this tab index if it is a control, and otherwise none. -/
def Figure.Tabbed (tab : Option Int) (g : Figure) : Prop :=
  g.attributes "tabindex" = if g.kind ∈ [.input, .select, .button] then tab.map toString else none

/-- An element is at this depth, and its controls have this tab index. -/
structure Ranked (depth : Option UInt32) (tab : Option Int) (t : Likeness) : Prop where
  noted : t.notes.tabIndex = tab
  depth : t.leaf.style "z-index" = depth.map toString
  leaf : t.leaf.attributes "tabindex" = none
  parts : ∀ g ∈ t.parts, g.Tabbed tab
  options : ∀ g ∈ t.options, g.Tabbed tab

/-- Requests that note nothing and write neither a depth nor a tab index; a part is only for an
element without one. -/
def Unranking (tab : Option Int) : BenchRequest → Prop
  | .note _ => False
  | .addPart .. => tab = none
  | .write _ (.attr name _) => name ≠ "tabindex"
  | .write _ (.style property _) | .write _ (.noStyle property) => property ≠ "z-index"
  | _ => True

/-- A change of figures that matters to no rank. -/
def Rankless (f : Figure → Figure) : Prop :=
  ∀ g, (f g).attributes "tabindex" = g.attributes "tabindex" ∧ (f g).kind = g.kind ∧
    (f g).style "z-index" = g.style "z-index"

section Crafts

variable {depth : Option UInt32} {tab : Option Int} {t t' : Likeness} {g : Figure}
  {f : Figure → Figure}

lemma mem_modify_inv {gs : List Figure} {i : Nat} (hg : g ∈ gs.modify i f) :
    ∃ g' ∈ gs, g = g' ∨ g = f g' := by
  obtain ⟨j, hj, rfl⟩ := List.mem_iff_getElem.1 hg
  have inside : j < gs.length := by rwa [List.length_modify] at hj
  refine ⟨gs[j], List.getElem_mem inside, ?_⟩
  rw [List.getElem_modify]
  split
  · exact .inr rfl
  · exact .inl rfl

lemma Ranked.drawn (ranked : Ranked depth tab t) (rankless : Rankless f) (spot : Spot) :
    Ranked depth tab (t.drawn f spot) := by
  have same (g : Figure) (hg : g.Tabbed tab) : (f g).Tabbed tab := by
    obtain ⟨tabbed, kind, -⟩ := rankless g
    rw [Figure.Tabbed, tabbed, kind]
    exact hg
  have modified {gs : List Figure} (i : Nat) (all : ∀ g ∈ gs, g.Tabbed tab) :
      ∀ g ∈ gs.modify i f, g.Tabbed tab := by
    intro g hg
    obtain ⟨g', hg', rfl | rfl⟩ := mem_modify_inv hg
    · exact all g hg'
    · exact same g' (all g' hg')
  have leaf : Ranked depth tab { t with leaf := f t.leaf } :=
    ⟨ranked.noted, (rankless _).2.2.trans ranked.depth, (rankless _).1.trans ranked.leaf,
      ranked.parts, ranked.options⟩
  cases spot with
  | leaf => exact leaf
  | part i =>
    simp only [Likeness.drawn]
    split
    · exact { ranked with parts := modified i ranked.parts }
    · exact leaf
  | option i =>
    simp only [Likeness.drawn]
    split
    · exact { ranked with options := modified i ranked.options }
    · exact leaf

lemma Ranked.hung (ranked : Ranked depth tab t) (parent child : Spot) :
    Ranked depth tab (t.hung parent child) := by
  refine ranked.drawn ?_ parent
  exact fun _ => ⟨rfl, rfl, rfl⟩

lemma Ranked.withPart (ranked : Ranked depth none t) (parent : Spot) (kind : NodeKind) :
    Ranked depth none (t.withPart parent kind) := by
  have hung := ranked.hung parent (.part t.parts.length)
  refine { hung with parts := fun g hg => ?_ }
  rcases List.mem_append.1 hg with hg | hg
  · exact hung.parts g hg
  · obtain rfl := List.mem_singleton.1 hg
    exact (ite_self _).symm

lemma tabbed_newOption (noted : t.notes.tabIndex = tab) (kind : NodeKind) :
    (t.newOption kind).Tabbed tab := by
  subst noted
  unfold Likeness.newOption Figure.Tabbed
  split
  · next tab told =>
    rw [told]
    split
    · next focusable => exact (if_pos (isFocusable_iff.1 focusable)).symm
    · next idle => exact (if_neg (mt isFocusable_iff.2 idle)).symm
  · next untold =>
    rw [untold]
    exact (ite_self _).symm

lemma Ranked.withOption (ranked : Ranked depth tab t) (parent : Spot) (kind : NodeKind) :
    Ranked depth tab (t.withOption parent kind) := by
  have hung := ranked.hung parent (.option t.options.length)
  refine { hung with options := fun g hg => ?_ }
  rcases List.mem_append.1 hg with hg | hg
  · exact hung.options g hg
  · obtain rfl := List.mem_singleton.1 hg
    exact tabbed_newOption ranked.noted kind

lemma Ranked.withoutOptions (ranked : Ranked depth tab t) : Ranked depth tab t.withoutOptions where
  noted := ranked.noted
  depth := ranked.depth
  leaf := ranked.leaf
  parts g hg := by
    obtain ⟨g', hg', rfl⟩ := List.mem_map.1 hg
    exact ranked.parts g' hg'
  options g hg := by cases hg

lemma rankless_written {spot : Spot} {w : NodeWrite} (unranking : Unranking tab (.write spot w)) :
    Rankless (Figure.written w) := by
  intro g
  cases w with
  | attr name value => exact ⟨Function.update_of_ne (Ne.symm unranking) _ _, rfl, rfl⟩
  | style property value => exact ⟨rfl, rfl, if_neg (Ne.symm unranking)⟩
  | noStyle property => exact ⟨rfl, rfl, Function.update_of_ne (Ne.symm unranking) _ _⟩
  | linkStyle | html | text | form | focus | bind | observe => exact ⟨rfl, rfl, rfl⟩

lemma Ranked.perform (t : Likeness) (r : BenchRequest) (reply : r.Reply) (t' : Likeness)
    (unranking : Unranking tab r)
    (performed : t.perform r = some (reply, t')) (ranked : Ranked depth tab t) :
    Ranked depth tab t' := by
  cases r with
  | note => exact unranking.elim
  | sample => cases performed
  | look | html | useFont =>
    cases performed
    exact ranked
  | resizeRegion =>
    cases performed
    exact { ranked with }
  | addPart parent kind =>
    obtain rfl : tab = none := unranking
    cases performed
    exact ranked.withPart parent kind
  | addOption parent kind =>
    cases performed
    exact ranked.withOption parent kind
  | clearOptions =>
    cases performed
    exact ranked.withoutOptions
  | write spot w =>
    cases w with
    | observe =>
      cases spot with
      | leaf =>
        cases performed
        exact { ranked with }
      | part | option => cases performed
    | attr | style | noStyle | linkStyle | html | text | form | focus | bind =>
      cases spot <;> cases performed <;> exact ranked.drawn (rankless_written unranking) _

/-! ### The steps of builds and updates -/

variable {α : Type} {craft : Craft α}

lemma Uses.keepsRank (uses : Uses (Unranking tab) craft) : Conserves (Ranked depth tab) craft :=
  uses.conserves Ranked.perform

lemma Uses.cosmetic_keepsRank (uses : Uses Cosmetic craft) : Conserves (Ranked depth tab) craft :=
  (uses.mono fun r cosmetic => by
    cases r with
    | write spot w => cases w <;> first | exact cosmetic | exact cosmetic.elim
    | look | html | useFont => trivial
    | note | addPart | addOption | clearOptions | sample | resizeRegion =>
      exact cosmetic.elim : Uses (Unranking tab) craft).keepsRank

lemma keepsRank_call (r : BenchRequest) (unranking : Unranking tab r) :
    Conserves (Ranked depth tab) (Craft.call r) :=
  Uses.keepsRank ⟨unranking, fun _ => trivial⟩

lemma keepsRank_style (spot : Spot) {property : String}
    (other : property ≠ "z-index") (value : String) :
    Conserves (Ranked depth tab) (style spot property value) :=
  (cosmetic_style spot other value).cosmetic_keepsRank

lemma keepsRank_color (spot : Spot) {property : String} (other : property ≠ "z-index")
    (color : Option Color) :
    Conserves (Ranked depth tab) (styleColor spot property color) :=
  (cosmetic_color spot other color).cosmetic_keepsRank

lemma keepsRank_px (spot : Spot) {property : String} (other : property ≠ "z-index")
    (x : Option Float) :
    Conserves (Ranked depth tab) (stylePx spot property x) :=
  (cosmetic_px spot other x).cosmetic_keepsRank

lemma keepsRank_geometry (placed sized : Spot) (g : Geometry) :
    Conserves (Ranked depth tab) (applyGeometry placed sized g) :=
  (cosmetic_geometry placed sized g).cosmetic_keepsRank

lemma keepsRank_textStyle (container element : Spot) (s : TextStyle) :
    Conserves (Ranked depth tab) (applyTextStyle container element s) :=
  (cosmetic_textStyle container element s).cosmetic_keepsRank

lemma keepsRank_attr (spot : Spot) {name : String} (other : name ≠ "tabindex") (value : String) :
    Conserves (Ranked depth tab) (attr spot name value) :=
  keepsRank_call (.write spot (.attr name value)) other

lemma keepsRank_form (spot : Spot) (property : FormProperty) :
    Conserves (Ranked depth tab) (setForm spot property) :=
  keepsRank_call (.write spot (.form property)) trivial

lemma keepsRank_remember {change : Notes → Notes} (kept : ∀ n, (change n).tabIndex = n.tabIndex) :
    Conserves (Ranked depth tab) (remember change) :=
  conserves_remember fun t ranked => { ranked with noted := (kept t.notes).trans ranked.noted }

lemma keepsRank_text (c : TextChange) : Conserves (Ranked depth tab) (updateText c) := by
  have freed (auto : Bool) {property : String} (other : property ≠ "z-index") :
      Conserves (Ranked depth tab) (free auto property) :=
    conserves_ite (keepsRank_call (.write .leaf (.noStyle property)) other) (conserves_pure ())
  rw [updateText_steps]
  refine (keepsRank_call .look trivial).bind fun e => ?_
  refine Conserves.bind (conserves_ite ?_ (conserves_pure ())) fun _ =>
    (keepsRank_geometry ..).bind fun _ => ?_
  · exact (keepsRank_call (.write .leaf .observe) trivial).bind fun _ =>
      keepsRank_remember fun _ => rfl
  refine (freed _ (by decide)).bind fun _ => ?_
  refine (freed _ (by decide)).bind fun _ => ?_
  unfold finish
  refine (conserves_each fun editable => (keepsRank_attr _ (by decide) _).bind fun _ =>
    conserves_ite ?_ (conserves_pure ())).bind fun _ => ?_
  · refine (keepsRank_style _ (by decide) _).bind fun _ => ?_
    refine (keepsRank_style _ (by decide) _).bind fun _ => ?_
    exact keepsRank_style _ (by decide) _
  refine (conserves_each fun s => keepsRank_textStyle ..).bind fun _ => ?_
  refine (conserves_each fun s => keepsRank_remember ?_).bind fun _ => ?_
  · exact fun _ => rfl
  have relink (again : Bool) :
      Conserves (Ranked depth tab)
        (if again then do each (← Craft.call .look).linkStyle (applyLinkStyle .leaf
          (.part 0)) else pure ()) := by
    refine conserves_ite ((keepsRank_call .look trivial).bind fun view => ?_) (conserves_pure ())
    exact conserves_each fun s => (cosmetic_linkStyle ..).cosmetic_keepsRank
  dsimp only
  refine conserves_ite ((conserves_each fun html => ?_).bind fun _ => relink _) (relink _)
  exact (keepsRank_call (.write _ (.html html)) trivial).bind fun _ =>
    keepsRank_remember fun _ => rfl

lemma keepsRank_button (c : ButtonChange) : Conserves (Ranked depth tab) (updateButton c) := by
  unfold updateButton
  refine (keepsRank_call .look trivial).bind fun view => conserves_ite (conserves_pure ()) ?_
  refine (keepsRank_geometry ..).bind fun _ => ?_
  refine (conserves_each fun content => keepsRank_call (.write _ (.html _)) trivial).bind
    fun _ => ?_
  refine (keepsRank_call (.html _) trivial).bind fun label => ?_
  extract_lets jump
  have after (u) : Conserves (Ranked depth tab) (jump u) := by
    refine (keepsRank_color _ (by decide) _).bind fun _ => ?_
    refine (keepsRank_color _ (by decide) _).bind fun _ => ?_
    refine (keepsRank_color _ (by decide) _).bind fun _ => ?_
    refine (keepsRank_px _ (by decide) _).bind fun _ => ?_
    exact (keepsRank_px _ (by decide) _).bind fun _ => conserves_each fun _ =>
      keepsRank_textStyle ..
  exact conserves_ite ((keepsRank_call (.write _ (.html _)) trivial).bind after) (after ())

lemma keepsRank_checkbox (c : CheckboxChange) :
    Conserves (Ranked depth tab) (updateCheckbox c) := by
  unfold updateCheckbox
  refine (keepsRank_geometry ..).bind fun _ => ?_
  refine (conserves_each fun _ => keepsRank_form ..).bind fun _ => ?_
  refine (keepsRank_color _ (by decide) _).bind fun _ => ?_
  refine (keepsRank_color _ (by decide) _).bind fun _ => ?_
  refine (keepsRank_color _ (by decide) _).bind fun _ => ?_
  exact (keepsRank_px _ (by decide) _).bind fun _ => keepsRank_px _ (by decide) _

lemma keepsRank_textbox (c : TextboxChange) : Conserves (Ranked depth tab) (updateTextbox c) := by
  unfold updateTextbox
  refine (keepsRank_geometry ..).bind fun _ => ?_
  refine (conserves_each fun _ => keepsRank_textStyle ..).bind fun _ => ?_
  refine (keepsRank_style _ (by decide) _).bind fun _ => ?_
  refine (keepsRank_color _ (by decide) _).bind fun _ => ?_
  refine (keepsRank_color _ (by decide) _).bind fun _ => ?_
  refine (keepsRank_px _ (by decide) _).bind fun _ => ?_
  refine (keepsRank_px _ (by decide) _).bind fun _ => ?_
  refine (conserves_each fun _ => keepsRank_form ..).bind fun _ => ?_
  exact conserves_ite (keepsRank_call (.write _ .focus) trivial) (conserves_pure ())

lemma keepsRank_writeIfNew (input : Spot) (cached value : Option Float)
    (property : Float → FormProperty) :
    Conserves (Ranked depth tab) (writeIfNew input cached value property) := by
  unfold writeIfNew
  cases value with
  | none => exact conserves_pure _
  | some x =>
    exact conserves_ite ((keepsRank_form ..).bind fun _ => conserves_pure _) (conserves_pure _)

lemma keepsRank_slider (c : SliderChange) : Conserves (Ranked depth tab) (updateSlider c) := by
  unfold updateSlider
  refine (keepsRank_call .look trivial).bind fun view => ?_
  refine (keepsRank_geometry ..).bind fun _ => ?_
  refine (keepsRank_writeIfNew ..).bind fun _ => ?_
  refine (keepsRank_writeIfNew ..).bind fun _ => ?_
  refine (keepsRank_writeIfNew ..).bind fun _ => ?_
  refine (keepsRank_writeIfNew ..).bind fun _ => ?_
  refine (keepsRank_remember ?_).bind fun _ => ?_
  · exact fun _ => rfl
  refine (keepsRank_color _ (by decide) _).bind fun _ => ?_
  exact (keepsRank_color _ (by decide) _).bind fun _ => keepsRank_px _ (by decide) _

lemma keepsRank_dropdownOptions (select : Spot) (index : Nat) (labels : List String) :
    Conserves (Ranked depth tab) (addDropdownOptions select index labels) := by
  induction labels generalizing index with
  | nil => exact conserves_pure ()
  | cons label rest ih =>
    refine (keepsRank_call (.addOption _ _) trivial).bind fun option => ?_
    refine (keepsRank_attr _ (by decide) _).bind fun _ => ?_
    exact (keepsRank_call (.write option (.text label)) trivial).bind fun _ => ih _

lemma keepsRank_dropdown (c : DropdownChange) :
    Conserves (Ranked depth tab) (updateDropdown c) := by
  unfold updateDropdown
  refine (keepsRank_geometry ..).bind fun _ => ?_
  refine (conserves_each fun _ => keepsRank_textStyle ..).bind fun _ => ?_
  refine (conserves_each fun _ => (keepsRank_call .clearOptions trivial).bind fun _ =>
    keepsRank_dropdownOptions ..).bind fun _ => ?_
  refine (conserves_each fun _ => keepsRank_remember ?_).bind fun _ => ?_
  · exact fun _ => rfl
  extract_lets jump
  have after (u) : Conserves (Ranked depth tab) (jump u) := by
    refine (keepsRank_style _ (by decide) _).bind fun _ => ?_
    refine (keepsRank_color _ (by decide) _).bind fun _ => ?_
    refine (keepsRank_color _ (by decide) _).bind fun _ => ?_
    refine (keepsRank_px _ (by decide) _).bind fun _ => ?_
    exact keepsRank_px _ (by decide) _
  refine conserves_ite ((keepsRank_call .look trivial).bind fun view => ?_) (after ())
  exact (conserves_each fun _ => keepsRank_form ..).bind after

lemma keepsRank_radioRow (fieldset : Spot) (group label : String) :
    Conserves (Ranked depth tab) (addRadioRow fieldset group label) := by
  unfold addRadioRow
  refine (keepsRank_call (.addOption _ _) trivial).bind fun row => ?_
  refine (keepsRank_call (.addOption _ _) trivial).bind fun input => ?_
  refine (keepsRank_call (.addOption _ _) trivial).bind fun caption => ?_
  refine (keepsRank_style _ (by decide) _).bind fun _ => ?_
  refine (keepsRank_style _ (by decide) _).bind fun _ => ?_
  refine (keepsRank_style _ (by decide) _).bind fun _ => ?_
  refine (keepsRank_form ..).bind fun _ => ?_
  refine (keepsRank_attr _ (by decide) _).bind fun _ => ?_
  refine (keepsRank_attr _ (by decide) _).bind fun _ => ?_
  exact (keepsRank_attr _ (by decide) _).bind fun _ => keepsRank_call (.write _ (.text _)) trivial

lemma keepsRank_radioSet (id : UInt32) (c : RadioSetChange) :
    Conserves (Ranked depth tab) (updateRadioSet id c) := by
  unfold updateRadioSet
  have rebuilt (labels : List String) : Conserves (Ranked depth tab) (do
      Craft.call .clearOptions
      labels.forM (addRadioRow (.part 0) (radioGroup id))) :=
    (keepsRank_call .clearOptions trivial).bind fun _ => conserves_forM fun _ =>
      keepsRank_radioRow ..
  refine (keepsRank_geometry ..).bind fun _ => ?_
  refine (conserves_each fun _ => keepsRank_textStyle ..).bind fun _ => ?_
  refine (conserves_each rebuilt).bind fun _ => ?_
  refine (conserves_each fun _ => keepsRank_remember ?_).bind fun _ => ?_
  · exact fun _ => rfl
  extract_lets jump
  have after (u) : Conserves (Ranked depth tab) (jump u) := by
    refine (keepsRank_color _ (by decide) _).bind fun _ => ?_
    refine (keepsRank_color _ (by decide) _).bind fun _ => ?_
    exact (keepsRank_color _ (by decide) _).bind fun _ => keepsRank_px _ (by decide) _
  refine conserves_ite ((keepsRank_call .look trivial).bind fun view => ?_) (after ())
  exact (conserves_each fun _ => keepsRank_form ..).bind after

lemma keepsRank_scroller (c : ScrollerChange) :
    Conserves (Ranked depth tab) (updateScroller c) := by
  unfold updateScroller
  refine (keepsRank_geometry ..).bind fun _ => ?_
  refine (keepsRank_call (.resizeRegion _ _) trivial).bind fun _ => ?_
  refine (keepsRank_call .look trivial).bind fun view => ?_
  refine (conserves_each fun _ => keepsRank_form ..).bind fun _ => ?_
  refine (conserves_each fun _ => keepsRank_form ..).bind fun _ => ?_
  refine (conserves_each fun _ => (keepsRank_style _ (by decide) _).bind fun _ =>
    keepsRank_style _ (by decide) _).bind fun _ => ?_
  exact conserves_each fun _ => (keepsRank_style _ (by decide) _).bind fun _ =>
    keepsRank_style _ (by decide) _

/-- No update moves an element. -/
theorem keepsRank_update (id : UInt32) (change : Change) :
    Conserves (Ranked depth tab) (Craft.update id change) := by
  cases change with
  | text c => exact keepsRank_text c
  | button c => exact keepsRank_button c
  | checkbox c => exact keepsRank_checkbox c
  | textbox c => exact keepsRank_textbox c
  | slider c => exact keepsRank_slider c
  | dropdown c => exact keepsRank_dropdown c
  | radioSet c => exact keepsRank_radioSet id c
  | scroller c => exact keepsRank_scroller c
  | eventBlocker g => exact keepsRank_geometry ..

lemma keepsRank_listen (spot : Spot) (id : UInt32) (binding : InputBinding) :
    Conserves (Ranked depth tab) (listen spot id binding) :=
  keepsRank_call (.write spot (.bind id binding)) trivial

/-- No build moves an element either, nor gives it a tab index. -/
theorem keepsRank_build (config : Config) (id : UInt32) (kind : Widget) :
    Conserves (Ranked depth none) (Craft.build config id kind) := by
  have part (parent : Spot) (kind : NodeKind) :
      Conserves (Ranked depth none) (addPart parent kind) :=
    keepsRank_call (.addPart parent kind) rfl
  cases kind with
  | text | dropdown => exact (part _ _).bind fun _ => keepsRank_listen ..
  | button =>
    refine (part _ _).bind fun _ => ?_
    refine (part _ _).bind fun _ => ?_
    refine (part _ _).bind fun _ => ?_
    refine (keepsRank_attr _ (by decide) _).bind fun _ => ?_
    refine (keepsRank_attr _ (by decide) _).bind fun _ => ?_
    refine (keepsRank_style _ (by decide) _).bind fun _ => ?_
    exact keepsRank_listen ..
  | checkbox =>
    refine (part _ _).bind fun _ => ?_
    refine (keepsRank_form ..).bind fun _ => ?_
    refine (keepsRank_attr _ (by decide) _).bind fun _ => ?_
    exact (keepsRank_style _ (by decide) _).bind fun _ => keepsRank_listen ..
  | textbox =>
    refine (part _ _).bind fun _ => ?_
    refine (keepsRank_form ..).bind fun _ => ?_
    refine (keepsRank_style _ (by decide) _).bind fun _ => ?_
    refine (keepsRank_style _ (by decide) _).bind fun _ => ?_
    refine (keepsRank_style _ (by decide) _).bind fun _ => ?_
    refine (keepsRank_style _ (by decide) _).bind fun _ => ?_
    refine (keepsRank_style _ (by decide) _).bind fun _ => ?_
    exact (keepsRank_listen ..).bind fun _ => keepsRank_listen ..
  | slider =>
    refine (part _ _).bind fun _ => ?_
    refine (keepsRank_form ..).bind fun _ => ?_
    refine (keepsRank_style _ (by decide) _).bind fun _ => ?_
    refine (keepsRank_style _ (by decide) _).bind fun _ => ?_
    refine (keepsRank_style _ (by decide) _).bind fun _ => ?_
    refine (keepsRank_style _ (by decide) _).bind fun _ => ?_
    refine (keepsRank_style _ (by decide) _).bind fun _ => ?_
    exact keepsRank_listen ..
  | radioSet =>
    refine (part _ _).bind fun _ => ?_
    refine (keepsRank_style _ (by decide) _).bind fun _ => ?_
    refine (keepsRank_style _ (by decide) _).bind fun _ => ?_
    exact (keepsRank_style _ (by decide) _).bind fun _ => keepsRank_listen ..
  | scroller => exact (part _ _).bind fun _ => keepsRank_call (.sample _ _) trivial
  | eventBlocker => exact conserves_pure ()

end Crafts

/-! ## All elements of a scene -/

/-- The depth that an episode moves an element to. -/
def Episode.depth? : Episode → Option UInt32
  | .moved depth => some depth
  | .befell _ => none

/-- The depth that an element was moved to last. -/
def depth? (past : List Episode) : Option UInt32 := past.findSome? Episode.depth?

/-- The tab index of controls at a depth. -/
def tabAt (config : Config) (depth : UInt32) : Int := config.tabIndexBase.toInt - depth.toNat

section Elements

variable {config : Config} {kind : Widget} {past : List Episode} {depth : Option UInt32}
  {tab : Option Int} {t : Likeness} {id : UInt32}

lemma ranked_started (id : UInt32) : Ranked none none (.started id) where
  noted := rfl
  depth := by simp [Likeness.started, Face.of, marked, recorded, MemoryNode.fresh]
  leaf := by simp [Likeness.started, Face.of, marked, recorded, MemoryNode.fresh, Element.leafClass,
    nativeIdAttribute, Std.ExtTreeMap.getElem?_insert]
  parts g hg := by cases hg
  options g hg := by cases hg

lemma Newborn.ranked (newborn : Newborn config id kind t) : Ranked none none t := by
  cases newborn with
  | painted painted => exact (keepsRank_build config id kind).after painted (ranked_started id)
  | sampled scroll =>
    have built := (ranked_started id).withPart .leaf .div
    exact { built with }

/-- Where an element is moved, that is its rank, whatever it was before. -/
lemma Ranked.restacked (ranked : Ranked depth tab t) (depth' : UInt32) (tab' : Int) :
    Ranked (some depth') (some tab') (t.restacked depth' tab') := by
  have tabbed {gs : List Figure} (all : ∀ g ∈ gs, g.Tabbed tab) : ∀ g ∈ gs.map (Figure.tabbed tab'),
      g.Tabbed (some tab') := by
    intro g hg
    obtain ⟨old, there, rfl⟩ := List.mem_map.1 hg
    unfold Figure.tabbed
    split
    · next focusable =>
      exact (Function.update_self "tabindex" _ old.attributes).trans
        (if_pos (isFocusable_iff.1 focusable)).symm
    · next idle =>
      refine (all old there).trans ?_
      rw [if_neg (mt isFocusable_iff.2 idle), if_neg (mt isFocusable_iff.2 idle)]
  refine ⟨rfl, ?_, ranked.leaf, tabbed ranked.parts, tabbed ranked.options⟩
  simp [Likeness.restacked, Figure.written, Figure.styled]

lemma Ranked.set (ranked : Ranked depth tab t) (spot : Spot) (property : FormProperty) :
    Ranked depth tab (t.set spot property) := by
  have unranking : Unranking tab (.write spot (.form property)) := trivial
  exact ranked.drawn (rankless_written unranking) spot

lemma Ranked.entered (ranked : Ranked depth tab t) (spot : Spot) (entry : Entry) :
    Ranked depth tab (t.entered spot entry) := by
  cases entry with
  | value | checked | selected => exact ranked.set spot _
  | scrolled => exact (ranked.set spot _).set spot _

lemma tabAt_of_tabIndex? {depth : UInt32} {tab : Int}
    (inRange : Scene.tabIndex? config depth = some tab) : tab = tabAt config depth := by
  simp only [Scene.tabIndex?] at inRange
  split at inRange
  · exact (Option.some.inj inRange).symm
  · cases inRange

theorem enduring_ranked (config : Config) (kind : Widget) :
    Enduring config kind fun _ past t =>
      Ranked (depth? past) ((depth? past).map (tabAt config)) t where
  born id t newborn := newborn.ranked
  moved id past depth tab t inRange ranked := by
    obtain rfl := tabAt_of_tabIndex? inRange
    exact ranked.restacked depth _
  befell id past incident t t' alters ranked := by
    change Ranked (depth? past) ((depth? past).map (tabAt config)) t'
    cases incident with
    | updated change => exact (keepsRank_update id change).after alters.2 ranked
    | entered spot entry =>
      obtain rfl : t' = _ := alters
      exact ranked.entered spot entry
    | fired spot name value =>
      obtain rfl | ⟨state, rfl⟩ := alters
      · exact ranked
      · exact ranked.set spot _

end Elements

section Results

variable {κ : Type} [Core κ] {mount : NodeId} {config : Config} {h₀ h : MemoryHost κ} {s : Scene}
  {deeds : List Deed} {id : UInt32} {e : Element}

/-- If all depths have tab indices, a live element can be moved to any. -/
lemma InUse.restack {base : Nat} (inUse : InUse base mount s h) (found : s.elements[id]? = some e)
    (room : -9223372036854775808 + 4294967295 ≤ s.config.tabIndexBase.toInt)
    (layer depth : UInt32) :
    Yields (Scene.apply (.restack id layer depth)) s h fun _ _ _ => True := by
  refine (inUse.sound.restack id layer depth).mono (fun _ _ _ _ => trivial) ?_ ?_
  · rintro _ _ _ ⟨_, _, _, gone⟩
    rw [found] at gone
    cases gone
  · rintro _ ⟨_, outside⟩
    have := depth.toNat_lt
    simp only [Scene.tabIndex?, ite_eq_right_iff, reduceCtorEq, imp_false] at outside
    omega

/-- In every scene in use, the leaf of an element has the depth of its last move, its controls have
the tab index of that depth, and none of its other nodes has one; without a move there is neither.
If there is a tab index for every depth, no move of a live element fails. -/
theorem tab_order_of_usage (reached : Reached h₀.document) (there : h₀.document.issued mount)
    (usage : Usage mount config h₀ deeds s h) (found : s.elements[id]? = some e) :
    styleOf? h.document e.leaf.id "z-index" = (depth? (episodes deeds id)).map toString ∧
      h.document.attributeOf? e.leaf.id "tabindex" = none ∧
      (∀ n ∈ e.fittings, ∃ node, h.document.node? n.id = some node ∧ node.kind = n.kind ∧
        node.attributes["tabindex"]? =
        if node.kind ∈ [.input, .select, .button] then
          (depth? (episodes deeds id)).map fun depth =>
            toString (config.tabIndexBase.toInt - depth.toNat)
        else none) ∧
      (-9223372036854775808 + 4294967295 ≤ config.tabIndexBase.toInt → ∀ layer depth : UInt32,
        Yields (Scene.apply (.restack id layer depth)) s h fun _ _ _ => True) := by
  have inUse := usage.inUse reached there
  have ranked := (enduring_ranked config e.widget).endures usage reached there id e found rfl
  have record (n : OwnedNode) (hn : n ∈ e.nodes) : ∃ node, h.document.node? n.id = some node ∧
      node.kind = n.kind :=
    inUse.sound.stage.owned.kinds n
      (List.mem_append_right _ (mem_elementNodes.2 ⟨id, e, found, hn⟩))
  obtain ⟨leaf, hleaf, _⟩ := record e.leaf List.mem_cons_self
  have face_leaf : (likeness e h.document).leaf.toFace = .of leaf := face_of_node? hleaf
  refine ⟨?_, ?_, fun n hn => ?_, fun room =>
    inUse.restack found (usage.config_eq reached there ▸ room)⟩
  · rw [styleOf?, hleaf]
    exact (congrArg (fun f => Face.style f "z-index") face_leaf).symm.trans ranked.depth
  · rw [MemoryDocument.attributeOf?, hleaf]
    exact (congrArg (fun f => Face.attributes f "tabindex") face_leaf).symm.trans ranked.leaf
  · obtain ⟨node, hnode, kind⟩ := record n (List.mem_cons_of_mem _ hn)
    have tabbed :
        (figure e h.document n.id).Tabbed ((depth? (episodes deeds id)).map (tabAt config)) := by
      rcases List.mem_append.1 hn with part | option
      · exact ranked.parts _ (List.mem_map_of_mem (f := fun n => figure e h.document n.id) part)
      · exact ranked.options _ (List.mem_map_of_mem (f := fun n => figure e h.document n.id) option)
    refine ⟨node, hnode, kind, ?_⟩
    rw [Figure.Tabbed, figure, face_of_node? hnode, Option.map_map] at tabbed
    exact tabbed

/-- A radio set gets its rows after it was moved, some of them from one that was moved elsewhere. -/
theorem tab_order_of_late_rows :
    ∃ (deeds : List Deed) (s : Scene) (h : MemoryHost Recorder) (e : Element),
    Usage ⟨0⟩ .standard blankPage deeds s h ∧ s.elements[(2 : UInt32)]? = some e ∧
      e.options.map (·.kind) = [.div, .input, .label, .div, .input, .label] ∧
      styleOf? h.document e.leaf.id "z-index" = some "9" ∧
      ∀ n ∈ e.fittings, ∃ node, h.document.node? n.id = some node ∧ node.kind = n.kind ∧
        node.attributes["tabindex"]? =
          if node.kind ∈ [.input, .select, .button] then some "999991" else none := by
  have run :
    (used ⟨0⟩ .standard blankPage [.patch (.create .radioSet ⟨1, none, 0⟩), .patch (.restack 1 0 4),
      .patch (.update 1 (polling (some ["a"]) none)), .patch (.delete .radioSet 1),
      .patch (.create .radioSet ⟨2, none, 0⟩), .patch (.restack 2 1 7), .patch (.restack 2 0 9),
      .patch (.update 2 (polling (some ["a", "b"]) none))]).map
      (fun r =>
        (r.2.elements[(2 : UInt32)]?.map (·.options.map (·.kind)), depth? (episodes r.1 2))) =
        some (some [.div, .input, .label, .div, .input, .label], some 9) := by decide +kernel
  obtain ⟨⟨deeds, s⟩, start, facts⟩ := Option.map_eq_some_iff.1 run
  obtain ⟨alive, last⟩ := Prod.mk.inj facts
  obtain ⟨h, usage⟩ := exists_usage start
  obtain ⟨e, found, rows⟩ := Option.map_eq_some_iff.1 alive
  obtain ⟨deep, _, tabbed, _⟩ := tab_order_of_usage reached_blankPage rfl usage found
  rw [last] at deep tabbed
  exact ⟨deeds, s, h, e, usage, found, rows, deep, tabbed⟩

end Results

end LayeredPage.Proofs
