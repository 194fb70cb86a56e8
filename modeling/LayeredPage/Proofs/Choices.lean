import LayeredPage.Proofs.Cosmetics
import LayeredPage.Proofs.Reporting
import LayeredPage.Proofs.Retouching
import LayeredPage.Proofs.Selecting

/-!
# Lists of options

A list of options replaces the one before it: its nodes go back to the pools in reverse and come out
again in another order, maybe for another element. What shows is the list that was sent last all the
same, node by node and child by child.
-/

namespace LayeredPage.Proofs

open Craft Styling

/-! ## What the updates say -/

/-- The list of options that an episode brings. -/
def listed? : Episode → Option (List String)
  | .befell (.updated (.dropdown c)) => c.options
  | .befell (.updated (.radioSet c)) => c.options
  | _ => none

/-- The selection that an episode brings. -/
def picked? : Episode → Option UInt32
  | .befell (.updated (.dropdown c)) => c.selected
  | .befell (.updated (.radioSet c)) => c.selected
  | _ => none

/-- The options that were sent last. -/
def labels (past : List Episode) : List String := (past.findSome? listed?).getD []

/-- The selection that was sent last. -/
def pick? (past : List Episode) : Option UInt32 := past.findSome? picked?

lemma labels_cons (episode : Episode) (past : List Episode) :
    labels (episode :: past) = (listed? episode).getD (labels past) := by
  rw [labels, List.findSome?_cons]
  cases listed? episode <;> rfl

lemma pick?_cons (episode : Episode) (past : List Episode) :
    pick? (episode :: past) = (picked? episode).or (pick? past) := by
  rw [pick?, List.findSome?_cons]
  cases picked? episode <;> rfl

def Episode.isEntry : Episode → Bool
  | .befell (.entered ..) => true
  | _ => false

/-! ## Menus -/

/-- What matters of an option: its kind, what hangs below it, its content and how it answers in a
form. -/
structure Imprint where
  kind : NodeKind
  below : List Spot
  html : String
  value : Option String
  name : Option String
  inputType : Option String

def imprint (g : Figure) : Imprint :=
  ⟨g.kind, g.below, g.html, g.attributes "value", g.attributes "name", g.form.inputType⟩

/-- What an element offers: the selection that it notes, the kind of each part with what hangs below
it, and its options. -/
structure Menu where
  noted : Option UInt32
  parts : List (NodeKind × List Spot)
  options : List Imprint

def menu (t : Likeness) : Menu :=
  ⟨t.notes.selected, t.parts.map fun g => (g.kind, g.below), t.options.map imprint⟩

/-- Which entry each part shows as selected. -/
def indices (t : Likeness) : List (Option UInt32) := t.parts.map (·.form.selectedIndex)

/-- A row of a radio set, whose first node has this place: the button and its caption hang below
it. -/
def row (group : String) (place : Nat) (label : String) : List Imprint :=
  [⟨.div, [.option (place + 1), .option (place + 2)], "", none, none, none⟩,
    ⟨.input, [], "", some label, some group, some "radio"⟩,
    ⟨.label, [], Text.escapeData label, none, none, none⟩]

/-- The rows for labels, from a place on. -/
def rows (group : String) : Nat → List String → List Imprint
  | _, [] => []
  | place, label :: rest => row group place label ++ rows group (place + 3) rest

section Crafts

variable {t t' : Likeness} {α : Type} {craft : Craft α} {a : α} {f : Figure → Figure}

lemma menu_drawn (same : ∀ g, imprint (f g) = imprint g) (t : Likeness) (spot : Spot) :
    menu (t.drawn f spot) = menu t := by
  have part (g : Figure) : ((f g).kind, (f g).below) = (g.kind, g.below) :=
    congrArg (fun m => (m.kind, m.below)) (same g)
  rw [menu, notes_drawn, (map_drawn (fun g => (g.kind, g.below)) part t spot).1,
    (map_drawn imprint same t spot).2]
  rfl

lemma indices_drawn (same : ∀ g, (f g).form.selectedIndex = g.form.selectedIndex)
    (t : Likeness) (spot : Spot) :
    indices (t.drawn f spot) = indices t := (map_drawn (·.form.selectedIndex) same t spot).1

lemma Cosmetic.keeps_menu (t : Likeness) (r : BenchRequest) (reply : r.Reply) (t' : Likeness)
    (cosmetic : Cosmetic r)
    (performed : t.perform r = some (reply, t')) : (menu t', indices t') = (menu t, indices t) := by
  have drawn (w : NodeWrite) (spot : Spot) (same : ∀ g : Figure, imprint (g.written w) = imprint g)
      (index : ∀ g : Figure, (g.written w).form.selectedIndex = g.form.selectedIndex) :
      (menu (t.drawn (·.written w) spot), indices (t.drawn (·.written w) spot)) =
        (menu t, indices t) := by
    rw [menu_drawn same, indices_drawn index]
  cases r with
  | note | addPart | addOption | clearOptions | sample | resizeRegion => exact cosmetic.elim
  | look | html | useFont =>
    cases performed
    rfl
  | write spot w =>
    cases w with
    | attr | html | text | form | focus | bind | observe => exact cosmetic.elim
    | style | noStyle | linkStyle =>
      cases spot <;> cases performed <;> exact drawn _ _ (fun _ => rfl) fun _ => rfl

lemma Uses.keeps_menu (uses : Uses Cosmetic craft) (painted : paint craft t = some (a, t')) :
    menu t' = menu t ∧ indices t' = indices t :=
  Prod.mk.inj (uses.paint_keeps (fun t => (menu t, indices t)) Cosmetic.keeps_menu painted)

/-- What a selection that is noted makes of a menu. -/
lemma menu_noted {selected : Option UInt32}
    (painted : paint (each selected fun n => remember fun notes =>
      { notes with selected := some n }) t = some ((), t')) :
    menu t' = { menu t with noted := selected.or t.notes.selected } ∧ indices t' = indices t := by
  cases selected <;> cases painted <;> exact ⟨rfl, rfl⟩

/-! ### New rows -/

variable {group label : String} {kind : NodeKind} {spots : List Spot} {noted : Option UInt32}
  {parts : List (NodeKind × List Spot)} {os ms : List Imprint}

lemma length_options (t : Likeness) : (menu t).options.length = t.options.length :=
  List.length_map _

lemma modify_append {γ : Type} (xs ys : List γ) (j : Nat) (f : γ → γ) :
    (xs ++ ys).modify (xs.length + j) f = xs ++ ys.modify j f := by
  induction xs with
  | nil => simp
  | cons x xs ih =>
    rw [List.length_cons, Nat.add_right_comm, List.cons_append, List.modify_succ_cons,
      ih, List.cons_append]

/-- An option that is redrawn. -/
lemma menu_drawn_option {F : Imprint → Imprint} (same : ∀ g, imprint (f g) = F (imprint g))
    {i : Nat} (inside : i < t.options.length) :
    menu (t.drawn f (.option i)) = { menu t with options := (menu t).options.modify i F } := by
  simp only [menu, Likeness.drawn, if_pos inside, map_modify same]

/-- The imprint of a new option. -/
def Imprint.fresh (kind : NodeKind) : Imprint := ⟨kind, [], "", none, none, none⟩

/-- One place more below. -/
def Imprint.over (place : Nat) (m : Imprint) : Imprint :=
  { m with below := m.below ++ [.option place] }

lemma imprint_newOption (t : Likeness) (kind : NodeKind) :
    imprint (t.newOption kind) = .fresh kind := by
  unfold Likeness.newOption
  split
  · split <;> rfl
  · rfl

lemma menu_with (t t₁ : Likeness) (kind : NodeKind) :
    menu { t₁ with options := t₁.options ++ [t.newOption kind] } =
    { menu t₁ with options := (menu t₁).options ++ [.fresh kind] } := by
  rw [menu, List.map_append, List.map_singleton, imprint_newOption]
  rfl

/-- A new option below the only part. -/
lemma menu_withOption_part (lone : (menu t).parts = [(kind, spots)]) (kind' : NodeKind) :
    menu (t.withOption (.part 0) kind') =
      ⟨(menu t).noted, [(kind, spots ++ [.option t.options.length])],
        (menu t).options ++ [.fresh kind']⟩ := by
  obtain ⟨notes, scroll, watched, leaf, parts, options⟩ := t
  obtain ⟨g, rfl, same⟩ := List.map_eq_singleton_iff.1 lone
  obtain ⟨rfl, rfl⟩ := Prod.mk.inj same
  refine (menu_with ..).trans ?_
  rw [Likeness.hung, drawn_first]
  rfl

/-- One of the last options, redrawn. -/
lemma menu_drawn_new {F : Imprint → Imprint} (here : menu t = ⟨noted, parts, os ++ ms⟩)
    (same : ∀ g, imprint (f g) = F (imprint g)) {j : Nat} (inside : j < ms.length) :
    menu (t.drawn f (.option (os.length + j))) = ⟨noted, parts, os ++ ms.modify j F⟩ := by
  have size := length_options t
  rw [here, List.length_append] at size
  rw [menu_drawn_option same (by omega), here, modify_append]

/-- A new option below one of the last. -/
lemma menu_withOption_new (here : menu t = ⟨noted, parts, os ++ ms⟩) {j : Nat}
    (inside : j < ms.length) (kind : NodeKind) :
    menu (t.withOption (.option (os.length + j)) kind) =
      ⟨noted, parts, os ++ (ms.modify j (.over (os.length + ms.length)) ++ [.fresh kind])⟩ := by
  have size := length_options t
  rw [here, List.length_append] at size
  refine (menu_with ..).trans ?_
  rw [Likeness.hung, ← size, menu_drawn_new (F := .over (os.length + ms.length)) here _ inside,
    List.append_assoc]
  exact fun _ => rfl

/-- What is written to the nodes of a new row. -/
lemma menu_lettered {a b c : Imprint} (here : menu t = ⟨noted, parts, os ++ [a, b, c]⟩)
    (painted : paint (do
      style (.option os.length) "display" "flex"
      style (.option os.length) "align-items" "center"
      style (.option os.length) "margin-bottom" "3px"
      setForm (.option (os.length + 1)) (.inputType "radio")
      attr (.option (os.length + 1)) "name" group
      attr (.option (os.length + 1)) "value" label
      attr (.option (os.length + 1)) "class" "radio-set-style"
      write (.option (os.length + 2)) (.text label)) t = some ((), t')) :
    menu t' =
      ⟨noted, parts,
        os ++ [a, { b with inputType := some "radio", name := some group, value := some label },
        { c with html := Text.escapeData label, below := [] }]⟩ := by
  rw [paint_then (paint_style ..), paint_then (paint_style ..), paint_then (paint_style ..),
    paint_then (paint_form ..),
    paint_then (paint_attr ..), paint_then (paint_attr ..), paint_then (paint_attr ..),
    paint_write _ (.text label) fun same => by cases same]
    at painted
  obtain ⟨_, rfl⟩ := Prod.mk.inj (Option.some.inj painted)
  have styled (t : Likeness) (p v : String) :
      menu (t.styled (.option os.length) p (some v)) = menu t :=
    menu_drawn (f := (·.styled p (some v))) (fun _ => rfl) t _
  have second {t : Likeness} {m : Imprint} (here : menu t = ⟨noted, parts, os ++ [a, m, c]⟩)
    (w : NodeWrite) (F : Imprint → Imprint)
    (same : ∀ g : Figure, imprint (g.written w) = F (imprint g)) :
      menu (t.drawn (·.written w) (.option (os.length + 1))) = ⟨noted, parts, os ++ [a, F m, c]⟩ :=
    menu_drawn_new here same (j := 1) (Nat.succ_lt_succ (Nat.succ_pos _))
  have third {t : Likeness} {m : Imprint} (here : menu t = ⟨noted, parts, os ++ [a, m, c]⟩) :
      menu (t.drawn (·.written (.text label)) (.option (os.length + 2))) =
        ⟨noted, parts, os ++ [a, m, { c with html := Text.escapeData label, below := [] }]⟩ :=
    menu_drawn_new (F := fun m => { m with html := Text.escapeData label, below := [] }) here
      (fun _ => rfl) (j := 2)
      (Nat.succ_lt_succ (Nat.succ_lt_succ (Nat.succ_pos _)))
  have plain :=
    (styled _ "margin-bottom" "3px").trans
      ((styled _ "align-items" "center").trans ((styled t "display" "flex").trans here))
  have typed :=
    second plain (.form (.inputType "radio"))
      (fun m => { m with inputType := some "radio" }) fun _ => rfl
  have named :=
    second typed (.attr "name" group) (fun m => { m with name := some group }) fun _ => rfl
  have valued :=
    second named (.attr "value" label) (fun m => { m with value := some label }) fun _ => rfl
  exact third (second valued (.attr "class" "radio-set-style") (fun m => m) fun _ => rfl)

/-- A new row hangs under the only part. -/
lemma menu_row (lone : (menu t).parts = [(kind, spots)])
    (painted : paint (addRadioRow (.part 0) group label) t = some ((), t')) :
    menu t' = ⟨(menu t).noted, [(kind, spots ++ [.option t.options.length])],
      (menu t).options ++ row group t.options.length label⟩ := by
  rw [← length_options]
  set os := (menu t).options with hos
  -- Three nodes are taken, the second and the third below the first.
  let t₁ := t.withOption (.part 0) .div
  let t₂ := t₁.withOption (.option os.length) .input
  let t₃ := t₂.withOption (.option os.length) .label
  have menu₁ :
      menu t₁ = ⟨(menu t).noted, [(kind, spots ++ [.option os.length])], os ++ [.fresh .div]⟩ := by
    rw [menu_withOption_part lone, hos, length_options]
  have menu₂ : menu t₂ = _ := menu_withOption_new menu₁ (j := 0) Nat.zero_lt_one .input
  have menu₃ : menu t₃ = _ := menu_withOption_new menu₂ (j := 0) Nat.zero_lt_two .label
  have size₁ : t₁.options.length = os.length + 1 := by
    rw [← length_options, menu₁, List.length_append, List.length_singleton]
  have size₂ : t₂.options.length = os.length + 2 := by
    rw [← length_options, menu₂, List.length_append]; rfl
  unfold addRadioRow at painted
  rw [paint_then (paint_addOption ..), paint_then (paint_addOption ..),
    paint_then (paint_addOption ..), ← length_options] at painted
  refine menu_lettered menu₃ ?_
  rw [← size₁, ← size₂]
  exact painted

lemma menu_rows {ls : List String} (lone : (menu t).parts = [(kind, spots)])
    (painted : paint (ls.forM (addRadioRow (.part 0) group)) t = some ((), t')) :
    menu t' =
      ⟨(menu t).noted,
        [(kind, spots ++ (List.range ls.length).map fun i => .option (t.options.length + 3 * i))],
        (menu t).options ++ rows group t.options.length ls⟩ := by
  induction ls generalizing t spots with
  | nil =>
    cases painted
    rw [List.length_nil, List.range_zero, List.map_nil, List.append_nil, rows,
      List.append_nil, ← lone]
  | cons label ls ih =>
    obtain ⟨_, t₁, first, painted⟩ := paint_bind_inv painted
    have menu₁ := menu_row lone first
    have size : t₁.options.length = t.options.length + 3 := by
      rw [← length_options, menu₁, List.length_append, length_options]
      rfl
    rw [ih (by rw [menu₁]) painted, menu₁, size, List.length_cons, List.range_succ_eq_map,
      List.map_cons, List.map_map, rows]
    simp [Function.comp_def, Nat.mul_add, Nat.add_assoc, Nat.add_comm]

/-! ### New lists -/

/-- A menu of entries. -/
def Menu.ofEntries (noted : Option UInt32) (ls : List String) : Menu :=
  ⟨noted, [(.select, (List.range ls.length).map .option)], (Figure.entries 0 ls).map imprint⟩

/-- A menu of rows. -/
def Menu.ofRows (group : String) (noted : Option UInt32) (ls : List String) : Menu :=
  ⟨noted, [(.fieldset, (List.range ls.length).map fun i => .option (3 * i))], rows group 0 ls⟩

lemma length_entries (index : Nat) (ls : List String) :
    (Figure.entries index ls).length = ls.length := by
  induction ls generalizing index with
  | nil => rfl
  | cons label ls ih => exact congrArg (· + 1) (ih (index + 1))

lemma length_rows (group : String) (place : Nat) (ls : List String) :
    (rows group place ls).length = 3 * ls.length := by
  induction ls generalizing place with
  | nil => rfl
  | cons label ls ih =>
    rw [rows, List.length_append, ih, List.length_cons, Nat.mul_succ, Nat.add_comm]
    rfl

lemma getElem_entries {index i : Nat} {ls : List String} {label : String}
    (sent : ls[i]? = some label) :
    (Figure.entries index ls)[i]? = some (Figure.entry (index + i) label) := by
  induction ls generalizing index i with
  | nil => cases sent
  | cons first ls ih =>
    cases i with
    | zero =>
      cases sent
      rfl
    | succ i =>
      have later :
          (Figure.entries (index + 1) ls)[i]? = some (Figure.entry (index + 1 + i) label) := ih sent
      exact later.trans (by rw [Nat.add_assoc, Nat.add_comm 1])

lemma getElem_rows {group : String} {place i k : Nat} {ls : List String} {label : String}
    (sent : ls[i]? = some label) (inside : k < 3) :
    (rows group place ls)[3 * i + k]? = (row group (place + 3 * i) label)[k]? := by
  induction ls generalizing place i with
  | nil => cases sent
  | cons first ls ih =>
    cases i with
    | zero =>
      cases sent
      rw [rows, Nat.mul_zero, Nat.zero_add, List.getElem?_append_left inside]
      rfl
    | succ i =>
      have later : (row group place first).length ≤ 3 * (i + 1) + k := by
        change 3 ≤ _
        omega
      have rest : 3 * (i + 1) + k - (row group place first).length = 3 * i + k := by
        change _ - 3 = _
        omega
      rw [rows, List.getElem?_append_right later, rest, ih sent, Nat.mul_succ,
        Nat.add_comm (3 * i) 3, Nat.add_assoc]

lemma filter_options (places : List Nat) : (places.map Spot.option).filter (!isOption ·) = [] := by
  simp [List.filter_eq_nil_iff, isOption]

lemma menu_cleared (t : Likeness) :
    menu t.withoutOptions =
      ⟨(menu t).noted, (menu t).parts.map (Prod.map id (·.filter (!isOption ·))), []⟩ := by
  simp only [menu, Likeness.withoutOptions, List.map_map, List.map_nil]
  rfl

/-- What a selection makes of the only part. -/
lemma menu_selected {selected : Option UInt32} (lone : (menu t).parts = [(kind, spots)])
    (painted : paint (each selected fun n => setForm (.part 0) (.selectedIndex n)) t =
      some ((), t')) :
    menu t' = menu t ∧ indices t' = selected.elim (indices t) fun n => [some n] := by
  cases selected with
  | none =>
    cases painted
    exact ⟨rfl, rfl⟩
  | some n =>
    obtain ⟨notes, scroll, watched, leaf, parts, options⟩ := t
    obtain ⟨g, rfl, _⟩ := List.map_eq_singleton_iff.1 lone
    have drawn :
        paint (setForm (.part 0) (.selectedIndex n)) ⟨notes, scroll, watched, leaf, [g], options⟩ =
          some ((), t') := painted
    rw [paint_form, drawn_first] at drawn
    cases drawn
    exact ⟨rfl, rfl⟩

/-- What an update makes of the entries of a dropdown; what it shows as selected is what it notes,
if it was before. -/
lemma menu_dropdown {ls : List String} {c : DropdownChange} (before : menu t = .ofEntries noted ls)
    (painted : paint (updateDropdown c) t = some ((), t')) :
    menu t' = .ofEntries (c.selected.or noted) (c.options.getD ls) ∧
    (indices t = [noted] → indices t' = [c.selected.or noted]) := by
  unfold updateDropdown at painted
  dsimp only at painted
  obtain ⟨_, t₁, painted₁, painted⟩ := paint_bind_inv painted
  obtain ⟨_, t₂, painted₂, painted⟩ := paint_bind_inv painted
  obtain ⟨_, t₃, painted₃, painted⟩ := paint_bind_inv painted
  obtain ⟨_, t₄, painted₄, painted⟩ := paint_bind_inv painted
  obtain ⟨placed, placed'⟩ := (cosmetic_geometry ..).keeps_menu painted₁
  obtain ⟨styled, styled'⟩ := (uses_each fun s => cosmetic_textStyle _ _ s).keeps_menu painted₂
  have listed : menu t₃ = .ofEntries noted (c.options.getD ls) ∧ indices t₃ = indices t₂ := by
    have before₂ : menu t₂ = .ofEntries noted ls := styled.trans (placed.trans before)
    obtain ⟨notes, scroll, watched, leaf, parts, options⟩ := t₂
    obtain ⟨rfl, lone, entries⟩ := Menu.mk.inj before₂
    obtain ⟨g, rfl, same⟩ := List.map_eq_singleton_iff.1 lone
    obtain ⟨kind, below⟩ := Prod.mk.inj same
    rw [paint_relisted] at painted₃
    obtain ⟨_, rfl⟩ := Prod.mk.inj (Option.some.inj painted₃)
    cases c.options with
    | none => exact ⟨before₂, rfl⟩
    | some labels =>
      refine ⟨?_, rfl⟩
      change Menu.mk notes.selected
        [(g.kind, g.below.filter (!isOption ·) ++ (List.range labels.length).map .option)] _ = _
      rw [kind, below, filter_options]
      rfl
  obtain ⟨noted₄, shown₄⟩ := menu_noted painted₄
  have menu₄ : menu t₄ = .ofEntries (c.selected.or noted) (c.options.getD ls) := by
    rw [noted₄, show t₃.notes.selected = noted from congrArg Menu.noted listed.1, listed.1]
    rfl
  have same : indices t₄ = indices t := shown₄.trans (listed.2.trans (styled'.trans placed'))
  have dressed (t₅ : Likeness) : paint (do
      style (.part 0) "border-style" "solid"
      styleColor (.part 0) "background-color" c.background
      styleColor (.part 0) "border-color" c.strokeColor
      stylePx (.part 0) "border-width" c.strokeWidth
      stylePx (.part 0) "border-radius" c.borderRadius) t₅ = some ((), t') →
        menu t' = menu t₅ ∧ indices t' = indices t₅ := by
    refine Uses.keeps_menu ((cosmetic_style _ (by decide) _).bind fun _ => ?_)
    refine (cosmetic_color _ (by decide) _).bind fun _ => ?_
    refine (cosmetic_color _ (by decide) _).bind fun _ => ?_
    exact (cosmetic_px _ (by decide) _).bind fun _ => cosmetic_px _ (by decide) _
  split at painted
  · obtain ⟨_, t₅, looked, painted⟩ := paint_bind_inv painted
    cases looked
    obtain ⟨_, t₆, painted₆, painted⟩ := paint_bind_inv painted
    have seen : t₄.view.selected = c.selected.or noted := congrArg Menu.noted menu₄
    rw [seen] at painted₆
    obtain ⟨menu₆, shown₆⟩ := menu_selected (congrArg Menu.parts menu₄) painted₆
    obtain ⟨menu₇, shown₇⟩ := dressed t₆ painted
    refine ⟨menu₇.trans (menu₆.trans menu₄), fun agreed => shown₇.trans (shown₆.trans ?_)⟩
    rw [same, agreed]
    cases c.selected <;> cases noted <;> rfl
  · next idle =>
    obtain ⟨menu₅, shown₅⟩ := dressed t₄ painted
    refine ⟨menu₅.trans menu₄, fun agreed => shown₅.trans (same.trans (agreed.trans ?_))⟩
    cases selected : c.selected with
    | none => rfl
    | some n => exact absurd (by simp [selected]) idle

/-- What an update makes of the rows of a radio set. -/
lemma menu_radioSet {id : UInt32} {ls : List String} {c : RadioSetChange}
    (before : menu t = .ofRows (radioGroup id) noted ls)
    (painted : paint (updateRadioSet id c) t = some ((), t')) :
    menu t' = .ofRows (radioGroup id) (c.selected.or noted) (c.options.getD ls) := by
  unfold updateRadioSet at painted
  dsimp only at painted
  obtain ⟨_, t₁, painted₁, painted⟩ := paint_bind_inv painted
  obtain ⟨_, t₂, painted₂, painted⟩ := paint_bind_inv painted
  obtain ⟨_, t₃, painted₃, painted⟩ := paint_bind_inv painted
  obtain ⟨_, t₄, painted₄, painted⟩ := paint_bind_inv painted
  have placed := ((cosmetic_geometry ..).keeps_menu painted₁).1
  have styled := ((uses_each fun s => cosmetic_textStyle _ _ s).keeps_menu painted₂).1
  have before₂ : menu t₂ = .ofRows (radioGroup id) noted ls := styled.trans (placed.trans before)
  have listed : menu t₃ = .ofRows (radioGroup id) noted (c.options.getD ls) := by
    rw [paint_each] at painted₃
    cases options : c.options with
    | none =>
      rw [options] at painted₃
      cases painted₃
      exact before₂
    | some labels =>
      rw [options] at painted₃
      have cleared : paint (Craft.call .clearOptions) t₂ = some ((), t₂.withoutOptions) := rfl
      have empty : menu t₂.withoutOptions = ⟨noted, [(.fieldset, [])], []⟩ := by
        have gone := filter_options ((List.range ls.length).map (3 * ·))
        rw [List.map_map] at gone
        rw [menu_cleared, before₂, Menu.ofRows, List.map_singleton]
        exact congrArg (fun spots => Menu.mk noted [(.fieldset, spots)] []) gone
      dsimp only at painted₃
      rw [paint_then cleared] at painted₃
      rw [menu_rows (congrArg Menu.parts empty) painted₃, ← length_options, empty, Menu.ofRows]
      simp
  obtain ⟨noted₄, _⟩ := menu_noted painted₄
  have menu₄ : menu t₄ = .ofRows (radioGroup id) (c.selected.or noted) (c.options.getD ls) := by
    rw [noted₄, show t₃.notes.selected = noted from congrArg Menu.noted listed, listed]
    rfl
  have colored (t₅ : Likeness) : paint (do
      styleColor (.part 0) "--background-color" c.background
      styleColor (.part 0) "--selected-color" c.checkedBackground
      styleColor (.part 0) "--border-color" c.outlineColor
      stylePx (.part 0) "--border-width" c.outlineWidth) t₅ = some ((), t') →
        menu t' = menu t₅ ∧ indices t' = indices t₅ := by
    refine Uses.keeps_menu ((cosmetic_color _ (by decide) _).bind fun _ => ?_)
    refine (cosmetic_color _ (by decide) _).bind fun _ => ?_
    exact (cosmetic_color _ (by decide) _).bind fun _ => cosmetic_px _ (by decide) _
  split at painted
  · obtain ⟨_, t₅, looked, painted⟩ := paint_bind_inv painted
    cases looked
    obtain ⟨_, t₆, painted₆, painted⟩ := paint_bind_inv painted
    have ticked : menu t₆ = menu t₄ := by
      rw [paint_each] at painted₆
      split at painted₆
      · rw [paint_form] at painted₆
        obtain ⟨_, rfl⟩ := Prod.mk.inj (Option.some.inj painted₆)
        exact menu_drawn (f := (·.written (.form (.checked true)))) (fun _ => rfl) _ _
      · cases painted₆
        rfl
    exact (colored t₆ painted).1.trans (ticked.trans menu₄)
  · exact (colored t₄ painted).1.trans menu₄

end Crafts

/-! ## All dropdowns and radio sets of a scene -/

section Elements

variable {config : Config} {past : List Episode} {t : Likeness} {id : UInt32}

lemma menu_restacked (depth : UInt32) (tab : Int) (t : Likeness) :
    menu (t.restacked depth tab) = menu t ∧ indices (t.restacked depth tab) = indices t := by
  have tabbed (g : Figure) : imprint (g.tabbed tab) = imprint g ∧ (g.tabbed tab).form = g.form := by
    unfold Figure.tabbed
    split <;> exact ⟨rfl, rfl⟩
  have part (g : Figure) : ((g.tabbed tab).kind, (g.tabbed tab).below) = (g.kind, g.below) :=
    congrArg (fun m => (m.kind, m.below)) (tabbed g).1
  constructor
  · simp only [menu, Likeness.restacked, List.map_map, Function.comp_def, tabbed, part]
  · simp only [indices, Likeness.restacked, List.map_map, Function.comp_def, tabbed]

/-- What a user enters is not part of a menu. -/
lemma menu_entered (t : Likeness) (spot : Spot) (entry : Entry) :
    menu (t.entered spot entry) = menu t := by
  have set (t : Likeness) (property : FormProperty)
    (other : ∀ g : Figure, imprint (g.written (.form property)) = imprint g) :
      menu (t.set spot property) = menu t :=
    menu_drawn (f := (·.written (.form property))) other t spot
  cases entry with
  | value | checked | selected => exact set t _ fun _ => rfl
  | scrolled left top =>
    exact (set (t.set spot (.scrollLeft left)) (.scrollTop top) fun _ => rfl).trans
      (set t _ fun _ => rfl)

/-- An event does at most revert a checkbox, which is not part of a menu either. -/
lemma menu_fired {kind : Widget} {spot : Spot} {name : String}
    {value : InputValue Float} {t' : Likeness}
    (alters : (Incident.fired spot name value).Alters id kind t t') : menu t' = menu t ∧
    indices t' = indices t := by
  obtain rfl | ⟨state, rfl⟩ := alters
  · exact ⟨rfl, rfl⟩
  · exact ⟨menu_drawn (f := (·.written (.form (.checked state)))) (fun _ => rfl) t spot,
      indices_drawn (f := (·.written (.form (.checked state)))) (fun _ => rfl) t spot⟩

/-- Dropdowns offer what was sent last, and show the selection that was sent last unless a user
chose another. -/
theorem enduring_entries (config : Config) :
    Enduring config .dropdown fun _ past t => menu t = .ofEntries (pick? past) (labels past) ∧
    ((∀ episode ∈ past, episode.isEntry = false) → indices t = [pick? past]) where
  born id t newborn := by
    cases newborn with
    | painted painted =>
      obtain ⟨_, rfl⟩ := Prod.mk.inj (Option.some.inj painted)
      exact ⟨rfl, fun _ => rfl⟩
  moved id past depth tab t _ holds := by
    obtain ⟨menu, shown⟩ := menu_restacked depth tab t
    exact ⟨menu.trans holds.1, fun alone =>
      shown.trans (holds.2 fun ep hep => alone ep (List.mem_cons_of_mem _ hep))⟩
  befell id past incident t t' alters holds := by
    obtain ⟨menu, shown⟩ := holds
    have before {episode : Episode} (alone : ∀ ep ∈ episode :: past, ep.isEntry = false) :
        indices t = [pick? past] :=
      shown fun ep hep => alone ep (List.mem_cons_of_mem _ hep)
    cases incident with
    | updated change =>
      obtain ⟨kind, painted⟩ := alters
      cases change with
      | dropdown c =>
        rw [pick?_cons, labels_cons]
        obtain ⟨menu', shown'⟩ := menu_dropdown menu painted
        exact ⟨menu', fun alone => shown' (before alone)⟩
      | _ => cases kind
    | entered spot entry =>
      obtain rfl : t' = _ := alters
      exact ⟨(menu_entered t spot entry).trans menu, fun alone =>
        Bool.noConfusion (alone _ List.mem_cons_self)⟩
    | fired spot name value =>
      obtain ⟨menu', shown'⟩ := menu_fired alters
      exact ⟨menu'.trans menu, fun alone => shown'.trans (before alone)⟩

/-- Radio sets offer what was sent last. -/
theorem enduring_rows (config : Config) :
    Enduring config .radioSet fun id past t =>
      menu t = .ofRows (radioGroup id) (pick? past) (labels past) where
  born id t newborn := by
    cases newborn with
    | painted painted =>
      obtain ⟨_, rfl⟩ := Prod.mk.inj (Option.some.inj painted)
      rfl
  moved id past depth tab t _ menu := (menu_restacked depth tab t).1.trans menu
  befell id past incident t t' alters menu := by
    cases incident with
    | updated change =>
      obtain ⟨kind, painted⟩ := alters
      cases change with
      | radioSet c =>
        rw [pick?_cons, labels_cons]
        exact menu_radioSet menu painted
      | _ => cases kind
    | entered spot entry =>
      obtain rfl : t' = _ := alters
      exact (menu_entered t spot entry).trans menu
    | fired spot name value => exact (menu_fired alters).1.trans menu

end Elements

/-! ## What the document shows of them -/

/-- A record that is as an imprint says; `e` gives the places their nodes. -/
structure Imprint.Left (m : Imprint) (e : Element) (node : MemoryNode) : Prop where
  kind : node.kind = m.kind
  children : node.children = m.below.map e.node
  html : node.html = m.html
  value : node.attributes["value"]? = m.value
  name : node.attributes["name"]? = m.name
  inputType : node.form.inputType = m.inputType

/-- A text as character data: the ampersand and the angle brackets are referred to, the rest is as
it is. -/
inductive Escapes : List Char → List Char → Prop where
  | nil : Escapes [] []
  | plain {c : Char} {html text : List Char} : c ∉ ['&', '<', '>'] → Escapes html text →
    Escapes (c :: html) (c :: text)
  | amp {html text : List Char} : Escapes html text →
    Escapes (['&', 'a', 'm', 'p', ';'] ++ html) ('&' :: text)
  | lt {html text : List Char} : Escapes html text →
    Escapes (['&', 'l', 't', ';'] ++ html) ('<' :: text)
  | gt {html text : List Char} : Escapes html text →
    Escapes (['&', 'g', 't', ';'] ++ html) ('>' :: text)

lemma escapes_flatMap (text : List Char) : Escapes (text.flatMap Text.dataEntity) text := by
  induction text with
  | nil => exact .nil
  | cons c text ih =>
    rw [List.flatMap_cons]
    by_cases amp : c = '&'
    · exact amp ▸ .amp ih
    by_cases lt : c = '<'
    · exact lt ▸ .lt ih
    by_cases gt : c = '>'
    · exact gt ▸ .gt ih
    have own : Text.dataEntity c = [c] := by simp [Text.dataEntity, amp, lt, gt]
    rw [own]
    exact .plain (by simp [amp, lt, gt]) ih

lemma escapes_data (text : String) : Escapes (Text.escapeData text).toList text.toList := by
  rw [Text.escapeData, String.toList_ofList]
  exact escapes_flatMap text.toList

/-- A text has one form as character data. -/
lemma Escapes.unique {html html' text : List Char} (one : Escapes html text)
    (other : Escapes html' text) : html = html' := by
  induction one generalizing html' with
  | nil =>
    cases other
    rfl
  | plain plain _ ih =>
    cases other with
    | plain _ rest => rw [ih rest]
    | amp | lt | gt => simp at plain
  | amp _ ih =>
    cases other with
    | plain plain => simp at plain
    | amp rest => rw [ih rest]
  | lt _ ih =>
    cases other with
    | plain plain => simp at plain
    | lt rest => rw [ih rest]
  | gt _ ih =>
    cases other with
    | plain plain => simp at plain
    | gt rest => rw [ih rest]

/-- An entry of a dropdown, with its index and its label. -/
def IsEntry (d : MemoryDocument) (index : Nat) (label : String) (n : NodeId) : Prop :=
  ∃ entry, d.node? n = some entry ∧ entry.kind = .option ∧ entry.children = [] ∧
    entry.attributes["value"]? = some (toString index) ∧
    Escapes entry.html.toList label.toList

/-- A row of a radio set: a button of the group with its caption. -/
def IsRow (d : MemoryDocument) (group label : String) (n : NodeId) : Prop :=
  ∃ row button caption, ∃ input text : NodeId, d.node? n = some row ∧ row.kind = .div ∧
    row.children = [input, text] ∧
    (d.node? input = some button ∧ button.kind = .input ∧ button.children = [] ∧
      button.form.inputType = some "radio" ∧
      button.attributes["value"]? = some label ∧ button.attributes["name"]? = some group) ∧
    d.node? text = some caption ∧ caption.kind = .label ∧ caption.children = [] ∧
      Escapes caption.html.toList label.toList

section Places

variable {e : Element} {n : NodeId} {spot : Spot} {nodes : List OwnedNode}

lemma node_of_spot? (place : spot? e n = some spot) : e.node spot = n := by
  rcases Option.or_eq_some_iff.1 place with part | ⟨_, option⟩
  · obtain ⟨i, at_i, rfl⟩ := Option.map_eq_some_iff.1 part
    obtain ⟨inside, here, _⟩ := List.findIdx?_eq_some_iff_getElem.1 at_i
    simp only [Element.node, Element.part?, List.getElem?_eq_getElem inside,
      Option.map_some, Option.getD_some]
    exact of_decide_eq_true here
  · obtain ⟨i, at_i, rfl⟩ := Option.map_eq_some_iff.1 option
    obtain ⟨inside, here, _⟩ := List.findIdx?_eq_some_iff_getElem.1 at_i
    simp only [Element.node, List.getElem?_eq_getElem inside, Option.map_some, Option.getD_some]
    exact of_decide_eq_true here

lemma exists_spot? (inside : n ∈ e.fittings.map (·.id)) : ∃ spot, spot? e n = some spot := by
  have found (nodes : List OwnedNode) (hn : n ∈ nodes.map (·.id)) :
      ∃ i, nodes.findIdx? (fun m => decide (m.id = n)) = some i := by
    obtain ⟨m, hm, same⟩ := List.mem_map.1 hn
    refine Option.isSome_iff_exists.1
      (List.findIdx?_isSome.trans (List.any_eq_true.2 ⟨m, hm, decide_eq_true same⟩))
  rw [Element.fittings, List.map_append] at inside
  unfold spot?
  cases parts : e.parts.findIdx? fun m => decide (m.id = n) with
  | some i => exact ⟨.part i, rfl⟩
  | none =>
    rcases List.mem_append.1 inside with part | option
    · obtain ⟨i, here⟩ := found e.parts part
      rw [here] at parts
      cases parts
    · obtain ⟨i, here⟩ := found e.options option
      exact ⟨.option i, by rw [here]; rfl⟩

/-- Nodes below an element are read back from their places. -/
lemma map_spots {ns : List NodeId} (inside : ∀ n ∈ ns, n ∈ e.fittings.map (·.id)) :
    (ns.filterMap (spot? e)).map e.node = ns := by
  induction ns with
  | nil => rfl
  | cons n ns ih =>
    obtain ⟨spot, place⟩ := exists_spot? (inside n List.mem_cons_self)
    rw [List.filterMap_cons_some place, List.map_cons, node_of_spot? place, ih fun m hm =>
      inside m (List.mem_cons_of_mem _ hm)]

lemma map_option_node (e : Element) :
    (List.range e.options.length).map (fun i => e.node (.option i)) = e.options.map (·.id) := by
  refine List.ext_getElem (by simp) fun i hi _ => ?_
  simp only [List.length_map, List.length_range] at hi
  simp [Element.node, hi]

end Places

section Results

variable {κ : Type} [Core κ] {base : Nat} {mount : NodeId} {config : Config} {h₀ h : MemoryHost κ}
  {s : Scene} {deeds : List Deed}
  {id : UInt32} {e : Element} {n : OwnedNode} {m : Imprint} {i : Nat}

omit [Core κ] in
/-- A node of an element with nothing below it but nodes of the element. -/
lemma InUse.figured (inUse : InUse base mount s h) (found : s.elements[id]? = some e)
    (hn : n ∈ e.nodes) :
    ∃ node, h.document.node? n.id = some node ∧ (figure e h.document n.id).toFace = .of node ∧
      node.children = (figure e h.document n.id).below.map e.node := by
  have owned := inUse.sound.stage.owned
  obtain ⟨node, record, _⟩ :=
    owned.kinds n (List.mem_append_right _ (mem_elementNodes.2 ⟨id, e, found, hn⟩))
  have children : h.document.children n.id = node.children := children_of_node? record
  refine ⟨node, record, face_of_node? record, ?_⟩
  rw [figure, children, map_spots]
  intro c hc
  rw [← children, owned.linked] at hc
  exact (inUse.sound.families id e found c n.id hc).1 (List.mem_map_of_mem hn)

omit [Core κ] in
lemma InUse.left (inUse : InUse base mount s h) (found : s.elements[id]? = some e)
    (offered : (menu (likeness e h.document)).options[i]? = some m) :
    ∃ n node, e.options[i]? = some n ∧ h.document.node? n.id = some node ∧ m.Left e node := by
  have options : (menu (likeness e h.document)).options = e.options.map fun n =>
      imprint (figure e h.document n.id) := List.map_map
  rw [options, List.getElem?_map] at offered
  obtain ⟨n, there, rfl⟩ := Option.map_eq_some_iff.1 offered
  obtain ⟨node, record, face, children⟩ :=
    inUse.figured found
      (List.mem_cons_of_mem _ (List.mem_append_right _ (List.mem_of_getElem? there)))
  refine ⟨n, node, there, record, ⟨?_, children, ?_, ?_, ?_, ?_⟩⟩
  · exact (congrArg Face.kind face).symm
  · exact (congrArg Face.html face).symm
  · exact (congrArg (fun f => f.attributes "value") face).symm
  · exact (congrArg (fun f => f.attributes "name") face).symm
  · exact (congrArg (fun f => f.form.inputType) face).symm

omit [Core κ] in
/-- The only part of an element. -/
lemma InUse.lone (inUse : InUse base mount s h) (found : s.elements[id]? = some e)
    {kind : NodeKind} {spots : List Spot}
    (offered : (menu (likeness e h.document)).parts = [(kind, spots)]) :
    ∃ part node, e.parts = [part] ∧ h.document.node? part.id = some node ∧ node.kind = kind ∧
      node.children = spots.map e.node ∧
      indices (likeness e h.document) = [node.form.selectedIndex] := by
  have parts : (menu (likeness e h.document)).parts =
      e.parts.map fun n => ((figure e h.document n.id).kind, (figure e h.document n.id).below) :=
    List.map_map
  have shows : indices (likeness e h.document) = e.parts.map fun n =>
      (figure e h.document n.id).form.selectedIndex := List.map_map
  rw [parts] at offered
  obtain ⟨part, only, same⟩ := List.map_eq_singleton_iff.1 offered
  obtain ⟨rfl, rfl⟩ := Prod.mk.inj same
  obtain ⟨node, record, face, children⟩ := inUse.figured found (n := part)
    (List.mem_cons_of_mem _ (List.mem_append_left _ (only ▸ List.mem_singleton_self part)))
  refine ⟨part, node, only, record, (congrArg Face.kind face).symm, children, ?_⟩
  rw [shows, only, List.map_singleton]
  exact congrArg (fun f : Face => [f.form.selectedIndex]) face

lemma length_offered {d : MemoryDocument} {t : Menu} (offered : menu (likeness e d) = t) :
    e.options.length = t.options.length := by
  rw [← offered, length_options]
  exact (List.length_map _).symm

omit [Core κ] in
/-- A menu of entries, in the document. -/
lemma InUse.entries (inUse : InUse base mount s h) (found : s.elements[id]? = some e)
    {noted : Option UInt32} {ls : List String}
    (offered : menu (likeness e h.document) = .ofEntries noted ls) :
    ∃ select node, e.parts = [select] ∧ h.document.node? select.id = some node ∧
      node.kind = .select ∧
      node.children = e.options.map (·.id) ∧ e.options.length = ls.length ∧
      (∀ i label, ls[i]? = some label → ∃ n, e.options[i]? = some n ∧
        IsEntry h.document i label n.id) ∧
      indices (likeness e h.document) = [node.form.selectedIndex] := by
  obtain ⟨select, node, only, record, kind, children, shows⟩ :=
    inUse.lone found (congrArg Menu.parts offered)
  have count : e.options.length = ls.length :=
    (length_offered offered).trans ((List.length_map _).trans (length_entries 0 ls))
  refine ⟨select, node, only, record, kind, ?_, count, fun i label sent => ?_, shows⟩
  · rw [children, List.map_map, ← count]
    exact map_option_node e
  · have here :
        (menu (likeness e h.document)).options[i]? =
          some (imprint (Figure.entry (0 + i) label)) := by
      rw [offered, Menu.ofEntries, List.getElem?_map, getElem_entries sent, Option.map_some]
    obtain ⟨n, entry, there, record, left⟩ := inUse.left found here
    rw [Nat.zero_add] at left
    have html : entry.html = Text.escapeData label := left.html
    exact ⟨n, there, entry, record, left.kind, left.children, left.value, html ▸ escapes_data label⟩

omit [Core κ] in
/-- A menu of rows, in the document. -/
lemma InUse.rows (inUse : InUse base mount s h) (found : s.elements[id]? = some e) {group : String}
    {noted : Option UInt32}
    {ls : List String} (offered : menu (likeness e h.document) = .ofRows group noted ls) :
    ∃ fieldset node, e.parts = [fieldset] ∧ h.document.node? fieldset.id = some node ∧
      node.kind = .fieldset ∧
      node.children = (List.range ls.length).map (fun i => e.node (.option (3 * i))) ∧
      e.options.length = 3 * ls.length ∧
      ∀ i label, ls[i]? = some label → IsRow h.document group label (e.node (.option (3 * i))) := by
  obtain ⟨fieldset, node, only, record, kind, children, _⟩ :=
    inUse.lone found (congrArg Menu.parts offered)
  refine ⟨fieldset, node, only, record, kind, ?_,
    (length_offered offered).trans (length_rows group 0 ls), fun i label sent => ?_⟩
  · rw [children, List.map_map]
    rfl
  · have place (k : Nat) (inside : k < 3) {m : Imprint}
      (here : (row group (0 + 3 * i) label)[k]? = some m) :
        ∃ node, h.document.node? (e.node (.option (3 * i + k))) = some node ∧ m.Left e node := by
      obtain ⟨n, node, there, record, left⟩ := inUse.left (i := 3 * i + k) (m := m) found (by
        rw [offered]
        exact (getElem_rows sent inside).trans here)
      refine ⟨node, ?_, left⟩
      rwa [Element.node, there]
    obtain ⟨div, record₀, left₀⟩ := place 0 (by decide) rfl
    obtain ⟨button, record₁, left₁⟩ := place 1 (by decide) rfl
    obtain ⟨caption, record₂, left₂⟩ := place 2 (by decide) rfl
    have children := left₀.children
    rw [Nat.zero_add] at children
    have html : caption.html = Text.escapeData label := left₂.html
    exact ⟨div, button, caption, _, _, record₀, left₀.kind, children,
      ⟨record₁, left₁.kind, left₁.children, left₁.inputType, left₁.value, left₁.name⟩,
      record₂, left₂.kind, left₂.children, html ▸ escapes_data label⟩

/-- Sets of different ids do not share their groups. -/
lemma group_injective {i j : UInt32} (same : "radio-" ++ toString i = "radio-" ++ toString j) :
    i = j := by
  have names := congrArg String.toList same
  rw [String.toList_append, String.toList_append, List.append_cancel_left_eq,
    String.toList_inj] at names
  exact label_injective names

/-- In every scene in use, a dropdown has the entries that were sent last, and a radio set has the
rows that were sent last, each below its only part and in order. The dropdown shows the selection
that was sent last, unless a user chose another. No two radio sets share a group. -/
theorem options_of_usage (reached : Reached h₀.document) (there : h₀.document.issued mount)
    (usage : Usage mount config h₀ deeds s h) (found : s.elements[id]? = some e) :
    (e.widget = .dropdown → ∃ select node, e.parts = [select] ∧
      h.document.node? select.id = some node ∧ node.kind = .select ∧
      node.children = e.options.map (·.id) ∧
      e.options.length = (labels (episodes deeds id)).length ∧
      (∀ i label, (labels (episodes deeds id))[i]? = some label → ∃ n, e.options[i]? = some n ∧
        IsEntry h.document i label n.id) ∧
      ((∀ episode ∈ episodes deeds id, episode.isEntry = false) →
        node.form.selectedIndex = pick? (episodes deeds id))) ∧
    (e.widget = .radioSet → ∃ fieldset node, e.parts = [fieldset] ∧
      h.document.node? fieldset.id = some node ∧ node.kind = .fieldset ∧
      node.children = (List.range (labels (episodes deeds id)).length).map
        (fun i => e.node (.option (3 * i))) ∧
      e.options.length = 3 * (labels (episodes deeds id)).length ∧
      ∀ i label, (labels (episodes deeds id))[i]? = some label →
        IsRow h.document ("radio-" ++ toString id) label (e.node (.option (3 * i)))) ∧
    ∀ j : UInt32, "radio-" ++ toString j = "radio-" ++ toString id → j = id := by
  have inUse := usage.inUse reached there
  refine ⟨fun dropdown => ?_, fun radioSet => ?_, fun j same => group_injective same⟩
  · obtain ⟨offered, selected⟩ :=
      (enduring_entries config).endures usage reached there id e found dropdown
    obtain ⟨select, node, only, record, kind, children, count, entries, shows⟩ :=
      inUse.entries found offered
    refine ⟨select, node, only, record, kind, children, count, entries, fun alone => ?_⟩
    exact List.singleton_inj.1 (shows.symm.trans (selected alone))
  · exact inUse.rows found ((enduring_rows config).endures usage reached there id e found radioSet)

/-- An update of a dropdown's entries and selection alone. -/
def listing (options : List String) (selected : Option UInt32) : Change :=
  .dropdown ⟨⟨none, none, none⟩, some options, selected, none, none, none, none, none⟩

/-- A radio set is deleted after the entries of a dropdown were replaced. What the next one is made
of was theirs. -/
theorem options_after_reuse :
    ∃ (deeds : List Deed) (s : Scene) (h : MemoryHost Recorder) (dropdown radioSet : Element),
    Usage ⟨0⟩ .standard blankPage deeds s h ∧ s.elements[(2 : UInt32)]? = some dropdown ∧
    s.elements[(3 : UInt32)]? = some radioSet ∧
      (∃ select node, dropdown.parts = [select] ∧ h.document.node? select.id = some node ∧
        node.children = dropdown.options.map (·.id) ∧
        dropdown.options.length = 1 ∧ node.form.selectedIndex = some 4) ∧
      (∃ n entry, dropdown.options[0]? = some n ∧ h.document.node? n.id = some entry ∧
        entry.html = "p &amp; q") ∧
      (∀ i label, ["c", "<d>"][i]? = some label →
        IsRow h.document "radio-3" label (radioSet.node (.option (3 * i)))) ∧
      ∃ row input text caption, h.document.node? (radioSet.node (.option 3)) = some row ∧
        row.children = [input, text] ∧
        h.document.node? text = some caption ∧ caption.html = "&lt;d&gt;" := by
  have run : (used ⟨0⟩ .standard blankPage [.patch (.create .radioSet ⟨1, none, 0⟩),
      .patch (.update 1 (polling (some ["a", "b"]) (some 0))),
      .patch (.create .dropdown ⟨2, none, 0⟩),
      .patch (.update 2 (listing ["x", "y", "z"] (some 4))),
      .patch (.update 2 (listing ["p & q"] none)), .patch (.delete .radioSet 1),
      .patch (.create .radioSet ⟨3, none, 0⟩),
      .patch (.update 3 (polling (some ["c", "<d>"]) none))]).map
      (fun r =>
        ([2, 3].map fun id : UInt32 => r.2.elements[id]?.map (·.widget), [2, 3].map fun id =>
          labels (episodes r.1 id),
        pick? (episodes r.1 2), (episodes r.1 2).all (!·.isEntry))) =
          some ([some .dropdown, some .radioSet], [["p & q"], ["c", "<d>"]], some 4, true) := by
            decide +kernel
  obtain ⟨⟨deeds, s⟩, start, facts⟩ := Option.map_eq_some_iff.1 run
  obtain ⟨⟨alive, alive'⟩, ⟨one, two⟩, picked, alone⟩ :
      (s.elements[(2 : UInt32)]?.map (·.widget) = some .dropdown ∧
        s.elements[(3 : UInt32)]?.map (·.widget) = some .radioSet) ∧
        (labels (episodes deeds 2) = ["p & q"] ∧
          labels (episodes deeds 3) = ["c", "<d>"]) ∧ pick? (episodes deeds 2) = some 4 ∧
        ∀ episode ∈ episodes deeds 2, episode.isEntry = false := by
    simpa using facts
  obtain ⟨h, usage⟩ := exists_usage start
  obtain ⟨dropdown, found, kind⟩ := Option.map_eq_some_iff.1 alive
  obtain ⟨radioSet, found', kind'⟩ := Option.map_eq_some_iff.1 alive'
  obtain ⟨select, node, only, record, _, children, count, entries, shows⟩ :=
    (options_of_usage reached_blankPage rfl usage found).1 kind
  obtain ⟨_, _, _, _, _, _, _, rows⟩ :=
    (options_of_usage reached_blankPage rfl usage found').2.1 kind'
  rw [one] at count entries
  have group : "radio-" ++ toString (3 : UInt32) = "radio-3" := by decide +kernel
  rw [two, group] at rows
  have spelled {html label : String} (escapes : Escapes html.toList label.toList) :
      html = Text.escapeData label :=
    String.toList_inj.1 (escapes.unique (escapes_data label))
  refine ⟨deeds, s, h, dropdown, radioSet, usage, found, found',
    ⟨select, node, only, record, children, count, (shows alone).trans picked⟩, ?_, rows, ?_⟩
  · obtain ⟨n, there, entry, record, _, _, _, escapes⟩ := entries 0 "p & q" rfl
    exact ⟨n, entry, there, record, (spelled escapes).trans (by decide +kernel)⟩
  · obtain ⟨row, _, caption, input, text, record, _, children, _, record', _, _, escapes⟩ :=
      rows 1 "<d>" rfl
    exact ⟨row, input, text, caption, record, children, record',
      (spelled escapes).trans (by decide +kernel)⟩

end Results

end LayeredPage.Proofs
