import LayeredPage.Proofs.Cosmetics
import LayeredPage.Proofs.Usage

/-!
# The rows of radio sets

A selection checks its row, and unchecks no other; rows that are built anew are unchecked. A row is
thus checked if it was selected at any time since the rows were built last. A selection without a
row is remembered until there is one.
-/

namespace LayeredPage.Proofs

open Craft Styling

/-! ## What the updates say -/

def Incident.isUpdate : Incident → Bool
  | .updated _ => true
  | _ => false

/-- The selection that an update brings. -/
def selects : Incident → Option UInt32
  | .updated (.radioSet c) => c.selected
  | _ => none

/-- How many rows an update builds. -/
def builds : Incident → Option Nat
  | .updated (.radioSet c) => c.options.map List.length
  | _ => none

/-- The selection that was sent last. -/
def selection (past : List Incident) : Option UInt32 := past.findSome? selects

/-- The number of rows that were built last. -/
def rowCount (past : List Incident) : Nat := (past.findSome? builds).getD 0

/-- Whether a row was selected since the rows were built last: by an update that brings a selection,
or that builds the rows and finds one. -/
def chosen : List Incident → Nat → Bool
  | .updated (.radioSet c) :: past, n =>
    ((c.options.isSome || c.selected.isSome) && (c.selected.or (selection past)).any
      (·.toNat == n)) || (c.options.isNone && chosen past n)
  | _ :: past, n => chosen past n
  | [], _ => false

/-! ## What an update makes of the rows -/

/-- Which options are checked. -/
def checks (t : Likeness) : List Bool := t.options.map (·.form.checked)

/-- What matters of the rows. -/
def ballot (t : Likeness) : Option UInt32 × List Bool := (t.notes.selected, checks t)

/-- Requests that neither select nor check anything, and build no rows. -/
def Unmarking : BenchRequest → Prop
  | .look | .html _ | .useFont _ => True
  | .write _ (.form (.checked _)) => False
  | .write .. => True
  | _ => False

section Crafts

variable {t t' : Likeness} {α : Type} {craft : Craft α} {a : α}

lemma map_modify {γ : Type} {view : Figure → γ} {f : Figure → Figure} {F : γ → γ}
    (same : ∀ g, view (f g) = F (view g)) (gs : List Figure) (i : Nat) :
    (gs.modify i f).map view = (gs.map view).modify i F := by
  refine List.ext_getElem (by simp) fun j hj _ => ?_
  simp only [List.getElem_map, List.getElem_modify]
  split
  · exact same _
  · rfl

/-- What stays the same in the figure that is redrawn stays the same in all. -/
lemma map_drawn {γ : Type} (view : Figure → γ) {f : Figure → Figure}
    (same : ∀ g, view (f g) = view g) (t : Likeness) (spot : Spot) :
    (t.drawn f spot).parts.map view = t.parts.map view ∧ (t.drawn f spot).options.map view =
      t.options.map view := by
  have kept (gs : List Figure) (i : Nat) : (gs.modify i f).map view = gs.map view :=
    (map_modify (F := id) same gs i).trans (List.modify_id ..)
  cases spot with
  | leaf => exact ⟨rfl, rfl⟩
  | part i =>
    simp only [Likeness.drawn]
    split
    · exact ⟨kept _ i, rfl⟩
    · exact ⟨rfl, rfl⟩
  | option i =>
    simp only [Likeness.drawn]
    split
    · exact ⟨rfl, kept _ i⟩
    · exact ⟨rfl, rfl⟩

lemma checks_drawn {f : Figure → Figure} (same : ∀ g, (f g).form.checked = g.form.checked)
    (t : Likeness) (spot : Spot) :
    checks (t.drawn f spot) = checks t := (map_drawn (·.form.checked) same t spot).2

lemma notes_drawn (f : Figure → Figure) (t : Likeness) (spot : Spot) :
    (t.drawn f spot).notes = t.notes := by
  unfold Likeness.drawn
  cases spot <;> dsimp only <;> split <;> rfl

lemma Unmarking.keeps (t : Likeness) (r : BenchRequest) (reply : r.Reply) (t' : Likeness)
    (unmarking : Unmarking r)
    (performed : t.perform r = some (reply, t')) : ballot t' = ballot t := by
  have drawn (w : NodeWrite) (spot : Spot)
    (same : ∀ g : Figure, (g.written w).form.checked = g.form.checked) :
      ballot (t.drawn (·.written w) spot) = ballot t := by
    rw [ballot, ballot, notes_drawn, checks_drawn same]
  cases r with
  | note | addPart | addOption | clearOptions | sample | resizeRegion => exact unmarking.elim
  | look | html | useFont =>
    cases performed
    rfl
  | write spot w =>
    cases w with
    | observe =>
      cases spot with
      | leaf =>
        cases performed
        rfl
      | part | option => cases performed
    | attr | style | noStyle | linkStyle | html | text | focus | bind =>
      cases spot <;> cases performed <;> exact drawn _ _ fun _ => rfl
    | form property =>
      cases property with
      | checked => exact unmarking.elim
      | inputType | value | min | max | step | selectedIndex | scrollLeft | scrollTop =>
        cases spot <;> cases performed <;> exact drawn _ _ fun _ => rfl

lemma Uses.keeps_ballot (uses : Uses Unmarking craft) (painted : paint craft t = some (a, t')) :
    ballot t' = ballot t :=
  uses.paint_keeps ballot Unmarking.keeps painted

lemma unmarking_style (spot : Spot) (p v : String) : Uses Unmarking (style spot p v) :=
  ⟨trivial, fun _ => trivial⟩

lemma unmarking_attr (spot : Spot) (name value : String) : Uses Unmarking (attr spot name value) :=
  ⟨trivial, fun _ => trivial⟩

/-- No row is checked for the looks. -/
lemma Cosmetic.unmarking (r : BenchRequest) (cosmetic : Cosmetic r) : Unmarking r := by
  cases r with
  | look | html | useFont => trivial
  | write spot w =>
    cases w with
    | style | noStyle | linkStyle => trivial
    | attr | html | text | form | focus | bind | observe => exact cosmetic.elim
  | note | addPart | addOption | clearOptions | sample | resizeRegion => exact cosmetic.elim

/-- One more option is not checked. -/
lemma ballot_withOption (t : Likeness) (parent : Spot) (kind : NodeKind) :
    ballot (t.withOption parent kind) = ((ballot t).1, (ballot t).2 ++ [false]) := by
  have hung : checks (t.hung parent (.option t.options.length)) = checks t := by
    refine checks_drawn ?_ t parent
    exact fun _ => rfl
  have unchecked : (t.newOption kind).form.checked = false := by
    unfold Likeness.newOption
    split
    · split <;> rfl
    · rfl
  refine Prod.ext (congrArg Notes.selected (notes_drawn _ t parent)) ?_
  change ((t.hung parent (.option t.options.length)).options ++ [t.newOption kind]).map
    (·.form.checked) = checks t ++ [false]
  rw [List.map_append, List.map_singleton, unchecked]
  exact congrArg (· ++ [false]) hung

/-- A new row is not checked. -/
lemma ballot_row {fieldset : Spot} {group label : String}
    (painted : paint (addRadioRow fieldset group label) t = some ((), t')) :
    ballot t' = ((ballot t).1, (ballot t).2 ++ [false, false, false]) := by
  unfold addRadioRow at painted
  rw [paint_then (paint_addOption ..), paint_then (paint_addOption ..),
    paint_then (paint_addOption ..)] at painted
  rw [Uses.keeps_ballot ?_ painted, ballot_withOption, ballot_withOption, ballot_withOption]
  · simp
  refine (unmarking_style ..).bind fun _ => ?_
  refine (unmarking_style ..).bind fun _ => ?_
  refine (unmarking_style ..).bind fun _ => ?_
  refine Uses.bind ⟨trivial, fun _ => trivial⟩ fun _ => (unmarking_attr ..).bind fun _ =>
    (unmarking_attr ..).bind fun _ => ?_
  exact (unmarking_attr ..).bind fun _ => ⟨trivial, fun _ => trivial⟩

lemma ballot_rows {fieldset : Spot} {group : String} {labels : List String}
    (painted : paint (labels.forM (addRadioRow fieldset group)) t = some ((), t')) :
    ballot t' = ((ballot t).1, (ballot t).2 ++ List.replicate (3 * labels.length) false) := by
  induction labels generalizing t with
  | nil =>
    cases painted
    simp
  | cons label labels ih =>
    obtain ⟨_, t₁, painted, rest⟩ := paint_bind_inv painted
    have three : 3 * (label :: labels).length = 3 * labels.length + 3 := by
      rw [List.length_cons]
      omega
    rw [ih rest, ballot_row painted, three, List.append_assoc, List.replicate_succ,
      List.replicate_succ, List.replicate_succ]
    rfl

/-- What a selection makes of the rows. -/
def ticked (again : Bool) (selected : Option UInt32) (rows : List Bool) : List Bool :=
  if again then selected.elim rows fun n => rows.set (3 * n.toNat + 1) true else rows

/-- The row of a selection is checked. -/
lemma ballot_checked
    (painted : paint (each (t.view.selected.bind (radioInput? t.view)) fun input =>
      setForm input (.checked true)) t = some ((), t')) :
    ballot t' = (t.notes.selected, ticked true t.notes.selected (checks t)) := by
  have seen : t.view.selected = t.notes.selected := rfl
  rw [seen, paint_each] at painted
  have size : (checks t).length = t.options.length := List.length_map _
  cases selected : t.notes.selected with
  | none =>
    rw [selected] at painted
    cases painted
    exact Prod.ext selected rfl
  | some n =>
    rw [selected, Option.bind_some, radioInput?] at painted
    by_cases inside : 3 * n.toNat + 1 < t.view.options
    · rw [if_pos inside] at painted
      cases painted
      change 3 * n.toNat + 1 < t.options.length at inside
      refine Prod.ext ((congrArg Notes.selected (notes_drawn _ t _)).trans selected) ?_
      simp only [ballot, checks, Likeness.drawn, if_pos inside]
      refine List.ext_getElem (by simp [ticked]) fun j hj _ => ?_
      simp only [ticked, if_true, Option.elim, List.getElem_map,
        List.getElem_modify, List.getElem_set]
      split <;> rfl
    · rw [if_neg inside] at painted
      cases painted
      exact Prod.ext selected
        (List.set_eq_of_length_le (size.trans_le (Nat.le_of_not_lt inside))).symm

/-- The rows after an update. -/
theorem ballot_updated {id : UInt32} {c : RadioSetChange}
    (painted : paint (updateRadioSet id c) t = some ((), t')) :
    ballot t' =
      (c.selected.or t.notes.selected,
        ticked (c.options.isSome || c.selected.isSome) (c.selected.or t.notes.selected)
        (c.options.elim (checks t) fun labels => List.replicate (3 * labels.length) false)) := by
  unfold updateRadioSet at painted
  dsimp only at painted
  obtain ⟨_, t₁, painted₁, painted⟩ := paint_bind_inv painted
  obtain ⟨_, t₂, painted₂, painted⟩ := paint_bind_inv painted
  obtain ⟨_, t₃, painted₃, painted⟩ := paint_bind_inv painted
  obtain ⟨_, t₄, painted₄, painted⟩ := paint_bind_inv painted
  have placed : ballot t₁ = ballot t :=
    ((cosmetic_geometry ..).mono Cosmetic.unmarking).keeps_ballot painted₁
  have styled : ballot t₂ = ballot t₁ :=
    (uses_each fun s => (cosmetic_textStyle _ _ s).mono Cosmetic.unmarking).keeps_ballot painted₂
  have built :
      ballot t₃ =
        ((ballot t₂).1, c.options.elim (ballot t₂).2 fun labels =>
          List.replicate (3 * labels.length) false) := by
    cases options : c.options with
    | none =>
      rw [options] at painted₃
      cases painted₃
      rfl
    | some labels =>
      have cleared : paint (Craft.call .clearOptions) t₂ = some ((), t₂.withoutOptions) := rfl
      rw [options, paint_each] at painted₃
      dsimp only at painted₃
      rw [paint_then cleared] at painted₃
      exact ballot_rows painted₃
  have noted : ballot t₄ = (c.selected.or (ballot t₃).1, (ballot t₃).2) := by
    cases selected : c.selected with
    | none =>
      rw [selected] at painted₄
      cases painted₄
      rfl
    | some n =>
      rw [selected] at painted₄
      cases painted₄
      rfl
  have colored (t₅ : Likeness) : paint (do
      styleColor (.part 0) "--background-color" c.background
      styleColor (.part 0) "--selected-color" c.checkedBackground
      styleColor (.part 0) "--border-color" c.outlineColor
      stylePx (.part 0) "--border-width" c.outlineWidth) t₅ = some ((), t') →
        ballot t' = ballot t₅ := by
    refine Uses.keeps_ballot (Uses.bind (uses_each fun _ => unmarking_style ..) fun _ => ?_)
    refine (uses_each fun _ => unmarking_style ..).bind fun _ => ?_
    refine (uses_each fun _ => unmarking_style ..).bind fun _ => ?_
    exact uses_each fun _ => unmarking_style ..
  have same :
      ballot t₄ = (c.selected.or t.notes.selected, c.options.elim (checks t) fun labels =>
        List.replicate (3 * labels.length) false) := by
    rw [noted, built, styled, placed]
    rfl
  split at painted
  · next again =>
    obtain ⟨_, t₅, looked, painted⟩ := paint_bind_inv painted
    cases looked
    obtain ⟨_, t₆, painted₆, painted⟩ := paint_bind_inv painted
    obtain ⟨selected, rows⟩ := Prod.mk.inj same
    rw [colored _ painted, ballot_checked painted₆, selected, rows, again]
  · next idle =>
    rw [colored _ painted, same, ticked, if_neg idle]

end Crafts

/-! ## All radio sets of a scene -/

/-- A radio set that only updates befell is as they say. -/
def Polled (past : List Incident) (t : Likeness) : Prop :=
  (∀ i ∈ past, i.isUpdate) → t.notes.selected = selection past ∧
    (checks t).length = 3 * rowCount past ∧
    ∀ n < rowCount past, (checks t)[3 * n + 1]? = some (chosen past n)

section Lives

variable {past : List Incident} {t t' : Likeness} {c : RadioSetChange} {rows : List Bool} {n : Nat}

lemma selection_cons :
    selection (.updated (.radioSet c) :: past) = c.selected.or (selection past) := by
  rw [selection, List.findSome?_cons, selects]
  cases c.selected <;> rfl

lemma rowCount_cons :
    rowCount (.updated (.radioSet c) :: past) =
      (c.options.map List.length).getD (rowCount past) := by
  rw [rowCount, List.findSome?_cons, builds]
  cases c.options <;> rfl

lemma length_ticked (again : Bool) (selected : Option UInt32) :
    (ticked again selected rows).length = rows.length := by
  unfold ticked
  split
  · cases selected with
    | none => rfl
    | some n => exact List.length_set
  · rfl

/-- A row is checked if it is selected, or was checked. -/
lemma getElem_ticked (again : Bool) (selected : Option UInt32) {checked : Bool}
    (row : rows[3 * n + 1]? = some checked) :
    (ticked again selected rows)[3 * n + 1]? =
      some (again && selected.any (·.toNat == n) || checked) := by
  cases again with
  | false => exact row
  | true =>
    cases selected with
    | none => exact row
    | some m =>
      change (rows.set (3 * m.toNat + 1) true)[3 * n + 1]? =
        some (true && (m.toNat == n) || checked)
      rw [List.getElem?_set]
      obtain ⟨inside, _⟩ := List.getElem?_eq_some_iff.1 row
      by_cases here : m.toNat = n
      · rw [if_pos (by rw [here]), if_pos (by rwa [here]), here]
        simp
      · rw [if_neg (by omega), row]
        simp [here]

lemma Polled.updated {id : UInt32} (polled : Polled past t)
    (painted : paint (updateRadioSet id c) t = some ((), t')) :
    Polled (.updated (.radioSet c) :: past) t' := by
  intro alone
  obtain ⟨selected, count, rows⟩ := polled fun i hi => alone i (List.mem_cons_of_mem _ hi)
  obtain ⟨selected', checks'⟩ := Prod.mk.inj (ballot_updated painted)
  rw [selected] at selected' checks'
  refine ⟨selected'.trans selection_cons.symm, ?_, fun n hn => ?_⟩
  · rw [checks', length_ticked, rowCount_cons]
    cases c.options with
    | none => exact count
    | some labels => exact List.length_replicate
  · have row :
      (c.options.elim (checks t) fun labels =>
        List.replicate (3 * labels.length) false)[3 * n + 1]? =
        some (c.options.isNone && chosen past n) := by
      rw [rowCount_cons] at hn
      cases options : c.options with
      | none =>
        rw [options] at hn
        exact rows n hn
      | some labels =>
        rw [options] at hn
        change n < labels.length at hn
        exact List.getElem?_replicate.trans (if_pos (by omega))
    rw [checks', getElem_ticked _ _ row]
    rfl

theorem abiding_polled : Abiding .radioSet Polled where
  born config id := ⟨_, rfl, fun _ => ⟨rfl, rfl, fun n hn => absurd hn (Nat.not_lt_zero n)⟩⟩
  moved past depth tab t polled alone := by
    obtain ⟨selected, count, rows⟩ := polled alone
    have same : checks (t.restacked depth tab) = checks t := by
      rw [checks, checks, Likeness.restacked, List.map_map]
      refine List.map_congr_left fun g _ => ?_
      change (g.tabbed tab).form.checked = g.form.checked
      unfold Figure.tabbed
      split <;> rfl
    rw [same]
    exact ⟨selected, count, rows⟩
  updated past id change t t' kind polled painted := by
    cases change with
    | radioSet c => exact polled.updated painted
    | _ => cases kind
  entered past spot entry t polled alone := absurd (alone _ List.mem_cons_self) Bool.false_ne_true
  fired past spot name value t polled :=
  ⟨fun alone => absurd (alone _ List.mem_cons_self) Bool.false_ne_true,
    fun state alone => absurd (alone _ List.mem_cons_self) Bool.false_ne_true⟩

/-- The row of the last selection was selected since the rows were built, if it is a row. -/
lemma chosen_selection {m : UInt32} (last : selection past = some m) :
    chosen past m.toNat = true := by
  induction past with
  | nil => cases last
  | cons i past ih =>
    cases i with
    | entered | fired => exact ih last
    | updated change =>
      cases change with
      | radioSet c =>
        rw [selection_cons] at last
        rw [chosen, last]
        cases options : c.options with
        | some labels => simp
        | none =>
          cases selected : c.selected with
          | some m => simp
          | none =>
            rw [selected] at last
            simp [ih last]
      | _ => exact ih last

lemma chosen_none (never : selection past = none) (n : Nat) : chosen past n = false := by
  induction past with
  | nil => rfl
  | cons i past ih =>
    cases i with
    | entered | fired => exact ih never
    | updated change =>
      cases change with
      | radioSet c =>
        rw [selection_cons] at never
        obtain ⟨_, before⟩ := Option.or_eq_none_iff.1 never
        rw [chosen, never, ih before]
        simp
      | _ => exact ih never

end Lives

/-- Whether the button of a row is checked; rows are three nodes each, the button second. -/
def rowChecked (e : Element) (d : MemoryDocument) (n : Nat) : Option Bool :=
  e.options[3 * n + 1]?.bind fun button => (d.node? button.id).map (·.form.checked)

section Results

variable {κ : Type} [Core κ] {base : Nat} {mount : NodeId} {config : Config} {h₀ h : MemoryHost κ}
  {s : Scene} {deeds : List Deed} {id : UInt32} {e : Element}

omit [Core κ] in
lemma InUse.rowChecked (inUse : InUse base mount s h) (found : s.elements[id]? = some e) (n : Nat) :
    Proofs.rowChecked e h.document n = (checks (likeness e h.document))[3 * n + 1]? := by
  have shown : checks (likeness e h.document) = e.options.map fun button =>
      (face h.document button.id).form.checked :=
    List.map_map
  rw [shown, List.getElem?_map, Proofs.rowChecked]
  cases there : e.options[3 * n + 1]? with
  | none => rfl
  | some button =>
    have issued := inUse.issued found (.option (3 * n + 1))
    rw [Element.node, there, Option.map_some, Option.getD_some] at issued
    obtain ⟨node, record⟩ := issued_iff.1 issued
    rw [Option.bind_some, Option.map_some, record, face_of_node? record]
    rfl

/-- The rows of a radio set that only updates befell: as many as were built last, and those checked
that were selected since. The row of the last selection is always among them, if there is one. -/
theorem radio_rows_of_usage (reached : Reached h₀.document) (there : h₀.document.issued mount)
    (usage : Usage mount config h₀ deeds s h) (found : s.elements[id]? = some e)
    (radioSet : e.widget = .radioSet) (alone : ∀ i ∈ life deeds id, i.isUpdate) :
    e.options.length = 3 * rowCount (life deeds id) ∧
      (∀ n < rowCount (life deeds id), rowChecked e h.document n =
        some (chosen (life deeds id) n)) ∧
      (∀ m ∈ selection (life deeds id), m.toNat < rowCount (life deeds id) →
        rowChecked e h.document m.toNat = some true) ∧
      (selection (life deeds id) = none → ∀ n < rowCount (life deeds id),
        rowChecked e h.document n = some false) := by
  have polled : Polled (life deeds id) (likeness e h.document) :=
    abiding_polled.abides usage reached there id e found radioSet
  obtain ⟨_, count, rows⟩ := polled alone
  have checked (n : Nat) (hn : n < rowCount (life deeds id)) :
      rowChecked e h.document n = some (chosen (life deeds id) n) :=
    ((usage.inUse reached there).rowChecked found n).trans (rows n hn)
  refine ⟨?_, checked, fun m last hm => ?_, fun never n hn => ?_⟩
  · rw [← count]
    simp [checks, likeness, portrait]
  · rw [checked _ hm, chosen_selection last]
  · rw [checked n hn, chosen_none never]

/-- An update of a radio set's rows and selection alone. -/
def polling (options : Option (List String)) (selected : Option UInt32) : Change :=
  .radioSet ⟨⟨none, none, none⟩, options, selected, none, none, none, none, none⟩

/-- The second of three rows is selected, then the rows are replaced, and the second of the new ones
is checked alone. -/
theorem radio_rows_of_new_options :
    ∃ (deeds : List Deed) (s : Scene) (h : MemoryHost Recorder) (e : Element),
    Usage ⟨0⟩ .standard blankPage deeds s h ∧ s.elements[(1 : UInt32)]? = some e ∧
      rowChecked e h.document 0 = some false ∧ rowChecked e h.document 1 = some true := by
  have run : (used ⟨0⟩ .standard blankPage [.patch (.create .radioSet ⟨1, none, 0⟩),
      .patch (.update 1 (polling (some ["a", "b", "c"]) none)),
      .patch (.update 1 (polling none (some 0))), .patch (.update 1 (polling none (some 1))),
      .patch (.update 1 (polling (some ["d", "e"]) none))]).map
      (fun r =>
        (r.2.elements[(1 : UInt32)]?.map (·.widget), rowCount (life r.1 1), chosen (life r.1 1) 0,
          selection (life r.1 1),
          (life r.1 1).all (·.isUpdate))) =
          some (some .radioSet, 2, false, some 1, true) := by decide +kernel
  obtain ⟨⟨deeds, s⟩, start, facts⟩ := Option.map_eq_some_iff.1 run
  obtain ⟨alive, two, unchosen, last, alone⟩ :
      s.elements[(1 : UInt32)]?.map (·.widget) = some .radioSet ∧ rowCount (life deeds 1) = 2 ∧
        chosen (life deeds 1) 0 = false ∧ selection (life deeds 1) = some 1 ∧
        ∀ i ∈ life deeds 1, i.isUpdate := by
    simpa using facts
  obtain ⟨h, usage⟩ := exists_usage start
  obtain ⟨e, found, kind⟩ := Option.map_eq_some_iff.1 alive
  obtain ⟨_, checked, selected, _⟩ :=
    radio_rows_of_usage reached_blankPage rfl usage found kind alone
  refine ⟨deeds, s, h, e, usage, found, ?_, selected 1 last (by rw [two]; decide)⟩
  rw [checked 0 (by rw [two]; decide), unchosen]

/-- A row that was selected before stays checked beside the row of the last selection, and it stays
checked when the last selection has no row. -/
theorem two_rows_checked :
    ∃ (deeds deeds' : List Deed) (s s' : Scene) (h h' : MemoryHost Recorder) (e e' : Element),
    (Usage ⟨0⟩ .standard blankPage deeds s h ∧ s.elements[(1 : UInt32)]? = some e ∧
      rowCount (life deeds 1) = 2 ∧
      selection (life deeds 1) = some 1 ∧ rowChecked e h.document 0 = some true ∧
      rowChecked e h.document 1 = some true) ∧
    Usage ⟨0⟩ .standard blankPage deeds' s' h' ∧ s'.elements[(1 : UInt32)]? = some e' ∧
    rowCount (life deeds' 1) = 2 ∧
      selection (life deeds' 1) = some 2 ∧ rowChecked e' h'.document 0 = some true := by
  have first : (used ⟨0⟩ .standard blankPage [.patch (.create .radioSet ⟨1, none, 0⟩),
      .patch (.update 1 (polling (some ["a", "b"]) (some 0))),
      .patch (.update 1 (polling none (some 1)))]).map
      (fun r =>
        (r.2.elements[(1 : UInt32)]?.map (·.widget), rowCount (life r.1 1), selection (life r.1 1),
          chosen (life r.1 1) 0,
          chosen (life r.1 1) 1, (life r.1 1).all (·.isUpdate))) =
          some (some .radioSet, 2, some 1, true, true, true) := by
    decide +kernel
  have second : (used ⟨0⟩ .standard blankPage [.patch (.create .radioSet ⟨1, none, 0⟩),
      .patch (.update 1 (polling (some ["a", "b"]) (some 0))),
      .patch (.update 1 (polling none (some 2)))]).map
      (fun r =>
        (r.2.elements[(1 : UInt32)]?.map (·.widget), rowCount (life r.1 1), selection (life r.1 1),
          chosen (life r.1 1) 0,
          (life r.1 1).all (·.isUpdate))) = some (some .radioSet, 2, some 2, true, true) := by
    decide +kernel
  obtain ⟨⟨deeds, s⟩, start, facts⟩ := Option.map_eq_some_iff.1 first
  obtain ⟨⟨deeds', s'⟩, start', facts'⟩ := Option.map_eq_some_iff.1 second
  obtain ⟨alive, two, last, chosen₀, chosen₁, alone⟩ :
      s.elements[(1 : UInt32)]?.map (·.widget) = some .radioSet ∧
        rowCount (life deeds 1) = 2 ∧ selection (life deeds 1) = some 1 ∧
        chosen (life deeds 1) 0 = true ∧ chosen (life deeds 1) 1 = true ∧
        ∀ i ∈ life deeds 1, i.isUpdate := by
    simpa using facts
  obtain ⟨alive', two', last', chosen', alone'⟩ :
      s'.elements[(1 : UInt32)]?.map (·.widget) = some .radioSet ∧
        rowCount (life deeds' 1) = 2 ∧ selection (life deeds' 1) = some 2 ∧
        chosen (life deeds' 1) 0 = true ∧
        ∀ i ∈ life deeds' 1, i.isUpdate := by
    simpa using facts'
  obtain ⟨h, usage⟩ := exists_usage start
  obtain ⟨h', usage'⟩ := exists_usage start'
  obtain ⟨e, found, kind⟩ := Option.map_eq_some_iff.1 alive
  obtain ⟨e', found', kind'⟩ := Option.map_eq_some_iff.1 alive'
  obtain ⟨_, _, rows⟩ := abiding_polled.abides usage reached_blankPage rfl 1 e found kind alone
  obtain ⟨_, _, rows'⟩ :=
    abiding_polled.abides usage' reached_blankPage rfl 1 e' found' kind' alone'
  have inUse := usage.inUse reached_blankPage rfl
  have inUse' := usage'.inUse reached_blankPage rfl
  refine ⟨deeds, deeds', s, s', h, h', e, e', ⟨usage, found, two, last, ?_, ?_⟩, usage',
    found', two', last', ?_⟩
  · rw [inUse.rowChecked found, rows 0 (by rw [two]; decide), chosen₀]
  · rw [inUse.rowChecked found, rows 1 (by rw [two]; decide), chosen₁]
  · rw [inUse'.rowChecked found', rows' 0 (by rw [two']; decide), chosen']

end Results

end LayeredPage.Proofs
