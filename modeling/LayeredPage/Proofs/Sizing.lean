import LayeredPage.Proofs.Overflow
import LayeredPage.Proofs.Usage

/-!
# The sizes of texts

A text has a size of its own on an axis whose size was last sent as negative, and an explicit one
where it was sent otherwise. Once it sized itself on some axis, the page watches its leaf, and goes
on to watch it when explicit sizes come on both axes again.
-/

namespace LayeredPage.Proofs

open Craft Styling

namespace Axis

/-- The style of a size. -/
def extent : Axis → String
  | horizontal => "width"
  | vertical => "height"

def asked : Axis → Geometry → Option Float
  | horizontal, g => g.width
  | vertical, g => g.height

/-- The size that an incident brings; one that is neither negative nor not negative says nothing. -/
def sent (a : Axis) : Incident → Option Float
  | .updated (.text c) => (a.asked c.geometry).filter fun x => decide (x < 0) || decide (0 ≤ x)
  | _ => none

/-- The size that was sent last. -/
def size? (a : Axis) (past : List Incident) : Option Float := past.findSome? a.sent

/-- Whether an incident has a text size itself. -/
def Frees (a : Axis) (i : Incident) : Prop := ∃ x ∈ a.sent i, x < 0

end Axis

/-- The style for a size. -/
def explicitly (x : Float) : Option String := if x < 0 then none else some (px x)

/-- A text is as the sizes say that were sent to it. -/
structure Sized (past : List Incident) (t : Likeness) : Prop where
  part : t.parts.length = 1
  styled : ∀ a : Axis, t.leaf.style a.extent = (a.size? past).bind explicitly
  watched : t.watched = true ↔ ∃ i ∈ past, ∃ a : Axis, a.Frees i
  noted : t.notes.observed = t.watched

/-! ## What an update makes of the sizes -/

/-- What matters of the sizes, if a text has its part. -/
structure Extent where
  parts : Nat
  leaf : Option (Option String × Option String × Bool)
  observed : Bool

def extent (t : Likeness) : Extent :=
  ⟨t.parts.length,
    if 0 < t.parts.length then some (t.leaf.style "width", t.leaf.style "height", t.watched)
      else none, t.notes.observed⟩

/-- Requests that size no leaf and note nothing. -/
def Sizeless : BenchRequest → Prop
  | .look | .html _ | .useFont _ => True
  | .write .leaf (.style p _) => p ≠ "width" ∧ p ≠ "height"
  | .write (.part 0) .observe => False
  | .write (.part 0) _ => True
  | _ => False

section Crafts

variable {t t' : Likeness} {α : Type} {craft : Craft α} {a : α}

lemma Sizeless.keeps (t : Likeness) (r : BenchRequest) (reply : r.Reply) (t' : Likeness)
    (sizeless : Sizeless r)
    (performed : t.perform r = some (reply, t')) : extent t' = extent t := by
  have of_part (f : Figure → Figure) : extent (t.drawn f (.part 0)) = extent t := by
    by_cases part : 0 < t.parts.length <;> simp [extent, Likeness.drawn, part]
  cases r with
  | note | addPart | addOption | clearOptions | sample | resizeRegion => exact sizeless.elim
  | look | html | useFont =>
    cases performed
    rfl
  | write spot w =>
    cases spot with
    | option => exact sizeless.elim
    | leaf =>
      cases w with
      | style p v =>
        cases performed
        have kept (q : String) (other : p ≠ q) :
            (t.leaf.styled p (some v)).style q = t.leaf.style q := if_neg (Ne.symm other)
        simp only [extent, Likeness.drawn, Figure.written, kept _ sizeless.1, kept _ sizeless.2]
      | _ => exact sizeless.elim
    | part i =>
      cases i with
      | succ => exact sizeless.elim
      | zero =>
        cases w with
        | observe => exact sizeless.elim
        | attr | style | noStyle | linkStyle | html | text | form | focus | bind =>
          cases performed
          exact of_part _

lemma sizeless_part (p v : String) : Uses Sizeless (style (.part 0) p v) :=
  ⟨trivial, fun _ => trivial⟩

/-- The text style of a text sizes neither of its nodes. -/
lemma Typographic.sizeless (r : BenchRequest) (typographic : Typographic .leaf (.part 0) r) :
    Sizeless r := by
  have unsized : ∀ p ∈ typography, p ≠ "width" ∧ p ≠ "height" := by decide
  cases r with
  | useFont => trivial
  | write spot w =>
    cases w with
    | style property =>
      obtain ⟨rfl | rfl, known⟩ := typographic
      · exact unsized property known
      · trivial
    | linkStyle =>
      obtain rfl : spot = .part 0 := typographic
      trivial
    | attr | noStyle | html | text | form | focus | bind | observe => exact typographic.elim
  | look | note | addPart | addOption | clearOptions | html | sample | resizeRegion =>
    exact typographic.elim

lemma isAuto_iff {size : Option Float} : isAuto size = true ↔ ∃ x ∈ size, x < 0 := by
  cases size with
  | none => exact ⟨nofun, nofun⟩
  | some x =>
    exact decide_eq_true_iff.trans ⟨fun low => ⟨x, rfl, low⟩, fun ⟨_, same, low⟩ =>
      Option.some.inj same ▸ low⟩

/-- Whatever it is painted on, a craft keeps the sizes. -/
def KeepsExtent {α : Type} (craft : Craft α) : Prop :=
  ∀ t a t', paint craft t = some (a, t') → Proofs.extent t' = Proofs.extent t

lemma KeepsExtent.bind {β : Type} {f : α → Craft β} (first : KeepsExtent craft)
    (next : ∀ a, KeepsExtent (f a)) :
    KeepsExtent (craft >>= f) := by
  intro t b t'' painted
  obtain ⟨a, t', painted, rest⟩ := paint_bind_inv painted
  exact (next a t' b t'' rest).trans (first t a t' painted)

lemma Uses.keepsExtent (uses : Uses Sizeless craft) : KeepsExtent craft := fun _ _ _ painted =>
  uses.paint_keeps Proofs.extent Sizeless.keeps painted

lemma keepsExtent_each {β : Type} {value : Option β} {f : β → Craft Unit}
    (all : ∀ b, KeepsExtent (f b)) : KeepsExtent (each value f) := by
  cases value with
  | none => exact Uses.keepsExtent trivial
  | some b => exact all b

lemma keepsExtent_remember {f : Notes → Notes} (same : ∀ n, (f n).observed = n.observed) :
    KeepsExtent (remember f) := by
  intro t _ t' painted
  cases painted
  exact congrArg (Extent.mk _ _) (same t.notes)

/-! ### The steps of an update -/

/-- Has the leaf watched. -/
def watch (auto : Bool) : Craft Unit := if auto then do
    write .leaf .observe
    remember fun n => { n with observed := true }
  else pure ()

/-- Takes a size from the leaf. -/
def free (auto : Bool) (property : String) : Craft Unit :=
  if auto then write .leaf (.noStyle property) else pure ()

/-- What an update does to the content and the look of a text. -/
def finish (c : TextChange) (shown : Option String) : Craft Unit := do
  each c.editable fun editable => do
    attr (.part 0) "contenteditable" (if editable then "true" else "false")
    if editable then
      style (.part 0) "outline" "none"
      style (.part 0) "width" "inherit"
      style (.part 0) "height" "inherit"
  each c.style (applyTextStyle .leaf (.part 0))
  each c.linkStyle fun s => remember fun n => { n with linkStyle := some s }
  let html := c.content.map Markdown.render
  let rewritten := html.isSome && html != shown
  if rewritten then
    each html fun html => do
      write (.part 0) (.html html)
      remember fun n => { n with html := some html }
  if rewritten || c.linkStyle.isSome then
    each (← Craft.call .look).linkStyle (applyLinkStyle .leaf (.part 0))

/-- An update sizes the leaf, and then does the rest. -/
lemma updateText_steps (c : TextChange) : updateText c = (Craft.call .look >>= fun e =>
    watch ((isAuto c.geometry.width || isAuto c.geometry.height) && !e.observed) >>= fun _ =>
      applyGeometry .leaf .leaf ⟨explicit c.geometry.width, explicit c.geometry.height,
        c.geometry.transform⟩ >>= fun _ =>
        free (isAuto c.geometry.width) "width" >>= fun _ =>
          free (isAuto c.geometry.height) "height" >>= fun _ => finish c e.html) := by
  unfold updateText watch free
  refine bind_congr fun e => ?_
  cases (isAuto c.geometry.width || isAuto c.geometry.height) &&
    !e.observed <;> cases isAuto c.geometry.width <;>
    cases isAuto c.geometry.height <;> rfl

lemma keepsExtent_finish (c : TextChange) (shown : Option String) :
    KeepsExtent (finish c shown) := by
  unfold finish
  refine (keepsExtent_each fun editable => Uses.keepsExtent ?_).bind fun _ => ?_
  · refine Uses.bind ⟨trivial, fun _ => trivial⟩ fun _ => uses_ite ?_ trivial
    refine (sizeless_part ..).bind fun _ => ?_
    refine (sizeless_part ..).bind fun _ => ?_
    exact sizeless_part ..
  refine (keepsExtent_each fun s =>
    ((typographic_textStyle _ _ s).mono Typographic.sizeless).keepsExtent).bind fun _ => ?_
  refine (keepsExtent_each fun s => keepsExtent_remember ?_).bind fun _ => ?_
  · exact fun _ => rfl
  have relink (again : Bool) :
      KeepsExtent
        (if again then do each (← Craft.call .look).linkStyle (applyLinkStyle .leaf
          (.part 0)) else pure ()) := by
    split
    · exact Uses.keepsExtent (Uses.bind ⟨trivial, fun _ => trivial⟩ fun view => uses_each fun s =>
        (typographic_linkStyle _ _ s).mono Typographic.sizeless)
    · exact Uses.keepsExtent trivial
  dsimp only
  split
  · refine (keepsExtent_each fun html => ?_).bind fun _ => relink _
    have put : Uses Sizeless (write (.part 0) (.html html)) := ⟨trivial, fun _ => trivial⟩
    refine put.keepsExtent.bind fun _ => keepsExtent_remember ?_
    exact fun _ => rfl
  · exact relink _

/-- The leaf is watched from when a size is sent that frees an axis. -/
lemma paint_watch (auto : Bool) (noted : t.notes.observed = t.watched) :
    paint (watch (auto && !t.notes.observed)) t =
      some ((), { t with
        watched := auto || t.watched
        notes := { t.notes with observed := auto || t.watched } }) := by
  obtain ⟨⟨observed, linkStyle, html, selected, tabIndex, slider⟩, scroll, watched, leaf,
    parts, options⟩ := t
  obtain rfl : observed = watched := noted
  cases auto <;> cases observed <;> rfl

lemma paint_free (auto : Bool) (property : String) :
    paint (free auto property) t =
      some ((), { t with
        leaf := { t.leaf with
          style :=
            if auto then Function.update t.leaf.style property none else t.leaf.style } }) := by
  cases auto <;> rfl

/-- The style of the leaf on an axis after a size, which may be negative. -/
def resized (size : Option Float) (style : Option String) : Option String :=
  if isAuto size then none else ((explicit size).map px).or style

/-- What an update makes of the sizes. -/
theorem extent_updated {c : TextChange} (part : 0 < t.parts.length)
    (noted : t.notes.observed = t.watched) (painted : paint (updateText c) t = some ((), t')) :
    extent t' =
      ⟨t.parts.length,
        some (resized c.geometry.width (t.leaf.style "width"),
          resized c.geometry.height (t.leaf.style "height"),
          isAuto c.geometry.width || isAuto c.geometry.height || t.watched),
          isAuto c.geometry.width || isAuto c.geometry.height || t.watched⟩ := by
  rw [updateText_steps] at painted
  have viewed : t.view.observed = t.notes.observed := rfl
  rw [paint_then paint_look, viewed, paint_then (paint_watch _ noted),
    paint_then (paint_geometry ..), paint_then (paint_free ..),
    paint_then (paint_free ..)] at painted
  rw [keepsExtent_finish c _ _ _ _ painted]
  simp only [extent, Likeness.placed, Likeness.styled, Likeness.drawn, resized, part]
  cases isAuto c.geometry.width <;> cases isAuto c.geometry.height <;> simp [Figure.styled]

end Crafts

/-! ## All texts of a scene -/

section Lives

variable {past : List Incident} {i : Incident} {a : Axis} {t : Likeness} {c : TextChange}

/-- What the last size calls for after one more incident. -/
lemma size?_cons : (a.size? (i :: past)).bind explicitly = match a.sent i with
    | some x => explicitly x
    | none => (a.size? past).bind explicitly := by
  cases sent : a.sent i with
  | none => rw [Axis.size?, List.findSome?_cons, sent]; rfl
  | some x => rw [Axis.size?, List.findSome?_cons, sent]; rfl

/-- An update resizes the leaf as the size calls for that it sends. -/
lemma resized_eq (style : Option String) :
    resized (a.asked c.geometry) style = match a.sent (.updated (.text c)) with
    | some x => explicitly x
    | none => style := by
  cases size : a.asked c.geometry with
  | none => simp [resized, isAuto, explicit, Axis.sent, size]
  | some x =>
    by_cases low : x < 0
    · simp [resized, isAuto, Axis.sent, size, low, explicitly, Option.filter_some]
    · by_cases high : 0 ≤ x
      · simp [resized, isAuto, explicit, Axis.sent, size, low, high, explicitly, Option.filter_some]
      · simp [resized, isAuto, explicit, Axis.sent, size, low, high, Option.filter_some]

lemma frees_updated : a.Frees (.updated (.text c)) ↔ isAuto (a.asked c.geometry) = true := by
  rw [isAuto_iff]
  refine ⟨fun ⟨x, sent, low⟩ => ⟨x, (Option.mem_filter_iff.1 sent).1, low⟩,
    fun ⟨x, asked, low⟩ => ⟨x, ?_, low⟩⟩
  exact Option.mem_filter_iff.2 ⟨asked, by simp [low]⟩

/-- Two likenesses with one part and the same sizes. -/
lemma leaf_of_extent {t' : Likeness} (part : t.parts.length = 1) (same : extent t' = extent t) :
    (∀ a : Axis, t'.leaf.style a.extent = t.leaf.style a.extent) ∧ t'.watched = t.watched := by
  have part' : t'.parts.length = 1 := (congrArg Extent.parts same).trans part
  have leaf : some (t'.leaf.style "width", t'.leaf.style "height", t'.watched) =
      some (t.leaf.style "width", t.leaf.style "height", t.watched) := by
    have leaf := congrArg Extent.leaf same
    simpa only [extent, part, part', Nat.zero_lt_one, if_true] using leaf
  obtain ⟨width, rest⟩ := Prod.mk.inj (Option.some.inj leaf)
  obtain ⟨height, watched⟩ := Prod.mk.inj rest
  refine ⟨fun a => ?_, watched⟩
  cases a with
  | horizontal => exact width
  | vertical => exact height

lemma Sized.congr {t' : Likeness} (sized : Sized past t) (same : extent t' = extent t) :
    Sized past t' := by
  obtain ⟨styles, watched⟩ := leaf_of_extent sized.part same
  exact ⟨(congrArg Extent.parts same).trans sized.part, fun a => (styles a).trans (sized.styled a),
    watched ▸ sized.watched,
    (congrArg Extent.observed same).trans (sized.noted.trans watched.symm)⟩

/-- An incident that sends no size. -/
lemma Sized.idle (sized : Sized past t) (still : ∀ a : Axis, a.sent i = none) :
    Sized (i :: past) t := by
  refine ⟨sized.part, fun a => ?_, ?_, sized.noted⟩
  · rw [size?_cons, still, sized.styled]
  · rw [sized.watched]
    refine ⟨fun ⟨j, hj, a, frees⟩ => ⟨j, List.mem_cons_of_mem _ hj, a, frees⟩,
      fun ⟨j, hj, a, frees⟩ => ?_⟩
    rcases List.mem_cons.1 hj with rfl | hj
    · obtain ⟨x, sent, _⟩ := frees
      rw [still] at sent
      cases sent
    · exact ⟨j, hj, a, frees⟩

/-- An update that sends sizes, or none. -/
lemma Sized.updated {t' : Likeness} (sized : Sized past t)
    (painted : paint (updateText c) t = some ((), t')) :
    Sized (.updated (.text c) :: past) t' := by
  have same := extent_updated (by rw [sized.part]; exact Nat.one_pos) sized.noted painted
  let t₁ : Likeness := { t with
    watched := isAuto c.geometry.width || isAuto c.geometry.height || t.watched
    notes :=
      { t.notes with observed := isAuto c.geometry.width || isAuto c.geometry.height || t.watched }
    leaf :=
      { t.leaf with style := fun q => if q = "width" then resized c.geometry.width (t.leaf.style
        "width")
      else if q =
        "height" then resized c.geometry.height (t.leaf.style "height") else t.leaf.style q } }
  -- The sizes after the update are those of this likeness.
  have same₁ : extent t' = extent t₁ := by
    rw [same]
    simp [extent, t₁, sized.part]
  have sized₁ : Sized (.updated (.text c) :: past) t₁ := by
    refine ⟨sized.part, fun a => ?_, ?_, rfl⟩
    · have style :
          t₁.leaf.style a.extent = resized (a.asked c.geometry) (t.leaf.style a.extent) := by
        cases a <;> simp [t₁, Axis.extent, Axis.asked]
      rw [style, resized_eq, size?_cons, sized.styled]
    · simp only [t₁, Bool.or_eq_true, sized.watched]
      refine ⟨?_, fun ⟨j, hj, a, frees⟩ => ?_⟩
      · rintro ((wide | high) | ⟨j, hj, a, frees⟩)
        · exact ⟨_, List.mem_cons_self, .horizontal, frees_updated.2 wide⟩
        · exact ⟨_, List.mem_cons_self, .vertical, frees_updated.2 high⟩
        · exact ⟨j, List.mem_cons_of_mem _ hj, a, frees⟩
      · rcases List.mem_cons.1 hj with rfl | hj
        · have auto := frees_updated.1 frees
          cases a with
          | horizontal => exact .inl (.inl auto)
          | vertical => exact .inl (.inr auto)
        · exact .inr ⟨j, hj, a, frees⟩
  exact sized₁.congr same₁

lemma extent_set (spot : Spot) (property : FormProperty) :
    extent (t.set spot property) = extent t := by
  unfold Likeness.set Likeness.drawn
  cases spot with
  | leaf => rfl
  | part i =>
    dsimp only
    split
    · simp only [extent, List.length_modify]
    · rfl
  | option i =>
    dsimp only
    split <;> rfl

lemma extent_entered (spot : Spot) (entry : Entry) : extent (t.entered spot entry) = extent t := by
  cases entry with
  | value | checked | selected => exact extent_set ..
  | scrolled => exact (extent_set ..).trans (extent_set ..)

lemma extent_restacked (depth : UInt32) (tab : Int) :
    extent (t.restacked depth tab) = extent t := by
  have kept (q : String) (other : q ≠ "z-index") :
      (t.leaf.styled "z-index" (some (toString depth))).style q = t.leaf.style q := if_neg other
  simp only [extent, Likeness.restacked, List.length_map, Figure.written, kept "width" (by decide),
    kept "height" (by decide)]

theorem abiding_sized : Abiding .text Sized where
  born config id := by
    refine ⟨_, rfl, rfl, fun a => ?_, ?_, rfl⟩
    · cases a <;> rfl
    · exact ⟨fun no => Bool.noConfusion no, fun ⟨_, hi, _⟩ => absurd hi List.not_mem_nil⟩
  moved past depth tab t sized := sized.congr (extent_restacked depth tab)
  updated past id change t t' kind sized painted := by
    cases change with
    | text c => exact sized.updated painted
    | _ => cases kind
  entered past spot entry t sized := (sized.idle fun _ => rfl).congr (extent_entered spot entry)
  fired past spot name value t sized :=
  ⟨sized.idle fun _ => rfl, fun state => (sized.idle fun _ => rfl).congr (extent_set ..)⟩

end Lives

section Results

variable {κ : Type} [Core κ] {mount : NodeId} {config : Config} {h₀ h : MemoryHost κ} {s : Scene}
  {deeds : List Deed} {id : UInt32} {e : Element}

lemma style_leaf (e : Element) (d : MemoryDocument) (p : String) :
    (likeness e d).leaf.style p = (d.node? e.leaf.id).bind fun node => node.style[p]? := by
  change (face d e.leaf.id).style p = _
  unfold face
  cases d.node? e.leaf.id with
  | none => rfl
  | some node => rfl

/-- In every scene in use, the leaf of a text has on each axis the style that the size sent last
calls for. The page observes the leaf from the first size on that freed an axis; as long as no axis
that was freed was sized explicitly afterwards, it thus observes the leaf exactly while an axis is
free. -/
theorem text_sizes_of_usage (reached : Reached h₀.document) (there : h₀.document.issued mount)
    (usage : Usage mount config h₀ deeds s h) (found : s.elements[id]? = some e)
    (text : e.widget = .text) :
    (∀ a : Axis, ((h.document.node? e.leaf.id).bind fun node => node.style[a.extent]?) =
      (a.size? (life deeds id)).bind explicitly) ∧
      (e.leaf.id.index ∈ h.document.observed ↔ ∃ i ∈ life deeds id, ∃ a : Axis, a.Frees i) ∧
      ((∀ a : Axis, (∃ i ∈ life deeds id, a.Frees i) → ∃ x ∈ a.size? (life deeds id), x < 0) →
        (e.leaf.id.index ∈ h.document.observed ↔
          ∃ a : Axis, ∃ x ∈ a.size? (life deeds id), x < 0)) := by
  have sized : Sized (life deeds id) (likeness e h.document) :=
    abiding_sized.abides usage reached there id e found text
  have watched : e.leaf.id.index ∈ h.document.observed ↔ ∃ i ∈ life deeds id,
      ∃ a : Axis, a.Frees i :=
    Std.ExtTreeSet.contains_iff_mem.symm.trans sized.watched
  refine ⟨fun a => (style_leaf e h.document a.extent).symm.trans (sized.styled a), watched,
    fun free => watched.trans ⟨?_, ?_⟩⟩
  · rintro ⟨i, hi, a, frees⟩
    exact ⟨a, free a ⟨i, hi, frees⟩⟩
  · rintro ⟨a, x, last, low⟩
    obtain ⟨i, hi, sent⟩ := List.exists_of_findSome?_eq_some last
    exact ⟨i, hi, a, x, sent, low⟩

/-- A text that sizes its width itself under an explicit height. -/
theorem text_sizes_of_free_width :
    ∃ (deeds : List Deed) (s : Scene) (h : MemoryHost Recorder) (e : Element),
    Usage ⟨0⟩ .standard blankPage deeds s h ∧ s.elements[(1 : UInt32)]? = some e ∧
      ((h.document.node? e.leaf.id).bind fun node => node.style["width"]?) = none ∧
      ((h.document.node? e.leaf.id).bind fun node => node.style["height"]?) = some "50px" ∧
      e.leaf.id.index ∈ h.document.observed := by
  have run : (used ⟨0⟩ .standard blankPage [.patch (.create .text ⟨1, none, 0⟩),
      .patch (.update 1 (.text ⟨⟨some 100, some 50, none⟩, none, none, none, none⟩)),
      .patch (.update 1 (.text ⟨⟨some (-1), none, none⟩, none, none, none, none⟩))]).map
      (fun r =>
        (r.2.elements[(1 : UInt32)]?.map (·.widget), Axis.horizontal.size? (life r.1 1),
          Axis.vertical.size? (life r.1 1),
          (life r.1 1).any fun i => (Axis.vertical.sent i).any (· < 0))) =
          some (some .text, some (-1), some 50, false) := by decide +kernel
  obtain ⟨⟨deeds, s⟩, start, facts⟩ := Option.map_eq_some_iff.1 run
  obtain ⟨alive, wide, high, bound⟩ : s.elements[(1 : UInt32)]?.map (·.widget) = some .text ∧
      Axis.horizontal.size? (life deeds 1) = some (-1) ∧
      Axis.vertical.size? (life deeds 1) = some 50 ∧
      ∀ i ∈ life deeds 1, ∀ x, Axis.vertical.sent i = some x → ¬x < 0 := by
    simpa [Option.any_eq_false] using facts
  obtain ⟨h, usage⟩ := exists_usage start
  obtain ⟨e, found, kind⟩ := Option.map_eq_some_iff.1 alive
  obtain ⟨styled, _, observed⟩ := text_sizes_of_usage reached_blankPage rfl usage found kind
  have low : (-1 : Float) < 0 := by decide +kernel
  refine ⟨deeds, s, h, e, usage, found, ?_, ?_, (observed ?_).2 ⟨.horizontal, -1, wide, low⟩⟩
  · have width : (Axis.horizontal.size? (life deeds 1)).bind explicitly = none := by
      rw [wide]
      decide +kernel
    exact (styled .horizontal).trans width
  · have height : (Axis.vertical.size? (life deeds 1)).bind explicitly = some "50px" := by
      rw [high]
      decide +kernel
    exact (styled .vertical).trans height
  · rintro (_ | _) ⟨i, hi, x, sent, negative⟩
    · exact ⟨-1, wide, low⟩
    · exact absurd negative (bound i hi x sent)

/-- A text that sized its width itself gets an explicit one, and the page observes it as before. -/
theorem observed_after_explicit_size :
    ∃ (deeds : List Deed) (s : Scene) (h : MemoryHost Recorder) (e : Element),
    Usage ⟨0⟩ .standard blankPage deeds s h ∧
    s.elements[(1 : UInt32)]? = some e ∧ e.widget = .text ∧
      (∀ a : Axis, ∀ x ∈ a.size? (life deeds 1), ¬x < 0) ∧
      e.leaf.id.index ∈ h.document.observed := by
  have run : (used ⟨0⟩ .standard blankPage [.patch (.create .text ⟨1, none, 0⟩),
      .patch (.update 1 (.text ⟨⟨some (-1), none, none⟩, none, none, none, none⟩)),
      .patch (.update 1 (.text ⟨⟨some 100, none, none⟩, none, none, none, none⟩))]).map
      (fun r =>
        (r.2.elements[(1 : UInt32)]?.map (·.widget), Axis.horizontal.size? (life r.1 1),
          Axis.vertical.size? (life r.1 1),
          (life r.1 1).any fun i => (Axis.horizontal.sent i).any (· < 0))) =
          some (some .text, some 100, none, true) := by decide +kernel
  obtain ⟨⟨deeds, s⟩, start, facts⟩ := Option.map_eq_some_iff.1 run
  obtain ⟨alive, wide, high, i, hi, x, sent, low⟩ :
    s.elements[(1 : UInt32)]?.map (·.widget) = some .text ∧
      Axis.horizontal.size? (life deeds 1) = some 100 ∧ Axis.vertical.size? (life deeds 1) = none ∧
      ∃ i ∈ life deeds 1, ∃ x, Axis.horizontal.sent i = some x ∧ x < 0 := by
    simpa [Option.any_eq_true] using facts
  obtain ⟨h, usage⟩ := exists_usage start
  obtain ⟨e, found, kind⟩ := Option.map_eq_some_iff.1 alive
  have sized := abiding_sized.abides usage reached_blankPage rfl 1 e found kind
  refine ⟨deeds, s, h, e, usage, found, kind, ?_, ?_⟩
  · intro a x last
    cases a with
    | horizontal =>
      obtain rfl : 100 = x := Option.some.inj (wide.symm.trans last)
      decide +kernel
    | vertical =>
      rw [high] at last
      cases last
  · exact Std.ExtTreeSet.contains_iff_mem.1 (sized.watched.2 ⟨i, hi, .horizontal, x, sent, low⟩)

end Results

end LayeredPage.Proofs
