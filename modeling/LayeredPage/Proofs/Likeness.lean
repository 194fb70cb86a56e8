import LayeredPage.Memory.Document
import LayeredPage.Proofs.Manners

/-!
# The likeness of an element

A likeness is all that can be seen of an element without its surroundings: what it notes, and what
the page shows of its leaf, its parts and its options and of how they hang together. A craft can be
painted: what it makes of a likeness is computed request by request, on no page at all.
-/

namespace LayeredPage.Proofs

/-- What a document shows of a node, apart from its ties. -/
@[ext] structure Face where
  kind : NodeKind
  attributes : String → Option String
  style : String → Option String
  linkStyle : String → Option String
  html : String
  form : FormState

/-- The face of a record. -/
def Face.of (node : MemoryNode) : Face :=
  ⟨node.kind, fun name => node.attributes[name]?, fun p => node.style[p]?, fun p =>
    node.linkStyle[p]?, node.html, node.form⟩

/-- The face of a node in its empty state. -/
def Face.fresh (kind : NodeKind) : Face :=
  ⟨kind, fun _ => none, fun _ => none, fun _ => none, "", .initial⟩

/-- A face, and the places of the nodes below it. -/
@[ext] structure Figure extends Face where
  below : List Spot

namespace Figure

def fresh (kind : NodeKind) : Figure := ⟨.fresh kind, []⟩

/-- A style that is written if there is a value for it. -/
def styled (property : String) (value : Option String) (g : Figure) : Figure :=
  { g with style := fun q => if q = property then value.or (g.style q) else g.style q }

/-- What a write makes of the figure of its node. -/
def written : NodeWrite → Figure → Figure
  | .attr name value, g => { g with attributes := Function.update g.attributes name (some value) }
  | .style property value, g => g.styled property (some value)
  | .noStyle property, g => { g with style := Function.update g.style property none }
  | .linkStyle property value, g =>
    { g with linkStyle := Function.update g.linkStyle property (some value) }
  | .html markup, g => { g with html := markup, below := [] }
  | .text content, g => { g with html := Text.escapeData content, below := [] }
  | .form property, g => { g with form := g.form.set property }
  | .focus, g | .bind .., g | .observe, g => g

end Figure

/-- The place of an option. -/
def isOption : Spot → Bool
  | .option _ => true
  | _ => false

/-- What can be seen of an element; it is watched if the size of its leaf is observed. -/
@[ext] structure Likeness where
  notes : Notes
  scroll : Option ScrollRegion
  watched : Bool
  leaf : Figure
  parts : List Figure
  options : List Figure

namespace Likeness

def view (t : Likeness) : ElementView := ⟨t.notes, t.parts.length, t.options.length, t.scroll⟩

/-- The figure at a place, or the leaf where there is none. -/
def figure (t : Likeness) : Spot → Figure
  | .leaf => t.leaf
  | .part i => t.parts[i]?.getD t.leaf
  | .option i => t.options[i]?.getD t.leaf

/-- The likeness with the figure at a place redrawn. -/
def drawn (t : Likeness) (f : Figure → Figure) : Spot → Likeness
  | .leaf => { t with leaf := f t.leaf }
  | .part i =>
    if i < t.parts.length then { t with parts := t.parts.modify i f }
      else { t with leaf := f t.leaf }
  | .option i =>
    if i < t.options.length then { t with options := t.options.modify i f }
      else { t with leaf := f t.leaf }

/-- A style of one node that is written if there is a value for it. -/
def styled (t : Likeness) (spot : Spot) (property : String) (value : Option String) : Likeness :=
  t.drawn (·.styled property value) spot

/-- A new option takes the tab index of the element if it takes the focus. -/
def newOption (t : Likeness) (kind : NodeKind) : Figure :=
  match t.notes.tabIndex with
  | some tab =>
    if kind.isFocusable then (Figure.fresh kind).written
      (.attr "tabindex" (toString tab)) else .fresh kind
  | none => .fresh kind

/-- A figure without the options below it. -/
def bare (g : Figure) : Figure := { g with below := g.below.filter (!isOption ·) }

/-- One place more below the figure at a place. -/
def hung (t : Likeness) (parent child : Spot) : Likeness :=
  t.drawn (fun g => { g with below := g.below ++ [child] }) parent

def withPart (t : Likeness) (parent : Spot) (kind : NodeKind) : Likeness :=
  let t' := t.hung parent (.part t.parts.length)
  { t' with parts := t'.parts ++ [.fresh kind] }

def withOption (t : Likeness) (parent : Spot) (kind : NodeKind) : Likeness :=
  let t' := t.hung parent (.option t.options.length)
  { t' with options := t'.options ++ [t.newOption kind] }

def withoutOptions (t : Likeness) : Likeness :=
  { t with leaf := bare t.leaf, parts := t.parts.map bare, options := [] }

/-- What a request is told, and what it makes of the likeness. Nothing is said of samplers, nor of
observing other nodes than the leaf. -/
def perform (t : Likeness) : (r : BenchRequest) → Option (r.Reply × Likeness)
  | .look => some (t.view, t)
  | .note notes => some ((), { t with notes })
  | .addPart parent kind => some (.part t.parts.length, t.withPart parent kind)
  | .addOption parent kind => some (.option t.options.length, t.withOption parent kind)
  | .clearOptions => some ((), t.withoutOptions)
  | .write .leaf .observe => some ((), { t with watched := true })
  | .write _ .observe => none
  | .write spot w => some ((), t.drawn (·.written w) spot)
  | .html spot => some ((t.figure spot).html, t)
  | .sample .. => none
  | .resizeRegion width height =>
    some ((), { t with scroll := t.scroll.map (·.resize width height) })
  | .useFont _ => some ((), t)

end Likeness

/-- What a craft comes to and what it makes of a likeness. -/
def paint {α : Type} : Craft α → Likeness → Option (α × Likeness)
  | .done a, t => some (a, t)
  | .ask r next, t => (t.perform r).bind fun (reply, t') => paint (next reply) t'
  | .broken _, _ => none

section Crafts

open Craft Styling

variable {α β : Type} {t t' : Likeness} {craft : Craft α} {f : α → Craft β} {a : α}

lemma paint_pure (a : α) : paint (pure a) t = some (a, t) := rfl

lemma paint_bind (craft : Craft α) (f : α → Craft β) :
    paint (craft >>= f) t = (paint craft t).bind fun r => paint (f r.1) r.2 := by
  induction craft generalizing t with
  | done a => rfl
  | ask r next ih =>
    change (t.perform r).bind _ = ((t.perform r).bind _).bind _
    cases t.perform r with
    | none => rfl
    | some reply => exact ih reply.1
  | broken why => rfl

/-- Painting goes on from what the first steps come to. -/
lemma paint_then (first : paint craft t = some (a, t')) (f : α → Craft β) :
    paint (craft >>= f) t = paint (f a) t' := by
  rw [paint_bind, first]
  rfl

lemma paint_bind_inv {b : β} {t'' : Likeness} (painted : paint (craft >>= f) t = some (b, t'')) :
    ∃ a t', paint craft t = some (a, t') ∧ paint (f a) t' = some (b, t'') := by
  rw [paint_bind] at painted
  obtain ⟨⟨a, t'⟩, first, next⟩ := Option.bind_eq_some_iff.1 painted
  exact ⟨a, t', first, next⟩

/-- What each of its requests preserves, a craft preserves. -/
lemma Uses.paint_preserves {allowed : BenchRequest → Prop} {P : Likeness → Prop}
    (preserves : ∀ (t : Likeness) (r : BenchRequest) (reply : r.Reply) (t' : Likeness), allowed r →
      t.perform r = some (reply, t') → P t → P t')
    (uses : Uses allowed craft) (painted : paint craft t = some (a, t')) (holds : P t) : P t' := by
  induction craft generalizing t with
  | done b =>
    cases painted
    exact holds
  | ask r next ih =>
    obtain ⟨⟨reply, t₁⟩, first, painted⟩ := Option.bind_eq_some_iff.1 painted
    exact ih reply (uses.2 reply) painted (preserves t r reply t₁ uses.1 first holds)
  | broken why => exact uses.elim

/-- What each of its requests keeps in view, a craft keeps in view. -/
lemma Uses.paint_keeps {γ : Type} {allowed : BenchRequest → Prop} (view : Likeness → γ)
    (keeps : ∀ (t : Likeness) (r : BenchRequest) (reply : r.Reply) (t' : Likeness), allowed r →
      t.perform r = some (reply, t') → view t' = view t)
    (uses : Uses allowed craft) (painted : paint craft t = some (a, t')) : view t' = view t :=
  uses.paint_preserves (P := fun t' => view t' = view t)
    (fun t₁ r reply t₂ allowed performed same =>
      (keeps t₁ r reply t₂ allowed performed).trans same) painted rfl

/-- Whatever it is painted on, a craft preserves this. -/
structure Conserves (P : Likeness → Prop) (craft : Craft α) : Prop where
  after : ∀ {t a t'}, paint craft t = some (a, t') → P t → P t'

section Conserved

variable {P : Likeness → Prop}

lemma Uses.conserves {allowed : BenchRequest → Prop} (uses : Uses allowed craft)
    (preserves : ∀ (t : Likeness) (r : BenchRequest) (reply : r.Reply) (t' : Likeness), allowed r →
      t.perform r = some (reply, t') → P t → P t') :
    Conserves P craft := ⟨fun painted holds => uses.paint_preserves preserves painted holds⟩

lemma conserves_pure (a : α) : Conserves P (pure a) := by
  refine ⟨fun painted holds => ?_⟩
  cases painted
  exact holds

lemma Conserves.bind (first : Conserves P craft) (next : ∀ a, Conserves P (f a)) :
    Conserves P (craft >>= f) := by
  refine ⟨fun painted holds => ?_⟩
  obtain ⟨a, t', painted, rest⟩ := paint_bind_inv painted
  exact (next a).after rest (first.after painted holds)

lemma conserves_ite {c : Prop} [Decidable c] {yes no : Craft α} (hy : Conserves P yes)
    (hn : Conserves P no) :
    Conserves P (if c then yes else no) := by
  split
  · exact hy
  · exact hn

lemma conserves_each {value : Option β} {f : β → Craft Unit} (all : ∀ b, Conserves P (f b)) :
    Conserves P (each value f) := by
  cases value with
  | none => exact conserves_pure ()
  | some b => exact all b

lemma conserves_forM {xs : List β} {f : β → Craft PUnit} (all : ∀ x, Conserves P (f x)) :
    Conserves P (xs.forM f) := by
  induction xs with
  | nil => exact conserves_pure PUnit.unit
  | cons x xs ih => exact (all x).bind fun _ => ih

lemma conserves_remember {change : Notes → Notes}
    (kept : ∀ t, P t → P { t with notes := change t.notes }) : Conserves P (remember change) := by
  refine ⟨fun painted holds => ?_⟩
  cases painted
  exact kept _ holds

end Conserved

lemma paint_each {value : Option β} {f : β → Craft Unit} :
    paint (each value f) t = match value with
      | some b => paint (f b) t
      | none => some ((), t) := by
  cases value <;> rfl

lemma paint_remember (change : Notes → Notes) :
    paint (remember change) t = some ((), { t with notes := change t.notes }) := rfl

lemma paint_style (spot : Spot) (property value : String) :
    paint (style spot property value) t = some ((), t.styled spot property (some value)) := by
  cases spot <;> rfl

lemma paint_look : paint (Craft.call .look) t = some (t.view, t) := rfl

lemma paint_addPart (parent : Spot) (kind : NodeKind) :
    paint (addPart parent kind) t = some (.part t.parts.length, t.withPart parent kind) := rfl

lemma paint_addOption (parent : Spot) (kind : NodeKind) :
    paint (addOption parent kind) t =
      some (.option t.options.length, t.withOption parent kind) := rfl

lemma paint_write (spot : Spot) (w : NodeWrite) (other : w ≠ .observe) :
    paint (write spot w) t = some ((), t.drawn (·.written w) spot) := by
  cases w with
  | observe => exact absurd rfl other
  | attr | style | noStyle | linkStyle | html | text | form | focus | bind => cases spot <;> rfl

lemma paint_attr (spot : Spot) (name value : String) :
    paint (attr spot name value) t = some ((), t.drawn (·.written (.attr name value)) spot) :=
  paint_write spot _ nofun

lemma paint_form (spot : Spot) (property : FormProperty) :
    paint (setForm spot property) t = some ((), t.drawn (·.written (.form property)) spot) :=
  paint_write spot _ nofun

lemma paint_listen (spot : Spot) (id : UInt32) (binding : InputBinding) :
    paint (listen spot id binding) t = some ((), t.drawn (·.written (.bind id binding)) spot) :=
  paint_write spot _ nofun

lemma styled_none (g : Figure) (property : String) : g.styled property none = g := by
  refine Figure.ext rfl rfl (funext fun q => ?_) rfl rfl rfl rfl
  change (if q = property then none.or (g.style q) else g.style q) = g.style q
  split <;> rfl

lemma drawn_id {f : Figure → Figure} (same : ∀ g, f g = g) (spot : Spot) : t.drawn f spot = t := by
  obtain rfl : f = id := funext same
  cases spot with
  | leaf => rfl
  | part i | option i =>
    simp only [Likeness.drawn, List.modify_id, id_eq, ite_self]

/-- A style that may be written. -/
lemma paint_styles {value : Option β} (spot : Spot) (property : String) (text : β → String) :
    paint (each value fun b => style spot property (text b)) t =
      some ((), t.styled spot property (value.map text)) := by
  cases value with
  | none =>
    exact congrArg (fun t => some ((), t)) (drawn_id (fun g => styled_none g property) spot).symm
  | some b => exact paint_style spot property (text b)

lemma paint_px (spot : Spot) (property : String) (x : Option Float) :
    paint (stylePx spot property x) t = some ((), t.styled spot property (x.map px)) :=
  paint_styles spot property px

lemma paint_color (spot : Spot) (property : String) (color : Option Color) :
    paint (styleColor spot property color) t =
      some ((), t.styled spot property (color.map Color.css)) :=
  paint_styles spot property Color.css

/-- A property of a control that may be set. -/
def Likeness.formed (t : Likeness) (spot : Spot) (property : Option FormProperty) : Likeness :=
  t.drawn (fun g => { g with form := property.elim g.form g.form.set }) spot

lemma paint_forms {value : Option β} (spot : Spot) (property : β → FormProperty) :
    paint (each value fun b => setForm spot (property b)) t =
      some ((), t.formed spot (value.map property)) := by
  cases value with
  | none => exact congrArg (fun t => some ((), t)) (drawn_id (fun _ => rfl) spot).symm
  | some b => exact paint_form spot (property b)

/-- A geometry on a likeness. -/
def Likeness.placed (t : Likeness) (placed sized : Spot) (g : Geometry) : Likeness :=
  ((t.styled sized "width" (g.width.map px)).styled sized "height" (g.height.map px)).styled placed
    "transform" (g.transform.map Affine.css)

lemma paint_geometry (placed sized : Spot) (g : Geometry) :
    paint (applyGeometry placed sized g) t = some ((), t.placed placed sized g) := by
  unfold applyGeometry
  rw [paint_then (paint_px sized "width" g.width), paint_then (paint_px sized "height" g.height)]
  exact paint_styles placed "transform" Affine.css

/-- Crafts that start no sampler and observe nothing but the leaf can be painted. -/
def Paintable : BenchRequest → Prop
  | .sample .. => False
  | .write spot .observe => spot = .leaf
  | _ => True

theorem Uses.exists_paint {craft : Craft α} (uses : Uses Paintable craft) (t : Likeness) :
    ∃ r, paint craft t = some r := by
  induction craft generalizing t with
  | done a => exact ⟨_, rfl⟩
  | ask r next ih =>
    obtain ⟨⟨reply, t'⟩, performed⟩ : ∃ p, t.perform r = some p := by
      cases r with
      | sample => exact uses.1.elim
      | write spot w =>
        cases w with
        | observe =>
          obtain rfl : spot = .leaf := uses.1
          exact ⟨_, rfl⟩
        | attr | style | noStyle | linkStyle | html | text | form | focus | bind =>
          cases spot <;> exact ⟨_, rfl⟩
      | look | note | addPart | addOption | clearOptions | html | resizeRegion | useFont =>
        exact ⟨_, rfl⟩
    obtain ⟨p, painted⟩ := ih reply (uses.2 reply) t'
    refine ⟨p, ?_⟩
    change (t.perform r).bind _ = _
    rw [performed]
    exact painted
  | broken why => exact uses.elim

/-- Every update can be painted. -/
lemma exists_paint_update (id : UInt32) (change : Change) (t : Likeness) :
    ∃ t', paint (Craft.update id change) t = some ((), t') := by
  have paintable : Uses Paintable (Craft.update id change) :=
    (modest_update id change).mono fun r modest => by
    cases r with
    | sample => exact modest
    | write spot w =>
      cases w with
      | observe => exact modest.2
      | attr | style | noStyle | linkStyle | html | text | form | focus | bind => trivial
    | look | note | addPart | addOption | clearOptions | html | resizeRegion | useFont => trivial
  obtain ⟨⟨_, t'⟩, painted⟩ := paintable.exists_paint t
  exact ⟨t', painted⟩

end Crafts

end LayeredPage.Proofs
