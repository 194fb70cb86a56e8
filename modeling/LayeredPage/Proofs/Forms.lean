import LayeredPage.Wire.Batch
import Mathlib.Data.List.Basic
import Mathlib.Data.Option.Basic
import Mathlib.Tactic.Common

/-!
# The forms of payloads

Each tag asks for a payload of one form: a word, or fields of which some must be there. The readers
of patches succeed on exactly these payloads, and read nothing but the named fields. At every depth,
an optional field that is null might as well be absent, and a field that is not named might as well
not be there.
-/

namespace LayeredPage.Proofs

open Schema

/-- What may stand in some place of a payload, and which values say the same there. -/
structure Form where
  Fits : Json → Prop
  Same : Json → Json → Prop

inductive Presence where
  | required
  /-- Absent or null. -/
  | optional
  /-- Absent, but not null. -/
  | defaulted
deriving DecidableEq

structure Field where
  name : String
  presence : Presence
  form : Form

def must (name : String) (form : Form) : Field := ⟨name, .required, form⟩

def may (name : String) (form : Form) : Field := ⟨name, .optional, form⟩

/-- What the members say about a field; null says nothing where the field is optional. -/
def value? (presence : Presence) (key : String) (ms : Members) : Option Json :=
  match presence, Json.member? key ms with
  | .optional, some .null => none
  | _, j? => j?

namespace Field

def value? (f : Field) (ms : Members) : Option Json := Proofs.value? f.presence f.name ms

def Holds (f : Field) (ms : Members) : Prop :=
  match f.value? ms with
  | none => f.presence ≠ .required
  | some j => f.form.Fits j

/-- Both say nothing about the field, or they say the same. -/
def Same (f : Field) (ms ms' : Members) : Prop :=
  Option.Rel f.form.Same (f.value? ms) (f.value? ms')

end Field

namespace Form

def plain (fits : Json → Prop) : Form := ⟨fits, Eq⟩

def word : Form := plain fun
  | .int n => 0 ≤ n ∧ n < UInt32.size
  | _ => False

/-- A whole number must lie in the range of binary64; the others do. -/
def number : Form := plain fun
  | .int n => (Number.ofDecimal? (n < 0) n.natAbs 0).isSome
  | .float _ => True
  | _ => False

def bool : Form := plain fun
  | .bool _ => True
  | _ => False

def string : Form := plain fun
  | .string _ => True
  | _ => False

def list (item : Form) : Form := plain fun
  | .array items => ∀ j ∈ items, item.Fits j
  | _ => False

def tuple (length : Nat) (item : Form) : Form := plain fun
  | .array items => items.length = length ∧ ∀ j ∈ items, item.Fits j
  | _ => False

/-- One of some names, alone or as the only key with null behind it. -/
def name (names : List String) : Form := plain fun
  | .string s => s ∈ names
  | .object [(s, .null)] => s ∈ names
  | _ => False

/-- An object with one key, which says what is behind it. -/
def choice (kinds : List (String × Form)) : Form where
  Fits
    | .object [(key, j)] => ∃ form, (key, form) ∈ kinds ∧ form.Fits j
    | _ => False
  Same j j' := j = j' ∨ ∃ key form payload payload', (key, form) ∈ kinds ∧
    j = .object [(key, payload)] ∧ j' = .object [(key, payload')] ∧ form.Same payload payload'

/-- Two objects say the same if they do so about each field. -/
def sameMembers (fields : List Field) (j j' : Json) : Prop :=
  j = j' ∨ ∃ ms ms', j = .object ms ∧ j' = .object ms' ∧ ∀ f ∈ fields, f.Same ms ms'

def members (fields : List Field) : Form where
  Fits
    | .object ms => ∀ f ∈ fields, f.Holds ms
    | _ => False
  Same := sameMembers fields

/-- Fields by name, or by position. -/
def record (fields : List Field) : Form where
  Fits
    | .object ms => ∀ f ∈ fields, f.Holds ms
    | .array items =>
      items.length ≤ fields.length ∧ ∀ f ∈ fields, f.Holds ((fields.map Field.name).zip items)
    | _ => False
  Same := sameMembers fields

def affine : Form := tuple 6 number

def color : Form :=
  choice [("Rgba", tuple 4 number), ("Hsla", tuple 4 number), ("Rgb", tuple 3 number),
    ("Hsl", tuple 3 number)]

end Form

def faceFields : List Field :=
  [must "family" .string, may "style" (.name (FontStyle.all.map FontStyle.name)),
    may "weight" (.name (FontWeight.all.map FontWeight.name))]

def Form.font : Form :=
  choice [("System", members faceFields), ("Web", members (must "url" .string :: faceFields)),
    ("Local", members (must "path" .string :: faceFields))]

def textStyleFields : List Field :=
  let horizontal := Form.name (HorizontalAlign.all.map HorizontalAlign.name)
  [may "font" .font, may "fill" .color, may "font_size" .number, may "underline" .bool,
    may "align_multiline" horizontal, may "align_horizontal" horizontal,
    may "align_vertical" (.name (VerticalAlign.all.map VerticalAlign.name))]

def Form.textStyle : Form := record textStyleFields

def creationFields : List Field :=
  [must "id" .word, may "parent_frame" .word, must "occlusion_layer_id" .word]

def geometryFields : List Field :=
  [may "size_x" .number, may "size_y" .number, may "transform" .affine]

def changeFields : Widget → List Field
  | .text => geometryFields ++
    [may "content" .string, may "style" .textStyle, may "style_link" .textStyle,
      may "editable" .bool]
  | .button => geometryFields ++
    [may "content" .string, may "color" .color, may "hover_color" .color,
      may "outline_stroke_color" .color, may "outline_stroke_width" .number,
      may "border_radius" .number, may "style" .textStyle]
  | .checkbox => geometryFields ++
    [may "checked" .bool, may "background" .color, may "background_checked" .color,
      may "outline_color" .color, may "outline_width" .number, may "border_radius" .number]
  | .textbox => geometryFields ++
    [may "text" .string, may "background" .color, may "stroke_color" .color,
      may "stroke_width" .number, may "border_radius" .number, may "focus_on_mount" .bool,
      may "style" .textStyle]
  | .slider => geometryFields ++
    [may "value" .number, may "step" .number, may "min" .number, may "max" .number,
      may "accent" .color, may "background" .color, may "border_radius" .number]
  | .dropdown => geometryFields ++
    [may "options" (.list .string), may "selected_id" .word, may "background" .color,
      may "stroke_color" .color, may "stroke_width" .number, may "border_radius" .number,
      may "style" .textStyle]
  | .radioSet => geometryFields ++
    [may "options" (.list .string), may "selected_id" .word, may "background" .color,
      may "background_checked" .color, may "outline_color" .color, may "outline_width" .number,
      may "style" .textStyle]
  | .scroller => geometryFields ++
    [may "size_inner_pane_x" .number, may "size_inner_pane_y" .number, may "scroll_x" .number,
      may "scroll_y" .number]
  | .eventBlocker => geometryFields

def fieldsOf : PatchTag → List Field
  | .create _ => creationFields
  | .update w => must "id" .word :: changeFields w
  | .delete _ => []
  | .restack => [must "id" .word, must "occlusion_layer_id" .word, must "z_index" .word]
  | .createFrame => creationFields
  | .updateFrame => must "id" .word :: geometryFields
  | .deleteFrame => []
  | .loadImage => [must "id" .word, ⟨"path", .defaulted, .string⟩]

def formOf (tag : PatchTag) : Form :=
  match tag with
  | .delete _ => .word
  | .deleteFrame => .word
  | .update _ => .members (fieldsOf tag)
  | .updateFrame => .members (fieldsOf tag)
  | _ => .record (fieldsOf tag)

section Reading

variable {α : Type}

/-- A reader succeeds on exactly the values of a form, and reads the same from values that say the
same. -/
structure Reads (read? : Json → Option α) (form : Form) : Prop where
  fits : ∀ j, (read? j).isSome ↔ form.Fits j
  same : ∀ j j', form.Same j j' → read? j = read? j'

lemma Reads.plain {read? : Json → Option α} {fits : Json → Prop}
    (reads : ∀ j, (read? j).isSome ↔ fits j) :
    Reads read? (.plain fits) :=
  ⟨reads, fun _ _ => congrArg read?⟩

lemma Reads.map {β : Type} {read? : Json → Option α} {form : Form}
    (reads : Reads read? form) (f : α → β) :
    Reads (fun j => (read? j).map f) form where
  fits j := by rw [Option.isSome_map, reads.fits j]
  same j j' same := by rw [reads.same j j' same]

lemma reads_word : Reads word? .word := by
  refine .plain fun j => ?_
  cases j <;> simp [word?]

lemma reads_number : Reads number? .number := by
  refine .plain fun j => ?_
  cases j <;> simp [number?]

lemma reads_bool : Reads bool? .bool := by
  refine .plain fun j => ?_
  cases j <;> simp [bool?]

lemma reads_string : Reads Schema.string? .string := by
  refine .plain fun j => ?_
  cases j <;> simp [Schema.string?]

/-- Two independent reads succeed together. -/
lemma isSome_bind_of {β : Type} {x : Option α} {f : α → Option β} {rest : Prop}
    (h : ∀ a, (f a).isSome ↔ rest) : (x >>= f).isSome ↔ x.isSome ∧ rest := by
  cases x with
  | none => simp
  | some a => simp [h a]

lemma isSome_mapM {item? : Json → Option α} {item : Form} (reads : Reads item? item)
    (items : List Json) :
    (items.mapM item?).isSome ↔ ∀ j ∈ items, item.Fits j := by
  induction items with
  | nil => simp
  | cons j items ih =>
    rw [List.mapM_cons, List.forall_mem_cons, ← reads.fits j, ← ih]
    exact isSome_bind_of fun a => by simp [Option.isSome_bind]

lemma reads_list {item? : Json → Option α} {item : Form} (reads : Reads item? item) :
    Reads (list? item?) (.list item) := by
  refine .plain fun j => ?_
  cases j with
  | array items => exact isSome_mapM reads items
  | _ => simp [list?]

lemma length_of_mapM {item? : Json → Option α} {items : List Json} {xs : List α}
    (read : items.mapM item? = some xs) : xs.length = items.length := by
  induction items generalizing xs with
  | nil => simp_all
  | cons j items ih =>
    simp only [List.mapM_cons, Option.bind_eq_bind, Option.bind_eq_some_iff, Option.pure_def,
      Option.some.injEq] at read
    obtain ⟨x, _, rest, tail, rfl⟩ := read
    simp [ih tail]

lemma reads_tuple {n : Nat} {build : List Float → Option α}
    (fits : ∀ xs, (build xs).isSome ↔ xs.length = n) :
    Reads (fun j => (list? number? j).bind build) (.tuple n .number) := by
  refine .plain fun j => ?_
  cases j with
  | array items =>
    change ((items.mapM number?).bind build).isSome ↔ items.length = n ∧
      ∀ j ∈ items, Form.number.Fits j
    rw [← isSome_mapM reads_number]
    cases read : items.mapM number? with
    | none => simp
    | some xs => simp [fits, length_of_mapM read]
  | _ => simp [list?]

lemma reads_affine : Reads affine? .affine := by
  refine reads_tuple fun xs => ?_
  rcases xs with _ | ⟨a, _ | ⟨b, _ | ⟨c, _ | ⟨d, _ | ⟨e, _ | ⟨f, _ | ⟨g, xs⟩⟩⟩⟩⟩⟩⟩ <;> simp

lemma reads_choice {body : String × Json → Option α} {kinds : List (String × Form)}
    (known : ∀ key form, (key, form) ∈ kinds → Reads (fun payload => body (key, payload)) form)
    (unknown : ∀ key payload, key ∉ kinds.map Prod.fst → body (key, payload) = none) :
    Reads (fun j => (choice? j).bind body) (.choice kinds) where
  fits j := by
    unfold choice?
    split
    · next m =>
      obtain ⟨key, payload⟩ := m
      by_cases there : ∃ form, (key, form) ∈ kinds
      · obtain ⟨form, there⟩ := there
        constructor
        · exact fun read => ⟨form, there, ((known key form there).fits payload).1 read⟩
        · rintro ⟨form, there, fits⟩
          exact ((known key form there).fits payload).2 fits
      · have none := unknown key payload fun found => there (by simpa using found)
        simp only [Option.bind_some, none, Option.isSome_none, Bool.false_eq_true, false_iff]
        rintro ⟨form, found, _⟩
        exact there ⟨form, found⟩
    · next other =>
      simp only [Option.bind_none, Option.isSome_none, Bool.false_eq_true, false_iff]
      intro held
      unfold Form.choice at held
      dsimp only at held
      split at held
      · exact other _ rfl
      · exact held
  same j j' alike := by
    obtain rfl | ⟨key, form, payload, payload', there, rfl, rfl, alike⟩ := alike
    · rfl
    · exact (known key form there).same payload payload' alike

lemma reads_color : Reads color? .color := by
  refine reads_choice ?_ ?_
  · intro kind form there
    simp only [List.mem_cons, List.not_mem_nil, or_false, Prod.mk.injEq] at there
    rcases there with ⟨rfl, rfl⟩ | ⟨rfl, rfl⟩ | ⟨rfl, rfl⟩ | ⟨rfl, rfl⟩ <;>
    · refine reads_tuple fun xs => ?_
      rcases xs with _ | ⟨a, _ | ⟨b, _ | ⟨c, _ | ⟨d, _ | ⟨e, xs⟩⟩⟩⟩⟩ <;> simp
  · intro kind payload unknown
    simp only [List.map_cons, List.map_nil, List.mem_cons, List.not_mem_nil,
      or_false, not_or] at unknown
    obtain ⟨rgba, hsla, rgb, hsl⟩ := unknown
    simp [rgba, hsla, rgb, hsl]

lemma reads_oneOf {values : List α} {nameOf : α → String} :
    Reads (oneOf? values nameOf) (.name (values.map nameOf)) := by
  have find (s : String) : (values.find? fun a => nameOf a == s).isSome ↔
      s ∈ values.map nameOf := by
    simp
  refine .plain fun j => ?_
  unfold oneOf? name?
  split <;> simp [find]

end Reading

section Records

variable {α β : Type} {fields : List Field} {read? : Json → Option β} {form : Form}

/-- A reader of members that asks for these fields and looks at nothing else. -/
structure Fills (build? : Members → Option α) (fields : List Field) : Prop where
  fits : ∀ ms, (build? ms).isSome ↔ ∀ f ∈ fields, f.Holds ms
  same : ∀ ms ms', (∀ f ∈ fields, f.Same ms ms') → build? ms = build? ms'

lemma Fills.pure {a : α} : Fills (fun _ => some a) [] := ⟨by simp, by simp⟩

lemma Fills.map {build? : Members → Option β} (fills : Fills build? fields) (f : β → α) :
    Fills (fun ms => (build? ms).map f) fields where
  fits ms := by rw [Option.isSome_map, fills.fits ms]
  same ms ms' same := by rw [fills.same ms ms' same]

lemma Fills.bind {more : List Field} {first? : Members → Option β} {next? : β → Members → Option α}
    (first : Fills first? fields) (rest : ∀ b, Fills (next? b) more) :
    Fills (fun ms => (first? ms).bind fun b => next? b ms) (fields ++ more) where
  fits ms := by
    rw [List.forall_mem_append, ← first.fits ms]
    exact isSome_bind_of fun b => (rest b).fits ms
  same ms ms' same := by
    rw [List.forall_mem_append] at same
    rw [first.same ms ms' same.1]
    congr 1
    funext b
    exact (rest b).same ms ms' same.2

lemma Fills.last {first? : Members → Option β} (first : Fills first? fields) (f : β → α) :
    Fills (fun ms => (first? ms).bind fun b => some (f b)) fields := by
  simpa using first.bind fun b => (.pure : Fills (fun _ => some (f b)) [])

/-- A reader of one field that is told what the members say about it. -/
lemma fills_field (f : Field) (build? : Option Json → Option α)
    (absent : (build? none).isSome ↔ f.presence ≠ .required)
    (reads : Reads (build? ∘ some) f.form) :
    Fills (fun ms => build? (f.value? ms)) [f] where
  fits ms := by
    rw [List.forall_mem_singleton]
    unfold Field.Holds
    cases f.value? ms with
    | none => exact absent
    | some j => exact reads.fits j
  same ms ms' same := by
    have same := same f List.mem_cons_self
    unfold Field.Same at same
    revert same
    generalize f.value? ms = j?, f.value? ms' = j?'
    rintro (alike | _)
    · exact reads.same _ _ alike
    · rfl

lemma optional_eq (key : String) (ms : Members) :
    Schema.optional key read? ms = match (may key form).value? ms with
      | none => some none
      | some j => (read? j).map some := by
  unfold Schema.optional Field.value? value? may
  cases Json.member? key ms with
  | none => rfl
  | some j => cases j <;> rfl

lemma fills_required (key : String) (reads : Reads read? form) :
    Fills (required key read?) [must key form] :=
  fills_field (must key form) (Option.bind · read?) (by simp [must]) reads

lemma fills_optional (key : String) (reads : Reads read? form) :
    Fills (Schema.optional key read?) [may key form] := by
  rw [funext (optional_eq key)]
  exact fills_field (may key form)
    (fun | none => some none | some j => (read? j).map some) (by simp [may])
    (reads.map some)

lemma Fills.required {key : String} {next? : β → Members → Option α} (reads : Reads read? form)
    (rest : ∀ b, Fills (next? b) fields) :
    Fills (fun ms => (Schema.required key read? ms).bind fun b => next? b ms)
    (must key form :: fields) :=
  (fills_required key reads).bind rest

lemma Fills.optional {key : String} {next? : Option β → Members → Option α}
    (reads : Reads read? form) (rest : ∀ b, Fills (next? b) fields) :
    Fills (fun ms => (Schema.optional key read? ms).bind fun b => next? b ms)
    (may key form :: fields) :=
  (fills_optional key reads).bind rest

lemma Fills.members {build? : Members → Option α} (fills : Fills build? fields) :
    Reads (fun j => (members? j).bind build?) (.members fields) where
  fits j := by
    cases j with
    | object ms => exact fills.fits ms
    | _ => simp [members?, Form.members]
  same j j' alike := by
    obtain rfl | ⟨ms, ms', rfl, rfl, same⟩ := alike
    · rfl
    · exact fills.same ms ms' same

lemma Fills.record {build? : Members → Option α} (fills : Fills build? fields) :
    Reads (fun j => (record? (fields.map Field.name) j).bind build?) (.record fields) where
  fits j := by
    cases j with
    | object ms => exact fills.fits ms
    | array items =>
      simp only [record?, Form.record, List.length_map]
      split
      · next short => simp [short, ← fills.fits]
      · next long => simp [long]
    | _ => simp [record?, Form.record]
  same j j' alike := by
    obtain rfl | ⟨ms, ms', rfl, rfl, same⟩ := alike
    · rfl
    · exact fills.same ms ms' same

end Records

section Payloads

lemma fills_face {α : Type} {build : String → Option FontStyle → Option FontWeight → α} :
    Fills (fun ms => (required "family" Schema.string? ms).bind fun family =>
      (Schema.optional "style" fontStyle? ms).bind fun style =>
      (Schema.optional "weight" fontWeight? ms).bind fun weight =>
        some (build family style weight)) faceFields :=
  .required reads_string fun _ => .optional reads_oneOf fun _ =>
    .optional reads_oneOf fun _ => .pure

lemma reads_font : Reads font? .font := by
  refine reads_choice ?_ ?_
  · intro kind form there
    simp only [List.mem_cons, List.not_mem_nil, or_false, Prod.mk.injEq] at there
    rcases there with ⟨rfl, rfl⟩ | ⟨rfl, rfl⟩ | ⟨rfl, rfl⟩
    · exact fills_face.members
    · exact (((fills_required "url" reads_string).map FontOrigin.web).bind
        fun _ => fills_face).members
    · exact (((fills_required "path" reads_string).map FontOrigin.bundled).bind
        fun _ => fills_face).members
  · intro kind payload unknown
    simp only [List.map_cons, List.map_nil, List.mem_cons, List.not_mem_nil,
      or_false, not_or] at unknown
    obtain ⟨system, web, bundled⟩ := unknown
    simp

lemma reads_textStyle : Reads textStyle? .textStyle :=
  Fills.record (.optional reads_font fun _ => .optional reads_color fun _ =>
    .optional reads_number fun _ =>
    .optional reads_bool fun _ => .optional reads_oneOf fun _ => .optional reads_oneOf fun _ =>
    .optional reads_oneOf fun _ => .pure)

lemma fills_placement : Fills placement? geometryFields :=
  .optional reads_number fun _ => .optional reads_number fun _ =>
    .optional reads_affine fun _ => .pure

lemma fills_textChange : Fills textChange? (changeFields .text) :=
  fills_placement.bind fun _ => .optional reads_string fun _ => .optional reads_textStyle fun _ =>
    .optional reads_textStyle fun _ => .optional reads_bool fun _ => .pure

lemma fills_buttonChange : Fills buttonChange? (changeFields .button) :=
  fills_placement.bind fun _ => .optional reads_string fun _ => .optional reads_color fun _ =>
    .optional reads_color fun _ => .optional reads_color fun _ => .optional reads_number fun _ =>
    .optional reads_number fun _ => .optional reads_textStyle fun _ => .pure

lemma fills_checkboxChange : Fills checkboxChange? (changeFields .checkbox) :=
  fills_placement.bind fun _ => .optional reads_bool fun _ => .optional reads_color fun _ =>
    .optional reads_color fun _ => .optional reads_color fun _ => .optional reads_number fun _ =>
    .optional reads_number fun _ => .pure

lemma fills_textboxChange : Fills textboxChange? (changeFields .textbox) :=
  fills_placement.bind fun _ => .optional reads_string fun _ => .optional reads_color fun _ =>
    .optional reads_color fun _ => .optional reads_number fun _ => .optional reads_number fun _ =>
    .optional reads_bool fun _ => .optional reads_textStyle fun _ => .pure

lemma fills_sliderChange : Fills sliderChange? (changeFields .slider) :=
  fills_placement.bind fun _ => .optional reads_number fun _ => .optional reads_number fun _ =>
    .optional reads_number fun _ => .optional reads_number fun _ => .optional reads_color fun _ =>
    .optional reads_color fun _ => .optional reads_number fun _ => .pure

lemma fills_dropdownChange : Fills dropdownChange? (changeFields .dropdown) :=
  fills_placement.bind fun _ => .optional (reads_list reads_string) fun _ =>
    .optional reads_word fun _ =>
    .optional reads_color fun _ => .optional reads_color fun _ => .optional reads_number fun _ =>
    .optional reads_number fun _ => .optional reads_textStyle fun _ => .pure

lemma fills_radioSetChange : Fills radioSetChange? (changeFields .radioSet) :=
  fills_placement.bind fun _ => .optional (reads_list reads_string) fun _ =>
    .optional reads_word fun _ =>
    .optional reads_color fun _ => .optional reads_color fun _ => .optional reads_color fun _ =>
    .optional reads_number fun _ => .optional reads_textStyle fun _ => .pure

lemma fills_scrollerChange : Fills scrollerChange? (changeFields .scroller) :=
  fills_placement.bind fun _ => .optional reads_number fun _ => .optional reads_number fun _ =>
    .optional reads_number fun _ => .optional reads_number fun _ => .pure

lemma fills_change (w : Widget) : Fills (change? w) (changeFields w) := by
  cases w with
  | text => exact fills_textChange.map _
  | button => exact fills_buttonChange.map _
  | checkbox => exact fills_checkboxChange.map _
  | textbox => exact fills_textboxChange.map _
  | slider => exact fills_sliderChange.map _
  | dropdown => exact fills_dropdownChange.map _
  | radioSet => exact fills_radioSetChange.map _
  | scroller => exact fills_scrollerChange.map _
  | eventBlocker => exact fills_placement.map _

/-- The change that leaves everything as it is. -/
def unchanged : Widget → Change
  | .text => .text ⟨⟨none, none, none⟩, none, none, none, none⟩
  | .button => .button ⟨⟨none, none, none⟩, none, none, none, none, none, none, none⟩
  | .checkbox => .checkbox ⟨⟨none, none, none⟩, none, none, none, none, none, none⟩
  | .textbox => .textbox ⟨⟨none, none, none⟩, none, none, none, none, none, none, none⟩
  | .slider => .slider ⟨⟨none, none, none⟩, none, none, none, none, none, none, none⟩
  | .dropdown => .dropdown ⟨⟨none, none, none⟩, none, none, none, none, none, none, none⟩
  | .radioSet => .radioSet ⟨⟨none, none, none⟩, none, none, none, none, none, none, none⟩
  | .scroller => .scroller ⟨⟨none, none, none⟩, none, none, none, none⟩
  | .eventBlocker => .eventBlocker ⟨none, none, none⟩

lemma change?_silent {w : Widget} {ms : Members}
    (silent : ∀ f ∈ changeFields w, f.value? ms = none) :
    change? w ms = some (unchanged w) := by
  have empty (f : Field) : f.value? [] = none := by
    unfold Field.value? value?
    split <;> simp_all [Json.member?]
  have same : change? w ms = change? w [] := (fills_change w).same ms [] fun f mem => by
    unfold Field.Same
    rw [silent f mem, empty f]
    exact .none
  rw [same]
  cases w <;> rfl

/-- Optional fields that are absent or null change nothing. -/
lemma patch?_silent {w : Widget} {ms : Members} {id : UInt32}
    (named : required "id" word? ms = some id) (silent : ∀ f ∈ changeFields w, f.value? ms = none) :
    patch? (.update w) (.object ms) = some (.update id (unchanged w)) := by
  simp [patch?, members?, named, change?_silent silent]

lemma fills_creation : Fills (fun ms => creation? (.object ms)) creationFields :=
  .required reads_word fun _ => .optional reads_word fun _ => .required reads_word fun _ => .pure

lemma fills_update (w : Widget) :
    Fills (fun ms => patch? (.update w) (.object ms)) (fieldsOf (.update w)) :=
  .required reads_word fun id => (fills_change w).last (Patch.update id)

lemma fills_restack : Fills (fun ms => patch? .restack (.object ms)) (fieldsOf .restack) :=
  .required reads_word fun _ => .required reads_word fun _ => .required reads_word fun _ => .pure

lemma fills_updateFrame :
    Fills (fun ms => patch? .updateFrame (.object ms)) (fieldsOf .updateFrame) :=
  .required reads_word fun id => fills_placement.last (Patch.updateFrame id)

lemma fills_path : Fills path? [⟨"path", .defaulted, .string⟩] :=
  fills_field ⟨"path", .defaulted, .string⟩
    (fun | none => some "" | some j => Schema.string? j) (by simp)
    reads_string

lemma fills_loadImage : Fills (fun ms => patch? .loadImage (.object ms)) (fieldsOf .loadImage) :=
  .required reads_word fun id => fills_path.last (Patch.loadImage id)

lemma widget_of_change? {w : Widget} {ms : Members} {change : Change}
    (read : change? w ms = some change) :
    change.widget = w := by
  cases w <;>
  · obtain ⟨_, _, rfl⟩ := Option.map_eq_some_iff.1 read
    rfl

lemma tag_of_patch? {tag : PatchTag} {payload : Json} {p : Patch}
    (read : patch? tag payload = some p) :
    p.tag = tag := by
  cases tag with
  | update w =>
    simp only [patch?, Option.bind_eq_bind, Option.bind_eq_some_iff, Option.pure_def,
      Option.some.injEq] at read
    obtain ⟨ms, _, id, _, change, read, rfl⟩ := read
    exact congrArg PatchTag.update (widget_of_change? read)
  | restack =>
    simp only [patch?, Option.bind_eq_bind, Option.bind_eq_some_iff, Option.pure_def,
      Option.some.injEq] at read
    obtain ⟨ms, _, id, _, layer, _, depth, _, rfl⟩ := read
    rfl
  | updateFrame =>
    simp only [patch?, Option.bind_eq_bind, Option.bind_eq_some_iff, Option.pure_def,
      Option.some.injEq] at read
    obtain ⟨ms, _, id, _, g, _, rfl⟩ := read
    rfl
  | loadImage =>
    simp only [patch?, Option.bind_eq_bind, Option.bind_eq_some_iff, Option.pure_def,
      Option.some.injEq] at read
    obtain ⟨ms, _, id, _, path, _, rfl⟩ := read
    rfl
  | create w | delete w | createFrame | deleteFrame =>
    obtain ⟨_, _, rfl⟩ := Option.map_eq_some_iff.1 read
    rfl

/-- The patches are read from payloads of their tag's form, and from no others. -/
theorem reads_patch (tag : PatchTag) : Reads (patch? tag) (formOf tag) := by
  cases tag with
  | create w => exact fills_creation.record.map _
  | update w => exact (fills_update w).members
  | delete w => exact reads_word.map _
  | restack => exact fills_restack.record
  | createFrame => exact fills_creation.record.map _
  | updateFrame => exact fills_updateFrame.members
  | deleteFrame => exact reads_word.map _
  | loadImage => exact fills_loadImage.record

end Payloads

end LayeredPage.Proofs
