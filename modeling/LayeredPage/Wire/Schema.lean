import LayeredPage.Json.Reader
import LayeredPage.Style.Affine
import LayeredPage.Style.TextStyle

/-!
# Values inside patches

A choice between kinds is an object with the kind as its only key, or the bare name where there is
nothing more to say. Unknown members are ignored; an optional member may be absent or null.
-/

namespace LayeredPage.Schema

abbrev Members := List (String × Json)

def bool? : Json → Option Bool
  | .bool b => some b
  | _ => none

def string? : Json → Option String
  | .string s => some s
  | _ => none

/-- A whole number of 32 bits without sign. -/
def word? : Json → Option UInt32
  | .int n => if 0 ≤ n && n < UInt32.size then some (UInt32.ofNat n.toNat) else none
  | _ => none

/-- Any number, rounded to binary64. -/
def number? : Json → Option Float
  | .int n => Number.ofDecimal? (n < 0) n.natAbs 0
  | .float x => some x
  | _ => none

def list? {α : Type} (item? : Json → Option α) : Json → Option (List α)
  | .array items => items.mapM item?
  | _ => none

def required {α : Type} (key : String) (read? : Json → Option α) (ms : Members) : Option α :=
  (Json.member? key ms).bind read?

def optional {α : Type} (key : String) (read? : Json → Option α) (ms : Members) :
    Option (Option α) :=
  match Json.member? key ms with
  | none => some none
  | some .null => some none
  | some j => (read? j).map some

def members? : Json → Option Members
  | .object ms => some ms
  | _ => none

/-- Members given by name, or by position as an array with no more entries than there are names. -/
def record? (names : List String) : Json → Option Members
  | .object ms => some ms
  | .array items => if items.length ≤ names.length then some (names.zip items) else none
  | _ => none

/-- An object with one key. -/
def choice? : Json → Option (String × Json)
  | .object [m] => some m
  | _ => none

/-- A name alone, or as the only key with null behind it. -/
def name? : Json → Option String
  | .string s => some s
  | .object [(s, .null)] => some s
  | _ => none

/-- One of some values, by its name. -/
def oneOf? {α : Type} (values : List α) (nameOf : α → String) (j : Json) : Option α := do
  let s ← name? j
  values.find? fun a => nameOf a == s

def color? (j : Json) : Option Color := do
  let (kind, payload) ← choice? j
  let channels ← list? number? payload
  match kind, channels with
  | "Rgba", [r, g, b, a] => return .rgba r g b a
  | "Hsla", [h, s, l, a] => return .hsla h s l a
  | "Rgb", [r, g, b] => return .rgb r g b
  | "Hsl", [h, s, l] => return .hsl h s l
  | _, _ => none

def affine? (j : Json) : Option Affine := do
  match ← list? number? j with
  | [a, b, c, d, e, f] => return ⟨a, b, c, d, e, f⟩
  | _ => none

def fontStyle? : Json → Option FontStyle := oneOf? FontStyle.all FontStyle.name

def fontWeight? : Json → Option FontWeight := oneOf? FontWeight.all FontWeight.name

def font? (j : Json) : Option Font := do
  let (kind, payload) ← choice? j
  let ms ← members? payload
  let origin ←
    match kind with
    | "System" => some FontOrigin.installed
    | "Web" => (required "url" string? ms).map FontOrigin.web
    | "Local" => (required "path" string? ms).map FontOrigin.bundled
    | _ => none
  return {
    family := ← required "family" string? ms
    origin
    style := ← optional "style" fontStyle? ms
    weight := ← optional "weight" fontWeight? ms }

def horizontalAlign? : Json → Option HorizontalAlign :=
  oneOf? HorizontalAlign.all HorizontalAlign.name

def verticalAlign? : Json → Option VerticalAlign := oneOf? VerticalAlign.all VerticalAlign.name

def textStyleNames : List String :=
  ["font", "fill", "font_size", "underline", "align_multiline", "align_horizontal",
    "align_vertical"]

def textStyle? (j : Json) : Option TextStyle := do
  let ms ← record? textStyleNames j
  return {
    font := ← optional "font" font? ms
    fill := ← optional "fill" color? ms
    size := ← optional "font_size" number? ms
    underline := ← optional "underline" bool? ms
    lines := ← optional "align_multiline" horizontalAlign? ms
    block := ← optional "align_horizontal" horizontalAlign? ms
    vertical := ← optional "align_vertical" verticalAlign? ms }

end LayeredPage.Schema
