import LayeredPage.Json.Value
import LayeredPage.Motion.ScrollTracker
import LayeredPage.Style.Font
import LayeredPage.Text.Hex
import LayeredPage.Wire.Written

/-!
# Reports

A report says what a host holds, fact by fact under a key of its own. Numbers that are not whole are
spelled out as in style values, which tells the infinities and the zeros apart. Two reports are
compared by the facts that differ when they are spelled out.
-/

namespace LayeredPage

abbrev Report := List (String × Json)

namespace Report

mutual

/-- A fact with its binary64 numbers as text. -/
def spelled : Json → Json
  | .float x => .string (Number.styleText x)
  | .array items => .array (spelledItems items)
  | .object members => .object (spelledMembers members)
  | j => j

def spelledItems : List Json → List Json
  | [] => []
  | j :: rest => spelled j :: spelledItems rest

def spelledMembers : List (String × Json) → List (String × Json)
  | [] => []
  | (key, j) :: rest => (key, spelled j) :: spelledMembers rest

end

/-- The facts that are new or different; a fact that is gone is null. -/
def changes (before after : Report) : Report :=
  (after.filter fun (key, fact) =>
    match Json.member? key before with
    | some old => (spelled old).text != (spelled fact).text
    | none => true) ++
    (before.filter fun (key, _) => (Json.member? key after).isNone).map fun (key, _) => (key, .null)

/-- A fact that is left out while it is the usual one. -/
def omitIf (usual : Bool) (key : String) (fact : Json) : Report :=
  if usual then [] else [(key, fact)]

def optional {α : Type} (write : α → Json) : Option α → Json
  | some a => write a
  | none => .null

def count (n : Nat) : Json := .int n

def numbers (xs : List Float) : Json := .array (xs.map .float)

def point (p : Point Float) : Json := numbers [p.x, p.y]

def names (ns : List (String × String)) : Json := .object (ns.map fun (k, v) => (k, .string v))

def face (f : FaceRequest) : Json :=
  let source := match f.source with
    | .stylesheet url => ["Stylesheet", url]
    | .file url => ["File", url]
  .object [("family", .string f.family), ("source", Written.names source),
    ("style", optional (fun s => .string s.css) f.style),
    ("weight", optional (fun w => count w.number) f.weight)]

def tracker (s : ScrollTracker Float) : Report :=
  [("mode", .string (match s.mode with | .direct => "Direct" | .predicting => "Predicting")),
    ("touching", .bool s.touching), ("stopped", .bool s.isStopped), ("offset", point s.last)]

end Report

end LayeredPage
