import LayeredPage.Markdown.Html

/-!
# Inline markup

A line is cut into pieces: characters, code spans, images, links, and emphasis markers. Markers then
nest the pieces: a marker equal to the innermost open one closes it, any other opens, and what is
still open closes at the end of the line.
-/

namespace LayeredPage.Markdown

/-- The text before the first `stop` and the text after it. -/
def cut? (stop : Char) : List Char → Option (List Char × List Char)
  | [] => none
  | c :: cs => if c == stop then some ([], cs) else (cut? stop cs).map fun (a, b) => (c :: a, b)

theorem cut?_eq_some {stop : Char} {cs a b : List Char} (h : cut? stop cs = some (a, b)) :
    cs = a ++ stop :: b := by
  induction cs generalizing a with
  | nil => simp [cut?] at h
  | cons c cs ih =>
    simp only [cut?] at h
    split at h
    · next hc =>
      simp only [Option.some.injEq, Prod.mk.injEq] at h
      simp [← h.1, h.2, eq_of_beq hc]
    · simp only [Option.map_eq_some_iff, Prod.mk.injEq] at h
      obtain ⟨⟨a', b'⟩, h', rfl, rfl⟩ := h
      simp [ih h']

theorem length_of_cut? {stop : Char} {cs a b : List Char} (h : cut? stop cs = some (a, b)) :
    a.length + b.length + 1 = cs.length := by
  rw [cut?_eq_some h]
  simp only [List.length_append, List.length_cons]
  omega

/-- A label, a target, and what follows them; `cs` starts after the opening bracket. -/
def labelled? (cs : List Char) : Option (List Char × List Char × List Char) :=
  match cut? ']' cs with
  | some (label, '(' :: rest) => (cut? ')' rest).map fun (target, rest) => (label, target, rest)
  | _ => none

theorem length_of_labelled? {cs label target rest : List Char}
    (h : labelled? cs = some (label, target, rest)) :
    label.length + target.length + rest.length + 3 = cs.length := by
  simp only [labelled?] at h
  split at h
  · next heq =>
    simp only [Option.map_eq_some_iff, Prod.mk.injEq] at h
    obtain ⟨⟨t, r⟩, h', rfl, rfl, rfl⟩ := h
    have := length_of_cut? heq
    have := length_of_cut? h'
    simp only [List.length_cons] at *
    omega
  · simp at h

/-- A code body, which is not empty, and what follows; `cs` starts after the opening mark. -/
def code? (cs : List Char) : Option (List Char × List Char) :=
  match cut? '\x60' cs with
  | some (c :: body, rest) => some (c :: body, rest)
  | _ => none

theorem length_of_code? {cs body rest : List Char} (h : code? cs = some (body, rest)) :
    body.length + rest.length + 1 = cs.length := by
  simp only [code?] at h
  split at h
  · next heq =>
    simp only [Option.some.injEq, Prod.mk.injEq] at h
    have := length_of_cut? heq
    obtain ⟨rfl, rfl⟩ := h
    exact this
  · simp at h

inductive Marker where
  | star
  | doubleStar
  | underscore
  | doubleUnderscore
  | doubleTilde
deriving DecidableEq, Repr

namespace Marker

def tag : Marker → Tag
  | .star | .underscore => .em
  | .doubleStar | .doubleUnderscore => .strong
  | .doubleTilde => .strike

/-- The marker at the start of a text that begins with `c`, and what follows it. -/
def ofStart? (c : Char) (cs : List Char) : Option (Marker × List Char) :=
  match c, cs with
  | '*', '*' :: rest => some (.doubleStar, rest)
  | '_', '_' :: rest => some (.doubleUnderscore, rest)
  | '~', '~' :: rest => some (.doubleTilde, rest)
  | '*', rest => some (.star, rest)
  | '_', rest => some (.underscore, rest)
  | _, _ => none

theorem length_of_ofStart? {c : Char} {cs rest : List Char} {m : Marker}
    (h : ofStart? c cs = some (m, rest)) : rest.length ≤ cs.length := by
  unfold ofStart? at h
  split at h
  case h_6 => simp at h
  all_goals
    obtain rfl := (Prod.mk.inj (Option.some.inj h)).2
    grind

end Marker

inductive Piece where
  | html (h : Html)
  | marker (m : Marker)

/-- An open marker with what was written before it, latest first. -/
structure OpenMarker where
  marker : Marker
  before : List Html

/-- Closes every open marker, innermost first. -/
def closeAll (current : List Html) : List OpenMarker → List Html
  | [] => current.reverse
  | o :: rest => closeAll (.element o.marker.tag current.reverse :: o.before) rest

/-- Nests the pieces by their markers; `current` is what the innermost open marker holds so far,
latest first. -/
def nestIn (opened : List OpenMarker) (current : List Html) : List Piece → List Html
  | [] => closeAll current opened
  | .html h :: rest => nestIn opened (h :: current) rest
  | .marker m :: rest =>
    match opened with
    | o :: outer =>
      if o.marker = m then nestIn outer (.element m.tag current.reverse :: o.before) rest
      else nestIn (⟨m, current⟩ :: opened) [] rest
    | [] => nestIn [⟨m, current⟩] [] rest

def nest (ps : List Piece) : List Html := nestIn [] [] ps

/-- The first piece of a text and what follows it. -/
def pieces : List Char → List Piece
  | [] => []
  | c :: cs =>
    if c == '\x60' then
      match h : code? cs with
      | some (body, rest) =>
        have := length_of_code? h
        .html (.code body) :: pieces rest
      | none => .html (.char c) :: pieces cs
    else if c == '!' then
      match cs with
      | '[' :: inner =>
        match h : labelled? inner with
        | some (alternative, source, rest) =>
          have := length_of_labelled? h
          .html (.image source alternative) :: pieces rest
        | none => .html (.char c) :: pieces ('[' :: inner)
      | cs => .html (.char c) :: pieces cs
    else if c == '[' then
      match h : labelled? cs with
      | some (label, target, rest) =>
        have := length_of_labelled? h
        .html (.link target (nest (pieces label))) :: pieces rest
      | none => .html (.char c) :: pieces cs
    else
      match h : Marker.ofStart? c cs with
      | some (m, rest) =>
        have := Marker.length_of_ofStart? h
        .marker m :: pieces rest
      | none => .html (.char c) :: pieces cs
termination_by cs => cs.length
decreasing_by all_goals (simp_all only [List.length_cons]; omega)

def inlineHtml (line : List Char) : List Html := nest (pieces line)

end LayeredPage.Markdown
