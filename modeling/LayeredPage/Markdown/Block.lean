import LayeredPage.Markdown.Inline
import LayeredPage.Text.Blank

/-!
# Block markup

Each line is of one kind. Neighbouring quote lines form one quotation, neighbouring items of one
sort one list; text lines are joined by line feeds, and blank lines between text and anything after
them become a break.
-/

namespace LayeredPage.Markdown

open LayeredPage.Text

/-- What a line is, with its content stripped of the mark that says so. -/
inductive LineKind where
  | blank
  | rule
  | heading (below : Fin 6) (title : List Char)
  | quote (body : List Char)
  | item (ordered : Bool) (body : List Char)
  | text

def isRule (line : List Char) : Bool :=
  let inner := trim line
  3 ≤ inner.length && inner.all (· == '-')

/-- One to six number signs and a space, then the title. -/
def heading? (line : List Char) : Option (Fin 6 × List Char) :=
  let level := (line.takeWhile (· == '#')).length
  if h : 1 ≤ level ∧ level ≤ 6 then
    match line.dropWhile (· == '#') with
    | ' ' :: title => some (⟨level - 1, by omega⟩, trim title)
    | _ => none
  else none

/-- What follows the quotation mark and one space. -/
def quoteBody? (line : List Char) : Option (List Char) :=
  match trimStart line with
  | '>' :: ' ' :: body => some body
  | '>' :: body => some body
  | _ => none

/-- Whether the item is ordered, and its body. -/
def listItem? (line : List Char) : Option (Bool × List Char) :=
  match trimStart line with
  | '-' :: ' ' :: body => some (false, trimStart body)
  | '*' :: ' ' :: body => some (false, trimStart body)
  | '+' :: ' ' :: body => some (false, trimStart body)
  | cs =>
    if (cs.takeWhile Char.isDigit).isEmpty then none
    else
      match cs.dropWhile Char.isDigit with
      | '.' :: ' ' :: body => some (true, trimStart body)
      | _ => none

def LineKind.of (line : List Char) : LineKind :=
  if (trim line).isEmpty then .blank
  else if isRule line then .rule
  else
    match heading? line with
    | some (below, title) => .heading below title
    | none =>
      match quoteBody? line with
      | some body => .quote body
      | none =>
        match listItem? line with
        | some (ordered, body) => .item ordered body
        | none => .text

/-- The results of `f` on the leading lines where it gives one, and the other lines. -/
def leading {β : Type} (f : List Char → Option β) : List (List Char) → List β × List (List Char)
  | [] => ([], [])
  | line :: rest =>
    match f line with
    | some b => let (bs, rest) := leading f rest; (b :: bs, rest)
    | none => ([], line :: rest)

/-- Number of characters with one line feed for each line. -/
def extent : List (List Char) → Nat
  | [] => 0
  | line :: rest => line.length + 1 + extent rest

theorem length_dropWhile_le (p : Char → Bool) (cs : List Char) :
    (cs.dropWhile p).length ≤ cs.length := by
  induction cs with
  | nil => simp
  | cons c cs ih =>
    simp only [List.dropWhile_cons]
    split
    · simp only [List.length_cons]; omega
    · exact Nat.le_refl _

theorem length_of_quoteBody? {line body : List Char} (h : quoteBody? line = some body) :
    body.length < line.length := by
  have hl := length_dropWhile_le isBlank line
  simp only [quoteBody?, trimStart] at h
  split at h
  · next heq =>
    obtain rfl := Option.some.inj h
    rw [heq] at hl
    simp only [List.length_cons] at hl
    omega
  · next heq =>
    obtain rfl := Option.some.inj h
    rw [heq] at hl
    simp only [List.length_cons] at hl
    omega
  · simp at h

theorem LineKind.length_of_quote {line body : List Char} (h : LineKind.of line = .quote body) :
    body.length < line.length := by
  unfold LineKind.of at h
  repeat' split at h
  all_goals simp_all [length_of_quoteBody?]

theorem extent_leading_quote (lines : List (List Char)) :
    extent (leading quoteBody? lines).1 + (leading quoteBody? lines).1.length +
      extent (leading quoteBody? lines).2 ≤ extent lines := by
  induction lines with
  | nil => simp [leading, extent]
  | cons line rest ih =>
    simp only [leading]
    split
    · next b h =>
      have := length_of_quoteBody? h
      simp only [extent, List.length_cons] at *
      omega
    · simp [extent]

theorem extent_leading_le {β : Type} (f : List Char → Option β) (lines : List (List Char)) :
    extent (leading f lines).2 ≤ extent lines := by
  induction lines with
  | nil => simp [leading, extent]
  | cons line rest ih =>
    simp only [leading]
    split
    · simp only [extent] at *
      omega
    · exact Nat.le_refl _

theorem extent_dropWhile_le (p : List Char → Bool) (lines : List (List Char)) :
    extent (lines.dropWhile p) ≤ extent lines := by
  induction lines with
  | nil => simp
  | cons line rest ih =>
    simp only [List.dropWhile_cons]
    split
    · simp only [extent] at *
      omega
    · exact Nat.le_refl _

/-- A text line; two spaces at its end break after it. -/
def textLine (line : List Char) : List Html :=
  match line.reverse with
  | ' ' :: ' ' :: body => inlineHtml body.reverse ++ [.lineBreak]
  | _ => inlineHtml line

def isBlankLine (line : List Char) : Bool := (trim line).isEmpty

def itemOf (ordered : Bool) (line : List Char) : Option (List Char) :=
  match listItem? line with
  | some (o, body) => if o == ordered then some body else none
  | none => none

/-- The blocks of some lines; `afterText` says that a text line comes right before them. -/
def blocks (afterText : Bool) (lines : List (List Char)) : List Html :=
  match lines with
  | [] => []
  | line :: rest =>
    match h : LineKind.of line with
    | .blank =>
      let next := rest.dropWhile isBlankLine
      have := extent_dropWhile_le isBlankLine rest
      (if afterText && !next.isEmpty then [.lineBreak] else []) ++ blocks false next
    | .rule => .rule :: blocks false rest
    | .heading below title => .element (.heading below) (inlineHtml title) :: blocks false rest
    | .quote body =>
      have := LineKind.length_of_quote h
      have := extent_leading_quote rest
      .element .blockquote (blocks false (body :: (leading quoteBody? rest).1)) ::
        blocks false (leading quoteBody? rest).2
    | .item ordered body =>
      have := extent_leading_le (itemOf ordered) rest
      let bodies := body :: (leading (itemOf ordered) rest).1
      .element (if ordered then .orderedList else .unorderedList)
          (bodies.map fun b => .element .item (inlineHtml b)) ::
        blocks false (leading (itemOf ordered) rest).2
    | .text => (if afterText then [.char '\n'] else []) ++ textLine line ++ blocks true rest
termination_by extent lines
decreasing_by
  all_goals
    simp_all only [extent]
    omega

/-- The lines of a text. -/
def splitLines : List Char → List (List Char)
  | [] => [[]]
  | c :: cs =>
    if c == '\n' then [] :: splitLines cs
    else
      match splitLines cs with
      | line :: rest => (c :: line) :: rest
      | [] => [[c]]

/-- Renders a text. -/
def render (text : String) : String :=
  String.ofList (Html.writeAll (blocks false (splitLines text.toList)))

end LayeredPage.Markdown
