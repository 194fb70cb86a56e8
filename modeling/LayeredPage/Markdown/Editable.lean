import LayeredPage.Text.Blank
import LayeredPage.Markdown.Inline

/-!
# Text of an editable element

What a user typed comes back as markup. A break tag becomes a line feed, a paragraph or division tag
puts one before its content, and every other tag is dropped. Entities stay as they are. An angle
bracket that closes at once or never is text.
-/

namespace LayeredPage.Markdown

/-- Whether `cs` begins with these lower-case letters, in either case. -/
def startsWithLetters : List Char → List Char → Bool
  | [], _ => true
  | _ :: _, [] => false
  | l :: letters, c :: cs => c.toLower == l && startsWithLetters letters cs

/-- The name and nothing after it but blanks and slashes. -/
def isBreakTag (tag : List Char) : Bool :=
  startsWithLetters ['b', 'r'] tag &&
    (tag.drop 2).all fun c => Text.isMarkupBlank c || c == '/'

/-- What is left of a tag. -/
def tagText (tag : List Char) : List Char :=
  if isBreakTag tag || startsWithLetters ['p'] tag || startsWithLetters ['d', 'i', 'v'] tag then
    ['\n']
  else []

def plainChars : List Char → List Char
  | [] => []
  | c :: cs =>
    if c == '<' then
      match h : cut? '>' cs with
      | some (t :: tag, rest) =>
        have := length_of_cut? h
        tagText (t :: tag) ++ plainChars rest
      | _ => '<' :: plainChars cs
    else c :: plainChars cs
termination_by cs => cs.length
decreasing_by all_goals (simp_all only [List.length_cons]; omega)

/-- Plain text of the markup in an editable element. -/
def plainText (html : String) : String := String.ofList (plainChars html.toList)

end LayeredPage.Markdown
