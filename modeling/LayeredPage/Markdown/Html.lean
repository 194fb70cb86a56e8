import LayeredPage.Text.Entities

/-!
# Rendered markup

Rendering builds a tree and writes it in a second step, so tags are closed and nested by
construction. Plain characters are written as they are: content is trusted and may hold markup of
its own. Only code bodies and attribute values are escaped.
-/

namespace LayeredPage.Markdown

inductive Tag where
  | heading (below : Fin 6)
  | blockquote
  | orderedList
  | unorderedList
  | item
  | em
  | strong
  | strike
deriving DecidableEq, Repr

def Tag.name : Tag → List Char
  | .heading below => 'h' :: Nat.toDigits 10 (below.val + 1)
  | .blockquote => "blockquote".toList
  | .orderedList => "ol".toList
  | .unorderedList => "ul".toList
  | .item => "li".toList
  | .em => "em".toList
  | .strong => "strong".toList
  | .strike => "s".toList

inductive Html where
  | char (c : Char)
  | lineBreak
  | rule
  | image (source alternative : List Char)
  | code (body : List Char)
  | link (target : List Char) (body : List Html)
  | element (tag : Tag) (body : List Html)

namespace Html

def openTag (t : Tag) : List Char := '<' :: t.name ++ ['>']

def closeTag (t : Tag) : List Char := '<' :: '/' :: t.name ++ ['>']

mutual

def write : Html → List Char
  | .char c => [c]
  | .lineBreak => "<br />".toList
  | .rule => "<hr />".toList
  | .image source alternative =>
    "<img src=\"".toList ++ Text.escapeValue source ++ "\" alt=\"".toList ++
      Text.escapeValue alternative ++ "\">".toList
  | .code body => "<code>".toList ++ Text.escapeValue body ++ "</code>".toList
  | .link target body =>
    "<a href=\"".toList ++ Text.escapeValue target ++ "\">".toList ++ writeAll body ++
      "</a>".toList
  | .element tag body => openTag tag ++ writeAll body ++ closeTag tag

def writeAll : List Html → List Char
  | [] => []
  | h :: rest => h.write ++ writeAll rest

end

end Html

end LayeredPage.Markdown
