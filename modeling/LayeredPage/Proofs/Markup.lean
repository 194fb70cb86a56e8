import Mathlib
import LayeredPage.Markdown.Block

/-!
# Well-formed markup

Markup is read here without regard to where it comes from: `first?` takes the next token off a text,
and `nests` follows what is open. Rendered text can be read to its end, everything in it is closed
in turn, no link is inside another, and no attribute value can end early. Only the characters that
the text holds itself could spoil this, so the text is taken to be free of the one that opens a tag.
-/

namespace LayeredPage.Proofs

open Markdown Text

/-! ## Reading markup -/

/-- What can enclose other markup. -/
inductive Enclosure where
  | element (tag : Tag)
  | code
  | link
deriving DecidableEq

def Enclosure.name : Enclosure → List Char
  | .element (.heading below) => (["h1", "h2", "h3", "h4", "h5", "h6"].get below).toList
  | .element .blockquote => "blockquote".toList
  | .element .orderedList => "ol".toList
  | .element .unorderedList => "ul".toList
  | .element .item => "li".toList
  | .element .em => "em".toList
  | .element .strong => "strong".toList
  | .element .strike => "s".toList
  | .code => "code".toList
  | .link => "a".toList

lemma name_element (tag : Tag) : Enclosure.name (.element tag) = tag.name := by
  cases tag with
  | heading below => fin_cases below <;> rfl
  | _ => rfl

inductive Token where
  | char (c : Char)
  | lineBreak
  | rule
  | image (source alternative : List Char)
  | openElement (tag : Tag)
  | openCode
  | openLink (target : List Char)
  | close (e : Enclosure)
deriving DecidableEq

/-- How a token is written. -/
def Token.text : Token → List Char
  | .char c => [c]
  | .lineBreak => "<br />".toList
  | .rule => "<hr />".toList
  | .image source alternative =>
    "<img src=\"".toList ++ source ++ "\" alt=\"".toList ++ alternative ++ "\">".toList
  | .openElement tag => '<' :: Enclosure.name (.element tag) ++ ['>']
  | .openCode => "<code>".toList
  | .openLink target => "<a href=\"".toList ++ target ++ "\">".toList
  | .close e => '<' :: '/' :: e.name ++ ['>']

def tags : List Tag :=
  (List.finRange 6).map .heading ++ [.blockquote, .orderedList, .unorderedList, .item, .em, .strong,
    .strike]

/-- The tags without attributes. -/
def plainTags : List Token :=
  [.lineBreak, .rule, .openCode, .close .code, .close .link] ++
    tags.flatMap fun tag => [.openElement tag, .close (.element tag)]

def plainTag? (cs : List Char) : Option (Token × List Char) :=
  plainTags.findSome? fun t => (after? t.text cs).map fun rest => (t, rest)

def openLink? (cs : List Char) : Option (Token × List Char) := do
  let (target, cs) ← cut? '\x22' (← after? "<a href=\"".toList cs)
  return (.openLink target, ← after? ">".toList cs)

def image? (cs : List Char) : Option (Token × List Char) := do
  let (source, cs) ← cut? '\x22' (← after? "<img src=\"".toList cs)
  let (alternative, cs) ← cut? '\x22' (← after? " alt=\"".toList cs)
  return (.image source alternative, ← after? ">".toList cs)

/-- The first token of a text and what follows it. -/
def first? : List Char → Option (Token × List Char)
  | [] => none
  | c :: cs =>
    if c = '<' then (plainTag? (c :: cs)).or ((openLink? (c :: cs)).or (image? (c :: cs)))
    else some (.char c, cs)

/-- A text is read to its end as these tokens. -/
inductive Tokenized : List Char → List Token → Prop where
  | done : Tokenized [] []
  | next {cs rest : List Char} {t : Token} {ts : List Token} : first? cs = some (t, rest) →
    Tokenized rest ts → Tokenized cs (t :: ts)

/-- Whether everything that is opened is closed in turn, also what is open already, innermost first;
a link is not opened inside another. -/
def nests : List Enclosure → List Token → Bool
  | opened, [] => opened.isEmpty
  | opened, .openElement tag :: ts => nests (.element tag :: opened) ts
  | opened, .openCode :: ts => nests (.code :: opened) ts
  | opened, .openLink _ :: ts => !opened.contains .link && nests (.link :: opened) ts
  | [], .close _ :: _ => false
  | e :: opened, .close e' :: ts => e == e' && nests opened ts
  | opened, _ :: ts => nests opened ts

/-- A value stays between its quotes. -/
def CleanValue (cs : List Char) : Prop := ∀ c ∈ cs, c ≠ '\x22' ∧ c ≠ '<' ∧ c ≠ '>'

def Token.Clean : Token → Prop
  | .char c => c ≠ '<'
  | .image source alternative => CleanValue source ∧ CleanValue alternative
  | .openLink target => CleanValue target
  | _ => True

lemma text_openLink (target : List Char) :
    (Token.openLink target).text = "<a href=\"".toList ++ target ++ "\">".toList := rfl

lemma text_image (source alternative : List Char) : (Token.image source alternative).text =
    "<img src=\"".toList ++ source ++ "\" alt=\"".toList ++ alternative ++ "\">".toList := rfl

lemma text_openElement (tag : Tag) : (Token.openElement tag).text = '<' :: tag.name ++ ['>'] :=
  congrArg (fun name => '<' :: name ++ ['>']) (name_element tag)

lemma text_close (tag : Tag) :
    (Token.close (.element tag)).text = '<' :: '/' :: tag.name ++ ['>'] :=
  congrArg (fun name => '<' :: '/' :: name ++ ['>']) (name_element tag)

section Reading

variable {cs rest : List Char} {t : Token} {ts : List Token}

lemma after?_append (start rest : List Char) : after? start (start ++ rest) = some rest := by
  induction start with
  | nil => rfl
  | cons c start ih => simp [after?, ih]

lemma after?_eq_some {start cs rest : List Char} :
    after? start cs = some rest ↔ cs = start ++ rest := by
  induction start generalizing cs with
  | nil =>
    rw [after?, Option.some_inj]
    rfl
  | cons s start ih =>
    cases cs with
    | nil => simp [after?]
    | cons c cs =>
      rw [after?, List.cons_append, List.cons.injEq]
      split
      · next same => simp [ih, eq_of_beq same]
      · next other =>
        have apart : c ≠ s := fun same => other (beq_iff_eq.2 same.symm)
        simp [apart]

lemma cut?_append {stop : Char} {a b : List Char} (absent : stop ∉ a) :
    cut? stop (a ++ stop :: b) = some (a, b) := by
  induction a with
  | nil => simp [cut?]
  | cons c a ih =>
    rw [List.mem_cons, not_or] at absent
    simp [cut?, Ne.symm absent.1, ih absent.2]

lemma CleanValue.closed (clean : CleanValue cs) : '\x22' ∉ cs :=
  fun inside => (clean _ inside).1 rfl

lemma first?_tag (cs : List Char) :
    first? ('<' :: cs) =
      (plainTag? ('<' :: cs)).or ((openLink? ('<' :: cs)).or (image? ('<' :: cs))) := by
  rw [first?, if_pos rfl]

/-- A tag without attributes is read. -/
lemma first?_plainTag {cs : List Char} (found : plainTag? ('<' :: cs) = some (t, rest)) :
    first? ('<' :: cs) = some (t, rest) := by
  rw [first?_tag, found, Option.some_or]

lemma first?_openLink (closed : '\x22' ∉ cs) :
    first? ('<' :: 'a' :: ' ' :: ("href=\"".toList ++ (cs ++ '\x22' :: '>' :: rest))) =
      some (.openLink cs, rest) := by
  have other (cs : List Char) : plainTag? ('<' :: 'a' :: ' ' :: cs) = none := rfl
  have here : openLink? ('<' :: 'a' :: ' ' :: ("href=\"".toList ++ (cs ++ '\x22' :: '>' :: rest))) =
      some (.openLink cs, rest) := by
    change openLink? ("<a href=\"".toList ++ (cs ++ '\x22' :: '>' :: rest)) = _
    simp only [openLink?, after?_append, cut?_append closed, Option.bind_eq_bind, Option.bind_some]
    rfl
  rw [first?_tag, other, Option.none_or, here, Option.some_or]

lemma first?_image {source alternative : List Char} (closed : '\x22' ∉ source)
    (closed' : '\x22' ∉ alternative) :
    first?
      ('<' :: 'i' ::
        ("mg src=\"".toList ++
          (source ++ '\x22' :: (" alt=\"".toList ++ (alternative ++ '\x22' :: '>' :: rest))))) =
      some (.image source alternative, rest) := by
  have other (cs : List Char) : plainTag? ('<' :: 'i' :: cs) = none := rfl
  have another (cs : List Char) : openLink? ('<' :: 'i' :: cs) = none := rfl
  have here :
      image?
        ("<img src=\"".toList ++
          (source ++ '\x22' :: (" alt=\"".toList ++ (alternative ++ '\x22' :: '>' :: rest)))) =
        some (.image source alternative, rest) := by
    simp only [image?, after?_append, cut?_append closed, cut?_append closed',
      Option.bind_eq_bind, Option.bind_some]
    rfl
  rw [first?_tag, other, Option.none_or, another, Option.none_or]
  exact here

/-- A token that is written is read. -/
lemma first?_text (clean : t.Clean) : first? (t.text ++ rest) = some (t, rest) := by
  cases t with
  | char c => exact if_neg clean
  | lineBreak | rule | openCode => exact first?_plainTag rfl
  | openElement tag =>
    cases tag with
    | heading below => fin_cases below <;> exact first?_plainTag rfl
    | _ => exact first?_plainTag rfl
  | close e =>
    cases e with
    | element tag =>
      cases tag with
      | heading below => fin_cases below <;> exact first?_plainTag rfl
      | _ => exact first?_plainTag rfl
    | code | link => exact first?_plainTag rfl
  | openLink target =>
    have eq : (Token.openLink target).text ++ rest =
        '<' :: 'a' :: ' ' :: ("href=\"".toList ++ (target ++ '\x22' :: '>' :: rest)) := by
      rw [text_openLink, List.append_assoc, List.append_assoc]
      rfl
    rw [eq, first?_openLink clean.closed]
  | image source alternative =>
    have eq : (Token.image source alternative).text ++ rest = '<' :: 'i' ::
        ("mg src=\"".toList ++
          (source ++ '\x22' :: (" alt=\"".toList ++ (alternative ++ '\x22' :: '>' :: rest)))) := by
      rw [text_image, List.append_assoc, List.append_assoc, List.append_assoc, List.append_assoc]
      rfl
    rw [eq, first?_image clean.1.closed clean.2.closed]

/-- A text is read in one way only. -/
theorem Tokenized.unique {ts' : List Token} (reads : Tokenized cs ts) (reads' : Tokenized cs ts') :
    ts = ts' := by
  induction reads generalizing ts' with
  | done =>
    cases reads' with
    | done => rfl
    | next found _ => cases found
  | next found _ ih =>
    cases reads' with
    | done => cases found
    | next found' later =>
      cases found.symm.trans found'
      rw [ih later]

/-- Tokens that are written one after the other are read so. -/
lemma tokenized_text (clean : ∀ t ∈ ts, t.Clean) : Tokenized (ts.flatMap Token.text) ts := by
  induction ts with
  | nil => exact .done
  | cons t ts ih =>
    rw [List.flatMap_cons]
    exact .next (first?_text (clean t List.mem_cons_self))
      (ih fun t ht => clean t (List.mem_cons_of_mem _ ht))

end Reading

/-! ## Trees as tokens -/

mutual

/-- The tokens of a tree, in the order in which they are written. -/
def tokens : Html → List Token
  | .char c => [.char c]
  | .lineBreak => [.lineBreak]
  | .rule => [.rule]
  | .image source alternative => [.image (escapeValue source) (escapeValue alternative)]
  | .code body => .openCode :: ((escapeValue body).map .char ++ [.close .code])
  | .link target body => .openLink (escapeValue target) :: (tokensAll body ++ [.close .link])
  | .element tag body => .openElement tag :: (tokensAll body ++ [.close (.element tag)])

def tokensAll : List Html → List Token
  | [] => []
  | h :: rest => tokens h ++ tokensAll rest

end

mutual

/-- No character of the text itself opens a tag, and no link is in another; `linked` says that a
link is around. -/
def Tame (linked : Bool) : Html → Prop
  | .char c => c ≠ '<'
  | .link _ body => linked = false ∧ TameAll true body
  | .element _ body => TameAll linked body
  | .lineBreak | .rule | .image .. | .code _ => True

def TameAll (linked : Bool) : List Html → Prop
  | [] => True
  | h :: rest => Tame linked h ∧ TameAll linked rest

end

section Trees

lemma cleanValue_entity (c : Char) : CleanValue (valueEntity c) := by
  unfold valueEntity CleanValue
  split
  · simp
  split
  · simp
  split
  · simp
  · simp_all

lemma cleanValue_escape (cs : List Char) : CleanValue (escapeValue cs) := by
  intro c hc
  obtain ⟨b, _, hb⟩ := List.mem_flatMap.1 hc
  exact cleanValue_entity b c hb

lemma text_chars (cs : List Char) : (cs.map Token.char).flatMap Token.text = cs := by
  induction cs with
  | nil => rfl
  | cons c cs ih => exact congrArg (c :: ·) ih

mutual

/-- A tree is written as its tokens. -/
lemma text_tokens (h : Html) : (tokens h).flatMap Token.text = h.write := by
  cases h with
  | char c | lineBreak | rule | image => exact List.append_nil _
  | code body =>
    rw [tokens, List.flatMap_cons, List.flatMap_append, text_chars, List.flatMap_singleton,
      ← List.append_assoc]
    rfl
  | link target body =>
    rw [tokens, List.flatMap_cons, List.flatMap_append, text_tokensAll body, List.flatMap_singleton,
      ← List.append_assoc]
    rfl
  | element tag body =>
    rw [tokens, List.flatMap_cons, List.flatMap_append, text_tokensAll body, List.flatMap_singleton,
      ← List.append_assoc,
      text_openElement, text_close]
    rfl

lemma text_tokensAll (hs : List Html) : (tokensAll hs).flatMap Token.text = Html.writeAll hs := by
  cases hs with
  | nil => rfl
  | cons h rest =>
    rw [tokensAll, Html.writeAll, List.flatMap_append, text_tokens h, text_tokensAll rest]

end

lemma nests_chars (opened : List Enclosure) (cs : List Char) (ts : List Token) :
    nests opened (cs.map Token.char ++ ts) = nests opened ts := by
  induction cs with
  | nil => rfl
  | cons c cs ih =>
    rw [List.map_cons, List.cons_append, ← ih]
    cases opened <;> rfl

mutual

/-- Whatever a tree opens, it closes again. -/
lemma nests_tokens {linked : Bool} {opened : List Enclosure} {ts : List Token} (h : Html)
    (tame : Tame linked h) (outside : linked = false → Enclosure.link ∉ opened) :
    nests opened (tokens h ++ ts) = nests opened ts := by
  cases h with
  | char c | lineBreak | rule | image => cases opened <;> rfl
  | code body =>
    rw [tokens, List.cons_append, List.append_assoc]
    refine (nests_chars _ _ _).trans ?_
    simp [nests]
  | link target body =>
    obtain ⟨rfl, tame⟩ := tame
    rw [tokens, List.cons_append, List.append_assoc, nests, nests_tokensAll body tame (by simp)]
    simp [nests, outside rfl]
  | element tag body =>
    rw [tokens, List.cons_append, List.append_assoc, nests,
      nests_tokensAll body tame (by simpa using outside)]
    simp [nests]

lemma nests_tokensAll {linked : Bool} {opened : List Enclosure} {ts : List Token} (hs : List Html)
    (tame : TameAll linked hs) (outside : linked = false → Enclosure.link ∉ opened) :
    nests opened (tokensAll hs ++ ts) = nests opened ts := by
  cases hs with
  | nil => rfl
  | cons h rest =>
    rw [tokensAll, List.append_assoc, nests_tokens h tame.1 outside,
      nests_tokensAll rest tame.2 outside]

end

mutual

lemma clean_tokens {linked : Bool} (h : Html) (tame : Tame linked h) : ∀ t ∈ tokens h, t.Clean := by
  cases h with
  | char c =>
    rw [tokens, List.forall_mem_singleton]
    exact tame
  | lineBreak | rule => simp [tokens, Token.Clean]
  | image source alternative => simp [tokens, Token.Clean, cleanValue_escape]
  | code body =>
    simp only [tokens, List.mem_cons, List.mem_append, List.mem_map, List.not_mem_nil, or_false]
    rintro t (rfl | ⟨c, hc, rfl⟩ | rfl)
    · trivial
    · exact (cleanValue_escape body c hc).2.1
    · trivial
  | link target body =>
    simp only [tokens, List.mem_cons, List.mem_append, List.not_mem_nil, or_false]
    rintro t (rfl | ht | rfl)
    · exact cleanValue_escape target
    · exact clean_tokensAll body tame.2 t ht
    · trivial
  | element tag body =>
    simp only [tokens, List.mem_cons, List.mem_append, List.not_mem_nil, or_false]
    rintro t (rfl | ht | rfl)
    · trivial
    · exact clean_tokensAll body tame t ht
    · trivial

lemma clean_tokensAll {linked : Bool} (hs : List Html) (tame : TameAll linked hs) :
    ∀ t ∈ tokensAll hs, t.Clean := by
  cases hs with
  | nil => simp [tokensAll]
  | cons h rest =>
    intro t ht
    rw [tokensAll, List.mem_append] at ht
    exact ht.elim (clean_tokens h tame.1 t) (clean_tokensAll rest tame.2 t)

end

end Trees

end LayeredPage.Proofs
