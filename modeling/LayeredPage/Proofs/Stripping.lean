import LayeredPage.Markdown.Editable
import LayeredPage.Proofs.Rendering

/-!
# Text without tags

Markup splits in one way into tags and characters that stand for themselves: an opening bracket
begins a tag unless it closes at once or never. The plain text of markup keeps those characters and
makes a line feed or nothing of each tag, so no tag is left in it, and it is its own plain text.
-/

namespace LayeredPage.Proofs

open Markdown

/-- An opening bracket with this behind it is no tag: it closes at once or never. -/
def Bare (after : List Char) : Prop := after.head? = some '>' ∨ '>' ∉ after

/-- No opening bracket begins a tag. -/
def Tagless (cs : List Char) : Prop := ∀ before after, cs = before ++ '<' :: after → Bare after

inductive Fragment where
  | char (c : Char)
  | tag (body : List Char)

/-- How markup splits into fragments, from left to right. -/
inductive Splits : List Char → List Fragment → Prop where
  | nil : Splits [] []
  | char {c : Char} {cs : List Char} {fragments : List Fragment} (bare : c = '<' → Bare cs)
    (rest : Splits cs fragments) :
      Splits (c :: cs) (.char c :: fragments)
  | tag {body cs : List Char} {fragments : List Fragment} (some : body ≠ []) (unclosed : '>' ∉ body)
    (rest : Splits cs fragments) :
      Splits ('<' :: (body ++ '>' :: cs)) (.tag body :: fragments)

/-- Tags that begin a line: a break, with nothing but blanks and slashes after its name, and all
whose names begin as those of paragraphs and divisions do. Names are in either case. -/
def BeginsLine (body : List Char) : Prop :=
  (['b', 'r'] <+: body.map Char.toLower ∧ ∀ c ∈ body.drop 2,
    c ∈ [' ', '\t', '\n', '\x0c', '\x0d', '/']) ∨
    ['p'] <+: body.map Char.toLower ∨ ['d', 'i', 'v'] <+: body.map Char.toLower

instance : DecidablePred BeginsLine := fun _ => inferInstanceAs (Decidable (_ ∨ _ ∨ _))

namespace Fragment

/-- The markup of a fragment. -/
def source : Fragment → List Char
  | char c => [c]
  | tag body => '<' :: (body ++ ['>'])

/-- What plain text has in its place. -/
def left : Fragment → List Char
  | char c => [c]
  | tag body => if BeginsLine body then ['\n'] else []

end Fragment

section Brackets

variable {c : Char} {cs : List Char}

lemma tagless_cons : Tagless (c :: cs) ↔ (c = '<' → Bare cs) ∧ Tagless cs := by
  constructor
  · intro tagless
    refine ⟨?_, fun before after all => tagless (c :: before) after (congrArg (c :: ·) all)⟩
    rintro rfl
    exact tagless [] cs rfl
  · rintro ⟨bare, tagless⟩ (_ | ⟨first, before⟩) after all
    · obtain ⟨rfl, rfl⟩ := List.cons.inj all
      exact bare rfl
    · exact tagless before after (List.cons.inj all).2

lemma cut?_eq_none {stop : Char} : cut? stop cs = none ↔ stop ∉ cs := by
  induction cs with
  | nil => simp [cut?]
  | cons c cs ih =>
    rw [cut?, List.mem_cons, not_or]
    by_cases same : c = stop
    · simp [same]
    · simp [same, ih, Ne.symm same]

/-- A bracket is bare unless it is closed behind something. -/
lemma bare_of_cut? (untagged : ∀ t body rest, cut? '>' cs ≠ some (t :: body, rest)) : Bare cs := by
  rcases closed : cut? '>' cs with _ | ⟨_ | ⟨t, body⟩, rest⟩
  · exact .inr (cut?_eq_none.1 closed)
  · exact .inl (congrArg List.head? (cut?_eq_some closed))
  · exact absurd closed (untagged t body rest)

lemma plainChars_char (bare : c = '<' → Bare cs) : plainChars (c :: cs) = c :: plainChars cs := by
  rw [plainChars]
  split
  · next opening =>
    obtain rfl : c = '<' := eq_of_beq opening
    split
    · next t body rest closed =>
      obtain first | never := bare rfl
      · obtain ⟨cs, rfl⟩ := List.head?_eq_some_iff.1 first
        cases closed
      · rw [cut?_eq_none.2 never] at closed
        cases closed
    · rfl
  · rfl

lemma plainChars_tag {body : List Char} (some : body ≠ []) (unclosed : '>' ∉ body) :
    plainChars ('<' :: (body ++ '>' :: cs)) = tagText body ++ plainChars cs := by
  obtain ⟨t, body, rfl⟩ := List.exists_cons_of_ne_nil some
  rw [plainChars, if_pos (beq_self_eq_true _)]
  split
  · next t' body' rest closed =>
    rw [cut?_append unclosed] at closed
    cases closed
    rfl
  · next untagged => exact absurd (cut?_append unclosed) (untagged t body cs)

end Brackets

section Names

variable {letters body : List Char}

lemma startsWithLetters_iff :
    startsWithLetters letters body = true ↔ letters <+: body.map Char.toLower := by
  induction letters generalizing body with
  | nil => simp [startsWithLetters]
  | cons l letters ih =>
    cases body with
    | nil => simp [startsWithLetters]
    | cons c body =>
      rw [startsWithLetters, Bool.and_eq_true, beq_iff_eq, ih, List.map_cons,
        List.cons_prefix_cons, eq_comm]

lemma tagText_eq : tagText body = if BeginsLine body then ['\n'] else [] := by
  have blanks : ((body.drop 2).all fun c => Text.isMarkupBlank c || c == '/') = true ↔
      ∀ c ∈ body.drop 2, c ∈ [' ', '\t', '\n', '\x0c', '\x0d', '/'] := by
    simp [Text.isMarkupBlank, or_assoc]
  have begins :
      (isBreakTag body || startsWithLetters ['p'] body || startsWithLetters ['d', 'i', 'v'] body) =
        true ↔ BeginsLine body := by
    rw [Bool.or_eq_true, Bool.or_eq_true, isBreakTag, Bool.and_eq_true, blanks,
      startsWithLetters_iff, startsWithLetters_iff,
      startsWithLetters_iff, BeginsLine, or_assoc]
  rw [tagText]
  exact if_congr begins rfl rfl

end Names

section Splitting

variable {c : Char} {cs : List Char} {fragments : List Fragment}

lemma exists_splits (cs : List Char) : ∃ fragments, Splits cs fragments := by
  fun_induction plainChars cs with
  | case1 => exact ⟨[], .nil⟩
  | case2 c cs opening t body rest closed shorter ih =>
    obtain ⟨fragments, splits⟩ := ih
    obtain rfl : c = '<' := eq_of_beq opening
    rw [cut?_eq_some closed]
    exact ⟨.tag (t :: body) :: fragments,
      .tag (List.cons_ne_nil _ _) (notMem_of_cut? closed) splits⟩
  | case3 c cs opening untagged ih =>
    obtain ⟨fragments, splits⟩ := ih
    exact ⟨.char c :: fragments, .char (fun _ => bare_of_cut? untagged) splits⟩
  | case4 c cs other ih =>
    obtain ⟨fragments, splits⟩ := ih
    exact ⟨.char c :: fragments, .char (fun opening => absurd (beq_iff_eq.2 opening) other) splits⟩

lemma Splits.source (splits : Splits cs fragments) : fragments.flatMap Fragment.source = cs := by
  induction splits with
  | nil => rfl
  | char bare rest ih => rw [List.flatMap_cons, ih, Fragment.source, List.singleton_append]
  | tag some unclosed rest ih =>
    rw [List.flatMap_cons, ih, Fragment.source, List.cons_append, List.append_assoc,
      List.singleton_append]

lemma Splits.left (splits : Splits cs fragments) :
    plainChars cs = fragments.flatMap Fragment.left := by
  induction splits with
  | nil => rw [plainChars, List.flatMap_nil]
  | char bare rest ih =>
    rw [plainChars_char bare, ih, List.flatMap_cons, Fragment.left, List.singleton_append]
  | tag some unclosed rest ih =>
    rw [plainChars_tag some unclosed, tagText_eq, ih, List.flatMap_cons, Fragment.left]

/-- Plain text has no other characters than the markup and line feeds. -/
lemma Splits.mem_left (splits : Splits cs fragments) (there : c ∈ fragments.flatMap Fragment.left) :
    c ∈ cs ∨ c = '\n' := by
  induction splits with
  | nil => cases there
  | char bare rest ih =>
    rw [List.flatMap_cons, Fragment.left, List.singleton_append, List.mem_cons] at there
    obtain rfl | there := there
    · exact .inl List.mem_cons_self
    · exact (ih there).imp_left (List.mem_cons_of_mem _)
  | tag some unclosed rest ih =>
    rw [List.flatMap_cons, Fragment.left, List.mem_append] at there
    obtain there | there := there
    · split at there
      · exact .inr (List.mem_singleton.1 there)
      · cases there
    · exact (ih there).imp_left fun there =>
        List.mem_cons_of_mem _ (List.mem_append_right _ (List.mem_cons_of_mem _ there))

/-- A bracket that is bare in the markup is bare in its plain text. -/
lemma Splits.bare (splits : Splits cs fragments) (bare : Bare cs) :
    Bare (fragments.flatMap Fragment.left) := by
  obtain first | never := bare
  · obtain ⟨cs, rfl⟩ := List.head?_eq_some_iff.1 first
    cases splits with
    | char bare rest => exact .inl rfl
  · refine .inr fun there => ?_
    obtain there | feed := splits.mem_left there
    · exact never there
    · exact absurd feed (by decide)

lemma Splits.tagless (splits : Splits cs fragments) :
    Tagless (fragments.flatMap Fragment.left) := by
  induction splits with
  | nil => rintro (_ | ⟨_, _⟩) after ⟨⟩
  | char bare rest ih => exact tagless_cons.2 ⟨fun opening => rest.bare (bare opening), ih⟩
  | tag some unclosed rest ih =>
    rw [List.flatMap_cons, Fragment.left]
    split
    · exact tagless_cons.2 ⟨fun opening => absurd opening (by decide), ih⟩
    · exact ih

lemma plainChars_of_tagless (tagless : Tagless cs) : plainChars cs = cs := by
  induction cs with
  | nil => rw [plainChars]
  | cons c cs ih =>
    obtain ⟨bare, tagless⟩ := tagless_cons.1 tagless
    rw [plainChars_char bare, ih tagless]

end Splitting

/-- No tag is left in the plain text of markup, and it is its own plain text. All markup splits into
tags and bare characters, and its plain text has these characters in order, and a line feed for each
tag that begins a line. -/
theorem plainText_of_markup (html : String) :
    Tagless (plainText html).toList ∧ plainText (plainText html) = plainText html ∧
      (∃ fragments, Splits html.toList fragments) ∧
      ∀ fragments, Splits html.toList fragments →
        fragments.flatMap Fragment.source = html.toList ∧
        (plainText html).toList = fragments.flatMap Fragment.left := by
  obtain ⟨fragments, splits⟩ := exists_splits html.toList
  have text (fragments : List Fragment) (splits : Splits html.toList fragments) :
      (plainText html).toList = fragments.flatMap Fragment.left :=
    String.toList_ofList.trans splits.left
  have tagless : Tagless (plainText html).toList := text fragments splits ▸ splits.tagless
  refine ⟨tagless, ?_, ⟨fragments, splits⟩, fun fragments splits =>
    ⟨splits.source, text fragments splits⟩⟩
  calc plainText (plainText html) = String.ofList (plainChars (plainText html).toList) := rfl
    _ = plainText html := by rw [plainChars_of_tagless tagless, String.ofList_toList]

/-- A tag ends at the first closing bracket, whatever stands in it. -/
example : plainText "a<DIV x>b<br/>c<>1 < 2 <b<i>d <" = "a\nb\nc<>1 d <" := by cbv

end LayeredPage.Proofs
