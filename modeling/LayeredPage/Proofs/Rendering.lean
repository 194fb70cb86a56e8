import LayeredPage.Proofs.Markup

/-!
# Rendered text is well-formed

Every list of pieces nests, whichever markers are open, and every character of a tree stands in the
text it was made of. A label ends at the first closing bracket, so it holds no label of its own.
-/

namespace LayeredPage.Proofs

open Markdown Text

section Inline

variable {linked : Bool} {cs a b label target rest body : List Char} {stop c : Char}

lemma tameAll_iff {hs : List Html} : TameAll linked hs ↔ ∀ h ∈ hs, Tame linked h := by
  induction hs with
  | nil => simp [TameAll]
  | cons h hs ih => rw [TameAll, ih, List.forall_mem_cons]

/-- Only trees among the pieces can hold anything. -/
def TamePiece (linked : Bool) : Piece → Prop
  | .html h => Tame linked h
  | .marker _ => True

lemma tame_closeAll (opened : List OpenMarker) {current : List Html}
    (inner : ∀ h ∈ current, Tame linked h) (outer : ∀ o ∈ opened, ∀ h ∈ o.before, Tame linked h) :
    ∀ h ∈ closeAll current opened, Tame linked h := by
  induction opened generalizing current with
  | nil => simpa [closeAll] using inner
  | cons o opened ih =>
    obtain ⟨before, outer⟩ := List.forall_mem_cons.1 outer
    refine ih (List.forall_mem_cons.2 ⟨?_, before⟩) outer
    rw [Tame, tameAll_iff]
    simpa using inner

lemma tame_nestIn (ps : List Piece) {opened : List OpenMarker} {current : List Html}
    (tame : ∀ p ∈ ps, TamePiece linked p)
    (inner : ∀ h ∈ current, Tame linked h) (outer : ∀ o ∈ opened, ∀ h ∈ o.before, Tame linked h) :
    ∀ h ∈ nestIn opened current ps, Tame linked h := by
  induction ps generalizing opened current with
  | nil => exact tame_closeAll opened inner outer
  | cons p ps ih =>
    obtain ⟨first, later⟩ := List.forall_mem_cons.1 tame
    cases p with
    | html h => exact ih later (List.forall_mem_cons.2 ⟨first, inner⟩) outer
    | marker m =>
      have opens (opened : List OpenMarker) (outer : ∀ o ∈ opened, ∀ h ∈ o.before, Tame linked h) :
          ∀ h ∈ nestIn (⟨m, current⟩ :: opened) [] ps, Tame linked h :=
        ih later (by simp) (List.forall_mem_cons.2 ⟨inner, outer⟩)
      cases opened with
      | nil => exact opens [] outer
      | cons o opened =>
        rw [nestIn]
        split
        · obtain ⟨before, outer⟩ := List.forall_mem_cons.1 outer
          refine ih later (List.forall_mem_cons.2 ⟨?_, before⟩) outer
          rw [Tame, tameAll_iff]
          simpa using inner
        · exact opens (o :: opened) outer

/-- Nesting adds elements only. -/
lemma tameAll_nest {ps : List Piece} (tame : ∀ p ∈ ps, TamePiece linked p) :
    TameAll linked (nest ps) :=
  tameAll_iff.2 (tame_nestIn ps tame (by simp) (by simp))

lemma notMem_of_cut? (found : cut? stop cs = some (a, b)) : stop ∉ a := by
  induction cs generalizing a with
  | nil => simp [cut?] at found
  | cons d cs ih =>
    rw [cut?] at found
    split at found
    · cases found
      exact List.not_mem_nil
    · next other =>
      obtain ⟨⟨a', b'⟩, found, same⟩ := Option.map_eq_some_iff.1 found
      cases same
      rw [List.mem_cons, not_or]
      exact ⟨fun same => other (by simp [same]), ih found⟩

/-- A label and what follows it are parts of the text; the label has no closing bracket. -/
lemma labelled?_eq_some (found : labelled? cs = some (label, target, rest)) :
    cs = label ++ ']' :: '(' :: target ++ ')' :: rest ∧ ']' ∉ label := by
  unfold labelled? at found
  split at found
  · next heq =>
    obtain ⟨⟨a, b⟩, cut, same⟩ := Option.map_eq_some_iff.1 found
    cases same
    refine ⟨?_, notMem_of_cut? heq⟩
    rw [cut?_eq_some heq, cut?_eq_some cut]
    simp
  · cases found

lemma code?_eq_some (found : code? cs = some (body, rest)) : cs = body ++ '\x60' :: rest := by
  unfold code? at found
  split at found
  · next heq =>
    cases found
    exact cut?_eq_some heq
  · cases found

lemma ofStart?_suffix {m : Marker} (found : Marker.ofStart? c cs = some (m, rest)) :
    rest <:+ cs := by
  unfold Marker.ofStart? at found
  split at found <;> cases found
  all_goals first | exact List.suffix_cons _ _ | exact List.suffix_refl _

/-- Nothing in a text opens a tag; where a link is around, it has no closing bracket either. -/
structure Plain (linked : Bool) (cs : List Char) : Prop where
  unopened : '<' ∉ cs
  unlabelled : linked = true → ']' ∉ cs

lemma Plain.part {part : List Char} (plain : Plain linked cs) (inside : part ⊆ cs) :
    Plain linked part :=
  ⟨fun opens => plain.unopened (inside opens), fun around ends =>
    plain.unlabelled around (inside ends)⟩

/-- The pieces of a plain text hold its characters. -/
lemma tame_pieces (cs : List Char) (linked : Bool) (plain : Plain linked cs) :
    ∀ p ∈ pieces cs, TamePiece linked p := by
  have first {linked : Bool} {c : Char} {cs : List Char} (plain : Plain linked (c :: cs)) :
      TamePiece linked (.html (.char c)) := by
    rintro rfl
    exact plain.unopened List.mem_cons_self
  have later {linked : Bool} {c : Char} {cs : List Char} (plain : Plain linked (c :: cs)) :
      Plain linked cs :=
    plain.part (List.subset_cons_self _ _)
  fun_induction pieces cs generalizing linked with
  | case1 => simp
  | case2 c cs _ body rest found _ ih =>
    have inside : rest ⊆ cs := fun d hd => by simp [code?_eq_some found, hd]
    exact List.forall_mem_cons.2 ⟨trivial, ih linked ((later plain).part inside)⟩
  | case3 c cs _ _ ih => exact List.forall_mem_cons.2 ⟨first plain, ih linked (later plain)⟩
  | case4 c _ _ inner alternative source rest found _ ih =>
    have inside : rest ⊆ inner := fun d hd => by simp [(labelled?_eq_some found).1, hd]
    exact List.forall_mem_cons.2 ⟨trivial, ih linked ((later (later plain)).part inside)⟩
  | case5 c _ _ inner _ ih => exact List.forall_mem_cons.2 ⟨first plain, ih linked (later plain)⟩
  | case6 c _ _ cs _ ih => exact List.forall_mem_cons.2 ⟨first plain, ih linked (later plain)⟩
  | case7 c cs _ _ _ label target rest found _ inner ih =>
    obtain ⟨eq, unlabelled⟩ := labelled?_eq_some found
    have label_inside : label ⊆ cs := fun d hd => by simp [eq, hd]
    have rest_inside : rest ⊆ cs := fun d hd => by simp [eq, hd]
    have outside : linked = false :=
      Bool.eq_false_iff.2 fun around => (later plain).unlabelled around (by simp [eq])
    refine List.forall_mem_cons.2 ⟨⟨outside, tameAll_nest (inner true ⟨?_, fun _ => unlabelled⟩)⟩,
      ih linked ((later plain).part rest_inside)⟩
    exact fun opens => (later plain).unopened (label_inside opens)
  | case8 c cs _ _ _ _ ih => exact List.forall_mem_cons.2 ⟨first plain, ih linked (later plain)⟩
  | case9 c cs _ _ _ m rest found _ ih =>
    exact List.forall_mem_cons.2
      ⟨trivial, ih linked ((later plain).part (ofStart?_suffix found).subset)⟩
  | case10 c cs _ _ _ _ ih => exact List.forall_mem_cons.2 ⟨first plain, ih linked (later plain)⟩

/-- A plain line is rendered to a tame tree. -/
lemma tame_inlineHtml {line : List Char} (plain : '<' ∉ line) : TameAll false (inlineHtml line) :=
  tameAll_nest (tame_pieces line false ⟨plain, fun around => by cases around⟩)

end Inline

section Blocks

variable {line body title : List Char} {lines : List (List Char)}

lemma dropWhile_within (p : Char → Bool) (cs : List Char) : cs.dropWhile p <:+: cs :=
  (List.dropWhile_suffix p).isInfix

lemma trimStart_within (cs : List Char) : trimStart cs <:+: cs := dropWhile_within _ _

lemma trim_within (cs : List Char) : trim cs <:+: cs := by
  refine List.IsInfix.trans ?_ (trimStart_within cs)
  exact List.reverse_infix.1
    (by simpa [trim, trimEnd] using dropWhile_within isBlank (trimStart cs).reverse)

lemma tail_within {c : Char} {cs : List Char} (inside : c :: cs <:+: line) : cs <:+: line :=
  (List.suffix_cons c cs).isInfix.trans inside

lemma heading?_within {below : Fin 6} (found : heading? line = some (below, title)) :
    title <:+: line := by
  simp only [heading?, Option.dite_none_right_eq_some] at found
  obtain ⟨_, found⟩ := found
  split at found
  · next eq =>
    cases found
    exact (trim_within _).trans (tail_within (eq ▸ dropWhile_within _ _))
  · cases found

lemma quoteBody?_within (found : quoteBody? line = some body) : body <:+: line := by
  have kept := trimStart_within line
  unfold quoteBody? at found
  split at found
  · next eq =>
    cases found
    rw [eq] at kept
    exact tail_within (tail_within kept)
  · next eq =>
    cases found
    rw [eq] at kept
    exact tail_within kept
  · cases found

lemma listItem?_within {ordered : Bool} (found : listItem? line = some (ordered, body)) :
    body <:+: line := by
  have kept := trimStart_within line
  unfold listItem? at found
  split at found
  case h_4 =>
    split at found
    · cases found
    have after := (dropWhile_within Char.isDigit (trimStart line)).trans kept
    split at found
    · next eq =>
      cases found
      rw [eq] at after
      exact (trimStart_within _).trans (tail_within (tail_within after))
    · cases found
  all_goals
    next eq =>
    cases found
    rw [eq] at kept
    exact (trimStart_within _).trans (tail_within (tail_within kept))

lemma itemOf_within {ordered : Bool} (found : itemOf ordered line = some body) :
    body <:+: line := by
  unfold itemOf at found
  split at found
  · next item =>
    split at found
    · cases found
      exact listItem?_within item
    · cases found
  · cases found

/-- The text that a line of its kind renders. -/
def content : LineKind → List Char
  | .heading _ title => title
  | .quote body | .item _ body => body
  | .blank | .rule | .text => []

lemma content_within (line : List Char) : content (LineKind.of line) <:+: line := by
  unfold LineKind.of
  split
  · exact List.nil_infix
  split
  · exact List.nil_infix
  split
  · next found => exact heading?_within found
  split
  · next found => exact quoteBody?_within found
  split
  · next found => exact listItem?_within found
  · exact List.nil_infix

/-- What `leading` collects comes from the lines, and so does what it leaves. -/
lemma leading_spec (f : List Char → Option (List Char)) (lines : List (List Char)) :
    (∀ b ∈ (leading f lines).1, ∃ line ∈ lines, f line = some b) ∧ (leading f lines).2 ⊆ lines := by
  induction lines with
  | nil => simp [leading]
  | cons line lines ih =>
    rw [leading]
    split
    · next b found =>
      refine ⟨List.forall_mem_cons.2 ⟨⟨line, List.mem_cons_self, found⟩, fun b' hb' => ?_⟩,
        fun l hl => ?_⟩
      · obtain ⟨l, hl, from_l⟩ := ih.1 b' hb'
        exact ⟨l, List.mem_cons_of_mem _ hl, from_l⟩
      · exact List.mem_cons_of_mem _ (ih.2 hl)
    · exact ⟨by simp, List.Subset.refl _⟩

lemma tameAll_append {linked : Bool} {hs hs' : List Html} :
    TameAll linked (hs ++ hs') ↔ TameAll linked hs ∧ TameAll linked hs' := by
  simp only [tameAll_iff, List.forall_mem_append]

lemma tame_textLine (plain : '<' ∉ line) : TameAll false (textLine line) := by
  unfold textLine
  split
  · next body eq =>
    refine tameAll_append.2
      ⟨tame_inlineHtml fun inside => plain (List.mem_reverse.1 ?_), trivial, trivial⟩
    rw [eq]
    simpa using inside
  · exact tame_inlineHtml plain

/-- Lines in which nothing opens a tag are rendered to tame trees. -/
lemma tame_blocks (afterText : Bool) (lines : List (List Char))
    (plain : ∀ line ∈ lines, '<' ∉ line) :
    TameAll false (blocks afterText lines) := by
  fun_induction blocks afterText lines with
  | case1 => trivial
  | case2 afterText line rest kind next _ ih =>
    refine tameAll_append.2 ⟨by split <;> simp [TameAll, Tame], ih fun l hl => ?_⟩
    exact plain l (List.mem_cons_of_mem _ ((List.dropWhile_sublist _).subset hl))
  | case3 afterText line rest kind ih =>
    exact ⟨trivial, ih fun l hl => plain l (List.mem_cons_of_mem _ hl)⟩
  | case4 afterText line rest below title kind ih =>
    have inside := (content_within line).subset
    rw [kind] at inside
    refine ⟨tame_inlineHtml fun opens => ?_, ih fun l hl => plain l (List.mem_cons_of_mem _ hl)⟩
    exact plain line List.mem_cons_self (inside opens)
  | case5 afterText line rest body kind _ _ inner ih =>
    have inside := (content_within line).subset
    rw [kind] at inside
    obtain ⟨collected, left⟩ := leading_spec quoteBody? rest
    refine ⟨inner
      (List.forall_mem_cons.2 ⟨fun opens => plain line List.mem_cons_self (inside opens),
        fun b hb opens => ?_⟩),
      ih fun l hl => plain l (List.mem_cons_of_mem _ (left hl))⟩
    obtain ⟨l, hl, found⟩ := collected b hb
    exact plain l (List.mem_cons_of_mem _ hl) ((quoteBody?_within found).subset opens)
  | case6 afterText line rest ordered body kind _ bodies ih =>
    have inside := (content_within line).subset
    rw [kind] at inside
    obtain ⟨collected, left⟩ := leading_spec (itemOf ordered) rest
    refine ⟨tameAll_iff.2 fun h hh => ?_, ih fun l hl => plain l (List.mem_cons_of_mem _ (left hl))⟩
    obtain ⟨b, hb, rfl⟩ := List.mem_map.1 hh
    refine tame_inlineHtml fun opens => ?_
    rcases List.mem_cons.1 hb with rfl | hb
    · exact plain line List.mem_cons_self (inside opens)
    · obtain ⟨l, hl, found⟩ := collected b hb
      exact plain l (List.mem_cons_of_mem _ hl) ((itemOf_within found).subset opens)
  | case7 afterText line rest kind ih =>
    refine tameAll_append.2 ⟨tameAll_append.2 ⟨by split <;> simp [TameAll, Tame], ?_⟩,
      ih fun l hl => plain l (List.mem_cons_of_mem _ hl)⟩
    exact tame_textLine (plain line List.mem_cons_self)

lemma intercalate_cons (c : Char) (first : List Char) (lines : List (List Char)) :
    List.intercalate ['\n'] ((c :: first) :: lines) =
      c :: List.intercalate ['\n'] (first :: lines) := by
  cases lines <;> rfl

/-- The lines of a text are what line feeds are put between. -/
lemma intercalate_splitLines (cs : List Char) :
    List.intercalate ['\n'] (splitLines cs) = cs ∧ splitLines cs ≠ [] := by
  induction cs with
  | nil => exact ⟨rfl, List.cons_ne_nil _ _⟩
  | cons c cs ih =>
    obtain ⟨joined, some⟩ := ih
    rw [splitLines]
    cases lines : splitLines cs with
    | nil => exact absurd lines some
    | cons first lines' =>
      rw [lines] at joined
      split
      · next feed =>
        refine ⟨?_, List.cons_ne_nil _ _⟩
        rw [eq_of_beq feed, List.intercalate_cons_cons, joined, List.nil_append,
          List.singleton_append]
      · exact ⟨(intercalate_cons c first lines').trans (congrArg (c :: ·) joined),
          List.cons_ne_nil _ _⟩

lemma splitLines_of_line (single : '\n' ∉ line) : splitLines line = [line] := by
  induction line with
  | nil => rfl
  | cons c line ih =>
    obtain ⟨other, single⟩ := not_or.1 (mt List.mem_cons.2 single)
    rw [splitLines, if_neg (by simpa using Ne.symm other), ih single]

lemma infix_intercalate {lines : List (List Char)} (there : line ∈ lines) :
    line <:+: List.intercalate ['\n'] lines := by
  induction lines with
  | nil => cases there
  | cons first lines ih =>
    cases lines with
    | nil =>
      rw [List.mem_singleton.1 there, List.intercalate_singleton]
    | cons second lines =>
      rw [List.intercalate_cons_cons]
      obtain rfl | there := List.mem_cons.1 there
      · rw [List.append_assoc]
        exact (List.prefix_append _ _).isInfix
      · exact (ih there).trans (List.suffix_append _ _).isInfix

lemma splitLines_within {cs : List Char} (there : line ∈ splitLines cs) : line <:+: cs := by
  have inside := infix_intercalate there
  rwa [(intercalate_splitLines cs).1] at inside

lemma splitLines_subset (cs : List Char) : ∀ line ∈ splitLines cs, line ⊆ cs :=
  fun _ there => (splitLines_within there).subset

/-- Rendering a text in which nothing opens a tag gives well-formed markup: it can be read to its
end, its values stay between their quotes, whatever is opened is closed in turn, and no link is
inside another. -/
theorem markup_of_render (text : String) (plain : '<' ∉ text.toList) :
    ∃ ts, Tokenized (render text).toList ts ∧
    (∀ t ∈ ts, t.Clean) ∧ nests [] ts = true := by
  have tame := tame_blocks false (splitLines text.toList) fun line hl opens =>
    plain (splitLines_subset _ line hl opens)
  have clean := clean_tokensAll _ tame
  refine ⟨_, ?_, clean, ?_⟩
  · rw [render, String.toList_ofList, ← text_tokensAll]
    exact tokenized_text clean
  · rw [← List.append_nil (tokensAll _), nests_tokensAll _ tame (by simp)]
    rfl

theorem markup_of_loose_ends :
    '<' ∉
      "> **[a*b _c](x\"y>) ![i](s\n> - ~~x\n1. \x60co>de\x60 __d [e](f)\n\n## *g** [h](".toList ∧
    ∃ ts,
      Tokenized
        (render
          "> **[a*b _c](x\"y>) ![i](s\n> - ~~x\n1. \x60co>de\x60 __d [e](f)\n\n## *g** [h](").toList
        ts ∧
      (∀ t ∈ ts, t.Clean) ∧ nests [] ts = true := by
  refine ⟨?plain, markup_of_render _ ?plain⟩
  simp

end Blocks

end LayeredPage.Proofs
