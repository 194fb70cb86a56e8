import LayeredPage.Proofs.Streaming

/-!
# Escaped values

A value of the text is escaped when it becomes an attribute or the body of a code span. Who decodes
the entities in what is written gets the value with its own entities decoded, and so gets the value
itself if it has none. An ampersand is written as it is: a value that reads like an entity becomes
one.
-/

namespace LayeredPage.Proofs

open Markdown Text

/-- How a character is referred to: an ampersand, and then the name. -/
structure Entity where
  name : List Char
  char : Char
deriving DecidableEq

/-- The entities that escaping writes. -/
def writtenEntities : List Entity :=
  [⟨['q', 'u', 'o', 't', ';'], '\x22'⟩, ⟨['l', 't', ';'], '<'⟩, ⟨['g', 't', ';'], '>'⟩]

def entities : List Entity := writtenEntities ++ [⟨['a', 'm', 'p', ';'], '&'⟩]

/-- The character that is referred to after an ampersand, and what follows the reference. -/
def entity? (known : List Entity) (cs : List Char) : Option (Char × List Char) :=
  known.findSome? fun e => (after? e.name cs).map fun rest => (e.char, rest)

lemma entity?_eq_some {known : List Entity} {cs rest : List Char} {c : Char}
    (found : entity? known cs = some (c, rest)) :
    ∃ e ∈ known, e.char = c ∧ cs = e.name ++ rest := by
  obtain ⟨e, there, found⟩ := List.exists_of_findSome?_eq_some found
  obtain ⟨rest', after, same⟩ := Option.map_eq_some_iff.1 found
  obtain ⟨rfl, rfl⟩ := Prod.mk.inj same
  exact ⟨e, there, rfl, after?_eq_some.1 after⟩

lemma entity?_eq_none {known : List Entity} {cs : List Char} :
    entity? known cs = none ↔ ∀ e ∈ known, ¬e.name <+: cs := by
  rw [entity?, List.findSome?_eq_none_iff]
  refine forall₂_congr fun e _ => ?_
  rw [Option.map_eq_none_iff, Option.eq_none_iff_forall_ne_some]
  constructor
  · rintro none ⟨rest, same⟩
    exact none rest (after?_eq_some.2 same.symm)
  · rintro none rest found
    exact none ⟨rest, (after?_eq_some.1 found).symm⟩

lemma length_of_entity? {known : List Entity} {cs rest : List Char} {c : Char}
    (found : entity? known cs = some (c, rest)) :
    rest.length ≤ cs.length := by
  obtain ⟨e, -, -, rfl⟩ := entity?_eq_some found
  rw [List.length_append]
  omega

/-- A text with the known entities decoded, from left to right. -/
def decoded (known : List Entity) : List Char → List Char
  | [] => []
  | c :: cs =>
    if c = '&' then
      match h : entity? known cs with
      | some (d, rest) =>
        have := length_of_entity? h
        d :: decoded known rest
      | none => c :: decoded known cs
    else c :: decoded known cs
termination_by cs => cs.length
decreasing_by all_goals (simp only [List.length_cons]; omega)

/-- No known entity stands in a text. -/
def Unreferring (known : List Entity) (cs : List Char) : Prop :=
  ∀ e ∈ known, ¬ ('&' :: e.name <:+: cs)

section Decoding

variable {known more : List Entity} {c d : Char} {cs rest : List Char}

lemma decoded_nil : decoded known [] = [] := by rw [decoded]

lemma decoded_char (plain : c ≠ '&') : decoded known (c :: cs) = c :: decoded known cs := by
  rw [decoded, if_neg plain]

lemma decoded_entity (found : entity? known cs = some (d, rest)) :
    decoded known ('&' :: cs) = d :: decoded known rest := by
  rw [decoded, if_pos rfl]
  split
  · next other =>
    rw [found] at other
    cases other
    rfl
  · next none =>
    rw [found] at none
    cases none

lemma decoded_bare (none : entity? known cs = none) :
    decoded known ('&' :: cs) = '&' :: decoded known cs := by
  rw [decoded, if_pos rfl]
  split
  · next found =>
    rw [none] at found
    cases found
  · rfl

lemma length_decoded_le (known : List Entity) (cs : List Char) :
    (decoded known cs).length ≤ cs.length := by
  fun_induction decoded known cs with
  | case1 => exact Nat.le_refl _
  | case2 cs d rest found shorter ih =>
    simp only [List.length_cons]
    omega
  | case3 cs none ih => simpa using ih
  | case4 c cs plain ih => simpa using ih

lemma unreferring_cons : Unreferring known (c :: cs) ↔ (c = '&' → entity? known cs = none) ∧
    Unreferring known cs := by
  simp only [Unreferring, List.infix_cons_iff, List.cons_prefix_cons, not_or,
    not_and, entity?_eq_none]
  constructor
  · intro free
    exact ⟨fun amp e there => (free e there).1 amp.symm, fun e there => (free e there).2⟩
  · intro free e there
    exact ⟨fun amp => free.1 amp.symm e there, free.2 e there⟩

/-- Decoding changes exactly the texts in which an entity stands. -/
lemma decoded_eq_self (named : ∀ e ∈ known, e.name ≠ []) :
    decoded known cs = cs ↔ Unreferring known cs := by
  fun_induction decoded known cs with
  | case1 => simp [Unreferring]
  | case2 cs d rest found shorter ih =>
    constructor
    · intro same
      have lengths := congrArg List.length same
      have shorter := length_decoded_le known rest
      obtain ⟨e, there, -, rfl⟩ := entity?_eq_some found
      have positive := List.length_pos_iff.2 (named e there)
      simp only [List.length_cons, List.length_append] at lengths
      omega
    · intro free
      rw [(unreferring_cons.1 free).1 rfl] at found
      cases found
  | case3 cs none ih =>
    rw [unreferring_cons]
    simpa [none] using ih
  | case4 c cs plain ih =>
    rw [unreferring_cons]
    simpa [plain] using ih

lemma unreferring_of_bare (bare : '&' ∉ cs) : Unreferring known cs :=
  fun _ _ inside => bare (inside.subset List.mem_cons_self)

lemma escapeValue_cons (c : Char) (cs : List Char) :
    escapeValue (c :: cs) = valueEntity c ++ escapeValue cs := List.flatMap_cons

lemma escapeValue_append (cs cs' : List Char) :
    escapeValue (cs ++ cs') = escapeValue cs ++ escapeValue cs' := List.flatMap_append

/-- A character is written as it is or as an entity. -/
lemma valueEntity_cases (c : Char) :
    valueEntity c = [c] ∨ ∃ e ∈ writtenEntities, e.char = c ∧ valueEntity c = '&' :: e.name := by
  unfold valueEntity
  split
  · next same => exact .inr ⟨_, List.mem_cons_self, (eq_of_beq same).symm, rfl⟩
  split
  · next same =>
      exact .inr ⟨_, List.mem_cons_of_mem _ List.mem_cons_self, (eq_of_beq same).symm, rfl⟩
  split
  · next same =>
    exact .inr ⟨_, List.mem_cons_of_mem _ (List.mem_cons_of_mem _ List.mem_cons_self),
      (eq_of_beq same).symm, rfl⟩
  · exact .inl rfl

/-- Names are escaped to themselves, and escaping does not make any. -/
lemma after?_escape {name : List Char}
    (tidy : ∀ c ∈ name, c ≠ '&' ∧ valueEntity c = [c]) (cs : List Char) :
    after? name (escapeValue cs) = (after? name cs).map escapeValue := by
  induction name generalizing cs with
  | nil => rfl
  | cons n name ih =>
    obtain ⟨⟨bare, own⟩, tidy⟩ := List.forall_mem_cons.1 tidy
    cases cs with
    | nil => rfl
    | cons c cs =>
      rw [escapeValue_cons]
      obtain plain | ⟨e, -, rfl, written⟩ := valueEntity_cases c
      · rw [plain, List.singleton_append, after?, after?]
        split
        · exact ih tidy cs
        · rfl
      · have apart : n ≠ e.char := by
          rintro rfl
          rw [written] at own
          exact bare (List.cons.inj own).1.symm
        rw [written, List.cons_append, after?, after?, if_neg (by simpa using bare),
          if_neg (by simpa using apart)]
        rfl

lemma entity?_escape (tidy : ∀ e ∈ known, ∀ c ∈ e.name, c ≠ '&' ∧ valueEntity c = [c])
    (cs : List Char) :
    entity? known (escapeValue cs) = (entity? known cs).map fun found =>
      (found.1, escapeValue found.2) := by
  induction known with
  | nil => rfl
  | cons e known ih =>
    obtain ⟨first, tidy⟩ := List.forall_mem_cons.1 tidy
    simp only [entity?, List.findSome?_cons, after?_escape first cs] at ih ⊢
    cases after? e.name cs with
    | none => exact ih tidy
    | some rest => rfl

/-- What escaping writes for a character is read back as that character. -/
lemma entity?_written {e : Entity} (there : e ∈ writtenEntities) (rest : List Char) :
    entity? (writtenEntities ++ more) (e.name ++ rest) = some (e.char, rest) := by
  simp only [writtenEntities, List.mem_cons, List.not_mem_nil, or_false] at there
  obtain rfl | rfl | rfl := there <;> rfl

/-- Decoding what was escaped is the same as decoding the value itself. -/
lemma decoded_escape
    (tidy : ∀ e ∈ writtenEntities ++ more, ∀ c ∈ e.name, c ≠ '&' ∧ valueEntity c = [c])
    (cs : List Char) :
    decoded (writtenEntities ++ more) (escapeValue cs) = decoded (writtenEntities ++ more) cs := by
  fun_induction decoded (writtenEntities ++ more) cs with
  | case1 => exact decoded_nil
  | case2 cs d rest found shorter ih =>
    have found' : entity? (writtenEntities ++ more) (escapeValue cs) =
        some (d, escapeValue rest) := by
      rw [entity?_escape tidy, found]
      rfl
    exact (decoded_entity found').trans (congrArg (d :: ·) ih)
  | case3 cs none ih =>
    have none' : entity? (writtenEntities ++ more) (escapeValue cs) = .none := by
      rw [entity?_escape tidy, none]
      rfl
    exact (decoded_bare none').trans (congrArg ('&' :: ·) ih)
  | case4 c cs plain ih =>
    rw [escapeValue_cons]
    obtain own | ⟨e, there, rfl, written⟩ := valueEntity_cases c
    · rw [own, List.singleton_append, decoded_char plain, ih]
    · rw [written, List.cons_append, decoded_entity (entity?_written there _), ih]

/-- Entities that escaping writes might as well stand in the value. -/
lemma escapeValue_decoded (cs : List Char) :
    escapeValue (decoded writtenEntities cs) = escapeValue cs := by
  fun_induction decoded writtenEntities cs with
  | case1 => rfl
  | case2 cs d rest found shorter ih =>
    obtain ⟨e, there, rfl, rfl⟩ := entity?_eq_some found
    have written : valueEntity e.char = '&' :: e.name ∧ escapeValue e.name = e.name := by
      simp only [writtenEntities, List.mem_cons, List.not_mem_nil, or_false] at there
      obtain rfl | rfl | rfl := there <;> decide
    rw [escapeValue_cons, escapeValue_cons, escapeValue_append, ih, written.1, written.2]
    rfl
  | case3 cs none ih => rw [escapeValue_cons, escapeValue_cons, ih]
  | case4 c cs plain ih => rw [escapeValue_cons, escapeValue_cons, ih]

lemma escapeValue_inj {cs' : List Char} :
    escapeValue cs = escapeValue cs' ↔
    decoded writtenEntities cs = decoded writtenEntities cs' := by
  have tidy : ∀ e ∈ writtenEntities ++ [], ∀ c ∈ e.name, c ≠ '&' ∧ valueEntity c = [c] := by
    simp [writtenEntities, valueEntity]
  constructor
  · intro same
    have decoded_same := congrArg (decoded (writtenEntities ++ [])) same
    rwa [decoded_escape tidy, decoded_escape tidy, List.append_nil] at decoded_same
  · intro same
    rw [← escapeValue_decoded cs, same, escapeValue_decoded]

end Decoding

/-! ## Where values come from -/

section Origins

variable {line body title source : List Char}

/-- The values of a piece stand in a text. -/
def Quotes (cs : List Char) : Piece → Prop
  | .html h => ∀ source, .value source ∈ segments h → source <:+: cs
  | .marker _ => True

lemma Quotes.mono {cs cs' : List Char} {p : Piece} (quotes : Quotes cs p) (inside : cs <:+: cs') :
    Quotes cs' p := by
  cases p with
  | html h => exact fun source written => (quotes source written).trans inside
  | marker m => trivial

lemma quotes_char (c : Char) (cs : List Char) : Quotes cs (.html (.char c)) := by
  intro source written
  simp [segments] at written

/-- The values of the pieces of a text stand in it. -/
lemma quotes_pieces (cs : List Char) : ∀ p ∈ pieces cs, Quotes cs p := by
  have later {rest cs : List Char} (quotes : ∀ p ∈ pieces rest, Quotes rest p)
    (inside : rest <:+: cs) :
      ∀ p ∈ pieces rest, Quotes cs p := fun p there => (quotes p there).mono inside
  have next (c : Char) (cs : List Char) : cs <:+: c :: cs := (List.suffix_cons c cs).isInfix
  fun_induction pieces cs with
  | case1 => simp
  | case2 c cs _ body rest found _ ih =>
    have parts : cs = body ++ '\x60' :: rest := code?_eq_some found
    refine List.forall_mem_cons.2 ⟨fun source written => ?_, later ih ?_⟩
    · simp only [segments, List.mem_cons, reduceCtorEq, Segment.value.injEq, List.not_mem_nil,
        or_false, false_or] at written
      subst written
      exact ⟨[c], '\x60' :: rest, by simp [parts]⟩
    · exact ⟨c :: body ++ ['\x60'], [], by simp [parts]⟩
  | case3 c cs _ _ ih => exact List.forall_mem_cons.2 ⟨quotes_char c _, later ih (next c cs)⟩
  | case4 c _ _ inner alternative source rest found _ ih =>
    obtain ⟨parts, -⟩ := labelled?_eq_some found
    refine List.forall_mem_cons.2 ⟨fun value written => ?_, later ih ?_⟩
    · simp only [segments, List.mem_cons, reduceCtorEq, Segment.value.injEq, List.not_mem_nil,
        or_false, false_or] at written
      obtain rfl | rfl := written
      · exact ⟨c :: '[' :: alternative ++ [']', '('], ')' :: rest, by simp [parts]⟩
      · exact ⟨[c, '['], ']' :: '(' :: source ++ ')' :: rest, by simp [parts]⟩
    · exact ⟨c :: '[' :: alternative ++ ']' :: '(' :: source ++ [')'], [], by simp [parts]⟩
  | case5 c _ _ inner _ ih => exact List.forall_mem_cons.2 ⟨quotes_char c _, later ih (next c _)⟩
  | case6 c _ _ cs _ ih => exact List.forall_mem_cons.2 ⟨quotes_char c _, later ih (next c _)⟩
  | case7 c cs _ _ _ label target rest found _ inner ih =>
    obtain ⟨parts, -⟩ := labelled?_eq_some found
    refine List.forall_mem_cons.2 ⟨fun value written => ?_, later ih ?_⟩
    · simp only [segments, List.mem_cons, List.mem_append, reduceCtorEq, Segment.value.injEq,
        List.not_mem_nil, or_false,
        false_or, segmentsAll_nest] at written
      obtain rfl | written := written
      · exact ⟨c :: label ++ [']', '('], ')' :: rest, by simp [parts]⟩
      · obtain ⟨h, there, written⟩ := value_stream written
        refine (inner _ there value written).trans
          ⟨[c], ']' :: '(' :: target ++ ')' :: rest, by simp [parts]⟩
    · exact ⟨c :: label ++ ']' :: '(' :: target ++ [')'], [], by simp [parts]⟩
  | case8 c cs _ _ _ _ ih => exact List.forall_mem_cons.2 ⟨quotes_char c _, later ih (next c cs)⟩
  | case9 c cs _ _ _ m rest found _ ih =>
    exact List.forall_mem_cons.2
      ⟨trivial, later ih ((ofStart?_suffix found).isInfix.trans (next c cs))⟩
  | case10 c cs _ _ _ _ ih => exact List.forall_mem_cons.2 ⟨quotes_char c _, later ih (next c cs)⟩

/-- The values of a line stand in it. -/
lemma value_inlineHtml (written : .value source ∈ segmentsAll (inlineHtml line)) :
    source <:+: line := by
  rw [inlineHtml, segmentsAll_nest] at written
  obtain ⟨h, there, written⟩ := value_stream written
  exact quotes_pieces line _ there source written

lemma value_textLine (written : .value source ∈ segmentsAll (textLine line)) :
    source <:+: line := by
  unfold textLine at written
  split at written
  · next body eq =>
    rw [segmentsAll_append, List.mem_append] at written
    obtain written | written := written
    · refine (value_inlineHtml written).trans (List.reverse_infix.1 ?_)
      rw [List.reverse_reverse, eq]
      exact ⟨[' ', ' '], [], by simp⟩
    · simp [segmentsAll, segments] at written
  · exact value_inlineHtml written

/-- The values of some lines stand in one of them. -/
lemma value_blocks (afterText : Bool) (lines : List (List Char))
    (written : .value source ∈ segmentsAll (blocks afterText lines)) :
    ∃ line ∈ lines, source <:+: line := by
  have later {first : List Char} {lines lines' : List (List Char)}
    (found : ∃ line ∈ lines', source <:+: line)
    (inside : lines' ⊆ lines) : ∃ line ∈ first :: lines, source <:+: line := by
    obtain ⟨line, there, stands⟩ := found
    exact ⟨line, List.mem_cons_of_mem _ (inside there), stands⟩
  fun_induction blocks afterText lines with
  | case1 => simp [segmentsAll] at written
  | case2 afterText line rest kind next _ ih =>
    rw [segmentsAll_append, List.mem_append] at written
    obtain written | written := written
    · split at written <;> simp [segmentsAll, segments] at written
    · exact later (ih written) (List.dropWhile_sublist _).subset
  | case3 afterText line rest kind ih =>
    simp only [segmentsAll, segments, List.cons_append, List.nil_append, List.mem_cons,
      reduceCtorEq, false_or] at written
    exact later (ih written) (List.Subset.refl _)
  | case4 afterText line rest below title kind ih =>
    have inside := content_within line
    rw [kind] at inside
    simp only [segmentsAll, segments, List.cons_append, List.append_assoc, List.nil_append,
      List.mem_cons, List.mem_append,
      reduceCtorEq, false_or] at written
    obtain written | written := written
    · exact ⟨line, List.mem_cons_self, (value_inlineHtml written).trans inside⟩
    · exact later (ih written) (List.Subset.refl _)
  | case5 afterText line rest body kind _ _ inner ih =>
    have inside := content_within line
    rw [kind] at inside
    obtain ⟨collected, left⟩ := leading_spec quoteBody? rest
    simp only [segmentsAll, segments, List.cons_append, List.append_assoc, List.nil_append,
      List.mem_cons, List.mem_append,
      reduceCtorEq, false_or] at written
    obtain written | written := written
    · obtain ⟨b, there, stands⟩ := inner written
      obtain rfl | there := List.mem_cons.1 there
      · exact ⟨line, List.mem_cons_self, stands.trans inside⟩
      · obtain ⟨l, hl, found⟩ := collected b there
        exact ⟨l, List.mem_cons_of_mem _ hl, stands.trans (quoteBody?_within found)⟩
    · exact later (ih written) left
  | case6 afterText line rest ordered body kind _ bodies ih =>
    have inside := content_within line
    rw [kind] at inside
    obtain ⟨collected, left⟩ := leading_spec (itemOf ordered) rest
    simp only [segmentsAll, segments, List.cons_append, List.append_assoc, List.nil_append,
      List.mem_cons, List.mem_append,
      reduceCtorEq, false_or] at written
    obtain written | written := written
    · obtain ⟨item, there, written⟩ := mem_segmentsAll.1 written
      obtain ⟨b, among, rfl⟩ := List.mem_map.1 there
      simp only [segments, List.mem_cons, List.mem_append, reduceCtorEq, false_or, List.not_mem_nil,
        or_false] at written
      have stands : source <:+: b := value_inlineHtml written
      obtain rfl | further := List.mem_cons.1 among
      · exact ⟨line, List.mem_cons_self, stands.trans inside⟩
      · obtain ⟨l, hl, found⟩ := collected b further
        exact ⟨l, List.mem_cons_of_mem _ hl, stands.trans (itemOf_within found)⟩
    · exact later (ih written) left
  | case7 afterText line rest kind ih =>
    rw [segmentsAll_append, segmentsAll_append, List.mem_append, List.mem_append] at written
    obtain (written | written) | written := written
    · split at written <;> simp [segmentsAll, segments] at written
    · exact ⟨line, List.mem_cons_self, value_textLine written⟩
    · exact later (ih written) (List.Subset.refl _)

end Origins

section Spans

variable {body : List Char}

/-- What can stand between the marks of a code span. -/
def IsCodeBody (body : List Char) : Prop := body ≠ [] ∧ '\x60' ∉ body ∧ '\n' ∉ body

instance : DecidablePred IsCodeBody := fun _ => inferInstanceAs (Decidable (_ ∧ _))

def codeSpan (body : List Char) : List Char := '\x60' :: (body ++ ['\x60'])

lemma trim_codeSpan (body : List Char) : trim (codeSpan body) = codeSpan body := by
  have mark : isBlank '\x60' = false := by decide
  simp [trim, trimStart, trimEnd, codeSpan, mark]

lemma kind_codeSpan (body : List Char) : LineKind.of (codeSpan body) = .text := by
  have start : trimStart (codeSpan body) = codeSpan body := by
    have mark : isBlank '\x60' = false := by decide
    simp [trimStart, codeSpan, mark]
  have rule : isRule (codeSpan body) = false := by
    rw [isRule, trim_codeSpan]
    simp [codeSpan]
  have heading : heading? (codeSpan body) = none := by simp [heading?, codeSpan]
  have quote : quoteBody? (codeSpan body) = none := by
    rw [quoteBody?, start]
    rfl
  have item : listItem? (codeSpan body) = none := by
    have digits : ((codeSpan body).takeWhile Char.isDigit).isEmpty = true := by simp [codeSpan]
    rw [listItem?, start]
    exact if_pos digits
  rw [LineKind.of, trim_codeSpan, if_neg (by simp [codeSpan]), rule, if_neg (by decide),
    heading, quote, item]

lemma inlineHtml_codeSpan (isBody : IsCodeBody body) :
    inlineHtml (codeSpan body) = [.code body] := by
  obtain ⟨some, unmarked, -⟩ := isBody
  obtain ⟨c, cs, rfl⟩ := List.exists_cons_of_ne_nil some
  have found : code? ((c :: cs) ++ ['\x60']) = Option.some (c :: cs, []) := by
    rw [code?, cut?_append unmarked]
  have cut : pieces (codeSpan (c :: cs)) = [.html (.code (c :: cs))] := by
    unfold codeSpan pieces
    rw [if_pos (by decide)]
    split
    · next body rest other =>
      rw [found] at other
      cases other
      rw [pieces]
    · next none =>
      rw [found] at none
      cases none
  rw [inlineHtml, cut]
  rfl

lemma blocks_text {line : List Char} (kind : LineKind.of line = .text) :
    blocks false [line] = textLine line := by
  have last : blocks true [] = [] := by rw [blocks]
  rw [blocks]
  split
  case h_6 => simp [last]
  all_goals
    next other =>
    rw [kind] at other
    cases other

/-- A text that is one code span has no other parts. -/
lemma blocks_codeSpan (isBody : IsCodeBody body) :
    blocks false (splitLines (codeSpan body)) = [.code body] := by
  have single : '\n' ∉ codeSpan body := by
    simp [codeSpan, isBody.2.2]
  have last : (codeSpan body).reverse = '\x60' :: (body.reverse ++ ['\x60']) := by simp [codeSpan]
  rw [splitLines_of_line single, blocks_text (kind_codeSpan body), textLine, last]
  exact inlineHtml_codeSpan isBody

lemma value_codeSpan (isBody : IsCodeBody body) :
    .value body ∈ segmentsAll (blocks false (splitLines (codeSpan body))) := by
  rw [blocks_codeSpan isBody]
  exact List.mem_cons_of_mem _ List.mem_cons_self

lemma render_codeSpan (isBody : IsCodeBody body) : render (String.ofList (codeSpan body)) =
    String.ofList ("<code>".toList ++ escapeValue body ++ "</code>".toList) := by
  rw [render, String.toList_ofList, blocks_codeSpan isBody]
  exact congrArg String.ofList (List.append_nil _)

end Spans

/-- Each value that is written, escaped, stands in the text. Decoded, what is written for it is the
value with its own entities decoded, which is the value itself exactly if no entity stands in it.
Two code spans are rendered to the same markup exactly if they are the same up to the entities that
escaping writes. -/
theorem values_of_render (text : String) :
    let parts := segmentsAll (blocks false (splitLines text.toList))
    (render text).toList = parts.flatMap Segment.text ∧
      (∀ source, .value source ∈ parts → source <:+: text.toList ∧
        decoded entities (Segment.value source).text = decoded entities source ∧
        (decoded entities (Segment.value source).text = source ↔ Unreferring entities source)) ∧
      ∀ body body', IsCodeBody body → IsCodeBody body' →
        (render (String.ofList (codeSpan body)) = render (String.ofList (codeSpan body')) ↔
          decoded writtenEntities body = decoded writtenEntities body') := by
  intro parts
  have tidy : ∀ e ∈ writtenEntities ++ [⟨['a', 'm', 'p', ';'], '&'⟩], ∀ c ∈ e.name, c ≠ '&' ∧
      valueEntity c = [c] := by
    simp [writtenEntities, valueEntity]
  have named : ∀ e ∈ entities, e.name ≠ [] := by simp [entities, writtenEntities]
  refine ⟨?_, fun source written => ?_, fun body body' isBody isBody' => ?_⟩
  · rw [text_segmentsAll, render, String.toList_ofList]
  · obtain ⟨line, there, stands⟩ := value_blocks false _ written
    have same : decoded entities (Segment.value source).text = decoded entities source :=
      decoded_escape tidy source
    refine ⟨stands.trans (splitLines_within there), same, ?_⟩
    rw [same]
    exact decoded_eq_self named
  · rw [render_codeSpan isBody, render_codeSpan isBody', String.ofList_inj, List.append_left_inj,
      List.append_right_inj]
    exact escapeValue_inj

/-- A body with quotes and brackets comes back, and other code spans are rendered to other
markup. -/
theorem values_of_quoted_code :
    let source := "<a \"b\">".toList
    .value source ∈ segmentsAll (blocks false (splitLines (codeSpan source))) ∧
      decoded entities (Segment.value source).text = source ∧ IsCodeBody source ∧
      IsCodeBody "<a 'b'>".toList ∧
      render (String.ofList (codeSpan source)) ≠
        render (String.ofList (codeSpan "<a 'b'>".toList)) := by
  intro source
  obtain ⟨-, values, spans⟩ := values_of_render (String.ofList (codeSpan source))
  have isBody : IsCodeBody source := by decide
  have isBody' : IsCodeBody "<a 'b'>".toList := by decide
  have written := value_codeSpan isBody
  have free : Unreferring entities source := unreferring_of_bare (by decide)
  rw [String.toList_ofList] at values
  refine ⟨written, (values source written).2.2.2 free, isBody, isBody', fun same => ?_⟩
  have named : ∀ e ∈ writtenEntities, e.name ≠ [] := by simp [writtenEntities]
  have bodies := (spans _ _ isBody isBody').1 same
  rw [(decoded_eq_self named).2 (unreferring_of_bare (by decide)),
    (decoded_eq_self named).2 (unreferring_of_bare (by decide))] at bodies
  exact absurd bodies (by decide)

/-- A code span that reads like an entity is rendered to the same markup as one with the character
itself. -/
theorem code_spans_collide :
    "<".toList ≠ "&lt;".toList ∧
      render (String.ofList (codeSpan "<".toList)) =
        render (String.ofList (codeSpan "&lt;".toList)) ∧
      .value "&lt;".toList ∈ segmentsAll (blocks false (splitLines (codeSpan "&lt;".toList))) ∧
      decoded entities (Segment.value "&lt;".toList).text = "<".toList := by
  refine ⟨by decide, ?_, value_codeSpan (by decide), by cbv⟩
  rw [render_codeSpan (by decide), render_codeSpan (by decide)]
  exact congrArg String.ofList (by decide)

end LayeredPage.Proofs
