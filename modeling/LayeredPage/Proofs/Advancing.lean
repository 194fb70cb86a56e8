import LayeredPage.Proofs.Scanning
import LayeredPage.Proofs.Stripping

/-!
# Getting ahead

A text is rendered here line by line as a loop over its lines, and the loops inside it go on with
the same index. It fails where a line is cut inside a character or off its end, where a round does
not get a line ahead, and where it would go on with the text of a quotation that is not shorter. The
markup of an editable element is cut in the same way. Neither fails, and both give what the library
gives.
-/

namespace LayeredPage.Markdown

open Text

def isRuleAt (line : List Char) : Bool :=
  let inner := trim line
  3 ≤ size inner && (bytes inner).all (· == byteOf '-')

/-- The level of a heading and its title. -/
def headingAt? (line : List Char) : Option (Option (Nat × List Char)) :=
  let level := ((bytes line).takeWhile (· == byteOf '#')).length
  if 1 ≤ level ∧ level ≤ 6 then do
    return (after? [' '] (← beyond? level line)).map fun title => (level, trim title)
  else some none

/-- Whether an item is ordered, and its body. -/
def itemAt? (line : List Char) : Option (Option (Bool × List Char)) :=
  let line := trimStart line
  match [['-', ' '], ['*', ' '], ['+', ' ']].findSome? (after? · line) with
  | some body => some (some (false, trimStart body))
  | none =>
    let digits := ((bytes line).takeWhile fun b => 0x30 ≤ b && b ≤ 0x39).length
    if 0 < digits then do
      return (after? ['.', ' '] (← beyond? digits line)).map fun body => (true, trimStart body)
    else some none

/-- The body of an item of the sort of a list. -/
def itemOfAt? (ordered : Bool) (line : List Char) : Option (Option (List Char)) := do
  return (← itemAt? line).bind fun item => if item.1 = ordered then some item.2 else none

def addItem? (written body : List Char) : Option (List Char) := do
  return written ++ ("<li>".toList ++ (← scanLine? body) ++ "</li>".toList)

/-- Goes on through lines as long as `f` finds something in them. -/
def gather? {β γ : Type} (f : List Char → Option (Option β)) (add : γ → β → Option γ)
    (lines : List (List Char)) (start : Nat × γ) :
    Option (Nat × γ) :=
  untilDone (fun s => lines.length - s.1) (fun s => do
    match lines[s.1]? with
    | none => return .inr s
    | some line =>
      match ← f line with
      | none => return .inr s
      | some b => return .inl (s.1 + 1, ← add s.2 b)) start

def blankLine? (line : List Char) : Option Unit := if isBlankLine line then some () else none

/-- The text of a quotation with one more line. -/
def quoting (inner body : List Char) : List Char :=
  (if inner.isEmpty then inner else inner ++ ['\n']) ++ body

structure BlockScan where
  position : Nat
  afterText : Bool
  written : List Char

/-- Goes on through the lines that belong together with the line at the index; `nested` renders
quotations. -/
def BlockScan.block? (nested : List Char → Option (List Char)) (lines : List (List Char))
    (s : BlockScan) (line : List Char) : Option BlockScan := do
  if isBlankLine line then
    let (next, _) ←
      gather? (fun line => some (blankLine? line)) (fun _ _ => some ()) lines (s.position, ())
    return ⟨next, false,
      s.written ++ if s.afterText ∧ next < lines.length then "<br />".toList else []⟩
  else if isRuleAt line then return ⟨s.position + 1, false, s.written ++ "<hr />".toList⟩
  else
    match ← headingAt? line with
    | some (level, title) =>
      let name := 'h' :: Nat.toDigits 10 level
      return ⟨s.position + 1, false,
        s.written ++ ('<' :: name ++ ['>'] ++ (← scanLine? title) ++ ('<' :: '/' :: name ++ ['>']))⟩
    | none =>
      if (quoteBody? line).isSome then
        let (next, inner) ←
          gather? (fun line => some (quoteBody? line)) (fun inner body => some (quoting inner body))
            lines (s.position, [])
        return ⟨next, false,
          s.written ++ ("<blockquote>".toList ++ (← nested inner) ++ "</blockquote>".toList)⟩
      else
        match ← itemAt? line with
        | some (ordered, _) =>
          let name := if ordered then "ol".toList else "ul".toList
          let (next, written) ← gather? (itemOfAt? ordered) addItem? lines
            (s.position, s.written ++ ('<' :: name ++ ['>']))
          return ⟨next, false, written ++ ('<' :: '/' :: name ++ ['>'])⟩
        | none =>
          let written := s.written ++ if s.afterText then ['\n'] else []
          match after? [' ', ' '] line.reverse with
          | some body =>
            return ⟨s.position + 1, true,
              written ++ ((← scanLine? body.reverse) ++ "<br />".toList)⟩
          | none => return ⟨s.position + 1, true, written ++ (← scanLine? line)⟩

def BlockScan.round? (nested : List Char → Option (List Char))
    (lines : List (List Char)) (s : BlockScan) : Option (BlockScan ⊕ List Char) :=
  match lines[s.position]? with
  | none => some (.inr s.written)
  | some line => (s.block? nested lines line).map .inl

def trimFeeds (text : List Char) : List Char := (text.dropWhile (· == '\n')).rdropWhile (· == '\n')

def renderLines? (text : List Char) : Option (List Char) :=
  let lines := splitLines (trimFeeds text)
  untilDone (fun s : BlockScan => lines.length - s.position)
    (BlockScan.round?
      (fun inner => if size inner < size text then renderLines? inner else none) lines)
    ⟨0, false, []⟩
termination_by size text

/-- The small letter of a byte that stands for a capital one. -/
def lowerByte (b : UInt8) : UInt8 := if 0x41 ≤ b && b ≤ 0x5A then b + 0x20 else b

def startsWithBytes? (letters : List Char) (cs : List Char) : Option Bool :=
  if size letters ≤ size cs then do
    return (← firstBytes? (size letters) (bytes cs)).map lowerByte == (bytes letters).map lowerByte
  else some false

def isBreakTagAt? (tag : List Char) : Option Bool := do
  if ← startsWithBytes? ['b', 'r'] tag then
    return (← beyond? 2 tag).all fun c => isMarkupBlank c || c == '/'
  else return false

/-- What becomes of some markup up to its next tag. -/
def tagRound? (s : List Char × List Char) : Option ((List Char × List Char) ⊕ List Char) := do
  let (rest, written) := s
  match offset? '<' rest with
  | none => return .inr (written ++ rest)
  | some opening =>
    let plain ← upTo? opening rest
    let after ← beyond? (opening + 1) rest
    match (offset? '>' after).filter (0 < ·) with
    | none => return .inl (after, written ++ plain ++ ['<'])
    | some closing =>
      let tag ← upTo? closing after
      let feeds :=
        (← isBreakTagAt? tag) || (← startsWithBytes? ['p'] tag) ||
          (← startsWithBytes? ['d', 'i', 'v'] tag)
      return .inl (← beyond? (closing + 1) after, written ++ plain ++ if feeds then ['\n'] else [])

def stripTags? (html : List Char) : Option (List Char) :=
  untilDone (fun s => size s.1) tagRound? (html, [])

end LayeredPage.Markdown

namespace LayeredPage.Proofs

open Text Markdown

section Lines

variable {line : List Char} {c x : Char}

lemma all_bytes (ascii : x.toNat < 128) (cs : List Char) :
    (bytes cs).all (· == byteOf x) = cs.all (· == x) ∧
    (cs.all (· == x) = true → size cs = cs.length) := by
  induction cs with
  | nil => exact ⟨rfl, fun _ => rfl⟩
  | cons c cs ih =>
    rw [bytes_cons, List.all_cons, List.all_cons]
    by_cases same : c = x
    · subst same
      obtain ⟨byte, one⟩ := lead_of_ascii ascii
      have alone : (String.utf8EncodeChar c).tail = [] := by
        rw [← List.length_eq_zero_iff, List.length_tail, String.length_utf8EncodeChar, one]
      rw [alone, List.nil_append, byte, ih.1, size_cons, List.length_cons, one]
      refine ⟨by simp, fun all => ?_⟩
      rw [ih.2 (by simpa using all), Nat.add_comm]
    · have apart : (lead c == byteOf x) = false := by simpa [lead_eq_iff ascii] using same
      simp [apart, same]

lemma isRuleAt_eq (line : List Char) : isRuleAt line = isRule line := by
  obtain ⟨all, sized⟩ := all_bytes (x := '-') (by decide) (trim line)
  unfold isRuleAt isRule
  dsimp only
  rw [all]
  cases rule : (trim line).all (· == '-') with
  | false => simp
  | true => rw [sized rule]

/-- What follows the characters of some kind at the start of a text is found by counting bytes. -/
lemma beyond?_takeWhile {p : UInt8 → Bool} {q : Char → Bool} (agree : ∀ c, p (lead c) = q c)
    (ascii : ∀ c, q c = true → c.toNat < 128) (cs : List Char) :
    ((bytes cs).takeWhile p).length = (cs.takeWhile q).length ∧
      beyond? ((bytes cs).takeWhile p).length cs = some (cs.dropWhile q) := by
  obtain ⟨counted, sized⟩ := length_takeWhile_bytes p q agree ascii cs
  have joined := beyond?_append (cs.takeWhile q) (cs.dropWhile q)
  rw [List.takeWhile_append_dropWhile, ← counted] at joined
  exact ⟨counted.trans sized, joined⟩

lemma headingAt?_eq (line : List Char) :
    headingAt? line = some ((heading? line).map fun (below, title) => (below.val + 1, title)) := by
  have agree (c : Char) : (lead c == byteOf '#') = (c == '#') :=
    beq_eq_beq.2 (lead_eq_iff (by decide))
  have ascii (c : Char) (same : (c == '#') = true) : c.toNat < 128 := by
    rw [eq_of_beq same]
    decide
  obtain ⟨counted, rest⟩ := beyond?_takeWhile (p := (· == byteOf '#')) agree ascii line
  unfold headingAt? heading?
  dsimp only
  rw [rest, counted]
  split
  · next level =>
    simp only [Option.bind_eq_bind, Option.bind_some, Option.pure_def, after?_singleton]
    cases line.dropWhile (· == '#') with
    | nil => rfl
    | cons c title =>
      by_cases space : c = ' '
      · subst space
        simp only [List.head?_cons, if_pos, List.tail_cons, Option.map_some, Option.some.injEq,
          Prod.mk.injEq, and_true]
        omega
      · simp [space]
  · rfl

lemma isDigit_iff (c : Char) : c.isDigit = true ↔ 48 ≤ c.toNat ∧ c.toNat ≤ 57 := by
  simp only [Char.isDigit, Bool.and_eq_true, decide_eq_true_eq, ge_iff_le, UInt32.le_iff_toNat_le]
  rfl

/-- A byte is that of a digit if its character is one. -/
lemma digit_lead (c : Char) : (decide (0x30 ≤ lead c) && decide (lead c ≤ 0x39)) = c.isDigit := by
  rw [Bool.eq_iff_iff, isDigit_iff, Bool.and_eq_true, decide_eq_true_iff, decide_eq_true_iff,
    UInt8.le_iff_toNat_le, UInt8.le_iff_toNat_le]
  have low : (0x30 : UInt8).toNat = 48 := rfl
  have high : (0x39 : UInt8).toNat = 57 := rfl
  by_cases ascii : c.toNat < 128
  · rw [(lead_of_ascii ascii).1, byteOf, UInt8.toNat_ofNat']
    omega
  · have wide := lead_of_wide ascii
    omega

lemma itemAt?_eq (line : List Char) : itemAt? line = some (listItem? line) := by
  have ascii (c : Char) (digit : c.isDigit = true) : c.toNat < 128 := by
    have range := (isDigit_iff c).1 digit
    omega
  obtain ⟨counted, rest⟩ :=
    beyond?_takeWhile (p := fun b => 0x30 ≤ b && b ≤ 0x39) digit_lead ascii (trimStart line)
  unfold itemAt? listItem?
  dsimp only
  rw [rest, counted]
  clear rest counted
  generalize trimStart line = start
  cases found : [['-', ' '], ['*', ' '], ['+', ' ']].findSome? (after? · start) with
  | some body =>
    obtain ⟨mark, bullet, here⟩ := List.exists_of_findSome?_eq_some found
    obtain rfl := after?_eq_some.1 here
    simp only [List.mem_cons, List.not_mem_nil, or_false] at bullet
    rcases bullet with rfl | rfl | rfl <;> rfl
  | none =>
    have plain := List.findSome?_eq_none_iff.1 found
    symm
    split
    · simp [after?] at plain
    · simp [after?] at plain
    · simp [after?] at plain
    · cases start.takeWhile Char.isDigit with
      | nil => rfl
      | cons c digits =>
        rw [if_neg (by simp)]
        simp only [List.length_cons, Nat.zero_lt_succ, if_true, Option.bind_eq_bind,
          Option.bind_some, Option.pure_def]
        cases point : after? ['.', ' '] (start.dropWhile Char.isDigit) with
        | some body => rw [after?_eq_some.1 point]; rfl
        | none =>
          split
          · next same =>
            simp [same, after?] at point
          · rfl

end Lines

section Gathering

variable {β γ : Type} {lines rest : List (List Char)} {line : List Char} {i : Nat}

lemma drop_of_getElem? (there : lines[i]? = some line) :
    lines.drop i = line :: lines.drop (i + 1) ∧ i < lines.length := by
  obtain ⟨within, same⟩ := List.getElem?_eq_some_iff.1 there
  exact ⟨same ▸ List.drop_eq_getElem_cons within, within⟩

lemma leading_cons_some {g : List Char → Option β} {b : β} (found : g line = some b)
    (rest : List (List Char)) :
    leading g (line :: rest) = (b :: (leading g rest).1, (leading g rest).2) := by
  rw [leading, found]

lemma leading_cons_none {g : List Char → Option β} (nothing : g line = none)
    (rest : List (List Char)) :
    leading g (line :: rest) = ([], line :: rest) := by
  rw [leading, nothing]

lemma drop_leading (g : List Char → Option β) (lines : List (List Char)) :
    lines.drop (leading g lines).1.length = (leading g lines).2 := by
  induction lines with
  | nil => rfl
  | cons line rest ih =>
    cases found : g line with
    | none =>
      rw [leading_cons_none found]
      rfl
    | some b =>
      rw [leading_cons_some found]
      exact ih

/-- A loop through lines comes as far as something is found, and takes all of it. -/
lemma gather?_eq {f : List Char → Option (Option β)} {add : γ → β → Option γ}
    {g : List Char → Option β} {plus : γ → β → γ}
    (finds : ∀ line, f line = some (g line)) (adds : ∀ a b, add a b = some (plus a b))
    (lines : List (List Char)) (i : Nat) (a : γ) :
    gather? f add lines (i, a) =
      some (i + (leading g (lines.drop i)).1.length,
        (leading g (lines.drop i)).1.foldl plus a) := by
  refine untilDone_eq_some (fun s : Nat × γ => s.1 + (leading g (lines.drop s.1)).1.length =
    i + (leading g (lines.drop i)).1.length ∧
    (leading g (lines.drop s.1)).1.foldl plus s.2 =
      (leading g (lines.drop i)).1.foldl plus a) ?_ ⟨rfl, rfl⟩
  rintro ⟨j, taken⟩ ⟨position, all⟩
  rw [← position, ← all]
  dsimp only at position all ⊢
  cases there : lines[j]? with
  | none =>
    left
    rw [List.drop_eq_nil_of_le (List.getElem?_eq_none_iff.1 there)]
    rfl
  | some line =>
    obtain ⟨split, within⟩ := drop_of_getElem? there
    rw [split] at position all ⊢
    simp only [finds, Option.bind_eq_bind, Option.bind_some, Option.pure_def]
    cases found : g line with
    | none =>
      left
      rw [leading_cons_none found]
      rfl
    | some b =>
      right
      rw [leading_cons_some found] at position all ⊢
      refine ⟨(j + 1, plus taken b), by simp [adds], by dsimp only; omega, ?_, ?_⟩
      · rw [List.length_cons]
        dsimp only
        omega
      · rw [List.foldl_cons]

end Gathering

section Blocks

variable {line body title : List Char} {lines rest : List (List Char)}
  {afterText ordered : Bool} {below : Fin 6}
  {nested : List Char → Option (List Char)} {s : BlockScan}

lemma writeAll_append (hs hs' : List Html) :
    Html.writeAll (hs ++ hs') = Html.writeAll hs ++ Html.writeAll hs' := by
  rw [← text_segmentsAll, segmentsAll_append, List.flatMap_append,
    text_segmentsAll, text_segmentsAll]

/-- What the first line, with those that belong to it, becomes. -/
lemma blocks_cons (afterText : Bool) (line : List Char) (rest : List (List Char)) :
    blocks afterText (line :: rest) =
    match LineKind.of line with
    | .blank =>
      (if afterText && !(rest.dropWhile isBlankLine).isEmpty then [.lineBreak] else []) ++
        blocks false (rest.dropWhile isBlankLine)
    | .rule => .rule :: blocks false rest
    | .heading below title => .element (.heading below) (inlineHtml title) :: blocks false rest
    | .quote body =>
      .element .blockquote (blocks false (body :: (leading quoteBody? rest).1)) ::
        blocks false (leading quoteBody? rest).2
    | .item ordered body =>
      .element (if ordered then .orderedList else .unorderedList)
          ((body :: (leading (itemOf ordered) rest).1).map fun b =>
            .element .item (inlineHtml b)) ::
        blocks false (leading (itemOf ordered) rest).2
    | .text => (if afterText then [.char '\n'] else []) ++ textLine line ++ blocks true rest := by
  rw [blocks]
  split
  all_goals
    next kind =>
    simp only [kind]

lemma dropWhile_eq_leading (lines : List (List Char)) :
    lines.dropWhile isBlankLine = (leading blankLine? lines).2 := by
  induction lines with
  | nil => rfl
  | cons line rest ih =>
    rw [List.dropWhile_cons]
    split
    · next blank => rw [leading_cons_some (if_pos blank), ih]
    · next blank => rw [leading_cons_none (if_neg blank)]

lemma itemOfAt?_eq (ordered : Bool) (line : List Char) :
    itemOfAt? ordered line = some (itemOf ordered line) := by
  rw [itemOfAt?, itemAt?_eq, itemOf]
  cases listItem? line with
  | none => rfl
  | some item => simp

lemma addItem?_eq (written body : List Char) :
    addItem? written body = some (written ++ (Html.element .item (inlineHtml body)).write) := by
  rw [addItem?, scanLine?_eq]
  rfl

lemma foldl_items (bodies : List (List Char)) (written : List Char) :
    bodies.foldl
      (fun written body => written ++ (Html.element .item (inlineHtml body)).write) written =
      written ++ Html.writeAll (bodies.map fun b => .element .item (inlineHtml b)) := by
  induction bodies generalizing written with
  | nil => exact (List.append_nil _).symm
  | cons b bodies ih => rw [List.foldl_cons, ih, List.map_cons, Html.writeAll, List.append_assoc]

/-- Some lines become trees, and the loop goes on behind them. -/
structure Advances (lines : List (List Char)) (s : BlockScan) (line : List Char)
    (s' : BlockScan) (hs : List Html) (taken : Nat) : Prop where
  position : s'.position = s.position + 1 + taken
  written : s'.written = s.written ++ Html.writeAll hs
  trees : blocks s.afterText (line :: lines.drop (s.position + 1)) =
    hs ++ blocks s'.afterText (lines.drop s'.position)

lemma kind_of (line : List Char) : LineKind.of line =
    if isBlankLine line then .blank
    else if isRule line then .rule
    else
      match heading? line with
      | some (below, title) => .heading below title
      | none =>
        match quoteBody? line with
        | some body => .quote body
        | none =>
          match listItem? line with
          | some (ordered, body) => .item ordered body
          | none => .text := rfl

/-- What a line's block becomes, the loop going on behind it. -/
def BlockAdvances (nested : List Char → Option (List Char)) (lines : List (List Char))
    (s : BlockScan) (line : List Char) : Prop :=
  ∃ s' hs taken, s.block? nested lines line = some s' ∧ Advances lines s line s' hs taken

/-- What is left behind the lines that belong to the first one. -/
lemma drop_behind {β : Type} (g : List Char → Option β)
    (lines : List (List Char)) (position : Nat) :
    lines.drop (position + 1 + (leading g (lines.drop (position + 1))).1.length) =
      (leading g (lines.drop (position + 1))).2 := by
  rw [← List.drop_drop, drop_leading]

lemma add_length_cons {β : Type} (position : Nat) (b : β) (bs : List β) :
    position + (b :: bs).length = position + 1 + bs.length := by
  rw [List.length_cons]
  omega

/-- Blank lines separate: they leave a break behind text, if anything follows. -/
lemma advances_blank (there : lines[s.position]? = some line) (blank : isBlankLine line = true) :
    BlockAdvances nested lines s line := by
  obtain ⟨split, -⟩ := drop_of_getElem? there
  have kind := kind_of line
  rw [if_pos blank] at kind
  unfold BlockAdvances BlockScan.block?
  rw [if_pos blank, gather?_eq (fun _ => rfl) (fun _ _ => rfl), split,
    leading_cons_some (if_pos blank), add_length_cons]
  refine ⟨_, if s.afterText ∧
    s.position + 1 + (leading blankLine? (lines.drop (s.position + 1))).1.length < lines.length
    then [.lineBreak] else [],
    (leading blankLine? (lines.drop (s.position + 1))).1.length, rfl, rfl, ?_, ?_⟩
  · dsimp only
    split
    · exact congrArg (s.written ++ ·) (List.append_nil _).symm
    · rfl
  · dsimp only
    rw [blocks_cons, kind, drop_behind]
    dsimp only
    rw [dropWhile_eq_leading]
    refine congrArg (· ++ _) (if_congr ?_ rfl rfl)
    rw [← drop_behind, Bool.and_eq_true, Bool.not_eq_true', ← Bool.not_eq_true, List.isEmpty_iff,
      List.drop_eq_nil_iff, not_le]

section Others

variable (blank : ¬isBlankLine line) (rule : ¬isRule line) (untitled : heading? line = none)
include blank rule untitled

/-- A quotation takes the lines that go on quoting. -/
lemma advances_quote (there : lines[s.position]? = some line)
    (quotes : ∀ i, (leading quoteBody? (lines.drop i)).1 ≠ [] →
      nested ((leading quoteBody? (lines.drop i)).1.foldl quoting []) =
        some (Html.writeAll (blocks false (leading quoteBody? (lines.drop i)).1)))
    (quote : quoteBody? line = some body) : BlockAdvances nested lines s line := by
  obtain ⟨split, -⟩ := drop_of_getElem? there
  have kind := kind_of line
  rw [if_neg blank, if_neg rule, untitled, quote] at kind
  have first := quotes s.position
  rw [split, leading_cons_some quote] at first
  unfold BlockAdvances BlockScan.block?
  rw [if_neg blank, isRuleAt_eq, if_neg rule, headingAt?_eq, untitled]
  simp only [Option.map_none, Option.bind_eq_bind, Option.bind_some]
  rw [quote, if_pos (by rfl), gather?_eq (fun _ => rfl) (fun _ _ => rfl), split,
    leading_cons_some quote, add_length_cons]
  simp only [Option.bind_some, first (List.cons_ne_nil _ _)]
  refine ⟨_,
    [.element .blockquote
      (blocks false (body :: (leading quoteBody? (lines.drop (s.position + 1))).1))],
    (leading quoteBody? (lines.drop (s.position + 1))).1.length, rfl, rfl, ?_, ?_⟩
  · exact congrArg (s.written ++ ·) (List.append_nil _).symm
  · dsimp only
    rw [blocks_cons, kind, drop_behind]
    rfl

/-- A list takes the lines that are items of the same kind. -/
lemma advances_item (there : lines[s.position]? = some line) (unquoted : quoteBody? line = none)
    (item : listItem? line = some (ordered, body)) : BlockAdvances nested lines s line := by
  obtain ⟨split, -⟩ := drop_of_getElem? there
  have kind := kind_of line
  rw [if_neg blank, if_neg rule, untitled, unquoted, item] at kind
  have first : itemOf ordered line = some body := by simp [itemOf, item]
  unfold BlockAdvances BlockScan.block?
  rw [if_neg blank, isRuleAt_eq, if_neg rule, headingAt?_eq, untitled]
  simp only [Option.map_none, Option.bind_eq_bind, Option.bind_some]
  rw [unquoted, if_neg (by simp), itemAt?_eq, item]
  simp only [Option.bind_some]
  rw [gather?_eq (itemOfAt?_eq ordered) addItem?_eq, split,
    leading_cons_some first, add_length_cons]
  refine ⟨_, [.element (if ordered then .orderedList else .unorderedList)
      ((body :: (leading (itemOf ordered) (lines.drop (s.position + 1))).1).map fun b =>
        .element .item (inlineHtml b))],
    (leading (itemOf ordered) (lines.drop (s.position + 1))).1.length, rfl, rfl, ?_, ?_⟩
  · dsimp only
    rw [foldl_items]
    cases ordered
    all_goals
      refine Eq.trans ?_ (congrArg (s.written ++ ·) (List.append_nil _).symm)
      rw [List.append_assoc, List.append_assoc]
      exact congrArg (s.written ++ ·) (List.append_assoc _ _ _).symm
  · dsimp only
    rw [blocks_cons, kind, drop_behind]
    rfl

/-- A line of text stands alone, behind a line feed if text comes before it. -/
lemma advances_text (unquoted : quoteBody? line = none) (unlisted : listItem? line = none) :
    BlockAdvances nested lines s line := by
  have kind := kind_of line
  rw [if_neg blank, if_neg rule, untitled, unquoted, unlisted] at kind
  have ends : after? [' ', ' '] line.reverse = none ∧ textLine line = inlineHtml line ∨
      ∃ body, after? [' ', ' '] line.reverse = some body ∧
        textLine line = inlineHtml body.reverse ++ [.lineBreak] := by
    unfold textLine
    split
    · next body same => exact .inr ⟨body, after?_eq_some.2 same, rfl⟩
    · next other =>
      exact .inl ⟨Option.eq_none_iff_forall_ne_some.2 fun cs found =>
        other cs (after?_eq_some.1 found), rfl⟩
  have feed : Html.writeAll (if s.afterText = true then [.char '\n'] else []) = if s.afterText =
      true then ['\n'] else [] := by
    cases s.afterText <;> rfl
  unfold BlockAdvances BlockScan.block?
  rw [if_neg blank, isRuleAt_eq, if_neg rule, headingAt?_eq, untitled]
  simp only [Option.map_none, Option.bind_eq_bind, Option.bind_some]
  rw [unquoted, if_neg (by simp), itemAt?_eq, unlisted]
  simp only [Option.bind_some, scanLine?_eq]
  obtain ⟨after, whole⟩ | ⟨body, after, whole⟩ := ends
  all_goals
    rw [after]
    refine ⟨_, (if s.afterText then [.char '\n'] else []) ++ textLine line, 0, rfl, rfl, ?_,
      by rw [blocks_cons, kind]⟩
    rw [whole, writeAll_append, feed, ← List.append_assoc]
  rw [writeAll_append]
  dsimp only
  simp only [List.append_assoc]
  rfl

end Others

lemma block?_advances (there : lines[s.position]? = some line)
    (quotes : ∀ i, (leading quoteBody? (lines.drop i)).1 ≠ [] →
      nested ((leading quoteBody? (lines.drop i)).1.foldl quoting []) =
        some (Html.writeAll (blocks false (leading quoteBody? (lines.drop i)).1))) :
    BlockAdvances nested lines s line := by
  have kind := kind_of line
  by_cases blank : isBlankLine line = true
  · exact advances_blank there blank
  by_cases rule : isRule line = true
  · rw [if_neg blank, if_pos rule] at kind
    unfold BlockAdvances BlockScan.block?
    rw [if_neg blank, isRuleAt_eq, if_pos rule]
    exact ⟨_, [.rule], 0, rfl, rfl, rfl, by rw [blocks_cons, kind]; rfl⟩
  cases title : heading? line with
  | some heading =>
    obtain ⟨below, name⟩ := heading
    rw [if_neg blank, if_neg rule, title] at kind
    unfold BlockAdvances BlockScan.block?
    rw [if_neg blank, isRuleAt_eq, if_neg rule, headingAt?_eq, title]
    simp only [Option.map_some, Option.bind_eq_bind, Option.bind_some, scanLine?_eq]
    exact ⟨_, [.element (.heading below) (inlineHtml name)], 0, rfl, rfl,
      congrArg (s.written ++ ·) (List.append_nil _).symm,
      by rw [blocks_cons, kind]; rfl⟩
  | none =>
    cases quote : quoteBody? line with
    | some body => exact advances_quote blank rule title there quotes quote
    | none =>
      cases item : listItem? line with
      | some parts => exact advances_item blank rule title there quote item
      | none => exact advances_text blank rule title quote item

/-- The loop over the lines has written what comes before the lines that are left. -/
def Written (lines : List (List Char)) (total : List Char) (s : BlockScan) : Prop :=
  s.written ++ Html.writeAll (blocks s.afterText (lines.drop s.position)) = total

lemma Written.round {total : List Char} (written : Written lines total s)
    (quotes : ∀ i, (leading quoteBody? (lines.drop i)).1 ≠ [] →
      nested ((leading quoteBody? (lines.drop i)).1.foldl quoting []) =
        some (Html.writeAll (blocks false (leading quoteBody? (lines.drop i)).1))) :
    s.round? nested lines = some (.inr total) ∨
      ∃ s', s.round? nested lines = some (.inl s') ∧
        lines.length - s'.position < lines.length - s.position ∧ Written lines total s' := by
  rw [BlockScan.round?]
  cases there : lines[s.position]? with
  | none =>
    left
    rw [Written, List.drop_eq_nil_of_le (List.getElem?_eq_none_iff.1 there), blocks, Html.writeAll,
      List.append_nil] at written
    rw [written]
  | some line =>
    right
    obtain ⟨split, within⟩ := drop_of_getElem? there
    obtain ⟨s', hs, taken, goes, advances⟩ := block?_advances there quotes
    refine ⟨s', by simp only [goes, Option.map_some], ?_, ?_⟩
    · rw [advances.position]
      omega
    · rw [Written, split, advances.trees, writeAll_append, ← List.append_assoc,
        ← advances.written] at written
      exact written

end Blocks

section Trimming

variable {line : List Char} {lines rest bodies : List (List Char)} {afterText : Bool}

lemma splitLines_append (cs cs' : List Char) :
    splitLines (cs ++ '\n' :: cs') = splitLines cs ++ splitLines cs' := by
  induction cs with
  | nil => rfl
  | cons c cs ih =>
    rw [List.cons_append, splitLines, splitLines, ih]
    split
    · rfl
    · obtain ⟨first, more, same⟩ := List.exists_cons_of_ne_nil (intercalate_splitLines cs).2
      rw [same]
      rfl

lemma notMem_of_splitLines (cs : List Char) : ∀ line ∈ splitLines cs, '\n' ∉ line := by
  induction cs with
  | nil => simp [splitLines]
  | cons c cs ih =>
    obtain ⟨first, more, same⟩ := List.exists_cons_of_ne_nil (intercalate_splitLines cs).2
    rw [same] at ih
    rw [splitLines, same]
    split
    · exact List.forall_mem_cons.2 ⟨List.not_mem_nil, ih⟩
    · next other =>
      obtain ⟨single, ih⟩ := List.forall_mem_cons.1 ih
      refine List.forall_mem_cons.2 ⟨fun feed => ?_, ih⟩
      obtain rfl | feed := List.mem_cons.1 feed
      · exact other rfl
      · exact single feed

lemma sum_size_splitLines (cs : List Char) : ((splitLines cs).map size).sum ≤ size cs := by
  induction cs with
  | nil => exact Nat.le_refl _
  | cons c cs ih =>
    obtain ⟨first, more, same⟩ := List.exists_cons_of_ne_nil (intercalate_splitLines cs).2
    rw [same] at ih
    rw [splitLines, same]
    split
    all_goals
      simp only [List.map_cons, List.sum_cons, size_cons, size_nil] at ih ⊢
      omega

/-- Blank lines at the start render to nothing. -/
lemma blocks_dropWhile (lines : List (List Char)) :
    blocks false (lines.dropWhile isBlankLine) = blocks false lines := by
  cases lines with
  | nil => rfl
  | cons line rest =>
    rw [List.dropWhile_cons]
    split
    · next blank =>
      rw [blocks_cons, kind_of, if_pos blank]
      rfl
    · rfl

lemma blocks_blank (blank : isBlankLine line = true) (lines : List (List Char)) :
    blocks false (line :: lines) = blocks false lines := by
  rw [← blocks_dropWhile, List.dropWhile_cons, if_pos blank, blocks_dropWhile]

lemma leading_append {β : Type} {g : List Char → Option β} (nothing : g line = none)
    (lines : List (List Char)) :
    leading g (lines ++ [line]) = ((leading g lines).1, (leading g lines).2 ++ [line]) := by
  induction lines with
  | nil => exact leading_cons_none nothing []
  | cons first rest ih =>
    cases found : g first with
    | none =>
      rw [List.cons_append, leading_cons_none found, leading_cons_none found, List.cons_append]
    | some b => rw [List.cons_append, leading_cons_some found, leading_cons_some found, ih]

lemma dropWhile_append_empty (lines : List (List Char)) : (lines ++ [[]]).dropWhile isBlankLine =
    if (lines.dropWhile isBlankLine).isEmpty then [] else lines.dropWhile isBlankLine ++ [[]] := by
  have blank : isBlankLine [] = true := rfl
  rw [List.dropWhile_append, List.dropWhile_cons, if_pos blank, List.dropWhile_nil]

/-- An empty line at the end renders to nothing. -/
lemma blocks_append_empty (afterText : Bool) (lines : List (List Char)) :
    blocks afterText (lines ++ [[]]) = blocks afterText lines := by
  fun_induction blocks afterText lines with
  | case1 afterText =>
    have blank : isBlankLine [] = true := rfl
    rw [List.nil_append, blocks_cons, kind_of, if_pos blank, List.dropWhile_nil, blocks]
    cases afterText <;> rfl
  | case2 afterText line rest kind next _ ih =>
    rw [List.cons_append, blocks_cons, kind, dropWhile_append_empty]
    dsimp only
    cases left : rest.dropWhile isBlankLine with
    | nil => simp [next, left]
    | cons => simp_all [next]
  | case3 afterText line rest kind ih =>
    rw [List.cons_append, blocks_cons, kind]
    exact congrArg (_ :: ·) ih
  | case4 afterText line rest below title kind ih =>
    rw [List.cons_append, blocks_cons, kind]
    exact congrArg (_ :: ·) ih
  | case5 afterText line rest body kind _ _ inner ih =>
    rw [List.cons_append, blocks_cons, kind, leading_append rfl]
    exact congrArg (_ :: ·) ih
  | case6 afterText line rest ordered body kind _ bodies ih =>
    have nothing : itemOf ordered [] = none := rfl
    rw [List.cons_append, blocks_cons, kind]
    dsimp only
    rw [leading_append nothing, ih]
  | case7 afterText line rest kind ih =>
    rw [List.cons_append, blocks_cons, kind]
    exact congrArg (_ ++ ·) ih

lemma blocks_trimFeeds (text : List Char) :
    blocks false (splitLines (trimFeeds text)) = blocks false (splitLines text) := by
  have start (cs : List Char) : blocks false (splitLines (cs.dropWhile (· == '\n'))) =
      blocks false (splitLines cs) := by
    induction cs with
    | nil => rfl
    | cons c cs ih =>
      rw [List.dropWhile_cons]
      split
      · next feed => rw [ih, splitLines, if_pos feed, blocks_blank rfl]
      · rfl
  have ends (cs : List Char) : blocks false (splitLines (cs.rdropWhile (· == '\n'))) =
      blocks false (splitLines cs) := by
    induction cs using List.reverseRecOn with
    | nil => rfl
    | append_singleton cs c ih =>
      rw [List.rdropWhile_concat]
      split
      · next feed =>
        have parts := splitLines_append cs []
        rw [ih, eq_of_beq feed, parts, splitLines, blocks_append_empty]
      · rfl
  rw [trimFeeds, ends, start]

/-- A quotation is rendered from its text as from its lines. -/
lemma blocks_quoting (bodies : List (List Char)) (single : ∀ b ∈ bodies, '\n' ∉ b) :
    blocks false (splitLines (bodies.foldl quoting [])) = blocks false bodies := by
  have general (inner : List Char) (before : List (List Char))
      (same : ∀ more, blocks false (splitLines inner ++ more) = blocks false (before ++ more)) :
      blocks false (splitLines (bodies.foldl quoting inner)) = blocks false (before ++ bodies) := by
    induction bodies generalizing inner before with
    | nil =>
      have all := same []
      rwa [List.append_nil] at all
    | cons body bodies ih =>
      obtain ⟨alone, single⟩ := List.forall_mem_cons.1 single
      rw [List.foldl_cons, ih single (quoting inner body) (before ++ [body]) fun more => ?_,
        List.append_assoc, List.singleton_append]
      rw [List.append_assoc, List.singleton_append, ← same, quoting]
      cases inner with
      | nil =>
        rw [if_pos List.isEmpty_nil, List.nil_append, splitLines_of_line alone]
        exact (blocks_blank rfl _).symm
      | cons c inner =>
        rw [if_neg (by simp), List.append_assoc, List.singleton_append, splitLines_append,
          splitLines_of_line alone, List.append_assoc,
          List.singleton_append]
  exact general [] [] fun more => blocks_blank rfl more

lemma size_of_quoteBody? {body : List Char} (found : quoteBody? line = some body) :
    size body + 1 ≤ size line := by
  have kept := size_le_of_infix (trimStart_within line)
  have one : '>'.utf8Size = 1 := rfl
  unfold quoteBody? at found
  split at found
  · next same =>
    cases found
    rw [same] at kept
    simp only [size_cons] at kept
    omega
  · next same =>
    cases found
    rw [same] at kept
    simp only [size_cons] at kept
    omega
  · cases found

lemma size_foldl_quoting (bodies : List (List Char)) (inner : List Char) :
    size (bodies.foldl quoting inner) ≤ size inner + (bodies.map fun b => size b + 1).sum := by
  induction bodies generalizing inner with
  | nil => exact Nat.le_refl _
  | cons body bodies ih =>
    have step : size (quoting inner body) ≤ size inner + (size body + 1) := by
      have feed : '\n'.utf8Size = 1 := rfl
      rw [quoting]
      split
      all_goals
        simp only [size_join, size_cons, size_nil]
        omega
    have later := ih (quoting inner body)
    rw [List.foldl_cons, List.map_cons, List.sum_cons]
    omega

lemma sum_size_leading (lines : List (List Char)) :
    ((leading quoteBody? lines).1.map fun b => size b + 1).sum ≤ (lines.map size).sum := by
  induction lines with
  | nil => exact Nat.le_refl _
  | cons line rest ih =>
    cases found : quoteBody? line with
    | none =>
      rw [leading_cons_none found]
      exact Nat.zero_le _
    | some b =>
      have shorter := size_of_quoteBody? found
      rw [leading_cons_some found, List.map_cons, List.sum_cons, List.map_cons, List.sum_cons]
      omega

/-- The text of a quotation is shorter than its lines, each of which has a mark. -/
lemma size_quoting (lines : List (List Char)) (some : (leading quoteBody? lines).1 ≠ []) :
    size ((leading quoteBody? lines).1.foldl quoting []) < (lines.map size).sum := by
  have all := sum_size_leading lines
  obtain ⟨first, bodies, same⟩ := List.exists_cons_of_ne_nil some
  rw [same, List.map_cons, List.sum_cons] at all
  have joined := size_foldl_quoting bodies first
  rw [same, List.foldl_cons, quoting, if_pos (by rfl), List.nil_append]
  omega

lemma size_trimFeeds_le (text : List Char) : size (trimFeeds text) ≤ size text := by
  refine size_le_of_infix (List.IsInfix.trans ?_ (dropWhile_within (· == '\n') text))
  exact (List.rdropWhile_prefix _ _).isInfix

/-- The loop over the lines of a text comes to its end, with all that the text is rendered to. -/
lemma renderLines?_eq (text : List Char) :
    renderLines? text = some (Html.writeAll (blocks false (splitLines text))) := by
  rw [renderLines?]
  have quotes (i : Nat)
    (some : (leading quoteBody? ((splitLines (trimFeeds text)).drop i)).1 ≠ []) :
      (if size ((leading quoteBody? ((splitLines (trimFeeds text)).drop i)).1.foldl quoting []) <
        size text
        then renderLines?
          ((leading quoteBody? ((splitLines (trimFeeds text)).drop i)).1.foldl quoting [])
            else none) =
        Option.some
          (Html.writeAll
            (blocks false (leading quoteBody? ((splitLines (trimFeeds text)).drop i)).1)) := by
    have shorter :
        size ((leading quoteBody? ((splitLines (trimFeeds text)).drop i)).1.foldl quoting []) <
          size text := by
      have dropped :
          (((splitLines (trimFeeds text)).drop i).map size).sum ≤
            ((splitLines (trimFeeds text)).map size).sum :=
        ((List.drop_sublist i _).map size).sum_le_sum fun _ _ => Nat.zero_le _
      have joined := size_quoting _ some
      have lines := sum_size_splitLines (trimFeeds text)
      have trimmed := size_trimFeeds_le text
      omega
    rw [if_pos shorter, renderLines?_eq, blocks_quoting]
    intro b there feed
    obtain ⟨line, among, found⟩ := (leading_spec quoteBody? _).1 b there
    exact notMem_of_splitLines _ line (List.mem_of_mem_drop among)
      ((quoteBody?_within found).subset feed)
  refine untilDone_eq_some (Written (splitLines (trimFeeds text)) _)
    (fun s written => written.round quotes) ?_
  rw [Written, List.drop_zero, blocks_trimFeeds]
  rfl
termination_by size text

end Trimming

section Tags

variable {c l : Char} {letters cs tag body : List Char}

lemma toNat_toLower (c : Char) :
    c.toLower.toNat = if 65 ≤ c.toNat ∧ c.toNat ≤ 90 then c.toNat + 32 else c.toNat := by
  have capital : c.val ≥ 'A'.val ∧ c.val ≤ 'Z'.val ↔ 65 ≤ c.toNat ∧ c.toNat ≤ 90 := by
    rw [ge_iff_le, UInt32.le_iff_toNat_le, UInt32.le_iff_toNat_le]
    rfl
  unfold Char.toLower
  by_cases letter : c.val ≥ 'A'.val ∧ c.val ≤ 'Z'.val
  · rw [dif_pos letter, if_pos (capital.1 letter)]
    have range := capital.1 letter
    have sum : (c.val + ('a'.val - 'A'.val)).toNat = (c.toNat + 32) % 2 ^ 32 := UInt32.toNat_add _ _
    have same : (c.val + ('a'.val - 'A'.val)).toNat = c.toNat + 32 := by omega
    exact same
  · rw [dif_neg letter, if_neg (mt capital.2 letter)]

lemma toNat_lowerByte (b : UInt8) :
    (lowerByte b).toNat = if 65 ≤ b.toNat ∧ b.toNat ≤ 90 then b.toNat + 32 else b.toNat := by
  have capital : (decide (0x41 ≤ b) && decide (b ≤ 0x5A)) = true ↔ 65 ≤ b.toNat ∧ b.toNat ≤ 90 := by
    rw [Bool.and_eq_true, decide_eq_true_iff, decide_eq_true_iff, UInt8.le_iff_toNat_le,
      UInt8.le_iff_toNat_le]
    rfl
  rw [lowerByte]
  by_cases letter : 65 ≤ b.toNat ∧ b.toNat ≤ 90
  · have sum : (b + 0x20).toNat = (b.toNat + 32) % 2 ^ 8 := UInt8.toNat_add _ _
    rw [if_pos (capital.2 letter), if_pos letter]
    omega
  · rw [if_neg (mt capital.1 letter), if_neg letter]

/-- The first byte of a character tells whether it is a letter, in either case. -/
lemma lowerByte_lead (lower : 97 ≤ l.toNat ∧ l.toNat ≤ 122) :
    lowerByte (lead c) = lowerByte (byteOf l) ↔ c.toLower = l := by
  have byte (x : Char) (ascii : x.toNat < 128) : (byteOf x).toNat = x.toNat := by
    rw [byteOf, UInt8.toNat_ofNat']
    omega
  have letter : (lowerByte (byteOf l)).toNat = l.toNat := by
    rw [toNat_lowerByte, byte l (by omega), if_neg (by omega)]
  rw [← UInt8.toNat_inj, letter, ← Char.toNat_inj, toNat_toLower, toNat_lowerByte]
  by_cases ascii : c.toNat < 128
  · rw [(lead_of_ascii ascii).1, byte c ascii]
  · have wide := lead_of_wide ascii
    rw [if_neg (by omega), if_neg (by omega)]
    omega

lemma narrow_of_toLower (lower : 97 ≤ l.toNat ∧ l.toNat ≤ 122) (same : c.toLower = l) :
    c.utf8Size = 1 := by
  have value := toNat_toLower c
  rw [same] at value
  refine (lead_of_ascii ?_).2
  split at value <;> omega

lemma startsWithBytes?_eq (lower : ∀ l ∈ letters, 97 ≤ l.toNat ∧ l.toNat ≤ 122) (cs : List Char) :
    startsWithBytes? letters cs = some (startsWithLetters letters cs) := by
  have first : firstBytes? (size letters) (bytes cs) =
      if size letters ≤ size cs then some ((bytes cs).take (size letters)) else none := by
    rw [firstBytes?, length_bytes]
  have agree :
      (decide (size letters ≤ size cs) && ((bytes cs).take (size letters)).map lowerByte ==
        (bytes letters).map lowerByte) =
        startsWithLetters letters cs := by
    clear first
    induction letters generalizing cs with
    | nil => simp [startsWithLetters, bytes]
    | cons l letters ih =>
      obtain ⟨letter, lower⟩ := List.forall_mem_cons.1 lower
      obtain ⟨byte, one⟩ := lead_of_ascii (c := l) (by omega)
      have alone {c : Char} (narrow : c.utf8Size = 1) (cs : List Char) :
          bytes (c :: cs) = lead c :: bytes cs := by
        rw [bytes_cons, List.eq_nil_of_length_eq_zero (l := (String.utf8EncodeChar c).tail),
          List.nil_append]
        rw [List.length_tail, String.length_utf8EncodeChar, narrow]
      cases cs with
      | nil => simp [startsWithLetters, one]
      | cons c cs =>
        rw [startsWithLetters, size_cons l, one, Nat.add_comm 1, alone one, byte, List.map_cons]
        by_cases same : c.toLower = l
        · have narrow := narrow_of_toLower letter same
          rw [alone narrow, List.take_succ_cons, List.map_cons, (lowerByte_lead letter).2 same,
            ← ih lower cs, size_cons,
            narrow, Nat.add_comm 1]
          simp [same]
        · have apart : (lowerByte (lead c) == lowerByte (byteOf l)) = false :=
            beq_eq_false_iff_ne.2 (mt (lowerByte_lead letter).1 same)
          have other : (c.toLower == l) = false := beq_eq_false_iff_ne.2 same
          rw [bytes_cons, List.take_succ_cons, List.map_cons]
          simp [apart, other]
  rw [startsWithBytes?, first, ← agree]
  split
  · simp [*]
  · simp [*]

lemma isBreakTagAt?_eq (tag : List Char) : isBreakTagAt? tag = some (isBreakTag tag) := by
  have starts : startsWithBytes? ['b', 'r'] tag = some (startsWithLetters ['b', 'r'] tag) :=
    startsWithBytes?_eq (by simp) tag
  rw [isBreakTagAt?, isBreakTag, starts]
  cases named : startsWithLetters ['b', 'r'] tag with
  | false => rfl
  | true =>
    have letters := startsWithLetters_iff.1 named
    rcases tag with _ | ⟨c, _ | ⟨d, rest⟩⟩
    · simp at letters
    · simp at letters
    · simp only [List.map_cons, List.cons_prefix_cons, List.nil_prefix, and_true] at letters
      have narrow := narrow_of_toLower (by simp) letters.1.symm
      have narrow' := narrow_of_toLower (by simp) letters.2.symm
      have rest : beyond? 2 (c :: d :: rest) = some rest := by
        have joined := beyond?_append [c, d] rest
        rwa [size_cons, size_cons, size_nil, narrow, narrow'] at joined
      simp only [Option.bind_eq_bind, Option.bind_some, if_true, rest]
      rfl

lemma plainChars_append (untagged : '<' ∉ body) (cs : List Char) :
    plainChars (body ++ cs) = body ++ plainChars cs := by
  induction body with
  | nil => rfl
  | cons c body ih =>
    obtain ⟨apart, untagged⟩ := not_or.1 (mt List.mem_cons.2 untagged)
    rw [List.cons_append, plainChars_char fun opening => absurd opening.symm apart,
      ih untagged, List.cons_append]

/-- The loop over the tags has written what comes before the rest of the markup. -/
def Stripped (total : List Char) (s : List Char × List Char) : Prop := s.2 ++ plainChars s.1 = total

lemma Stripped.round {total : List Char} {s : List Char × List Char} (stripped : Stripped total s) :
    tagRound? s = some (.inr total) ∨ ∃ s', tagRound? s = some (.inl s') ∧ size s'.1 < size s.1 ∧
      Stripped total s' := by
  obtain ⟨rest, written⟩ := s
  have opens : '<'.utf8Size = 1 := rfl
  have closes : '>'.utf8Size = 1 := rfl
  rw [Stripped] at stripped
  dsimp only at stripped
  unfold tagRound?
  dsimp only
  rw [offset?_eq]
  cases opening : cut? '<' rest with
  | none =>
    left
    have plain := plainChars_append (cut?_eq_none.1 opening) []
    rw [List.append_nil, plainChars, List.append_nil] at plain
    rw [← stripped, plain]
    rfl
  | some parts =>
    obtain ⟨plain, after⟩ := parts
    right
    have untagged := notMem_of_cut? opening
    obtain rfl := cut?_eq_some opening
    rw [plainChars_append untagged] at stripped
    have after_from : beyond? (size plain + 1) (plain ++ '<' :: after) = some after :=
      beyond?_next opens plain after
    simp only [Option.map_some, upTo?_append, after_from, Option.bind_eq_bind,
      Option.bind_some, offset?_eq]
    have bare_round (bare : Bare after) : ∃ s', some (.inl (after, written ++ plain ++ ['<'])) =
      some (Sum.inl s' : _ ⊕ List Char) ∧
        size s'.1 < size (plain ++ '<' :: after) ∧ Stripped total s' := by
      refine ⟨_, rfl, ?_, ?_⟩
      · dsimp only
        rw [size_join, size_cons, opens]
        omega
      · rw [Stripped, ← stripped, plainChars_char fun _ => bare]
        simp
    cases closing : cut? '>' after with
    | none => exact bare_round (.inr (cut?_eq_none.1 closing))
    | some parts =>
      obtain ⟨tag, rest⟩ := parts
      have unclosed := notMem_of_cut? closing
      obtain rfl := cut?_eq_some closing
      cases tag with
      | nil => exact bare_round (.inl rfl)
      | cons t tag =>
        have positive : decide (0 < size (t :: tag)) = true := decide_eq_true (size_pos t tag)
        have rest_from : beyond? (size (t :: tag) + 1) (t :: tag ++ '>' :: rest) = some rest :=
          beyond?_next closes (t :: tag) rest
        have p : startsWithBytes? ['p'] (t :: tag) = some (startsWithLetters ['p'] (t :: tag)) :=
          startsWithBytes?_eq (by simp) _
        have div : startsWithBytes? ['d', 'i', 'v'] (t :: tag) =
            some (startsWithLetters ['d', 'i', 'v'] (t :: tag)) :=
          startsWithBytes?_eq (by simp) _
        simp only [Option.map_some, Option.filter_some, if_pos positive, upTo?_append,
          Option.bind_some, isBreakTagAt?_eq, p, div,
          rest_from]
        refine ⟨_, rfl, ?_, ?_⟩
        · simp only [size_join, size_cons, opens, closes]
          omega
        · rw [Stripped, ← stripped, plainChars_tag (List.cons_ne_nil _ _) unclosed, tagText]
          simp

/-- The loop over the tags comes to its end, with the plain text. -/
lemma stripTags?_eq (html : List Char) : stripTags? html = some (plainChars html) :=
  untilDone_eq_some (Stripped (plainChars html)) (fun _ stripped => stripped.round) rfl

/-- A link is no longer than the text that it starts, and its label is shorter. -/
lemma linkAt?_inside (cs : List Char) :
    ∃ link, linkAt? cs = some link ∧ ∀ found ∈ link, size found.1 < size cs ∧
      found.2.2 ≤ size cs := by
  by_cases bracket : cs.head? = some '['
  · obtain ⟨inner, rfl⟩ := List.head?_eq_some_iff.1 bracket
    refine ⟨_, linkAt?_cons inner, fun found there => ?_⟩
    obtain ⟨⟨label, target, rest⟩, labelled, rfl⟩ := Option.map_eq_some_iff.1 there
    have positive := '['.utf8Size_pos
    refine ⟨?_, Nat.sub_le _ _⟩
    rw [(labelled?_eq_some labelled).1]
    simp only [size_cons, size_join]
    omega
  · refine ⟨none, ?_, nofun⟩
    rw [linkAt?, after?_singleton, if_neg bracket]

/-- Rendering a text and stripping the tags off markup come to their end, byte by byte and line by
line: no cut is off the text or inside a character, each round of a loop gets ahead, and nothing
goes on with a text that is not shorter. -/
theorem rendering_stays_in_text (text : String) :
    renderLines? text.toList = some (render text).toList ∧
    stripTags? text.toList = some (plainText text).toList ∧
      ∀ cs, ∃ link, linkAt? cs = some link ∧ ∀ found ∈ link, size found.1 < size cs ∧
        found.2.2 ≤ size cs := by
  refine ⟨?_, ?_, linkAt?_inside⟩
  · rw [renderLines?_eq, render, String.toList_ofList]
  · rw [stripTags?_eq, plainText, String.toList_ofList]

/-- A quotation of wide characters, with a link in it and a tag that is not closed. -/
theorem rendering_of_wide_text :
    renderLines? "> *é* [ü](ß) é\n>\n\n<é".toList = some (render "> *é* [ü](ß) é\n>\n\n<é").toList ∧
      linkAt? "[ü](ß) é".toList = some (some ("ü".toList, "ß".toList, 8)) ∧
      size "ü".toList < size "[ü](ß) é".toList ∧ 8 ≤ size "[ü](ß) é".toList := by
  obtain ⟨renders, -, links⟩ := rendering_stays_in_text "> *é* [ü](ß) é\n>\n\n<é"
  obtain ⟨link, found, inside⟩ := links "[ü](ß) é".toList
  have here : linkAt? "[ü](ß) é".toList = some (some ("ü".toList, "ß".toList, 8)) := by decide
  obtain rfl := Option.some.inj (here.symm.trans found)
  exact ⟨renders, here, inside _ rfl⟩

end Tags

end LayeredPage.Proofs
