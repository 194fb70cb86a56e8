import LayeredPage.Proofs.Offsets

/-!
# Scanning a line

A line is rendered here byte by byte, with plain text held back until a mark is found. A scan fails
where it cuts the line inside a character or off its end, where a round does not get ahead, and
where it would go on with a label that is not shorter than the line. None of this happens: the scan
gives what the pieces of the line are written as.
-/

namespace LayeredPage.Markdown

open Text

/-- The label and the target of a link that a text starts with, and its number of bytes. -/
def linkAt? (cs : List Char) : Option (Option (List Char × List Char × Nat)) :=
  match after? ['['] cs with
  | none => some none
  | some inner =>
    match offset? ']' inner with
    | none => some none
    | some labelEnd => do
      match after? ['('] (← beyond? (labelEnd + 1) inner) with
      | none => return none
      | some target =>
        match offset? ')' target with
        | none => return none
        | some targetEnd =>
          return some (← upTo? labelEnd inner, ← upTo? targetEnd target,
            1 + labelEnd + 2 + targetEnd + 1)

/-- The marker that a byte stands for, if this is the next one. -/
def Marker.ofBytes? (b : UInt8) (next : Option UInt8) : Option Marker :=
  if b = byteOf '*' then some (if next = some b then .doubleStar else .star)
  else if b = byteOf '_' then some (if next = some b then .doubleUnderscore else .underscore)
  else if b = byteOf '~' ∧ next = some b then some .doubleTilde
  else none

def Marker.width : Marker → Nat
  | .star | .underscore => 1
  | .doubleStar | .doubleUnderscore | .doubleTilde => 2

/-- A scan of a line. The text from `plainFrom` on is held back. -/
structure Scan where
  position : Nat
  plainFrom : Nat
  ordered : plainFrom ≤ position
  written : List Char
  /-- Innermost first. -/
  opened : List Marker

/-- What stands for some bytes of a line, and the markers that are open after them. -/
structure Found where
  width : Nat
  written : List Char
  opened : List Marker

def Found.ofMarker (opened : List Marker) (m : Marker) : Found :=
  if opened.head? =
    some m then ⟨m.width, Html.closeTag m.tag, opened.tail⟩ else ⟨m.width,
      Html.openTag m.tag, m :: opened⟩

namespace Scan

def start : Scan := ⟨0, 0, Nat.le_refl 0, [], []⟩

/-- The mark that begins with a byte of the line, if one does; `nested` renders labels. -/
def found? (nested : List Char → Option (List Char)) (line : List Char) (s : Scan) (b : UInt8) :
    Option (Option Found) :=
  let next := (bytes line)[s.position + 1]?
  if b = byteOf '\x60' then do
    match (offset? '\x60' (← beyond? (s.position + 1) line)).filter (0 < ·) with
    | none => return none
    | some stop =>
      let body ← between? (s.position + 1) (s.position + 1 + stop) line
      return some ⟨stop + 2, "<code>".toList ++ escapeValue body ++ "</code>".toList, s.opened⟩
  else if b = byteOf '!' ∧ next = some (byteOf '[') then do
    match ← linkAt? (← beyond? (s.position + 1) line) with
    | none => return none
    | some (alternative, source, width) =>
      return some ⟨width + 1, "<img src=\"".toList ++ escapeValue source ++ "\" alt=\"".toList ++
        escapeValue alternative ++
        "\">".toList, s.opened⟩
  else if b = byteOf '[' then do
    match ← linkAt? (← beyond? s.position line) with
    | none => return none
    | some (label, target, width) =>
      return some ⟨width, "<a href=\"".toList ++ escapeValue target ++ "\">".toList ++
        (← nested label) ++ "</a>".toList, s.opened⟩
  else some ((Marker.ofBytes? b next).map (Found.ofMarker s.opened))

def round? (nested : List Char → Option (List Char)) (line : List Char) (s : Scan) :
    Option (Scan ⊕ List Char) :=
  match (bytes line)[s.position]? with
  | none =>
    do
      return .inr (s.written ++ (← beyond? s.plainFrom line) ++ s.opened.flatMap fun m =>
        Html.closeTag m.tag)
  | some b => do
    match ← s.found? nested line b with
    | none =>
      return .inl { s with position := s.position + 1, ordered := Nat.le_succ_of_le s.ordered }
    | some found =>
      let plain ← between? s.plainFrom s.position line
      return .inl ⟨s.position + found.width, s.position + found.width, Nat.le_refl _,
        s.written ++ plain ++ found.written,
        found.opened⟩

end Scan

def scanLine? (line : List Char) : Option (List Char) :=
  untilDone (fun s : Scan => size line - s.position)
    (Scan.round? (fun label => if size label < size line then scanLine? label else none) line)
      Scan.start
termination_by size line

/-- The piece at the start of a text, if it is not just a character, and what follows it. -/
def firstPiece? (c : Char) (cs : List Char) : Option (Piece × List Char) :=
  if c == '\x60' then (code? cs).map fun (body, rest) => (.html (.code body), rest)
  else if c == '!' then
    match cs with
    | '[' :: inner =>
      (labelled? inner).map fun (alternative, source, rest) =>
        (.html (.image source alternative), rest)
    | _ => none
  else if c == '[' then (labelled? cs).map fun (label, target, rest) =>
    (.html (.link target (nest (pieces label))), rest)
  else (Marker.ofStart? c cs).map fun (m, rest) => (.marker m, rest)

end LayeredPage.Markdown

namespace LayeredPage.Proofs

open Text Markdown

/-- What the rest of a line is written as. -/
def rendition (opened : List Marker) (cs : List Char) : List Char :=
  (stream opened (pieces cs)).flatMap Segment.text

/-- What a piece adds to a scan. -/
def Found.ofPiece (opened : List Marker) (width : Nat) : Piece → Found
  | .html h => ⟨width, h.write, opened⟩
  | .marker m => { Found.ofMarker opened m with width }

/-- What a scan makes of the piece that a character starts. -/
def firstFound? (opened : List Marker) (c : Char) (cs : List Char) : Option Found :=
  (firstPiece? c cs).map fun (p, rest) => Found.ofPiece opened (size (c :: cs) - size rest) p

section Pieces

variable {c : Char} {cs rest label target : List Char} {p : Piece} {opened : List Marker}

lemma pieces_cons (c : Char) (cs : List Char) : pieces (c :: cs) =
    match firstPiece? c cs with
    | some (p, rest) => p :: pieces rest
    | none => .html (.char c) :: pieces cs := by
  conv_lhs => unfold pieces
  unfold firstPiece?
  split
  · split
    · next found => simp only [found, Option.map_some]
    · next none => simp only [none, Option.map_none]
  split
  · cases cs with
    | nil => rfl
    | cons d inner =>
      by_cases bracket : d = '['
      · subst bracket
        cases image : labelled? inner <;> grind
      · grind
  split
  · split
    · next found => simp only [found, Option.map_some]
    · next none => simp only [none, Option.map_none]
  · split
    · next found => simp only [found, Option.map_some]
    · next none => simp only [none, Option.map_none]

lemma firstPiece?_suffix (found : firstPiece? c cs = some (p, rest)) : rest <:+ cs := by
  unfold firstPiece? at found
  split at found
  · obtain ⟨⟨body, rest'⟩, code, same⟩ := Option.map_eq_some_iff.1 found
    cases same
    exact ⟨body ++ ['\x60'], by simp [code?_eq_some code]⟩
  split at found
  · split at found
    · next inner =>
      obtain ⟨⟨alternative, source, rest'⟩, image, same⟩ := Option.map_eq_some_iff.1 found
      cases same
      exact ⟨'[' :: alternative ++ ']' :: '(' :: source ++ [')'],
        by simp [(labelled?_eq_some image).1]⟩
    · cases found
  split at found
  · obtain ⟨⟨label, target, rest'⟩, link, same⟩ := Option.map_eq_some_iff.1 found
    cases same
    exact ⟨label ++ ']' :: '(' :: target ++ [')'], by simp [(labelled?_eq_some link).1]⟩
  · obtain ⟨⟨m, rest'⟩, marker, same⟩ := Option.map_eq_some_iff.1 found
    cases same
    exact ofStart?_suffix marker

lemma width_ofPiece (opened : List Marker) (width : Nat) (p : Piece) :
    (Found.ofPiece opened width p).width = width := by
  cases p <;> rfl

lemma rendition_piece (found : firstPiece? c cs = some (p, rest)) (width : Nat) :
    rendition opened (c :: cs) = (Found.ofPiece opened width p).written ++
      rendition (Found.ofPiece opened width p).opened rest := by
  rw [rendition, pieces_cons, found]
  cases p with
  | html h => rw [stream, List.flatMap_append, text_segments]; rfl
  | marker m =>
    rw [stream, Found.ofPiece, Found.ofMarker]
    split <;> rfl

lemma rendition_char (none : firstPiece? c cs = none) :
    rendition opened (c :: cs) = c :: rendition opened cs := by
  rw [rendition, pieces_cons, none]
  rfl

lemma rendition_inline (line : List Char) :
    rendition [] line = Html.writeAll (inlineHtml line) := by
  rw [rendition, ← segmentsAll_nest, text_segmentsAll, inlineHtml]

end Pieces

section Marks

variable {line before cs rest : List Char} {c x : Char}
  {nested : List Char → Option (List Char)} {s : Scan}

lemma after?_singleton (x : Char) (cs : List Char) :
    after? [x] cs = if cs.head? = some x then some cs.tail else none := by
  cases cs with
  | nil => rfl
  | cons c cs =>
    rw [after?, after?]
    exact if_congr (by rw [beq_iff_eq, List.head?_cons, Option.some.injEq, eq_comm]) rfl rfl

/-- A link takes what the label, the target and their brackets take. -/
lemma linkAt?_cons (cs : List Char) : linkAt? ('[' :: cs) =
    some ((labelled? cs).map fun (label, target, rest) =>
      (label, target, size ('[' :: cs) - size rest)) := by
  have opens : '['.utf8Size = 1 := rfl
  have closes : ']'.utf8Size = 1 := rfl
  have opens' : '('.utf8Size = 1 := rfl
  have closes' : ')'.utf8Size = 1 := rfl
  rw [linkAt?, after?_singleton, if_pos List.head?_cons, List.tail_cons]
  dsimp only
  rw [offset?_eq, labelled?]
  cases cut : cut? ']' cs with
  | none => rfl
  | some parts =>
    obtain ⟨label, beyond⟩ := parts
    obtain rfl := cut?_eq_some cut
    have next : beyond? (size label + 1) (label ++ ']' :: beyond) = some beyond := by
      have joined := beyond?_append (label ++ [']']) beyond
      rwa [size_join, size_cons, size_nil, closes, List.append_assoc] at joined
    simp only [Option.map_some, next, Option.pure_def, Option.bind_eq_bind,
      Option.bind_some, after?_singleton]
    cases beyond with
    | nil => rfl
    | cons d target =>
      by_cases bracket : d = '('
      · subst bracket
        simp only [List.head?_cons, if_pos, List.tail_cons, offset?_eq]
        cases cut' : cut? ')' target with
        | none => rfl
        | some parts =>
          obtain ⟨target, rest⟩ := parts
          obtain rfl := cut?_eq_some cut'
          simp only [Option.map_some, upTo?_append, Option.bind_some, Option.some.injEq,
            Prod.mk.injEq, true_and, size_cons,
            size_join, opens, closes, opens', closes']
          omega
      · simp [bracket]

lemma beyond?_next (narrow : c.utf8Size = 1) (before cs : List Char) :
    beyond? (size before + 1) (before ++ c :: cs) = some cs := by
  have joined := beyond?_append (before ++ [c]) cs
  rwa [size_join, size_cons, size_nil, narrow, List.append_assoc] at joined

lemma between?_next (narrow : c.utf8Size = 1) (before m cs : List Char) :
    between? (size before + 1) (size before + 1 + size m) (before ++ c :: (m ++ cs)) = some m := by
  have joined := between?_append (before ++ [c]) m cs
  rwa [size_join, size_join, size_join, size_cons, size_nil, narrow,
    List.append_assoc, List.append_assoc,
    List.singleton_append] at joined

lemma getElem?_bytes (before cs : List Char) :
    (bytes (before ++ cs))[size before]? = cs.head?.map lead := by
  rw [bytes_append, List.getElem?_append_right (by rw [length_bytes]), length_bytes, Nat.sub_self]
  cases cs with
  | nil => rfl
  | cons c cs => rw [bytes_cons]; rfl

lemma ofStart?_eq (c : Char) (cs : List Char) : Marker.ofStart? c cs =
    if c = '*' then some (if cs.head? = some '*' then (.doubleStar, cs.tail) else (.star, cs))
    else if c =
      '_' then some
        (if cs.head? = some '_' then (.doubleUnderscore, cs.tail) else (.underscore, cs))
    else if c = '~' ∧ cs.head? = some '~' then some (.doubleTilde, cs.tail)
    else none := by
  cases cs with
  | nil =>
    unfold Marker.ofStart?
    split <;> simp_all
  | cons d cs =>
    unfold Marker.ofStart?
    split <;> simp_all

/-- A marker is told by two bytes. -/
lemma ofBytes?_eq {next : Option UInt8} (opened : List Marker)
    (same : c.utf8Size = 1 → next = cs.head?.map lead) :
    (Marker.ofBytes? (lead c) next).map (Found.ofMarker opened) =
      ((Marker.ofStart? c cs).map fun (m, rest) => (Piece.marker m, rest)).map fun (p, rest) =>
        Found.ofPiece opened (size (c :: cs) - size rest) p := by
  have single {m : Marker} (narrow : c.utf8Size = 1) (width : m.width = 1) :
      Found.ofMarker opened m = Found.ofPiece opened (size (c :: cs) - size cs) (.marker m) := by
    rw [size_cons, narrow, Nat.add_sub_cancel, Found.ofPiece, ← width, Found.ofMarker]
    split <;> rfl
  have double {m : Marker} (narrow : c.utf8Size = 1) (twice : cs.head? = some c)
    (width : m.width = 1 + 1) :
      Found.ofMarker opened m =
        Found.ofPiece opened (size (c :: cs) - size cs.tail) (.marker m) := by
    obtain ⟨rest, rfl⟩ := List.head?_eq_some_iff.1 twice
    rw [List.tail_cons, size_cons, size_cons, narrow, ← Nat.add_assoc, Nat.add_sub_cancel,
      Found.ofPiece, ← width, Found.ofMarker]
    split <;> rfl
  have second {x : Char} (ascii : x.toNat < 128) : cs.head?.map lead = some (lead x) ↔
      cs.head? = some x := by
    rw [(lead_of_ascii ascii).1]
    cases cs <;> simp [lead_eq_iff ascii]
  unfold Marker.ofBytes?
  rw [ofStart?_eq]
  simp only [lead_eq_iff (x := '*') (by decide), lead_eq_iff (x := '_') (by decide),
    lead_eq_iff (x := '~') (by decide)]
  by_cases star : c = '*'
  · subst star
    rw [if_pos rfl, if_pos rfl, same rfl]
    by_cases twice : cs.head? = some '*'
    · rw [if_pos ((second (by decide)).2 twice), if_pos twice]
      exact congrArg some (double rfl twice rfl)
    · rw [if_neg (mt (second (by decide)).1 twice), if_neg twice]
      exact congrArg some (single rfl rfl)
  rw [if_neg star, if_neg star]
  by_cases score : c = '_'
  · subst score
    rw [if_pos rfl, if_pos rfl, same rfl]
    by_cases twice : cs.head? = some '_'
    · rw [if_pos ((second (by decide)).2 twice), if_pos twice]
      exact congrArg some (double rfl twice rfl)
    · rw [if_neg (mt (second (by decide)).1 twice), if_neg twice]
      exact congrArg some (single rfl rfl)
  rw [if_neg score, if_neg score]
  by_cases tilde : c = '~' ∧ cs.head? = some '~'
  · obtain ⟨rfl, twice⟩ := tilde
    rw [if_pos ⟨rfl, by rw [same rfl, second (by decide), twice]⟩, if_pos ⟨rfl, twice⟩]
    exact congrArg some (double rfl twice rfl)
  · rw [if_neg tilde, if_neg]
    · rfl
    rintro ⟨rfl, twice⟩
    rw [same rfl, second (by decide)] at twice
    exact tilde ⟨rfl, twice⟩

/-- At a backtick a scan finds the code up to the next one. -/
lemma found?_code (mark : c = '\x60') (position : s.position = size before) :
    s.found? nested (before ++ c :: cs) (lead c) = some (firstFound? s.opened c cs) := by
  have one : '\x60'.utf8Size = 1 := rfl
  unfold Scan.found? firstFound? firstPiece?
  simp only [lead_eq_iff (x := '\x60') (by decide), lead_eq_iff (x := '!') (by decide),
    lead_eq_iff (x := '[') (by decide),
    beq_iff_eq]
  subst mark
  rw [if_pos rfl, if_pos rfl, position, beyond?_next one, code?]
  cases cut : cut? '\x60' cs with
  | none =>
    simp only [offset?_eq, cut, Option.bind_eq_bind, Option.bind_some, Option.map_none,
      Option.filter_none, Option.pure_def]
  | some parts =>
    obtain ⟨body, rest⟩ := parts
    simp only [offset?_eq, cut, Option.bind_eq_bind, Option.bind_some,
      Option.map_some, Option.pure_def]
    obtain rfl := cut?_eq_some cut
    cases body with
    | nil => rfl
    | cons d body =>
      have positive : decide (0 < size (d :: body)) = true := decide_eq_true (size_pos d body)
      have width : size ('\x60' :: (d :: body ++ '\x60' :: rest)) - size rest =
          size (d :: body) + 2 := by
        simp only [size_cons, size_join, one]
        omega
      rw [Option.filter_some, if_pos positive]
      simp only [between?_next one, Option.bind_some, Option.map_some, width]
      rfl

/-- At an exclamation mark a scan finds an image, if a bracket comes next. -/
lemma found?_image (mark : c = '!') (position : s.position = size before) :
    s.found? nested (before ++ c :: cs) (lead c) = some (firstFound? s.opened c cs) := by
  have one : '!'.utf8Size = 1 := rfl
  have next : (bytes (before ++ '!' :: cs))[size before + 1]? = cs.head?.map lead := by
    have joined := getElem?_bytes (before ++ ['!']) cs
    rwa [size_join, size_cons, size_nil, one, List.append_assoc, List.singleton_append] at joined
  have nothing : Marker.ofBytes? (lead '!') = fun _ => none := by
    funext next
    simp [Marker.ofBytes?, lead_eq_iff]
  unfold Scan.found? firstFound? firstPiece?
  simp only [lead_eq_iff (x := '\x60') (by decide), lead_eq_iff (x := '!') (by decide),
    lead_eq_iff (x := '[') (by decide),
    beq_iff_eq]
  subst mark
  have apart : '!' ≠ '\x60' := by decide
  rw [if_neg apart, if_neg apart, position, next, nothing]
  cases cs with
  | nil => rfl
  | cons d after =>
    by_cases bracket : d = '['
    · subst bracket
      have opens : some (lead '[') = some (byteOf '[') := rfl
      rw [if_pos ⟨rfl, opens⟩, if_pos rfl, beyond?_next one]
      simp only [Option.bind_eq_bind, Option.bind_some, linkAt?_cons]
      cases found : labelled? after with
      | none => rfl
      | some image =>
        obtain ⟨alternative, source, rest⟩ := image
        have inside : size rest ≤ size ('[' :: after) := by
          rw [(labelled?_eq_some found).1]
          simp only [size_cons, size_join]
          omega
        have width :
            size ('!' :: '[' :: after) - size rest = size ('[' :: after) - size rest + 1 := by
          rw [size_cons, one]
          omega
        simp only [Option.map_some, width]
        rfl
    · rw [if_neg, if_neg (by decide)]
      · simp [bracket]
      · rintro ⟨-, other⟩
        exact bracket ((lead_eq_iff (by decide)).1 (Option.some.inj other))

/-- At a bracket a scan finds a link, with what its label is rendered to. -/
lemma found?_link (mark : c = '[') (position : s.position = size before)
    (inner : ∀ label, size label < size (before ++ c :: cs) →
      nested label = some (Html.writeAll (inlineHtml label))) :
    s.found? nested (before ++ c :: cs) (lead c) = some (firstFound? s.opened c cs) := by
  unfold Scan.found? firstFound? firstPiece?
  simp only [lead_eq_iff (x := '\x60') (by decide), lead_eq_iff (x := '!') (by decide),
    lead_eq_iff (x := '[') (by decide),
    beq_iff_eq]
  subst mark
  have apart : '[' ≠ '\x60' := by decide
  have other : '[' ≠ '!' := by decide
  rw [if_neg apart, if_neg apart, if_neg (not_and_of_not_left _ other), if_neg other, if_pos rfl,
    if_pos rfl, position,
    beyond?_append]
  simp only [Option.bind_eq_bind, Option.bind_some, linkAt?_cons]
  cases found : labelled? cs with
  | none => rfl
  | some link =>
    obtain ⟨label, target, rest⟩ := link
    have shorter : size label < size (before ++ '[' :: cs) := by
      rw [(labelled?_eq_some found).1]
      simp only [size_cons, size_join]
      have positive := '['.utf8Size_pos
      omega
    simp only [Option.map_some, Option.bind_some, inner label shorter]
    rfl

/-- A scan finds the piece that starts at its position. -/
lemma found?_eq (parts : line = before ++ c :: cs) (position : s.position = size before)
    (inner : ∀ label, size label < size line →
      nested label = some (Html.writeAll (inlineHtml label))) :
    s.found? nested line (lead c) = some (firstFound? s.opened c cs) := by
  subst parts
  by_cases code : c = '\x60'
  · exact found?_code code position
  by_cases image : c = '!'
  · exact found?_image image position
  by_cases link : c = '['
  · exact found?_link link position inner
  have next (narrow : c.utf8Size = 1) :
      (bytes (before ++ c :: cs))[s.position + 1]? = cs.head?.map lead := by
    have joined := getElem?_bytes (before ++ [c]) cs
    rwa [size_join, size_cons, size_nil, narrow, List.append_assoc, List.singleton_append,
      ← position] at joined
  unfold Scan.found? firstFound? firstPiece?
  simp only [lead_eq_iff (x := '\x60') (by decide), lead_eq_iff (x := '!') (by decide),
    lead_eq_iff (x := '[') (by decide),
    beq_iff_eq]
  rw [if_neg code, if_neg code, if_neg (by simp [image]), if_neg image, if_neg link, if_neg link,
    ofBytes?_eq s.opened next]

end Marks

section Scans

variable {line done held rest cs : List Char} {c : Char} {p : Piece} {inside : Nat}
  {nested : List Char → Option (List Char)} {s : Scan}

/-- How far a scan is: `held` is the text that it holds back, and `inside` is the number of bytes
that are left of a character. -/
structure Scanned (line : List Char) (s : Scan) (done held rest : List Char) (inside : Nat) :
    Prop where
  parts : line = done ++ held ++ rest
  from_done : s.plainFrom = size done
  position : s.position + inside = size (done ++ held)
  wide : ∀ b ∈ ((bytes line).drop s.position).take inside, 128 ≤ b.toNat
  written : s.written ++ held ++ rendition s.opened rest = rendition [] line

/-- No mark begins inside a character. -/
lemma found?_of_wide {b : UInt8} (wide : 128 ≤ b.toNat) : s.found? nested line b = some none := by
  have other (x : Char) (ascii : x.toNat < 128) : b ≠ byteOf x := by
    rintro rfl
    rw [byteOf, UInt8.toNat_ofNat'] at wide
    omega
  unfold Scan.found? Marker.ofBytes?
  simp [other]

lemma Scanned.position_lt (scanned : Scanned line s done held rest inside)
    (more : 0 < inside ∨ rest ≠ []) :
    s.position < size line := by
  have position := scanned.position
  rw [scanned.parts, size_join]
  obtain inner | ahead := more
  · omega
  · obtain ⟨c, cs, rfl⟩ := List.exists_cons_of_ne_nil ahead
    have positive := size_pos c cs
    omega

/-- The rest of a character is passed byte by byte. -/
lemma Scanned.pass (scanned : Scanned line s done held rest (inside + 1))
    (nested : List Char → Option (List Char)) :
    ∃ s', s.round? nested line = some (.inl s') ∧ s.position < s'.position ∧
      Scanned line s' done held rest inside := by
  have within : s.position < (bytes line).length := by
    rw [length_bytes]
    exact scanned.position_lt (.inl inside.succ_pos)
  have ahead :
      (bytes line).drop s.position =
        (bytes line)[s.position] :: (bytes line).drop (s.position + 1) :=
    List.drop_eq_getElem_cons within
  obtain ⟨parts, from_done, position, wide, written⟩ := scanned
  rw [ahead, List.take_succ_cons, List.forall_mem_cons] at wide
  refine ⟨{ s with position := s.position + 1, ordered := Nat.le_succ_of_le s.ordered },
    ?_, Nat.lt_succ_self _,
    parts, from_done, ?_, wide.2, written⟩
  · rw [Scan.round?, List.getElem?_eq_getElem within]
    dsimp only
    rw [found?_of_wide wide.1]
    rfl
  · dsimp only
    omega

/-- At the end of the line the text that is held back is written. -/
lemma Scanned.finish (scanned : Scanned line s done held [] 0) :
    s.round? nested line = some (.inr (rendition [] line)) := by
  obtain ⟨parts, from_done, position, -, written⟩ := scanned
  have here : (bytes line)[s.position]? = none := by
    rw [parts, ← Nat.add_zero s.position, position, getElem?_bytes]
    rfl
  have plain : beyond? s.plainFrom line = some held := by
    rw [parts, from_done, List.append_nil, beyond?_append]
  rw [Scan.round?, here]
  simp only [plain, Option.bind_eq_bind, Option.bind_some, Option.pure_def, ← written]
  rw [rendition, pieces, stream, List.flatMap_map]
  rfl

/-- What a round reads where a character starts. -/
lemma Scanned.here (scanned : Scanned line s done held (c :: cs) 0)
    (inner : ∀ label, size label < size line →
      nested label = some (Html.writeAll (inlineHtml label))) :
    (bytes line)[s.position]? = some (lead c) ∧
    s.found? nested line (lead c) = some (firstFound? s.opened c cs) := by
  have position : s.position = size (done ++ held) := scanned.position
  refine ⟨?_, found?_eq scanned.parts position inner⟩
  rw [scanned.parts, position, getElem?_bytes]
  rfl

/-- A character that starts no piece is held back, the scan standing behind its first byte. -/
lemma Scanned.hold (scanned : Scanned line s done held (c :: cs) 0)
    (plain : firstPiece? c cs = none) (inner : ∀ label, size label < size line →
      nested label = some (Html.writeAll (inlineHtml label))) :
    ∃ s', s.round? nested line = some (.inl s') ∧ s.position < s'.position ∧
      Scanned line s' done (held ++ [c]) cs (c.utf8Size - 1) := by
  obtain ⟨here, found⟩ := scanned.here inner
  obtain ⟨parts, from_done, position, -, written⟩ := scanned
  rw [Nat.add_zero] at position
  have positive := c.utf8Size_pos
  have nothing : firstFound? s.opened c cs = none := by rw [firstFound?, plain, Option.map_none]
  refine ⟨{ s with position := s.position + 1, ordered := Nat.le_succ_of_le s.ordered }, ?_,
    Nat.lt_succ_self _, ?_, from_done,
    ?_, ?_, ?_⟩
  · rw [Scan.round?, here]
    dsimp only
    rw [found, nothing]
    rfl
  · rw [parts]
    simp
  · dsimp only
    rw [← List.append_assoc, size_join, size_cons, size_nil]
    omega
  · dsimp only
    intro b there
    have split :
        (bytes line).drop (s.position + 1) = (String.utf8EncodeChar c).tail ++ bytes cs := by
      rw [parts, bytes_append, bytes_cons, position, List.drop_append, List.drop_of_length_le,
        List.nil_append, length_bytes]
      · have one : size (done ++ held) + 1 - size (done ++ held) = 1 := by omega
        rw [one, List.drop_succ_cons, List.drop_zero]
      · rw [length_bytes]
        omega
    have width : c.utf8Size - 1 = (String.utf8EncodeChar c).tail.length := by
      rw [List.length_tail, String.length_utf8EncodeChar]
    rw [split, width, List.take_left] at there
    exact wide_of_tail there
  · dsimp only
    rw [← written, rendition_char plain]
    simp

/-- A piece is written behind the text that is held back, and the scan stands behind the piece. -/
lemma Scanned.take (scanned : Scanned line s done held (c :: cs) 0)
    (piece : firstPiece? c cs = some (p, rest)) (inner : ∀ label, size label < size line →
      nested label = some (Html.writeAll (inlineHtml label))) :
    ∃ s' done', s.round? nested line = some (.inl s') ∧ s.position < s'.position ∧
      Scanned line s' done' [] rest 0 := by
  obtain ⟨here, found⟩ := scanned.here inner
  obtain ⟨parts, from_done, position, -, written⟩ := scanned
  rw [Nat.add_zero] at position
  obtain ⟨taken, rfl⟩ := firstPiece?_suffix piece
  have positive := size_pos c taken
  have width : size (c :: (taken ++ rest)) - size rest = size (c :: taken) := by
    simp only [size_cons, size_join]
    omega
  have plain : between? s.plainFrom s.position line = some held := by
    rw [parts, from_done, position, between?_append]
  rw [Scan.round?, here]
  dsimp only
  rw [found, firstFound?, piece]
  simp only [Option.map_some, width, Option.bind_eq_bind, Option.bind_some, plain,
    Option.pure_def, width_ofPiece]
  refine ⟨_, done ++ held ++ c :: taken, rfl, by dsimp only; omega, ?_, ?_, ?_, by simp, ?_⟩
  · rw [parts]
    simp
  · dsimp only
    rw [size_join _ (c :: taken), position]
  · dsimp only
    rw [List.append_nil, size_join _ (c :: taken), position, Nat.add_zero]
  · dsimp only
    rw [← written, rendition_piece piece (size (c :: taken)), List.append_nil, List.append_assoc]

lemma Scanned.round (scanned : Scanned line s done held rest inside)
    (inner : ∀ label, size label < size line →
      nested label = some (Html.writeAll (inlineHtml label))) :
    s.round? nested line = some (.inr (rendition [] line)) ∨
      ∃ s', s.round? nested line = some (.inl s') ∧
        size line - s'.position < size line - s.position ∧
        ∃ done held rest inside, Scanned line s' done held rest inside := by
  have short := scanned.position_lt
  cases inside with
  | succ inside =>
    obtain ⟨s', goes, further, kept⟩ := scanned.pass nested
    exact .inr
      ⟨s', goes, Nat.sub_lt_sub_left (short (.inl inside.succ_pos)) further, _, _, _, _, kept⟩
  | zero =>
    cases rest with
    | nil => exact .inl scanned.finish
    | cons c cs =>
      right
      cases first : firstPiece? c cs with
      | none =>
        obtain ⟨s', goes, further, kept⟩ := scanned.hold first inner
        exact ⟨s', goes, Nat.sub_lt_sub_left (short (.inr (List.cons_ne_nil c cs))) further, _, _,
          _, _, kept⟩
      | some found =>
        obtain ⟨s', done', goes, further, kept⟩ := scanned.take first inner
        exact ⟨s', goes, Nat.sub_lt_sub_left (short (.inr (List.cons_ne_nil c cs))) further, _, _,
          _, _, kept⟩

/-- The scan of a line comes to its end, with all that the line is rendered to. -/
lemma scanLine?_eq (line : List Char) :
    scanLine? line = some (Html.writeAll (inlineHtml line)) := by
  rw [scanLine?, ← rendition_inline]
  have inner (label : List Char) (shorter : size label < size line) :
      (if size label < size line then scanLine? label else none) =
        some (Html.writeAll (inlineHtml label)) := by
    rw [if_pos shorter]
    exact scanLine?_eq label
  refine untilDone_eq_some (fun s => ∃ done held rest inside,
    Scanned line s done held rest inside) ?_ ?_
  · rintro s ⟨done, held, rest, inside, scanned⟩
    exact scanned.round inner
  · exact ⟨[], [], line, 0, rfl, rfl, rfl, by simp, rfl⟩
termination_by size line

end Scans

end LayeredPage.Proofs
