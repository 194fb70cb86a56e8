import LayeredPage.Proofs.Rendering

/-!
# Writing piece by piece

What a tree is written as is cut here into the renderer's own marks and the values that it takes
over from the text. A line is written in one pass over its pieces: only the markers that are open
have to be kept, for what they hold has been written by then.
-/

namespace LayeredPage.Proofs

open Markdown Text

/-- A part of the written text. -/
inductive Segment where
  | mark (text : List Char)
  /-- A value of the source that the renderer escapes. -/
  | value (source : List Char)

def Segment.text : Segment → List Char
  | .mark text => text
  | .value source => escapeValue source

mutual

/-- The parts of a tree, in the order in which they are written. -/
def segments : Html → List Segment
  | .char c => [.mark [c]]
  | .lineBreak => [.mark "<br />".toList]
  | .rule => [.mark "<hr />".toList]
  | .image source alternative =>
    [.mark "<img src=\"".toList, .value source, .mark "\" alt=\"".toList, .value alternative,
      .mark "\">".toList]
  | .code body => [.mark "<code>".toList, .value body, .mark "</code>".toList]
  | .link target body =>
    .mark "<a href=\"".toList :: .value target :: .mark "\">".toList ::
      (segmentsAll body ++ [.mark "</a>".toList])
  | .element tag body =>
    .mark (Html.openTag tag) :: (segmentsAll body ++ [.mark (Html.closeTag tag)])

def segmentsAll : List Html → List Segment
  | [] => []
  | h :: rest => segments h ++ segmentsAll rest

end

/-- The parts of a line whose pieces come one by one; `opened` are the open markers, innermost
first. -/
def stream : List Marker → List Piece → List Segment
  | opened, [] => opened.map fun m => .mark (Html.closeTag m.tag)
  | opened, .html h :: ps => segments h ++ stream opened ps
  | opened, .marker m :: ps =>
    if opened.head? = some m then .mark (Html.closeTag m.tag) :: stream opened.tail ps
    else .mark (Html.openTag m.tag) :: stream (m :: opened) ps

/-- What has been written once these markers are open. -/
def writtenBefore : List OpenMarker → List Segment
  | [] => []
  | o :: outer =>
    writtenBefore outer ++ segmentsAll o.before.reverse ++ [.mark (Html.openTag o.marker.tag)]

section Writing

mutual

lemma text_segments (h : Html) : (segments h).flatMap Segment.text = h.write := by
  cases h with
  | char | lineBreak | rule => exact List.append_nil _
  | image | code =>
    simp only [segments, List.flatMap_cons, List.flatMap_nil, List.append_nil, ← List.append_assoc]
    rfl
  | link target body | element tag body =>
    simp only [segments, List.flatMap_cons, List.flatMap_append, text_segmentsAll body,
      List.flatMap_nil, List.append_nil,
      ← List.append_assoc]
    rfl

/-- The parts of a tree are all that is written. -/
lemma text_segmentsAll (hs : List Html) :
    (segmentsAll hs).flatMap Segment.text = Html.writeAll hs := by
  cases hs with
  | nil => rfl
  | cons h rest =>
    rw [segmentsAll, Html.writeAll, List.flatMap_append, text_segments h, text_segmentsAll rest]

end

lemma segmentsAll_append (hs hs' : List Html) :
    segmentsAll (hs ++ hs') = segmentsAll hs ++ segmentsAll hs' := by
  induction hs with
  | nil => rfl
  | cons h hs ih => rw [List.cons_append, segmentsAll, ih, segmentsAll, List.append_assoc]

lemma mem_segmentsAll {s : Segment} {hs : List Html} :
    s ∈ segmentsAll hs ↔ ∃ h ∈ hs, s ∈ segments h := by
  induction hs with
  | nil => simp [segmentsAll]
  | cons h hs ih => simp [segmentsAll, ih]

lemma segmentsAll_element (m : Marker) (current before : List Html) :
    segmentsAll ((Html.element m.tag current.reverse :: before).reverse) =
      segmentsAll before.reverse ++ .mark (Html.openTag m.tag) ::
        (segmentsAll current.reverse ++ [.mark (Html.closeTag m.tag)]) := by
  rw [List.reverse_cons, segmentsAll_append, segmentsAll, segmentsAll, segments, List.append_nil]

lemma segmentsAll_closeAll (current : List Html) (opened : List OpenMarker) :
    segmentsAll (closeAll current opened) =
      writtenBefore opened ++ segmentsAll current.reverse ++ opened.map fun o =>
        .mark (Html.closeTag o.marker.tag) := by
  induction opened generalizing current with
  | nil => simp [closeAll, writtenBefore]
  | cons o opened ih =>
    rw [closeAll, ih, segmentsAll_element]
    simp [writtenBefore]

lemma segmentsAll_nestIn (ps : List Piece) (opened : List OpenMarker) (current : List Html) :
    segmentsAll (nestIn opened current ps) =
      writtenBefore opened ++ segmentsAll current.reverse ++ stream (opened.map (·.marker)) ps := by
  induction ps generalizing opened current with
  | nil => simp [nestIn, segmentsAll_closeAll, stream]
  | cons p ps ih =>
    cases p with
    | html h =>
      rw [nestIn, ih, stream, List.reverse_cons, segmentsAll_append]
      simp [segmentsAll]
    | marker m =>
      cases opened with
      | nil =>
        rw [nestIn, ih]
        simp [stream, writtenBefore, segmentsAll]
      | cons o outer =>
        rw [nestIn, stream]
        by_cases same : o.marker = m
        · subst same
          rw [if_pos rfl, ih, segmentsAll_element]
          simp [writtenBefore]
        · rw [if_neg same, ih]
          simp [writtenBefore, segmentsAll, same]

/-- Nesting first and writing then is the same as writing piece by piece. -/
lemma segmentsAll_nest (ps : List Piece) : segmentsAll (nest ps) = stream [] ps := by
  rw [nest, segmentsAll_nestIn]
  rfl

/-- Markers hold no values. -/
lemma value_stream {source : List Char} {opened : List Marker} {ps : List Piece}
    (written : .value source ∈ stream opened ps) :
    ∃ h, .html h ∈ ps ∧ .value source ∈ segments h := by
  induction ps generalizing opened with
  | nil => simp [stream] at written
  | cons p ps ih =>
    have later {opened : List Marker} (written : .value source ∈ stream opened ps) :
        ∃ h, .html h ∈ p :: ps ∧ .value source ∈ segments h := by
      obtain ⟨h, there, written⟩ := ih written
      exact ⟨h, List.mem_cons_of_mem _ there, written⟩
    cases p with
    | html h =>
      rw [stream, List.mem_append] at written
      obtain here | written := written
      · exact ⟨h, List.mem_cons_self, here⟩
      · exact later written
    | marker m =>
      rw [stream] at written
      split at written
      all_goals
        obtain same | written := List.mem_cons.1 written
        · cases same
        · exact later written

end Writing

end LayeredPage.Proofs
