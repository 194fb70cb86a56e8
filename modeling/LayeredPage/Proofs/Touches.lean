import LayeredPage.Input.Translator
import LayeredPage.Proofs.Exact
import Mathlib.Algebra.BigOperators.Group.List.Basic
import Mathlib.Data.Set.Card

/-!
# Touches

A touch is reported with its movement since it was last seen. The translator keeps one place for
each touch that was seen since it last ended, so it is enough to follow one identifier: what is
reported of it comes from the places at which it was listed, its movements add up to the way between
the first and the last of them, and other touches have no part in it. A touch that vanishes without
an end keeps its place, and one that begins under its identifier is taken to come from there.
-/

namespace LayeredPage

variable {α : Type}

def Interrupt.reports : Interrupt α → List (TouchReport α)
  | .touches _ reports => reports
  | _ => []

/-- The touch that a report is on. -/
def TouchReport.raw (report : TouchReport α) : RawTouch α := ⟨report.identifier, report.position⟩

namespace RawInput

/-- The touches that are to be reported. -/
def touched : RawInput α → List (RawTouch α)
  | .touchStart touches _ => touches
  | .touchMove touches => touches
  | .touchEnd changed => changed
  | _ => []

/-- All touches that are listed, in the order in which their places are noted. -/
def listed : RawInput α → List (RawTouch α)
  | .touchStart touches changed => touches ++ changed
  | input => input.touched

def ends (i : Int) : RawInput α → Bool
  | .touchEnd changed => changed.any fun touch => touch.identifier == i
  | _ => false

/-- What is left of an input when all other touches are left out. -/
def only (i : Int) : RawInput α → RawInput α
  | .touchStart touches changed =>
    .touchStart (touches.filter (·.identifier = i)) (changed.filter (·.identifier = i))
  | .touchMove touches => .touchMove (touches.filter (·.identifier = i))
  | .touchEnd changed => .touchEnd (changed.filter (·.identifier = i))
  | input => input

/-- At a start no identifier is listed twice, and the touches that just began are among the active
ones. -/
def Proper : RawInput α → Prop
  | .touchStart touches changed => (touches.map RawTouch.identifier).Nodup ∧ changed ⊆ touches
  | _ => True

end RawInput

end LayeredPage

namespace LayeredPage.Proofs

section Places

variable {t : InputTranslator ℚ} {i : Int} {touch : RawTouch ℚ} {touches : List (RawTouch ℚ)}
  {input : RawInput ℚ}

/-- The places at which the touch `i` is listed. -/
def places (i : Int) (touches : List (RawTouch ℚ)) : List (Point ℚ) :=
  (touches.filter (·.identifier = i)).map RawTouch.position

/-- The reports on the touch `i` when it is at one place after the other; `last` is where it was
before, if that is known. -/
def trail (i : Int) (last : Option (Point ℚ)) : List (Point ℚ) → List (TouchReport ℚ)
  | [] => []
  | place :: rest => ⟨place, i, place - last.getD place⟩ :: trail i (some place) rest

lemma place_note :
    (t.note touch).touches[i]? = if touch.identifier =
      i then some touch.position else t.touches[i]? := by
  simp only [InputTranslator.note, Std.ExtTreeMap.getElem?_insert,
    Std.LawfulEqCmp.compare_eq_iff_eq]

lemma place_forget :
    (t.forget touch).touches[i]? = if touch.identifier = i then none else t.touches[i]? := by
  simp only [InputTranslator.forget, Std.ExtTreeMap.getElem?_erase,
    Std.LawfulEqCmp.compare_eq_iff_eq]

lemma places_cons : places i (touch :: touches) =
    if touch.identifier = i then touch.position :: places i touches else places i touches := by
  simp only [places, List.filter_cons, decide_eq_true_eq]
  split <;> rfl

lemma places_append (more : List (RawTouch ℚ)) :
    places i (touches ++ more) = places i touches ++ places i more := by
  simp only [places, List.filter_append, List.map_append]

lemma places_eq_nil : places i touches = [] ↔ i ∉ touches.map RawTouch.identifier := by
  simp [places, List.filter_eq_nil_iff]

/-- A touch that is listed once has one place. -/
lemma places_of_mem (distinct : (touches.map RawTouch.identifier).Nodup) (there : touch ∈ touches) :
    places touch.identifier touches = [touch.position] := by
  induction touches with
  | nil => cases there
  | cons first touches ih =>
    obtain ⟨once, distinct⟩ := List.nodup_cons.1 distinct
    rw [places_cons]
    obtain rfl | there := List.mem_cons.1 there
    · rw [if_pos rfl, places_eq_nil.2 once]
    · have other : first.identifier ≠ touch.identifier :=
        fun same => once (same ▸ List.mem_map_of_mem there)
      rw [if_neg other, ih distinct there]

/-- The last place at which a touch is listed is the one that is noted. -/
lemma place_notes :
    (touches.foldl InputTranslator.note t).touches[i]? =
      (places i touches).getLast?.or t.touches[i]? := by
  induction touches generalizing t with
  | nil => rfl
  | cons touch touches ih =>
    rw [List.foldl_cons, ih, place_note, places_cons]
    split
    · rw [List.getLast?_cons]
      cases (places i touches).getLast? <;> rfl
    · rfl

lemma place_forgets : (touches.foldl InputTranslator.forget t).touches[i]? =
    if touches.any (·.identifier == i) then none else t.touches[i]? := by
  induction touches generalizing t with
  | nil => rfl
  | cons touch touches ih =>
    rw [List.foldl_cons, ih, place_forget, List.any_cons]
    by_cases same : touch.identifier = i <;> simp [same]

lemma track_notes : (t.track touches).2 = touches.foldl InputTranslator.note t := by
  induction touches generalizing t with
  | nil => rfl
  | cons touch touches ih => exact ih

lemma reports_track :
    (t.track touches).1.filter (·.identifier = i) = trail i t.touches[i]? (places i touches) := by
  induction touches generalizing t with
  | nil => rfl
  | cons touch touches ih =>
    have step : (t.track (touch :: touches)).1 =
        ⟨touch.position, touch.identifier,
          touch.position - t.touches[touch.identifier]?.getD touch.position⟩ ::
          ((t.note touch).track touches).1 := rfl
    rw [step, List.filter_cons, ih, place_note, places_cons]
    by_cases same : touch.identifier = i
    · simp only [same, decide_true, if_true, trail]
    · simp only [same, decide_false, if_false, Bool.false_eq_true]

/-- Where the touch `i` is after an input: nowhere if it ended, else where it was listed last. -/
def whereabouts (i : Int) (last : Option (Point ℚ)) (input : RawInput ℚ) : Option (Point ℚ) :=
  if input.ends i then none else (places i input.listed).getLast?.or last

lemma place_translate : (t.translate input).2.touches[i]? = whereabouts i t.touches[i]? input := by
  cases input with
  | mouse event position button modifiers =>
    simp only [InputTranslator.translate, InputTranslator.mouse]
    split <;> rfl
  | wheel position delta modifiers => rfl
  | key event name modifiers isRepeat => rfl
  | touchStart touches changed =>
    change (changed.foldl InputTranslator.note (t.track touches).2).touches[i]? =
      (places i (touches ++ changed)).getLast?.or _
    rw [track_notes, ← List.foldl_append, place_notes]
  | touchMove touches =>
    change (t.track touches).2.touches[i]? = (places i touches).getLast?.or _
    rw [track_notes, place_notes]
  | touchEnd changed =>
    change (changed.foldl InputTranslator.forget (t.track changed).2).touches[i]? =
      if changed.any (·.identifier == i) then none else (places i changed).getLast?.or _
    rw [place_forgets, track_notes, place_notes]

lemma raw_track : (t.track touches).1.map TouchReport.raw = touches := by
  induction touches generalizing t with
  | nil => rfl
  | cons touch touches ih => exact congrArg (touch :: ·) ih

/-- An input reports the touches that it lists to that end. The clap after a start is no report. -/
lemma reports_translate :
    (t.translate input).1.flatMap Interrupt.reports = (t.track input.touched).1 := by
  cases input with
  | mouse event position button modifiers =>
    simp only [InputTranslator.translate, InputTranslator.mouse]
    split <;> rfl
  | wheel position delta modifiers => rfl
  | key event name modifiers isRepeat => rfl
  | touchStart touches changed =>
    rcases touches with _ | ⟨first, rest⟩
    · rfl
    · exact List.append_nil _
  | touchMove touches => exact List.flatMap_singleton ..
  | touchEnd changed => exact List.flatMap_singleton ..

end Places

section Trails

variable {i : Int} {last : Option (Point ℚ)} {route more : List (Point ℚ)}

lemma trail_append :
    trail i last (route ++ more) = trail i last route ++ trail i (route.getLast?.or last) more := by
  induction route generalizing last with
  | nil => rfl
  | cons place route ih =>
    rw [List.cons_append, trail, ih, List.getLast?_cons, trail, List.cons_append]
    cases route.getLast? <;> rfl

lemma position_trail : (trail i last route).map TouchReport.position = route := by
  induction route generalizing last with
  | nil => rfl
  | cons place route ih => exact congrArg (place :: ·) ih

lemma sum_trail (start : Point ℚ) :
    ((trail i (some start) route).map TouchReport.delta).sum =
      route.getLast?.getD start - start := by
  induction route generalizing start with
  | nil => exact (sub_self start).symm
  | cons place route ih =>
    rw [trail, List.map_cons, List.sum_cons, ih, List.getLast?_cons, Option.getD_some,
      Option.getD_some, add_comm]
    exact sub_add_sub_cancel ..

/-- The first of these movements is none, and together they lead from the first place to the
last. -/
def AddUp (reports : List (TouchReport ℚ)) : Prop :=
  ∀ first ∈ reports.head?, ∀ last ∈ reports.getLast?,
    first.delta = 0 ∧ (reports.map TouchReport.delta).sum = last.position - first.position

lemma addUp_trail : AddUp (trail i none route) := by
  rcases route with _ | ⟨place, route⟩
  · rintro first ⟨⟩
  · rintro first ⟨rfl⟩ last there
    have still : place - (none : Option (Point ℚ)).getD place = 0 := sub_self place
    have ended : last.position = route.getLast?.getD place := by
      have positions : ((trail i none (place :: route)).map TouchReport.position).getLast? =
          (place :: route).getLast? :=
        congrArg List.getLast? position_trail
      rw [List.getLast?_map, there, List.getLast?_cons] at positions
      exact Option.some.inj positions
    refine ⟨still, ?_⟩
    rw [trail, List.map_cons, List.sum_cons, sum_trail, still, zero_add, ended]

end Trails

section Histories

variable {t u : InputTranslator ℚ} {i : Int} {input : RawInput ℚ}
  {inputs others : List (RawInput ℚ)}

/-- The translator after some inputs. -/
def translated (t : InputTranslator ℚ) (inputs : List (RawInput ℚ)) : InputTranslator ℚ :=
  inputs.foldl (fun t input => (t.translate input).2) t

/-- What inputs report of touches, in order. -/
def reported (t : InputTranslator ℚ) : List (RawInput ℚ) → List (TouchReport ℚ)
  | [] => []
  | input :: inputs =>
    (t.translate input).1.flatMap Interrupt.reports ++ reported (t.translate input).2 inputs

/-- What they report of the touch `i`. -/
def reportedOf (i : Int) (t : InputTranslator ℚ) (inputs : List (RawInput ℚ)) :
    List (TouchReport ℚ) :=
  (reported t inputs).filter (·.identifier = i)

/-- Since the touch `i` last ended, there was an input with this property. -/
def SinceEnd (i : Int) (p : RawInput ℚ → Prop) (inputs : List (RawInput ℚ)) : Prop :=
  ∃ input since, input :: since <:+ inputs ∧ p input ∧ ∀ later ∈ input :: since,
    later.ends i = false

/-- Where the touch `i` was listed last since it last ended. -/
def lastSeen (i : Int) (inputs : List (RawInput ℚ)) : Option (Point ℚ) :=
  inputs.foldl (whereabouts i) none

lemma place_translated :
    (translated t inputs).touches[i]? = inputs.foldl (whereabouts i) t.touches[i]? := by
  induction inputs generalizing t with
  | nil => rfl
  | cons input inputs ih => exact ih.trans (congrArg (inputs.foldl (whereabouts i)) place_translate)

lemma place_start : (translated .start inputs).touches[i]? = lastSeen i inputs :=
  place_translated.trans (congrArg (inputs.foldl (whereabouts i)) Std.ExtTreeMap.getElem?_empty)

lemma reportedOf_cons :
    reportedOf i t (input :: inputs) = trail i t.touches[i]? (places i input.touched) ++
      reportedOf i (t.translate input).2 inputs := by
  rw [reportedOf, reported, List.filter_append, reports_translate, reports_track]
  rfl

/-- A proper input leaves every touch where it reports it. -/
lemma listed_proper (proper : input.Proper) :
    (places i input.listed).getLast? = (places i input.touched).getLast? := by
  cases input with
  | touchStart touches changed =>
    obtain ⟨distinct, among⟩ := proper
    change (places i (touches ++ changed)).getLast? = (places i touches).getLast?
    rw [places_append, List.getLast?_append]
    cases began : (places i changed).getLast? with
    | none => rfl
    | some place =>
      obtain ⟨touch, found, rfl⟩ := List.mem_map.1 (List.mem_of_getLast? began)
      obtain ⟨there, same⟩ := List.mem_filter.1 found
      obtain rfl : touch.identifier = i := of_decide_eq_true same
      rw [places_of_mem distinct (among there)]
      rfl
  | _ => rfl

/-- While a touch does not end, its places are followed from one input to the next. -/
lemma reportedOf_eq_trail (proper : ∀ input ∈ inputs, input.Proper)
    (going : ∀ input ∈ inputs.dropLast, input.ends i = false) :
    reportedOf i t inputs =
      trail i t.touches[i]? (inputs.flatMap fun input => places i input.touched) := by
  induction inputs generalizing t with
  | nil => rfl
  | cons input inputs ih =>
    obtain ⟨here, onward⟩ := List.forall_mem_cons.1 proper
    rw [reportedOf_cons, List.flatMap_cons, trail_append]
    -- What the last input does to the touch no longer matters, so that may be its end.
    rcases inputs with _ | ⟨next, inputs⟩
    · rfl
    · rw [List.dropLast_cons_cons] at going
      obtain ⟨goes, going⟩ := List.forall_mem_cons.1 going
      rw [ih onward going, place_translate, whereabouts,
        if_neg (by simp [goes]), listed_proper here]

lemma places_only (touches : List (RawTouch ℚ)) :
    places i (touches.filter (·.identifier = i)) = places i touches := by
  rw [places, List.filter_filter, places]
  simp only [Bool.and_self]

lemma touched_only : places i (input.only i).touched = places i input.touched := by
  cases input with
  | touchStart touches changed => exact places_only touches
  | touchMove touches => exact places_only touches
  | touchEnd changed => exact places_only changed
  | _ => rfl

lemma listed_only : places i (input.only i).listed = places i input.listed := by
  cases input with
  | touchStart touches changed =>
    change places i (_ ++ _) = places i (touches ++ changed)
    rw [places_append, places_append, places_only, places_only]
  | touchMove touches => exact places_only touches
  | touchEnd changed => exact places_only changed
  | _ => rfl

lemma ends_only : (input.only i).ends i = input.ends i := by
  cases input with
  | touchEnd changed =>
    change (changed.filter _).any _ = changed.any _
    rw [List.any_filter]
    exact congrArg changed.any (funext fun touch => by simp [beq_eq_decide])
  | _ => rfl

lemma whereabouts_only (last : Option (Point ℚ)) :
    whereabouts i last (input.only i) = whereabouts i last input := by
  rw [whereabouts, whereabouts, listed_only, ends_only]

/-- Inputs that list the touch `i` alike report it alike. -/
lemma reportedOf_congr (alike : inputs.map (RawInput.only i) = others.map (RawInput.only i))
    (same : t.touches[i]? = u.touches[i]?) :
    reportedOf i t inputs = reportedOf i u others := by
  induction inputs generalizing t u others with
  | nil =>
    obtain rfl : others = [] := List.map_eq_nil_iff.1 alike.symm
    rfl
  | cons input inputs ih =>
    obtain ⟨other, others, rfl, here, onward⟩ := List.map_eq_cons_iff.1 alike.symm
    have next : (t.translate input).2.touches[i]? = (u.translate other).2.touches[i]? := by
      rw [place_translate, place_translate, ← whereabouts_only, ← here, whereabouts_only, same]
    rw [reportedOf_cons, reportedOf_cons, same, ih onward.symm next, ← touched_only,
      ← here, touched_only]

lemma sinceEnd_concat {p : RawInput ℚ → Prop} :
    SinceEnd i p (inputs ++ [input]) ↔ input.ends i = false ∧ (p input ∨ SinceEnd i p inputs) := by
  constructor
  · rintro ⟨first, since, suffix, holds, going⟩
    obtain nothing | ⟨before, all, early⟩ := List.suffix_concat_iff.1 suffix
    · cases nothing
    · rw [all, List.forall_mem_append, List.forall_mem_singleton] at going
      refine ⟨going.2, ?_⟩
      rcases before with _ | ⟨_, before⟩
      · obtain ⟨rfl, -⟩ := List.cons.inj all
        exact .inl holds
      · obtain ⟨rfl, rfl⟩ := List.cons.inj all
        exact .inr ⟨first, before, early, holds, going.1⟩
  · rintro ⟨goes, holds | ⟨first, since, suffix, holds, going⟩⟩
    · exact ⟨input, [], List.suffix_append .., holds, List.forall_mem_singleton.2 goes⟩
    · have all : ∀ later ∈ first :: since ++ [input], later.ends i = false :=
        List.forall_mem_append.2 ⟨going, List.forall_mem_singleton.2 goes⟩
      exact ⟨first, since ++ [input],
        List.suffix_concat_iff.2 (.inr ⟨first :: since, rfl, suffix⟩), holds, all⟩

lemma lastSeen_concat :
    lastSeen i (inputs ++ [input]) = whereabouts i (lastSeen i inputs) input := by
  simp only [lastSeen, List.foldl_append, List.foldl_cons, List.foldl_nil]

/-- A touch has a place as long as it was listed since it last ended. -/
lemma isSome_lastSeen :
    (lastSeen i inputs).isSome ↔
    SinceEnd i (fun input => i ∈ input.listed.map RawTouch.identifier) inputs := by
  induction inputs using List.reverseRecOn with
  | nil => simp [lastSeen, SinceEnd]
  | append_singleton inputs input ih =>
    have named : ((places i input.listed).getLast?).isSome ↔
        i ∈ input.listed.map RawTouch.identifier := by
      rw [List.getLast?_isSome, ne_eq, places_eq_nil, not_not]
    rw [lastSeen_concat, sinceEnd_concat, ← ih, ← named, whereabouts]
    cases input.ends i <;> simp [Option.isSome_or]

lemma lastSeen_afresh (afresh : ∀ input ∈ inputs.getLast?, input.ends i = true) :
    lastSeen i inputs = none := by
  rcases List.eq_nil_or_concat' inputs with rfl | ⟨before, input, rfl⟩
  · rfl
  · rw [lastSeen_concat, whereabouts, if_pos (afresh input List.getLast?_concat)]

lemma raw_reported : (reported t inputs).map TouchReport.raw = inputs.flatMap RawInput.touched := by
  induction inputs generalizing t with
  | nil => rfl
  | cons input inputs ih =>
    rw [reported, List.map_append, reports_translate, raw_track, ih, List.flatMap_cons]

lemma listed_iff_touched (proper : input.Proper) :
    i ∈ input.listed.map RawTouch.identifier ↔ i ∈ input.touched.map RawTouch.identifier := by
  cases input with
  | touchStart touches changed =>
    have began : changed.map RawTouch.identifier ⊆ touches.map RawTouch.identifier :=
      List.map_subset _ proper.2
    change i ∈ (touches ++ changed).map RawTouch.identifier ↔ i ∈ touches.map RawTouch.identifier
    rw [List.map_append, List.mem_append]
    exact or_iff_left_of_imp (@began i)
  | _ => rfl

lemma SinceEnd.mono {p q : RawInput ℚ → Prop} (since : SinceEnd i p inputs)
    (more : ∀ input ∈ inputs, p input → q input) :
    SinceEnd i q inputs := by
  obtain ⟨input, onward, suffix, holds, going⟩ := since
  exact ⟨input, onward, suffix, more input (suffix.subset List.mem_cons_self) holds, going⟩

/-- The translator keeps one place for each touch. -/
lemma encard_places (t : InputTranslator ℚ) :
    {i : Int | t.touches[i]?.isSome}.encard = t.activeTouches := by
  have keys : {i : Int | t.touches[i]?.isSome} = (t.touches.keys.toFinset : Set Int) := by
    ext i
    rw [List.coe_toFinset, Set.mem_ofPred_eq, Set.mem_ofPred_eq, Std.ExtTreeMap.mem_keys,
      Std.ExtTreeMap.mem_iff_isSome_getElem?]
  rw [keys, Set.encard_coe_eq_coe_finsetCard, List.toFinset_card_of_nodup Std.ExtTreeMap.nodup_keys,
    Std.ExtTreeMap.length_keys]
  rfl

end Histories

section Results

/-- What inputs report of touches are the touches that they list. From the first report on a touch
since it last ended up to any later one, also that of its end, its movements add up to the way from
the first place to the last, and the first of them is none. They are the same whatever happens to
other touches, and as many touches are active as were reported since they last ended. -/
theorem touches_of_inputs (inputs : List (RawInput ℚ)) (proper : ∀ input ∈ inputs, input.Proper) :
    (reported .start inputs).map TouchReport.raw = inputs.flatMap RawInput.touched ∧
    (∀ i before during, inputs = before ++ during →
      (∀ input ∈ before.getLast?, input.ends i = true) →
      (∀ input ∈ during.dropLast, input.ends i = false) →
      AddUp (reportedOf i (translated .start before) during)) ∧
    (∀ i others, inputs.map (RawInput.only i) = others.map (RawInput.only i) →
      reportedOf i .start inputs = reportedOf i .start others) ∧
    {i | SinceEnd i (fun input => i ∈ input.touched.map RawTouch.identifier) inputs}.encard =
      (translated .start inputs).activeTouches := by
  refine ⟨raw_reported, ?_, fun i others alike => reportedOf_congr alike rfl, ?_⟩
  · rintro i before during rfl afresh going
    rw [reportedOf_eq_trail (fun input there => proper input (List.mem_append_right _ there)) going,
      place_start,
      lastSeen_afresh afresh]
    exact addUp_trail
  · have active (i : Int) :
      SinceEnd i (fun input => i ∈ input.touched.map RawTouch.identifier) inputs ↔
        (translated .start inputs).touches[i]?.isSome := by
      rw [place_start, isSome_lastSeen]
      exact ⟨fun since => since.mono fun input there => (listed_iff_touched (proper input there)).2,
        fun since => since.mono fun input there => (listed_iff_touched (proper input there)).1⟩
    rw [← encard_places]
    exact congrArg Set.encard (Set.ext active)

/-- Two touches, of which the first ends and comes back elsewhere while the second goes on. -/
def pinch : List (RawInput ℚ) :=
  [.touchStart [⟨1, ⟨10, 10⟩⟩] [⟨1, ⟨10, 10⟩⟩],
    .touchStart [⟨1, ⟨12, 10⟩⟩, ⟨2, ⟨50, 50⟩⟩] [⟨2, ⟨50, 50⟩⟩],
    .touchMove [⟨2, ⟨45, 50⟩⟩, ⟨1, ⟨14, 7⟩⟩], .touchEnd [⟨1, ⟨15, 7⟩⟩],
    .touchStart [⟨2, ⟨40, 50⟩⟩, ⟨1, ⟨90, 90⟩⟩] [⟨1, ⟨90, 90⟩⟩],
    .touchMove [⟨1, ⟨80, 90⟩⟩, ⟨2, ⟨40, 51⟩⟩], .touchEnd [⟨2, ⟨40, 52⟩⟩]]

theorem touches_of_a_pinch : (∀ input ∈ pinch, input.Proper) ∧
    AddUp (reportedOf 1 (translated .start (pinch.take 4)) (pinch.drop 4)) ∧
    ((reportedOf 1 (translated .start (pinch.take 4)) (pinch.drop 4)).map TouchReport.delta).sum =
      ⟨-10, 0⟩ ∧
    ((reportedOf 2 .start pinch).map TouchReport.delta).sum = ⟨-10, 2⟩ ∧
    {i | SinceEnd i (fun input => i ∈ input.touched.map RawTouch.identifier) pinch}.encard = 1 := by
  have proper : ∀ input ∈ pinch, input.Proper := by simp [pinch, RawInput.Proper]
  obtain ⟨_, sums, _, active⟩ := touches_of_inputs pinch proper
  have again := sums 1 (pinch.take 4) (pinch.drop 4) rfl (by decide +kernel) (by decide +kernel)
  have count : (translated .start pinch).activeTouches = 1 := by decide +kernel
  refine ⟨proper, again, by decide +kernel, by decide +kernel, ?_⟩
  rw [active, count]
  rfl

section Beginnings

variable (inputs : List (RawInput ℚ)) {touches changed : List (RawTouch ℚ)} {touch : RawTouch ℚ}

lemma reportedOf_begun (distinct : (touches.map RawTouch.identifier).Nodup)
    (among : changed ⊆ touches) (began : touch ∈ changed) :
    reportedOf touch.identifier (translated .start inputs) [.touchStart touches changed] =
      [⟨touch.position, touch.identifier,
        touch.position - (lastSeen touch.identifier inputs).getD touch.position⟩] := by
  have once : places touch.identifier touches = [touch.position] :=
    places_of_mem distinct (among began)
  rw [reportedOf_cons, place_start]
  change trail touch.identifier _ (places touch.identifier touches) ++ [] = _
  rw [once]
  rfl

/-- At a start, each touch that just began is reported once, with its movement since it was last
seen. That is none if the touch was not listed since it last ended. -/
theorem beginnings_of_inputs (distinct : (touches.map RawTouch.identifier).Nodup)
    (among : changed ⊆ touches) (began : touch ∈ changed) :
    reportedOf touch.identifier (translated .start inputs) [.touchStart touches changed] =
        [⟨touch.position, touch.identifier,
          touch.position - (lastSeen touch.identifier inputs).getD touch.position⟩] ∧
      (¬SinceEnd touch.identifier
        (fun input => touch.identifier ∈ input.listed.map RawTouch.identifier) inputs →
        reportedOf touch.identifier (translated .start inputs) [.touchStart touches changed] =
          [⟨touch.position, touch.identifier, 0⟩]) := by
  refine ⟨reportedOf_begun inputs distinct among began, fun fresh => ?_⟩
  have unseen : lastSeen touch.identifier inputs = none :=
    Option.not_isSome_iff_eq_none.1 fun seen => fresh (isSome_lastSeen.1 seen)
  rw [reportedOf_begun inputs distinct among began, unseen, Option.getD_none, sub_self]

/-- The first touch of the pinch comes back at another place than the one at which it ended. -/
theorem beginning_of_a_pinch :
    (([⟨2, ⟨40, 50⟩⟩, ⟨1, ⟨90, 90⟩⟩] : List (RawTouch ℚ)).map RawTouch.identifier).Nodup ∧
    reportedOf 1 (translated .start (pinch.take 4))
    [.touchStart [⟨2, ⟨40, 50⟩⟩, ⟨1, ⟨90, 90⟩⟩] [⟨1, ⟨90, 90⟩⟩]] =
      [⟨⟨90, 90⟩, 1, 0⟩] := by
  have distinct :
      (([⟨2, ⟨40, 50⟩⟩, ⟨1, ⟨90, 90⟩⟩] : List (RawTouch ℚ)).map RawTouch.identifier).Nodup := by
        decide
  have unseen : (lastSeen 1 (pinch.take 4)).isSome = false := by decide +kernel
  refine ⟨distinct, ?_⟩
  exact (beginnings_of_inputs (pinch.take 4) distinct (by simp)
    (List.mem_singleton_self ⟨1, ⟨90, 90⟩⟩)).2
    fun since => absurd (isSome_lastSeen.2 since) (by simp [unseen])

/-- A touch begins, vanishes without an end, and begins again at another place: it is reported as if
it had moved there. -/
theorem returning_touch_jumps :
    ¬∀ (inputs : List (RawInput ℚ)) (touches changed : List (RawTouch ℚ)),
    (touches.map RawTouch.identifier).Nodup → changed ⊆ touches → ∀ touch ∈ changed,
      ∃ report ∈ reported (translated .start inputs) [.touchStart touches changed],
        report.identifier = touch.identifier ∧ report.delta = 0 := by
  intro still
  let early : RawTouch ℚ := ⟨1, ⟨0, 0⟩⟩
  let late : RawTouch ℚ := ⟨1, ⟨5, 5⟩⟩
  have once : ([late].map RawTouch.identifier).Nodup := List.nodup_singleton 1
  have jump :
      reportedOf 1 (translated .start [.touchStart [early] [early]]) [.touchStart [late] [late]] =
        [⟨late.position, 1, late.position - early.position⟩] :=
    reportedOf_begun _ once (List.Subset.refl _) (List.mem_singleton_self late)
  obtain ⟨report, there, same, none⟩ :=
    still [.touchStart [early] [early]] [late] [late] once (List.Subset.refl _) late
    (List.mem_singleton_self late)
  have found : report ∈ reportedOf 1 _ _ := List.mem_filter.2 ⟨there, decide_eq_true same⟩
  rw [jump, List.mem_singleton] at found
  rw [found] at none
  exact absurd none (by decide +kernel)

end Beginnings

end Results

end LayeredPage.Proofs
