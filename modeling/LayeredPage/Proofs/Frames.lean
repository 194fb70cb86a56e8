import LayeredPage.Proofs.Paths
import LayeredPage.Proofs.Placement

/-!
# Frames and the core

What a frame puts to its surroundings, in order: it asks for the movement of the scrollers and
reports it, clears the canvases, ticks, applies the batch, paints if all of it was applied, and
hands the batch back. The viewport is announced once, by the first frame whose batch can be read.
All of this holds for every page and every core, whatever they reply and whatever they do between
two frames.
-/

namespace LayeredPage.Proofs

/-! ## The patches of a batch -/

/-- Patches are applied up to the first that is refused, with these exchanges. -/
inductive Applies :
    Scene → List Patch → List (Exchange Patching) → Except PatchError Unit → Scene → Prop where
  | done (s : Scene) : Applies s [] [] (.ok ()) s
  | next {s s₁ s' : Scene} {p : Patch} {ps : List Patch} {log later : List (Exchange Patching)}
    {r : Except PatchError Unit} :
      Does (Scene.apply p) s log (.ok ()) s₁ → Applies s₁ ps later r s' →
      Applies s (p :: ps) (log ++ later) r s'
  | refused {s s' : Scene} {p : Patch} {ps : List Patch} {log : List (Exchange Patching)}
    {why : PatchError} :
      Does (Scene.apply p) s log (.error why) s' → Applies s (p :: ps) log (.error why) s'

lemma applies_of_does {ps : List Patch} {s s' : Scene} {log : List (Exchange Patching)}
    {r : Except PatchError Unit}
    (does : Does (Scene.applyAll ps) s log r s') : Applies s ps log r s' := by
  induction ps generalizing s log with
  | nil =>
    obtain ⟨rfl, rfl, rfl⟩ := does_pure.1 does
    exact .done _
  | cons p ps ih =>
    rcases does_bind.1 does with ⟨before, _, s₁, after, first, second, rfl⟩ | ⟨why, first, rfl⟩
    · exact .next first (ih second)
    · exact .refused first

/-! ## The parts of a frame -/

/-- An exchange of a patch within a frame. -/
def patched (x : Exchange Patching) : Exchange Framing := ⟨.patch x.1, x.2⟩

section Parts

variable {α : Type} {a : α} {log : List (Exchange Framing)} {c c' : Chassis}

lemma path_embed {script : Script Patching α} (path : Path (script.embed framePatching) log a) :
    ∃ inner, Path script inner a ∧ log = inner.map patched := by
  induction script generalizing log with
  | done a =>
    cases path
    exact ⟨[], .done a, rfl⟩
  | ask r next ih =>
    cases path with
    | @ask _ _ reply log _ rest =>
      obtain ⟨inner, path, rfl⟩ := ih reply rest
      exact ⟨⟨r, reply⟩ :: inner, .ask path, rfl⟩
  | broken why => cases path

lemma does_onScene {act : Work Scene α} {r : Except PatchError α}
    (does : Does (Chassis.onScene act) c log r c') :
    ∃ inner s', Does act c.scene inner r s' ∧ log = inner.map patched ∧
      c' = { c with scene := s' } := by
  have key : Chassis.onScene act c = (act c.scene).embed framePatching >>= fun p =>
      pure (p.1, { c with scene := p.2 }) := rfl
  unfold Does at does
  rw [key] at does
  obtain ⟨before, ⟨r', s'⟩, after, path, done, rfl⟩ := path_bind.1 does
  obtain ⟨rfl, same⟩ := path_pure.1 done
  cases same
  obtain ⟨inner, within, rfl⟩ := path_embed path
  exact ⟨inner, s', within, List.append_nil _, rfl⟩

/-- The interrupt that reports a movement. -/
def scrolling (delta : Point Float) : FrameRequest := .interrupt (Interrupt.scroll delta).text none

lemma does_send {delta : Point Float} {r : Except PatchError PUnit} (does : Does (do
      let _ ← Chassis.send (.scroll delta) none : Chassis.Step PUnit) c log r c') :
    log.map Sigma.fst = [scrolling delta] ∧ r = .ok ⟨⟩ ∧ c' = c := by
  obtain ⟨sent, b, _, path, done, rfl⟩ := does_script_bind.1 does
  obtain ⟨rfl, rfl, rfl⟩ := does_pure.1 done
  rw [path_request.1 path]
  exact ⟨rfl, rfl, rfl⟩

lemma does_sends {deltas : List (Point Float)} {r : Except PatchError PUnit}
    (does : Does (deltas.forM fun delta => do
      let _ ← Chassis.send (.scroll delta) none : Chassis.Step PUnit) c log r c') :
    log.map Sigma.fst = deltas.map scrolling ∧ r = .ok ⟨⟩ ∧ c' = c := by
  induction deltas generalizing c log with
  | nil =>
    obtain ⟨rfl, rfl, rfl⟩ := does_pure.1 does
    exact ⟨rfl, rfl, rfl⟩
  | cons delta deltas ih =>
    rcases does_bind.1 does with ⟨before, _, c₁, after, first, rest, rfl⟩ | ⟨why, first, rfl⟩
    · obtain ⟨sent, _, rfl⟩ := does_send first
      obtain ⟨later, rfl, rfl⟩ := ih rest
      exact ⟨by rw [List.map_append, sent, later]; rfl, rfl, rfl⟩
    · obtain ⟨_, same, _⟩ := does_send first
      cases same

/-- The interrupts of a frame report the movements of its scrollers. -/
def Reports (c : Chassis) (now : Float) (log : List (Exchange Framing)) (scrolled : Nat) : Prop :=
  ∃ asked deltas sent, Path (c.scene.scrollDeltas now) asked deltas ∧
    sent.map Sigma.fst = ((deltas.map (·.2)).filter Chassis.isMovement).map scrolling ∧
    sent.length = scrolled ∧
      log = asked.map patched ++ sent

lemma does_reportScrolling {now : Float} {r : Except PatchError Nat}
    (does : Does (Chassis.reportScrolling now) c log r c') :
    ∃ scrolled, Reports c now log scrolled ∧ r = .ok scrolled ∧ c' = c := by
  have does := does_get_bind.1 does
  obtain ⟨_, deltas, _, asking, moving, rfl⟩ := does_script_bind.1 does
  obtain ⟨asked, path, rfl⟩ := path_embed asking
  rcases does_bind.1 moving with ⟨sent, _, _, _, sending, counting, rfl⟩ | ⟨_, sending, _⟩
  · obtain ⟨told, _, rfl⟩ := does_sends sending
    obtain ⟨rfl, rfl, rfl⟩ := does_pure.1 counting
    have count := congrArg List.length told
    rw [List.length_map, List.length_map] at count
    refine ⟨_, ⟨asked, deltas, sent, path, told, rfl, by rw [List.append_nil]⟩, ?_, rfl⟩
    rw [count]
  · obtain ⟨_, same, _⟩ := does_sends sending
    cases same

/-- The viewport is announced until a batch was read. -/
def announcement (c : Chassis) (width height : Float) : List (Exchange Framing) :=
  if c.initialized then [] else [⟨.viewport width height, ()⟩]

/-- All patches of a batch, and their number at the end. -/
lemma does_patches {patches : List Patch} {r : Except PatchError Nat} (does : Does (do
      Chassis.onScene (Scene.applyAll patches)
      return patches.length : Chassis.Step Nat) c log r c') :
    ∃ effects outcome s', Applies c.scene patches effects outcome s' ∧ log = effects.map patched ∧
      r = outcome.map (fun _ => patches.length) ∧ c' = { c with scene := s' } := by
  rcases does_bind.1 does with ⟨before, _, c₁, after, applying, done, rfl⟩ | ⟨why, applying, rfl⟩
  · obtain ⟨effects, s', applied, rfl, rfl⟩ := does_onScene applying
    obtain ⟨rfl, rfl, rfl⟩ := does_pure.1 done
    exact ⟨effects, .ok (), s', applies_of_does applied, List.append_nil _, rfl, rfl⟩
  · obtain ⟨effects, s', applied, rfl, rfl⟩ := does_onScene applying
    exact ⟨effects, .error why, s', applies_of_does applied, rfl, rfl, rfl⟩

lemma does_applyBatch [Wording] {bytes : ByteArray} {width height : Float}
    {r : Except PatchError Nat} (does : Does (Chassis.applyBatch bytes width height) c log r c') :
    (∃ why, Batch.decode bytes = .error why ∧ log = [] ∧ r = .error why ∧ c' = c) ∨
      ∃ patches effects outcome s', Batch.decode bytes = .ok patches ∧
        Applies c.scene patches effects outcome s' ∧
        log = announcement c width height ++ effects.map patched ∧
        r = outcome.map (fun _ => patches.length) ∧
          c' = ⟨s', true⟩ := by
  unfold Chassis.applyBatch at does
  cases read : Batch.decode bytes with
  | error why =>
    rw [read] at does
    obtain ⟨rfl, rfl, rfl⟩ := does_throw.1 does
    exact .inl ⟨why, rfl, rfl, rfl, rfl⟩
  | ok patches =>
    rw [read] at does
    have does := does_get_bind.1 does
    obtain ⟨scene, ready⟩ := c
    refine .inr ⟨patches, ?_⟩
    cases ready with
    | true =>
      obtain ⟨effects, outcome, s', applies, rfl, rfl, rfl⟩ := does_patches does
      exact ⟨effects, outcome, s', rfl, applies, rfl, rfl, rfl⟩
    | false =>
      obtain ⟨announced, _, _, calling, marking, rfl⟩ := does_script_bind.1 does
      rcases does_bind.1 marking with ⟨_, _, _, _, marked, patching, rfl⟩ | ⟨_, marked, _⟩
      · obtain ⟨rfl, _, rfl⟩ := does_modify.1 marked
        obtain ⟨effects, outcome, s', applies, rfl, rfl, rfl⟩ := does_patches patching
        rw [path_request.1 calling]
        exact ⟨effects, outcome, s', rfl, applies, rfl, rfl, rfl⟩
      · obtain ⟨_, same, _⟩ := does_modify.1 marked
        cases same

end Parts

/-! ## One frame -/

/-- A call of the frame function, with what it was given and what came of it. -/
structure FrameRecord where
  now : Float
  ratio : Float
  width : Float
  height : Float
  before : Chassis
  exchanges : List (Exchange Framing)
  result : Except PatchError FrameReport
  after : Chassis

section Orderliness

variable [Wording]

/-- What a frame exchanges, in order, and what comes of it. -/
inductive Orderly (f : FrameRecord) : Prop where
  | unread {moved : List (Exchange Framing)} {cleared : List (Exchange Patching)}
    {scrolled : Nat} {span : Batch.Span} {why : PatchError} :
      Reports f.before f.now moved scrolled →
      Path (f.before.scene.clearSurfaces f.ratio) cleared () →
      Batch.decode span.bytes = .error why →
      f.exchanges = moved ++ cleared.map patched ++ [⟨.tick, span⟩] ++ [⟨.deallocate span, ()⟩] →
      f.result = .error why → f.after = f.before → Orderly f
  | refused {moved : List (Exchange Framing)} {cleared effects : List (Exchange Patching)}
    {scrolled : Nat} {span : Batch.Span} {patches : List Patch} {why : PatchError} {s : Scene} :
      Reports f.before f.now moved scrolled →
      Path (f.before.scene.clearSurfaces f.ratio) cleared () →
      Batch.decode span.bytes = .ok patches →
      Applies f.before.scene patches effects (.error why) s →
      f.exchanges = moved ++ cleared.map patched ++ [⟨.tick, span⟩] ++
        announcement f.before f.width f.height ++
        effects.map patched ++ [⟨.deallocate span, ()⟩] →
      f.result = .error why → f.after = ⟨s, true⟩ → Orderly f
  | painted {moved : List (Exchange Framing)} {cleared effects : List (Exchange Patching)}
    {scrolled : Nat} {span : Batch.Span} {patches : List Patch} {s : Scene} :
      Reports f.before f.now moved scrolled →
      Path (f.before.scene.clearSurfaces f.ratio) cleared () →
      Batch.decode span.bytes = .ok patches →
      Applies f.before.scene patches effects (.ok ()) s →
      f.exchanges = moved ++ cleared.map patched ++ [⟨.tick, span⟩] ++
        announcement f.before f.width f.height ++
        effects.map patched ++ [⟨.render, ()⟩] ++ [⟨.deallocate span, ()⟩] →
      f.result = .ok ⟨!f.before.initialized, patches.length, scrolled⟩ →
      f.after = ⟨s, true⟩ → Orderly f

theorem orderly_of_does {f : FrameRecord}
    (does : Does (Chassis.frame f.now f.ratio f.width f.height) f.before f.exchanges f.result
      f.after) : Orderly f := by
  obtain ⟨now, ratio, width, height, before, exchanges, result, after⟩ := f
  dsimp only at does
  have does := does_get_bind.1 does
  rcases does_bind.1 does with ⟨moved, _, _, _, reporting, rest, rfl⟩ | ⟨_, reporting, _⟩
  · obtain ⟨scrolled, reports, same, rfl⟩ := does_reportScrolling reporting
    cases same
    have rest := does_get_bind.1 rest
    obtain ⟨_, _, _, clearing, ticking, rfl⟩ := does_script_bind.1 rest
    obtain ⟨cleared, clears, rfl⟩ := path_embed clearing
    obtain ⟨_, span, _, ticks, applying, rfl⟩ := does_script_bind.1 ticking
    rw [path_request.1 ticks]
    rcases does_bind.1 applying with ⟨_, applied, _, _, batch, ending, rfl⟩ | ⟨_, batch, _⟩
    · obtain ⟨_, does, same⟩ := does_outcome.1 batch
      cases same
      rcases does_applyBatch does with ⟨why, read, rfl, rfl, rfl⟩ | ⟨patches, effects, outcome, s,
        read, applies, rfl, rfl, rfl⟩
      · obtain ⟨_, _, _, releases, done, rfl⟩ := does_script_bind.1 ending
        obtain ⟨rfl, rfl, rfl⟩ := does_throw.1 done
        rw [path_request.1 releases]
        refine .unread reports clears read ?_ rfl rfl
        simp
      · cases outcome with
        | error why =>
          obtain ⟨_, _, _, releases, done, rfl⟩ := does_script_bind.1 ending
          obtain ⟨rfl, rfl, rfl⟩ := does_throw.1 done
          rw [path_request.1 releases]
          refine .refused reports clears read applies ?_ rfl rfl
          simp
        | ok _ =>
          obtain ⟨_, _, _, paints, closing, rfl⟩ := does_script_bind.1 ending
          obtain ⟨_, _, _, releases, done, rfl⟩ := does_script_bind.1 closing
          obtain ⟨rfl, rfl, rfl⟩ := does_pure.1 done
          rw [path_request.1 paints, path_request.1 releases]
          refine .painted reports clears read applies ?_ rfl rfl
          simp
    · obtain ⟨_, _, same⟩ := does_outcome.1 batch
      cases same
  · obtain ⟨_, _, same, _⟩ := does_reportScrolling reporting
    cases same

end Orderliness

/-! ## What the core sees of a frame -/

/-- Calls to the core that a frame makes on its own account, apart from those of its patches. -/
inductive Milestone where
  | interrupt
  | tick
  | viewport
  | render
  | deallocate
deriving DecidableEq

def milestone? : FrameRequest → Option Milestone
  | .patch _ => none
  | .viewport .. => some .viewport
  | .interrupt .. => some .interrupt
  | .tick => some .tick
  | .render => some .render
  | .deallocate _ => some .deallocate

namespace FrameRecord

def milestones (f : FrameRecord) : List Milestone := f.exchanges.filterMap fun x => milestone? x.1

/-- The batch of the frame can be read. -/
def Decodes [Wording] (f : FrameRecord) : Prop :=
  ∃ (span : Batch.Span) (patches : List Patch), ⟨.tick, span⟩ ∈ f.exchanges ∧
    Batch.decode span.bytes = .ok patches

end FrameRecord

section Milestones

open FrameRecord

variable {f : FrameRecord} {moved : List (Exchange Framing)}
  {inner cleared effects : List (Exchange Patching)} {scrolled : Nat} {span span' : Batch.Span}

lemma milestones_patched : (inner.map patched).filterMap (fun x => milestone? x.1) = [] := by
  rw [List.filterMap_map]
  exact List.filterMap_eq_nil_iff.2 fun _ _ => rfl

lemma tick_notMem_patched : ⟨.tick, span⟩ ∉ inner.map patched := by
  intro inside
  obtain ⟨x, _, same⟩ := List.mem_map.1 inside
  cases congrArg Sigma.fst same

lemma milestones_scrolling (deltas : List (Point Float)) :
    (deltas.map scrolling).filterMap milestone? = List.replicate deltas.length .interrupt := by
  induction deltas with
  | nil => rfl
  | cons delta deltas ih => simp [scrolling, milestone?, List.replicate_succ] at ih ⊢; exact ih

lemma milestones_of_reports {c : Chassis} {now : Float} (reports : Reports c now moved scrolled) :
    moved.filterMap (fun x => milestone? x.1) = List.replicate scrolled .interrupt := by
  obtain ⟨asked, deltas, sent, _, told, rfl, rfl⟩ := reports
  have requests :
      sent.filterMap (fun x => milestone? x.1) = (sent.map Sigma.fst).filterMap milestone? := by
    rw [List.filterMap_map]
    rfl
  have count := congrArg List.length told
  rw [List.length_map, List.length_map] at count
  rw [List.filterMap_append, milestones_patched, List.nil_append, requests, told,
    milestones_scrolling, count]

lemma tick_notMem_reports {c : Chassis} {now : Float} (reports : Reports c now moved scrolled) :
    ⟨.tick, span⟩ ∉ moved := by
  obtain ⟨asked, deltas, sent, _, told, rfl, rfl⟩ := reports
  intro inside
  rcases List.mem_append.1 inside with patch | report
  · exact tick_notMem_patched patch
  · have request : FrameRequest.tick ∈ sent.map Sigma.fst := List.mem_map_of_mem report
    rw [told] at request
    obtain ⟨delta, _, same⟩ := List.mem_map.1 request
    cases same

lemma milestones_announcement {c : Chassis} {width height : Float} :
    (announcement c width height).filterMap (fun x => milestone? x.1) =
      if c.initialized then [] else [.viewport] := by
  unfold announcement
  split <;> rfl

variable [Wording]

/-- A frame reports movement, ticks, announces the viewport if it is the first that can be read,
paints if it ends well, and hands its batch back. -/
theorem Orderly.milestones (orderly : Orderly f) : ∃ scrolled,
    f.milestones = List.replicate scrolled .interrupt ++ [.tick] ++
      (if f.after.initialized && !f.before.initialized then [.viewport] else []) ++
        (if f.result.isOk then [.render] else []) ++ [.deallocate] := by
  unfold FrameRecord.milestones
  cases orderly with
  | @unread _ _ scrolled span why reports _ _ exchanges result after =>
    refine ⟨scrolled, ?_⟩
    rw [exchanges, result, after]
    simp only [List.filterMap_append, milestones_of_reports reports, milestones_patched]
    cases f.before.initialized <;> simp [milestone?, Except.isOk, Except.toBool]
  | @refused _ _ _ scrolled span _ why s reports _ _ _ exchanges result after =>
    refine ⟨scrolled, ?_⟩
    rw [exchanges, result, after]
    simp only [List.filterMap_append, milestones_of_reports reports, milestones_patched,
      milestones_announcement]
    cases f.before.initialized <;> simp [milestone?, Except.isOk, Except.toBool]
  | @painted _ _ _ scrolled span _ s reports _ _ _ exchanges result after =>
    refine ⟨scrolled, ?_⟩
    rw [exchanges, result, after]
    simp only [List.filterMap_append, milestones_of_reports reports, milestones_patched,
      milestones_announcement]
    cases f.before.initialized <;> simp [milestone?, Except.isOk, Except.toBool]

/-- The viewport counts as announced from the first batch that could be read. -/
theorem Orderly.initialized (orderly : Orderly f) :
    f.after.initialized = true ↔ f.before.initialized = true ∨ f.Decodes := by
  cases orderly with
  | @unread _ _ _ span why reports _ read exchanges _ after =>
    rw [after]
    refine ⟨.inl, fun either => either.resolve_right ?_⟩
    rintro ⟨span', patches, inside, read'⟩
    rw [exchanges] at inside
    rcases List.mem_append.1 inside with earlier | last
    · rcases List.mem_append.1 earlier with opening | ticking
      · rcases List.mem_append.1 opening with report | clearing
        · exact tick_notMem_reports reports report
        · exact tick_notMem_patched clearing
      · cases List.mem_singleton.1 ticking
        rw [read] at read'
        cases read'
    · cases congrArg Sigma.fst (List.mem_singleton.1 last)
  | @refused _ _ _ _ span patches _ _ _ _ read _ exchanges _ after =>
    rw [after]
    exact iff_of_true rfl (.inr ⟨span, patches, by simp [exchanges], read⟩)
  | @painted _ _ _ _ span patches _ _ _ read _ exchanges _ after =>
    rw [after]
    exact iff_of_true rfl (.inr ⟨span, patches, by simp [exchanges], read⟩)

/-- The viewport is announced where the batch can be read and none before it could. -/
theorem Orderly.viewport (orderly : Orderly f) :
    .viewport ∈ f.milestones ↔ f.before.initialized = false ∧ f.Decodes := by
  obtain ⟨scrolled, milestones⟩ := orderly.milestones
  have shown : .viewport ∈ f.milestones ↔ f.after.initialized = true ∧
      f.before.initialized = false := by
    rw [milestones]
    cases f.before.initialized <;> cases f.after.initialized <;> cases f.result.isOk <;> simp
  rw [shown, orderly.initialized]
  constructor
  · rintro ⟨either, before⟩
    exact ⟨before, either.resolve_left (by simp [before])⟩
  · rintro ⟨before, decodes⟩
    exact ⟨.inr decodes, before⟩

/-- A report says of the first frame that it is. -/
lemma Orderly.first (orderly : Orderly f) {report : FrameReport} (result : f.result = .ok report) :
    f.Decodes ∧ (report.first = true ↔ f.before.initialized = false) := by
  cases orderly with
  | unread _ _ _ _ failed =>
    rw [failed] at result
    cases result
  | refused _ _ _ _ _ failed =>
    rw [failed] at result
    cases result
  | @painted _ _ _ _ span patches _ _ _ read _ exchanges reported _ =>
    rw [reported] at result
    cases result
    exact ⟨⟨span, patches, by simp [exchanges], read⟩, by simp⟩

end Milestones

/-! ## Many frames -/

section Films

variable [Wording]

/-- Frames of one chassis, one after the other, with what each of them exchanged. A frame that fails
is followed by the next one, and the surroundings may do anything in between. -/
inductive Film {ε : Type} (answer : Script.Answerer Framing ε) (c : Chassis) :
    List FrameRecord → Chassis → Prop where
  | start : Film answer c [] c
  | frame {frames : List FrameRecord} {f : FrameRecord} {e e' : ε} : Film answer c frames f.before →
      Script.run (noting answer) (Chassis.frame f.now f.ratio f.width f.height f.before) (e, []) =
        .ok ((f.result, f.after), (e', f.exchanges)) →
      Film answer c (frames ++ [f]) f.after

variable {ε : Type} {answer : Script.Answerer Framing ε} {c c' : Chassis}
  {frames : List FrameRecord} {f : FrameRecord} {i : Nat}

lemma orderly_of_run {e e' : ε} (run : Script.run (noting answer)
      (Chassis.frame f.now f.ratio f.width f.height f.before) (e, []) =
    .ok ((f.result, f.after), (e', f.exchanges))) : Orderly f := by
  obtain ⟨added, same, path⟩ := path_of_noted run
  rw [List.nil_append] at same
  rw [← same] at path
  exact orderly_of_does path

/-- Every frame that returns can be filmed. -/
lemma Film.extend (film : Film answer c frames c') {now ratio width height : Float} {e e' : ε}
    {result : Except PatchError FrameReport} {after : Chassis}
    (run : Script.run answer (Chassis.frame now ratio width height c') e =
      .ok ((result, after), e')) :
    ∃ f : FrameRecord, f.result = result ∧ f.after = after ∧
      Film answer c (frames ++ [f]) f.after := by
  obtain ⟨exchanges, noted⟩ := exists_noted run []
  exact ⟨⟨now, ratio, width, height, c', exchanges, result, after⟩, rfl, rfl, .frame film noted⟩

/-- Every frame of a film is orderly, and the frames before it are a film up to where it begins. -/
lemma Film.cut (film : Film answer c frames c') (found : frames[i]? = some f) :
    Orderly f ∧ Film answer c (frames.take i) f.before := by
  induction film with
  | start => simp at found
  | @frame frames last e e' film run ih =>
    rcases Nat.lt_trichotomy i frames.length with inside | here | beyond
    · rw [List.getElem?_append_left inside] at found
      rw [List.take_append_of_le_length inside.le]
      exact ih found
    · subst here
      rw [List.getElem?_concat_length] at found
      cases found
      rw [List.take_left]
      exact ⟨orderly_of_run run, film⟩
    · rw [List.getElem?_eq_none (by simp; omega)] at found
      cases found

lemma Film.initialized (film : Film answer c frames c') (fresh : c.initialized = false) :
    c'.initialized = true ↔ ∃ f ∈ frames, f.Decodes := by
  induction film with
  | start => simp [fresh]
  | @frame frames last e e' film run ih => rw [(orderly_of_run run).initialized, ih]; simp [or_comm]

/-- The viewport is announced once, as soon as it counts as announced. -/
lemma Film.announced (film : Film answer c frames c') (fresh : c.initialized = false) :
    (frames.flatMap FrameRecord.milestones).count .viewport = if c'.initialized then 1 else 0 := by
  induction film with
  | start => simp [fresh]
  | @frame frames last e e' film run ih =>
    have orderly := orderly_of_run run
    obtain ⟨scrolled, milestones⟩ := orderly.milestones
    have remembered : last.before.initialized = true →
        last.after.initialized = true := fun before =>
      orderly.initialized.2 (.inl before)
    rw [List.flatMap_append, List.count_append, ih, List.flatMap_singleton, milestones]
    revert remembered
    cases last.before.initialized <;> cases last.after.initialized <;> cases last.result.isOk <;>
      simp [List.count_replicate]

/-- A frame announces the viewport if its batch can be read and no batch before it could. -/
lemma Film.announces (film : Film answer c frames c') (fresh : c.initialized = false)
    (found : frames[i]? = some f) :
    .viewport ∈ f.milestones ↔ f.Decodes ∧ ∀ g ∈ frames.take i, ¬ g.Decodes := by
  obtain ⟨orderly, earlier⟩ := film.cut found
  have unread : f.before.initialized = false ↔ ∀ g ∈ frames.take i, ¬ g.Decodes := by
    rw [← Bool.not_eq_true, earlier.initialized fresh]
    simp
  rw [orderly.viewport, unread, and_comm]

end Films

end LayeredPage.Proofs
