import LayeredPage.Proofs.Batches
import LayeredPage.Proofs.Breaking
import LayeredPage.Proofs.Frames

/-!
# Frames that do not return

A patch can go round a ring of containers for ever or take a tab index out of its range, and the
page or the core may break off in any call. Such a frame does not return. What it has done until
then is the beginning of what a frame does that returns, and its batch is not handed back.
-/

namespace LayeredPage.Proofs

/-! ## Where the parts of a frame stop -/

/-- Patches are applied up to one that comes to no end. -/
inductive Quits : Scene → List Patch → List (Exchange Patching) → Option PatchRequest → Prop where
  | here {s : Scene} {p : Patch} {ps : List Patch} {log : List (Exchange Patching)}
    {last : Option PatchRequest} :
      Halts (Scene.apply p) s log last → Quits s (p :: ps) log last
  | later {s s₁ : Scene} {p : Patch} {ps : List Patch} {log later : List (Exchange Patching)}
      {last : Option PatchRequest} : Does (Scene.apply p) s log (.ok ()) s₁ →
      Quits s₁ ps later last →
      Quits s (p :: ps) (log ++ later) last

lemma quits_of_halts {ps : List Patch} {s : Scene} {log : List (Exchange Patching)}
    {last : Option PatchRequest}
    (halts : Halts (Scene.applyAll ps) s log last) : Quits s ps log last := by
  induction ps generalizing s log with
  | nil => exact absurd halts not_halts_pure
  | cons p ps ih =>
    rcases halts_bind.1 halts with first | ⟨before, _, s₁, after, first, second, rfl⟩
    · exact .here first
    · exact .later first (ih second)

section Parts

variable {α : Type} {log : List (Exchange Framing)} {last : Option FrameRequest} {c : Chassis}

lemma breaks_embed {script : Script Patching α}
    (breaks : Breaks (script.embed framePatching) log last) :
    ∃ inner left, Breaks script inner left ∧ log = inner.map patched ∧ last = left.map .patch := by
  induction script generalizing log with
  | done a => cases breaks
  | ask r next ih =>
    cases breaks with
    | unanswered => exact ⟨[], some r, .unanswered r next, rfl, rfl⟩
    | @ask _ _ reply log _ rest =>
      obtain ⟨inner, left, breaks, rfl, rfl⟩ := ih reply rest
      exact ⟨⟨r, reply⟩ :: inner, left, .ask breaks, rfl, rfl⟩
  | broken why =>
    cases breaks
    exact ⟨[], none, .broken why, rfl, rfl⟩

lemma halts_onScene {act : Work Scene α} (halts : Halts (Chassis.onScene act) c log last) :
    ∃ inner left, Halts act c.scene inner left ∧ log = inner.map patched ∧
      last = left.map .patch := by
  have key : Chassis.onScene act c = (act c.scene).embed framePatching >>= fun p =>
      pure (p.1, { c with scene := p.2 }) := rfl
  unfold Halts at halts
  rw [key] at halts
  rcases breaks_bind.1 halts with breaks | ⟨_, _, _, _, done, _⟩
  · exact breaks_embed breaks
  · exact absurd done not_breaks_pure

/-- A frame that looks at its scene breaks at one of its requests. -/
lemma breaks_looking {script : Script Patching α} (uses : Uses Looks script)
    (breaks : Breaks (script.embed framePatching) log last) :
    ∃ inner r, Breaks script inner (some r) ∧ log = inner.map patched ∧ last = some (.patch r) := by
  obtain ⟨inner, left, within, rfl, rfl⟩ := breaks_embed breaks
  obtain ⟨r, rfl, _⟩ := uses.breaks within
  exact ⟨inner, r, within, rfl, rfl⟩

lemma halts_call {r : FrameRequest} {f : r.Reply → Chassis.Step α}
    (halts : Halts (liftM (call r) >>= f) c log last) :
    (log = [] ∧ last = some r) ∨ ∃ reply after, Halts (f reply) c after last ∧
      log = ⟨r, reply⟩ :: after := by
  rcases halts_script_bind.1 halts with breaks | ⟨before, reply, after, path, rest, rfl⟩
  · exact .inl (breaks_request.1 breaks)
  · rw [path_request.1 path]
    exact .inr ⟨reply, after, rest, rfl⟩

/-- Of a row of reports the first ones were made, and the next one got no reply. -/
lemma halts_sends {deltas : List (Point Float)} (halts : Halts (deltas.forM fun delta => do
      let _ ← Chassis.send (.scroll delta) none : Chassis.Step PUnit) c log last) :
    ∃ before delta after, deltas = before ++ delta :: after ∧
      log.map Sigma.fst = before.map scrolling ∧
      last = some (scrolling delta) := by
  induction deltas generalizing log with
  | nil => exact absurd halts not_halts_pure
  | cons delta deltas ih =>
    rcases halts_bind.1 halts with first | ⟨sent, _, c₁, later, first, rest, rfl⟩
    · rcases halts_call first with ⟨rfl, rfl⟩ | ⟨_, _, done, _⟩
      · exact ⟨[], delta, deltas, rfl, rfl, rfl⟩
      · exact absurd done not_halts_pure
    · obtain ⟨told, _, rfl⟩ := does_send first
      obtain ⟨before, next, after, rfl, log, rfl⟩ := ih rest
      exact ⟨delta :: before, next, after, rfl, by rw [List.map_append, told, log]; rfl, rfl⟩

lemma halts_reportScrolling {now : Float} (halts : Halts (Chassis.reportScrolling now) c log last) :
    (∃ asked r, Breaks (c.scene.scrollDeltas now) asked (some r) ∧ log = asked.map patched ∧
      last = some (.patch r)) ∨
      ∃ asked deltas sent before delta after, Path (c.scene.scrollDeltas now) asked deltas ∧
        (deltas.map (·.2)).filter Chassis.isMovement = before ++ delta :: after ∧
        sent.map Sigma.fst = before.map scrolling ∧ log = asked.map patched ++ sent ∧
        last = some (scrolling delta) := by
  have halts := halts_get_bind.1 halts
  rcases halts_script_bind.1 halts with asking | ⟨_, deltas, sent, asking, moving, rfl⟩
  · exact .inl (breaks_looking (uses_scrollDeltas c.scene now) asking)
  · obtain ⟨asked, path, rfl⟩ := path_embed asking
    rcases halts_bind.1 moving with sending | ⟨_, _, _, _, _, done, _⟩
    · obtain ⟨before, delta, after, split, told, open'⟩ := halts_sends sending
      exact .inr ⟨asked, deltas, sent, before, delta, after, path, split, told, rfl, open'⟩
    · exact absurd done not_halts_pure

variable [Wording] {bytes : ByteArray} {width height : Float}

/-- A batch is left while the viewport is announced, or in one of its patches. -/
lemma halts_applyBatch (halts : Halts (Chassis.applyBatch bytes width height) c log last) :
    ∃ patches, Batch.decode bytes = .ok patches ∧
      ((c.initialized = false ∧ log = [] ∧ last = some (.viewport width height)) ∨
        ∃ effects left, Quits c.scene patches effects left ∧
          log = announcement c width height ++ effects.map patched ∧ last = left.map .patch) := by
  unfold Chassis.applyBatch at halts
  cases read : Batch.decode bytes with
  | error why =>
    rw [read] at halts
    exact absurd halts not_halts_throw
  | ok patches =>
    rw [read] at halts
    have patching {c : Chassis} {log : List (Exchange Framing)} (halts : Halts (do
        Chassis.onScene (Scene.applyAll patches)
        return patches.length : Chassis.Step Nat) c log last) :
        ∃ effects left, Quits c.scene patches effects left ∧ log = effects.map patched ∧
          last = left.map .patch := by
      rcases halts_bind.1 halts with applying | ⟨_, _, _, _, _, done, _⟩
      · obtain ⟨effects, left, within, rfl, rfl⟩ := halts_onScene applying
        exact ⟨effects, left, quits_of_halts within, rfl, rfl⟩
      · exact absurd done not_halts_pure
    have halts := halts_get_bind.1 halts
    obtain ⟨scene, ready⟩ := c
    refine ⟨patches, rfl, ?_⟩
    cases ready with
    | true =>
      obtain ⟨effects, left, quits, rfl, rfl⟩ := patching halts
      exact .inr ⟨effects, left, quits, rfl, rfl⟩
    | false =>
      rcases halts_call halts with ⟨rfl, rfl⟩ | ⟨_, _, marking, rfl⟩
      · exact .inl ⟨rfl, rfl, rfl⟩
      · rcases halts_bind.1 marking with modifying | ⟨_, _, _, _, marked, rest, rfl⟩
        · exact absurd modifying not_halts_modify
        · obtain ⟨rfl, _, rfl⟩ := does_modify.1 marked
          obtain ⟨effects, left, quits, rfl, rfl⟩ := patching rest
          exact .inr ⟨effects, left, quits, rfl, rfl⟩

end Parts

/-! ## A frame that does not return -/

section Severance

variable [Wording] {now ratio width height : Float} {c : Chassis} {log : List (Exchange Framing)}
  {last : Option FrameRequest}

/-- What a frame has exchanged that does not return, and the request that was left open. If it hands
its batch back then that is the request which got no reply. -/
inductive Severed (now ratio width height : Float) (c : Chassis) :
    List (Exchange Framing) → Option FrameRequest → Prop where
  | asking {asked : List (Exchange Patching)} {r : PatchRequest} :
      Breaks (c.scene.scrollDeltas now) asked (some r) →
      Severed now ratio width height c (asked.map patched) (some (.patch r))
  | reporting {asked : List (Exchange Patching)} {deltas : List (UInt32 × Point Float)}
    {sent : List (Exchange Framing)} {before after : List (Point Float)} {delta : Point Float} :
      Path (c.scene.scrollDeltas now) asked deltas →
      (deltas.map (·.2)).filter Chassis.isMovement = before ++ delta :: after →
      sent.map Sigma.fst = before.map scrolling →
      Severed now ratio width height c (asked.map patched ++ sent) (some (scrolling delta))
  | clearing {moved : List (Exchange Framing)} {cleared : List (Exchange Patching)} {scrolled : Nat}
    {r : PatchRequest} :
      Reports c now moved scrolled → Breaks (c.scene.clearSurfaces ratio) cleared (some r) →
      Severed now ratio width height c (moved ++ cleared.map patched) (some (.patch r))
  | ticking {moved : List (Exchange Framing)} {cleared : List (Exchange Patching)}
    {scrolled : Nat} :
      Reports c now moved scrolled → Path (c.scene.clearSurfaces ratio) cleared () →
      Severed now ratio width height c (moved ++ cleared.map patched) (some .tick)
  | announcing {moved : List (Exchange Framing)} {cleared : List (Exchange Patching)}
    {scrolled : Nat} {span : Batch.Span} {patches : List Patch} :
      Reports c now moved scrolled → Path (c.scene.clearSurfaces ratio) cleared () →
      Batch.decode span.bytes = .ok patches → c.initialized = false →
      Severed now ratio width height c (moved ++ cleared.map patched ++ [⟨.tick, span⟩])
        (some (.viewport width height))
  | patching {moved : List (Exchange Framing)} {cleared effects : List (Exchange Patching)}
    {scrolled : Nat} {span : Batch.Span} {patches : List Patch} {left : Option PatchRequest} :
      Reports c now moved scrolled → Path (c.scene.clearSurfaces ratio) cleared () →
      Batch.decode span.bytes = .ok patches → Quits c.scene patches effects left →
      Severed now ratio width height c
        (moved ++ cleared.map patched ++ [⟨.tick, span⟩] ++ announcement c width height ++
          effects.map patched) (left.map .patch)
  | rendering {moved : List (Exchange Framing)} {cleared effects : List (Exchange Patching)}
    {scrolled : Nat} {span : Batch.Span} {patches : List Patch} {s : Scene} :
      Reports c now moved scrolled → Path (c.scene.clearSurfaces ratio) cleared () →
      Batch.decode span.bytes = .ok patches → Applies c.scene patches effects (.ok ()) s →
      Severed now ratio width height c
        (moved ++ cleared.map patched ++ [⟨.tick, span⟩] ++ announcement c width height ++
          effects.map patched) (some .render)
  | releasing {log : List (Exchange Framing)} {span : Batch.Span}
    {result : Except PatchError FrameReport} {after : Chassis} :
      Orderly ⟨now, ratio, width, height, c, log ++ [⟨.deallocate span, ()⟩], result, after⟩ →
      Severed now ratio width height c log (some (.deallocate span))

theorem severed_of_halts (halts : Halts (Chassis.frame now ratio width height) c log last) :
    Severed now ratio width height c log last := by
  have halts := halts_get_bind.1 halts
  rcases halts_bind.1 halts with reporting | ⟨moved, scrolled, c₁, _, reporting, rest, rfl⟩
  · rcases halts_reportScrolling reporting with ⟨asked, r, breaks, rfl, rfl⟩ |
      ⟨asked, deltas, sent, before, delta, after, path, split, told, rfl, rfl⟩
    · exact .asking breaks
    · exact .reporting path split told
  obtain ⟨_, reports, counted, same⟩ := does_reportScrolling reporting
  subst c₁
  cases counted
  have rest := halts_get_bind.1 rest
  rcases halts_script_bind.1 rest with clearing | ⟨_, _, _, clearing, ticking, rfl⟩
  · obtain ⟨cleared, r, breaks, rfl, rfl⟩ := breaks_looking (uses_clearSurfaces _ ratio) clearing
    exact .clearing reports breaks
  obtain ⟨cleared, clears, rfl⟩ := path_embed clearing
  rcases halts_call ticking with ⟨rfl, rfl⟩ | ⟨span, _, applying, rfl⟩
  · rw [List.append_nil]
    exact .ticking reports clears
  rcases halts_bind.1 applying with batch | ⟨_, applied, _, _, batch, ending, rfl⟩
  · rcases halts_applyBatch (halts_outcome.1 batch) with ⟨patches, read, ⟨unannounced, rfl, rfl⟩ |
      ⟨effects, left, quits, rfl, rfl⟩⟩
    · have severed : Severed now ratio width height c _ _ :=
        .announcing reports clears read unannounced
      simpa using severed
    · have severed : Severed now ratio width height c _ _ := .patching reports clears read quits
      simpa using severed
  obtain ⟨_, does, same⟩ := does_outcome.1 batch
  cases same
  rcases does_applyBatch does with ⟨why, read, rfl, rfl, rfl⟩ | ⟨patches, effects, outcome, s, read,
    applies, rfl, rfl, rfl⟩
  · rcases halts_call ending with ⟨rfl, rfl⟩ | ⟨_, _, done, _⟩
    · refine .releasing (.unread reports clears read ?_ rfl rfl)
      simp
    · exact absurd done not_halts_throw
  · cases outcome with
    | error why =>
      rcases halts_call ending with ⟨rfl, rfl⟩ | ⟨_, _, done, _⟩
      · refine .releasing (.refused reports clears read applies ?_ rfl rfl)
        simp
      · exact absurd done not_halts_throw
    | ok _ =>
      rcases halts_call ending with ⟨rfl, rfl⟩ | ⟨_, _, closing, rfl⟩
      · have severed : Severed now ratio width height c _ _ :=
          .rendering reports clears read applies
        simpa using severed
      · rcases halts_call closing with ⟨rfl, rfl⟩ | ⟨_, _, done, _⟩
        · exact .releasing (show Orderly ⟨now, ratio, width, height, c, _,
            .ok ⟨!c.initialized, patches.length, scrolled⟩, ⟨s, true⟩⟩ from
              .painted reports clears read applies (by simp) rfl rfl)
        · exact absurd done not_halts_pure

/-! ## What the core sees of it -/

/-- The calls of a frame to the core; the last one may have got no reply. -/
def calledCore (log : List (Exchange Framing)) (last : Option FrameRequest) : List Milestone :=
  log.filterMap (fun x => milestone? x.1) ++ (last.bind milestone?).toList

omit [Wording] in
lemma calledCore_append (log later : List (Exchange Framing)) (last : Option FrameRequest) :
    calledCore (log ++ later) last = log.filterMap (fun x => milestone? x.1) ++
      calledCore later last := by
  rw [calledCore, calledCore, List.filterMap_append, List.append_assoc]

omit [Wording] in
lemma calledCore_patched (log : List (Exchange Patching)) (last : Option FrameRequest) :
    calledCore (log.map patched) last = (last.bind milestone?).toList := by
  rw [calledCore, milestones_patched, List.nil_append]

omit [Wording] in
/-- A frame that stops at its reports has made some of them. -/
lemma calledCore_reporting {asked : List (Exchange Patching)} {sent : List (Exchange Framing)}
    {before : List (Point Float)} (told : sent.map Sigma.fst = before.map scrolling) :
    calledCore (asked.map patched ++ sent) last =
      List.replicate before.length .interrupt ++ (last.bind milestone?).toList := by
  have reported :
      sent.filterMap (fun x => milestone? x.1) = List.replicate before.length .interrupt := by
    rw [← milestones_scrolling before, ← told, List.filterMap_map]
    rfl
  rw [calledCore_append, milestones_patched, List.nil_append, calledCore, reported]

omit [Wording] in
/-- What comes before the tick are reports. -/
lemma calledCore_opening {moved : List (Exchange Framing)} {cleared : List (Exchange Patching)}
    {scrolled : Nat} (reports : Reports c now moved scrolled) (later : List (Exchange Framing)) :
    calledCore (moved ++ cleared.map patched ++ later) last =
      List.replicate scrolled .interrupt ++ calledCore later last := by
  rw [calledCore_append, List.filterMap_append, milestones_of_reports reports,
    milestones_patched, List.append_nil]

omit [Wording] in
/-- From the tick to the last patch the core is called once, or twice where the viewport is
announced. -/
lemma calledCore_applying {moved : List (Exchange Framing)} {cleared : List (Exchange Patching)}
    {scrolled : Nat} (reports : Reports c now moved scrolled) (span : Batch.Span)
    (effects : List (Exchange Patching)) :
    calledCore (moved ++ cleared.map patched ++ [⟨.tick, span⟩] ++ announcement c width height ++
        effects.map patched) last =
      List.replicate scrolled .interrupt ++
        (.tick :: (if c.initialized then [] else [.viewport]) ++
          (last.bind milestone?).toList) := by
  rw [List.append_assoc, List.append_assoc, ← List.append_assoc _ _ (effects.map patched),
    calledCore_opening reports, calledCore_append, calledCore_patched, List.filterMap_append,
    milestones_announcement]
  rfl

omit [Wording] in
lemma milestone?_patch (left : Option PatchRequest) :
    (left.map FrameRequest.patch).bind milestone? = none := by
  cases left <;> rfl

/-- The calls of a frame from its tick on. -/
def fromTick (announced painted : Bool) : List Milestone :=
  .tick :: (if announced then [.viewport] else []) ++
    (if painted then [.render] else []) ++ [.deallocate]

/-- The calls to the core are the first of those that a frame makes which returns. The batch was not
handed back, and if a patch goes on for ever then that is after the tick. -/
theorem Severed.calls (severed : Severed now ratio width height c log last) :
    ∃ scrolled announced painted rest,
      calledCore log last = List.replicate scrolled .interrupt ++ rest ∧
      rest <+: fromTick announced painted ∧
      .deallocate ∉ calledCore log none ∧
        (last = none → announced = !c.initialized ∧
          rest = .tick :: if announced then [.viewport] else []) := by
  cases severed with
  | asking =>
    refine ⟨0, false, false, [], calledCore_patched _ _, List.nil_prefix, ?_, by simp⟩
    rw [calledCore_patched]
    simp
  | @reporting asked deltas sent before _ delta _ _ told =>
    refine ⟨before.length + 1, false, false, [], ?_, List.nil_prefix, ?_, by simp⟩
    · rw [calledCore_reporting told, List.replicate_succ', List.append_nil]
      rfl
    · simp [calledCore_reporting told, List.mem_replicate]
  | @clearing moved cleared scrolled _ reports =>
    refine ⟨scrolled, false, false, [], ?_, List.nil_prefix, ?_, by simp⟩
    · rw [← List.append_nil (moved ++ _), calledCore_opening reports]
      rfl
    · rw [← List.append_nil (moved ++ _), calledCore_opening reports]
      simp [List.mem_replicate, calledCore]
  | @ticking moved cleared scrolled reports =>
    refine ⟨scrolled, false, false, [.tick], ?_, by simp [fromTick], ?_, by simp⟩
    · rw [← List.append_nil (moved ++ _), calledCore_opening reports]
      rfl
    · rw [← List.append_nil (moved ++ _), calledCore_opening reports]
      simp [List.mem_replicate, calledCore]
  | @announcing moved cleared scrolled span _ reports =>
    refine ⟨scrolled, true, false, [.tick, .viewport], ?_, by simp [fromTick], ?_, by simp⟩
    · rw [calledCore_opening reports]
      rfl
    · rw [calledCore_opening reports]
      simp [List.mem_replicate, calledCore, milestone?]
  | @patching moved cleared effects scrolled span _ left reports =>
    refine ⟨scrolled, !c.initialized, false, .tick :: if c.initialized then [] else [.viewport], ?_,
      ?_, ?_, fun _ => ⟨rfl, ?_⟩⟩
    · rw [calledCore_applying reports, milestone?_patch, Option.toList_none, List.append_nil]
    · cases c.initialized <;> simp [fromTick]
    · rw [calledCore_applying reports]
      cases c.initialized <;> simp [List.mem_replicate]
    · cases c.initialized <;> rfl
  | @rendering moved cleared effects scrolled span _ _ reports =>
    refine ⟨scrolled, !c.initialized, true, .tick :: (if c.initialized then [] else [.viewport]) ++
      [.render], ?_, ?_, ?_, by simp⟩
    · rw [calledCore_applying reports]
      rfl
    · cases c.initialized <;> simp [fromTick]
    · rw [calledCore_applying reports]
      cases c.initialized <;> simp [List.mem_replicate]
  | @releasing log span result after orderly =>
    obtain ⟨scrolled, milestones⟩ := orderly.milestones
    unfold FrameRecord.milestones at milestones
    rw [List.filterMap_append] at milestones
    have before := List.append_cancel_right milestones
    refine ⟨scrolled, after.initialized && !c.initialized, result.isOk, _, ?_,
      List.prefix_rfl, ?_, by simp⟩
    · rw [calledCore, before]
      simp [milestone?, fromTick]
    · rw [calledCore, before]
      cases after.initialized <;> cases c.initialized <;> cases result.isOk <;>
        simp [List.mem_replicate]

omit [Wording] in
lemma tick_notMem_opening {moved : List (Exchange Framing)}
    {cleared : List (Exchange Patching)} {scrolled : Nat}
    {span : Batch.Span} (reports : Reports c now moved scrolled) :
    ⟨.tick, span⟩ ∉ moved ++ cleared.map patched := by
  intro inside
  rcases List.mem_append.1 inside with report | clearing
  · exact tick_notMem_reports reports report
  · exact tick_notMem_patched clearing

/-- The viewport is announced where the batch can be read and none before it could. -/
theorem Severed.viewport (severed : Severed now ratio width height c log last) :
    .viewport ∈ calledCore log last ↔
    c.initialized = false ∧ ∃ (span : Batch.Span) (patches : List Patch), ⟨.tick, span⟩ ∈ log ∧
      Batch.decode span.bytes = .ok patches := by
  cases severed with
  | asking =>
    refine iff_of_false (by simp [calledCore_patched, milestone?]) ?_
    rintro ⟨_, _, _, ticked, _⟩
    exact tick_notMem_patched ticked
  | @reporting asked deltas sent before _ delta _ _ told =>
    refine iff_of_false ?_ ?_
    · simp [calledCore_reporting told, scrolling, milestone?, List.mem_replicate]
    · rintro ⟨_, span, _, ticked, _⟩
      rcases List.mem_append.1 ticked with asking | reporting
      · exact tick_notMem_patched asking
      · have request : FrameRequest.tick ∈ sent.map Sigma.fst := List.mem_map_of_mem reporting
        rw [told] at request
        obtain ⟨_, _, same⟩ := List.mem_map.1 request
        cases same
  | @clearing moved cleared scrolled _ reports =>
    refine iff_of_false ?_ ?_
    · rw [← List.append_nil (moved ++ _), calledCore_opening reports]
      simp [List.mem_replicate, calledCore, milestone?]
    · rintro ⟨_, _, _, ticked, _⟩
      exact tick_notMem_opening reports ticked
  | @ticking moved cleared scrolled reports =>
    refine iff_of_false ?_ ?_
    · rw [← List.append_nil (moved ++ _), calledCore_opening reports]
      simp [List.mem_replicate, calledCore, milestone?]
    · rintro ⟨_, _, _, ticked, _⟩
      exact tick_notMem_opening reports ticked
  | @announcing moved cleared scrolled span patches reports _ read unannounced =>
    refine iff_of_true ?_ ⟨unannounced, span, patches, by simp, read⟩
    rw [calledCore_opening reports]
    exact List.mem_append_right _ (by simp [calledCore, milestone?])
  | @patching moved cleared effects scrolled span patches left reports _ read =>
    refine Iff.trans ?_ (and_iff_left ⟨span, patches, by simp, read⟩).symm
    rw [calledCore_applying reports, milestone?_patch]
    cases c.initialized <;> simp [List.mem_replicate]
  | @rendering moved cleared effects scrolled span patches _ reports _ read =>
    refine Iff.trans ?_ (and_iff_left ⟨span, patches, by simp, read⟩).symm
    rw [calledCore_applying reports]
    cases c.initialized <;> simp [List.mem_replicate, milestone?]
  | @releasing log span result after orderly =>
    have calls : calledCore log (some (.deallocate span)) =
        (log ++ [(⟨.deallocate span, ()⟩ : Exchange Framing)]).filterMap fun x =>
          milestone? x.1 := by
      rw [List.filterMap_append]
      rfl
    rw [calls]
    refine orderly.viewport.trans (and_congr_right fun _ => exists_congr fun _ =>
      exists_congr fun _ => and_congr_left fun _ => ?_)
    simp

end Severance

/-! ## Frames before one that does not return -/

section Films

variable [Wording] {ε : Type} {answer : Script.Answerer Framing ε} {c c' : Chassis}
  {frames : List FrameRecord}
  {now ratio width height : Float} {log : List (Exchange Framing)} {last : Option FrameRequest}

/-- A frame after these does not return. It has made the first of a frame's calls and has not handed
its batch back, and it announces the viewport if its batch can be read and none before it could. -/
structure BrokenOff (frames : List FrameRecord) (now ratio width height : Float) (c : Chassis)
    (log : List (Exchange Framing)) (last : Option FrameRequest) : Prop where
  severed : Severed now ratio width height c log last
  calls : ∃ scrolled announced painted rest,
    calledCore log last = List.replicate scrolled .interrupt ++ rest ∧
    rest <+: fromTick announced painted
  kept : .deallocate ∉ calledCore log none
  patching : last = none → .tick ∈ calledCore log none ∧ .render ∉ calledCore log none
  viewport : .viewport ∈ calledCore log last ↔
    (∃ (span : Batch.Span) (patches : List Patch), ⟨.tick, span⟩ ∈ log ∧
      Batch.decode span.bytes = .ok patches) ∧ ∀ f ∈ frames, ¬ f.Decodes
  once : (frames.flatMap FrameRecord.milestones ++ calledCore log last).count .viewport ≤ 1

lemma Film.brokenOff (film : Film answer c frames c') (fresh : c.initialized = false)
    (severed : Severed now ratio width height c' log last) :
    BrokenOff frames now ratio width height c' log last := by
  obtain ⟨scrolled, announced, painted, rest, calls, beginning, kept, patching⟩ := severed.calls
  have unread : c'.initialized = false ↔ ∀ f ∈ frames, ¬ f.Decodes := by
    rw [← Bool.not_eq_true, film.initialized fresh]
    simp
  have viewport := severed.viewport
  have few : (calledCore log last).count .viewport ≤ 1 := by
    calc (calledCore log last).count .viewport
        = rest.count .viewport := by simp [calls, List.count_replicate]
      _ ≤ (fromTick announced painted).count .viewport := beginning.sublist.count_le _
      _ ≤ 1 := by cases announced <;> cases painted <;> decide
  refine ⟨severed, ⟨scrolled, announced, painted, rest, calls, beginning⟩, kept,
    fun open' => ?_, ?_, ?_⟩
  · subst open'
    obtain ⟨-, rfl⟩ := patching rfl
    rw [calls]
    cases announced <;> simp [List.mem_replicate]
  · rw [viewport, unread, and_comm]
  · rw [List.count_append, film.announced fresh]
    cases ready : c'.initialized with
    | false => simpa using few
    | true =>
      have silent : .viewport ∉ calledCore log last :=
        fun shown => by simpa [ready] using viewport.1 shown
      rw [List.count_eq_zero.2 silent]
      rfl

/-- However frames and surroundings go on, each frame that returns reports movement, ticks once,
applies its batch up to the first patch that is refused, paints once if there was none, and hands
its own batch back; the viewport is announced once, by the first frame whose batch can be read, and
at most one report is that of the first frame. A frame that does not return breaks off in one of its
requests, or in a patch of its batch. -/
theorem protocol_of_film (film : Film answer c frames c') (fresh : c.initialized = false) :
    (∀ f ∈ frames, Orderly f) ∧
    (∀ f ∈ frames, f.milestones.count .tick = 1 ∧ f.milestones.count .deallocate = 1 ∧
      f.milestones.count .render = if f.result.isOk then 1 else 0) ∧
    (frames.flatMap FrameRecord.milestones).count .viewport ≤ 1 ∧
    (∀ i f, frames[i]? = some f →
      (.viewport ∈ f.milestones ↔ f.Decodes ∧ ∀ g ∈ frames.take i, ¬ g.Decodes)) ∧
    (∀ (i j : Nat) (f g : FrameRecord) (one other : FrameReport), frames[i]? = some f →
      frames[j]? = some g →
      f.result = .ok one → g.result = .ok other → one.first → other.first → i = j) ∧
    ∀ (now ratio width height : Float) (e : ε) (why : Breach),
      Script.run answer (Chassis.frame now ratio width height c') e = .error why →
        (∀ r, (spoken answer (Chassis.frame now ratio width height c') e).2 = some r →
          ∃ e', answer r e' = .error why) ∧
        BrokenOff frames now ratio width height c'
          (spoken answer (Chassis.frame now ratio width height c') e).1
          (spoken answer (Chassis.frame now ratio width height c') e).2 := by
  refine ⟨fun f hf => ?_, fun f hf => ?_, ?_, fun i f found => film.announces fresh found, ?_,
    fun now ratio width height e why run => ⟨fun r left => unanswered_of_spoken run left, ?_⟩⟩
  · obtain ⟨i, found⟩ := List.mem_iff_getElem?.1 hf
    exact (film.cut found).1
  · obtain ⟨i, found⟩ := List.mem_iff_getElem?.1 hf
    obtain ⟨scrolled, milestones⟩ := (film.cut found).1.milestones
    rw [milestones]
    cases f.before.initialized <;> cases f.after.initialized <;> cases f.result.isOk <;>
      simp [List.count_replicate]
  · rw [film.announced fresh]
    split <;> omega
  · -- A frame that reports to be the first comes before every other whose batch can be read.
    have earliest {i j : Nat} {f g : FrameRecord} {one other : FrameReport}
      (found : frames[i]? = some f) (found' : frames[j]? = some g) (result : f.result = .ok one)
      (result' : g.result = .ok other) (first : one.first) : i ≤ j := by
      obtain ⟨orderly, earlier⟩ := film.cut found
      have unread := (orderly.first result).2.1 first
      by_contra before
      have read : f.before.initialized = true := by
        refine (earlier.initialized fresh).2 ⟨g, ?_, ((film.cut found').1.first result').1⟩
        refine List.mem_of_getElem? (i := j) ?_
        rw [List.getElem?_take_of_lt (by omega), found']
      rw [unread] at read
      cases read
    intro i j f g one other found found' result result' first first'
    exact le_antisymm (earliest found found' result result' first)
      (earliest found' found result' result first')
  · exact film.brokenOff fresh (severed_of_halts (breaks_of_run run))

end Films

/-! ## Frames before a recorder -/

section Recorded

variable [Wording]

abbrev answerRecorded : Script.Answerer Framing (MemoryHost Recorder) := MemoryHost.answerFrame

/-- The results of frames before a recorder that is handed these batches, and where they lead. -/
def rolled (h : MemoryHost Recorder) (c : Chassis) :
    List ByteArray →
    Except Breach (List (Except PatchError FrameReport) × Chassis × MemoryHost Recorder)
  | [] => .ok ([], c, h)
  | batch :: batches => do
    let ((result, c), h) ← MemoryHost.drive
      (Chassis.frame 0 1 800 600) c { h with core := { h.core with batch } }
    let (results, c, h) ← rolled h c batches
    return (result :: results, c, h)

lemma exists_film {h h' : MemoryHost Recorder} {c₀ c c' : Chassis} {batches : List ByteArray}
    {before : List FrameRecord}
    {results : List (Except PatchError FrameReport)} (film : Film answerRecorded c₀ before c)
    (run : rolled h c batches = .ok (results, c', h')) :
    ∃ frames, Film answerRecorded c₀ (before ++ frames) c' ∧ frames.map (·.result) = results := by
  induction batches generalizing h c before results with
  | nil =>
    cases run
    exact ⟨[], by rwa [List.append_nil], rfl⟩
  | cons batch batches ih =>
    unfold rolled at run
    cases step :
      MemoryHost.drive (Chassis.frame 0 1 800 600) c { h with core := { h.core with batch } } with
    | error b =>
      rw [step] at run
      cases run
    | ok r =>
      obtain ⟨⟨result, after⟩, h₁⟩ := r
      rw [step] at run
      change (rolled h₁ after batches).bind _ = _ at run
      cases later : rolled h₁ after batches with
      | error b =>
        rw [later] at run
        cases run
      | ok rest =>
        obtain ⟨results, c₂, h₂⟩ := rest
        rw [later] at run
        cases run
        obtain ⟨f, rfl, rfl, longer⟩ := film.extend step
        obtain ⟨frames, whole, rfl⟩ := ih longer later
        rw [List.append_assoc] at whole
        exact ⟨f :: frames, whole, rfl⟩

/-- A blank page is shown some batches, and one more with which its frame does not return, before
one who answers as `answer` does: the verdicts on the others, why it breaks off, and its calls to
the core. -/
def lastShown (batches : List ByteArray) (answer : Script.Answerer Framing (MemoryHost Recorder))
    (batch : ByteArray) :
    Option (List Bool × Breach × List Milestone) :=
  match Script.run answerRecorded (Chassis.attach ⟨0⟩ .standard) blankPage with
  | .ok (.ok c, h) =>
    if c.initialized then none
    else
      match rolled h c batches with
      | .ok (results, c, h) =>
        let frame := Chassis.frame 0 1 800 600 c
        let h := { h with core := { h.core with batch } }
        match Script.run answer frame h with
        | .error why =>
          some (results.map Except.isOk, why,
            calledCore (spoken answer frame h).1 (spoken answer frame h).2)
        | .ok _ => none
      | .error _ => none
  | _ => none

/-- What is shown on a page can be filmed up to the frame that breaks off. -/
lemma exists_film_of_lastShown {batches : List ByteArray} {batch : ByteArray}
    {verdicts : List Bool} {why : Breach} {calls : List Milestone}
    (shown : lastShown batches answerRecorded batch = some (verdicts, why, calls)) :
    ∃ c frames c' h, c.initialized = false ∧ Film answerRecorded c frames c' ∧
      frames.map (fun f => f.result.isOk) = verdicts ∧
        Script.run answerRecorded (Chassis.frame 0 1 800 600 c') h = .error why := by
  unfold lastShown at shown
  split at shown
  · next c h _ =>
    split at shown
    · cases shown
    · next fresh =>
      split at shown
      · next results c' h' run =>
        dsimp only at shown
        split at shown
        · next broken =>
          cases shown
          obtain ⟨frames, film, rfl⟩ := exists_film .start run
          exact ⟨c, frames, c', _, Bool.eq_false_iff.2 fresh, film,
            by rw [List.map_map]; rfl, broken⟩
        · cases shown
      · cases shown
  · cases shown

end Recorded

/-- Two containers, each of which is to be in the other, and a text in one of them. -/
def ringBatch : ByteArray :=
  ("[\x7b\"FrameCreate\":\x7b\"id\":1,\"occlusion_layer_id\":0\x7d\x7d," ++
    "\x7b\"FrameCreate\":\x7b\"id\":2,\"parent_frame\":1,\"occlusion_layer_id\":0\x7d\x7d," ++
    "\x7b\"FrameDelete\":1\x7d," ++
    "\x7b\"FrameCreate\":\x7b\"id\":1,\"parent_frame\":2,\"occlusion_layer_id\":0\x7d\x7d," ++
    "\x7b\"TextCreate\":\x7b\"id\":3,\"parent_frame\":1,\"occlusion_layer_id\":0\x7d\x7d]").toUTF8

def textBatch : ByteArray :=
  "[\x7b\"TextCreate\":\x7b\"id\":1,\"occlusion_layer_id\":0\x7d\x7d]".toUTF8

/-- Frames with a batch that cannot be read, one with a patch that is refused, and a good one; then
one that goes round a ring of containers. -/
theorem protocol_after_failures :
    ∃ (_ : Wording) (c c' : Chassis) (frames : List FrameRecord) (h : MemoryHost Recorder),
    Film answerRecorded c frames c' ∧ frames.map (fun f => f.result.isOk) = [false, false, true] ∧
    (∀ f ∈ frames, Orderly f) ∧
      (frames.flatMap FrameRecord.milestones).count .viewport ≤ 1 ∧
      Script.run answerRecorded (Chassis.frame 0 1 800 600 c') h = .error (.endlessContainers 2) ∧
      BrokenOff frames 0 1 800 600 c' (spoken answerRecorded (Chassis.frame 0 1 800 600 c') h).1
        (spoken answerRecorded (Chassis.frame 0 1 800 600 c') h).2 := by
  let := plainWords
  have run :
      lastShown ["?".toUTF8, "[\x7b\"TextDelete\":9\x7d]".toUTF8, textBatch]
        answerRecorded ringBatch =
      some ([false, false, true], .endlessContainers 2, [.tick]) := by
    decide +kernel
  obtain ⟨c, frames, c', h, fresh, film, verdicts, broken⟩ := exists_film_of_lastShown run
  obtain ⟨orderly, _, announced, _, _, severed⟩ := protocol_of_film film fresh
  exact ⟨plainWords, c, c', frames, h, film, verdicts, orderly, announced, broken,
    (severed 0 1 800 600 h _ broken).2⟩

/-- A page that creates no more elements. -/
def answerRefusing : Script.Answerer Framing (MemoryHost Recorder)
  | .patch (.document (.createElement kind)), _ => .error (.elementRefused kind.tagName)
  | r, h => answerRecorded r h

/-- A first frame whose batch can be read ticks and announces the viewport, and neither paints nor
hands the batch back, where an element is put on a ring of containers, or where the page would not
create it. -/
theorem ring_batch_is_kept : ∃ (_ : Wording), (Batch.decode ringBatch).isOk = true ∧
    lastShown [] answerRecorded ringBatch = some ([], .endlessContainers 2, [.tick, .viewport]) ∧
    (Batch.decode textBatch).isOk = true ∧
    lastShown [] answerRefusing textBatch = some ([], .elementRefused "div", [.tick, .viewport]) :=
  ⟨plainWords, by decide +kernel, by decide +kernel, by decide +kernel, by decide +kernel⟩

end LayeredPage.Proofs
