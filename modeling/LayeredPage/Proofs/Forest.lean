import LayeredPage.Proofs.Placement
import LayeredPage.Proofs.Sparing

/-!
# When containers form a forest

A container is entered under a parent that is there, and keeps it. But one that is removed need only
have no node with children: a child whose own node was never needed does not hold it back, and is
left without its parent. These removals are the only way out of a forest.
-/

namespace LayeredPage.Proofs

section Tables

variable {cs cs' : Std.ExtTreeMap UInt32 Container} {x : Option UInt32}
  {ids : List UInt32} {id : UInt32} {c : Container}

/-- Parents are registered, and from every container there is a way up that ends. -/
structure Forest (cs : Std.ExtTreeMap UInt32 Container) : Prop where
  parents : ∀ (id p : UInt32) (c : Container), cs[id]? = some c → c.parent = some p → p ∈ cs
  lines : ∀ id ∈ cs, ∃ ids, Line cs (some id) ids

lemma mem_iff_exists : id ∈ cs ↔ ∃ c, cs[id]? = some c := by
  rw [Std.ExtTreeMap.mem_iff_isSome_getElem?, Option.isSome_iff_exists]

lemma Line.transfer (line : Line cs x ids)
    (kept : ∀ id ∈ ids, ∀ c, cs[id]? = some c → ∃ c', cs'[id]? = some c' ∧ c'.parent = c.parent) :
    Line cs' x ids := by
  induction line with
  | top => exact .top
  | inner found _ ih =>
    obtain ⟨c', found', same⟩ := kept _ List.mem_cons_self _ found
    refine .inner found' ?_
    rw [same]
    exact ih fun id hid => kept id (List.mem_cons_of_mem _ hid)

/-- No container of a forest is its own parent. -/
lemma Line.not_loop (found : cs[id]? = some c) (loop : c.parent = some id) :
    ¬ Line cs (some id) ids := by
  intro line
  induction ids with
  | nil => cases line
  | cons _ ids ih =>
    cases line with
    | inner found' rest =>
      obtain rfl := Option.some.inj (found.symm.trans found')
      rw [loop] at rest
      exact ih rest

/-- Containers keep their parents, and new ones have registered parents. -/
structure Widened (cs cs' : Std.ExtTreeMap UInt32 Container) : Prop where
  kept : ∀ (id : UInt32) (c : Container), cs[id]? = some c → ∃ c', cs'[id]? = some c' ∧
    c'.parent = c.parent
  added : ∀ (id : UInt32) (c' : Container), cs'[id]? = some c' →
    (∃ c, cs[id]? = some c ∧ c'.parent = c.parent) ∨ ∀ p, c'.parent = some p → p ∈ cs

lemma Widened.of_eq (same : cs' = cs) : Widened cs cs' := by
  subst same
  exact ⟨fun _ c hc => ⟨c, hc, rfl⟩, fun _ c hc => .inl ⟨c, hc, rfl⟩⟩

lemma Widened.insert (known : (∃ c₀, cs[id]? = some c₀ ∧ c.parent = c₀.parent) ∨
    cs[id]? = none ∧ ∀ p, c.parent = some p → p ∈ cs) : Widened cs (cs.insert id c) := by
  constructor
  · intro j c₁ hc₁
    rw [getElem?_insert_eq]
    by_cases same : j = id
    · subst same
      rcases known with ⟨c₀, hc₀, parent⟩ | ⟨new, _⟩
      · obtain rfl := Option.some.inj (hc₀.symm.trans hc₁)
        exact ⟨c, if_pos rfl, parent⟩
      · simp [new] at hc₁
    · exact ⟨c₁, by rw [if_neg same, hc₁], rfl⟩
  · intro j c' hc'
    rw [getElem?_insert_eq] at hc'
    by_cases same : j = id
    · subst same
      rw [if_pos rfl] at hc'
      cases hc'
      exact known.imp_right fun new => new.2
    · rw [if_neg same] at hc'
      exact .inl ⟨c', hc', rfl⟩

lemma Forest.widen (forest : Forest cs) (wide : Widened cs cs') : Forest cs' := by
  have stays {id : UInt32} (hid : id ∈ cs) : id ∈ cs' := by
    obtain ⟨c, hc⟩ := mem_iff_exists.1 hid
    obtain ⟨c', hc', _⟩ := wide.kept id c hc
    exact mem_iff_exists.2 ⟨c', hc'⟩
  have whole {x : Option UInt32} {ids : List UInt32} (line : Line cs x ids) : Line cs' x ids :=
    line.transfer fun id _ c hc => wide.kept id c hc
  constructor
  · intro id p c' hc' parent
    rcases wide.added id c' hc' with ⟨c, hc, same⟩ | new
    · exact stays (forest.parents id p c hc (same.symm.trans parent))
    · exact stays (new p parent)
  · intro id hid
    obtain ⟨c', hc'⟩ := mem_iff_exists.1 hid
    rcases wide.added id c' hc' with ⟨c, hc, _⟩ | new
    · obtain ⟨ids, line⟩ := forest.lines id (mem_iff_exists.2 ⟨c, hc⟩)
      exact ⟨ids, whole line⟩
    · cases parent : c'.parent with
      | none => exact ⟨[id], .inner hc' (parent ▸ .top)⟩
      | some p =>
        obtain ⟨ids, line⟩ := forest.lines p (new p parent)
        exact ⟨id :: ids, .inner hc' (parent ▸ whole line)⟩

/-- A removal leaves a forest just when the container is nobody's parent. -/
lemma Forest.erase_iff (forest : Forest cs) :
    Forest (cs.erase id) ↔ ∀ (j : UInt32) (c : Container), cs[j]? = some c →
      c.parent ≠ some id := by
  constructor
  · intro rest j c hc parent
    by_cases same : j = id
    · subst same
      obtain ⟨ids, line⟩ := forest.lines j (mem_iff_exists.2 ⟨c, hc⟩)
      exact Line.not_loop hc parent line
    · have gone := rest.parents j id c (getElem?_erase_iff.2 ⟨same, hc⟩) parent
      simp at gone
  · intro childless
    have avoids {x : Option UInt32} {ids : List UInt32} (line : Line cs x ids) (hx : x ≠ some id) :
        id ∉ ids := by
      induction line with
      | top => exact List.not_mem_nil
      | @inner j c ids hc _ ih =>
        refine List.not_mem_cons_of_ne_of_not_mem (fun same => hx (by rw [same]))
          (ih (childless j c hc))
    have whole {x : Option UInt32} {ids : List UInt32} (line : Line cs x ids) (hx : x ≠ some id) :
        Line (cs.erase id) x ids := by
      refine line.transfer fun j hj c hc => ⟨c, getElem?_erase_iff.2 ⟨?_, hc⟩, rfl⟩
      rintro rfl
      exact avoids line hx hj
    constructor
    · intro j p c hc parent
      have found := (getElem?_erase_iff.1 hc).2
      have other : p ≠ id := fun same => childless j c found (same ▸ parent)
      obtain ⟨c', hc'⟩ := mem_iff_exists.1 (forest.parents j p c found parent)
      exact mem_iff_exists.2 ⟨c', getElem?_erase_iff.2 ⟨other, hc'⟩⟩
    · intro j hj
      obtain ⟨c, hc⟩ := mem_iff_exists.1 hj
      obtain ⟨other, found⟩ := getElem?_erase_iff.1 hc
      obtain ⟨ids, line⟩ := forest.lines j (mem_iff_exists.2 ⟨c, found⟩)
      exact ⟨ids, whole line (by simpa using other)⟩

end Tables

/-- What can be done with a scene: a call to its stage, or a patch. -/
inductive Move where
  | addContainer (id : UInt32) (parent : Option UInt32)
  | updateContainer (id : UInt32) (g : Geometry)
  | removeContainer (id : UInt32)
  | addElement (node : NodeId) (container : Option UInt32) (layer : UInt32)
  | patch (p : Patch)

def Move.act : Move → Work Scene Unit
  | .addContainer id parent => Scene.onStage (Stage.addContainer id parent)
  | .updateContainer id g => Scene.onStage (Stage.updateContainer id g)
  | .removeContainer id => Scene.onStage (Stage.removeContainer id)
  | .addElement node container layer => Scene.onStage (Stage.addElement node container layer)
  | .patch p => Scene.apply p

/-- The container that a move removes. -/
def Move.removal? : Move → Option UInt32
  | .removeContainer id | .patch (.deleteFrame id) => some id
  | _ => none

/-- A move, its outcome, and the scene before and after it. -/
structure Turn where
  before : Scene
  move : Move
  result : Except PatchError Unit
  after : Scene

/-- A container was removed that others have as their parent. -/
def Turn.orphans (t : Turn) : Prop :=
  ∃ id, t.move.removal? = some id ∧ t.result = .ok () ∧
    ∃ (j : UInt32) (c : Container), t.before.containers[j]? = some c ∧ c.parent = some id

instance (t : Turn) : Decidable t.orphans :=
  decidable_of_iff (t.result.isOk ∧ ∃ p ∈ t.before.containers.toList, ∃ id ∈ t.move.removal?,
    p.2.parent = some id) <| by
    have accepted : t.result.isOk ↔ t.result = .ok () := by
      cases t.result <;> simp [Except.isOk, Except.toBool]
    simp only [Turn.orphans, accepted, Prod.exists,
      Std.ExtTreeMap.mem_toList_iff_getElem?_eq_some, Option.mem_def]
    constructor
    · rintro ⟨ok, j, c, hc, id, removal, parent⟩
      exact ⟨id, removal, ok, j, c, hc, parent⟩
    · rintro ⟨id, removal, ok, j, c, hc, parent⟩
      exact ⟨ok, j, c, hc, id, removal, parent⟩

/-- Makes moves one after the other, each on what the one before left. -/
def turns {κ : Type} [Core κ] : List Move → Scene → MemoryHost.Step κ (List Turn)
  | [], _ => pure []
  | m :: ms, s => do
    let (result, after) ← MemoryHost.patch m.act s
    return ⟨s, m, result, after⟩ :: (← turns ms after)

section Moves

variable {κ : Type} [Core κ] {s s' : Scene} {h h' : MemoryHost κ}

/-- A removal that is accepted strikes the container from the table, and nothing else. -/
lemma ends_removal (s : Stage) (h : MemoryHost κ) (id : UInt32) :
    Ends (Stage.removeContainer id) s h (fun _ s' _ => s'.containers = s.containers.erase id)
      (fun _ s' _ => s'.containers = s.containers) fun _ => True := by
  unfold Stage.removeContainer
  refine (ends_bind _ _ _).2 ((ends_get _).2 ?_)
  dsimp only
  split
  · rfl
  · have counting :
      Spares Stage.containers ((s.instances id).mapM fun p => ask (.childCount p.2.id) :
        Work Stage (List Nat)) := spares_mapM fun _ => spares_script _
    have giving :
        Spares Stage.containers ((s.instances id).forM fun p => Stage.withdraw id p.1 p.2) :=
      spares_forM fun _ => Spares.bind (spares_modify fun _ => rfl) fun _ => spares_stagePools _
    refine (ends_bind _ _ _).2
      ((counting κ s h).mono ?_ (fun _ _ _ same => same) fun _ _ => trivial)
    intro counts s₁ h₁ same₁
    split
    · exact same₁
    · refine (ends_bind _ _ _).2 ((giving κ s₁ h₁).mono ?_ ?_ fun _ _ => trivial)
      · intro _ s₂ h₂ same₂
        exact congrArg (·.erase id) (same₂.trans same₁)
      · exact fun _ _ _ same₂ => same₂.trans same₁

/-- All other moves widen the table, and refused ones leave it alone. -/
lemma ends_move (m : Move) (s : Scene) (h : MemoryHost κ) :
    Ends m.act s h
      (fun _ s' _ => match m.removal? with
        | some id => s'.containers = s.containers.erase id
        | none => Widened s.containers s'.containers)
      (fun _ s' _ => s'.containers = s.containers) fun _ => True := by
  have spared {act : Work Scene Unit} (spares : Spares listed act) :
      Ends act s h (fun _ s' _ => Widened s.containers s'.containers)
        (fun _ s' _ => s'.containers = s.containers)
        fun _ => True :=
    (spares κ s h).mono (fun _ _ _ same => .of_eq same) (fun _ _ _ same => same) fun _ _ => trivial
  have added (id : UInt32) (parent : Option UInt32) :
      Ends (Scene.onStage (Stage.addContainer id parent)) s h
        (fun _ s' _ => Widened s.containers s'.containers)
          (fun _ s' _ => s'.containers = s.containers)
        fun _ => True := by
    refine (ends_onStage _ _ _).2
      ((ends_addContainer s.toStage h id parent).mono ?_ ?_ fun _ _ => trivial)
    · rintro _ _ _ ⟨_, rfl, new, registered⟩
      exact .insert (.inr ⟨new, registered⟩)
    · rintro _ _ _ ⟨rfl, _⟩
      rfl
  have updated (id : UInt32) (g : Geometry) :
      Ends (Scene.onStage (Stage.updateContainer id g)) s h
        (fun _ s' _ => Widened s.containers s'.containers)
          (fun _ s' _ => s'.containers = s.containers)
        fun _ => True := by
    refine (ends_onStage _ _ _).2
      ((ends_updateContainer s.toStage h id g).mono ?_ ?_ fun _ _ => trivial)
    · rintro _ _ _ ⟨_, c, hc, rfl⟩
      exact .insert (.inl ⟨c, hc, rfl⟩)
    · rintro _ _ _ ⟨rfl, _⟩
      rfl
  have removed (id : UInt32) :
      Ends (Scene.onStage (Stage.removeContainer id)) s h
        (fun _ s' _ => s'.containers = s.containers.erase id)
        (fun _ s' _ => s'.containers = s.containers) fun _ => True :=
    (ends_onStage _ _ _).2 (ends_removal s.toStage h id)
  cases m with
  | addContainer id parent => exact added id parent
  | updateContainer id g => exact updated id g
  | removeContainer id => exact removed id
  | addElement node container layer => exact spared (spares_addElement node container layer).onStage
  | patch p =>
    cases p with
    | create widget c => exact spared (offstage_listed.create widget c)
    | update id change => exact spared (offstage_listed.update id change)
    | delete widget id => exact spared (offstage_listed.delete widget id)
    | restack id layer depth => exact spared (offstage_listed.restack id layer depth)
    | createFrame c => exact added c.id c.frame
    | updateFrame id g => exact updated id g
    | deleteFrame id => exact removed id
    | loadImage id path => exact spared (spares_loadImage id path)

/-- A move takes a forest to a forest just when it orphans nobody. -/
theorem forest_step {m : Move} {result : Except PatchError Unit} (forest : Forest s.containers)
    (run : MemoryHost.patch m.act s h = .ok ((result, s'), h')) :
    Forest s'.containers ↔ ¬ (⟨s, m, result, s'⟩ : Turn).orphans := by
  have done := ends_move m s h
  unfold Ends at done
  rw [run] at done
  cases result with
  | error why =>
    rw [show s'.containers = s.containers from done]
    refine iff_of_true forest ?_
    rintro ⟨_, _, accepted, _⟩
    cases accepted
  | ok =>
    cases removal : m.removal? with
    | none =>
      simp only [removal] at done
      refine iff_of_true (forest.widen done) ?_
      rintro ⟨id, same, _⟩
      rw [removal] at same
      cases same
    | some id =>
      simp only [removal] at done
      rw [done, forest.erase_iff]
      constructor
      · rintro childless ⟨id', same, _, j, c, hc, parent⟩
        obtain rfl := Option.some.inj (removal.symm.trans same)
        exact childless j c hc parent
      · exact fun spared j c hc parent => spared ⟨id, removal, rfl, j, c, hc, parent⟩

/-- From an empty table, containers form a forest for as long as no removal orphans one; and in a
forest every container has its place on every layer. -/
theorem forest_of_turns {ms : List Move} {ts : List Turn} (run : turns ms s h = .ok (ts, h'))
    (empty : s.containers = ∅) :
    ((∀ t ∈ ts, Forest t.after.containers) ↔ ∀ t ∈ ts, ¬ t.orphans) ∧
    ∀ t ∈ ts, Forest t.after.containers → ∀ id ∈ t.after.containers, ∀ l : Layer,
      ∃ root missing, t.after.route l (t.after.containers.size + 1) id [] = .down root missing := by
  constructor
  · have start : Forest s.containers := by
      rw [empty]
      exact ⟨fun id p c hc => by simp at hc, fun id hid => by simp at hid⟩
    clear empty
    induction ms generalizing s h ts with
    | nil =>
      cases run
      simp
    | cons m ms ih =>
      unfold turns at run
      simp only [bind, StateT.bind] at run
      cases step : MemoryHost.patch m.act s h with
      | error b =>
        rw [step] at run
        cases run
      | ok r =>
        obtain ⟨⟨result, s₁⟩, h₁⟩ := r
        rw [step] at run
        simp only [Except.bind] at run
        cases rest : turns ms s₁ h₁ with
        | error b =>
          rw [rest] at run
          cases run
        | ok r =>
          obtain ⟨later, h₂⟩ := r
          rw [rest] at run
          cases run
          have first := forest_step start step
          rw [List.forall_mem_cons, List.forall_mem_cons]
          constructor
          · exact fun ⟨here, there⟩ => ⟨first.1 here, (ih rest here).1 there⟩
          · exact fun ⟨here, there⟩ => ⟨first.2 here, (ih rest (first.2 here)).2 there⟩
  · intro t _ forest id hid l
    obtain ⟨ids, line⟩ := forest.lines id hid
    obtain ⟨passed, root, ascent⟩ := line.ascent l
    exact ⟨root, passed.reverse, route_eq ascent⟩

/-- Whether these moves go like this on a blank page. -/
def trial (ms : List Move) (test : Scene → List Turn → Bool) : Bool :=
  match MemoryHost.serve (Scene.attach ⟨0⟩ .standard) blankPage with
  | .ok (.ok s, h) =>
    match turns ms s h with
    | .ok (ts, _) => test s ts
    | .error _ => false
  | _ => false

lemma exists_turns (ms : List Move) (test : Scene → List Turn → Bool) (run : trial ms test = true) :
    ∃ (s : Scene) (h h' : MemoryHost Recorder) (ts : List Turn),
      MemoryHost.serve (Scene.attach ⟨0⟩ .standard) blankPage = .ok (.ok s, h) ∧
      turns ms s h = .ok (ts, h') ∧
        test s ts = true := by
  unfold trial at run
  split at run
  · next s h start =>
    split at run
    · next made => exact ⟨_, _, _, _, start, made, run⟩
    · cases run
  · cases run

theorem forest_when_inner_frames_go_first :
    ∃ (s : Scene) (h h' : MemoryHost Recorder) (ts : List Turn),
    turns [.addContainer 1 none, .addContainer 2 (some 1), .removeContainer 2,
      .removeContainer 1] s h =
      .ok (ts, h') ∧ s.containers = ∅ ∧ ∀ t ∈ ts, Forest t.after.containers := by
  obtain ⟨s, h, h', ts, _, made, test⟩ := exists_turns
    [.addContainer 1 none, .addContainer 2 (some 1), .removeContainer 2, .removeContainer 1]
    (fun s ts => s.containers.isEmpty && decide (∀ t ∈ ts, ¬ t.orphans)) (by decide +kernel)
  obtain ⟨none_yet, spared⟩ := Bool.and_eq_true_iff.1 test
  have empty := Std.ExtTreeMap.isEmpty_iff.1 none_yet
  exact ⟨s, h, h', ts, made, empty, (forest_of_turns made empty).1.2 (of_decide_eq_true spared)⟩

/-- Whether the climb from a container for a place on the lowest layer goes on without end. -/
def goesRound (s : Scene) (id : UInt32) : Bool :=
  match s.layers[0]? with
  | some l =>
    match s.route l (s.containers.size + 1) id [] with
    | .endless _ => true
    | _ => false
  | none => false

/-- Whether the third of four turns leaves frame 2 without its parent 1, and after the last the
climb from 1 goes round. -/
def strandsAndTurns (ts : List Turn) : Bool :=
  match ts with
  | [_, _, t, u] => decide ((t.after.containers[(2 : UInt32)]?).bind (·.parent) = some 1) &&
    !t.after.containers.contains 1 && goesRound u.after 1
  | _ => false

/-- A frame is removed while another is inside it, and entered again inside that one. -/
theorem removal_orphans_a_frame : ∃ (s : Scene) (h h' : MemoryHost Recorder) (t₁ t₂ t₃ t₄ : Turn),
    MemoryHost.serve (Scene.attach ⟨0⟩ .standard) blankPage = .ok (.ok s, h) ∧
    turns [.addContainer 1 none, .addContainer 2 (some 1), .removeContainer 1,
      .addContainer 1 (some 2)] s h =
      .ok ([t₁, t₂, t₃, t₄], h') ∧
    (∃ c, t₃.after.containers[(2 : UInt32)]? = some c ∧ c.parent = some 1 ∧
      1 ∉ t₃.after.containers) ∧
    goesRound t₄.after 1 := by
  obtain ⟨s, h, h', ts, start, made, test⟩ := exists_turns
    [.addContainer 1 none, .addContainer 2 (some 1), .removeContainer 1, .addContainer 1 (some 2)]
    (fun _ ts => strandsAndTurns ts) (by decide +kernel)
  unfold strandsAndTurns at test
  split at test
  · next t₁ t₂ t u =>
    simp only [Bool.and_eq_true, decide_eq_true_eq, Bool.not_eq_true'] at test
    obtain ⟨⟨parent, gone⟩, round⟩ := test
    obtain ⟨c, hc, parent⟩ := Option.bind_eq_some_iff.1 parent
    refine ⟨s, h, h', t₁, t₂, t, u, start, made, ⟨c, hc, parent, ?_⟩, round⟩
    rw [← Std.ExtTreeMap.contains_iff_mem, gone]
    exact Bool.false_ne_true
  · cases test

end Moves

end LayeredPage.Proofs
