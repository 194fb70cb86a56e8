import LayeredPage.Proofs.History
import LayeredPage.Proofs.Layering
import LayeredPage.Proofs.Placement

/-!
# The life of a stage

A caller asks a stage for layers and containers, hangs nodes of its own on it, and in between does
with these nodes, and with the pools, what it likes. Whatever is asked in whatever order, accepted
or refused, the layers, the mount, the surfaces and the core agree, so the number of layers tells
how a page is painted.
-/

namespace LayeredPage.Proofs

open MemoryDocument

/-- What a caller can ask of a stage. -/
inductive StageCall where
  | growTo (top : UInt32)
  | shrinkTo (top : UInt32)
  | addElement (node : NodeId) (container : Option UInt32) (layer : UInt32)
  | addContainer (id : UInt32) (parent : Option UInt32)
  | updateContainer (id : UInt32) (g : Geometry)
  | removeContainer (id : UInt32)

namespace StageCall

def act : StageCall → Work Stage Unit
  | growTo top => Stage.growTo top
  | shrinkTo top => Stage.shrinkTo top
  | addElement node container layer => Stage.addElement node container layer
  | addContainer id parent => Stage.addContainer id parent
  | updateContainer id g => Stage.updateContainer id g
  | removeContainer id => Stage.removeContainer id

/-- The nodes that a call brings along. -/
def guests : StageCall → List NodeId
  | addElement node _ _ => [node]
  | _ => []

end StageCall

/-- An issued node that is not the mount and that neither the stage nor its pools hold. -/
def Foreign (s : Stage) (d : MemoryDocument) (n : NodeId) : Prop :=
  d.issued n ∧ n ∉ s.mount :: (shelved s.pools ++ stageNodes s).map (·.id)

/-- The stages that calls lead to from where a mount was taken over. Between calls the caller may
take nodes from the pools, give back what it has, and ask the document for anything about its own
nodes. -/
inductive Tenure (mount : NodeId) (h₀ : MemoryHost Recorder) :
    Stage → MemoryHost Recorder → Prop where
  | attached {ps : NodePools} {s : Stage} {h : MemoryHost Recorder} :
    Apart mount ps [] h₀.document →
      MemoryHost.serve (Stage.attach ps mount) h₀ = .ok (.ok s, h) → Tenure mount h₀ s h
  | called {s s' : Stage} {h h' : MemoryHost Recorder} {c : StageCall}
    {result : Except PatchError Unit} :
      Tenure mount h₀ s h → (∀ n ∈ c.guests, Foreign s h.document n) →
      MemoryHost.patch c.act s h = .ok ((result, s'), h') → Tenure mount h₀ s' h'
  | asked {s : Stage} {h : MemoryHost Recorder} {r : DocumentRequest} {reply : r.Reply}
    {d : MemoryDocument} :
      Tenure mount h₀ s h → (∀ n ∈ named r, Foreign s h.document n) →
      answer r h.document = .ok (reply, d) →
      Tenure mount h₀ s { h with document := d }
  | took {s s' : Stage} {h h' : MemoryHost Recorder} {kind : NodeKind}
    {result : Except PatchError OwnedNode} :
      Tenure mount h₀ s h → MemoryHost.patch (Stage.onPools (Pools.take kind)) s h =
        .ok ((result, s'), h') →
      Tenure mount h₀ s' h'
  | gave {s s' : Stage} {h h' : MemoryHost Recorder} {kind : NodeKind} {n : OwnedNode}
    {result : Except PatchError Unit} :
      Tenure mount h₀ s h → Foreign s h.document n.id →
      MemoryHost.patch (Stage.onPools (Pools.put kind n)) s h = .ok ((result, s'), h') →
      Tenure mount h₀ s' h'

/-- What every layer shows, from the lowest up. -/
def layerFaces (count : Nat) : List (Option String × Option String) :=
  (List.range count).flatMap fun i =>
    [(some "canvas", some (toString i)), (some "native-overlay", some (toString i))]

section Calls

variable {mount : NodeId} {before : List NodeId} {others : List OwnedNode} {s s' : Stage}
  {h h' h₀ : MemoryHost Recorder} {n : OwnedNode}

lemma Stacked.alone (st : Stacked mount before others s h) : Stacked mount before [] s h := by
  refine ⟨st.apart.fewer ?_, st.mounted, st.marked, st.order, st.surfaces, st.turns⟩
  exact (List.nil_sublist others).append_left _

/-- A node of the caller's joins. -/
lemma Stacked.welcome (st : Stacked mount before [] s h) (foreign : Foreign s h.document n.id) :
    Stacked mount before [n] s h := by
  obtain ⟨issued, strange⟩ := foreign
  have a := st.apart
  rw [List.append_nil] at a
  rw [st.mounted] at strange
  refine ⟨⟨a.stocked, a.tidy, a.mounted, ?_, ?_⟩, st.mounted, st.marked, st.order,
    st.surfaces, st.turns⟩
  · rw [← List.append_assoc, List.map_append, ← List.cons_append]
    refine List.nodup_append.2 ⟨a.distinct, List.nodup_singleton _, ?_⟩
    rintro m hm _ hn rfl
    obtain rfl : m = n.id := by simpa using hn
    exact strange hm
  · intro m hm
    rw [← List.append_assoc, List.mem_append, List.mem_singleton] at hm
    rcases hm with hm | rfl
    · exact a.issued m hm
    · exact issued

/-- A call keeps the records agreeing and at least one layer. It breaks off only where the
containers above a guest go round. -/
theorem Stacked.call (st : Stacked mount before [] s h)
    (some_layer : 0 < s.layers.size) (c : StageCall)
    (foreign : ∀ n ∈ c.guests, Foreign s h.document n) :
    Ends c.act s h (fun _ s' h' => Stacked mount before [] s' h' ∧ 0 < s'.layers.size)
      (fun _ s' h' => Stacked mount before [] s' h' ∧ 0 < s'.layers.size) fun b => ∃ id,
      b = .endlessContainers id := by
  have unchanged {s' : Stage} {h' : MemoryHost Recorder} (same : s' = s ∧ h' = h) :
      Stacked mount before [] s' h' ∧ 0 < s'.layers.size := by
    obtain ⟨rfl, rfl⟩ := same
    exact ⟨st, some_layer⟩
  cases c with
  | growTo top =>
    refine (st.growTo top).ends ?_
    rintro _ s' h' ⟨st', size, _⟩
    exact ⟨st', by omega⟩
  | shrinkTo top =>
    refine (st.shrinkTo top).mono ?_ (fun _ _ _ => unchanged) fun _ => False.elim
    rintro _ s' h' ⟨st', size⟩
    exact ⟨st', by omega⟩
  | addElement node container layer =>
    have guest : Stacked mount before [⟨node, .div⟩] s h :=
      st.welcome (foreign node (by simp [StageCall.guests]))
    refine (guest.addElement (by simp) container layer).mono ?_ ?_ fun _ endless => endless
    · exact fun _ _ _ ⟨st', pos⟩ => ⟨st'.alone, pos⟩
    · exact fun _ _ _ ⟨st', pos⟩ => ⟨st'.alone, pos⟩
  | addContainer id parent =>
    refine (st.addContainer id parent).mono ?_ (fun _ _ _ => unchanged) fun _ => False.elim
    rintro _ s' h' ⟨st', layers⟩
    exact ⟨st', by rwa [layers]⟩
  | updateContainer id g =>
    refine (st.updateContainer id g).mono ?_ (fun _ _ _ => unchanged) fun _ => False.elim
    rintro _ s' h' ⟨st', layers⟩
    exact ⟨st', by rwa [layers]⟩
  | removeContainer id =>
    refine (st.removeContainer id).mono ?_ (fun _ _ _ => unchanged) fun _ => False.elim
    rintro _ s' h' ⟨st', size⟩
    exact ⟨st', by omega⟩

/-- What the caller asks about its own nodes happens beside the stack. -/
lemma Stacked.ask (st : Stacked mount before [] s h) {r : DocumentRequest} {reply : r.Reply}
    {d : MemoryDocument}
    (foreign : ∀ n ∈ named r, Foreign s h.document n) (run : answer r h.document = .ok (reply, d)) :
    Stacked mount before [] s { h with document := d } := by
  have a := st.apart
  have there : ∀ n ∈ mount :: stack s.layers.toList, h.document.issued n := by
    intro n hn
    rcases List.mem_cons.1 hn with rfl | hn
    · exact a.mounted
    · exact a.issued_of_mem (mine_of_stack hn)
  have strange : ∀ n ∈ named r, h.document.issued n ∧ n ∉ mount :: stack s.layers.toList := by
    intro n hn
    obtain ⟨issued, apart⟩ := foreign n hn
    refine ⟨issued, fun inside => apart ?_⟩
    rw [st.mounted]
    rcases List.mem_cons.1 inside with rfl | inside
    · exact List.mem_cons_self
    · rw [List.map_append]
      exact List.mem_cons_of_mem _ (List.mem_append_right _ (staged_of_stack inside))
  obtain ⟨quiet, size⟩ := Undisturbed.answered a.tidy.linked there strange run
  have tidy := a.tidy.answered (fun n hn => (foreign n hn).1) run
  exact st.beside rfl rfl rfl ⟨a.change tidy size, quiet, rfl⟩

lemma Stacked.take (st : Stacked mount before [] s h) (kind : NodeKind) :
    Yields (Stage.onPools (Pools.take kind)) s h fun _ s' h' => Stacked mount before [] s' h' ∧
      s'.layers = s.layers := by
  have b : Beside mount s.pools (stageNodes s ++ []) (stack s.layers.toList) h h := .start st.apart
  refine (ends_onPools _ _ _).2 ((b.take (fun n hn => mine_of_stack hn) kind).ends ?_)
  intro n ps h' b
  refine ⟨st.beside rfl rfl rfl ⟨b.apart.fewer ?_, b.quiet, b.core⟩, rfl⟩
  exact List.sublist_cons_self n _

lemma Stacked.put (st : Stacked mount before [] s h)
    (foreign : Foreign s h.document n.id) (kind : NodeKind) :
    Yields (Stage.onPools (Pools.put kind n)) s h fun _ s' h' => Stacked mount before [] s' h' ∧
      s'.layers = s.layers := by
  have a : Apart mount s.pools (n :: stageNodes s) h.document :=
    (st.welcome foreign).apart.perm List.perm_append_comm
  have b : Beside mount s.pools (n :: stageNodes s) (stack s.layers.toList) h h := .start a
  have strange : n.id ∉ stack s.layers.toList := fun inside => a.notMem (staged_of_stack inside)
  refine (ends_onPools _ _ _).2 ((b.put strange kind).ends ?_)
  rintro _ ps h' ⟨b, _⟩
  refine ⟨st.beside rfl rfl rfl ⟨?_, b.quiet, b.core⟩, rfl⟩
  rw [List.append_nil]
  exact b.apart

/-- Every mount can be taken over, with pools that have a node for everyone. -/
lemma attach_stacks {ps : NodePools} (a : Apart mount ps [] h₀.document)
    (quiet : ∀ i, contextTurns i h₀.core.calls = []) :
    Answers (Stage.attach ps mount) h₀ (fun r h => ∃ s, r = .ok s ∧
      Stacked mount (h₀.document.children mount) [] s h ∧
      0 < s.layers.size) fun _ => False := by
  have start : Stacked mount (h₀.document.children mount) [] (bare ps mount) h₀ := by
    refine ⟨a, rfl, fun i l hl => by simp [bare] at hl, ⟨_, .refl _, by simp [bare, stack]⟩,
      fun i => by simp [bare, Stage.canvas?],
      fun i => ⟨0, quiet i, by simp [bare]⟩⟩
  refine (answers_stage _ _).2
    (start.addLayer.mono ?_ (fun _ _ _ => False.elim) fun _ => False.elim)
  rintro _ s h ⟨st, size, _⟩
  exact ⟨s, rfl, st, by omega⟩

theorem Tenure.stacked (tenure : Tenure mount h₀ s h)
    (quiet : ∀ i, contextTurns i h₀.core.calls = []) :
    Stacked mount (h₀.document.children mount) [] s h ∧ 0 < s.layers.size := by
  induction tenure with
  | attached a run =>
    have start := attach_stacks a quiet
    unfold Answers at start
    rw [run] at start
    obtain ⟨s, eq, st, pos⟩ := start
    cases eq
    exact ⟨st, pos⟩
  | @called s s' h h' c result _ foreign run ih =>
    have kept := ih.1.call ih.2 c foreign
    unfold Ends at kept
    rw [run] at kept
    cases result with
    | ok => exact kept
    | error => exact kept
  | asked _ foreign run ih => exact ⟨ih.1.ask foreign run, ih.2⟩
  | @took s s' h h' kind result _ run ih =>
    have kept := ih.1.take kind
    unfold Yields Ends at kept
    rw [run] at kept
    cases result with
    | ok =>
      obtain ⟨st, layers⟩ := kept
      exact ⟨st, by rw [layers]; exact ih.2⟩
    | error => exact kept.elim
  | @gave s s' h h' kind n result _ foreign run ih =>
    have kept := ih.1.put foreign kind
    unfold Yields Ends at kept
    rw [run] at kept
    cases result with
    | ok =>
      obtain ⟨st, layers⟩ := kept
      exact ⟨st, by rw [layers]; exact ih.2⟩
    | error => exact kept.elim

end Calls

section Painting

variable {mount : NodeId} {s : Stage} {h h₀ : MemoryHost Recorder}

/-- Layers that know their places are painted in their order. -/
lemma paintOrder_of_marked {d : MemoryDocument} {ls : List Layer}
    (marked : ∀ (i : Nat) (l : Layer), ls[i]? = some l → Marked d i l) :
    paintOrder d (stack ls) = layerFaces ls.length := by
  induction ls using List.reverseRecOn with
  | nil => rfl
  | append_singleton ls l ih =>
    have lower :=
      ih fun i l' hl' =>
        marked i l' (by rw [List.getElem?_append_left (List.getElem?_eq_some_iff.1 hl').1, hl'])
    have last := marked ls.length l (by simp)
    have whole : stack (ls ++ [l]) = stack ls ++ [l.canvas.id, l.overlay.id] := by simp [stack]
    rw [whole, paintOrder, List.map_append, ← paintOrder, lower, List.length_append,
      List.length_singleton, layerFaces,
      layerFaces, List.range_succ, List.flatMap_append]
    simp [last.canvas_class, last.canvas_depth, last.overlay_class, last.overlay_depth]

/-- At every point of a tenure the layers, the children of the mount, the surfaces and the contexts
of the core are the same stack. So no call finds a surface registered twice or missing, and the
number of layers tells how they are painted. -/
theorem stack_of_tenure (tenure : Tenure mount h₀ s h)
    (quiet : ∀ i, contextTurns i h₀.core.calls = []) :
    0 < s.layers.size ∧ s.mount = mount ∧
    (∀ (i : Nat) (l : Layer), s.layers[i]? = some l → Marked h.document i l) ∧
    (∃ rest, rest.Sublist (h₀.document.children mount) ∧
      h.document.children mount = rest ++ stack s.layers.toList) ∧
    (∀ i : Nat, s.surfaces[i]? = s.canvas? i) ∧
    Alternates h.core.calls (· < s.layers.size) ∧
    (∀ ps, Apart mount ps [] h₀.document →
      Answers (Stage.attach ps mount) h₀ (fun r _ => ∃ s, r = .ok s) fun _ => False) ∧
    (∀ c : StageCall, (∀ n ∈ c.guests, Foreign s h.document n) →
      Ends c.act s h (fun _ _ _ => True) (fun _ _ _ => True) fun b => ∃ id,
      b = .endlessContainers id) ∧
    ∀ {mount' : NodeId} {h₀' h' : MemoryHost Recorder} {s' : Stage}, Tenure mount' h₀' s' h' →
      (∀ i, contextTurns i h₀'.core.calls = []) → s'.layers.size = s.layers.size →
      paintOrder h'.document (stack s'.layers.toList) =
        paintOrder h.document (stack s.layers.toList) := by
  obtain ⟨st, pos⟩ := tenure.stacked quiet
  have painted {before : List NodeId} {mount : NodeId} {s : Stage} {h : MemoryHost Recorder}
      (st : Stacked mount before [] s h) :
      paintOrder h.document (stack s.layers.toList) = layerFaces s.layers.size := by
    refine paintOrder_of_marked fun i l hl => st.marked i l ?_
    rwa [Array.getElem?_toList] at hl
  refine ⟨pos, st.mounted, st.marked, st.order, st.surfaces, st.turns, fun ps a => ?_,
    fun c foreign => ?_, ?_⟩
  · exact (attach_stacks a quiet).mono (fun _ _ ⟨s, eq, _⟩ => ⟨s, eq⟩) fun _ => False.elim
  · exact (st.call pos c foreign).mono (fun _ _ _ _ => trivial) (fun _ _ _ _ => trivial)
      fun _ endless => endless
  · intro mount' h₀' h' s' tenure' quiet' size
    rw [painted (tenure'.stacked quiet').1, painted st, size]

instance {s : Stage} {d : MemoryDocument} {n : NodeId} : Decidable (Foreign s d n) :=
  inferInstanceAs (Decidable (_ ∧ _))

/-- Makes some calls, one after the other, as long as their guests are the caller's. -/
def attempt : List StageCall → Stage → MemoryHost Recorder → Option (Stage × MemoryHost Recorder)
  | [], s, h => some (s, h)
  | c :: cs, s, h =>
    if ∀ n ∈ c.guests, Foreign s h.document n then
      match MemoryHost.patch c.act s h with
      | .ok ((_, s), h) => attempt cs s h
      | .error _ => none
    else none

lemma Tenure.attempt {cs : List StageCall} {s' : Stage} {h' : MemoryHost Recorder}
    (tenure : Tenure mount h₀ s h)
    (run : Proofs.attempt cs s h = some (s', h')) : Tenure mount h₀ s' h' := by
  induction cs generalizing s h with
  | nil =>
    cases run
    exact tenure
  | cons c cs ih =>
    unfold Proofs.attempt at run
    split at run
    · next foreign =>
      split at run
      · next step => exact ih (tenure.called foreign step) run
      · cases run
    · cases run

/-- Whether these calls lead from a mount to a stage like this. -/
def tenured (h₀ : MemoryHost Recorder) (cs : List StageCall)
    (test : Stage → MemoryHost Recorder → Bool) : Bool :=
  match MemoryHost.serve (Stage.attach .complete ⟨0⟩) h₀ with
  | .ok (.ok s, h) =>
    match attempt cs s h with
    | some (s, h) => test s h
    | none => false
  | _ => false

lemma exists_tenure (cs : List StageCall) (test : Stage → MemoryHost Recorder → Bool)
    (a : Apart ⟨0⟩ .complete [] h₀.document) (run : tenured h₀ cs test = true) :
    ∃ (s : Stage) (h : MemoryHost Recorder), Tenure ⟨0⟩ h₀ s h ∧ test s h = true := by
  unfold tenured at run
  split at run
  · next s h start =>
    split at run
    · next made => exact ⟨_, _, (Tenure.attached a start).attempt made, run⟩
    · cases run
  · cases run

/-- A host whose document is a mount and a button beside it. -/
def buttonPage : MemoryHost Recorder := ⟨(blankPage.document.create .button).2, .start⟩

/-- Pools that made nothing yet hold nothing. -/
lemma Apart.start {d : MemoryDocument} (reached : Reached d) (there : d.issued mount) :
    Apart mount .complete [] d := by
  have nothing : shelved .complete ++ [] = [] := rfl
  refine ⟨stocked_forAll true, reached.tidy, there, ?_, ?_⟩
  · rw [nothing]
    exact List.nodup_singleton mount
  · rw [nothing]
    exact fun n hn => absurd hn List.not_mem_nil

/-- The button goes into a container on layer 2, so the stack can shrink to three layers but no
further, and grow again. -/
theorem stack_after_regrowth : ∃ (s s' : Stage) (h h' : MemoryHost Recorder),
    Tenure ⟨0⟩ buttonPage s h ∧ Tenure ⟨0⟩ blankPage s' h' ∧
    contextTurns 3 h.core.calls = [true, false, true] ∧
      (∃ top, s.layers[3]? = some top ∧ h.document.attributeOf? top.canvas.id "id" = some "3" ∧
        h.document.attributeOf? top.canvas.id "class" = some "canvas" ∧
        styleOf? h.document top.overlay.id "z-index" = some "3") ∧
      paintOrder h'.document (stack s'.layers.toList) =
        paintOrder h.document (stack s.layers.toList) := by
  have reached : Reached buttonPage.document :=
    .asked (r := .createElement .button) reached_blankPage (by simp [named]) rfl
  obtain ⟨s, h, tenure, test⟩ := exists_tenure
    [.addContainer 1 none, .addElement ⟨1⟩ (some 1) 2, .growTo 3, .shrinkTo 1, .shrinkTo 2,
      .growTo 3]
    (fun s h =>
      decide (s.layers.size = 4) && decide (contextTurns 3 h.core.calls = [true, false, true]))
    (Apart.start reached rfl) (by decide +kernel)
  obtain ⟨s', h', tenure', test'⟩ :=
    exists_tenure [.growTo 3] (fun s _ => decide (s.layers.size = 4))
    (Apart.start reached_blankPage rfl) (by decide +kernel)
  obtain ⟨size, turns⟩ := Bool.and_eq_true_iff.1 test
  obtain ⟨_, _, marked, _, _, _, _, _, same⟩ := stack_of_tenure tenure fun _ => rfl
  have four : 3 < s.layers.size := by rw [of_decide_eq_true size]; decide
  obtain ⟨top, found⟩ : ∃ top, s.layers[3]? = some top := ⟨_, Array.getElem?_eq_getElem four⟩
  have shows := marked 3 top found
  refine ⟨s, s', h, h', tenure, tenure', of_decide_eq_true turns,
    ⟨top, found, shows.canvas_id, shows.canvas_class, shows.overlay_depth⟩,
    same tenure' (fun _ => rfl) ?_⟩
  rw [of_decide_eq_true size, of_decide_eq_true test']

end Painting

end LayeredPage.Proofs
