import LayeredPage.Memory.Recorder
import LayeredPage.Proofs.Containers
import LayeredPage.Proofs.Neighbours

/-!
# The stack of layers

The layers of a stage, the children of its mount, its surfaces and what it told the core say the
same. `Stacked` is that agreement. A layer that is raised enters all four records at the end, one
that is taken down leaves them there, and everything else a stage does goes on beside the stack.
-/

namespace LayeredPage.Proofs

open MemoryDocument

def styleOf? (d : MemoryDocument) (n : NodeId) (property : String) : Option String :=
  (d.node? n).bind fun node => node.style[property]?

/-- The nodes of a stack of layers, lowest first and each canvas before its overlay. -/
def stack (ls : List Layer) : List NodeId := ls.flatMap fun l => [l.canvas.id, l.overlay.id]

/-- Class and depth of some nodes. -/
def paintOrder (d : MemoryDocument) (ns : List NodeId) : List (Option String × Option String) :=
  ns.map fun n => (d.attributeOf? n "class", styleOf? d n "z-index")

/-- Layer `i` knows its place, and its nodes show it. -/
structure Marked (d : MemoryDocument) (i : Nat) (l : Layer) : Prop where
  index : l.index = i
  canvas_class : d.attributeOf? l.canvas.id "class" = some "canvas"
  canvas_id : d.attributeOf? l.canvas.id "id" = some (toString i)
  canvas_depth : styleOf? d l.canvas.id "z-index" = some (toString i)
  overlay_class : d.attributeOf? l.overlay.id "class" = some "native-overlay"
  overlay_depth : styleOf? d l.overlay.id "z-index" = some (toString i)

/-- What a log, latest first, tells about context `i`: its additions and its removals, earliest
first. -/
def contextTurns (i : Nat) : List CoreCall → List Bool
  | [] => []
  | .addContext j :: calls => contextTurns i calls ++ if j = i then [true] else []
  | .removeContext j :: calls => contextTurns i calls ++ if j = i then [false] else []
  | _ :: calls => contextTurns i calls

/-- The first `k` turns of a context that is added, removed, added again and so on. -/
def alternation (k : Nat) : List Bool := (List.range k).map fun j => decide (j % 2 = 0)

/-- Every context was added and removed by turns, and these are the ones that stayed. -/
def Alternates (calls : List CoreCall) (live : Nat → Prop) : Prop :=
  ∀ i, ∃ k, contextTurns i calls = alternation k ∧ (k % 2 = 1 ↔ live i)

/-- Layers, mount, surfaces and core agree; the children that the mount had `before` may have
gone. -/
structure Stacked (mount : NodeId) (before : List NodeId) (others : List OwnedNode) (s : Stage)
    (h : MemoryHost Recorder) :
    Prop where
  apart : Apart mount s.pools (stageNodes s ++ others) h.document
  mounted : s.mount = mount
  marked : ∀ (i : Nat) (l : Layer), s.layers[i]? = some l → Marked h.document i l
  order : ∃ rest, rest.Sublist before ∧ h.document.children mount = rest ++ stack s.layers.toList
  surfaces : ∀ i : Nat, s.surfaces[i]? = s.canvas? i
  turns : Alternates h.core.calls (· < s.layers.size)

section Logs

variable {calls : List CoreCall} {n : Nat}

lemma alternation_succ (k : Nat) : alternation (k + 1) = alternation k ++ [decide (k % 2 = 0)] := by
  simp [alternation, List.range_succ]

/-- A context that is not live is added. -/
lemma Alternates.added (turns : Alternates calls (· < n)) :
    Alternates (.addContext n :: calls) (· < n + 1) := by
  intro i
  obtain ⟨k, told, odd⟩ := turns i
  by_cases here : n = i
  · subst here
    have even : k % 2 = 0 := by
      have := mt odd.1 (lt_irrefl n)
      omega
    refine ⟨k + 1, ?_, ?_⟩
    · rw [contextTurns, told, alternation_succ, if_pos rfl, decide_eq_true even]
    · omega
  · refine ⟨k, ?_, ?_⟩
    · rw [contextTurns, told, if_neg here, List.append_nil]
    · omega

/-- The last live context is removed. -/
lemma Alternates.removed (turns : Alternates calls (· < n + 1)) :
    Alternates (.removeContext n :: calls) (· < n) := by
  intro i
  obtain ⟨k, told, odd⟩ := turns i
  by_cases here : n = i
  · subst here
    have last : k % 2 = 1 := odd.2 (Nat.lt_succ_self n)
    refine ⟨k + 1, ?_, ?_⟩
    · rw [contextTurns, told, alternation_succ, if_pos rfl, decide_eq_false (by omega)]
    · omega
  · refine ⟨k, ?_, ?_⟩
    · rw [contextTurns, told, if_neg here, List.append_nil]
    · omega

end Logs

section Marks

variable {d d' : MemoryDocument} {n : NodeId} {i : Nat} {l l' : Layer}

lemma attributeOf?_of_looks (same : looks d' n = looks d n) (name : String) :
    d'.attributeOf? n name = d.attributeOf? n name := by
  have read (d : MemoryDocument) : d.attributeOf? n name = (looks d n).bind (·.1[name]?) := by
    unfold MemoryDocument.attributeOf? looks
    cases d.node? n <;> rfl
  rw [read, read, same]

lemma styleOf?_of_looks (same : looks d' n = looks d n) (property : String) :
    styleOf? d' n property = styleOf? d n property := by
  have read (d : MemoryDocument) : styleOf? d n property = (looks d n).bind (·.2[property]?) := by
    unfold styleOf? looks
    cases d.node? n <;> rfl
  rw [read, read, same]

lemma Marked.of_looks (m : Marked d i l) (canvas : looks d' l.canvas.id = looks d l.canvas.id)
    (overlay : looks d' l.overlay.id = looks d l.overlay.id) : Marked d' i l where
  index := m.index
  canvas_class := (attributeOf?_of_looks canvas _).trans m.canvas_class
  canvas_id := (attributeOf?_of_looks canvas _).trans m.canvas_id
  canvas_depth := (styleOf?_of_looks canvas _).trans m.canvas_depth
  overlay_class := (attributeOf?_of_looks overlay _).trans m.overlay_class
  overlay_depth := (styleOf?_of_looks overlay _).trans m.overlay_depth

/-- The containers on a layer do not matter. -/
lemma Marked.of_same (m : Marked d i l) (index : l'.index = l.index) (canvas : l'.canvas = l.canvas)
    (overlay : l'.overlay = l.overlay) : Marked d i l' := by
  obtain ⟨here, canvas_class, canvas_id, canvas_depth, overlay_class, overlay_depth⟩ := m
  rw [← canvas] at canvas_class canvas_id canvas_depth
  rw [← overlay] at overlay_class overlay_depth
  exact ⟨index.trans here, canvas_class, canvas_id, canvas_depth, overlay_class, overlay_depth⟩

end Marks

/-! ## A layer is raised -/

/-- A document after the nodes of a layer were marked. -/
def dressed (index : Nat) (canvas overlay : NodeId) (d : MemoryDocument) : MemoryDocument :=
  written (.style "z-index" (toString index)) overlay <|
    written (.attr "class" Layer.overlayClass) overlay <|
    written (.style "z-index" (toString index)) canvas <|
      written (.attr "id" (Layer.surfaceName index)) canvas <|
      written (.attr "class" Layer.canvasClass) canvas d

section Dressing

variable {d : MemoryDocument} {canvas overlay m : NodeId} {index : Nat}

lemma children_dressed : (dressed index canvas overlay d).children m = d.children m := by
  unfold dressed written
  rw [children_modify, children_modify, children_modify, children_modify, children_modify]
  all_goals exact fun _ => rfl

lemma Tidy.dressed (tidy : Tidy d) : Tidy (dressed index canvas overlay d) := by
  unfold Proofs.dressed Proofs.written
  refine Tidy.modify (.modify (.modify (.modify (.modify tidy ?_ ?_) ?_ ?_) ?_ ?_) ?_ ?_) ?_ ?_
  all_goals exact fun _ => rfl

lemma size_dressed : (dressed index canvas overlay d).nodes.size = d.nodes.size := by
  unfold dressed
  rw [size_written, size_written, size_written, size_written, size_written]

lemma looks_dressed (hc : m ≠ canvas) (ho : m ≠ overlay) :
    looks (dressed index canvas overlay d) m = looks d m := by
  unfold looks dressed written
  rw [node?_modify, if_neg ho, node?_modify, if_neg ho, node?_modify, if_neg hc, node?_modify,
    if_neg hc, node?_modify,
    if_neg hc]

/-- The canvas gets class, id and depth, the overlay class and depth. -/
lemma marked_dressed {l : Layer} (hc : d.issued l.canvas.id) (ho : d.issued l.overlay.id)
    (other : l.canvas.id ≠ l.overlay.id) :
    Marked (dressed l.index l.canvas.id l.overlay.id d) l.index l := by
  obtain ⟨canvas, hc⟩ := issued_iff.1 hc
  obtain ⟨overlay, ho⟩ := issued_iff.1 ho
  have canvas_record : (dressed l.index l.canvas.id l.overlay.id d).node? l.canvas.id = some
      { canvas with
        attributes := (canvas.attributes.insert "class" "canvas").insert "id" (toString l.index)
        style := canvas.style.insert "z-index" (toString l.index) } := by
    unfold dressed written
    rw [node?_modify, if_neg other, node?_modify, if_neg other, node?_modify, if_pos rfl,
      node?_modify, if_pos rfl,
      node?_modify, if_pos rfl, hc]
    rfl
  have overlay_record : (dressed l.index l.canvas.id l.overlay.id d).node? l.overlay.id = some
      { overlay with
        attributes := overlay.attributes.insert "class" "native-overlay"
        style := overlay.style.insert "z-index" (toString l.index) } := by
    unfold dressed written
    rw [node?_modify, if_pos rfl, node?_modify, if_pos rfl, node?_modify,
      if_neg (Ne.symm other), node?_modify,
      if_neg (Ne.symm other), node?_modify, if_neg (Ne.symm other), ho]
    rfl
  refine ⟨rfl, ?_, ?_, ?_, ?_, ?_⟩
  · have apart : compare "id" "class" ≠ .eq := by decide
    rw [attributeOf?, canvas_record, Option.bind_some, Std.ExtTreeMap.getElem?_insert, if_neg apart,
      Std.ExtTreeMap.getElem?_insert_self]
  · simp [attributeOf?, canvas_record]
  · simp [styleOf?, canvas_record]
  · simp [attributeOf?, overlay_record]
  · simp [styleOf?, overlay_record]

/-- The marks are set one by one. -/
lemma ends_marks {σ α : Type} {s : σ} {h : MemoryHost Recorder}
    {post : α → σ → MemoryHost Recorder → Prop}
    {refused : PatchError → σ → MemoryHost Recorder → Prop}
    {breach : Breach → Prop} {rest : Work σ α}
    (hc : h.document.issued canvas) (ho : h.document.issued overlay)
    (next : ∀ h' : MemoryHost Recorder, h'.document = dressed index canvas overlay h.document →
      h'.core = h.core →
      Ends rest s h' post refused breach) :
    Ends (do
        ask (.setAttribute canvas "class" Layer.canvasClass)
        ask (.setAttribute canvas "id" (Layer.surfaceName index))
        ask (.setStyle canvas "z-index" (toString index))
        ask (.setAttribute overlay "class" Layer.overlayClass)
        ask (.setStyle overlay "z-index" (toString index))
        rest) s h post refused breach := by
  refine ends_write (.attr "class" Layer.canvasClass) hc fun h₁ d₁ core₁ => ?_
  refine ends_write (.attr "id" (Layer.surfaceName index)) (by simpa [d₁] using hc)
    fun h₂ d₂ core₂ => ?_
  refine ends_write (.style "z-index" (toString index)) (by simpa [d₁, d₂] using hc)
    fun h₃ d₃ core₃ => ?_
  refine ends_write (.attr "class" Layer.overlayClass) (by simpa [d₁, d₂, d₃] using ho)
    fun h₄ d₄ core₄ => ?_
  refine ends_write (.style "z-index" (toString index)) (by simpa [d₁, d₂, d₃, d₄] using ho)
    fun h₅ d₅ core₅ => ?_
  apply next
  · rw [d₅, d₄, d₃, d₂, d₁, dressed]
  · rw [core₅, core₄, core₃, core₂, core₁]

end Dressing

section Raising

variable {mount : NodeId} {before : List NodeId} {mine : List OwnedNode} {index : Nat}
  {w : Workshop} {s : Stage} {h : MemoryHost Recorder}

/-- A layer that was raised: its nodes are the mount's last children, and nothing else has happened
to the nodes in use. -/
structure Raised (mount : NodeId) (mine : List OwnedNode) (index : Nat) (w : Workshop)
    (h : MemoryHost Recorder) (l : Layer) (w' : Workshop) (h' : MemoryHost Recorder) : Prop where
  apart : Apart mount w'.pools (l.canvas :: l.overlay :: mine) h'.document
  frames : l.frames = ∅
  marked : Marked h'.document index l
  surfaces : w'.surfaces = w.surfaces.insert index l.canvas.id
  children : ∃ q : NodeId → Bool, (∀ n ∈ mine.map (·.id), q n = true) ∧
    h'.document.children mount = (h.document.children mount).filter q ++ [l.canvas.id, l.overlay.id]
  looks : ∀ n ∈ mine.map (·.id), looks h'.document n = looks h.document n
  core : h'.core = h.core.note (.addContext index)

theorem build_raises (a : Apart mount w.pools mine h.document) (new : w.surfaces[index]? = none) :
    Yields (Layer.build mount index) w h fun l w' h' => Raised mount mine index w h l w' h' := by
  unfold Layer.build
  refine (ends_bind _ _ _).2 ((ends_focus _ _).2 ((a.take .canvas).ends ?_))
  rintro canvas ps₁ h₁ ⟨a₁, core₁, kept₁⟩
  refine (ends_bind _ _ _).2 ((ends_focus _ _).2 ((a₁.take .div).ends ?_))
  rintro overlay ps₂ h₂ ⟨a₂, core₂, kept₂⟩
  have canvas_there : h₂.document.issued canvas.id := a₂.issued_of_mem (by simp)
  have overlay_there : h₂.document.issued overlay.id := a₂.issued_of_mem (by simp)
  have same (m) (hm : h.document.issued m) : h₂.document.node? m = h.document.node? m := by
    have hm₁ : h₁.document.issued m := by
      rw [issued_iff, kept₁ m hm]
      exact issued_iff.1 hm
    exact (kept₂ m hm₁).trans (kept₁ m hm)
  have other : canvas.id ≠ overlay.id := by
    have distinct := a₂.nodup
    rw [List.map_cons, List.nodup_cons] at distinct
    exact fun same => distinct.1 (by simp [same])
  have strange (m) (hm : m ∈ mine.map (·.id)) : m ≠ canvas.id ∧ m ≠ overlay.id := by
    have distinct := a₂.nodup
    rw [List.map_cons, List.map_cons, List.nodup_cons, List.nodup_cons,
      List.mem_cons, not_or] at distinct
    exact ⟨ne_of_mem_of_not_mem hm distinct.2.1, ne_of_mem_of_not_mem hm distinct.1.2⟩
  refine ends_marks canvas_there overlay_there fun h₇ dressing core₇ => ?_
  have a₇ : Apart mount ps₂ (overlay :: canvas :: mine) h₇.document := by
    rw [dressing]
    exact a₂.change a₂.tidy.dressed size_dressed.ge
  have canvas_there₇ : h₇.document.issued canvas.id := a₇.issued_of_mem (by simp)
  refine ends_append a₇.mounted canvas_there₇ fun h₈ d₈ core₈ => ?_
  have a₈ : Apart mount ps₂ (overlay :: canvas :: mine) h₈.document := by
    rw [d₈]
    exact a₇.change (a₇.tidy.append a₇.mounted canvas_there₇) size_append.ge
  have overlay_there₈ : h₈.document.issued overlay.id := a₈.issued_of_mem (by simp)
  refine ends_append a₈.mounted overlay_there₈ fun h₉ d₉ core₉ => ?_
  have a₉ : Apart mount ps₂ (overlay :: canvas :: mine) h₉.document := by
    rw [d₉]
    exact a₈.change (a₈.tidy.append a₈.mounted overlay_there₈) size_append.ge
  have look (m) :
      looks h₉.document m = looks (dressed index canvas.id overlay.id h₂.document) m := by
    rw [d₉, looks_append a₈.tidy.linked, d₈, looks_append a₇.tidy.linked, dressing]
  have fresh : w.surfaces.contains index = false :=
    Std.ExtTreeMap.contains_eq_isSome_getElem?.trans (by rw [new]; rfl)
  unfold Workshop.register
  refine (ends_bind _ _ _).2 ((ends_bind _ _ _).2 ((ends_get _).2 ?_))
  simp only [fresh]
  refine ⟨a₉.perm (.swap ..), rfl, ?_, rfl,
    ⟨fun m => m ≠ overlay.id ∧ m ≠ canvas.id, ?_, ?_⟩, fun m hm => ?_, ?_⟩
  · have marks := marked_dressed (l := ⟨index, canvas, overlay, ∅⟩) canvas_there overlay_there other
    exact marks.of_looks (look _) (look _)
  · exact fun m hm => decide_eq_true (strange m hm).symm
  · have start : h₂.document.children mount = h.document.children mount := by
      rw [children, same mount a.mounted]
      rfl
    change h₉.document.children mount = _
    rw [d₉, children_append a₈.tidy.linked a₈.mounted, d₈,
      children_append a₇.tidy.linked a₇.mounted, dressing,
      children_dressed, start]
    simp [List.filter_filter, other]
  · obtain ⟨hc, ho⟩ := strange m hm
    refine (look m).trans ((looks_dressed hc ho).trans ?_)
    rw [looks, same m (a.issued_of_mem hm)]
    rfl
  · change h₉.core.note _ = _
    rw [core₉, core₈, core₇, core₂, core₁]

end Raising

section Stacks

variable {mount : NodeId} {before : List NodeId} {others others' : List OwnedNode} {s : Stage}
  {h h' : MemoryHost Recorder} {i : Nat} {l : Layer} {n : NodeId}

lemma mem_stack {ls : List Layer} :
    n ∈ stack ls ↔ ∃ l ∈ ls, n = l.canvas.id ∨ n = l.overlay.id := by
  simp [stack]

/-- The nodes of the stack are in use. -/
lemma staged_of_stack (hn : n ∈ stack s.layers.toList) : n ∈ (stageNodes s).map (·.id) := by
  obtain ⟨l, hl, here⟩ := mem_stack.1 hn
  rw [stageNodes, List.map_flatMap, List.mem_flatMap]
  refine ⟨l, hl, ?_⟩
  rcases here with rfl | rfl <;> simp [layerNodes]

lemma mine_of_stack (hn : n ∈ stack s.layers.toList) : n ∈ (stageNodes s ++ others).map (·.id) := by
  rw [List.map_append]
  exact List.mem_append_left _ (staged_of_stack hn)

lemma canvas_mem_stack (hl : s.layers[i]? = some l) : l.canvas.id ∈ stack s.layers.toList :=
  mem_stack.2 ⟨l, Array.mem_toList_iff.2 (Array.mem_of_getElem? hl), .inl rfl⟩

lemma overlay_mem_stack (hl : s.layers[i]? = some l) : l.overlay.id ∈ stack s.layers.toList :=
  mem_stack.2 ⟨l, Array.mem_toList_iff.2 (Array.mem_of_getElem? hl), .inr rfl⟩

theorem Stacked.addLayer (st : Stacked mount before others s h) :
    Yields Stage.addLayer s h fun _ s' h' => Stacked mount before others s' h' ∧
      s'.layers.size = s.layers.size + 1 ∧ s'.containers = s.containers := by
  obtain rfl := st.mounted
  unfold Stage.addLayer
  have free : s.surfaces[s.layers.size]? = none := by simp [st.surfaces, Stage.canvas?]
  refine (ends_bind _ _ _).2 ((ends_get _).2 ((ends_bind _ _ _).2 ((ends_focus _ _).2 ?_)))
  refine (build_raises st.apart free).ends fun l w h' raised => ?_
  refine ⟨⟨?_, rfl, fun i l' hl' => ?_, ?_, fun i => ?_, ?_⟩, by simp, rfl⟩
  · exact raised.apart.perm ((stageNodes_push_perm raised.frames).append_right others).symm
  · rw [Array.getElem?_push] at hl'
    split at hl'
    · next last =>
      cases hl'
      rw [last]
      exact raised.marked
    · have canvas := raised.looks _ (mine_of_stack (canvas_mem_stack hl'))
      have overlay := raised.looks _ (mine_of_stack (overlay_mem_stack hl'))
      exact (st.marked i l' hl').of_looks canvas overlay
  · obtain ⟨rest, sub, order⟩ := st.order
    obtain ⟨q, all, children⟩ := raised.children
    have whole : (stack s.layers.toList).filter q = stack s.layers.toList :=
      List.filter_eq_self.2 fun n hn => all n (mine_of_stack hn)
    refine ⟨rest.filter q, List.filter_sublist.trans sub, ?_⟩
    rw [children, order, List.filter_append, whole]
    simp [stack]
  · change w.surfaces[i]? = _
    rw [raised.surfaces, Std.ExtTreeMap.getElem?_insert, st.surfaces]
    by_cases last : s.layers.size = i
    · subst last
      simp [Stage.canvas?]
    · simp [Stage.canvas?, Array.getElem?_push, last, Ne.symm last]
  · rw [raised.core, Array.size_push]
    exact st.turns.added

theorem Stacked.addLayers (count : Nat) {s : Stage} {h : MemoryHost Recorder}
    (st : Stacked mount before others s h) :
    Yields (Stage.addLayers count) s h fun _ s' h' => Stacked mount before others s' h' ∧
      s'.layers.size = s.layers.size + count ∧ s'.containers = s.containers := by
  induction count generalizing s h with
  | zero => exact ⟨st, rfl, rfl⟩
  | succ count ih =>
    refine (ends_bind _ _ _).2 (st.addLayer.ends ?_)
    rintro _ s₁ h₁ ⟨st₁, size, containers⟩
    refine (ih st₁).ends ?_
    rintro _ s₂ h₂ ⟨st₂, size₂, containers₂⟩
    exact ⟨st₂, by omega, containers₂.trans containers⟩

theorem Stacked.growTo (st : Stacked mount before others s h) (top : UInt32) :
    Yields (Stage.growTo top) s h fun _ s' h' => Stacked mount before others s' h' ∧
      s'.layers.size = max s.layers.size (top.toNat + 1) ∧ s'.containers = s.containers := by
  refine (ends_bind _ _ _).2 ((ends_get _).2 ((st.addLayers _).ends ?_))
  rintro _ s' h' ⟨st', size, containers⟩
  exact ⟨st', by omega, containers⟩

/-- Place, canvas and overlay of a layer. -/
def bones (l : Layer) : Nat × OwnedNode × OwnedNode := (l.index, l.canvas, l.overlay)

/-- The containers of a layer may change. -/
lemma bones_modify {ls : Array Layer}
    (g : Std.ExtTreeMap UInt32 OwnedNode → Std.ExtTreeMap UInt32 OwnedNode) :
    (ls.modify i fun l => { l with frames := g l.frames }).map bones = ls.map bones := by
  refine Array.ext_getElem? fun j => ?_
  rw [Array.getElem?_map, Array.getElem?_map, Array.getElem?_modify]
  split
  · cases ls[j]? <;> rfl
  · rfl

lemma stack_of_bones {ls ls' : Array Layer} (same : ls'.map bones = ls.map bones) :
    stack ls'.toList = stack ls.toList := by
  have read (ls : List Layer) : stack ls = (ls.map bones).flatMap fun b =>
      [b.2.1.id, b.2.2.id] := by
    rw [List.flatMap_map]
    rfl
  rw [read, read, ← Array.toList_map, ← Array.toList_map, same]

/-- Work beside the stack leaves the records agreeing, whatever it does with containers. -/
lemma Stacked.beside {s' : Stage} (st : Stacked mount before others s h)
    (mounted : s'.mount = s.mount)
    (layers : s'.layers.map bones = s.layers.map bones) (surfaces : s'.surfaces = s.surfaces)
    (b : Beside mount s'.pools (stageNodes s' ++ others') (stack s.layers.toList) h h') :
    Stacked mount before others' s' h' := by
  have size : s'.layers.size = s.layers.size := by simpa using congrArg Array.size layers
  have bone (i : Nat) : s'.layers[i]?.map bones = s.layers[i]?.map bones := by
    rw [← Array.getElem?_map, ← Array.getElem?_map, layers]
  have same := stack_of_bones layers
  refine ⟨b.apart, mounted.trans st.mounted, fun i l' hl' => ?_, ?_, fun i => ?_, ?_⟩
  · have here := bone i
    rw [hl', Option.map_some, eq_comm, Option.map_eq_some_iff] at here
    obtain ⟨l, hl, eq⟩ := here
    simp only [bones, Prod.mk.injEq] at eq
    have looks := b.quiet.looks
    have marked :=
      (st.marked i l hl).of_looks (looks _ (canvas_mem_stack hl)) (looks _ (overlay_mem_stack hl))
    exact marked.of_same eq.1.symm eq.2.1.symm eq.2.2.symm
  · obtain ⟨rest, sub, order⟩ := st.order
    obtain ⟨q, children, all⟩ := b.quiet.children
    refine ⟨rest.filter q, List.filter_sublist.trans sub, ?_⟩
    rw [children, order, List.filter_append, List.filter_eq_self.2 all, same]
  · have canvas (s : Stage) : s.canvas? i = (s.layers[i]?.map bones).map (·.2.1.id) := by
      rw [Option.map_map]
      rfl
    rw [surfaces, st.surfaces, canvas, canvas, bone]
  · rw [b.core, size]
    exact st.turns

section Containers

variable {layer : Nat} {id : UInt32} {parent : NodeId}

theorem Stacked.instantiate (st : Stacked mount before others s h) (hl : s.layers[layer]? = some l)
    (new : l.frames[id]? = none) (hp : parent ∈ (stageNodes s).map (·.id)) :
    Yields (Stage.instantiate layer parent id) s h fun t s' h' =>
      Stacked mount before others s' h' ∧
      (s'.layers.size = s.layers.size ∧ s'.containers = s.containers) ∧
      t ∈ (stageNodes s').map (·.id) ∧
        ∃ l', s'.layers[layer]? = some l' ∧ ∀ j : UInt32, j ≠ id →
          l'.frames[j]? = l.frames[j]? := by
  unfold Stage.instantiate
  have b : Beside mount s.pools (stageNodes s ++ others) (stack s.layers.toList) h h :=
    .start st.apart
  refine (ends_bind _ _ _).2
    ((ends_onPools _ _ _).2 ((b.take (fun n hn => mine_of_stack hn) .div).ends ?_))
  intro node ps h₁ b
  have own : node.id ∈ (node :: (stageNodes s ++ others)).map (·.id) := List.mem_cons_self
  have strange : node.id ∉ stack s.layers.toList :=
    fun inside => b.apart.notMem (mine_of_stack inside)
  have above : parent ∈ (node :: (stageNodes s ++ others)).map (·.id) := by
    rw [List.map_cons, List.map_append]
    exact List.mem_cons_of_mem _ (List.mem_append_left _ hp)
  refine b.write own strange (.attr "class" Stage.containerClass) fun h₂ b => ?_
  refine b.write own strange (.attr Stage.containerIdAttribute (toString id)) fun h₃ b => ?_
  refine b.write own strange (.style "clip-path" _) fun h₄ b => ?_
  refine b.write own strange (.style "-webkit-clip-path" _) fun h₅ b => ?_
  refine b.append above own strange fun h₆ b => ?_
  refine (ends_bind _ _ _).2 ((ends_modify _ _).2 ?_)
  change Stacked mount before others (furnished s ps layer id node) h₆ ∧ _
  have nodes : (stageNodes (furnished s ps layer id node)).Perm (node :: stageNodes s) :=
    stageNodes_insert hl new
  have layers : (furnished s ps layer id node).layers.map bones = s.layers.map bones :=
    bones_modify (·.insert id node)
  refine ⟨st.beside rfl layers rfl ⟨?_, b.quiet, b.core⟩, ⟨by simp, rfl⟩, ?_, ?_⟩
  · exact b.apart.perm (nodes.append_right others).symm
  · exact List.mem_map_of_mem (nodes.mem_iff.2 List.mem_cons_self)
  · refine ⟨_, furnished_here hl, fun j other => ?_⟩
    exact getElem?_insert_of_ne other

theorem Stacked.descend {x : Option UInt32} {ids : List UInt32} {root : NodeId}
    (st : Stacked mount before others s h)
    (hl : s.layers[layer]? = some l) (a : Ascent s l x ids root) :
    Yields (ids.reverse.foldlM (Stage.instantiate layer) root) s h fun t s' h' =>
      Stacked mount before others s' h' ∧
      (s'.layers.size = s.layers.size ∧ s'.containers = s.containers) ∧
      t ∈ (stageNodes s').map (·.id) ∧
        ∃ l', s'.layers[layer]? = some l' ∧ ∀ j : UInt32, j ∉ ids →
          l'.frames[j]? = l.frames[j]? := by
  have inside (m : OwnedNode) (hm : m ∈ layerNodes l) : m.id ∈ (stageNodes s).map (·.id) :=
    List.mem_map_of_mem (mem_stageNodes.2 ⟨layer, l, hl, hm⟩)
  induction a with
  | overlay =>
    exact ⟨st, ⟨rfl, rfl⟩, inside _ (mem_layerNodes.2 (.inr (.inl rfl))), l, hl, fun _ _ => rfl⟩
  | here found =>
    exact ⟨st, ⟨rfl, rfl⟩, inside _ (mem_layerNodes.2 (.inr (.inr ⟨_, found⟩))),
      l, hl, fun _ _ => rfl⟩
  | @up id c ids root new hc rest ih =>
    rw [List.reverse_cons, List.foldlM_append]
    refine (ends_bind _ _ _).2 (ih.ends ?_)
    rintro parent s₁ h₁ ⟨st₁, ⟨size, containers⟩, place, l₁, hl₁, same⟩
    have first : id ∉ ids := (List.nodup_cons.1 (Ascent.up new hc rest).nodup).1
    have new₁ : l₁.frames[id]? = none := by rw [same id first, new]
    refine (ends_bind _ _ _).2 ((st₁.instantiate hl₁ new₁ place).ends ?_)
    rintro t s₂ h₂ ⟨st₂, ⟨size₂, containers₂⟩, place₂, l₂, hl₂, same₂⟩
    refine ⟨st₂, ⟨size₂.trans size, containers₂.trans containers⟩, place₂, l₂, hl₂, fun j hj => ?_⟩
    rw [List.mem_cons, not_or] at hj
    rw [same₂ j hj.1, same j hj.2]

theorem Stacked.attachPoint (st : Stacked mount before others s h) (inside : layer < s.layers.size)
    (x : Option UInt32) :
    Ends (Stage.attachPoint x layer) s h
      (fun t s' h' => Stacked mount before others s' h' ∧ s'.layers.size = s.layers.size ∧
        t ∈ (stageNodes s').map (·.id))
      (fun _ s' h' => s' = s ∧ h' = h) (fun b => ∃ id, b = .endlessContainers id) := by
  have hl : s.layers[layer]? = some s.layers[layer] := Array.getElem?_eq_getElem inside
  unfold Stage.attachPoint
  refine (ends_bind _ _ _).2 ((ends_get _).2 ?_)
  simp only [hl]
  cases x with
  | none =>
    have overlay := mem_stageNodes.2 ⟨layer, _, hl, mem_layerNodes.2 (.inr (.inl rfl))⟩
    exact ⟨st, rfl, List.mem_map_of_mem overlay⟩
  | some id =>
    dsimp only
    cases found : s.route s.layers[layer] (s.containers.size + 1) id [] with
    | unknown id => exact ⟨rfl, rfl⟩
    | endless id => exact ⟨id, rfl⟩
    | down root missing =>
      obtain ⟨ids, ascent, passed⟩ := route_sound found
      obtain rfl : missing = ids.reverse := by simpa using passed
      refine (st.descend hl ascent).ends ?_
      rintro t s' h' ⟨st', ⟨size, _⟩, place, _⟩
      exact ⟨st', size, place⟩

/-- A node that the stage does not hold is hung on a layer. -/
theorem Stacked.addElement {node : NodeId} (st : Stacked mount before others s h)
    (hn : node ∈ others.map (·.id)) (x : Option UInt32) (layer : UInt32) :
    Ends (Stage.addElement node x layer) s h
      (fun _ s' h' => Stacked mount before others s' h' ∧ 0 < s'.layers.size)
      (fun _ s' h' => Stacked mount before others s' h' ∧ 0 < s'.layers.size)
      (fun b => ∃ id, b = .endlessContainers id) := by
  unfold Stage.addElement
  refine (ends_bind _ _ _).2 ((st.growTo layer).ends ?_)
  rintro _ s₁ h₁ ⟨st₁, size, _⟩
  refine (ends_bind _ _ _).2 ((st₁.attachPoint (by omega) x).mono ?_ ?_ fun _ endless => endless)
  · rintro t s₂ h₂ ⟨st₂, size₂, place⟩
    have b : Beside mount s₂.pools (stageNodes s₂ ++ others) (stack s₂.layers.toList) h₂ h₂ :=
      .start st₂.apart
    have target : t ∈ (stageNodes s₂ ++ others).map (·.id) := by
      rw [List.map_append]
      exact List.mem_append_left _ place
    have guest : node ∈ (stageNodes s₂ ++ others).map (·.id) := by
      rw [List.map_append]
      exact List.mem_append_right _ hn
    have strange : node ∉ stack s₂.layers.toList := by
      intro inside
      have distinct := st₂.apart.nodup
      rw [List.map_append, List.nodup_append] at distinct
      exact distinct.2.2 node (staged_of_stack inside) node hn rfl
    rw [← bind_pure (liftM (ask (.appendChild t node)) : Work Stage Unit)]
    refine b.append target guest strange fun h₃ b => ?_
    exact ⟨st₂.beside rfl rfl rfl b, by omega⟩
  · rintro _ s₂ h₂ ⟨rfl, rfl⟩
    exact ⟨st₁, by omega⟩

/-- Entries of the table of containers and properties of the document's root do not touch the
stack. -/
lemma Stacked.publish (st : Stacked mount before others s h) {s' : Stage} {d : MemoryDocument}
    (pools : s'.pools = s.pools) (mounted : s'.mount = s.mount) (layers : s'.layers = s.layers)
    (surfaces : s'.surfaces = s.surfaces)
    (same : ∃ properties, d = { h.document with rootProperties := properties }) :
    Stacked mount before others s' { h with document := d } := by
  obtain ⟨properties, rfl⟩ := same
  have nodes : stageNodes s' = stageNodes s := by rw [stageNodes, stageNodes, layers]
  have tidy : Tidy { h.document with rootProperties := properties } :=
    ⟨st.apart.tidy.linked, st.apart.tidy.observed, st.apart.tidy.focused, st.apart.tidy.sampled⟩
  refine st.beside mounted (by rw [layers]) surfaces ⟨?_, .of_children rfl fun _ _ => rfl, rfl⟩
  rw [pools, nodes]
  exact st.apart.change tidy le_rfl

theorem Stacked.addContainer (st : Stacked mount before others s h) (id : UInt32)
    (x : Option UInt32) :
    Ends (Stage.addContainer id x) s h (fun _ s' h' => Stacked mount before others s' h' ∧
      s'.layers = s.layers)
      (fun _ s' h' => s' = s ∧ h' = h) fun _ => False := by
  refine (ends_addContainer s h id x).mono ?_ (fun _ _ _ same => ⟨same.1, same.2.1⟩) fun _ =>
    False.elim
  rintro _ _ _ ⟨rfl, rfl, _⟩
  exact ⟨st.publish rfl rfl rfl rfl ⟨_, rfl⟩, rfl⟩

theorem Stacked.updateContainer (st : Stacked mount before others s h)
    (id : UInt32) (g : Geometry) :
    Ends (Stage.updateContainer id g) s h (fun _ s' h' => Stacked mount before others s' h' ∧
      s'.layers = s.layers)
      (fun _ s' h' => s' = s ∧ h' = h) fun _ => False := by
  unfold Stage.updateContainer
  refine (ends_bind _ _ _).2 ((ends_get _).2 ?_)
  cases s.containers[id]? with
  | none => exact ⟨rfl, rfl⟩
  | some c => exact ⟨st.publish rfl rfl rfl rfl ⟨_, rfl⟩, rfl⟩

theorem Stacked.withdraw {node : OwnedNode} (st : Stacked mount before others s h)
    (hl : s.layers[layer]? = some l) (found : l.frames[id]? = some node) :
    Yields (Stage.withdraw id layer node) s h fun _ s' h' =>
      Stacked mount before others s' h' ∧ ∃ ps, s' = stripped s ps layer id := by
  unfold Stage.withdraw
  refine (ends_bind _ _ _).2 ((ends_modify _ _).2 ((ends_onPools _ _ _).2 ?_))
  have lost : (stageNodes s).Perm (node :: stageNodes (stripped s s.pools layer id)) :=
    stageNodes_erase hl found
  have layers : (stripped s s.pools layer id).layers.map bones = s.layers.map bones :=
    bones_modify (·.erase id)
  have b :
      Beside mount s.pools (node :: (stageNodes (stripped s s.pools layer id) ++ others))
        (stack s.layers.toList) h h :=
    .start (st.apart.perm (lost.append_right others))
  have strange : node.id ∉ stack s.layers.toList := by
    intro inside
    refine b.apart.notMem ?_
    have same : stack (stripped s s.pools layer id).layers.toList = stack s.layers.toList :=
      stack_of_bones layers
    rw [← same] at inside
    exact mine_of_stack inside
  refine (b.put strange .div).ends ?_
  rintro _ ps h' ⟨b, _⟩
  exact ⟨st.beside rfl layers rfl b, ps, rfl⟩

theorem Stacked.withdrawAll (found : List (Nat × OwnedNode)) {s : Stage} {h : MemoryHost Recorder}
    (st : Stacked mount before others s h) (distinct : found.Pairwise fun p q => p.1 ≠ q.1)
    (there : ∀ p ∈ found, ∃ l, s.layers[p.1]? = some l ∧ l.frames[id]? = some p.2) :
    Yields (found.forM fun (layer, node) => Stage.withdraw id layer node) s h fun _ s' h' =>
      Stacked mount before others s' h' ∧ s'.layers.size = s.layers.size := by
  induction found generalizing s h with
  | nil => exact ⟨st, rfl⟩
  | cons p found ih =>
    obtain ⟨apart, distinct⟩ := List.pairwise_cons.1 distinct
    obtain ⟨l, hl, here⟩ := there p List.mem_cons_self
    refine (ends_bind _ _ _).2 ((st.withdraw hl here).ends ?_)
    rintro _ s₁ h₁ ⟨st₁, ps, rfl⟩
    refine (ih st₁ distinct ?_).ends ?_
    · intro q hq
      rw [stripped_there (apart q hq).symm]
      exact there q (List.mem_cons_of_mem _ hq)
    · rintro _ s₂ h₂ ⟨st₂, size⟩
      exact ⟨st₂, size.trans (Array.size_modify ..)⟩

theorem Stacked.removeContainer (st : Stacked mount before others s h) (id : UInt32) :
    Ends (Stage.removeContainer id) s h
      (fun _ s' h' => Stacked mount before others s' h' ∧ s'.layers.size = s.layers.size)
      (fun _ s' h' => s' = s ∧ h' = h) fun _ => False := by
  unfold Stage.removeContainer
  refine (ends_bind _ _ _).2 ((ends_get _).2 ?_)
  dsimp only
  have issued (p) (hp : p ∈ s.instances id) : h.document.issued p.2.id := by
    obtain ⟨l, hl, hn⟩ := mem_instances.1 hp
    refine st.apart.issued _ (List.mem_append_right _ (List.mem_append_left _ ?_))
    exact mem_stageNodes.2 ⟨p.1, l, hl, mem_layerNodes.2 (.inr (.inr ⟨id, hn⟩))⟩
  split
  · exact ⟨rfl, rfl⟩
  · refine (ends_bind _ _ _).2 ((ends_childCounts _ issued _).2 ?_)
    split
    · exact ⟨rfl, rfl⟩
    · refine (ends_bind _ _ _).2
        ((st.withdrawAll _ pairwise_instances fun p hp => mem_instances.1 hp).ends ?_)
      rintro _ s₁ h₁ ⟨st₁, size⟩
      exact ⟨st₁.publish rfl rfl rfl rfl ⟨_, rfl⟩, size⟩

end Containers

/-! ## Layers are taken down -/

lemma answers_childCounts {nodes : List NodeId} (issued : ∀ n ∈ nodes, h.document.issued n)
    {breach : Breach → Prop} (post : List Nat → MemoryHost Recorder → Prop) :
    Answers (nodes.mapM fun n => ask (.childCount n) : Script Patching (List Nat)) h post breach ↔
      post (nodes.map fun n => (h.document.children n).length) h := by
  induction nodes generalizing post with
  | nil => exact Iff.rfl
  | cons n nodes ih =>
    rw [List.mapM_cons, answers_bind, answers_ask, answer_childCount (issued n List.mem_cons_self)]
    dsimp only
    rw [answers_bind, ih fun m hm => issued m (List.mem_cons_of_mem _ hm)]
    exact Iff.rfl

/-- Counting the members of some layers changes nothing. -/
lemma requireVacant_reads (ls : List Layer)
    (issued : ∀ l ∈ ls, ∀ n ∈ layerNodes l, h.document.issued n.id) :
    Ends (Stage.requireVacant ls) s h (fun _ s' h' => s' = s ∧ h' = h) (fun _ s' h' => s' = s ∧
      h' = h) fun _ => False := by
  induction ls with
  | nil => exact ⟨rfl, rfl⟩
  | cons l ls ih =>
    have here : ∀ n ∈ l.overlay.id :: l.frames.values.map (·.id), h.document.issued n := by
      intro n hn
      rw [values_eq] at hn
      have inside : n ∈ (layerNodes l).map (·.id) := List.mem_cons_of_mem _ hn
      obtain ⟨m, hm, rfl⟩ := List.mem_map.1 inside
      exact issued l List.mem_cons_self m hm
    unfold Stage.requireVacant Stage.members
    refine (ends_bind _ _ _).2
      ((ends_script _ _).2 ((answers_bind _ _ _).2 ((answers_childCounts here _).2 ?_)))
    rw [answers_pure]
    split
    · exact ⟨rfl, rfl⟩
    · exact ih fun l' hl' => issued l' (List.mem_cons_of_mem _ hl')

/-- The nodes of a layer go back to the pools. -/
lemma Beside.putAll {kept : List NodeId} {mine : List OwnedNode} {h₀ : MemoryHost Recorder}
    (nodes : List OwnedNode)
    {s : Stage} {h : MemoryHost Recorder} (b : Beside mount s.pools (nodes ++ mine) kept h₀ h)
    (strange : ∀ n ∈ nodes, n.id ∉ kept) :
    Yields (nodes.forM fun node => Stage.onPools (Pools.put NodeKind.div node)) s h fun _ s' h' =>
      Beside mount s'.pools mine kept h₀ h' ∧ ∃ ps, s' = { s with pools := ps } := by
  induction nodes generalizing s h with
  | nil => exact ⟨b, s.pools, rfl⟩
  | cons n nodes ih =>
    refine (ends_bind _ _ _).2
      ((ends_onPools _ _ _).2 ((b.put (strange n List.mem_cons_self) .div).ends ?_))
    rintro _ ps h₁ ⟨b₁, _⟩
    refine (ih (s := { s with pools := ps }) b₁ fun m hm =>
      strange m (List.mem_cons_of_mem _ hm)).ends ?_
    rintro _ s₂ h₂ ⟨b₂, ps₂, rfl⟩
    exact ⟨b₂, ps₂, rfl⟩

lemma ends_removeContext {σ α : Type} {s : σ} {post : α → σ → MemoryHost Recorder → Prop}
    {refused : PatchError → σ → MemoryHost Recorder → Prop} {breach : Breach → Prop}
    {f : Unit → Work σ α} (index : Nat) :
    Ends (liftM (tell (.removeContext index)) >>= f) s h post refused breach ↔
      Ends (f ()) s { h with core := h.core.note (.removeContext index) } post refused breach :=
  ends_bind _ _ _

/-- A layer leaves the mount, the surfaces and the core. -/
theorem cleanUp_lowers {w : Workshop} {mine : List OwnedNode} {kept : List NodeId}
    (a : Apart mount w.pools (l.canvas :: l.overlay :: mine) h.document)
    (there : l.index ∈ w.surfaces) (inside : ∀ n ∈ kept, n ∈ mine.map (·.id)) :
    Yields l.cleanUp w h fun _ w' h' => Apart mount w'.pools mine h'.document ∧
      Undisturbed mount kept h.document h'.document ∧ w'.surfaces = w.surfaces.erase l.index ∧
      h'.core = h.core.note (.removeContext l.index) ∧
      l.canvas.id ∉ h'.document.children mount ∧ l.overlay.id ∉ h'.document.children mount := by
  have strange (n) (hn : n ∈ kept) : n ≠ l.canvas.id ∧ n ≠ l.overlay.id := by
    have distinct := a.nodup
    rw [List.map_cons, List.map_cons, List.nodup_cons, List.nodup_cons,
      List.mem_cons, not_or] at distinct
    exact ⟨ne_of_mem_of_not_mem (inside n hn) distinct.1.2,
      ne_of_mem_of_not_mem (inside n hn) distinct.2.1⟩
  unfold Layer.cleanUp Workshop.unregister
  refine (ends_removeContext _).2 ?_
  refine (ends_bind _ _ _).2 ((ends_bind _ _ _).2 ((ends_get _).2 ?_))
  rw [Std.ExtTreeMap.contains_iff_mem.2 there]
  have b :
      Beside mount w.pools (l.canvas :: l.overlay :: mine) kept
        { h with core := h.core.note (.removeContext l.index) }
    { h with core := h.core.note (.removeContext l.index) } := .start a
  refine (ends_bind _ _ _).2
    ((ends_focus _ _).2 ((b.put (fun again => (strange _ again).1 rfl) .canvas).ends ?_))
  rintro _ ps₁ h₁ ⟨b₁, canvas_gone⟩
  have b₁' : Beside mount ps₁ (l.overlay :: mine) kept h₁ h₁ := .start b₁.apart
  refine (ends_focus _ _).2 ((b₁'.put (fun again => (strange _ again).2 rfl) .div).ends ?_)
  rintro _ ps₂ h₂ ⟨b₂, overlay_gone⟩
  exact ⟨b₂.apart, b₁.quiet.trans b₂.quiet, rfl, b₂.core.trans b₁.core,
    b₂.quiet.notMem_children canvas_gone, overlay_gone⟩

/-- The top layer is taken down. -/
theorem Stacked.discard {layers : Array Layer} {top : Layer}
    (st : Stacked mount before others { s with layers := layers.push top } h) :
    Yields (Stage.discard top) { s with layers } h fun _ s' h' =>
      Stacked mount before others s' h' ∧ s'.layers = layers := by
  have place (i : Nat) : (layers.push top)[i]? = if i = layers.size then some top else layers[i]? :=
    Array.getElem?_push
  have last : (layers.push top)[layers.size]? = some top := by rw [place, if_pos rfl]
  have index : top.index = layers.size := (st.marked _ _ last).index
  have lower {i : Nat} {l : Layer} (hl : layers[i]? = some l) : (layers.push top)[i]? = some l := by
    rw [place, if_neg (Array.getElem?_eq_some_iff.1 hl).1.ne, hl]
  let mine := stageNodes { s with layers } ++ others
  have nodes : (stageNodes { s with layers := layers.push top } ++ others).Perm
      (top.frames.toList.map (·.2) ++ top.canvas :: top.overlay :: mine) := by
    have grown : stageNodes { s with layers := layers.push top } =
        stageNodes { s with layers } ++ layerNodes top :=
      stageNodes_push (s := { s with layers })
    rw [grown, List.append_assoc]
    refine (List.perm_append_comm_assoc ..).trans ?_
    exact List.perm_append_comm_assoc [top.canvas, top.overlay] _ _
  have b : Beside mount s.pools (top.frames.toList.map (·.2) ++ top.canvas :: top.overlay :: mine)
      (stack layers.toList) h h :=
    .start (st.apart.perm nodes)
  have own (n) (hn : n ∈ stack layers.toList) : n ∈ mine.map (·.id) :=
    mine_of_stack (s := { s with layers }) hn
  have strange (n : OwnedNode) (hn : n ∈ top.frames.toList.map (·.2)) :
      n.id ∉ stack layers.toList := by
    intro inside
    have distinct := b.apart.nodup
    rw [List.map_append, List.nodup_append] at distinct
    have later :=
      List.mem_cons_of_mem top.canvas.id (List.mem_cons_of_mem top.overlay.id (own _ inside))
    exact distinct.2.2 _ (List.mem_map_of_mem hn) _ later rfl
  have registered : top.index ∈ s.surfaces := by
    rw [Std.ExtTreeMap.mem_iff_isSome_getElem?, st.surfaces, index, Stage.canvas?, last]
    rfl
  unfold Stage.discard
  rw [values_eq]
  refine (ends_bind _ _ _).2 ((b.putAll (s := { s with layers }) _ strange).ends ?_)
  rintro _ s₁ h₁ ⟨b₁, ps₁, rfl⟩
  refine (ends_focus _ _).2 ((cleanUp_lowers b₁.apart registered own).ends ?_)
  rintro _ w₂ h₂ ⟨a₂, quiet₂, surfaces₂, core₂, canvas_gone, overlay_gone⟩
  have quiet := b₁.quiet.trans quiet₂
  refine ⟨⟨a₂, st.mounted, fun i l hl => ?_, ?_, fun i => ?_, ?_⟩, rfl⟩
  · have canvas := quiet.looks _ (canvas_mem_stack (s := { s with layers }) hl)
    have overlay := quiet.looks _ (overlay_mem_stack (s := { s with layers }) hl)
    exact (st.marked i l (lower hl)).of_looks canvas overlay
  · obtain ⟨rest, sub, order⟩ := st.order
    obtain ⟨q, children, all⟩ := quiet.children
    have whole :
        stack (layers.push top).toList =
          stack layers.toList ++ [top.canvas.id, top.overlay.id] := by simp [stack]
    rw [order, whole] at children
    have gone (n) (hn : n ∈ [top.canvas.id, top.overlay.id])
        (lost : n ∉ h₂.document.children mount) : ¬ q n := by
      intro stays
      refine lost ?_
      rw [children]
      exact List.mem_filter.2 ⟨by simp [hn], stays⟩
    refine ⟨rest.filter q, List.filter_sublist.trans sub, ?_⟩
    have canvas := gone _ (by simp) canvas_gone
    have overlay := gone _ (by simp) overlay_gone
    rw [children, List.filter_append, List.filter_append, List.filter_eq_self.2 all]
    simp [canvas, overlay]
  · change w₂.surfaces[i]? = Stage.canvas? { s with layers } i
    have before := st.surfaces i
    rw [surfaces₂, Std.ExtTreeMap.getElem?_erase, before, index]
    unfold Stage.canvas?
    rw [place]
    by_cases here : layers.size = i
    · simp [here]
    · simp [here, Ne.symm here]
  · have before := st.turns
    rw [Array.size_push, ← b₁.core] at before
    rw [core₂, index]
    exact before.removed

theorem Stacked.removeLayers (count : Nat) {s : Stage} {h : MemoryHost Recorder}
    (st : Stacked mount before others s h) :
    Yields (Stage.removeLayers count) s h fun _ s' h' => Stacked mount before others s' h' ∧
      s'.layers.size = s.layers.size - count := by
  induction count generalizing s h with
  | zero => exact ⟨st, rfl⟩
  | succ count ih =>
    unfold Stage.removeLayers
    refine (ends_bind _ _ _).2 ((ends_get _).2 ?_)
    cases highest : s.layers.back? with
    | none =>
      have none_left : s.layers.size = 0 := by simpa [Array.back?_eq_none_iff] using highest
      exact ⟨st, by omega⟩
    | some top =>
      have pos : 0 < s.layers.size := by
        refine Nat.pos_of_ne_zero fun none_left => ?_
        simp [Array.eq_empty_of_size_eq_zero none_left] at highest
      obtain ⟨layers, top', whole⟩ := Array.exists_push_of_size_pos pos
      obtain rfl : top' = top := by simpa [whole] using highest
      have st' : Stacked mount before others { s with layers := layers.push top' } h := by
        rw [← whole]; exact st
      have popped : s.layers.pop = layers := by rw [whole, Array.pop_push]
      refine (ends_bind _ _ _).2 ((ends_modify _ _).2 ((ends_bind _ _ _).2 ?_))
      rw [popped]
      refine st'.discard.ends ?_
      rintro _ s₁ h₁ ⟨st₁, layers₁⟩
      refine (ih st₁).ends ?_
      rintro _ s₂ h₂ ⟨st₂, size⟩
      refine ⟨st₂, ?_⟩
      rw [size, layers₁, whole, Array.size_push]
      omega

theorem Stacked.shrinkTo (st : Stacked mount before others s h) (top : UInt32) :
    Ends (Stage.shrinkTo top) s h
      (fun _ s' h' => Stacked mount before others s' h' ∧
        s'.layers.size = min s.layers.size (top.toNat + 1))
      (fun _ s' h' => s' = s ∧ h' = h) fun _ => False := by
  unfold Stage.shrinkTo
  refine (ends_bind _ _ _).2
    ((ends_get _).2 ((ends_bind _ _ _).2 ((requireVacant_reads _ ?_).mono ?_ ?_ ?_)))
  · intro l hl n hn
    have inside : l ∈ s.layers.toList := List.mem_of_mem_drop hl
    have held : n ∈ stageNodes s := List.mem_flatMap.2 ⟨l, inside, hn⟩
    exact st.apart.issued n (List.mem_append_right _ (List.mem_append_left _ held))
  · rintro _ _ _ ⟨rfl, rfl⟩
    refine (st.removeLayers _).ends ?_
    rintro _ s' h' ⟨st', size⟩
    refine ⟨st', ?_⟩
    rw [size, List.length_drop, Array.length_toList]
    omega
  · exact fun _ _ _ same => same
  · exact fun _ => False.elim

end Stacks

end LayeredPage.Proofs
