import LayeredPage.Proofs.Conduct
import LayeredPage.Proofs.Likeness
import LayeredPage.Proofs.Rollback

/-!
# Crafts at the bench, as they are painted

What can be seen of an element at the bench changes as its craft is painted: each request is
answered and does to the document what it does to the likeness.
-/

namespace LayeredPage.Proofs

open MemoryDocument

/-- The face of a node in a document. -/
def face (d : MemoryDocument) (n : NodeId) : Face := ((d.node? n).map Face.of).getD (.fresh .div)

/-- The place of a part or an option. -/
def spot? (e : Element) (n : NodeId) : Option Spot :=
  ((e.parts.findIdx? fun m => decide (m.id = n)).map .part).or
    ((e.options.findIdx? fun m => decide (m.id = n)).map .option)

/-- What a document shows of a node of an element. -/
def figure (e : Element) (d : MemoryDocument) (n : NodeId) : Figure :=
  ⟨face d n, (d.children n).filterMap (spot? e)⟩

/-- The likeness of an element whose nodes look like this. -/
def portrait (e : Element) (watched : Bool) (g : NodeId → Figure) : Likeness where
  notes := e.toNotes
  scroll := e.scroll
  watched := watched
  leaf := g e.leaf.id
  parts := e.parts.map fun n => g n.id
  options := e.options.map fun n => g n.id

def likeness (e : Element) (d : MemoryDocument) : Likeness :=
  portrait e (d.observed.contains e.leaf.id.index) (figure e d)

section Figures

variable {e e' : Element} {d d' : MemoryDocument} {n m c : NodeId} {spot : Spot}
  {g g' : NodeId → Figure} {f : Figure → Figure} {node : MemoryNode} {ns : List NodeId}

lemma face_of_node? (found : d.node? n = some node) :
    face d n = .of node := by rw [face, found]; rfl

/-- A node looks as before if its record differs in its ties only. -/
lemma face_of_looks (same : (d'.node? n).map Face.of = (d.node? n).map Face.of) :
    face d' n = face d n := by rw [face, face, same]

lemma face_regrouped {f : List NodeId → List NodeId}
    (eq : d'.node? n = (d.node? n).map (regrouped f)) : face d' n = face d n := by
  refine face_of_looks ?_
  rw [eq]
  cases d.node? n <;> rfl

lemma children_regrouped {f : List NodeId → List NodeId}
    (eq : d'.node? n = (d.node? n).map (regrouped f)) (found : d.issued n) :
    d'.children n = f (d.children n) := by
  obtain ⟨node, found⟩ := issued_iff.1 found
  rw [found] at eq
  rw [children_of_node? eq, children_of_node? found]
  rfl

lemma figure_of_record (same : d'.node? n = d.node? n) : figure e d' n = figure e d n := by
  rw [figure, figure, face, face, children, children, same]

/-- An element looks as before if its nodes do, and its leaf is observed as before. -/
lemma likeness_of_figures (figures : ∀ n ∈ e.nodes, figure e d' n.id = figure e d n.id)
    (observed : e.leaf.id.index ∈ d'.observed ↔ e.leaf.id.index ∈ d.observed) :
    likeness e d' = likeness e d := by
  have watched : d'.observed.contains e.leaf.id.index = d.observed.contains e.leaf.id.index := by
    rw [Bool.eq_iff_iff, Std.ExtTreeSet.contains_iff_mem, Std.ExtTreeSet.contains_iff_mem, observed]
  unfold likeness portrait
  rw [watched, figures e.leaf List.mem_cons_self,
    List.map_congr_left fun n hn => figures n (List.mem_cons_of_mem _ (List.mem_append_left _ hn)),
    List.map_congr_left fun n hn => figures n (List.mem_cons_of_mem _ (List.mem_append_right _ hn))]

lemma likeness_of_records (records : ∀ n ∈ e.nodes, d'.node? n.id = d.node? n.id)
    (observed : e.leaf.id.index ∈ d'.observed ↔ e.leaf.id.index ∈ d.observed) :
    likeness e d' = likeness e d :=
  likeness_of_figures (fun n hn => figure_of_record (records n hn)) observed

/-- Regrouping that spares the children of a node leaves its figure. -/
lemma figure_regrouped {f : List NodeId → List NodeId}
    (eq : d'.node? n = (d.node? n).map (regrouped f))
    (spared : f (d.children n) = d.children n) : figure e d' n = figure e d n := by
  refine figure_of_record ?_
  rw [eq, map_regrouped_congr (g := fun cs => cs) spared, map_regrouped_id]

/-! ### Redrawing one figure -/

lemma map_eq_modify {α β : Type} {xs : List α} {f : β → β} {i : Nat} (g g' : α → β)
    (inside : i < xs.length) (here : g' xs[i] = f (g xs[i]))
    (others : ∀ (j : Nat) (hj : j < xs.length), j ≠ i → g' xs[j] = g xs[j]) :
    xs.map g' = (xs.map g).modify i f := by
  refine List.ext_getElem (by simp) fun j hj _ => ?_
  rw [List.length_map] at hj
  rw [List.getElem_map, List.getElem_modify, List.getElem_map]
  by_cases same : i = j
  · subst same
    rw [if_pos rfl, here]
  · rw [if_neg same, others j hj (Ne.symm same)]

lemma ne_of_getElem {nodes : List OwnedNode} (distinct : (nodes.map (·.id)).Nodup) {i j : Nat}
    (hi : i < nodes.length) (hj : j < nodes.length)
    (other : j ≠ i) : nodes[j].id ≠ nodes[i].id := by
  intro same
  have hi' : i < (nodes.map (·.id)).length := by simpa
  have hj' : j < (nodes.map (·.id)).length := by simpa
  have equal : (nodes.map (·.id))[j] = (nodes.map (·.id))[i] := by simpa using same
  exact other (distinct.getElem_inj_iff.1 equal)

/-- One node of an element looks different. -/
lemma portrait_drawn (distinct : (e.nodes.map (·.id)).Nodup) (watched : Bool)
    (here : g' (e.node spot) = f (g (e.node spot)))
    (others : ∀ n ∈ e.nodes, n.id ≠ e.node spot → g' n.id = g n.id) :
    portrait e watched g' = (portrait e watched g).drawn f spot := by
  have spread : (e.leaf.id :: (e.parts.map (·.id) ++ e.options.map (·.id))).Nodup := by
    rwa [Element.nodes, Element.fittings, List.map_cons, List.map_append] at distinct
  obtain ⟨leaf, below⟩ := List.nodup_cons.1 spread
  obtain ⟨parts, options, apart⟩ := List.nodup_append.1 below
  have of_part {n : OwnedNode} (hn : n ∈ e.parts) : n ∈ e.nodes :=
    List.mem_cons_of_mem _ (List.mem_append_left _ hn)
  have of_option {n : OwnedNode} (hn : n ∈ e.options) : n ∈ e.nodes :=
    List.mem_cons_of_mem _ (List.mem_append_right _ hn)
  have part_leaf {n : OwnedNode} (hn : n ∈ e.parts) : n.id ≠ e.leaf.id := fun same =>
    leaf (List.mem_append_left _ (same ▸ List.mem_map_of_mem hn))
  have option_leaf {n : OwnedNode} (hn : n ∈ e.options) : n.id ≠ e.leaf.id := fun same =>
    leaf (List.mem_append_right _ (same ▸ List.mem_map_of_mem hn))
  have at_leaf (place : e.node spot = e.leaf.id) :
      portrait e watched g' = { portrait e watched g with leaf := f (g e.leaf.id) } := by
    unfold portrait
    rw [place] at here others
    rw [here, List.map_congr_left fun n hn => others n (of_part hn) (part_leaf hn),
      List.map_congr_left fun n hn => others n (of_option hn) (option_leaf hn)]
  cases spot with
  | leaf => exact at_leaf rfl
  | part i =>
    by_cases inside : i < e.parts.length
    · have place : e.node (.part i) = e.parts[i].id := by simp [Element.node, Element.part?, inside]
      rw [place] at here others
      have there : e.parts[i] ∈ e.parts := List.getElem_mem inside
      have drawn := map_eq_modify (fun n : OwnedNode => g n.id) (fun n => g' n.id) inside here
        fun j hj other =>
          others _ (of_part (List.getElem_mem hj)) (ne_of_getElem parts inside hj other)
      simp only [portrait, Likeness.drawn, List.length_map, if_pos inside, drawn]
      rw [others e.leaf List.mem_cons_self (part_leaf there).symm,
        List.map_congr_left fun n hn => others n (of_option hn) fun same =>
          apart _ (List.mem_map_of_mem there) _ (List.mem_map_of_mem hn) same.symm]
    · rw [at_leaf (by simp [Element.node, Element.part?, inside])]
      simp only [portrait, Likeness.drawn, List.length_map, if_neg inside]
  | option i =>
    by_cases inside : i < e.options.length
    · have place : e.node (.option i) = e.options[i].id := by simp [Element.node, inside]
      rw [place] at here others
      have there : e.options[i] ∈ e.options := List.getElem_mem inside
      have drawn := map_eq_modify (fun n : OwnedNode => g n.id) (fun n => g' n.id) inside here
        fun j hj other =>
          others _ (of_option (List.getElem_mem hj)) (ne_of_getElem options inside hj other)
      simp only [portrait, Likeness.drawn, List.length_map, if_pos inside, drawn]
      rw [others e.leaf List.mem_cons_self (option_leaf there).symm,
        List.map_congr_left fun n hn => others n (of_part hn) fun same =>
          apart _ (List.mem_map_of_mem hn) _ (List.mem_map_of_mem there) same]
    · rw [at_leaf (by simp [Element.node, inside])]
      simp only [portrait, Likeness.drawn, List.length_map, if_neg inside]

/-! ### Writing to one node -/

lemma lookup_insert (names : Names) (key value : String) :
    (fun q => (names.insert key value)[q]?) =
      Function.update (fun q => names[q]?) key (some value) := by
  funext q
  rw [Std.ExtTreeMap.getElem?_insert, Function.update_apply]
  exact if_congr (compare_eq_iff_eq.trans eq_comm) rfl rfl

lemma lookup_erase (names : Names) (key : String) :
    (fun q => (names.erase key)[q]?) = Function.update (fun q => names[q]?) key none := by
  funext q
  rw [Std.ExtTreeMap.getElem?_erase, Function.update_apply]
  exact if_congr (compare_eq_iff_eq.trans eq_comm) rfl rfl

/-- A write that replaces nothing does to a face what it does to a record. -/
lemma face_recorded (w : NodeWrite) (plain : replaces w = false) (node : MemoryNode)
    (below : List Spot) :
    (⟨Face.of (recorded w node), below⟩ : Figure) = Figure.written w ⟨Face.of node, below⟩ := by
  cases w with
  | html | text => simp [replaces] at plain
  | form | focus | bind | observe => rfl
  | attr name value =>
    exact congrArg
      (fun f => Figure.mk { Face.of node with attributes := f } below) (lookup_insert ..)
  | linkStyle property value =>
    exact congrArg
      (fun f => Figure.mk { Face.of node with linkStyle := f } below) (lookup_insert ..)
  | noStyle property =>
    exact congrArg (fun f => Figure.mk { Face.of node with style := f } below) (lookup_erase ..)
  | style property value =>
    refine congrArg (fun f => Figure.mk { Face.of node with style := f } below)
      ((lookup_insert ..).trans (funext fun q => ?_))
    rw [Function.update_apply]
    rfl

lemma figure_setHtml (linked : Linked d) (issued : d.issued n) (html : String) :
    figure e (d.setHtml n html) n = { figure e d n with html, below := [] } ∧ ∀ m ≠ n,
    figure e (d.setHtml n html) m = figure e d m := by
  have record (m : NodeId) := node?_setHtml (m := m) (n := n) linked html
  refine ⟨?_, fun m other => ?_⟩
  · obtain ⟨node, found⟩ := issued_iff.1 issued
    rw [figure, figure, children_setHtml linked, if_pos rfl, face, record, found,
      face_of_node? found]
    simp [Face.of]
  · rw [figure, figure, children_setHtml linked, if_neg other]
    refine congrArg (Figure.mk · _) (face_of_looks ?_)
    rw [record]
    cases d.node? m with
    | none => rfl
    | some node => simp only [Option.map_some, Face.of, if_neg other]

/-- A write to a node changes its figure, and no other. -/
lemma figure_written (linked : Linked d) (issued : d.issued n) (w : NodeWrite) :
    figure e (written w n d) n = (figure e d n).written w ∧ ∀ m ≠ n,
    figure e (written w n d) m = figure e d m := by
  have recorded (plain : replaces w = false) :
      figure e (written w n d) n = (figure e d n).written w ∧ ∀ m ≠ n,
      figure e (written w n d) m = figure e d m := by
    have children (m : NodeId) : (written w n d).children m = d.children m := by
      rw [children_written linked, if_neg fun both => by simp [plain] at both]
    refine ⟨?_, fun m other => figure_of_record ?_⟩
    · obtain ⟨node, found⟩ := issued_iff.1 issued
      rw [figure, figure, children, face, node?_written_of_replaces plain, if_pos rfl, found,
        face_of_node? found]
      exact face_recorded w plain node _
    · rw [node?_written_of_replaces plain, if_neg other]
  cases w with
  | html markup => exact figure_setHtml linked issued markup
  | text content => exact figure_setHtml linked issued (Text.escapeData content)
  | attr | style | noStyle | linkStyle | form | bind | focus | observe => exact recorded rfl

/-! ### Nodes that come and go -/

/-- A place that is there already is found where it was. -/
lemma spot?_grown {n : OwnedNode} (parts : e'.parts = e.parts)
    (options : e'.options = e.options ++ [n]) (other : c ≠ n.id) :
    spot? e' c = spot? e c := by
  unfold spot?
  rw [parts, options, List.findIdx?_append]
  simp [List.findIdx?_cons, Ne.symm other]

lemma spot?_raised {n : OwnedNode} (parts : e'.parts = e.parts ++ [n])
    (options : e'.options = e.options) (other : c ≠ n.id) :
    spot? e' c = spot? e c := by
  unfold spot?
  rw [parts, options, List.findIdx?_append]
  simp [List.findIdx?_cons, Ne.symm other]

lemma findIdx?_of_new {nodes : List OwnedNode} (new : n ∉ nodes.map (·.id)) :
    nodes.findIdx? (fun m => decide (m.id = n)) = none := by
  refine List.findIdx?_eq_none_iff.2 fun m hm => decide_eq_false fun same => new ?_
  exact same ▸ List.mem_map_of_mem hm

lemma spot?_of_option {n : OwnedNode} (parts : e'.parts = e.parts)
    (options : e'.options = e.options ++ [n])
    (new : n.id ∉ e.nodes.map (·.id)) : spot? e' n.id = some (.option e.options.length) := by
  rw [Element.nodes, Element.fittings, List.map_cons, List.map_append, List.mem_cons,
    List.mem_append, not_or, not_or] at new
  unfold spot?
  rw [parts, options, List.findIdx?_append, findIdx?_of_new new.2.1, findIdx?_of_new new.2.2]
  simp [List.findIdx?_cons]

lemma spot?_of_part {n : OwnedNode} (parts : e'.parts = e.parts ++ [n])
    (new : n.id ∉ e.nodes.map (·.id)) :
    spot? e' n.id = some (.part e.parts.length) := by
  rw [Element.nodes, Element.fittings, List.map_cons, List.map_append, List.mem_cons,
    List.mem_append, not_or, not_or] at new
  unfold spot?
  rw [parts, List.findIdx?_append, findIdx?_of_new new.2.1]
  simp [List.findIdx?_cons]

/-- What becomes of the figures when a new node is hung below one of them. -/
lemma figure_hung {p : NodeId} {kind : NodeKind} (linked : Linked d')
    (blank : d'.node? n = some (.fresh kind)) (issued : d'.issued m)
    (other : m ≠ n) (record : d'.node? m = d.node? m) (there : ∀ c ≠ n, spot? e' c = spot? e c)
    (place : spot? e' n = some spot) :
    figure e' (d'.append p n) m =
      if m =
        p then { figure e d m with below := (figure e d m).below ++ [spot] } else figure e d m := by
  have absent : n ∉ d'.children m := by
    rw [linked, parent?_of_node? blank]
    exact nofun
  have regroups := node?_append_of_absent (p := p) linked absent other
  have shown : face (d'.append p n) m = face d m :=
    (face_regrouped regroups).trans (by rw [face, face, record])
  have below : (d'.children m).filterMap (spot? e') = (d.children m).filterMap (spot? e) := by
    have same : d'.children m = d.children m := by rw [children, children, record]
    rw [← same]
    exact List.filterMap_congr fun c hc => there c fun here => absent (here ▸ hc)
  rw [figure, figure, shown, children_regrouped regroups issued, List.filterMap_append, below]
  split
  · rw [List.filterMap_cons, place]
    rfl
  · rw [List.filterMap_nil, List.append_nil]

lemma figure_new {p : NodeId} {kind : NodeKind} (linked : Linked d)
    (blank : d.node? n = some (.fresh kind)) (other : p ≠ n) :
    figure e (d.append p n) n = .fresh kind := by
  have record := node?_append (p := p) (c := n) (m := n) linked
  rw [blank, Option.map_some] at record
  rw [figure, children_of_node? record, face_of_node? record]
  simp only [Face.of, MemoryNode.fresh, Std.ExtTreeMap.getElem?_empty, if_neg other.symm,
    List.filter_nil, List.append_nil, List.filterMap_nil]
  rfl

/-- Nodes that are emptied leave the others' children, and change nothing else of them. -/
lemma figure_emptied (linked : Linked d) (strange : m ∉ ns) :
    face (emptied ns d) m = face d m ∧
    (emptied ns d).children m = (d.children m).filter (· ∉ ns) := by
  unfold emptied
  induction ns generalizing d with
  | nil => exact ⟨rfl, (List.filter_eq_self.2 fun _ _ => by simp).symm⟩
  | cons n ns ih =>
    obtain ⟨other, strange⟩ := not_or.1 (mt List.mem_cons.2 strange)
    obtain ⟨shown, below⟩ := ih linked.reset strange
    refine ⟨shown.trans (face_of_looks ?_), ?_⟩
    · rw [node?_reset linked, if_neg other]
      cases d.node? m <;> rfl
    · rw [List.foldl_cons, below, children_reset linked, if_neg other, List.filter_filter]
      simp only [List.mem_cons, not_or, Bool.decide_and, Bool.and_comm]

/-- The places below a node without the options. -/
lemma below_cleared (distinct : (e.nodes.map (·.id)).Nodup) (cs : List NodeId) :
    (cs.filter (· ∉ e.options.map (·.id))).filterMap (spot? { e with options := [] }) =
      (cs.filterMap (spot? e)).filter (!isOption ·) := by
  rw [Element.nodes, Element.fittings, List.map_cons, List.map_append, List.nodup_cons,
    List.nodup_append] at distinct
  rw [List.filterMap_filter, List.filter_filterMap]
  refine List.filterMap_congr fun c _ => ?_
  by_cases option : c ∈ e.options.map (·.id)
  · have apart : c ∉ e.parts.map (·.id) := fun part => distinct.2.2.2 _ part _ option rfl
    obtain ⟨n, hn, rfl⟩ := List.mem_map.1 option
    have found : (e.options.findIdx? fun m => decide (m.id = n.id)).isSome := by
      rw [List.findIdx?_isSome, List.any_eq_true]
      exact ⟨n, hn, decide_eq_true rfl⟩
    obtain ⟨i, found⟩ := Option.isSome_iff_exists.1 found
    rw [if_neg (by simpa using option), spot?, findIdx?_of_new apart, found]
    rfl
  · rw [if_pos (decide_eq_true option)]
    unfold spot?
    rw [findIdx?_of_new option]
    cases e.parts.findIdx? fun m => decide (m.id = c) <;> rfl

end Figures

/-! ## Requests at the bench -/

/-- An element after some work on it: its parts stay, and no more is observed than before but its
leaf. -/
structure Onward (e : Element) (d : MemoryDocument) (e' : Element) (d' : MemoryDocument) :
    Prop where
  parts : e.parts <+: e'.parts
  leaf : e'.leaf = e.leaf
  observed : ∀ i ∈ d'.observed, i ∈ d.observed ∨ i = e.leaf.id.index

section Bench

variable {κ α : Type} [Core κ] {base : Nat} {rest : List OwnedNode} {e₀ e e' e'' : Element}
  {d₀ d d' d'' : MemoryDocument} {b : Bench} {h : MemoryHost κ} {n : NodeId}

lemma Onward.trans (first : Onward e d e' d') (second : Onward e' d' e'' d'') :
    Onward e d e'' d'' where
  parts := first.parts.trans second.parts
  leaf := second.leaf.trans first.leaf
  observed i hi := (second.observed i hi).elim (first.observed i) fun here =>
    .inr (here.trans (by rw [first.leaf]))

/-- Work that changes neither parts nor leaf, and lets nobody observe. -/
lemma Onward.of_observed (parts : e'.parts = e.parts) (leaf : e'.leaf = e.leaf)
    (observed : ∀ i ∈ d'.observed, i ∈ d.observed) :
    Onward e d e' d' := ⟨by rw [parts], leaf, fun i hi => .inl (observed i hi)⟩

lemma view_likeness (e : Element) (d : MemoryDocument) : (likeness e d).view = e.view := by
  simp only [likeness, portrait, Likeness.view, Element.view, List.length_map]

/-- Only a request to observe changes what is observed. -/
lemma observed_written (w : NodeWrite) (other : w ≠ .observe) :
    (written w n d).observed = d.observed := by
  cases w with
  | observe => exact absurd rfl other
  | html markup =>
    obtain ⟨nodes, eq, _⟩ := exists_setHtml (d := d) (n := n) markup
    exact (congrArg MemoryDocument.observed eq : (d.setHtml n markup).observed = _)
  | text content =>
    obtain ⟨nodes, eq, _⟩ := exists_setHtml (d := d) (n := n) (Text.escapeData content)
    exact (congrArg MemoryDocument.observed eq :
      (d.setHtml n (Text.escapeData content)).observed = _)
  | attr | style | noStyle | linkStyle | form | bind | focus => rfl

/-- A write to a node of an element, on its likeness. -/
lemma likeness_written (distinct : (e.nodes.map (·.id)).Nodup) (linked : Linked d) (spot : Spot)
    (issued : d.issued (e.node spot)) (w : NodeWrite) (other : w ≠ .observe) :
    likeness e (written w (e.node spot) d) = (likeness e d).drawn (·.written w) spot := by
  obtain ⟨here, others⟩ := figure_written (e := e) linked issued w
  rw [likeness, likeness, observed_written w other]
  exact portrait_drawn distinct _ here fun n _ elsewhere => others n.id elsewhere

lemma figure_likeness (e : Element) (d : MemoryDocument) (spot : Spot) :
    (likeness e d).figure spot = figure e d (e.node spot) := by
  cases spot with
  | leaf => rfl
  | part i =>
    cases inside :
      e.parts[i]? <;> simp [Likeness.figure, likeness, portrait, Element.node,
        Element.part?, inside]
  | option i =>
    cases inside :
      e.options[i]? <;> simp [Likeness.figure, likeness, portrait, Element.node, inside]

/-- The likeness of an element with one more option that hangs below one of its nodes. -/
lemma likeness_withOption (distinct : (e.nodes.map (·.id)).Nodup) {k : OwnedNode}
    {parent : Spot} {new : Figure} (observed : d'.observed = d.observed)
    (figures : ∀ m ∈ e.nodes.map (·.id), figure { e with options := e.options ++ [k] } d' m =
      if m =
        e.node parent
          then { figure e d m with below := (figure e d m).below ++ [.option e.options.length] }
            else figure e d m)
    (fresh : figure { e with options := e.options ++ [k] } d' k.id = new) :
    likeness { e with options := e.options ++ [k] } d' =
      let t := (likeness e d).hung parent (.option e.options.length)
      { t with options := t.options ++ [new] } := by
  have hung :
      portrait e (d.observed.contains e.leaf.id.index)
        (figure { e with options := e.options ++ [k] } d') =
      (likeness e d).hung parent (.option e.options.length) := by
    refine portrait_drawn distinct _ ?_ fun n hn other => ?_
    · rw [figures _ (node_mem e parent), if_pos rfl]
    · rw [figures _ (List.mem_map_of_mem hn), if_neg other]
  rw [← hung, likeness, observed]
  simp only [portrait, List.map_append, List.map_cons, List.map_nil, fresh]

lemma likeness_withPart (distinct : (e.nodes.map (·.id)).Nodup) {k : OwnedNode}
    {parent : Spot} {new : Figure} (observed : d'.observed = d.observed)
    (figures : ∀ m ∈ e.nodes.map (·.id), figure { e with parts := e.parts ++ [k] } d' m =
      if m =
        e.node parent
          then { figure e d m with below := (figure e d m).below ++ [.part e.parts.length] }
            else figure e d m)
    (fresh : figure { e with parts := e.parts ++ [k] } d' k.id = new) :
    likeness { e with parts := e.parts ++ [k] } d' =
      let t := (likeness e d).hung parent (.part e.parts.length)
      { t with parts := t.parts ++ [new] } := by
  have hung :
      portrait e (d.observed.contains e.leaf.id.index)
        (figure { e with parts := e.parts ++ [k] } d') =
      (likeness e d).hung parent (.part e.parts.length) := by
    refine portrait_drawn distinct _ ?_ fun n hn other => ?_
    · rw [figures _ (node_mem e parent), if_pos rfl]
    · rw [figures _ (List.mem_map_of_mem hn), if_neg other]
  rw [← hung, likeness, observed]
  simp only [portrait, List.map_append, List.map_cons, List.map_nil, fresh]

/-- The likeness of an element whose options were emptied. -/
lemma likeness_withoutOptions (distinct : (e.nodes.map (·.id)).Nodup)
    (linked : Linked d) {ns : List NodeId} (all : ∀ m, m ∈ ns ↔ m ∈ e.options.map (·.id)) :
    likeness { e with options := [] } (emptied ns d) = (likeness e d).withoutOptions := by
  have spread : (e.leaf.id :: e.parts.map (·.id) ++ e.options.map (·.id)).Nodup := by
    rwa [Element.nodes, Element.fittings, List.map_cons, List.map_append,
      ← List.cons_append] at distinct
  have strange (m) (hm : m ∈ e.leaf.id :: e.parts.map (·.id)) : m ∉ ns := fun gone =>
    (List.nodup_append.1 spread).2.2 m hm m ((all m).1 gone) rfl
  have bared (m) (hm : m ∈ e.leaf.id :: e.parts.map (·.id)) :
      figure { e with options := [] } (emptied ns d) m = Likeness.bare (figure e d m) := by
    obtain ⟨shown, below⟩ := figure_emptied linked (strange m hm)
    rw [figure, shown, below, Likeness.bare, figure, ← below_cleared distinct]
    simp only [all]
  obtain ⟨nodes, observed, focused, eq, watched, _⟩ := exists_emptied ns d
  have seen : (emptied ns d).observed.contains e.leaf.id.index =
      d.observed.contains e.leaf.id.index := by
    rw [eq, Bool.eq_iff_iff, Std.ExtTreeSet.contains_iff_mem, Std.ExtTreeSet.contains_iff_mem]
    refine (watched _).trans (and_iff_left fun gone => strange e.leaf.id List.mem_cons_self ?_)
    obtain ⟨n, hn, same⟩ := List.mem_map.1 gone
    obtain rfl : n = e.leaf.id := congrArg NodeId.mk same
    exact hn
  simp only [likeness, portrait, Likeness.withoutOptions, seen, List.map_nil, List.map_map]
  rw [bared _ List.mem_cons_self,
    List.map_congr_left fun n hn =>
      bared n.id (List.mem_cons_of_mem _ (List.mem_map_of_mem (f := (·.id)) hn))]
  rfl

/-- A node that was just taken belongs to nobody. -/
lemma AtWork.strange_of_taken {ps : NodePools} {k : OwnedNode} (_ : AtWork base rest e₀ d₀ b d)
    (o : Owned base ps (k :: (b.element.nodes ++ rest)) d') :
    k.id ∉ b.element.nodes.map (·.id) := by
  have distinct := o.nodup_held
  rw [List.map_cons, List.map_append, List.nodup_cons, List.mem_append, not_or] at distinct
  exact distinct.1.1

lemma observed_hung {p c : NodeId} (same : ∃ nodes, d' = { d with nodes }) :
    (d'.append p c).observed = d.observed := by
  obtain ⟨nodes, rfl⟩ := same
  obtain ⟨nodes', eq, _⟩ := exists_append (d := { d with nodes }) (p := p) (c := c)
  rw [eq]

/-- What becomes of the figures of an element when it takes a node and hangs it below one of its
own. -/
lemma figures_hung (e' : Element) {ps : NodePools} {k : OwnedNode} {kind : NodeKind} {place : Spot}
    (work : AtWork base rest e₀ d₀ b d) (o : Owned base ps (k :: (b.element.nodes ++ rest)) d')
    (blank : d'.node? k.id = some (.fresh kind))
    (taken : Kept (Known base (b.element.nodes ++ rest)) d d')
    (there : ∀ c ≠ k.id, spot? e' c = spot? b.element c)
    (new : spot? e' k.id = some place) (p : NodeId) : ∀ m ∈ b.element.nodes.map (·.id),
    figure e' (d'.append p k.id) m =
      if m = p then { figure b.element d m with below := (figure b.element d m).below ++ [place] }
        else figure b.element d m := by
  intro m hm
  refine figure_hung o.linked blank
    (o.issued_of_known (.inr (List.mem_cons_of_mem _ (mem_held hm)))) ?_
    (taken m (.inr (mem_held hm))) there new
  rintro rfl
  exact work.strange_of_taken o hm

theorem AtWork.perform_paints (work : AtWork base rest e₀ d₀ b h.document) {r : BenchRequest}
    {reply : r.Reply} {t : Likeness}
    (painted : (likeness b.element h.document).perform r = some (reply, t)) :
    Yields (Bench.perform r) b h fun reply' b' h' =>
      reply' = reply ∧ likeness b'.element h'.document = t ∧
      Onward b.element h.document b'.element h'.document := by
  have issued {n : NodeId} (hn : n ∈ b.element.nodes.map (·.id)) : h.document.issued n :=
    work.owned.issued_of_known (.inr (mem_held hn))
  have distinct := work.owned.nodup_front
  have linked := work.owned.linked
  have still {e' : Element} {d' : MemoryDocument} (parts : e'.parts = b.element.parts)
    (leaf : e'.leaf = b.element.leaf)
    (observed : d'.observed = h.document.observed) : Onward b.element h.document e' d' :=
    .of_observed parts leaf fun i hi => observed ▸ hi
  cases r with
  | sample => cases painted
  | look =>
    cases painted
    exact ⟨(view_likeness _ _).symm, rfl, still rfl rfl rfl⟩
  | note | resizeRegion =>
    cases painted
    exact ⟨rfl, rfl, still rfl rfl rfl⟩
  | html spot =>
    cases painted
    obtain ⟨record, hn⟩ := issued_iff.1 (issued (node_mem b.element spot))
    refine (ends_bind _ _ _).2 ((ends_get _).2 ((ends_ask _ _).2 ?_))
    rw [answer_innerHtml hn]
    refine ⟨?_, rfl, still rfl rfl rfl⟩
    rw [figure_likeness, figure, face_of_node? hn]
    rfl
  | useFont font =>
    cases painted
    refine (ends_bind _ _ _).2 ((ends_focus _ _).2 ((register_yields font b.fonts).ends ?_))
    rintro _ fonts h' ⟨faces, eq⟩
    refine ⟨rfl, likeness_of_records (fun n _ => by rw [eq]; rfl) (by rw [eq]),
      still rfl rfl (by rw [eq])⟩
  | write spot w =>
    refine (ends_bind _ _ _).2
      ((ends_get _).2
        ((ends_script _ _).2 ((answers_write w (issued (node_mem b.element spot))).2 ?_)))
    have drawn (other : w ≠ .observe)
      (painted : (likeness b.element h.document).drawn (·.written w) spot = t) :
        likeness b.element (written w (b.element.node spot) h.document) = t :=
      (likeness_written distinct linked spot (issued (node_mem b.element spot)) w
        other).trans painted
    cases w with
    | observe =>
      cases spot with
      | part | option => cases painted
      | leaf =>
        cases painted
        refine ⟨rfl, ?_, List.prefix_rfl, rfl, fun i hi => ?_⟩
        · have watched :
              (h.document.observed.insert b.element.leaf.id.index).contains
                b.element.leaf.id.index = true := by simp
          exact congrArg (portrait b.element · (figure b.element h.document)) watched
        · rcases Std.ExtTreeSet.mem_insert.1 hi with here | before
          · exact .inr (compare_eq_iff_eq.1 here).symm
          · exact .inl before
    | attr | style | noStyle | linkStyle | html | text | form | focus | bind =>
      refine ⟨rfl, drawn (fun same => by cases same) ?_,
        still rfl rfl (observed_written _ fun same => by cases same)⟩
      cases spot <;> exact congrArg Prod.snd (Option.some.inj painted)
  | clearOptions =>
    cases painted
    refine (ends_bind _ _ _).2
      ((ends_get _).2 ((ends_bind _ _ _).2 ((ends_modify _ _).2 ((ends_focus _ _).2 ?_))))
    refine (putAll_restocks _ work.owned.stocked fun n hn => issued ?_).ends ?_
    · have option : n ∈ b.element.options := List.mem_reverse.1 hn
      exact List.mem_map_of_mem (List.mem_cons_of_mem _ (List.mem_append_right _ option))
    · rintro _ ps h' ⟨_, _, rfl⟩
      refine ⟨rfl, likeness_withoutOptions distinct linked fun m => ?_,
        .of_observed rfl rfl fun i hi => ?_⟩
      · rw [List.map_reverse, List.mem_reverse]
      · obtain ⟨nodes, observed, focused, eq, watched, _⟩ :=
          exists_emptied (b.element.options.reverse.map (·.id)) h.document
        dsimp only at hi
        rw [eq] at hi
        exact ((watched i).1 hi).1
  | addPart parent kind =>
    cases painted
    refine (ends_bind _ _ _).2 ((ends_focus _ _).2 ((work.owned.take_kept kind).ends ?_))
    rintro n ps h' ⟨⟨o, _, blank, _⟩, taken, _, same⟩
    refine (ends_bind _ _ _).2 ((ends_get _).2 ((ends_bind _ _ _).2 ((ends_ask _ _).2 ?_)))
    have new := work.strange_of_taken o
    have above : b.element.node parent ≠ n.id := fun here => new (here ▸ node_mem b.element parent)
    rw [answer_appendChild
      (o.issued_of_known (.inr (List.mem_cons_of_mem _ (mem_held (node_mem b.element parent)))))
      (issued_of_node? blank)]
    have watched : (h'.document.append (b.element.node parent) n.id).observed =
        h.document.observed := observed_hung same
    refine ⟨congrArg Spot.part (List.length_map _).symm, ?_, List.prefix_append _ _, rfl,
      fun i hi => .inl (watched ▸ hi)⟩
    have places :=
      figures_hung { b.element with parts := b.element.parts ++ [n] } work o blank taken
      (fun c other => spot?_raised rfl rfl other) (spot?_of_part rfl new) (b.element.node parent)
    refine (likeness_withPart distinct watched places (figure_new o.linked blank above)).trans ?_
    simp only [Likeness.withPart, likeness, portrait, List.length_map]
  | addOption parent kind =>
    cases painted
    refine (ends_bind _ _ _).2 ((ends_focus _ _).2 ((work.owned.take_kept kind).ends ?_))
    rintro n ps h' ⟨⟨o, _, blank, _⟩, taken, _, same⟩
    refine (ends_bind _ _ _).2 ((ends_get _).2 ((ends_bind _ _ _).2 ((ends_ask _ _).2 ?_)))
    have new := work.strange_of_taken o
    have above : b.element.node parent ≠ n.id := fun here => new (here ▸ node_mem b.element parent)
    have known : Known base (n :: (b.element.nodes ++ rest)) (b.element.node parent) :=
      .inr (List.mem_cons_of_mem _ (mem_held (node_mem b.element parent)))
    rw [answer_appendChild (o.issued_of_known known) (issued_of_node? blank)]
    have watched : (h'.document.append (b.element.node parent) n.id).observed =
        h.document.observed := observed_hung same
    have placed : spot? { b.element with options := b.element.options ++ [n] } n.id =
        some (.option b.element.options.length) :=
      spot?_of_option (e := b.element) rfl rfl new
    have places :=
      figures_hung { b.element with options := b.element.options ++ [n] } work o blank taken
      (fun c other => spot?_grown rfl rfl other) placed (b.element.node parent)
    have fresh :=
      figure_new (e := { b.element with options := b.element.options ++ [n] }) o.linked blank above
    have reply :
        Spot.option b.element.options.length =
          .option (likeness b.element h.document).options.length :=
      congrArg Spot.option (List.length_map _).symm
    -- Without a tab index to write, the option is blank.
    have plain (none : (likeness b.element h.document).newOption kind = .fresh kind) :
        likeness { b.element with options := b.element.options ++ [n] }
          (h'.document.append (b.element.node parent) n.id) =
          (likeness b.element h.document).withOption parent kind := by
      refine (likeness_withOption distinct watched places fresh).trans ?_
      simp only [Likeness.withOption, none]
      simp only [likeness, portrait, List.length_map]
    have onward : Onward b.element h.document { b.element with options := b.element.options ++ [n] }
        (h'.document.append (b.element.node parent) n.id) := still rfl rfl watched
    cases focusable : kind.isFocusable with
    | false =>
      refine ⟨reply, plain ?_, onward⟩
      rw [Likeness.newOption, focusable]
      cases (likeness b.element h.document).notes.tabIndex <;> rfl
    | true =>
      cases tabIndex : b.element.tabIndex with
      | none =>
        refine ⟨reply, plain ?_, onward⟩
        have untold : (likeness b.element h.document).notes.tabIndex = none := tabIndex
        rw [Likeness.newOption, untold]
      | some tab =>
        refine (ends_bind _ _ _).2 ((ends_ask _ _).2 ?_)
        have known' : Known base (n :: (b.element.nodes ++ rest)) n.id := .inr List.mem_cons_self
        have hung := o.append known List.mem_cons_self
        have marks := hung.issued_of_known known'
        rw [answer_setAttribute marks]
        obtain ⟨here, others⟩ :=
          figure_written
            (e := { b.element with options := b.element.options ++ [n] }) hung.linked marks
          (.attr "tabindex" (toString tab))
        rw [fresh] at here
        have told : (likeness b.element h.document).newOption kind =
            (Figure.fresh kind).written (.attr "tabindex" (toString tab)) := by
          have told : (likeness b.element h.document).notes.tabIndex = some tab := tabIndex
          rw [Likeness.newOption, told]
          simp only [focusable, if_pos]
        have watched' :
            (written (.attr "tabindex" (toString tab)) n.id
              (h'.document.append (b.element.node parent) n.id)).observed =
              h.document.observed := watched
        have marked (m : NodeId) (hm : m ∈ b.element.nodes.map (·.id)) :=
          (others m fun same => new (same ▸ hm)).trans (places m hm)
        refine ⟨reply, (likeness_withOption distinct watched' marked here).trans ?_,
          still rfl rfl watched'⟩
        simp only [Likeness.withOption, told]
        simp only [likeness, portrait, List.length_map]

/-- A craft at the bench comes to what it is painted to, and the element looks as painted. -/
theorem AtWork.carryOut_paints (work : AtWork base rest e₀ d₀ b h.document) {craft : Craft α}
    {a : α} {t : Likeness} (painted : paint craft (likeness b.element h.document) = some (a, t)) :
    Yields (Bench.carryOut craft) b h fun a' b' h' =>
      a' = a ∧ likeness b'.element h'.document = t ∧
      Onward b.element h.document b'.element h'.document := by
  induction craft generalizing b h with
  | done a' =>
    cases painted
    exact ⟨rfl, rfl, .of_observed rfl rfl fun _ => id⟩
  | ask r next ih =>
    obtain ⟨⟨reply, t₁⟩, first, painted⟩ := Option.bind_eq_some_iff.1 painted
    refine (ends_bind _ _ _).2 (((work.perform r).and (work.perform_paints first)).ends ?_)
    rintro _ b₁ h₁ ⟨work₁, rfl, rfl, onward⟩
    refine (ih _ work₁ painted).ends ?_
    exact fun a' b₂ h₂ ⟨same, shown, onward₂⟩ => ⟨same, shown, onward.trans onward₂⟩
  | broken why => cases painted

end Bench

end LayeredPage.Proofs
