import LayeredPage.Proofs.Running
import LayeredPage.Proofs.Tree

/-!
# What requests do to a document in memory

A request about issued nodes is always answered; these are the answers, and the documents after
them.
-/

namespace LayeredPage.Proofs

open MemoryDocument

variable {κ : Type} [Core κ] {σ α : Type} {d d' : MemoryDocument} {n m p c : NodeId}

lemma require_issued (hn : d.issued n) : require n d = .ok ((), d) := by
  unfold require
  simp [hn, bind, StateT.bind, get, getThe, MonadStateOf.get, StateT.get,
    Except.bind, pure, Except.pure,
    StateT.pure]

lemma edit_issued (hn : d.issued n) (f : MemoryDocument → MemoryDocument) :
    (do require n; modifyGet fun d => ((), f d) : Checked Unit) d = .ok ((), f d) := by
  simp only [bind, StateT.bind, require_issued hn]
  rfl

lemma change_issued (hn : d.issued n) (f : MemoryNode → MemoryNode) :
    change n f d = .ok ((), d.modify n f) :=
  edit_issued hn (·.modify n f)

lemma read_node? {node : MemoryNode} (hn : d.node? n = some node) :
    MemoryDocument.read n d = .ok (node, d) := by
  unfold MemoryDocument.read
  simp [hn, bind, StateT.bind, get, getThe, MonadStateOf.get, StateT.get,
    Except.bind, pure, Except.pure,
    StateT.pure]

lemma read_issued {α : Type} (hn : d.issued n) (f : MemoryNode → α) :
    ∃ reply, (do return f (← MemoryDocument.read n) : Checked α) d = .ok (reply, d) := by
  obtain ⟨node, hn⟩ := issued_iff.1 hn
  refine ⟨f node, ?_⟩
  simp only [bind, StateT.bind, read_node? hn]
  rfl

lemma unread_node? (hn : d.node? n = none) :
    MemoryDocument.read n d = .error (.unissuedNode n.index) := by
  unfold MemoryDocument.read
  simp [hn, bind, StateT.bind, get, getThe, MonadStateOf.get, StateT.get,
    Except.bind, pure, Except.pure]
  rfl

lemma answer_appendChild (hp : d.issued p) (hc : d.issued c) :
    answer (.appendChild p c) d = .ok ((), d.append p c) := by
  simp only [answer, bind, StateT.bind, require_issued hc, Except.bind, require_issued hp]
  rfl

lemma answer_reset (hn : d.issued n) : answer (.reset n) d = .ok ((), d.reset n) :=
  edit_issued hn (·.reset n)

lemma answer_setAttribute (hn : d.issued n) (name value : String) :
    answer (.setAttribute n name value) d =
      .ok ((), d.modify n fun node =>
        { node with attributes := node.attributes.insert name value }) :=
  change_issued hn _

lemma answer_childCount (hn : d.issued n) :
    answer (.childCount n) d = .ok ((d.children n).length, d) := by
  obtain ⟨node, hn⟩ := issued_iff.1 hn
  simp only [answer, bind, StateT.bind, read_node? hn, children_of_node? hn]
  rfl

lemma answer_innerHtml {node : MemoryNode} (hn : d.node? n = some node) :
    answer (.innerHtml n) d = .ok (node.html, d) := by
  simp only [answer, bind, StateT.bind, read_node? hn]
  rfl

/-! ## Writes to a node -/

/-- What a write changes in the record of its node, when it leaves the tree and the document
alone. -/
def recorded : NodeWrite → MemoryNode → MemoryNode
  | .attr name value, node => { node with attributes := node.attributes.insert name value }
  | .style property value, node => { node with style := node.style.insert property value }
  | .noStyle property, node => { node with style := node.style.erase property }
  | .linkStyle property value, node =>
    { node with linkStyle := node.linkStyle.insert property value }
  | .form property, node => { node with form := node.form.set property }
  | .bind id binding, node => { node with bindings := node.bindings ++ [(id, binding)] }
  | .html _, node | .text _, node | .focus, node | .observe, node => node

/-- The document after a write to a node. -/
def written (w : NodeWrite) (n : NodeId) (d : MemoryDocument) : MemoryDocument :=
  match w with
  | .html markup => d.setHtml n markup
  | .text content => d.setHtml n (Text.escapeData content)
  | .focus => { d with focused := some n }
  | .observe => { d with observed := d.observed.insert n.index }
  | w => d.modify n (recorded w)

lemma serve_write (w : NodeWrite) {h : MemoryHost κ} (hn : h.document.issued n) :
    MemoryHost.serve (w.apply n) h = .ok ((), { h with document := written w n h.document }) := by
  cases w <;> unfold NodeWrite.apply <;> rw [serve_ask]
  case html markup => simp only [answer, bind, StateT.bind, require_issued hn]; rfl
  case text content => simp only [answer, bind, StateT.bind, require_issued hn]; rfl
  case focus => rfl
  case observe => rfl
  all_goals
    simp only [answer, change_issued hn]
    rfl

lemma answers_write (w : NodeWrite) {h : MemoryHost κ} (hn : h.document.issued n)
    {post : Unit → MemoryHost κ → Prop} {breach : Breach → Prop} :
    Answers (w.apply n) h post breach ↔ post () { h with document := written w n h.document } := by
  unfold Answers
  rw [serve_write w hn]

section Steps

variable {s : σ} {h : MemoryHost κ} {post : α → σ → MemoryHost κ → Prop}
  {refused : PatchError → σ → MemoryHost κ → Prop} {breach : Breach → Prop} {f : Unit → Work σ α}

lemma ends_write (w : NodeWrite) (hn : h.document.issued n)
    (next : ∀ h' : MemoryHost κ, h'.document = written w n h.document → h'.core = h.core →
      Ends (f ()) s h' post refused breach) :
    Ends (liftM (w.apply n) >>= f) s h post refused breach :=
  (ends_bind _ _ _).2 ((ends_script _ _).2 ((answers_write w hn).2 (next _ rfl rfl)))

lemma ends_append (hp : h.document.issued p) (hc : h.document.issued c)
    (next : ∀ h' : MemoryHost κ, h'.document = h.document.append p c → h'.core = h.core →
      Ends (f ()) s h' post refused breach) :
    Ends (liftM (ask (.appendChild p c)) >>= f) s h post refused breach := by
  refine (ends_bind _ _ _).2 ((ends_ask _ _).2 ?_)
  rw [answer_appendChild hp hc]
  exact next _ rfl rfl

end Steps

lemma recorded_tree (w : NodeWrite) (node : MemoryNode) :
    (recorded w node).kind = node.kind ∧ (recorded w node).parent = node.parent ∧
      (recorded w node).children = node.children := by
  cases w <;> exact ⟨rfl, rfl, rfl⟩

/-- Writes that replace what is inside a node. -/
def replaces : NodeWrite → Bool
  | .html _ | .text _ => true
  | _ => false

lemma node?_written_of_replaces {w : NodeWrite} (hw : replaces w = false) :
    (written w n d).node? m = if m = n then (d.node? m).map (recorded w) else d.node? m := by
  cases w with
  | html | text => simp [replaces] at hw
  | focus | observe =>
    change d.node? m = _
    cases d.node? m <;> simp [recorded]
  | attr | style | noStyle | linkStyle | form | bind => exact node?_modify _

lemma exists_written_of_replaces {w : NodeWrite} (hw : replaces w = true) :
    ∃ html, ∀ d, written w n d = d.setHtml n html := by
  cases w with
  | html markup => exact ⟨markup, fun _ => rfl⟩
  | text content => exact ⟨Text.escapeData content, fun _ => rfl⟩
  | attr | style | noStyle | linkStyle | form | bind | focus | observe => simp [replaces] at hw

lemma kind_written (linked : Linked d) (w : NodeWrite) :
    ((written w n d).node? m).map (·.kind) = (d.node? m).map (·.kind) := by
  cases hw : replaces w with
  | true =>
    obtain ⟨html, written⟩ := exists_written_of_replaces (n := n) hw
    rw [written, node?_setHtml linked]
    cases d.node? m <;> rfl
  | false =>
    rw [node?_written_of_replaces hw]
    by_cases same : m = n <;> cases d.node? m <;> simp [same, recorded_tree]

lemma parent?_written (linked : Linked d) (w : NodeWrite) :
    (written w n d).parent? m = if replaces w ∧
    d.parent? m = some n then none else d.parent? m := by
  cases hw : replaces w with
  | true =>
    obtain ⟨html, written⟩ := exists_written_of_replaces (n := n) hw
    rw [written, parent?_setHtml linked]
    simp
  | false =>
    unfold parent?
    rw [node?_written_of_replaces hw]
    by_cases same : m = n <;> cases hd : d.node? m <;> simp [same, recorded_tree]

lemma children_written (linked : Linked d) (w : NodeWrite) :
    (written w n d).children m = if replaces w ∧ m = n then [] else d.children m := by
  cases hw : replaces w with
  | true =>
    obtain ⟨html, written⟩ := exists_written_of_replaces (n := n) hw
    rw [written, children_setHtml linked]
    simp
  | false =>
    unfold children
    rw [node?_written_of_replaces hw]
    by_cases same : m = n <;> cases d.node? m <;> simp [same, recorded_tree]

/-- A write reaches no record but those of its node and of the nodes right below. -/
lemma node?_written_of_ne (linked : Linked d) (w : NodeWrite) (hm : m ≠ n)
    (hp : d.parent? m ≠ some n) :
    (written w n d).node? m = d.node? m := by
  cases hw : replaces w with
  | true =>
    obtain ⟨html, written⟩ := exists_written_of_replaces (n := n) hw
    rw [written, node?_setHtml linked]
    cases hd : d.node? m with
    | none => rfl
    | some node =>
      rw [parent?_of_node? hd] at hp
      simp only [Option.map_some, if_neg hm, if_neg hp]
  | false => rw [node?_written_of_replaces hw, if_neg hm]

lemma Linked.written (linked : Linked d) (w : NodeWrite) : Linked (written w n d) := by
  cases hw : replaces w with
  | true =>
    obtain ⟨html, written⟩ := exists_written_of_replaces (n := n) hw
    rw [written]
    exact linked.setHtml html
  | false =>
    intro m p
    rw [parent?_written linked, children_written linked]
    simpa [hw] using linked m p

lemma size_written (w : NodeWrite) : (written w n d).nodes.size = d.nodes.size := by
  cases w with
  | html | text => exact size_setHtml _
  | focus | observe => rfl
  | attr | style | noStyle | linkStyle | form | bind => exact size_modify _

@[simp] lemma issued_written (w : NodeWrite) : (written w n d).issued m = d.issued m := by
  simp only [MemoryDocument.issued, size_written]

end LayeredPage.Proofs
