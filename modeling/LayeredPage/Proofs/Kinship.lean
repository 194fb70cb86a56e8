import LayeredPage.Proofs.Vacating

/-!
# Parents and children after any requests

A node's parent and the row of its parent's children are kept in two records, and every change of
the tree edits both. A register of the rows alone can be kept beside the document. Requests about
nodes that are there are always answered, and what they make of the document they make of the
register, whatever hangs below whom: a node may be put below its own parent, below its own child, or
below itself. So parents and children tell the same after any requests, a node stands in one row and
there once, and an appended node goes last while the others keep their order.
-/

namespace LayeredPage.Proofs

open MemoryDocument

/-- How many nodes there are, and the children of each of them in order. -/
@[ext]
structure Kinship where
  count : Nat
  children : NodeId → List NodeId

namespace Kinship

def start : Kinship := ⟨0, fun _ => []⟩

/-- A node leaves the row that it stands in. -/
def detached (k : Kinship) (n : NodeId) : Kinship :=
  { k with children := fun m => (k.children m).filter (· ≠ n) }

/-- All of a node's children leave. -/
def cleared (k : Kinship) (n : NodeId) : Kinship :=
  { k with children := fun m => if m = n then [] else k.children m }

def appended (k : Kinship) (p c : NodeId) : Kinship :=
  { k with children := fun m => (k.detached c).children m ++ if m = p then [c] else [] }

/-- What a request makes of the register. -/
def after (k : Kinship) : DocumentRequest → Kinship
  | .createElement _ => { k with count := k.count + 1 }
  | .appendChild p c => k.appended p c
  | .detach n => k.detached n
  | .reset n => (k.detached n).cleared n
  | .setInnerHtml n _ | .setText n _ => k.cleared n
  | _ => k

/-- Each of these requests is about nodes that are there when its turn comes. -/
def Founds (k : Kinship) : List DocumentRequest → Prop
  | [] => True
  | r :: rs => (∀ n ∈ named r, n.index < k.count) ∧ (k.after r).Founds rs

instance decidableFounds (k : Kinship) : (rs : List DocumentRequest) → Decidable (k.Founds rs)
  | [] => inferInstanceAs (Decidable True)
  | r :: rs =>
    have := decidableFounds (k.after r) rs
    inferInstanceAs (Decidable ((∀ n ∈ named r, n.index < k.count) ∧ (k.after r).Founds rs))

end Kinship

/-- The register of a document as it is. -/
def kinship (d : MemoryDocument) : Kinship := ⟨d.nodes.size, d.children⟩

/-- Puts requests to a document one after the other. -/
def askAll : List DocumentRequest → Checked Unit
  | [] => pure ()
  | r :: rs => do
    let _ ← answer r
    askAll rs

/-! ## One request -/

section Requests

variable {d d' : MemoryDocument} {n p c : NodeId}

lemma kinship_of_nodes (same : d'.nodes = d.nodes) : kinship d' = kinship d :=
  Kinship.ext (congrArg Array.size same) (funext fun _ => children_of_nodes same)

lemma kinship_modify {f : MemoryNode → MemoryNode}
    (hc : ∀ node, (f node).children = node.children) :
    kinship (d.modify n f) = kinship d :=
  Kinship.ext (size_modify f) (funext fun _ => children_modify hc)

lemma kinship_create (kind : NodeKind) :
    kinship (d.create kind).2 = { kinship d with count := d.nodes.size + 1 } :=
  Kinship.ext (by simp [kinship, MemoryDocument.create]) (funext fun _ => children_create kind)

lemma kinship_detach (linked : Linked d) : kinship (d.detach n) = (kinship d).detached n :=
  Kinship.ext size_detach (funext fun _ => children_detach linked)

lemma kinship_append (linked : Linked d) (hp : d.issued p) :
    kinship (d.append p c) = (kinship d).appended p c :=
  Kinship.ext size_append (funext fun _ => children_append linked hp)

lemma kinship_setHtml (linked : Linked d) (html : String) :
    kinship (d.setHtml n html) = (kinship d).cleared n :=
  Kinship.ext (size_setHtml html) (funext fun _ => children_setHtml linked html)

lemma kinship_reset (linked : Linked d) :
    kinship (d.reset n) = ((kinship d).detached n).cleared n :=
  Kinship.ext size_reset (funext fun _ => children_reset linked)

/-- A request about nodes that are there is answered, and is entered in the register as it should
be. -/
theorem answer_kinship (linked : Linked d) {r : DocumentRequest}
    (known : ∀ n ∈ named r, d.issued n) :
    ∃ reply d', answer r d = .ok (reply, d') ∧ kinship d' = (kinship d).after r := by
  have known_of_eq (n) (hn : named r = [n]) : d.issued n := known n (by simp [hn])
  cases r with
  | createElement kind => exact ⟨_, _, rfl, kinship_create kind⟩
  | appendChild p c =>
    have hp := known p (by simp [named])
    have hc := known c (by simp [named])
    exact ⟨_, _, answer_appendChild hp hc, kinship_append linked hp⟩
  | detach n => exact ⟨(), _, edit_issued (known_of_eq n rfl) (·.detach n), kinship_detach linked⟩
  | reset n => exact ⟨_, _, answer_reset (known_of_eq n rfl), kinship_reset linked⟩
  | setInnerHtml n html =>
    exact ⟨(), _, edit_issued (known_of_eq n rfl) (·.setHtml n html), kinship_setHtml linked html⟩
  | setText n text =>
    exact ⟨(), _, edit_issued (known_of_eq n rfl) (·.setHtml n (Text.escapeData text)),
      kinship_setHtml linked _⟩
  | parent n => exact (read_issued (known_of_eq n rfl) (·.parent)).imp fun _ run => ⟨d, run, rfl⟩
  | childCount n =>
    exact (read_issued (known_of_eq n rfl) (·.children.length)).imp fun _ run => ⟨d, run, rfl⟩
  | innerHtml n => exact (read_issued (known_of_eq n rfl) (·.html)).imp fun _ run => ⟨d, run, rfl⟩
  | surfaceMetrics n =>
    exact (read_issued (known_of_eq n rfl) (·.surface.metrics)).imp fun _ run => ⟨d, run, rfl⟩
  | setAttribute n | removeAttribute n | setStyle n | removeStyle n | setLinkStyle n
    | setForm n | bindInput n
  | clearSurface n | resizeSurface n =>
    exact ⟨(), _, change_issued (known_of_eq n rfl) _, kinship_modify fun _ => rfl⟩
  | setRootProperty | removeRootProperty | loadFace | loadImage | focus | observeSize
    | unobserveSize | sampleScroll
  | cancelSampler => exact ⟨_, _, rfl, kinship_of_nodes rfl⟩
  | scrollDelta sampler now =>
    refine ⟨_, _, rfl, kinship_of_nodes ?_⟩
    dsimp only
    split <;> rfl

end Requests

/-! ## Any number of requests -/

section Runs

variable {d : MemoryDocument} {rs : List DocumentRequest}

/-- Requests that each find their nodes are all answered, and end where the register ends. -/
theorem askAll_kinship (listed : Listed d) (founded : (kinship d).Founds rs) :
    ∃ d', askAll rs d = .ok ((), d') ∧ Listed d' ∧
      kinship d' = rs.foldl Kinship.after (kinship d) := by
  induction rs generalizing d with
  | nil => exact ⟨d, rfl, listed, rfl⟩
  | cons r rs ih =>
    have known (n : NodeId) (hn : n ∈ named r) : d.issued n := decide_eq_true (founded.1 n hn)
    obtain ⟨reply, d₁, first, entered⟩ := answer_kinship listed.linked known
    -- What the others may name depends on the document only through its register.
    have rest : (kinship d₁).Founds rs := entered ▸ founded.2
    obtain ⟨d', run, listed', reached⟩ := ih (listed.answered first) rest
    refine ⟨d', ?_, listed', ?_⟩
    · simp only [askAll, bind, StateT.bind, first, Except.bind]
      exact run
    · rw [reached, entered, List.foldl_cons]

/-- Whatever is asked of an empty document about nodes that it has issued by then, parents and
children tell the same, every node stands in one row at most and there once, and the rows are those
of the register. A node that is appended then goes to the end of its row, and nothing else changes
its place among the others. -/
theorem kinship_of_requests (founded : Kinship.start.Founds rs) :
    ∃ d, askAll rs .empty = .ok ((), d) ∧ kinship d = rs.foldl Kinship.after .start ∧
      (∀ c p, d.parent? c = some p ↔ c ∈ d.children p) ∧
      (∀ p, (d.children p).Nodup) ∧
      (∀ c p q, c ∈ d.children p → c ∈ d.children q → p = q) ∧
      ∀ p c, d.issued p → d.issued c → ∃ d', answer (.appendChild p c) d = .ok ((), d') ∧
        d'.children p = (d.children p).filter (· ≠ c) ++ [c] ∧
        ∀ q, q ≠ p → d'.children q = (d.children q).filter (· ≠ c) := by
  have blank : kinship .empty = .start := Kinship.ext rfl (funext fun _ => rfl)
  obtain ⟨d, run, listed, reached⟩ := askAll_kinship Reached.empty.listed (blank ▸ founded)
  refine ⟨d, run, blank ▸ reached, fun c p => (listed.linked c p).symm, listed.once, ?_, ?_⟩
  · exact fun c p q hp hq => listed.linked.parent_unique hp hq
  · intro p c hp hc
    refine ⟨d.append p c, answer_appendChild hp hc, ?_, ?_⟩
    · rw [children_append listed.linked hp, if_pos rfl]
    · intro q other
      rw [children_append listed.linked hp, if_neg other, List.append_nil]

/-- Two nodes below each other and one below itself. -/
def tangle : List DocumentRequest :=
  [.createElement .div, .createElement .div, .createElement .input, .appendChild ⟨0⟩ ⟨1⟩,
    .appendChild ⟨0⟩ ⟨2⟩, .appendChild ⟨0⟩ ⟨1⟩, .appendChild ⟨2⟩ ⟨2⟩, .appendChild ⟨1⟩ ⟨0⟩]

theorem kinship_in_a_tangle : Kinship.start.Founds tangle ∧
    ∃ d, askAll tangle .empty = .ok ((), d) ∧ d.children ⟨0⟩ = [⟨1⟩] ∧ d.children ⟨1⟩ = [⟨0⟩] ∧
      d.children ⟨2⟩ = [⟨2⟩] ∧ d.parent? ⟨2⟩ = some ⟨2⟩ ∧
      ∃ d', answer (.appendChild ⟨0⟩ ⟨2⟩) d = .ok ((), d') ∧ d'.children ⟨0⟩ = [⟨1⟩, ⟨2⟩] ∧
        d'.children ⟨2⟩ = [] := by
  have founded : Kinship.start.Founds tangle := by decide
  obtain ⟨d, run, rows, linked, _, _, appends⟩ := kinship_of_requests founded
  have size : d.nodes.size = 3 := congrArg Kinship.count rows
  have row (n : NodeId) : d.children n = (tangle.foldl Kinship.after .start).children n :=
    congrFun (congrArg Kinship.children rows) n
  have row₀ : d.children ⟨0⟩ = [⟨1⟩] := (row ⟨0⟩).trans (by decide)
  have row₂ : d.children ⟨2⟩ = [⟨2⟩] := (row ⟨2⟩).trans (by decide)
  obtain ⟨d', run', row₀', others⟩ :=
    appends ⟨0⟩ ⟨2⟩ (by simp [issued, size]) (by simp [issued, size])
  refine ⟨founded, d, run, row₀, (row ⟨1⟩).trans (by decide), row₂,
    (linked _ _).2 (by simp [row₂]), d', run', ?_, ?_⟩
  · rw [row₀', row₀]
    decide
  · rw [others ⟨2⟩ (by decide), row₂]
    decide

end Runs

end LayeredPage.Proofs
