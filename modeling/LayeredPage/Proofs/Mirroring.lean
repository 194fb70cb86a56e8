import LayeredPage.Proofs.Reaching
import LayeredPage.Proofs.Renaming

/-!
# Documents that mirror each other

One document mirrors another under a renaming of the nodes that are known: known nodes have the same
records up to names, and what the documents say beside the tree they say about the same nodes. What
is not known, a node that waits for its next use or one that nobody uses again, may be anything. A
change to known nodes, made in both documents, keeps them mirrors.
-/

namespace LayeredPage.Proofs

open MemoryDocument

/-- The neighbours of a record are known. -/
def Within (K : NodeId → Prop) (node : MemoryNode) : Prop :=
  (∀ p, node.parent = some p → K p) ∧ ∀ c ∈ node.children, K c

/-- The trees agree on known nodes. -/
structure TreeAs (K : NodeId → Prop) (f : NodeId → NodeId) (d d' : MemoryDocument) : Prop where
  linked : Linked d
  linked' : Linked d'
  inj : ∀ m n, K m → K n → f m = f n → m = n
  nodes : ∀ n, K n → ∃ node, d.node? n = some node ∧
    d'.node? (f n) = some (renamedRecord f node) ∧ Within K node

/-- The same known nodes are observed, and no others. -/
structure ObservedAs (K : NodeId → Prop) (f : NodeId → NodeId) (o o' : Std.ExtTreeSet Nat) :
    Prop where
  same : ∀ n, K n → ((f n).index ∈ o' ↔ n.index ∈ o)
  known : ∀ i ∈ o, K ⟨i⟩
  named : ∀ i ∈ o', ∃ n, K n ∧ f n = ⟨i⟩

/-- The same known node has the focus, or none. -/
def FocusedAs (K : NodeId → Prop) (f : NodeId → NodeId) (x x' : Option NodeId) : Prop :=
  x' = x.map f ∧ ∀ n, x = some n → K n

/-- Samplers agree one by one; those that are live are on the same known node. -/
structure SampledAs (K : NodeId → Prop) (f : NodeId → NodeId) (a a' : Array MemorySampler) :
    Prop where
  size : a'.size = a.size
  same : ∀ (i : Nat) (s : MemorySampler), a[i]? = some s → ∃ s', a'[i]? = some s' ∧
    s'.tracker = s.tracker ∧
    s'.live = s.live ∧ s'.interval = s.interval ∧ (s.live → s'.node = f s.node ∧ K s.node)

structure Mirrored (K : NodeId → Prop) (f : NodeId → NodeId) (d d' : MemoryDocument) : Prop where
  tree : TreeAs K f d d'
  observed : ObservedAs K f d.observed d'.observed
  focused : FocusedAs K f d.focused d'.focused
  samplers : SampledAs K f d.samplers d'.samplers
  properties : d'.rootProperties = d.rootProperties
  faces : d'.faces = d.faces
  images : d'.images = d.images

section Trees

variable {K K' : NodeId → Prop} {f g : NodeId → NodeId}
  {d d' d₁ d₁' : MemoryDocument} {n m p c : NodeId}

lemma TreeAs.issued (tree : TreeAs K f d d') (hn : K n) : d.issued n ∧ d'.issued (f n) := by
  obtain ⟨node, found, found', _⟩ := tree.nodes n hn
  exact ⟨issued_of_node? found, issued_of_node? found'⟩

lemma TreeAs.eq_iff (tree : TreeAs K f d d') (hm : K m) (hn : K n) : f m = f n ↔ m = n :=
  ⟨tree.inj m n hm hn, congrArg f⟩

/-- Trees agree after records were edited in the same way. -/
lemma TreeAs.edit (tree : TreeAs K f d d') (linked : Linked d₁) (linked' : Linked d₁')
    (less : ∀ m, K' m → K m) {edit edit' : NodeId → MemoryNode → MemoryNode}
    (real : ∀ m, d₁.node? m = (d.node? m).map (edit m))
    (other : ∀ m, d₁'.node? (f m) = (d'.node? (f m)).map (edit' m))
    (same : ∀ m node, K' m → Within K node →
      edit' m (renamedRecord f node) = renamedRecord f (edit m node) ∧
      Within K' (edit m node)) : TreeAs K' f d₁ d₁' where
  linked := linked
  linked' := linked'
  inj m n hm hn := tree.inj m n (less m hm) (less n hn)
  nodes n hn := by
    obtain ⟨node, found, found', within⟩ := tree.nodes n (less n hn)
    obtain ⟨eq, within'⟩ := same n node hn within
    exact ⟨edit n node, by rw [real, found, Option.map_some],
      by rw [other, found', Option.map_some, eq], within'⟩

lemma map_filter_ne (tree : TreeAs K f d d') {cs : List NodeId} (hcs : ∀ c ∈ cs, K c) (hn : K n) :
    (cs.map f).filter (· ≠ f n) = (cs.filter (· ≠ n)).map f := by
  rw [List.filter_map]
  congr 1
  refine List.filter_congr fun c hc => ?_
  simp [tree.eq_iff (hcs c hc) hn]

lemma map_parent_eq (tree : TreeAs K f d d') {x : Option NodeId}
    (hx : ∀ p, x = some p → K p) (hn : K n) :
    x.map f = some (f n) ↔ x = some n := by
  cases x with
  | none => simp
  | some p => simp [tree.eq_iff (hx p rfl) hn]

/-- A change to what a node carries. -/
lemma TreeAs.modify (tree : TreeAs K f d d') {e : MemoryNode → MemoryNode} (hn : K n)
    (ties : ∀ node, (e node).parent = node.parent ∧ (e node).children = node.children)
    (same : ∀ node, e (renamedRecord f node) = renamedRecord f (e node)) :
    TreeAs K f (d.modify n e) (d'.modify (f n) e) where
  linked := tree.linked.modify (fun node => (ties node).1) fun node => (ties node).2
  linked' := tree.linked'.modify (fun node => (ties node).1) fun node => (ties node).2
  inj := tree.inj
  nodes m hm := by
    obtain ⟨node, found, found', within⟩ := tree.nodes m hm
    rw [node?_modify, node?_modify, found, found']
    by_cases here : m = n
    · refine ⟨e node, by rw [if_pos here, Option.map_some], ?_, ?_⟩
      · rw [if_pos (congrArg f here), Option.map_some, same]
      · rwa [Within, (ties node).1, (ties node).2]
    · exact ⟨node, if_neg here, if_neg fun eq => here (tree.inj m n hm hn eq), within⟩

lemma TreeAs.append (tree : TreeAs K f d d') (hp : K p) (hc : K c) :
    TreeAs K f (d.append p c) (d'.append (f p) (f c)) := by
  have issued := tree.issued hp
  have issued' := tree.issued hc
  refine tree.edit (tree.linked.append issued.1 issued'.1) (tree.linked'.append issued.2 issued'.2)
    (fun _ hm => hm) (fun _ => node?_append tree.linked) (fun _ => node?_append tree.linked')
      fun m node hm within => ?_
  have filtered := map_filter_ne tree within.2 hc
  constructor
  · simp only [renamedRecord, tree.eq_iff hm hc, tree.eq_iff hm hp, filtered, List.map_append]
    split_ifs <;> simp
  · constructor
    · intro q hq
      by_cases child : m = c
      · rw [if_pos child] at hq
        cases hq
        exact hp
      · rw [if_neg child] at hq
        exact within.1 q hq
    · intro k hk
      rcases List.mem_append.1 hk with old | new
      · exact within.2 k (List.mem_of_mem_filter old)
      · by_cases parent : m = p
        · rw [if_pos parent, List.mem_singleton] at new
          exact new ▸ hc
        · simp [parent] at new

lemma TreeAs.setHtml (tree : TreeAs K f d d') (hn : K n) (html : String) :
    TreeAs K f (d.setHtml n html) (d'.setHtml (f n) html) := by
  refine tree.edit (tree.linked.setHtml html) (tree.linked'.setHtml html) (fun _ hm => hm)
    (fun _ => node?_setHtml tree.linked html) (fun _ => node?_setHtml tree.linked' html)
      fun m node hm within => ?_
  constructor
  · simp only [renamedRecord, tree.eq_iff hm hn, map_parent_eq tree within.1 hn]
    by_cases here : m = n <;> by_cases below : node.parent = some n <;> simp [here, below]
  · constructor
    · intro p hp
      by_cases below : node.parent = some n
      · simp [below] at hp
      · rw [if_neg below] at hp
        exact within.1 p hp
    · intro c hc
      by_cases here : m = n
      · simp [here] at hc
      · rw [if_neg here] at hc
        exact within.2 c hc

/-- A node that is reset is known no longer. -/
lemma TreeAs.reset (tree : TreeAs K f d d') (hn : K n) :
    TreeAs (fun m => K m ∧ m ≠ n) f (d.reset n) (d'.reset (f n)) where
  linked := tree.linked.reset
  linked' := tree.linked'.reset
  inj m k hm hk := tree.inj m k hm.1 hk.1
  nodes m hm := by
    obtain ⟨node, found, found', within⟩ := tree.nodes m hm.1
    have apart : f m ≠ f n := fun eq => hm.2 (tree.inj m n hm.1 hn eq)
    rw [node?_reset tree.linked, node?_reset tree.linked', if_neg hm.2, if_neg apart, found, found']
    refine ⟨without n node, rfl, ?_, ?_, ?_⟩
    · simp only [Option.map_some, without, renamedRecord, map_parent_eq tree within.1 hn,
        map_filter_ne tree within.2 hn]
      by_cases below : node.parent = some n <;> simp [below]
    · intro p hp
      by_cases below : node.parent = some n
      · simp [without, below] at hp
      · rw [without, if_neg below] at hp
        exact ⟨within.1 p hp, fun same => below (same ▸ hp)⟩
    · intro c hc
      obtain ⟨inside, other⟩ := List.mem_filter.1 hc
      exact ⟨within.2 c inside, by simpa using other⟩

lemma renamedRecord_congr {node : MemoryNode} (within : Within K node)
    (same : ∀ m, K m → g m = f m) :
    renamedRecord g node = renamedRecord f node := by
  have parent : node.parent.map g = node.parent.map f :=
    Option.map_congr fun p hp => same p (within.1 p hp)
  have children : node.children.map g = node.children.map f :=
    List.map_congr_left fun c hc => same c (within.2 c hc)
  simp only [renamedRecord, parent, children]

/-- A node in its empty state becomes known, under any new name. -/
lemma TreeAs.join (tree : TreeAs K f d d') {n n' : NodeId} {kind : NodeKind} (linked : Linked d₁)
    (linked' : Linked d₁')
    (kept : ∀ m, K m → d₁.node? m = d.node? m) (kept' : ∀ m, K m → d₁'.node? (f m) = d'.node? (f m))
    (blank : d₁.node? n = some (.fresh kind)) (blank' : d₁'.node? n' = some (.fresh kind))
    (same : ∀ m, K m → g m = f m) (named : g n = n') (other : ∀ m, K m → f m ≠ n') :
    TreeAs (fun m => K m ∨ m = n) g d₁ d₁' where
  linked := linked
  linked' := linked'
  inj m k hm hk eq := by
    rcases hm with hm | rfl <;> rcases hk with hk | rfl
    · rw [same m hm, same k hk] at eq
      exact tree.inj m k hm hk eq
    · rw [same m hm, named] at eq
      exact absurd eq (other m hm)
    · rw [same k hk, named] at eq
      exact absurd eq.symm (other k hk)
    · rfl
  nodes m hm := by
    rcases hm with hm | rfl
    · obtain ⟨node, found, found', within⟩ := tree.nodes m hm
      refine ⟨node, (kept m hm).trans found, ?_, fun p hp => .inl (within.1 p hp), fun c hc =>
        .inl (within.2 c hc)⟩
      rw [same m hm, kept' m hm, found', renamedRecord_congr within same]
    · refine ⟨.fresh kind, blank, named ▸ blank', fun p hp => ?_, fun c hc => ?_⟩
      · cases hp
      · cases hc

end Trees

section Besides

variable {K K' : NodeId → Prop} {f g : NodeId → NodeId} {o o' : Std.ExtTreeSet Nat}
  {x x' : Option NodeId} {a a' : Array MemorySampler} {n : NodeId} {i j : Nat}

lemma mem_insert_nat : i ∈ o.insert j ↔ i = j ∨ i ∈ o := by
  rw [Std.ExtTreeSet.mem_insert, compare_eq_iff_eq, eq_comm]

lemma mem_erase_nat : i ∈ o.erase j ↔ i ≠ j ∧ i ∈ o := by
  rw [Std.ExtTreeSet.mem_erase, Ne, compare_eq_iff_eq, eq_comm]

lemma index_eq_iff {m n : NodeId} : m.index = n.index ↔ m = n := by
  cases m
  cases n
  simp

lemma ObservedAs.insert (observed : ObservedAs K f o o')
    (inj : ∀ m, K m → f m = f n → m = n) (hn : K n) :
    ObservedAs K f (o.insert n.index) (o'.insert (f n).index) where
  same m hm := by
    rw [mem_insert_nat, mem_insert_nat, observed.same m hm, index_eq_iff, index_eq_iff]
    exact or_congr_left ⟨inj m hm, congrArg f⟩
  known i hi := by
    rcases mem_insert_nat.1 hi with rfl | hi
    · exact hn
    · exact observed.known i hi
  named i hi := by
    rcases mem_insert_nat.1 hi with rfl | hi
    · exact ⟨n, hn, rfl⟩
    · exact observed.named i hi

/-- A node is observed no longer, and may even be forgotten. -/
lemma ObservedAs.erase (observed : ObservedAs K f o o') (inj : ∀ m, K m → f m = f n → m = n)
    (less : ∀ m, K' m → K m) (all : ∀ m, K m → m ≠ n → K' m) :
    ObservedAs K' f (o.erase n.index) (o'.erase (f n).index) where
  same m hm := by
    rw [mem_erase_nat, mem_erase_nat, observed.same m (less m hm), Ne,
      index_eq_iff, Ne, index_eq_iff]
    exact and_congr_left' (not_congr ⟨inj m (less m hm), congrArg f⟩)
  known i hi := by
    obtain ⟨other, hi⟩ := mem_erase_nat.1 hi
    exact all _ (observed.known i hi) fun same => other (congrArg NodeId.index same)
  named i hi := by
    obtain ⟨other, hi⟩ := mem_erase_nat.1 hi
    obtain ⟨m, hm, eq⟩ := observed.named i hi
    refine ⟨m, all m hm ?_, eq⟩
    rintro rfl
    exact other (congrArg NodeId.index eq).symm

lemma ObservedAs.join (observed : ObservedAs K f o o') {n' : NodeId}
    (same : ∀ m, K m → g m = f m) (named : g n = n')
    (new : ¬ K n) (other : ∀ m, K m → f m ≠ n') : ObservedAs (fun m => K m ∨ m = n) g o o' where
  same m hm := by
    rcases hm with hm | rfl
    · rw [same m hm]
      exact observed.same m hm
    · refine iff_of_false (fun there => ?_) fun here => new (observed.known _ here)
      obtain ⟨k, hk, eq⟩ := observed.named _ there
      exact other k hk (eq.trans named)
  known i hi := .inl (observed.known i hi)
  named i hi := by
    obtain ⟨m, hm, eq⟩ := observed.named i hi
    exact ⟨m, .inl hm, (same m hm).trans eq⟩

/-- The focus is lost with its node. -/
lemma FocusedAs.forget (focused : FocusedAs K f x x') (inj : ∀ m, K m → f m = f n → m = n) :
    FocusedAs (fun m => K m ∧ m ≠ n) f (if x = some n then none else x)
    (if x' = some (f n) then none else x') := by
  obtain ⟨rfl, known⟩ := focused
  cases x with
  | none => exact ⟨rfl, fun _ h => by cases h⟩
  | some m =>
    by_cases here : m = n
    · simp only [here, if_true, Option.map_some]
      exact ⟨rfl, fun _ h => by cases h⟩
    · have apart : f m ≠ f n := fun eq => here (inj m (known m rfl) eq)
      simp only [Option.map_some, Option.some.injEq, if_neg here, if_neg apart]
      refine ⟨rfl, fun k hk => ?_⟩
      cases hk
      exact ⟨known m rfl, here⟩

lemma FocusedAs.join (focused : FocusedAs K f x x') (same : ∀ m, K m → g m = f m) :
    FocusedAs (fun m => K m ∨ m = n) g x x' :=
  ⟨focused.1.trans (Option.map_congr fun m hm => (same m (focused.2 m hm)).symm), fun m hm =>
    .inl (focused.2 m hm)⟩

lemma SampledAs.join (sampled : SampledAs K f a a') (same : ∀ m, K m → g m = f m) :
    SampledAs (fun m => K m ∨ m = n) g a a' where
  size := sampled.size
  same i s hs := by
    obtain ⟨s', hs', tracker, live, interval, node⟩ := sampled.same i s hs
    refine ⟨s', hs', tracker, live, interval, fun alive => ?_⟩
    obtain ⟨eq, known⟩ := node alive
    exact ⟨eq.trans (same _ known).symm, .inl known⟩

lemma SampledAs.forget (sampled : SampledAs K f a a')
    (unsampled : ∀ (i : Nat) (s : MemorySampler), a[i]? = some s → s.live → s.node ≠ n) :
    SampledAs (fun m => K m ∧ m ≠ n) f a a' where
  size := sampled.size
  same i s hs := by
    obtain ⟨s', hs', tracker, live, interval, node⟩ := sampled.same i s hs
    exact ⟨s', hs', tracker, live, interval, fun alive =>
      ⟨(node alive).1, (node alive).2, unsampled i s hs alive⟩⟩

/-- A new sampler starts on a known node. -/
lemma SampledAs.push (sampled : SampledAs K f a a') (hn : K n) (tracker : ScrollTracker Float)
    (interval : UInt32) :
    SampledAs K f (a.push ⟨n, tracker, true, interval⟩)
    (a'.push ⟨f n, tracker, true, interval⟩) where
  size := by rw [Array.size_push, Array.size_push, sampled.size]
  same i s hs := by
    rw [Array.getElem?_push] at hs
    rw [Array.getElem?_push, sampled.size]
    split at hs
    · next last =>
      cases hs
      exact ⟨_, if_pos last, rfl, rfl, rfl, fun _ => ⟨rfl, hn⟩⟩
    · next early =>
      rw [if_neg early]
      exact sampled.same i s hs

lemma SampledAs.cancel (sampled : SampledAs K f a a') (i : Nat) :
    SampledAs K f (a.modify i fun s => { s with live := false })
    (a'.modify i fun s => { s with live := false }) where
  size := by rw [Array.size_modify, Array.size_modify, sampled.size]
  same j s hs := by
    rw [Array.getElem?_modify] at hs
    rw [Array.getElem?_modify]
    split at hs
    · next here =>
      obtain ⟨t, ht, rfl⟩ := Option.map_eq_some_iff.1 hs
      obtain ⟨t', ht', tracker, _, interval, _⟩ := sampled.same j t ht
      exact ⟨{ t' with live := false }, by rw [if_pos here, ht', Option.map_some], tracker, rfl,
        interval, fun h => by cases h⟩
    · next other =>
      rw [if_neg other]
      exact sampled.same j s hs

end Besides

section Documents

variable {K K' : NodeId → Prop} {f g : NodeId → NodeId}
  {d d' d₁ d₁' : MemoryDocument} {n m p c : NodeId}

lemma Mirrored.iff (mir : Mirrored K f d d') (same : ∀ m, K' m ↔ K m) : Mirrored K' f d d' := by
  obtain rfl : K' = K := funext fun m => propext (same m)
  exact mir

lemma Mirrored.modify (mir : Mirrored K f d d') {e : MemoryNode → MemoryNode} (hn : K n)
    (ties : ∀ node, (e node).parent = node.parent ∧ (e node).children = node.children)
    (same : ∀ node, e (renamedRecord f node) = renamedRecord f (e node)) :
    Mirrored K f (d.modify n e) (d'.modify (f n) e) :=
  ⟨mir.tree.modify hn ties same, mir.observed, mir.focused, mir.samplers, mir.properties,
    mir.faces, mir.images⟩

lemma Mirrored.append (mir : Mirrored K f d d') (hp : K p) (hc : K c) :
    Mirrored K f (d.append p c) (d'.append (f p) (f c)) := by
  have tree := mir.tree.append hp hc
  obtain ⟨nodes, eq, _⟩ := exists_append (d := d) (p := p) (c := c)
  obtain ⟨nodes', eq', _⟩ := exists_append (d := d') (p := f p) (c := f c)
  rw [eq, eq'] at tree ⊢
  exact ⟨tree, mir.observed, mir.focused, mir.samplers, mir.properties, mir.faces, mir.images⟩

lemma Mirrored.setHtml (mir : Mirrored K f d d') (hn : K n) (html : String) :
    Mirrored K f (d.setHtml n html) (d'.setHtml (f n) html) := by
  have tree := mir.tree.setHtml hn html
  obtain ⟨nodes, eq, _⟩ := exists_setHtml (d := d) (n := n) html
  obtain ⟨nodes', eq', _⟩ := exists_setHtml (d := d') (n := f n) html
  rw [eq, eq'] at tree ⊢
  exact ⟨tree, mir.observed, mir.focused, mir.samplers, mir.properties, mir.faces, mir.images⟩

/-- Changes to both documents beside their nodes. -/
lemma Mirrored.besides (mir : Mirrored K f d d') (nodes : d₁.nodes = d.nodes)
    (nodes' : d₁'.nodes = d'.nodes) (observed : ObservedAs K f d₁.observed d₁'.observed)
    (focused : FocusedAs K f d₁.focused d₁'.focused)
    (samplers : SampledAs K f d₁.samplers d₁'.samplers)
    (properties : d₁'.rootProperties = d₁.rootProperties)
    (faces : d₁'.faces = d₁.faces) (images : d₁'.images = d₁.images) : Mirrored K f d₁ d₁' where
  tree := by
    refine ⟨mir.tree.linked.of_nodes nodes, mir.tree.linked'.of_nodes nodes',
      mir.tree.inj, fun n hn => ?_⟩
    rw [node?_of_nodes nodes, node?_of_nodes nodes']
    exact mir.tree.nodes n hn
  observed := observed
  focused := focused
  samplers := samplers
  properties := properties
  faces := faces
  images := images

/-- A write to a known node, made on both sides. -/
lemma Mirrored.written (mir : Mirrored K f d d') (hn : K n) (w : NodeWrite) :
    Mirrored K f (written w n d) (written w (f n) d') := by
  cases w with
  | html markup => exact mir.setHtml hn markup
  | text content => exact mir.setHtml hn (Text.escapeData content)
  | focus =>
    refine mir.besides rfl rfl mir.observed ⟨rfl, fun m hm => ?_⟩ mir.samplers mir.properties
      mir.faces mir.images
    cases hm
    exact hn
  | observe =>
    exact mir.besides rfl rfl (mir.observed.insert (fun m hm => mir.tree.inj m n hm hn) hn)
      mir.focused mir.samplers
      mir.properties mir.faces mir.images
  | attr | style | noStyle | linkStyle | form | bind =>
    exact mir.modify hn (fun _ => ⟨rfl, rfl⟩) fun _ => rfl

/-- A reset node is forgotten on both sides, unless a live sampler is on it. -/
lemma Mirrored.reset (mir : Mirrored K f d d') (hn : K n)
    (unsampled : ∀ (i : Nat) (s : MemorySampler), d.samplers[i]? = some s → s.live → s.node ≠ n) :
    Mirrored (fun m => K m ∧ m ≠ n) f (d.reset n) (d'.reset (f n)) := by
  have tree := mir.tree.reset hn
  obtain ⟨nodes, eq, _⟩ := exists_reset (d := d) (n := n)
  obtain ⟨nodes', eq', _⟩ := exists_reset (d := d') (n := f n)
  rw [eq, eq'] at tree ⊢
  have inj (m) (hm : K m) := mir.tree.inj m n hm hn
  refine ⟨tree, ?_, mir.focused.forget inj, mir.samplers.forget unsampled, mir.properties,
    mir.faces, mir.images⟩
  exact mir.observed.erase inj (fun _ hm => hm.1) fun _ hm other => ⟨hm, other⟩

/-- A node in its empty state becomes known to both sides. -/
lemma Mirrored.join (mir : Mirrored K f d d') {n' : NodeId}
    (tree : TreeAs (fun m => K m ∨ m = n) g d₁ d₁')
    (same : ∀ m, K m → g m = f m) (named : g n = n') (new : ¬ K n) (other : ∀ m, K m → f m ≠ n')
    (real : ∃ nodes, d₁ = { d with nodes }) (ref : ∃ nodes, d₁' = { d' with nodes }) :
    Mirrored (fun m => K m ∨ m = n) g d₁ d₁' := by
  obtain ⟨nodes, rfl⟩ := real
  obtain ⟨nodes', rfl⟩ := ref
  exact ⟨tree, mir.observed.join same named new other, mir.focused.join same,
    mir.samplers.join same, mir.properties,
    mir.faces, mir.images⟩

end Documents

end LayeredPage.Proofs
