import LayeredPage.Proofs.Placement
import LayeredPage.Proofs.TwinScenes

/-!
# Recycling cannot be told

Pools hand nodes out again. Nobody can tell from the page: the same patches, on pools that make
every node anew, get the same answers and the same calls to the core, and lead to the same page with
its nodes under other names.
-/

namespace LayeredPage.Proofs

open MemoryDocument

/-- The mount, and what is below it. -/
inductive Shown (d : MemoryDocument) (mount : NodeId) : NodeId → Prop where
  | top : Shown d mount mount
  | under {n p : NodeId} : Shown d mount p → d.parent? n = some p → Shown d mount n

/-- What can be seen of a node: it is shown, observed, focused or sampled. -/
def Visible (d : MemoryDocument) (mount n : NodeId) : Prop :=
  Shown d mount n ∨ n.index ∈ d.observed ∨ d.focused = some n ∨
    ∃ s ∈ d.samplers, s.live ∧ s.node = n

/-- Two documents show the same page in `mount`, its nodes under other names. -/
structure SamePage (mount : NodeId) (f : NodeId → NodeId) (d d' : MemoryDocument) : Prop where
  fixed : f mount = mount
  distinct : ∀ m n, Visible d mount m → Visible d mount n → f m = f n → m = n
  nodes : ∀ n, Shown d mount n → ∃ node, d.node? n = some node ∧
    d'.node? (f n) = some (renamedRecord f node)
  shown : ∀ n', Shown d' mount n' ↔ ∃ n, Shown d mount n ∧ f n = n'
  observed : ∀ n' : NodeId, n'.index ∈ d'.observed ↔ ∃ n, n.index ∈ d.observed ∧ f n = n'
  focused : d'.focused = d.focused.map f
  samplers : d'.samplers.size = d.samplers.size ∧ ∀ (i : Nat) (s : MemorySampler),
    d.samplers[i]? = some s →
    ∃ s', d'.samplers[i]? = some s' ∧ s'.tracker = s.tracker ∧ s'.live = s.live ∧
      s'.interval = s.interval ∧
      (s.live → s'.node = f s.node)
  properties : d'.rootProperties = d.rootProperties
  faces : d'.faces = d.faces
  images : d'.images = d.images

section Pages

variable {K : NodeId → Prop} {f : NodeId → NodeId} {d d' : MemoryDocument} {mount n : NodeId}

lemma TreeAs.below (tree : TreeAs K f d d') {p : NodeId} (hp : K p)
    (parent : d.parent? n = some p) :
    K n ∧ d'.parent? (f n) = some (f p) := by
  obtain ⟨node, found, _, within⟩ := tree.nodes p hp
  have child := (tree.linked n p).2 parent
  rw [children_of_node? found] at child
  have hn := within.2 n child
  obtain ⟨record, here, there, _⟩ := tree.nodes n hn
  rw [parent?_of_node? here] at parent
  refine ⟨hn, ?_⟩
  rw [parent?_of_node? there, renamedRecord, parent, Option.map_some]

lemma TreeAs.shown (tree : TreeAs K f d d') (hm : K mount) (fixed : f mount = mount)
    (shown : Shown d mount n) :
    K n ∧ Shown d' mount (f n) := by
  induction shown with
  | top =>
    rw [fixed]
    exact ⟨hm, .top⟩
  | under _ parent ih =>
    obtain ⟨hn, parent'⟩ := tree.below ih.1 parent
    exact ⟨hn, .under ih.2 parent'⟩

/-- The mirror shows nothing of its own. -/
lemma TreeAs.shown_only (tree : TreeAs K f d d') (hm : K mount)
    (fixed : f mount = mount) {n' : NodeId}
    (shown : Shown d' mount n') : ∃ n, Shown d mount n ∧ f n = n' := by
  induction shown with
  | top => exact ⟨mount, .top, fixed⟩
  | @under n' p' _ parent ih =>
    obtain ⟨p, above, rfl⟩ := ih
    obtain ⟨node, found, found', _⟩ := tree.nodes p (tree.shown hm fixed above).1
    have child := (tree.linked' n' (f p)).2 parent
    rw [children_of_node? found'] at child
    obtain ⟨n, hn, rfl⟩ := List.mem_map.1 child
    rw [← children_of_node? found] at hn
    exact ⟨n, .under above ((tree.linked n p).1 hn), rfl⟩

theorem Mirrored.samePage (mir : Mirrored K f d d') (hm : K mount) (fixed : f mount = mount) :
    SamePage mount f d d' := by
  have visible (n) (hn : Visible d mount n) : K n := by
    rcases hn with shown | observed | focused | ⟨s, hs, live, rfl⟩
    · exact (mir.tree.shown hm fixed shown).1
    · exact mir.observed.known n.index observed
    · exact mir.focused.2 n focused
    · obtain ⟨i, hi⟩ := Array.mem_iff_getElem?.1 hs
      obtain ⟨_, _, _, _, _, node⟩ := mir.samplers.same i s hi
      exact (node live).2
  refine ⟨fixed, fun m n hm hn => mir.tree.inj m n (visible m hm) (visible n hn), fun n hn =>
    ?_, fun n' => ⟨?_, ?_⟩,
    fun n' => ⟨fun there => ?_, ?_⟩, mir.focused.1, ⟨mir.samplers.size, fun i s hs => ?_⟩,
    mir.properties, mir.faces,
    mir.images⟩
  · obtain ⟨node, found, found', _⟩ := mir.tree.nodes n (mir.tree.shown hm fixed hn).1
    exact ⟨node, found, found'⟩
  · exact mir.tree.shown_only hm fixed
  · rintro ⟨n, shown, rfl⟩
    exact (mir.tree.shown hm fixed shown).2
  · obtain ⟨n, hn, named⟩ := mir.observed.named n'.index there
    exact ⟨n, (mir.observed.same n hn).1 (named ▸ there), named⟩
  · rintro ⟨n, observed, rfl⟩
    exact (mir.observed.same n (mir.observed.known n.index observed)).2 observed
  · obtain ⟨s', hs', tracker, live, interval, node⟩ := mir.samplers.same i s hs
    exact ⟨s', hs', tracker, live, interval, fun alive => (node alive).1⟩

end Pages

/-- Two runs that end alike: both with results, related as `post` says, or at the same broken
promise. -/
inductive EndAlike {κ α : Type} (x x' : Except Breach (α × MemoryHost κ))
    (post : α → MemoryHost κ → α → MemoryHost κ → Prop) : Prop where
  | results {a a' : α} {h h' : MemoryHost κ} : x = .ok (a, h) → x' = .ok (a', h') → post a h a' h' →
      EndAlike x x' post
  | broken {b : Breach} : x = .error b → x' = .error b → EndAlike x x' post

/-- Takes over a mount with nodes from these pools, and applies patches one after the other. -/
def session {κ : Type} [Core κ] (pools : NodePools) (mount : NodeId)
    (config : Config) (ps : List Patch) :
    MemoryHost.Step κ (Except PatchError (List (Except PatchError Unit) × Scene)) := do
  match ← MemoryHost.serve (Scene.attachWith pools mount config) with
  | .ok s => return .ok (← play ps s)
  | .error why => return .error why

section Sessions

variable {κ α β : Type} {x x' : Except Breach (α × MemoryHost κ)}
  {post mid : α → MemoryHost κ → α → MemoryHost κ → Prop}

lemma EndAlike.bind {k k' : α × MemoryHost κ → Except Breach (β × MemoryHost κ)}
    {post : β → MemoryHost κ → β → MemoryHost κ → Prop} (first : EndAlike x x' mid)
    (rest : ∀ a h a' h', mid a h a' h' → EndAlike (k (a, h)) (k' (a', h')) post) :
    EndAlike (x.bind k) (x'.bind k') post := by
  cases first with
  | broken run run' =>
    rw [run, run']
    exact .broken rfl rfl
  | results run run' related =>
    rw [run, run']
    exact rest _ _ _ _ related

variable [Core κ] {base : Nat} {mount : NodeId} {f : NodeId → NodeId} {s s' : Scene}
  {h h' : MemoryHost κ} {config : Config}

/-- One patch on two scenes alike; the first stays in order. -/
lemma SceneTwins.patched (twins : SceneTwins base f s s' h h')
    (sound : Sound base mount s h) (p : Patch) :
    EndAlike (MemoryHost.patch (Scene.apply p) s h)
    (MemoryHost.patch (Scene.apply p) s' h') fun r h r' h' =>
      r'.1 = r.1 ∧ Sound base mount r.2 h ∧ Alike base r.2 h r'.2 h' := by
  have run := (twins.apply sound p).with (sound.apply p)
  unfold Sync Ends at run
  revert run
  rcases MemoryHost.patch (Scene.apply p) s h with b | ⟨⟨why | a, s₁⟩, h₁⟩
  · exact fun run => .broken rfl run
  · rintro ⟨s₁', h₁', run, ⟨sound, _⟩, alike⟩
    exact .results rfl run ⟨rfl, sound, alike⟩
  · rintro ⟨_, s₁', h₁', run, sound, alike⟩
    exact .results rfl run ⟨rfl, sound, alike⟩

/-- Any patches on two scenes alike. -/
lemma SceneTwins.play (ps : List Patch) {f : NodeId → NodeId} {s s' : Scene} {h h' : MemoryHost κ}
    (twins : SceneTwins base f s s' h h') (sound : Sound base mount s h) :
    EndAlike (Proofs.play ps s h) (Proofs.play ps s' h') fun r h r' h' =>
      r'.1 = r.1 ∧ Sound base mount r.2 h ∧ Alike base r.2 h r'.2 h' := by
  induction ps generalizing f s s' h h' with
  | nil => exact .results rfl rfl ⟨rfl, sound, f, twins⟩
  | cons p ps ih =>
    refine EndAlike.bind (twins.patched sound p) ?_
    rintro ⟨result, s₁⟩ h₁ ⟨_, s₁'⟩ h₁' ⟨rfl, sound₁, f₁, twins₁⟩
    refine EndAlike.bind (ih twins₁ sound₁) ?_
    rintro ⟨results, s₂⟩ h₂ ⟨_, s₂'⟩ h₂' ⟨rfl, alike⟩
    exact .results rfl rfl ⟨rfl, alike⟩

lemma serve_attach (pools : NodePools) : MemoryHost.serve (Scene.attachWith pools mount config) h =
    (MemoryHost.patch Stage.addLayer (bare pools mount) h).bind fun r =>
      .ok (r.1.1.map fun _ => .ofStage r.1.2 config, r.2) := by
  have itself : Answers (Scene.attachWith pools mount config) h
      (fun r k => MemoryHost.serve (Scene.attachWith pools mount config) h = .ok (r, k))
      (fun b => MemoryHost.serve (Scene.attachWith pools mount config) h = .error b) := by
    unfold Answers
    split <;> assumption
  have ends := (answers_attach pools config _).1 itself
  unfold Ends at ends
  revert ends
  rcases MemoryHost.patch Stage.addLayer
    (bare pools mount) h with b | ⟨⟨why | a, s⟩, k⟩ <;> exact id

/-- A document mirrors itself in the nodes that it issued. -/
lemma Mirrored.start {d : MemoryDocument} (tidy : Tidy d) :
    Mirrored (Known d.nodes.size []) id d d where
  tree := by
    have known {n : NodeId} (issued : d.issued n) : Known d.nodes.size [] n :=
      .inl (of_decide_eq_true issued)
    refine ⟨tidy.linked, tidy.linked, fun _ _ _ _ eq => eq, fun n hn => ?_⟩
    obtain ⟨node, found⟩ := issued_iff.1 (decide_eq_true (hn.resolve_right List.not_mem_nil))
    refine ⟨node, found, ?_, fun p parent => known ?_, fun c child => known ?_⟩
    · rw [id_eq, found]
      simp [renamedRecord]
    · exact tidy.linked.issued_parent ((parent?_of_node? found).trans parent)
    · rw [← children_of_node? found] at child
      exact issued_of_parent? ((tidy.linked c n).1 child)
  observed :=
    ⟨fun _ _ => .rfl, fun i hi => .inl (tidy.observed i hi), fun i hi =>
      ⟨⟨i⟩, .inl (tidy.observed i hi), rfl⟩⟩
  focused := ⟨Option.map_id'.symm, fun n hn => .inl (of_decide_eq_true (tidy.focused n hn))⟩
  samplers := ⟨rfl, fun i s hs => ⟨s, hs, rfl, rfl, rfl, fun live =>
    ⟨rfl, .inl (of_decide_eq_true (tidy.sampled i s hs live))⟩⟩⟩
  properties := rfl
  faces := rfl
  images := rfl

omit [Core κ] in
/-- Two stages without layers, one on pools that recycle and one on pools that do not. -/
lemma StageTwins.start (tidy : Tidy h.document) (there : h.document.issued mount) :
    StageTwins h.document.nodes.size id [] [] (bare .complete mount)
    (bare .disposable mount) h h where
  mount := rfl
  below := of_decide_eq_true there
  layers := by simp [bare]
  containers := rfl
  surfaces _ := .rfl
  twins := by
    refine ⟨.start tidy.linked, ⟨stocked_forAll false, fun kind => ?_⟩, .start tidy, fun _ _ => rfl,
      fun i s hs live => .inl (of_decide_eq_true (tidy.sampled i s hs live)), rfl⟩
    cases kind <;> rfl
  apart p hp := absurd hp List.not_mem_nil

/-- Both runs take over the mount, and hold scenes alike then. -/
lemma attach_alike (tidy : Tidy h.document) (there : h.document.issued mount) (config : Config) :
    EndAlike (MemoryHost.serve (Scene.attachWith .complete mount config) h)
      (MemoryHost.serve (Scene.attachWith .disposable mount config) h) fun r k r' k' => ∃ s s',
      r = .ok s ∧ r' = .ok s' ∧
        Sound h.document.nodes.size mount s k ∧ Alike h.document.nodes.size s k s' k' := by
  have alike :
      Sync Stage.addLayer Stage.addLayer (bare .complete mount) h (bare .disposable mount) h
        (fun _ s k _ s' k' => Staged h.document.nodes.size id [] [] s k s' k')
          fun _ _ _ _ _ => False :=
    (StageTwins.start tidy there).addLayer
  have run := alike.with (Standing.start tidy.linked there).addLayer
  rw [serve_attach, serve_attach]
  unfold Sync Ends at run
  revert run
  rcases MemoryHost.patch Stage.addLayer (bare .complete mount) h with b | ⟨⟨why | a, s⟩, k⟩
  · intro run
    rw [run]
    exact .broken rfl rfl
  · exact fun ⟨_, _, _, no, _⟩ => no.elim
  · rintro ⟨_, s', k', run, ⟨grown, _⟩, f, _, st⟩
    rw [run]
    exact .results rfl rfl ⟨_, _, rfl, rfl, grown.standing.scene, f, st, rfl, rfl, rfl⟩

/-- Recycling cannot be told: on pools that recycle and on pools that make every node anew, all
patches get the same results, the core is called alike, and the page is the same. -/
theorem recycling_unseen (reached : Reached h.document)
    (there : h.document.issued mount) (config : Config) (ps : List Patch) :
    EndAlike (session .complete mount config ps h)
    (session .disposable mount config ps h) fun r k r' k' =>
      r'.map (·.1) = r.map (·.1) ∧ k'.core = k.core ∧ ∃ f,
      SamePage mount f k.document k'.document := by
  refine EndAlike.bind (attach_alike reached.tidy there config) ?_
  rintro _ k _ k' ⟨s, s', rfl, rfl, sound, f, twins⟩
  refine EndAlike.bind (twins.play ps sound) ?_
  rintro ⟨results, s₁⟩ k₁ ⟨_, s₁'⟩ k₁' ⟨rfl, sound₁, f₁, twins₁⟩
  have pools := twins₁.stage.twins
  have below : mount.index < h.document.nodes.size := of_decide_eq_true there
  exact .results rfl rfl
    ⟨rfl, pools.core, f₁, pools.mirrored.samePage (.inl below) (pools.foreign mount below)⟩

/-- Whether both runs accept these patches. -/
def bothAccept (ps : List Patch) : Bool :=
  match session .complete ⟨0⟩ .standard ps blankPage,
    session .disposable ⟨0⟩ .standard ps blankPage with
  | .ok (.ok (rs, _), _), .ok (.ok (rs', _), _) => rs.all (·.isOk) && rs'.all (·.isOk)
  | _, _ => false

/-- A button that goes, and one that comes after it. -/
def succession : List Patch :=
  [.create .button ⟨7, none, 1⟩, .delete .button 7, .create .button ⟨8, none, 0⟩]

theorem recycling_of_a_button : bothAccept succession = true ∧
    EndAlike (session .complete ⟨0⟩ .standard succession blankPage)
      (session .disposable ⟨0⟩ .standard succession blankPage) fun r k r' k' =>
        r'.map (·.1) = r.map (·.1) ∧ k'.core = k.core ∧ ∃ f,
        SamePage ⟨0⟩ f k.document k'.document := by
  refine ⟨by decide +kernel, ?_⟩
  exact recycling_unseen reached_blankPage rfl .standard succession

end Sessions


end LayeredPage.Proofs
