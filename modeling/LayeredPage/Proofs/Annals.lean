import LayeredPage.Proofs.Paths
import LayeredPage.Proofs.Rollback

/-!
# Annals

Patches after a mount with whatever a page replies to them. What a patch does to the table of
elements does not depend on the replies: a new element enters it with nothing noted, an updated one
is as it leaves the bench, a deleted one is gone, a moved one has another depth, and all others
stay.
-/

namespace LayeredPage.Proofs

/-! ## What steps leave alone -/

section Steps

variable {I : Interface} {σ τ ρ α β : Type} {f : σ → ρ}

/-- Whatever is replied, and however the steps end, this is as it was before. -/
def Preserves (f : σ → ρ) (act : Action (Script I) σ α) : Prop :=
  ∀ (s : σ) (log : List (Exchange I)) (r : Except PatchError α) (s' : σ),
    Does act s log r s' → f s' = f s

lemma preserves_pure (a : α) : Preserves f (pure a : Action (Script I) σ α) := by
  intro s log r s' does
  rw [(does_pure.1 does).2.2]

lemma preserves_throw (e : PatchError) : Preserves f (throw e : Action (Script I) σ α) := by
  intro s log r s' does
  rw [(does_throw.1 does).2.2]

lemma preserves_get : Preserves f (get : Action (Script I) σ σ) := by
  intro s log r s' does
  rw [(does_get.1 does).2.2]

lemma preserves_modify {g : σ → σ} (same : ∀ s, f (g s) = f s) :
    Preserves f (modify g : Action (Script I) σ PUnit) := by
  intro s log r s' does
  rw [(does_modify.1 does).2.2, same]

lemma preserves_script (script : Script I α) :
    Preserves f (liftM script : Action (Script I) σ α) := by
  intro s log r s' does
  obtain ⟨_, _, _, rfl⟩ := does_script.1 does
  rfl

lemma does_set {t s s' : σ} {log : List (Exchange I)} {r : Except PatchError PUnit} :
    Does (set t : Action (Script I) σ PUnit) s log r s' ↔ log = [] ∧ r = .ok ⟨⟩ ∧ s' = t := by
  rw [← does_modify (s := s) (f := fun _ => t)]
  rfl

lemma Preserves.bind {act : Action (Script I) σ α} {next : α → Action (Script I) σ β}
    (first : Preserves f act) (rest : ∀ a, Preserves f (next a)) : Preserves f (act >>= next) := by
  intro s log r s' does
  rcases does_bind.1 does with ⟨_, a, s₁, _, one, two, _⟩ | ⟨_, one, _⟩
  · exact (rest a _ _ _ _ two).trans (first _ _ _ _ one)
  · exact first _ _ _ _ one

/-- Steps that preserve something go on with it, or are refused with it. -/
lemma Preserves.step {act : Action (Script I) σ α} {next : α → Action (Script I) σ β} {s s' : σ}
    {log : List (Exchange I)}
    {r : Except PatchError β} {v : ρ} {goal : Prop} (first : Preserves f act) (before : f s = v)
    (does : Does (act >>= next) s log r s') (refused : (∃ why, r = .error why) ∧ f s' = v → goal)
    (rest : ∀ a s₁ done later, Does act s done (.ok a) s₁ → f s₁ = v →
      Does (next a) s₁ later r s' → goal) : goal := by
  rcases does_bind.1 does with ⟨done, a, s₁, later, one, two, _⟩ | ⟨why, one, same⟩
  · exact rest a s₁ done later one ((first _ _ _ _ one).trans before) two
  · exact refused ⟨⟨why, same⟩, (first _ _ _ _ one).trans before⟩

lemma preserves_each {o : Option α} {g : α → Action (Script I) σ Unit}
    (all : ∀ a, Preserves f (g a)) : Preserves f (each o g) := by
  cases o with
  | none => exact preserves_pure ()
  | some a => exact all a

lemma preserves_forM {xs : List α} {g : α → Action (Script I) σ PUnit}
    (all : ∀ a, Preserves f (g a)) : Preserves f (xs.forM g) := by
  induction xs with
  | nil => exact preserves_pure _
  | cons x xs ih => exact (all x).bind fun _ => ih

lemma does_focus {get : σ → τ} {set : τ → σ → σ} {act : Action (Script I) τ α} {s s' : σ}
    {log : List (Exchange I)}
    {r : Except PatchError α} (does : Does (Action.focus get set act) s log r s') :
    ∃ t, Does act (get s) log r t ∧ s' = set t s := by
  have key : Action.focus get set act s = act (get s) >>= fun p => pure (p.1, set p.2 s) := rfl
  unfold Does at does
  rw [key] at does
  obtain ⟨before, ⟨r', t⟩, after, path, done, rfl⟩ := path_bind.1 does
  obtain ⟨rfl, same⟩ := path_pure.1 done
  cases same
  exact ⟨t, by rwa [List.append_nil], rfl⟩

lemma preserves_focus {get : σ → τ} {set : τ → σ → σ} {act : Action (Script I) τ α}
    (same : ∀ s t, f (set t s) = f s) :
    Preserves f (Action.focus get set act) := by
  intro s log r s' does
  obtain ⟨t, _, rfl⟩ := does_focus does
  exact same s t

lemma Preserves.outcome {act : Action (Script I) σ α} (preserves : Preserves f act) :
    Preserves f (Action.outcome act) := by
  intro s log r s' does
  obtain ⟨_, inner, _⟩ := does_outcome.1 does
  exact preserves _ _ _ _ inner

end Steps

/-! ## What an element keeps at the bench -/

section Bench

variable {α : Type} {r : BenchRequest}

/-- Only noting changes the notes, and nothing the kind. -/
lemma preserves_perform (plain : ∀ n, r ≠ .note n) :
    Preserves (fun b : Bench => (b.element.toNotes, b.element.widget)) (Bench.perform r) := by
  have changed {g : Element → Element}
    (same : ∀ e, ((g e).toNotes, (g e).widget) = (e.toNotes, e.widget)) :
      Preserves (fun b : Bench => (b.element.toNotes, b.element.widget)) (Bench.modifyElement g) :=
    preserves_modify fun b => same b.element
  have pooled {α : Type} {act : Work NodePools α} :
      Preserves (fun b : Bench => (b.element.toNotes, b.element.widget)) (Bench.onPools act) :=
    preserves_focus fun _ _ => rfl
  cases r with
  | look => exact preserves_get.bind fun _ => preserves_pure _
  | note n => exact absurd rfl (plain n)
  | addPart =>
    refine pooled.bind fun _ => ?_
    refine preserves_get.bind fun _ => ?_
    refine (preserves_script _).bind fun _ => ?_
    exact (changed (by intro e; rfl)).bind fun _ => preserves_pure _
  | addOption =>
    refine pooled.bind fun node => ?_
    refine preserves_get.bind fun _ => ?_
    refine (preserves_script _).bind fun _ => ?_
    have recorded (i : Nat) : Preserves (fun b : Bench => (b.element.toNotes, b.element.widget)) (do
        Bench.modifyElement fun e => { e with options := e.options ++ [node] }
        return Spot.option i) := (changed (by intro e; rfl)).bind fun _ => preserves_pure _
    split
    · exact (preserves_each fun _ => preserves_script _).bind fun _ => recorded _
    · exact recorded _
  | clearOptions =>
    refine preserves_get.bind fun _ => ?_
    refine (changed (by intro e; rfl)).bind fun _ => ?_
    exact pooled
  | write | html => exact preserves_get.bind fun _ => preserves_script _
  | sample =>
    refine preserves_get.bind fun _ => ?_
    refine (preserves_script _).bind fun _ => ?_
    refine (changed (by intro e; rfl)).bind fun _ => ?_
    exact preserves_each fun _ => preserves_script _
  | resizeRegion width height => exact preserves_modify (by intro b; rfl)
  | useFont => exact (preserves_focus (by intro b fonts; rfl)).bind fun _ => preserves_pure _

lemma preserves_widget (r : BenchRequest) : Preserves (·.element.widget) (Bench.perform r) := by
  intro b log x b' does
  by_cases plain : ∀ n, r ≠ .note n
  · exact congrArg Prod.snd (preserves_perform plain _ _ _ _ does)
  · simp only [not_forall, not_not] at plain
    obtain ⟨n, rfl⟩ := plain
    rw [(does_modify.1 does).2.2]

lemma preserves_carryOut {ρ : Type} {f : Bench → ρ} {allowed : BenchRequest → Prop}
    {craft : Craft α} (uses : Uses allowed craft)
    (all : ∀ r, allowed r → Preserves f (Bench.perform r)) :
    Preserves f (Bench.carryOut craft) := by
  induction craft with
  | done a => exact preserves_pure a
  | ask r next ih => exact (all r uses.1).bind fun reply => ih reply (uses.2 reply)
  | broken why => exact uses.elim

end Bench

/-! ## On the scene -/

section Scenes

variable {s s' : Scene} {log : List (Exchange Patching)} {id : UInt32} {widget : Widget}

lemma does_lookup {r : Except PatchError Element}
    (does : Does (Scene.lookup id widget) s log r s') :
    log = [] ∧ s' = s ∧ ∀ e, r = .ok e → s.elements[id]? = some e ∧ e.widget = widget := by
  unfold Scene.lookup at does
  have does := does_get_bind.1 does
  cases found : s.elements[id]? with
  | none =>
    simp only [found] at does
    obtain ⟨rfl, rfl, rfl⟩ := does_throw.1 does
    exact ⟨rfl, rfl, fun _ same => by cases same⟩
  | some e =>
    simp only [found] at does
    split at does
    · next kind =>
      obtain ⟨rfl, rfl, rfl⟩ := does_pure.1 does
      refine ⟨rfl, rfl, ?_⟩
      rintro _ ⟨⟩
      exact ⟨rfl, kind⟩
    · obtain ⟨rfl, rfl, rfl⟩ := does_throw.1 does
      exact ⟨rfl, rfl, fun _ same => by cases same⟩

lemma does_atBench {e : Element} {craft : Craft Unit}
    {r : Except PatchError (Except PatchError Unit × Element)}
    (does : Does (Scene.atBench e craft) s log r s') :
    ∃ y b, Does (Bench.carryOut craft) ⟨s.pools, s.fonts, e⟩ log y b ∧ r = .ok (y, b.element) ∧
      s'.elements = s.elements := by
  obtain ⟨before, ⟨y, b⟩, after, path, done, rfl⟩ := path_bind.1 does
  obtain ⟨rfl, same⟩ := path_pure.1 done
  cases same
  exact ⟨y, b, by rwa [List.append_nil], rfl, rfl⟩

lemma does_update {change : Change} {r : Except PatchError Unit}
    (does : Does (Scene.update id change) s log r s') :
    (s' = s ∧ ∃ why, r = .error why) ∨ ∃ e b, s.elements[id]? = some e ∧ e.widget = change.widget ∧
      Does (Bench.carryOut (Craft.update id change)) ⟨s.pools, s.fonts, e⟩ log r b ∧
      s'.elements = s.elements.insert id b.element := by
  rcases does_bind.1 does with ⟨_, e, s₁, rest, first, second, rfl⟩ | ⟨why, first, same⟩
  · obtain ⟨rfl, rfl, known⟩ := does_lookup first
    obtain ⟨found, kind⟩ := known e rfl
    rcases does_bind.1 second with ⟨worked, p, s₂, rest, bench, finish, rfl⟩ | ⟨why, bench, _⟩
    · obtain ⟨y, b, inner, same, elements⟩ := does_atBench bench
      cases same
      refine .inr ⟨e, b, found, kind, ?_⟩
      rcases does_bind.1 finish with ⟨_, _, s₃, _, put, last, rfl⟩ | ⟨_, put, _⟩
      · obtain ⟨rfl, _, rfl⟩ := does_modify.1 put
        cases y with
        | ok _ =>
          obtain ⟨rfl, rfl, rfl⟩ := does_pure.1 last
          refine ⟨by simpa using inner, by rw [elements]⟩
        | error why =>
          obtain ⟨rfl, rfl, rfl⟩ := does_throw.1 last
          refine ⟨by simpa using inner, by rw [elements]⟩
      · obtain ⟨_, same, _⟩ := does_modify.1 put
        cases same
    · obtain ⟨_, _, _, same, _⟩ := does_atBench bench
      cases same
  · exact .inl ⟨(does_lookup first).2.1, why, same⟩

lemma preserves_onStage {α : Type} (act : Work Stage α) :
    Preserves Scene.elements (Scene.onStage act) := preserves_focus fun _ _ => rfl

lemma preserves_atBench (e : Element) (craft : Craft Unit) :
    Preserves Scene.elements (Scene.atBench e craft) := by
  intro s log r s' does
  obtain ⟨_, _, _, _, elements⟩ := does_atBench does
  exact elements

lemma preserves_ask {ρ : Type} {f : Scene → ρ} (r : DocumentRequest) :
    Preserves f (liftM (ask r) : Work Scene r.Reply) := preserves_script _

lemma preserves_release (e : Element) : Preserves Scene.elements (Scene.release e) := by
  have rest : Preserves Scene.elements (do
      each e.scroll fun r => (ask (.cancelSampler r.sampler) : Script Patching Unit)
      Scene.onPools do
        Bench.giveBack e.options
        Bench.giveBack e.parts
        Pools.put e.leaf.kind e.leaf : Work Scene Unit) :=
    (preserves_each fun _ => preserves_script _).bind fun _ => preserves_onStage _
  unfold Scene.release
  split
  · exact (preserves_script _).bind fun _ => rest
  · exact rest

/-- A new element has noted nothing. -/
lemma does_create {c : Creation} {r : Except PatchError Unit}
    (does : Does (Scene.create widget c) s log r s') :
    ((∃ why, r = .error why) ∧ s'.elements = s.elements) ∨
      ∃ e, e.toNotes = .blank ∧ r = .ok () ∧ s'.elements = s.elements.insert c.id e := by
  unfold Scene.create at does
  have does := does_get_bind.1 does
  extract_lets raised at does
  split at does
  · refine (preserves_throw _).step rfl does .inl fun _ _ _ _ thrown _ _ => ?_
    obtain ⟨_, same, _⟩ := does_throw.1 thrown
    cases same
  · refine (preserves_onStage _).step rfl does .inl fun leaf _ _ _ _ kept does => ?_
    refine (preserves_ask _).step kept does .inl fun _ _ _ _ _ kept does => ?_
    refine (preserves_ask _).step kept does .inl fun _ s₁ _ _ _ kept does => ?_
    refine (preserves_atBench _ _).step kept (does_get_bind.1 does) .inl ?_
    rintro ⟨built, e⟩ _ _ _ bench kept does
    have blank : e.toNotes = .blank := by
      obtain ⟨_, b, built, same, _⟩ := does_atBench bench
      cases same
      have plain (r : BenchRequest) (raises : Raises r) :=
        preserves_perform (r := r) fun n same => by
        rw [same] at raises
        exact raises
      exact congrArg Prod.fst
        (preserves_carryOut (raises_build s₁.config c.id widget) plain _ _ _ _ built)
    have placing : Preserves Scene.elements (do
        Scene.create.liftExcept built
        Scene.onStage (Stage.addElement leaf.id c.frame c.layer)) := by
      refine Preserves.bind ?_ fun _ => preserves_onStage _
      cases built with
      | ok u => exact preserves_pure u
      | error why => exact preserves_throw why
    refine placing.outcome.step kept does .inl fun placed _ _ _ _ kept does => ?_
    cases placed with
    | ok _ =>
      obtain ⟨rfl, rfl, rfl⟩ := does_modify.1 does
      exact .inr ⟨e, blank, rfl, by rw [kept]⟩
    | error why =>
      refine (preserves_release e).step kept does .inl fun _ _ _ _ _ kept thrown => ?_
      obtain ⟨_, rfl, rfl⟩ := does_throw.1 thrown
      exact .inl ⟨⟨why, rfl⟩, kept⟩

/-- All elements are from before, and have noted at most another depth since. -/
def Stems (s s' : Scene) : Prop :=
  ∀ (id : UInt32) (e' : Element), s'.elements[id]? = some e' → ∃ e, s.elements[id]? = some e ∧
    e'.widget = e.widget ∧
    e'.toNotes = { e.toNotes with tabIndex := e'.tabIndex }

lemma Stems.of_elements (same : s'.elements = s.elements) : Stems s s' := by
  intro id e found
  exact ⟨e, by rw [← same]; exact found, rfl, rfl⟩

lemma Stems.erase (same : s'.elements = s.elements.erase id) : Stems s s' := by
  intro j e found
  rw [same, Std.ExtTreeMap.getElem?_erase] at found
  split at found
  · cases found
  · exact ⟨e, found, rfl, rfl⟩

lemma does_delete {r : Except PatchError Unit} (does : Does (Scene.delete widget id) s log r s') :
    Stems s s' := by
  rcases does_bind.1 does with ⟨_, e, s₁, _, first, second, _⟩ | ⟨_, first, _⟩
  · obtain ⟨_, rfl, _⟩ := does_lookup first
    rcases does_bind.1 second with ⟨_, _, s₂, _, gone, back, _⟩ | ⟨_, gone, _⟩
    · obtain ⟨_, _, rfl⟩ := does_modify.1 gone
      exact .erase (preserves_release e _ _ _ _ back)
    · obtain ⟨_, same, _⟩ := does_modify.1 gone
      cases same
  · exact .of_elements (by rw [(does_lookup first).2.1])

lemma does_restack {layer depth : UInt32} {r : Except PatchError Unit}
    (does : Does (Scene.restack id layer depth) s log r s') :
    Stems s s' := by
  unfold Scene.restack at does
  have does := does_get_bind.1 does
  cases found : s.elements[id]? with
  | none =>
    simp only [found] at does
    exact .of_elements (by rw [(does_throw.1 does).2.2])
  | some e =>
    simp only [found] at does
    refine (preserves_onStage _).step rfl does (fun refused => .of_elements refused.2)
      fun _ s₁ _ _ _ kept does => ?_
    have does := does_get_bind.1 does
    cases tab : Scene.tabIndex? s₁.config depth with
    | none =>
      simp only [tab] at does
      obtain ⟨_, path, _⟩ := does_script.1 does
      cases path
    | some tab' =>
      simp only [tab] at does
      rcases does_bind.1 does with ⟨_, _, s₂, _, put, rest, _⟩ | ⟨_, put, _⟩
      · obtain ⟨_, _, rfl⟩ := does_modify.1 put
        have later (node : NodeId) (controls : List OwnedNode) : Preserves Scene.elements (do
            ask (.setStyle node "z-index" (toString depth))
            controls.forM fun node =>
              (ask (.setAttribute node.id "tabindex" (toString tab')) : Script Patching Unit) :
              Work Scene Unit) :=
          (preserves_ask _).bind fun _ => preserves_forM fun _ => preserves_ask _
        intro j x there
        rw [later _ _ _ _ _ _ rest] at there
        by_cases here : j = id
        · subst here
          rw [Std.ExtTreeMap.getElem?_insert_self, Option.some_inj] at there
          exact ⟨e, found, by rw [← there], by rw [← there]⟩
        · rw [getElem?_insert_of_ne here, kept] at there
          exact ⟨x, there, rfl, rfl⟩
      · obtain ⟨_, same, _⟩ := does_modify.1 put
        cases same

lemma preserves_loadImage (id : UInt32) (path : String) :
    Preserves Scene.elements (Scene.loadImage id path) := by
  refine (preserves_script _).bind fun loaded => ?_
  split
  · exact preserves_get.bind fun _ => preserves_script _
  · exact preserves_pure _

end Scenes

/-! ## Runs of patches -/

/-- Patches after a mount, with what became of them, whatever was replied; latest first. -/
inductive Annals (mount : NodeId) (config : Config) : Log → Scene → Prop where
  | attached {exchanges : List (Exchange Patching)} {s : Scene} :
    Path (Scene.attach mount config) exchanges (.ok s) →
      Annals mount config [] s
  | patched {log : Log} {s s' : Scene} {exchanges : List (Exchange Patching)} {p : Patch}
    {result : Except PatchError Unit} :
      Annals mount config log s → Does (Scene.apply p) s exchanges result s' →
      Annals mount config ((p, result) :: log) s'

section Runs

variable {κ : Type} [Core κ] {mount : NodeId} {config : Config} {h₀ h h' : MemoryHost κ}
  {log : Log} {s s' : Scene} {requests : List PatchRequest}

lemma does_of_patch {act : Work Scene Unit} {r : Except PatchError Unit}
    (run : MemoryHost.patch act s h = .ok ((r, s'), h')) :
    ∃ exchanges, Does act s exchanges r s' := by
  obtain ⟨added, noted⟩ := exists_noted run []
  obtain ⟨_, _, path⟩ := path_of_noted noted
  exact ⟨_, path⟩

/-- What happens in memory may happen anywhere. -/
lemma Chronicle.annals (chronicle : Chronicle mount config h₀ log s h) :
    Annals mount config log s := by
  induction chronicle with
  | attached run =>
    obtain ⟨added, noted⟩ := exists_noted run []
    obtain ⟨_, _, path⟩ := path_of_noted noted
    exact .attached path
  | patched _ run annals =>
    obtain ⟨_, does⟩ := does_of_patch run
    exact annals.patched does

/-- The log that patches lead to in memory, and what one more accepted patch asks for. -/
def asked (ps : List Patch) (p : Patch) : Option (Log × List PatchRequest) :=
  match MemoryHost.serve (κ := Recorder) (Scene.attach ⟨0⟩ .standard) blankPage with
  | .ok (.ok s, h) =>
    match play ps s h with
    | .ok ((results, s), h) =>
      match Script.run (noting MemoryHost.answerPatch) (Scene.apply p s) (h, []) with
      | .ok ((.ok _, _), _, exchanges) => some ((ps.zip results).reverse, exchanges.map Sigma.fst)
      | _ => none
    | .error _ => none
  | _ => none

lemma exists_annals_of_asked {ps : List Patch} {p : Patch}
    (run : asked ps p = some (log, requests)) :
    ∃ s s' exchanges, Annals ⟨0⟩ .standard log s ∧ Does (Scene.apply p) s exchanges (.ok ()) s' ∧
      exchanges.map Sigma.fst = requests := by
  unfold asked at run
  split at run
  · next start =>
    split at run
    · next played =>
      split at run
      · next noted =>
        cases run
        have chronicle := (Chronicle.attached start).play played
        rw [List.append_nil] at chronicle
        obtain ⟨_, same, path⟩ := path_of_noted noted
        exact ⟨_, _, _, chronicle.annals, path, by rw [same]; rfl⟩
      · cases run
    · cases run
  · cases run


end Runs

end LayeredPage.Proofs
