import LayeredPage.Proofs.Placement
import LayeredPage.Proofs.Sparing

/-!
# Which patches are accepted

Whether a patch is accepted depends on the patches before it that were: an element lives from its
creation to its deletion, a frame is registered from its creation to its deletion, and every patch
is about one of them. A patch that names the wrong one changes nothing at all.
-/

namespace LayeredPage.Proofs

/-- Patches with their results, latest first. -/
abbrev Log := List (Patch × Except PatchError Unit)

/-- The kind of the element that lives under an id, by the creations and deletions that were
accepted. -/
def live : Log → UInt32 → Option Widget
  | [], _ => none
  | (.create widget c, .ok _) :: past, id => if id = c.id then some widget else live past id
  | (.delete _ gone, .ok _) :: past, id => if id = gone then none else live past id
  | _ :: past, id => live past id

/-- Whether a frame is registered under an id, by the creations and deletions that were accepted. -/
def registered : Log → UInt32 → Bool
  | [], _ => false
  | (.createFrame c, .ok _) :: past, id => id = c.id || registered past id
  | (.deleteFrame gone, .ok _) :: past, id => id ≠ gone && registered past id
  | _ :: past, id => registered past id

/-- A history with its log. -/
inductive Chronicle {κ : Type} [Core κ] (mount : NodeId) (config : Config) (h₀ : MemoryHost κ) :
    Log → Scene → MemoryHost κ → Prop where
  | attached {s : Scene} {h : MemoryHost κ} :
    MemoryHost.serve (Scene.attach mount config) h₀ = .ok (.ok s, h) →
      Chronicle mount config h₀ [] s h
  | patched {log : Log} {s s' : Scene} {h h' : MemoryHost κ} {p : Patch}
    {result : Except PatchError Unit} :
      Chronicle mount config h₀ log s h → MemoryHost.patch (Scene.apply p) s h =
        .ok ((result, s'), h') →
      Chronicle mount config h₀ ((p, result) :: log) s' h'

section Chronicles

variable {κ : Type} [Core κ] {mount : NodeId} {config : Config} {h₀ h h' : MemoryHost κ}
  {s s' : Scene} {log : Log}

lemma Chronicle.history (chronicle : Chronicle mount config h₀ log s h) :
    History mount config h₀ s h := by
  induction chronicle with
  | attached run => exact .attached run
  | patched _ run history => exact history.patched run

/-- A scene holds the elements and frames that its log accounts for. -/
structure Accounts (log : Log) (s : Scene) : Prop where
  elements : ∀ id : UInt32, s.elements[id]?.map Element.widget = live log id
  frames : ∀ id, s.containers.contains id = registered log id

variable {base : Nat} {id j : UInt32} {p : Patch} {why : PatchError}

lemma live_refused : live ((p, .error why) :: log) = live log := by
  cases p <;> rfl

lemma registered_refused : registered ((p, .error why) :: log) = registered log := by
  cases p <;> rfl

lemma kind_insert (elements : Std.ExtTreeMap UInt32 Element) (e : Element) :
    (elements.insert id e)[j]?.map Element.widget = if j =
      id then some e.widget else elements[j]?.map Element.widget := by
  rw [getElem?_insert_eq]
  split <;> rfl

lemma kind_erase (elements : Std.ExtTreeMap UInt32 Element) :
    (elements.erase id)[j]?.map Element.widget = if j =
      id then none else elements[j]?.map Element.widget := by
  rw [Std.ExtTreeMap.getElem?_erase]
  by_cases same : j = id
  · simp [same]
  · simp [same, Ne.symm same]

lemma contains_insert_eq (containers : Std.ExtTreeMap UInt32 Container) (c : Container) :
    (containers.insert id c).contains j = (decide (j = id) || containers.contains j) := by
  rw [Std.ExtTreeMap.contains_insert]
  by_cases same : j = id
  · simp [same]
  · simp [same, Ne.symm same]

lemma contains_erase_eq (containers : Std.ExtTreeMap UInt32 Container) :
    (containers.erase id).contains j = (decide (j ≠ id) && containers.contains j) := by
  rw [Std.ExtTreeMap.contains_erase]
  by_cases same : j = id
  · simp [same]
  · simp [same, Ne.symm same]

lemma Accounts.refused (a : Accounts log s) (elements : s'.elements = s.elements)
    (frames : s'.containers = s.containers) :
    Accounts ((p, .error why) :: log) s' := by
  refine ⟨fun id => ?_, fun id => ?_⟩
  · rw [live_refused, elements]
    exact a.elements id
  · rw [registered_refused, frames]
    exact a.frames id

/-- An element that keeps its kind may change otherwise. -/
lemma Accounts.replaced (a : Accounts log s) {e e' : Element} (found : s.elements[id]? = some e)
    (kind : e'.widget = e.widget) (elements : s'.elements = s.elements.insert id e') (j : UInt32) :
    s'.elements[j]?.map Element.widget = live log j := by
  rw [elements, kind_insert]
  split
  · next here =>
      rw [← a.elements, here, found, kind]
      rfl
  · exact a.elements j

/-- The log accounts for one more patch, whatever became of it. -/
theorem Accounts.apply (a : Accounts log s) (sound : Sound base mount s h) (p : Patch) :
    Ends (Scene.apply p) s h (fun _ s' _ => Accounts ((p, .ok ()) :: log) s')
      (fun why s' _ => Accounts ((p, .error why) :: log) s') fun _ => True := by
  have kept {s' : Scene} (same : listed s' = listed s) (id : UInt32) :
      s'.containers.contains id = registered log id := by
    rw [← a.frames]
    exact congrArg (·.contains id) same
  cases p with
  | create widget c =>
    refine ((sound.create widget c).and (offstage_listed.create widget c κ s h)).mono ?_
      ?_ fun _ _ => trivial
    · rintro _ s' h' ⟨⟨_, _, e, kind, elements⟩, same⟩
      refine ⟨fun j => ?_, kept same⟩
      rw [elements, kind_insert, kind, a.elements]
      rfl
    · rintro why s' h' ⟨⟨_, elements, _⟩, same⟩
      exact a.refused elements same
  | update id change =>
    refine ((sound.update id change).and (offstage_listed.update id change κ s h)).mono ?_
      ?_ fun _ _ => trivial
    · rintro _ s' h' ⟨⟨_, e, e', found, kind, kind', elements⟩, same⟩
      exact ⟨a.replaced found (kind'.trans kind.symm) elements, kept same⟩
    · rintro why s' h' ⟨⟨rfl, _⟩, _⟩
      exact a.refused rfl rfl
  | delete widget id =>
    refine ((sound.delete widget id).and (offstage_listed.delete widget id κ s h)).mono ?_
      ?_ fun _ _ => trivial
    · rintro _ s' h' ⟨⟨_, _, elements⟩, same⟩
      refine ⟨fun j => ?_, kept same⟩
      rw [elements, kind_erase, a.elements]
      rfl
    · rintro why s' h' ⟨⟨rfl, _⟩, _⟩
      exact a.refused rfl rfl
  | restack id layer depth =>
    refine ((sound.restack id layer depth).and (offstage_listed.restack id layer depth κ s h)).mono
      ?_ ?_ fun _ _ => trivial
    · rintro _ s' h' ⟨⟨_, e, tab, found, elements⟩, same⟩
      have kind : Element.widget { e with layer, tabIndex := some tab } = e.widget := rfl
      exact ⟨a.replaced found kind elements, kept same⟩
    · rintro why s' h' ⟨⟨rfl, _⟩, _⟩
      exact a.refused rfl rfl
  | createFrame c =>
    refine (sound.createFrame c.id c.frame).mono ?_ ?_ fun _ _ => trivial
    · rintro _ s' h' ⟨_, elements, containers, _⟩
      refine ⟨fun j => ?_, fun j => ?_⟩
      · rw [elements]
        exact a.elements j
      · rw [containers, contains_insert_eq, a.frames]
        rfl
    · rintro why s' h' ⟨rfl, _⟩
      exact a.refused rfl rfl
  | updateFrame id g =>
    refine (sound.updateFrame id g).mono ?_ ?_ fun _ _ => trivial
    · rintro _ s' h' ⟨_, elements, c, found, containers⟩
      refine ⟨fun j => ?_, fun j => ?_⟩
      · rw [elements]
        exact a.elements j
      · have known : s.containers.contains id := by
          rw [Std.ExtTreeMap.contains_eq_isSome_getElem?, found]; rfl
        rw [containers, contains_insert_eq]
        refine Eq.trans ?_ (a.frames j)
        by_cases here : j = id
        · rw [here, known, Bool.or_true]
        · simp [here]
    · rintro why s' h' ⟨rfl, _⟩
      exact a.refused rfl rfl
  | deleteFrame id =>
    refine (sound.deleteFrame id).mono ?_ ?_ fun _ _ => trivial
    · rintro _ s' h' ⟨_, elements, _, containers⟩
      refine ⟨fun j => ?_, fun j => ?_⟩
      · rw [elements]
        exact a.elements j
      · rw [containers, contains_erase_eq, a.frames]
        rfl
    · rintro why s' h' ⟨rfl, _⟩
      exact a.refused rfl rfl
  | loadImage id path =>
    refine (sound.loadImage id path).ends ?_
    rintro _ s' h' ⟨_, rfl⟩
    exact ⟨a.elements, a.frames⟩

lemma accounts_attached (run : MemoryHost.serve (Scene.attach mount config) h₀ = .ok (.ok s, h)) :
    Accounts [] s := by
  have empty : Answers (Scene.attach mount config) h₀
      (fun r _ => ∀ s, r = .ok s → s.elements = ∅ ∧ s.containers = ∅) fun _ => True := by
    refine (answers_attach _ _ _).2 ((spares_addLayer κ _ _).mono ?_ ?_ fun _ _ => trivial)
    · rintro _ stage h₁ same _ ⟨⟩
      exact ⟨rfl, same⟩
    · rintro _ _ _ _ _ ⟨⟩
  unfold Answers at empty
  rw [run] at empty
  obtain ⟨elements, containers⟩ := empty s rfl
  refine ⟨fun id => ?_, fun id => ?_⟩
  · rw [elements]
    simp [live]
  · rw [containers]
    simp [registered]

/-- The log of a run accounts for what its scene holds. -/
theorem Chronicle.accounts (chronicle : Chronicle mount config h₀ log s h)
    (linked : Linked h₀.document) (there : h₀.document.issued mount) : Accounts log s := by
  induction chronicle with
  | attached run => exact accounts_attached run
  | @patched log s s' h h' p result before run a =>
    have applied := a.apply (before.history.sound linked there) p
    unfold Ends at applied
    rw [run] at applied
    cases result with
    | ok => exact applied
    | error why => exact applied

end Chronicles

/-! ## Accepted and refused -/

section Verdicts

variable {κ : Type} [Core κ] {mount : NodeId} {config : Config} {h₀ h : MemoryHost κ}
  {s : Scene} {log : Log} {p : Patch} {why : PatchError} {holds : Prop}

/-- The patch is applied. -/
def Accepts (p : Patch) (s : Scene) (h : MemoryHost κ) : Prop :=
  ∃ s' h', MemoryHost.patch (Scene.apply p) s h = .ok ((.ok (), s'), h')

/-- The patch is refused for this reason. -/
def Refuses (p : Patch) (why : PatchError) (s : Scene) (h : MemoryHost κ) : Prop :=
  ∃ s' h', MemoryHost.patch (Scene.apply p) s h = .ok ((.error why, s'), h')

/-- The id and the kind of the element that a patch is meant for, if it needs one. -/
def addressed : Patch → Option (UInt32 × Widget)
  | .update id change => some (id, change.widget)
  | .delete widget id => some (id, widget)
  | _ => none

/-- The frame that a patch works on, if it needs one. -/
def framed : Patch → Option UInt32
  | .updateFrame id _ | .deleteFrame id => some id
  | _ => none

/-- Refusals that come before anything is touched. -/
def Untouched (p : Patch) : PatchError → Prop
  | .unknownElement _ | .duplicateElement _ | .kindMismatch .. | .duplicateContainer _
    | .containerInUse .. => True
  | .unknownContainer _ => (∃ c, p = .createFrame c) ∨ (framed p).isSome
  | _ => False

lemma accepts_iff
    (run : Ends (Scene.apply p) s h (fun _ _ _ => holds) (fun _ _ _ => ¬ holds) fun _ => ¬ holds) :
    Accepts p s h ↔ holds := by
  unfold Ends at run
  unfold Accepts
  revert run
  rcases MemoryHost.patch (Scene.apply p) s h with b | ⟨⟨e | a, s'⟩, h'⟩
  · exact fun run => iff_of_false (by simp) run
  · exact fun run => iff_of_false (by simp) run
  · exact fun run => iff_of_true ⟨s', h', rfl⟩ run

lemma refuses_iff (run : Ends (Scene.apply p) s h (fun _ _ _ => ¬ holds)
    (fun e _ _ => e = why ↔ holds) fun _ => ¬ holds) :
    Refuses p why s h ↔ holds := by
  unfold Ends at run
  unfold Refuses
  revert run
  rcases MemoryHost.patch (Scene.apply p) s h with b | ⟨⟨e | a, s'⟩, h'⟩
  · exact fun run => iff_of_false (by simp) run
  · intro same
    refine Iff.trans ⟨?_, ?_⟩ same
    · rintro ⟨_, _, run⟩
      cases run
      rfl
    · rintro rfl
      exact ⟨s', h', rfl⟩
  · exact fun run => iff_of_false (by simp) run

variable {base : Nat} {id i : UInt32} {widget : Widget}

lemma Accounts.missing (a : Accounts log s) : Missing s.elements id widget why ↔
    live log id = none ∧ why = .unknownElement id ∨
      ∃ other, live log id = some other ∧ other ≠ widget ∧ why = .kindMismatch id widget other := by
  unfold Missing
  rw [← a.elements]
  cases s.elements[id]? <;> simp

/-- A patch that is meant for an element is applied if it finds it, and refused otherwise without a
trace. -/
lemma Sound.addressed (sound : Sound base mount s h) (meant : addressed p = some (id, widget)) :
    Ends (Scene.apply p) s h (fun _ _ _ => ∃ e, s.elements[id]? = some e ∧ e.widget = widget)
      (fun why s' h' => s' = s ∧ h' = h ∧ Missing s.elements id widget why) fun _ => False := by
  cases p with
  | update _ change =>
    cases meant
    refine (sound.update id change).mono ?_ (fun _ _ _ missing => missing) fun _ => False.elim
    exact fun _ _ _ ⟨_, e, _, found, kind, _⟩ => ⟨e, found, kind⟩
  | delete _ _ =>
    cases meant
    exact (sound.delete widget id).mono (fun _ _ _ done => done.2.1)
      (fun _ _ _ missing => missing) fun _ => False.elim
  | create | restack | createFrame | updateFrame | deleteFrame | loadImage => cases meant

/-- The same for a patch that works on a frame. -/
lemma Sound.framed (sound : Sound base mount s h) (meant : framed p = some id) :
    Ends (Scene.apply p) s h (fun _ _ _ => s.containers.contains id)
      (fun why s' h' => s' = s ∧ h' = h ∧
        (s.containers.contains id = false ∧ why = .unknownContainer id ∨
          s.containers.contains id ∧ ∃ count, why = .containerInUse id count)) fun _ => False := by
  cases p with
  | updateFrame _ g =>
    cases meant
    refine (sound.updateFrame id g).mono ?_ ?_ fun _ => False.elim
    · rintro _ _ _ ⟨_, _, c, found, _⟩
      rw [Std.ExtTreeMap.contains_eq_isSome_getElem?, found]
      rfl
    · rintro why _ _ ⟨rfl, rfl, gone, rfl⟩
      refine ⟨rfl, rfl, .inl ⟨?_, rfl⟩⟩
      rw [Std.ExtTreeMap.contains_eq_isSome_getElem?, gone]
      rfl
  | deleteFrame _ =>
    cases meant
    exact (sound.deleteFrame id).mono (fun _ _ _ done => done.2.2.1) (fun _ _ _ why => why) fun _ =>
      False.elim
  | create | update | delete | restack | createFrame | loadImage => cases meant

lemma Accounts.addressed_accepted (a : Accounts log s) (sound : Sound base mount s h)
    (meant : addressed p = some (id, widget)) : Accepts p s h ↔ live log id = some widget := by
  refine accepts_iff ((sound.addressed meant).mono ?_ ?_ fun _ => False.elim)
  · rintro _ _ _ ⟨e, found, rfl⟩
    rw [← a.elements, found]
    rfl
  · rintro why _ _ ⟨_, _, missing⟩ there
    rcases a.missing.1 missing with ⟨gone, _⟩ | ⟨other, there', apart, _⟩
    · simp [there] at gone
    · simp [there, Ne.symm apart] at there'

lemma Accounts.addressed_unknown (a : Accounts log s) (sound : Sound base mount s h)
    (meant : addressed p = some (id, widget)) : Refuses p (.unknownElement i) s h ↔ i = id ∧
    live log id = none := by
  refine refuses_iff ((sound.addressed meant).mono ?_ ?_ fun _ => False.elim)
  · rintro _ _ _ ⟨e, found, rfl⟩ ⟨_, gone⟩
    rw [← a.elements, found] at gone
    cases gone
  · rintro why _ _ ⟨_, _, missing⟩
    rcases a.missing.1 missing with ⟨gone, rfl⟩ | ⟨other, there, _, rfl⟩
    · simp [gone, eq_comm]
    · simp [there]

lemma Accounts.addressed_mismatch (a : Accounts log s) (sound : Sound base mount s h)
    (meant : addressed p = some (id, widget)) (expected actual : Widget) :
    Refuses p (.kindMismatch i expected actual) s h ↔
      i = id ∧ expected = widget ∧ live log id = some actual ∧ actual ≠ widget := by
  refine refuses_iff ((sound.addressed meant).mono ?_ ?_ fun _ => False.elim)
  · rintro _ _ _ ⟨e, found, rfl⟩ ⟨_, _, there, apart⟩
    rw [← a.elements, found] at there
    cases there
    exact apart rfl
  · rintro why _ _ ⟨_, _, missing⟩
    rcases a.missing.1 missing with ⟨gone, rfl⟩ | ⟨other, there, apart, rfl⟩
    · simp [gone]
    · simp only [there, PatchError.kindMismatch.injEq, Option.some.injEq]
      constructor
      · rintro ⟨rfl, rfl, rfl⟩
        exact ⟨rfl, rfl, rfl, apart⟩
      · rintro ⟨rfl, rfl, rfl, _⟩
        exact ⟨rfl, rfl, rfl⟩

lemma Accounts.restack_unknown (a : Accounts log s) (sound : Sound base mount s h)
    (layer depth : UInt32) :
    Refuses (.restack id layer depth) (.unknownElement i) s h ↔ i = id ∧ live log id = none := by
  refine refuses_iff ((sound.restack id layer depth).mono ?_ ?_ ?_)
  · rintro _ _ _ ⟨_, e, _, found, _⟩ ⟨_, gone⟩
    rw [← a.elements, found] at gone
    cases gone
  · rintro why _ _ ⟨_, _, rfl, gone⟩
    have none : live log id = none := by rw [← a.elements, gone]; rfl
    simp [none, eq_comm]
  · rintro _ ⟨there, _⟩ ⟨_, gone⟩
    rw [← a.elements, Option.map_eq_none_iff] at gone
    simp [gone] at there

lemma Accounts.create_duplicate (a : Accounts log s) (sound : Sound base mount s h) (c : Creation) :
    Refuses (.create widget c) (.duplicateElement i) s h ↔ i = c.id ∧ (live log c.id).isSome := by
  have same : (live log c.id).isSome = s.elements[c.id]?.isSome := by
    rw [← a.elements, Option.isSome_map]
  rw [same]
  refine refuses_iff ((sound.create widget c).mono ?_ ?_ ?_)
  · rintro _ _ _ ⟨_, new, _⟩
    simp [new]
  · rintro why _ _ ⟨_, _, ⟨there, rfl, _⟩ | ⟨new, x, rfl⟩⟩
    · simp [there, eq_comm]
    · simp [new]
  · rintro _ new
    simp [new]

lemma Accounts.createFrame_duplicate (a : Accounts log s)
    (sound : Sound base mount s h) (c : Creation) :
    Refuses (.createFrame c) (.duplicateContainer i) s h ↔ i = c.id ∧ registered log c.id := by
  rw [← a.frames]
  refine refuses_iff ((sound.createFrame c.id c.frame).mono ?_ ?_ fun _ => False.elim)
  · rintro _ _ _ ⟨_, _, _, new, _⟩
    simp [new]
  · rintro why _ _ ⟨_, _, ⟨there, rfl⟩ | ⟨new, _, _, _, rfl⟩⟩
    · simp [there, eq_comm]
    · simp [new]

lemma Accounts.createFrame_unknown (a : Accounts log s)
    (sound : Sound base mount s h) (c : Creation) :
    Refuses (.createFrame c) (.unknownContainer i) s h ↔
      registered log c.id = false ∧ c.frame = some i ∧ registered log i = false := by
  rw [← a.frames, ← a.frames]
  refine refuses_iff ((sound.createFrame c.id c.frame).mono ?_ ?_ fun _ => False.elim)
  · rintro _ _ _ ⟨_, _, _, _, known⟩ ⟨_, parent, lost⟩
    rw [known i parent] at lost
    cases lost
  · rintro why _ _ ⟨_, _, ⟨there, rfl⟩ | ⟨new, q, parent, lost, rfl⟩⟩
    · simp [there]
    · rw [new, parent]
      constructor
      · rintro ⟨⟩
        exact ⟨rfl, rfl, lost⟩
      · rintro ⟨_, ⟨⟩, _⟩
        rfl

lemma Accounts.framed_unknown (a : Accounts log s) (sound : Sound base mount s h)
    (meant : framed p = some id) :
    Refuses p (.unknownContainer i) s h ↔ i = id ∧ registered log id = false := by
  rw [← a.frames]
  refine refuses_iff ((sound.framed meant).mono ?_ ?_ fun _ => False.elim)
  · rintro _ _ _ there ⟨_, gone⟩
    rw [there] at gone
    cases gone
  · rintro why _ _ ⟨_, _, ⟨gone, rfl⟩ | ⟨there, count, rfl⟩⟩
    · simp [gone, eq_comm]
    · simp [there]

/-- These refusals leave the scene, the document and the core as they were. -/
theorem Sound.untouched (sound : Sound base mount s h) (p : Patch) :
    Ends (Scene.apply p) s h (fun _ _ _ => True) (fun why s' h' => Untouched p why → s' = s ∧
      h' = h) fun _ => True := by
  have at_once {act : Work Scene Unit} {post : Unit → Scene → MemoryHost κ →
    Prop} {reason : PatchError → Prop}
      {breach : Breach → Prop}
      (run : Ends act s h post (fun why s' h' => s' = s ∧ h' = h ∧ reason why) breach) :
      Ends act s h (fun _ _ _ => True) (fun why s' h' => Untouched p why → s' = s ∧
        h' = h) fun _ => True :=
    run.mono (fun _ _ _ _ => trivial) (fun _ _ _ same _ => ⟨same.1, same.2.1⟩) fun _ _ => trivial
  cases p with
  | create widget c =>
    refine (sound.create widget c).mono (fun _ _ _ _ => trivial) ?_ fun _ _ => trivial
    rintro why s' h' ⟨_, _, ⟨_, _, same⟩ | ⟨_, id, rfl⟩⟩ early
    · exact same
    · simp [Untouched, Proofs.framed] at early
  | update id change => exact at_once (sound.update id change)
  | delete widget id => exact at_once (sound.delete widget id)
  | restack id layer depth => exact at_once (sound.restack id layer depth)
  | createFrame c => exact at_once (sound.createFrame c.id c.frame)
  | updateFrame id g => exact at_once (sound.updateFrame id g)
  | deleteFrame id => exact at_once (sound.deleteFrame id)
  | loadImage id path => exact (sound.loadImage id path).ends fun _ _ _ _ => trivial

/-- The log that patches lead to from a mount, if they do. -/
def logged (mount : NodeId) (config : Config) (h₀ : MemoryHost κ) (ps : List Patch) : Option Log :=
  match MemoryHost.serve (Scene.attach mount config) h₀ with
  | .ok (.ok s, h) =>
    match play ps s h with
    | .ok ((results, _), _) => some (ps.zip results).reverse
    | .error _ => none
  | _ => none

lemma Chronicle.play {ps : List Patch} {results : List (Except PatchError Unit)}
    {s' : Scene} {h' : MemoryHost κ} (chronicle : Chronicle mount config h₀ log s h)
    (run : Proofs.play ps s h = .ok ((results, s'), h')) :
    Chronicle mount config h₀ ((ps.zip results).reverse ++ log) s' h' := by
  induction ps generalizing s h results log with
  | nil =>
    cases run
    exact chronicle
  | cons p ps ih =>
    obtain ⟨result, rest, s₁, h₁, step, later, rfl⟩ := exists_play_cons run
    have whole := ih (chronicle.patched step) later
    rwa [List.zip_cons_cons, List.reverse_cons, List.append_assoc]

lemma exists_chronicle {ps : List Patch} (run : logged mount config h₀ ps = some log) :
    ∃ (s : Scene) (h : MemoryHost κ), Chronicle mount config h₀ log s h := by
  unfold logged at run
  split at run
  · next start =>
    split at run
    · next played =>
      cases run
      have chronicle := (Chronicle.attached start).play played
      rw [List.append_nil] at chronicle
      exact ⟨_, _, chronicle⟩
    · cases run
  · cases run

/-- The patches that were accepted decide which patch is accepted next and why others are refused,
and what is refused for the element or the frame it names changes nothing. -/
theorem verdicts_of_chronicle (reached : Reached h₀.document) (there : h₀.document.issued mount)
    (chronicle : Chronicle mount config h₀ log s h) :
    (∀ (p : Patch) (id : UInt32) (widget : Widget), addressed p = some (id, widget) →
      (Accepts p s h ↔ live log id = some widget) ∧
      (∀ i, Refuses p (.unknownElement i) s h ↔ i = id ∧ live log id = none) ∧
      ∀ i expected actual, Refuses p (.kindMismatch i expected actual) s h ↔
        i = id ∧ expected = widget ∧ live log id = some actual ∧ actual ≠ widget) ∧
    (∀ id layer depth i, Refuses (.restack id layer depth) (.unknownElement i) s h ↔ i = id ∧
      live log id = none) ∧
    (∀ widget (c : Creation) i, Refuses (.create widget c) (.duplicateElement i) s h ↔ i = c.id ∧
      (live log c.id).isSome) ∧
    (∀ (c : Creation) i, Refuses (.createFrame c) (.duplicateContainer i) s h ↔ i = c.id ∧
      registered log c.id) ∧
    (∀ (c : Creation) i, Refuses (.createFrame c) (.unknownContainer i) s h ↔
      registered log c.id = false ∧ c.frame = some i ∧ registered log i = false) ∧
    (∀ (p : Patch) (id i : UInt32), framed p = some id →
      (Refuses p (.unknownContainer i) s h ↔ i = id ∧ registered log id = false)) ∧
    ∀ (p : Patch) (why : PatchError) (s' : Scene) (h' : MemoryHost κ),
      MemoryHost.patch (Scene.apply p) s h = .ok ((.error why, s'), h') → Untouched p why →
      s' = s ∧ h' = h := by
  have sound := chronicle.history.sound reached.tidy.linked there
  have accounts := chronicle.accounts reached.tidy.linked there
  refine ⟨fun p id widget meant => ?_, ?_, ?_, ?_, ?_, ?_, ?_⟩
  · exact ⟨accounts.addressed_accepted sound meant, fun i => accounts.addressed_unknown sound meant,
      fun i => accounts.addressed_mismatch sound meant⟩
  · exact fun id layer depth i => accounts.restack_unknown sound layer depth
  · exact fun widget c i => accounts.create_duplicate sound c
  · exact fun c i => accounts.createFrame_duplicate sound c
  · exact fun c i => accounts.createFrame_unknown sound c
  · exact fun p id i meant => accounts.framed_unknown sound meant
  · intro p why s' h' run
    have untouched := sound.untouched p
    unfold Ends at untouched
    rw [run] at untouched
    exact untouched

/-- Refusals after an id went from a button in a frame to a slider. -/
theorem verdicts_after_reuse : ∃ (log : Log) (s : Scene) (h : MemoryHost Recorder),
    Chronicle ⟨0⟩ .standard blankPage log s h ∧ live log 7 = some .slider ∧
      Accepts (.delete .slider 7) s h ∧
      Refuses (.delete .button 7) (.kindMismatch 7 .button .slider) s h ∧
      Refuses (.restack 8 0 0) (.unknownElement 8) s h ∧
      Refuses (.create .text ⟨7, none, 0⟩) (.duplicateElement 7) s h ∧
      Refuses (.createFrame ⟨3, some 2, 0⟩) (.unknownContainer 2) s h := by
  have run :
    (logged ⟨0⟩ .standard blankPage [.createFrame ⟨1, none, 0⟩, .create .button ⟨7, some 1, 0⟩,
      .delete .slider 7, .delete .button 7, .create .slider ⟨7, some 1, 2⟩, .deleteFrame 1]).map
      (fun log => (live log 7, live log 8, registered log 1, registered log 2, registered log 3)) =
        some (some .slider, none, true, false, false) := by decide +kernel
  obtain ⟨log, start, facts⟩ := Option.map_eq_some_iff.1 run
  obtain ⟨slider, gone, _, unregistered, new⟩ : live log 7 = some .slider ∧ live log 8 = none ∧
      registered log 1 = true ∧ registered log 2 = false ∧
      registered log 3 = false := by simpa using facts
  obtain ⟨s, h, chronicle⟩ := exists_chronicle start
  obtain ⟨addressed, restacked, created, _, framed, _⟩ :=
    verdicts_of_chronicle reached_blankPage rfl chronicle
  refine ⟨log, s, h, chronicle, slider, ?_, ?_, ?_, ?_, ?_⟩
  · exact (addressed _ 7 .slider rfl).1.2 slider
  · exact ((addressed _ 7 .button rfl).2.2 7 .button .slider).2 ⟨rfl, rfl, slider, by decide⟩
  · exact (restacked 8 0 0 8).2 ⟨rfl, gone⟩
  · exact (created .text ⟨7, none, 0⟩ 7).2 ⟨rfl, by simp [slider]⟩
  · exact (framed ⟨3, some 2, 0⟩ 2).2 ⟨new, rfl, unregistered⟩

end Verdicts

end LayeredPage.Proofs
