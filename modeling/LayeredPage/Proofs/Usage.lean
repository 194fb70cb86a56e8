import LayeredPage.Proofs.Appearances

/-!
# A scene in use

Patches reach a scene, and in between a user sets controls and events are fired on them. What is
seen of an element is a matter of its life: the updates, entries and events that it went through
since it was created.
-/

namespace LayeredPage.Proofs

open MemoryDocument

/-- What a user sets of a control, or of how far a node is scrolled. -/
inductive Entry where
  | value (text : String)
  | checked (state : Bool)
  | selected (n : UInt32)
  | scrolled (left top : Float)

def Entry.properties : Entry → List FormProperty
  | .value text => [.value text]
  | .checked state => [.checked state]
  | .selected n => [.selectedIndex n]
  | .scrolled left top => [.scrollLeft left, .scrollTop top]

/-- What is done with a scene: a patch, a control of an element that the user sets, or an event on
one of its nodes. -/
inductive Act where
  | patch (p : Patch)
  | enter (id : UInt32) (spot : Spot) (entry : Entry)
  | fire (id : UInt32) (spot : Spot) (name : String) (value : InputValue Float)

/-- What was done, with the result of a patch. -/
inductive Deed where
  | patched (p : Patch) (result : Except PatchError Unit)
  | entered (id : UInt32) (spot : Spot) (entry : Entry)
  | fired (id : UInt32) (spot : Spot) (name : String) (value : InputValue Float)

/-- Nothing can be done to an element that is not there. -/
def Act.perform {κ : Type} [Core κ] : Act → Scene → MemoryHost.Step κ (Deed × Scene)
  | .patch p, s => do
    let (result, s) ← MemoryHost.patch (Scene.apply p) s
    return (.patched p result, s)
  | .enter id spot entry, s => do
    each s.elements[id]? fun e => entry.properties.forM fun property =>
      MemoryHost.onDocument (MemoryDocument.answer (.setForm (e.node spot) property))
    return (.entered id spot entry, s)
  | .fire id spot name value, s => do
    each s.elements[id]? fun e => do
      let _ ← MemoryHost.onDocument (MemoryDocument.fire (e.node spot) name value)
    return (.fired id spot name value, s)

/-- What was done from the time when a mount was taken over, latest first, and what it led to. -/
inductive Usage {κ : Type} [Core κ] (mount : NodeId) (config : Config) (h₀ : MemoryHost κ) :
    List Deed → Scene → MemoryHost κ → Prop where
  | attached {s : Scene} {h : MemoryHost κ} :
    MemoryHost.serve (Scene.attach mount config) h₀ = .ok (.ok s, h) →
      Usage mount config h₀ [] s h
  | acted {deeds : List Deed} {s s' : Scene} {h h' : MemoryHost κ} {deed : Deed} (next : Act) :
      Usage mount config h₀ deeds s h → next.perform s h = .ok ((deed, s'), h') →
      Usage mount config h₀ (deed :: deeds) s' h'

/-- What befalls an element. -/
inductive Incident where
  | updated (change : Change)
  | entered (spot : Spot) (entry : Entry)
  | fired (spot : Spot) (name : String) (value : InputValue Float)

/-- The incidents that an element went through since it was created, latest first; patches count if
they were accepted. -/
def life : List Deed → UInt32 → List Incident
  | [], _ => []
  | .patched (.create _ c) (.ok _) :: past, id => if id = c.id then [] else life past id
  | .patched (.update target change) (.ok _) :: past, id =>
    if id = target then .updated change :: life past id else life past id
  | .entered target spot entry :: past, id =>
    if id = target then .entered spot entry :: life past id else life past id
  | .fired target spot name value :: past, id =>
    if id = target then .fired spot name value :: life past id else life past id
  | .patched .. :: past, id => life past id

/-- An episode of an element: an incident, or that it is moved to another depth. -/
inductive Episode where
  | befell (incident : Incident)
  | moved (depth : UInt32)

def Episode.incident? : Episode → Option Incident
  | .befell incident => some incident
  | .moved _ => none

/-- All that happened to an element since it was created, latest first; patches count if they were
accepted. -/
def episodes : List Deed → UInt32 → List Episode
  | [], _ => []
  | .patched (.create _ c) (.ok _) :: past, id => if id = c.id then [] else episodes past id
  | .patched (.update target change) (.ok _) :: past, id =>
    if id = target then .befell (.updated change) :: episodes past id else episodes past id
  | .patched (.restack target _ depth) (.ok _) :: past, id =>
    if id = target then .moved depth :: episodes past id else episodes past id
  | .entered target spot entry :: past, id =>
    if id = target then .befell (.entered spot entry) :: episodes past id else episodes past id
  | .fired target spot name value :: past, id =>
    if id = target then .befell (.fired spot name value) :: episodes past id else episodes past id
  | .patched .. :: past, id => episodes past id

/-- A likeness after something was set. -/
def Likeness.set (t : Likeness) (spot : Spot) (property : FormProperty) : Likeness :=
  t.drawn (·.written (.form property)) spot

def Likeness.entered (t : Likeness) (spot : Spot) (entry : Entry) : Likeness :=
  entry.properties.foldl (fun t property => t.set spot property) t

/-- What an incident may make of an element of a kind. An event does at most revert a checkbox. -/
def Incident.Alters (id : UInt32) (kind : Widget) : Incident → Likeness → Likeness → Prop
  | .updated change, t, t' =>
    change.widget = kind ∧ paint (Craft.update id change) t = some ((), t')
  | .entered spot entry, t, t' => t' = t.entered spot entry
  | .fired spot _ _, t, t' => t' = t ∨ ∃ state, t' = t.set spot (.checked state)

/-- Something that holds of all elements of a kind by their ids and by what happened to them: it
holds of new ones, and whatever happens keeps it up. -/
structure Enduring (config : Config) (kind : Widget) (P : UInt32 → List Episode → Likeness → Prop) :
    Prop where
  born : ∀ (id : UInt32) (t : Likeness), Newborn config id kind t → P id [] t
  moved : ∀ (id : UInt32) (past : List Episode) (depth : UInt32) (tab : Int) (t : Likeness),
    Scene.tabIndex? config depth = some tab → P id past t →
    P id (.moved depth :: past) (t.restacked depth tab)
  befell : ∀ (id : UInt32) (past : List Episode) (incident : Incident) (t t' : Likeness),
    incident.Alters id kind t t' → P id past t →
    P id (.befell incident :: past) t'

/-- All elements of a kind are as what happened to them says. -/
def Endures (kind : Widget) (P : UInt32 → List Episode → Likeness → Prop) (deeds : List Deed)
    (s : Scene) (d : MemoryDocument) : Prop :=
  ∀ (id : UInt32) (e : Element), s.elements[id]? = some e → e.widget = kind →
    P id (episodes deeds id) (likeness e d)

/-- Something that holds of all elements of a kind by their lives: it holds of new ones and of moved
ones, and updates, entries and events keep it up. -/
structure Abiding (kind : Widget) (P : List Incident → Likeness → Prop) : Prop where
  born : ∀ (config : Config) (id : UInt32), ∃ t, paint (Craft.build config id kind) (.started id) =
    some ((), t) ∧ P [] t
  moved : ∀ (past : List Incident) (depth : UInt32) (tab : Int) (t : Likeness), P past t →
    P past (t.restacked depth tab)
  updated : ∀ (past : List Incident) (id : UInt32) (change : Change) (t t' : Likeness),
    change.widget = kind → P past t →
    paint (Craft.update id change) t = some ((), t') → P (.updated change :: past) t'
  entered : ∀ (past : List Incident) (spot : Spot) (entry : Entry) (t : Likeness), P past t →
    P (.entered spot entry :: past) (t.entered spot entry)
  fired :
    ∀ (past : List Incident) (spot : Spot) (name : String) (value : InputValue Float)
      (t : Likeness), P past t →
    P (.fired spot name value :: past) t ∧ ∀ state,
    P (.fired spot name value :: past) (t.set spot (.checked state))

/-- All elements of a kind are as their lives say. -/
def Abides (kind : Widget) (P : List Incident → Likeness → Prop) (deeds : List Deed) (s : Scene)
    (d : MemoryDocument) : Prop :=
  ∀ (id : UInt32) (e : Element), s.elements[id]? = some e → e.widget = kind →
    P (life deeds id) (likeness e d)

/-- A scene in use is in order, only leaves are observed in it, and no node lists a child twice. -/
structure InUse {κ : Type} (base : Nat) (mount : NodeId) (s : Scene) (h : MemoryHost κ) : Prop where
  sound : Sound base mount s h
  listed : Listed h.document
  watchful : Watchful base s.elements h.document

section Usages

variable {κ : Type} [Core κ] {mount : NodeId} {config : Config} {h₀ h h' : MemoryHost κ}
  {s s' : Scene} {deeds : List Deed}
  {deed : Deed} {base : Nat} {id : UInt32} {e : Element} {spot : Spot}
  {d : MemoryDocument} {kind : Widget} {P : List Incident → Likeness → Prop}

/-! ### Single acts -/

lemma InUse.patched (inUse : InUse base mount s h) {p : Patch} {result : Except PatchError Unit}
    (run : MemoryHost.patch (Scene.apply p) s h = .ok ((result, s'), h')) :
    InUse base mount s' h' ∧ match result with
      | .ok _ => Appears p s.config s h.document s' h'.document
      | .error _ => ∀ j, Stays s h.document s' h'.document j := by
  have sound := inUse.sound.patched run
  have listed : Listed h'.document :=
    serve_keeps (fun listed run => listed.answered run) run inUse.listed
  have applied := inUse.sound.apply_appears inUse.listed inUse.watchful p
  unfold Ends at applied
  rw [run] at applied
  cases result with
  | ok => exact ⟨⟨sound, listed, applied.2⟩, applied.1⟩
  | error why => exact ⟨⟨sound, listed, applied.2⟩, applied.1⟩

/-- An update for a live element is accepted, and repaints the element. -/
lemma InUse.update (inUse : InUse base mount s h) (found : s.elements[id]? = some e)
    (change : Change) (kind : e.widget = change.widget) :
    ∃ s' h' e', MemoryHost.patch (Scene.apply (.update id change)) s h = .ok ((.ok (), s'), h') ∧
      InUse base mount s' h' ∧
      s'.elements[id]? = some e' ∧ e'.widget = e.widget ∧
      paint (Craft.update id change) (likeness e h.document) =
        some ((), likeness e' h'.document) := by
  have accepted : Yields (Scene.apply (.update id change)) s h fun _ _ _ => True := by
    refine (inUse.sound.update id change).mono (fun _ _ _ _ => trivial)
      (fun _ _ _ no => ?_) fun _ => False.elim
    rcases no.2.2 with ⟨absent, _⟩ | ⟨x, there, other, _⟩
    · rw [found] at absent
      cases absent
    · rw [found] at there
      cases there
      exact other kind
  obtain ⟨_, s', h', run⟩ := accepted.exists_seen
  obtain ⟨inUse', ⟨x, e', there, _, elements, widget, painted⟩, _⟩ := inUse.patched run
  rw [found] at there
  cases there
  refine ⟨s', h', e', run, inUse', ?_, widget, painted⟩
  rw [elements, Std.ExtTreeMap.getElem?_insert_self]

omit [Core κ] in
/-- A control that is set: its element shows it, and no other notices. -/
lemma InUse.set (inUse : InUse base mount s h) (found : s.elements[id]? = some e) (spot : Spot)
    (property : FormProperty) :
    InUse base mount s { h with document := written (.form property) (e.node spot) h.document } ∧
      likeness e (written (.form property) (e.node spot) h.document) =
        (likeness e h.document).set spot property ∧
      ∀ j ≠ id, Stays s h.document s (written (.form property) (e.node spot) h.document) j := by
  obtain ⟨sound, observed, looks, others⟩ := inUse.sound.formed found spot property rfl
  exact ⟨⟨sound, inUse.listed.modify (fun _ => rfl) fun _ => rfl, inUse.watchful.mono fun i hi =>
    observed ▸ hi⟩, looks, others⟩

omit [Core κ] in
lemma InUse.issued (inUse : InUse base mount s h) (found : s.elements[id]? = some e) (spot : Spot) :
    h.document.issued (e.node spot) := by
  obtain ⟨node, hn, same⟩ := exists_node e spot
  refine inUse.sound.stage.owned.issued_of_known (.inr ?_)
  rw [← same]
  exact List.mem_map_of_mem (List.mem_append_right _ (mem_elementNodes.2 ⟨id, e, found, hn⟩))

omit [Core κ] in
/-- What a user enters. -/
lemma InUse.entered (inUse : InUse base mount s h) (found : s.elements[id]? = some e) (spot : Spot)
    (properties : List FormProperty) :
    ∃ d,
      (properties.forM fun property =>
        MemoryHost.onDocument (MemoryDocument.answer (.setForm (e.node spot) property)) :
          MemoryHost.Step κ Unit) h = .ok ((), { h with document := d }) ∧
        InUse base mount s { h with document := d } ∧
      likeness e d = properties.foldl (fun t property => t.set spot property)
      (likeness e h.document) ∧ ∀ j ≠ id, Stays s h.document s d j := by
  induction properties generalizing h with
  | nil => exact ⟨h.document, rfl, inUse, rfl, fun _ _ => .refl⟩
  | cons property rest ih =>
    obtain ⟨inUse₁, looks, others⟩ := inUse.set found spot property
    obtain ⟨d, run, inUse₂, looks₂, others₂⟩ := ih inUse₁
    refine ⟨d, ?_, inUse₂, looks₂.trans (by rw [looks]; rfl), fun j other =>
      (others j other).trans (others₂ j other)⟩
    change (MemoryHost.onDocument
      (MemoryDocument.answer (.setForm (e.node spot) property)) h).bind _ = _
    change ((change (e.node spot) _ h.document).bind _).bind _ = _
    rw [change_issued (inUse.issued found spot)]
    exact run

/-- What a user enters concerns one element. -/
lemma InUse.enter_inv (inUse : InUse base mount s h) {entry : Entry}
    (run : (Act.enter id spot entry).perform s h = .ok ((deed, s'), h')) :
    deed = .entered id spot entry ∧ s' = s ∧ InUse base mount s h' ∧
      (∀ e, s.elements[id]? = some e →
        likeness e h'.document = (likeness e h.document).entered spot entry) ∧
      ∀ j ≠ id, Stays s h.document s h'.document j := by
  rw [Act.perform] at run
  cases found : s.elements[id]? with
  | none =>
    rw [found] at run
    obtain ⟨same, rfl⟩ := Prod.mk.inj (Except.ok.inj run)
    obtain ⟨rfl, rfl⟩ := Prod.mk.inj same
    exact ⟨rfl, rfl, inUse, fun x there => (by cases there), fun _ _ => .refl⟩
  | some e =>
    obtain ⟨d, entered, inUse', looks, others⟩ := inUse.entered found spot entry.properties
    rw [found] at run
    change ((entry.properties.forM fun property =>
      MemoryHost.onDocument (MemoryDocument.answer (.setForm (e.node spot) property)) :
      MemoryHost.Step κ Unit) h).bind _ = _ at run
    rw [entered] at run
    cases run
    refine ⟨rfl, rfl, inUse', fun x there => ?_, others⟩
    cases there
    exact looks

/-- An event does at most revert a checkbox. -/
lemma InUse.fire_inv (inUse : InUse base mount s h) {name : String} {value : InputValue Float}
    (run : (Act.fire id spot name value).perform s h = .ok ((deed, s'), h')) :
    deed = .fired id spot name value ∧ s' = s ∧ InUse base mount s h' ∧
      (∀ e, s.elements[id]? = some e → likeness e h'.document = likeness e h.document ∨
        ∃ state, likeness e h'.document = (likeness e h.document).set spot (.checked state)) ∧
      ∀ j ≠ id, Stays s h.document s h'.document j := by
  rw [Act.perform] at run
  cases found : s.elements[id]? with
  | none =>
    rw [found] at run
    obtain ⟨same, rfl⟩ := Prod.mk.inj (Except.ok.inj run)
    obtain ⟨rfl, rfl⟩ := Prod.mk.inj same
    exact ⟨rfl, rfl, inUse, fun x there => (by cases there), fun _ _ => .refl⟩
  | some e =>
    obtain ⟨d, fired, effect⟩ := exists_fired (inUse.issued found spot) name value
    rw [found] at run
    change (((MemoryDocument.fire (e.node spot) name value h.document).bind fun r =>
      .ok (r.1, { h with document := r.2 })).bind
      fun r => .ok ((), r.2)).bind _ = _ at run
    rw [fired] at run
    cases run
    rcases effect with rfl | ⟨_, state, rfl⟩
    · exact ⟨rfl, rfl, inUse, fun _ _ => .inl rfl, fun _ _ => .refl⟩
    · obtain ⟨inUse', looks, others⟩ := inUse.set found spot (.checked state)
      refine ⟨rfl, rfl, inUse', fun x there => .inr ⟨state, ?_⟩, others⟩
      cases there
      exact looks

lemma Act.patch_inv {p : Patch} (run : (Act.patch p).perform s h = .ok ((deed, s'), h')) :
    ∃ result, deed = .patched p result ∧ MemoryHost.patch (Scene.apply p) s h =
      .ok ((result, s'), h') := by
  change (MemoryHost.patch (Scene.apply p) s h).bind
    (fun r => .ok ((Deed.patched p r.1.1, r.1.2), r.2)) = _ at run
  cases step : MemoryHost.patch (Scene.apply p) s h with
  | error b =>
    rw [step] at run
    cases run
  | ok r =>
    rw [step] at run
    cases run
    exact ⟨_, rfl, rfl⟩

/-! ### Runs -/

theorem Usage.inUse (usage : Usage mount config h₀ deeds s h) (reached : Reached h₀.document)
    (there : h₀.document.issued mount) :
    InUse h₀.document.nodes.size mount s h := by
  induction usage with
  | attached run =>
    have history : History mount config h₀ _ _ := .attached run
    have fewer :
        Answers (Scene.attach mount config) h₀ (fun _ h' => ∀ i ∈ h'.document.observed,
          i ∈ h₀.document.observed) fun _ => True := by
      have hushed : Hushed stocks (fun _ => False) Stage.addLayer := hushed_addLayer
      refine (answers_attach _ _ _).2
        ((hushed κ (bare .complete mount) h₀ (stocked_forAll true)).mono ?_ ?_ fun _ _ => trivial)
      · exact fun _ _ _ ⟨_, hush⟩ => hush.observed
      · exact fun _ _ _ ⟨_, hush⟩ => hush.observed
    unfold Answers at fewer
    rw [run] at fewer
    refine ⟨history.sound reached.tidy.linked there,
      serve_keeps (fun listed run => listed.answered run) run reached.listed, ?_⟩
    exact fun i hi => .inl (reached.tidy.observed i (fewer i hi))
  | acted next _ run inUse =>
    cases next with
    | patch p =>
      obtain ⟨result, rfl, step⟩ := Act.patch_inv run
      exact (inUse.patched step).1
    | enter id spot entry =>
      obtain ⟨rfl, rfl, inUse', _⟩ := inUse.enter_inv run
      exact inUse'
    | fire id spot name value =>
      obtain ⟨rfl, rfl, inUse', _⟩ := inUse.fire_inv run
      exact inUse'

/-- No act changes the configuration. -/
lemma Usage.config_eq (usage : Usage mount config h₀ deeds s h) (reached : Reached h₀.document)
    (there : h₀.document.issued mount) :
    s.config = config := by
  induction usage with
  | attached run =>
    have start := attach_sound reached.tidy.linked there config
    unfold Answers at start
    rw [run] at start
    obtain ⟨s, eq, same, _⟩ := start
    cases eq
    exact same
  | @acted deeds s s' h h' deed next before run same =>
    have inUse := before.inUse reached there
    cases next with
    | patch p =>
      obtain ⟨result, rfl, step⟩ := Act.patch_inv run
      have spared := apply_spares_config p κ s h
      unfold Ends at spared
      rw [step] at spared
      cases result with
      | ok => exact spared.trans same
      | error why => exact spared.trans same
    | enter id spot entry =>
      obtain ⟨_, rfl, _⟩ := inUse.enter_inv run
      exact same
    | fire id spot name value =>
      obtain ⟨_, rfl, _⟩ := inUse.fire_inv run
      exact same

lemma episodes_refused {p : Patch} {why : PatchError} :
    episodes (.patched p (.error why) :: deeds) = episodes deeds := by
  cases p <;> rfl

omit [Core κ] in
/-- Whoever stays is as before. -/
lemma Endures.stays {P : UInt32 → List Episode → Likeness → Prop}
    (endures : Endures kind P deeds s h.document) {j : UInt32}
    (stays : Stays s h.document s' h'.document j) {x : Element} (found : s'.elements[j]? = some x)
    (widget : x.widget = kind) :
    P j (episodes deeds j) (likeness x h'.document) := by
  rw [stays.1] at found
  rw [stays.2 x found]
  exact endures j x found widget

omit [Core κ] in
/-- An accepted patch keeps it up. -/
lemma Enduring.patched {P : UInt32 → List Episode → Likeness → Prop}
    (enduring : Enduring s.config kind P) (endures : Endures kind P deeds s h.document) {p : Patch}
    (appears : Appears p s.config s h.document s' h'.document) :
    Endures kind P (.patched p (.ok ()) :: deeds) s' h'.document := by
  intro j x found widget
  cases p with
  | create kind' c =>
    obtain ⟨_, ⟨e, elements, same, newborn⟩, others⟩ := appears
    simp only [episodes]
    split
    · next here =>
      rw [elements, here, Std.ExtTreeMap.getElem?_insert_self, Option.some_inj] at found
      subst found here
      obtain rfl : kind' = kind := same.symm.trans widget
      exact enduring.born _ _ newborn
    · next other => exact endures.stays (others j other) found widget
  | update id change =>
    obtain ⟨⟨e, e', there, same, elements, same', painted⟩, others⟩ := appears
    simp only [episodes]
    split
    · next here =>
      rw [elements, here, Std.ExtTreeMap.getElem?_insert_self, Option.some_inj] at found
      subst found here
      exact enduring.befell _ _ (.updated change) _ _
        ⟨same.symm.trans (same'.symm.trans widget), painted⟩
        (endures j e there (same'.symm.trans widget))
    · next other => exact endures.stays (others j other) found widget
  | delete kind' gone =>
    refine endures.stays (appears.2 j ?_) found widget
    rintro rfl
    rw [appears.1] at found
    cases found
  | restack id layer depth =>
    obtain ⟨⟨e, tab, there, inRange, elements, looks⟩, others⟩ := appears
    simp only [episodes]
    split
    · next here =>
      rw [elements, here, Std.ExtTreeMap.getElem?_insert_self, Option.some_inj] at found
      subst found here
      rw [looks]
      exact enduring.moved _ _ depth tab _ inRange (endures j e there widget)
    · next other => exact endures.stays (others j other) found widget
  | createFrame | updateFrame | deleteFrame | loadImage =>
    exact endures.stays (appears j) found widget

/-- What endures holds in every scene in use. -/
theorem Enduring.endures {P : UInt32 → List Episode → Likeness → Prop}
    (enduring : Enduring config kind P)
    (usage : Usage mount config h₀ deeds s h) (reached : Reached h₀.document)
    (there : h₀.document.issued mount) :
    Endures kind P deeds s h.document := by
  induction usage with
  | attached run =>
    intro id e found
    have nobody := (accounts_attached run).elements id
    rw [found] at nobody
    cases nobody
  | @acted deeds s s' h h' deed next before run endures =>
    have inUse := before.inUse reached there
    cases next with
    | patch p =>
      obtain ⟨result, rfl, step⟩ := Act.patch_inv run
      have patched := (inUse.patched step).2
      cases result with
      | ok =>
        obtain rfl := before.config_eq reached there
        exact enduring.patched endures patched
      | error why =>
        intro j x found widget
        rw [episodes_refused]
        exact endures.stays (patched j) found widget
    | enter id spot entry =>
      obtain ⟨rfl, rfl, _, looks, others⟩ := inUse.enter_inv run
      intro j x found widget
      simp only [episodes]
      split
      · next here =>
        subst here
        exact enduring.befell _ _ (.entered spot entry) _ _ (looks x found)
          (endures j x found widget)
      · next other => exact endures.stays (others j other) found widget
    | fire id spot name value =>
      obtain ⟨rfl, rfl, _, looks, others⟩ := inUse.fire_inv run
      intro j x found widget
      simp only [episodes]
      split
      · next here =>
        subst here
        exact enduring.befell _ _ (.fired spot name value) _ _ (looks x found)
          (endures j x found widget)
      · next other => exact endures.stays (others j other) found widget

/-! ### Lives -/

lemma life_refused {p : Patch} {why : PatchError} :
    life (.patched p (.error why) :: deeds) = life deeds := by
  cases p <;> rfl

/-- A life is what happened to an element but its moves. -/
lemma life_eq (deeds : List Deed) (id : UInt32) :
    life deeds id = (episodes deeds id).filterMap Episode.incident? := by
  induction deeds with
  | nil => rfl
  | cons deed past ih =>
    cases deed with
    | entered target spot entry =>
      simp only [life, episodes, ih]
      split <;> rfl
    | fired target spot name value =>
      simp only [life, episodes, ih]
      split <;> rfl
    | patched p result =>
      cases result with
      | error why => rw [life_refused, episodes_refused, ih]
      | ok =>
        cases p with
        | delete | createFrame | updateFrame | deleteFrame | loadImage => exact ih
        | create | update | restack =>
          simp only [life, episodes, ih]
          split <;> rfl

lemma Abiding.enduring (abiding : Abiding kind P) (config : Config) :
    Enduring config kind fun _ past t => P (past.filterMap Episode.incident?) t where
  born id t newborn := by
    obtain ⟨t', painted', holds⟩ := abiding.born config id
    cases newborn with
    | painted painted =>
      obtain ⟨-, rfl⟩ := Prod.mk.inj (Option.some.inj (painted'.symm.trans painted))
      exact holds
    | sampled scroll => cases painted'
  moved id past depth tab t _ := abiding.moved _ depth tab t
  befell id past incident t t' alters holds := by
    cases incident with
    | updated change => exact abiding.updated _ id change t t' alters.1 holds alters.2
    | entered spot entry =>
      obtain rfl : t' = _ := alters
      exact abiding.entered _ spot entry t holds
    | fired spot name value =>
      obtain ⟨kept, set⟩ := abiding.fired _ spot name value t holds
      obtain rfl | ⟨state, rfl⟩ := alters
      · exact kept
      · exact set state

/-- What abides holds in every scene in use. -/
theorem Abiding.abides (abiding : Abiding kind P) (usage : Usage mount config h₀ deeds s h)
    (reached : Reached h₀.document)
    (there : h₀.document.issued mount) : Abides kind P deeds s h.document := by
  intro id e found widget
  rw [life_eq]
  exact (abiding.enduring config).endures usage reached there id e found widget

/-! ### Patches alone, and runs that can be played -/

/-- A chronicle is the use of a scene by patches alone. -/
lemma Chronicle.usage {log : Log} (chronicle : Chronicle mount config h₀ log s h) :
    Usage mount config h₀ (log.map fun p => .patched p.1 p.2) s h := by
  induction chronicle with
  | attached run => exact .attached run
  | @patched _ s s' h h' p result _ run usage =>
    refine usage.acted (.patch p) ?_
    change (MemoryHost.patch (Scene.apply p) s h).bind _ = _
    rw [run]
    rfl

/-- What acts come to in a scene, latest first. -/
def act : List Act → List Deed × Scene → MemoryHost.Step κ (List Deed × Scene)
  | [], r => pure r
  | next :: rest, (deeds, s) => do
    let (deed, s) ← next.perform s
    act rest (deed :: deeds, s)

/-- The deeds and the scene that acts lead to from a mount, if they do. -/
def used (mount : NodeId) (config : Config) (h₀ : MemoryHost κ) (acts : List Act) :
    Option (List Deed × Scene) :=
  match MemoryHost.serve (Scene.attach mount config) h₀ with
  | .ok (.ok s, h) =>
    match act acts ([], s) h with
    | .ok (r, _) => some r
    | .error _ => none
  | _ => none

lemma Usage.act {acts : List Act} {deeds' : List Deed} (usage : Usage mount config h₀ deeds s h)
    (run : Proofs.act acts (deeds, s) h = .ok ((deeds', s'), h')) :
    Usage mount config h₀ deeds' s' h' := by
  induction acts generalizing deeds s h with
  | nil =>
    cases run
    exact usage
  | cons next rest ih =>
    change (next.perform s h).bind _ = _ at run
    cases step : next.perform s h with
    | error b =>
      rw [step] at run
      cases run
    | ok r =>
      rw [step] at run
      exact ih (usage.acted next step) run

lemma exists_usage {acts : List Act} (run : used mount config h₀ acts = some (deeds, s)) :
    ∃ h : MemoryHost κ, Usage mount config h₀ deeds s h := by
  unfold used at run
  split at run
  · next start =>
    split at run
    · next played =>
      cases run
      exact ⟨_, (Usage.attached start).act played⟩
    · cases run
  · cases run

end Usages

end LayeredPage.Proofs
