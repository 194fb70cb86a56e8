import LayeredPage.Proofs.Hearing
import LayeredPage.Proofs.Inventory

/-!
# What the page may tell the core

A session takes over a mount and goes on with patches and with events on the page, in any order.
Whatever the page then reports names a live element that owns the node it came from: nothing that
was deleted, or that failed to be created, is heard of again, even after its nodes or its id went to
another element.
-/

namespace LayeredPage.Proofs

open MemoryDocument

/-! ## Ids as labels -/

section Labels

lemma isBlank_of_isDigit {c : Char} (digit : c.isDigit) : Text.isBlank c = false := by
  simp only [Char.isDigit, Bool.and_eq_true, decide_eq_true_eq] at digit
  have low : 48 ≤ c.toNat := digit.1
  have high : c.toNat ≤ 57 := digit.2
  simp only [Text.isBlank, Bool.or_eq_false_iff, Bool.and_eq_false_iff, decide_eq_false_iff_not,
    beq_eq_false_iff_ne]
  omega

lemma trim_of_digits {cs : List Char} (digits : ∀ c ∈ cs, c.isDigit) : Text.trim cs = cs := by
  have kept (cs : List Char) (digits : ∀ c ∈ cs, c.isDigit) : cs.dropWhile Text.isBlank = cs := by
    refine List.dropWhile_eq_self_iff.2 fun hl => ?_
    rw [isBlank_of_isDigit (digits _ (List.getElem_mem hl))]
    exact Bool.false_ne_true
  unfold Text.trim Text.trimEnd Text.trimStart
  rw [kept cs digits, kept cs.reverse fun c hc => digits c (List.mem_reverse.1 hc),
    List.reverse_reverse]

/-- Digits are read as they are: no plus sign is among them. -/
lemma word?_of_digits {cs : List Char} (digits : ∀ c ∈ cs, c.isDigit) (some_digit : cs ≠ [])
    (small : Number.digitsValue cs < UInt32.size) :
    Number.word? cs = some (UInt32.ofNat (Number.digitsValue cs)) := by
  have all : cs.all Char.isDigit = true := List.all_eq_true.2 digits
  unfold Number.word?
  split
  · exact absurd (digits '+' List.mem_cons_self) (by decide)
  · simp [some_digit, all, small]

/-- An id is read back from its label. -/
theorem nativeId?_toString (id : UInt32) : nativeId? (toString id) = some id := by
  have label : (toString id).toList = Nat.toDigits 10 id.toNat := Nat.toList_repr
  have digits : ∀ c ∈ Nat.toDigits 10 id.toNat, c.isDigit :=
    fun c hc => Nat.isDigit_of_mem_toDigits (by omega) le_rfl hc
  have value : Number.digitsValue (Nat.toDigits 10 id.toNat) = id.toNat :=
    Nat.ofDigitChars_ten_toDigits
  unfold nativeId?
  rw [label, trim_of_digits digits, word?_of_digits digits Nat.toDigits_ne_nil,
    value, UInt32.ofNat_toNat]
  rw [value]
  exact id.toNat_lt

/-- Different ids have different labels. -/
lemma label_injective : Function.Injective (toString : UInt32 → String) := by
  intro i j same
  have read := congrArg nativeId? same
  rw [nativeId?_toString, nativeId?_toString] at read
  exact Option.some.inj read

end Labels

/-! ## Reports -/

/-- The kind of element that an interrupt comes from, and the id that it carries. -/
def source? : Interrupt Float → Option (Widget × UInt32)
  | .buttonClick id => some (.button, id)
  | .checkboxToggle id _ => some (.checkbox, id)
  | .textboxInput id _ | .textboxChange id _ => some (.textbox, id)
  | .sliderChange id _ => some (.slider, id)
  | .dropdownChange id _ => some (.dropdown, id)
  | .radioSetChange id _ => some (.radioSet, id)
  | .textInput id _ => some (.text, id)
  | _ => none

/-- The interrupt names a live element of its kind that has the node among its parts. -/
def Speaks (s : Scene) (n : NodeId) (i : Interrupt Float) : Prop :=
  ∃ (id : UInt32) (e : Element), s.elements[id]? = some e ∧ n ∈ e.parts.map (·.id) ∧
    source? i = some (e.widget, id)

/-- The report gives the size of the leaf of a live text, under its id. -/
def Measures (s : Scene) (size : NodeId × Float × Float) (report : SizeReport Float) : Prop :=
  ∃ (id : UInt32) (e : Element), s.elements[id]? = some e ∧ e.widget = .text ∧ e.leaf.id = size.1 ∧
    report = ⟨id, size.2.1, size.2.2⟩

/-- What a page may report while a scene is on it. -/
structure Upstream (s : Scene) (d : MemoryDocument) : Prop where
  fired : ∀ n event value, d.issued n → ∃ interrupts d', MemoryDocument.fire n event value d =
    .ok (interrupts, d') ∧
    ∀ i ∈ interrupts, Speaks s n i
  measured : ∀ sizes, ∃ reports, MemoryDocument.reportSizes sizes d =
    .ok (sizesInterrupt? reports, d) ∧
    List.Forall₂ (Measures s) (sizes.filter fun size => d.observed.contains size.1.index) reports
  sampled : ∀ (i : Nat) (m : MemorySampler), d.samplers[i]? = some m → m.live → ∃! id :
    UInt32, ∃ (e : Element) (r : ScrollRegion),
    s.elements[id]? = some e ∧ e.widget = .scroller ∧ e.scroll = some r ∧
    r.sampler.index = i ∧ e.leaf.id = m.node
  scrolling : ∀ (id : UInt32) (e : Element), s.elements[id]? = some e → e.widget = .scroller →
    ∃ r, e.scroll = some r ∧
    ∀ i, (∃ m, d.samplers[i]? = some m ∧ m.live ∧ m.node = e.leaf.id) ↔ i = r.sampler.index

section Documents

variable {s : Scene} {d d' : MemoryDocument} {n : NodeId}

lemma source?_interrupt {b : InputBinding} {id : UInt32} {value : InputValue Float}
    {i : Interrupt Float}
    (said : b.interrupt? id value = some i) : source? i = some (speaker b, id) := by
  cases b <;> cases value <;> cases said <;> rfl

/-- An event on an issued node gives what its bindings make of it; it may set the state of a control
that has some. -/
lemma exists_fired (issued : d.issued n) (event : String) (value : InputValue Float) :
    ∃ d', fire n event value d =
    .ok (((heard d n).filter fun b => b.2.event == event).filterMap fun b =>
      b.2.interrupt? b.1 value, d') ∧
      (d' = d ∨ heard d n ≠ [] ∧ ∃ state, d' = written (.form (.checked state)) n d) := by
  obtain ⟨node, found⟩ := issued_iff.1 issued
  rw [heard_of_node? found]
  simp only [fire, bind, StateT.bind, read_node? found, Except.bind]
  cases value with
  | none | text | number | index => exact ⟨d, rfl, .inl rfl⟩
  | checked state =>
    dsimp only
    split
    · next toggles =>
      simp only [StateT.bind, change_issued issued]
      refine ⟨written (.form (.checked !state)) n d, rfl, .inr ⟨?_, _, rfl⟩⟩
      intro nothing
      simp [nothing] at toggles
    · exact ⟨d, rfl, .inl rfl⟩

lemma hushes_checked {spared : NodeId → Prop} (state : Bool) :
    Hushes spared d (written (.form (.checked state)) n d) :=
  .modify (fun _ _ hb => hb) fun _ _ => rfl

/-- Whatever is said on a node, its element says. -/
lemma Voiced.speaks (voiced : Voiced s.elements d) {event : String} {value : InputValue Float}
    {i : Interrupt Float}
    (said : i ∈ ((Proofs.heard d n).filter fun b => b.2.event == event).filterMap fun b =>
      b.2.interrupt? b.1 value) :
    Speaks s n i := by
  obtain ⟨⟨id, b⟩, bound, said⟩ := List.mem_filterMap.1 said
  obtain ⟨e, found, kind, part⟩ := voiced.heard n id b (List.mem_of_mem_filter bound)
  refine ⟨id, e, found, part, ?_⟩
  rw [source?_interrupt said, kind]

/-- The report of one size, if its node is observed. -/
def report? (observed : Std.ExtTreeSet Nat) :
    NodeId × Float × Float → Checked (Option (SizeReport Float))
  | (n, width, height) => do
    if observed.contains n.index then
      let node ← read n
      return (node.attributes[nativeIdAttribute]?.bind nativeId?).map fun id => ⟨id, width, height⟩
    else return none

/-- An observed node is the leaf of a text and carries its id. -/
lemma Voiced.report (voiced : Voiced s.elements d) (issued : ∀ i ∈ d.observed, d.issued ⟨i⟩)
    {size : NodeId × Float × Float} (observed : d.observed.contains size.1.index) :
    ∃ report, report? d.observed size d = .ok (some report, d) ∧ Measures s size report := by
  obtain ⟨n, width, height⟩ := size
  obtain ⟨id, e, found, text, leaf⟩ :=
    voiced.observed n.index (Std.ExtTreeSet.contains_iff_mem.1 observed)
  have leaf : e.leaf.id = n := congrArg NodeId.mk leaf
  obtain ⟨node, record⟩ :=
    issued_iff.1 (issued n.index (Std.ExtTreeSet.contains_iff_mem.1 observed))
  have label := voiced.labels id e found
  rw [leaf, label?, attributeOf?, record, Option.bind_some] at label
  refine ⟨⟨id, width, height⟩, ?_, id, e, found, text, leaf, rfl⟩
  unfold report?
  dsimp only at observed ⊢
  rw [if_pos observed]
  change (MemoryDocument.read n d).bind _ = _
  rw [read_node? record]
  change Except.ok ((node.attributes[nativeIdAttribute]?.bind nativeId?).map _, d) = _
  rw [label, Option.bind_some, nativeId?_toString]
  rfl

lemma Voiced.measures (voiced : Voiced s.elements d) (issued : ∀ i ∈ d.observed, d.issued ⟨i⟩)
    (sizes : List (NodeId × Float × Float)) :
    ∃ reports, reportSizes sizes d = .ok (sizesInterrupt? reports, d) ∧
      List.Forall₂ (Measures s)
      (sizes.filter fun size => d.observed.contains size.1.index) reports := by
  have collected : ∃ reports, sizes.filterMapM (report? d.observed) d = .ok (reports, d) ∧
      List.Forall₂ (Measures s)
        (sizes.filter fun size => d.observed.contains size.1.index) reports := by
    induction sizes with
    | nil => exact ⟨[], rfl, .nil⟩
    | cons size sizes ih =>
      obtain ⟨reports, run, measured⟩ := ih
      rw [List.filterMapM_cons, List.filter_cons]
      cases observed : d.observed.contains size.1.index with
      | false =>
        have skipped : report? d.observed size d = .ok (none, d) := by
          simp only [report?, observed]
          rfl
        refine ⟨reports, ?_, measured⟩
        change (report? d.observed size d).bind _ = _
        rw [skipped]
        exact run
      | true =>
        obtain ⟨report, told, measures⟩ := voiced.report issued observed
        refine ⟨report :: reports, ?_, .cons measures measured⟩
        change (report? d.observed size d).bind _ = _
        rw [told]
        change (sizes.filterMapM (report? d.observed) d).bind _ = _
        rw [run]
        rfl
  obtain ⟨reports, run, measured⟩ := collected
  refine ⟨reports, ?_, measured⟩
  change (sizes.filterMapM (report? d.observed) d).bind _ = _
  rw [run]
  rfl

variable {base : Nat} {mount : NodeId} {stage : Stage} {elements : Std.ExtTreeMap UInt32 Element}
  {id j : UInt32} {e x : Element}

/-- The leaf of a live element is an issued node. -/
lemma InOrder.issued_leaf (order : InOrder base mount stage elements d)
    (found : elements[id]? = some e) : d.issued e.leaf.id := by
  have held : e.leaf ∈ elementNodes elements :=
    mem_elementNodes.2 ⟨id, e, found, List.mem_cons_self⟩
  exact order.stage.owned.issued_of_known (known_of_others (List.mem_map_of_mem held))

/-- Two live elements have two leaves. -/
lemma InOrder.id_of_leaf (order : InOrder base mount stage elements d)
    (found : elements[id]? = some e)
    (found' : elements[j]? = some x) (same : e.leaf.id = x.leaf.id) : id = j := by
  by_contra other
  have there : (elements.erase id)[j]? = some x := getElem?_erase_iff.2 ⟨Ne.symm other, found'⟩
  refine (order.pick found).stage.disjoint there (n := e.leaf.id) List.mem_cons_self ?_
  rw [same]
  exact List.mem_cons_self

/-- An event changes at most the state of a control, whose element lives. -/
lemma Attuned.event {κ : Type} {h : MemoryHost κ} (attuned : Attuned s h)
    (sound : Sound base mount s h) {name : String}
    {value : InputValue Float} {sent : List (Interrupt Float)} {d : MemoryDocument}
    (run : fire n name value h.document = .ok (sent, d)) :
    Sound base mount s { h with document := d } ∧ Attuned s { h with document := d } := by
  have issued : h.document.issued n := by
    cases found : h.document.node? n with
    | some node => exact issued_of_node? found
    | none => simp [fire, unread_node? found, bind, StateT.bind, Except.bind] at run
  obtain ⟨d', run', rfl | ⟨bound, state, rfl⟩⟩ := exists_fired issued name value
  · rw [run'] at run
    cases run
    exact ⟨sound, attuned⟩
  · rw [run'] at run
    cases run
    refine ⟨?_, attuned.hush (hushes_checked state) rfl⟩
    obtain ⟨⟨id, b⟩, hb⟩ := List.exists_mem_of_ne_nil _ bound
    obtain ⟨e, found, _, part⟩ := attuned.tuned.voiced.heard n id b hb
    obtain ⟨node, inside, rfl⟩ := List.mem_map.1 part
    have held : node ∈ elementNodes s.elements :=
      mem_elementNodes.2 ⟨id, e, found, List.mem_cons_of_mem _ (List.mem_append_left _ inside)⟩
    have bare :
        Dressed base s.pools (stageNodes s.toStage ++ elementNodes s.elements)
          h.document h.document :=
      ⟨sound.stage.owned, fun _ => rfl⟩
    have checked :=
      bare.written (known_of_others (List.mem_map_of_mem held)) (.form (.checked state)) rfl
    exact InOrder.dressed sound checked

end Documents

/-! ## Sessions -/

/-- What happens on a page next: a patch, or an event on one of its nodes. -/
inductive Happening where
  | patch (p : Patch)
  | event (n : NodeId) (name : String) (value : InputValue Float)

/-- What becomes of the scene; a refused patch leaves what it left. -/
def Happening.occur {κ : Type} [Core κ] : Happening → Scene → MemoryHost.Step κ Scene
  | .patch p, s => do
    let (_, s) ← MemoryHost.patch (Scene.apply p) s
    return s
  | .event n name value, s => do
    let _ ← MemoryHost.onDocument (fire n name value)
    return s

/-- The scenes that these lead to from where a mount was taken over. -/
inductive Session {κ : Type} [Core κ] (mount : NodeId) (config : Config) (h₀ : MemoryHost κ) :
    Scene → MemoryHost κ → Prop where
  | attached {s : Scene} {h : MemoryHost κ} :
    MemoryHost.serve (Scene.attach mount config) h₀ = .ok (.ok s, h) →
      Session mount config h₀ s h
  | happened {s s' : Scene} {h h' : MemoryHost κ} (next : Happening) :
      Session mount config h₀ s h → next.occur s h = .ok (s', h') → Session mount config h₀ s' h'

/-- A document on which nothing was bound, observed or sampled so far. -/
structure Unheard (d : MemoryDocument) : Prop where
  heard : ∀ n, heard d n = []
  observed : ∀ i, i ∉ d.observed
  samplers : ∀ (i : Nat) (m : MemorySampler), d.samplers[i]? = some m → m.live = false

section Sessions

variable {κ : Type} [Core κ] {mount : NodeId} {config : Config}
  {h₀ h h' : MemoryHost κ} {s s' : Scene}

/-- Nothing is heard of a scene without elements. -/
lemma attach_attuned (unheard : Unheard h.document) (mount : NodeId) (config : Config) :
    Answers (Scene.attach mount config) h (fun r h' => ∀ s, r = .ok s → Attuned s h') fun _ =>
      True := by
  have hushed : Hushed stocks (fun _ => False) Stage.addLayer := hushed_addLayer
  refine (answers_attach _ _ _).2
    ((hushed κ (bare .complete mount) h (stocked_forAll true)).mono ?_ ?_ fun _ _ => trivial)
  · rintro _ stage h' ⟨_, hush⟩ _ ⟨⟩
    refine ⟨⟨⟨fun n id b hb => ?_, fun j x hx => ?_, fun i hi => ?_⟩,
      ⟨fun i m hm live => ?_, fun j x r hx => ?_⟩⟩, fun j x hx => ?_⟩
    · have before := hush.heard n _ hb
      rw [unheard.heard] at before
      exact absurd before List.not_mem_nil
    · simp [Scene.ofStage] at hx
    · exact absurd (hush.observed i hi) (unheard.observed i)
    · rw [hush.samplers] at hm
      rw [unheard.samplers i m hm] at live
      cases live
    · simp [Scene.ofStage] at hx
    · simp [Scene.ofStage] at hx
  · rintro _ _ _ _ _ ⟨⟩

/-- A scene stays in order and attuned through every session that nobody was heard before. -/
theorem Session.attuned (session : Session mount config h₀ s h) (linked : Linked h₀.document)
    (there : h₀.document.issued mount) (unheard : Unheard h₀.document) :
    Sound h₀.document.nodes.size mount s h ∧ Attuned s h := by
  induction session with
  | attached run =>
    have sound := attach_sound linked there config
    have attuned := attach_attuned unheard mount config
    unfold Answers at sound attuned
    rw [run] at sound attuned
    obtain ⟨s, eq, _, sound⟩ := sound
    cases eq
    exact ⟨sound, attuned _ rfl⟩
  | @happened s s' h h' next _ run ih =>
    obtain ⟨sound, attuned⟩ := ih
    cases next with
    | patch p =>
      have kept := (sound.apply p).and (attuned.apply sound p)
      unfold Ends at kept
      have patched : Happening.occur (.patch p) s h =
          (MemoryHost.patch (Scene.apply p) s h).bind fun r => .ok (r.1.2, r.2) := rfl
      rw [patched] at run
      revert run kept
      rcases MemoryHost.patch (Scene.apply p) s h with b | ⟨⟨e | _, s₁⟩, h₁⟩
      · intro run
        cases run
      · rintro ⟨⟩ ⟨⟨sound, _⟩, attuned⟩
        exact ⟨sound, attuned⟩
      · rintro ⟨⟩ ⟨sound, attuned⟩
        exact ⟨sound, attuned⟩
    | event n name value =>
      have fired : Happening.occur (.event n name value) s h =
          ((fire n name value h.document).bind fun r => .ok (r.1, { h with document := r.2 })).bind
            fun r => .ok (s, r.2) := rfl
      rw [fired] at run
      cases told : fire n name value h.document with
      | error b =>
        rw [told] at run
        cases run
      | ok r =>
        rw [told] at run
        cases run
        exact attuned.event sound told

/-- In every session on a page where nobody was heard before, whatever the page reports names a live
element that it comes from, and the live samplers are those of the live scrollers. -/
theorem upstream_of_session (reached : Reached h₀.document) (there : h₀.document.issued mount)
    (unheard : Unheard h₀.document)
    (session : Session mount config h₀ s h) : Upstream s h.document := by
  obtain ⟨sound, tuned, furnished⟩ := session.attuned reached.tidy.linked there unheard
  refine ⟨fun n event value issued => ?_, fun sizes => ?_, fun i m hm live => ?_,
    fun id e found scroller => ?_⟩
  · obtain ⟨d', run, _⟩ := exists_fired issued event value
    exact ⟨_, d', run, fun i said => tuned.voiced.speaks said⟩
  · refine tuned.voiced.measures (fun i hi => ?_) sizes
    obtain ⟨id, e, found, _, rfl⟩ := tuned.voiced.observed i hi
    exact InOrder.issued_leaf sound found
  · obtain ⟨id, e, r, found, hr, index⟩ := tuned.sampled.claimed i m hm live
    obtain ⟨m', hm', _, node⟩ := tuned.sampled.running id e r found hr
    rw [index, hm] at hm'
    cases hm'
    refine ⟨id, ⟨e, r, found, (furnished id e found).1 (by rw [hr]; rfl), hr, index, node.symm⟩, ?_⟩
    rintro j ⟨x, _, found', _, _, _, leaf⟩
    exact InOrder.id_of_leaf sound found' found (leaf.trans node)
  · obtain ⟨r, hr⟩ := Option.isSome_iff_exists.1 ((furnished id e found).2 scroller)
    refine ⟨r, hr, fun i => ⟨?_, ?_⟩⟩
    · rintro ⟨m, hm, live, node⟩
      obtain ⟨j, x, r', found', hr', rfl⟩ := tuned.sampled.claimed i m hm live
      obtain ⟨m', hm', _, node'⟩ := tuned.sampled.running j x r' found' hr'
      rw [hm] at hm'
      cases hm'
      have same := InOrder.id_of_leaf sound found' found (node'.symm.trans node)
      subst same
      rw [found] at found'
      cases found'
      rw [hr] at hr'
      cases hr'
      rfl
    · rintro rfl
      exact tuned.sampled.running id e r found hr

/-- The scene that happenings lead to from a mount, if they do. -/
def rehearsed (mount : NodeId) (config : Config) (h₀ : MemoryHost κ) (happenings : List Happening) :
    Option Scene :=
  match MemoryHost.serve (Scene.attach mount config) h₀ with
  | .ok (.ok s, h) =>
    match happenings.foldlM (fun s next => next.occur s) s h with
    | .ok (s, _) => some s
    | .error _ => none
  | _ => none

lemma Session.goOn {happenings : List Happening} (session : Session mount config h₀ s h)
    (run : happenings.foldlM (fun s next => next.occur s) s h = .ok (s', h')) :
    Session mount config h₀ s' h' := by
  induction happenings generalizing s h with
  | nil =>
    cases run
    exact session
  | cons next happenings ih =>
    rw [List.foldlM_cons] at run
    change (next.occur s h).bind _ = _ at run
    cases step : next.occur s h with
    | error b =>
      rw [step] at run
      cases run
    | ok r =>
      rw [step] at run
      exact ih (session.happened next step) run

lemma exists_session {happenings : List Happening}
    (run : rehearsed mount config h₀ happenings = some s) :
    ∃ h : MemoryHost κ, Session mount config h₀ s h := by
  unfold rehearsed at run
  split at run
  · next start =>
    split at run
    · next played =>
      cases run
      exact ⟨_, (Session.attached start).goOn played⟩
    · cases run
  · cases run

lemma unheard_mount (kind : NodeKind) : Unheard (MemoryDocument.empty.create kind).2 := by
  have hush : Hushes (fun _ => True) .empty (MemoryDocument.empty.create kind).2 := .create kind
  refine ⟨fun n => List.eq_nil_iff_forall_not_mem.2 fun b hb => ?_, fun i hi =>
    ?_, fun i m hm => ?_⟩
  · have before := hush.heard n b hb
    simp [heard, node?, MemoryDocument.empty] at before
  · have before := hush.observed i hi
    simp [MemoryDocument.empty] at before
  · rw [hush.samplers] at hm
    simp [MemoryDocument.empty] at hm

lemma unheard_blankPage : Unheard blankPage.document := unheard_mount .div

/-- Reports after the nodes of a button went to a checkbox of the same id, and a text found no
place. -/
theorem upstream_after_reuse :
    ∃ (s : Scene) (h : MemoryHost Recorder), Session ⟨0⟩ .standard blankPage s h ∧
    s.elements[(7 : UInt32)]?.map Element.widget = some .checkbox ∧
      s.elements[(9 : UInt32)]?.map Element.widget = some .scroller ∧ Upstream s h.document := by
  have run :
    (rehearsed ⟨0⟩ .standard blankPage [.patch (.create .button ⟨7, none, 0⟩),
      .event ⟨4⟩ "click" .none, .patch (.delete .button 7), .patch (.create .checkbox ⟨7, none, 1⟩),
      .event ⟨4⟩ "change" (.checked true), .patch (.create .text ⟨8, some 5, 0⟩),
      .patch (.create .scroller ⟨9, none, 0⟩)]).map
      (fun s =>
        (s.elements[(7 : UInt32)]?.map Element.widget,
          s.elements[(9 : UInt32)]?.map Element.widget)) =
        some (some .checkbox, some .scroller) := by decide +kernel
  obtain ⟨s, start, facts⟩ := Option.map_eq_some_iff.1 run
  obtain ⟨checkbox, scroller⟩ := Prod.mk.inj facts
  obtain ⟨h, session⟩ := exists_session start
  exact ⟨s, h, session, checkbox, scroller,
    upstream_of_session reached_blankPage rfl unheard_blankPage session⟩

end Sessions

end LayeredPage.Proofs
