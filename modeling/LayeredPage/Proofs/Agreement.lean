import LayeredPage.Proofs.Accord
import LayeredPage.Proofs.Licences

/-!
# A page and a document in memory agree

The same patches, put once to a document in memory and once to a page, come to the same: each patch
has the same result and makes the same calls to the core, and in the end both have the same tree. It
is the tree that the page really has, so what the chassis counts on it decides in the same way.
-/

namespace LayeredPage.Proofs

open MemoryDocument

/-- What a patch came to: its result, and the calls to the core that were made while it was applied,
latest first. -/
structure Outcome where
  result : Except PatchError Unit
  calls : List CoreCall

section Reciting

variable {ε : Type} (answer : Script.Answerer Patching ε) (log : ε → List CoreCall)

/-- Puts patches one after the other to a host whose core keeps a log, latest first. -/
def recite : List Patch → Scene → StateT ε (Except Breach) (List Outcome × Scene)
  | [], s => pure ([], s)
  | p :: ps, s => do
    let before := log (← get)
    let (result, s) ← Script.run answer (Scene.apply p s)
    let after := log (← get)
    let (rest, s) ← recite ps s
    return (⟨result, after.take (after.length - before.length)⟩ :: rest, s)

/-- Takes over a mount on a host and puts patches to it. -/
def rehearse (mount : NodeId) (config : Config) (ps : List Patch) :
    StateT ε (Except Breach) (Except PatchError (List Outcome × Scene)) := do
  match ← Script.run answer (Scene.attach mount config) with
  | .ok s => return .ok (← recite answer log ps s)
  | .error why => return .error why

variable {answer log} {mount : NodeId} {config : Config} {p : Patch} {ps : List Patch}
  {s s₁ : Scene} {h h₁ : ε} {result : Except PatchError Unit} {why : Breach}

lemma recite_cons (run : Script.run answer (Scene.apply p s) h = .ok ((result, s₁), h₁)) :
    recite answer log (p :: ps) s h = (recite answer log ps s₁ h₁).map fun r =>
      ((⟨result, (log h₁).take ((log h₁).length - (log h).length)⟩ :: r.1.1, r.1.2), r.2) := by
  conv_lhs => unfold recite
  simp only [bind, StateT.bind, get, getThe, MonadStateOf.get, StateT.get, pure,
    Except.pure, Except.bind, run]
  cases recite answer log ps s₁ h₁ <;> rfl

lemma recite_cons_error (run : Script.run answer (Scene.apply p s) h = .error why) :
    recite answer log (p :: ps) s h = .error why := by
  conv_lhs => unfold recite
  simp only [bind, StateT.bind, get, getThe, MonadStateOf.get, StateT.get, pure,
    Except.pure, Except.bind, run]

lemma rehearse_ok (run : Script.run answer (Scene.attach mount config) h = .ok (.ok s, h₁)) :
    rehearse answer log mount config ps h = (recite answer log ps s h₁).map fun r =>
      (.ok r.1, r.2) := by
  unfold rehearse
  simp only [bind, StateT.bind, run, Except.bind]
  cases recite answer log ps s h₁ <;> rfl

end Reciting

/-- A document in memory with a mount of this kind, and a core that has these images. -/
def MemoryHost.withMount (kind : NodeKind) (loaded : Std.ExtTreeSet String) : MemoryHost Recorder :=
  ⟨(MemoryDocument.empty.create kind).2, { Recorder.start with loaded }⟩

/-- A document on a page that has taken over an element as its mount. -/
def BrowserDocument.withMount (page : Page) (mount : ElementId) : BrowserDocument :=
  ((BrowserDocument.start page).opened.adopt mount).2

/-- A rehearsal in memory. -/
def rehearseInMemory (kind : NodeKind) (loaded : Std.ExtTreeSet String)
    (config : Config) (ps : List Patch) :
    Except Breach (Except PatchError (List Outcome × Scene) × MemoryHost Recorder) :=
  rehearse MemoryHost.answerPatch (·.core.calls) ⟨0⟩ config ps (MemoryHost.withMount kind loaded)

/-- A rehearsal in an element of a page. -/
def rehearseOnPage (page : Page) (mount : ElementId) (config : Config) (ps : List Patch) :
    Except Breach (Except PatchError (List Outcome × Scene) × BrowserDocument) :=
  rehearse BrowserDocument.answerPatch (fun d => coreCalls d.page) ⟨0⟩ config ps
    (BrowserDocument.withMount page mount)

/-- What an element is called tells its kind. -/
lemma tagName_injective : Function.Injective NodeKind.tagName := by
  intro kind kind' same
  cases kind <;> cases kind' <;> first | rfl | simp [NodeKind.tagName] at same

/-- Both documents have the same tree, and it is the one on the page: under the mount whatever was
there before, and then the elements of its nodes. -/
structure Coincides (front : List ElementId) (m : MemoryDocument) (d : BrowserDocument) : Prop where
  size : d.slots.size = m.nodes.size
  kinds : ∀ n node, m.node? n = some node → ∃ x element, d.element? n = some x ∧
    d.page.element? x = some element ∧ element.tag = node.kind.tagName ∧
    ∀ kind : NodeKind, element.tag = kind.tagName → kind = node.kind
  distinct : ∀ n k x, d.element? n = some x → d.element? k = some x → n = k
  parents : ∀ n, d.parent? n = m.parent? n
  children : ∀ n, d.children n = m.children n
  above : ∀ n x, d.element? n = some x → 1 ≤ n.index →
    (d.page.parent? x).map some = (d.parent? n).map d.element?
  below : ∀ n x, d.element? n = some x → ∃ own,
    d.page.children x = (if n.index = 0 then front else []) ++ own ∧
    own.map some = (d.children n).map d.element?
  counts : ∀ n, m.issued n → 1 ≤ n.index → ∃ count, answer (.childCount n) m = .ok (count, m) ∧
    BrowserDocument.answer (.childCount n) d = .ok (count, d)

section Agreement

variable {g : Ground} {past : List CoreCall} {m : MemoryDocument} {h : MemoryHost Recorder}
  {d : BrowserDocument} {mount : NodeId} {s : Scene}

lemma map_some_filterMap {α β : Type} {f : α → Option β} {xs : List α}
    (all : ∀ x ∈ xs, (f x).isSome) :
    (xs.filterMap f).map some = xs.map f := by
  induction xs with
  | nil => rfl
  | cons x xs ih =>
    obtain ⟨y, hy⟩ := Option.isSome_iff_exists.1 (all x List.mem_cons_self)
    rw [List.filterMap_cons_some hy, List.map_cons, List.map_cons, hy, ih fun z hz =>
      all z (List.mem_cons_of_mem _ hz)]

lemma Reflects.coincides (reflects : Reflects g m d) (kindred : g.kindred) :
    Coincides g.front m d := by
  have parents (n : NodeId) : d.parent? n = m.parent? n := by
    rw [← parent?_slotTies, reflects.ties, parent?_nodeTies]
  have children (n : NodeId) : d.children n = m.children n := by
    rw [← children_slotTies, reflects.ties, children_nodeTies]
  refine ⟨reflects.size, fun n node hn => ?_, reflects.shows.distinct, parents, children,
    fun n x hx own => ?_,
    fun n x hx => ⟨_, reflects.shows.children hx, ?_⟩,
    fun n hn own => ⟨_, answer_childCount hn, reflects.counts hn own⟩⟩
  · obtain ⟨x, hx⟩ := reflects.exists_element? (issued_of_node? hn)
    obtain ⟨o, node', ho, found, portrays⟩ := reflects.shows.portraits n x hx
    obtain ⟨element, he, rfl⟩ := Option.map_eq_some_iff.1 ho
    cases hn.symm.trans found
    have tag : element.tag = node.kind.tagName := portrays.tag (.inl kindred)
    exact ⟨x, element, hx, he, tag, fun kind same => tagName_injective (same.symm.trans tag)⟩
  · rw [reflects.shows.parent? hx own, parents]
    cases above : m.parent? n with
    | none => rfl
    | some q =>
      obtain ⟨y, hy⟩ := reflects.exists_element? (reflects.linked.issued_parent above)
      simp [hy]
  · rw [children]
    refine map_some_filterMap fun c hc => ?_
    rw [reflects.linked] at hc
    exact (reflects.shows.issued c).trans (issued_of_parent? hc)

lemma Concur.mono {α : Type} {R R' : MemoryHost Recorder → BrowserDocument → Prop}
    {run : Except Breach (α × MemoryHost Recorder)}
    {run' : Except Breach (α × BrowserDocument)} (concur : Concur R run run')
    (all : ∀ h d, R h d → R' h d) : Concur R' run run' := by
  cases concur with
  | value related => exact .value (all _ _ related)
  | breach => exact .breach

lemma Concur.map {α β : Type} {R : MemoryHost Recorder → BrowserDocument → Prop}
    {run : Except Breach (α × MemoryHost Recorder)}
    {run' : Except Breach (α × BrowserDocument)} (concur : Concur R run run') (f : α → β) :
    Concur R (run.map fun r => (f r.1, r.2)) (run'.map fun r => (f r.1, r.2)) := by
  cases concur with
  | value related => exact .value related
  | breach => exact .breach

/-- The log of the page is longer by what was there before, and gains the same. -/
lemma take_of_longer {α : Type} (before after past : List α) :
    (after ++ past).take ((after ++ past).length - (before ++ past).length) =
      after.take (after.length - before.length) := by
  have less : (after ++ past).length - (before ++ past).length = after.length - before.length := by
    rw [List.length_append, List.length_append]
    omega
  rw [less, List.take_append_of_le_length (by omega)]

/-- One patch after the other comes to the same on both hosts. -/
lemma Tandem.recite (ps : List Patch) (tandem : Tandem g past h d) (sound : Sound 1 mount s h) :
    Concur (Tandem g past) (Proofs.recite MemoryHost.answerPatch (·.core.calls) ps s h)
      (Proofs.recite BrowserDocument.answerPatch (fun d => coreCalls d.page) ps s d) := by
  induction ps generalizing s h d with
  | nil => exact .value tandem
  | cons p ps ih =>
    have step := tandem.serve (sound.minds_apply p)
    unfold MemoryHost.serve at step
    generalize run : Script.run MemoryHost.answerPatch (Scene.apply p s) h = r at step
    generalize run' : Script.run BrowserDocument.answerPatch (Scene.apply p s) d = r' at step
    cases step with
    | @value a h₁ d₁ tandem₁ =>
      have gained := take_of_longer h.core.calls h₁.core.calls past
      rw [← tandem.calls, ← tandem₁.calls] at gained
      rw [recite_cons run, recite_cons run', gained]
      exact (ih tandem₁ (sound.patched run)).map fun r =>
        (⟨a.1, h₁.core.calls.take (h₁.core.calls.length - h.core.calls.length)⟩ :: r.1, r.2)
    | breach =>
      rw [recite_cons_error run, recite_cons_error run']
      exact .breach

/-- So does taking over a mount that stands alone, and patching it. -/
lemma Tandem.rehearse (tandem : Tandem g past h d) (single : h.document.nodes.size = 1)
    (config : Config) (ps : List Patch) :
    Concur (Tandem g past) (Proofs.rehearse MemoryHost.answerPatch (·.core.calls) ⟨0⟩ config ps h)
      (Proofs.rehearse BrowserDocument.answerPatch (fun d => coreCalls d.page)
        ⟨0⟩ config ps d) := by
  have behaves := behaves_attach (l := .free) tandem.linked tandem.mounted config
  have attached := attach_sound tandem.linked tandem.mounted config
  rw [single] at behaves attached
  have step := tandem.serve behaves
  unfold Answers at attached
  unfold MemoryHost.serve at step attached
  generalize run :
    Script.run MemoryHost.answerPatch (Scene.attach ⟨0⟩ config) h = r at step attached
  generalize run' : Script.run BrowserDocument.answerPatch (Scene.attach ⟨0⟩ config) d = r' at step
  cases step with
  | value tandem =>
    obtain ⟨s, rfl, _, sound⟩ := attached
    rw [rehearse_ok run, rehearse_ok run']
    exact (tandem.recite ps sound).map Except.ok
  | breach => exact attached.elim

end Agreement

/-- The parents on a page, and the children of its mount, are elements of it. -/
structure WholePage (page : Page) (mount : ElementId) : Prop where
  parents : ∀ x y, page.parent? x = some y → y.index < page.elements.size
  children : ∀ y ∈ page.children mount, y.index < page.elements.size

/-- What there is on a page before a mount is taken over. -/
def ground (page : Page) (mount : ElementId) (kindred : Prop) : Ground :=
  ⟨page.children mount, page.elements.size, kindred⟩

section Starting

variable {page : Page} {e : ElementId} {element : PageElement} {kind : NodeKind} {kindred : Prop}

/-- A fresh mount in memory stands for the element that was taken over. -/
lemma tandem_withMount (found : page.element? e = some element)
    (tag : kindred → element.tag = kind.tagName)
    (whole : WholePage page e) (able : page.lacks .createElement = false) :
    Tandem (ground page e kindred) (coreCalls page) (MemoryHost.withMount kind page.core.loaded)
      (BrowserDocument.withMount page e) := by
  have placed : e.index < page.elements.size := by
    by_contra outside
    rw [Page.element?, Array.getElem?_eq_none (Nat.le_of_not_lt outside)] at found
    cases found
  have outlined : outline? page e = some (outline element) := by
    rw [outline?, found, Option.map_some]
  have node? (n : NodeId) : (MemoryHost.withMount kind page.core.loaded).document.node? n =
      if n = ⟨0⟩ then some (.fresh kind) else none := by
    have made := node?_create (d := .empty) (m := n) kind
    rw [show MemoryDocument.empty.node? n = none from rfl] at made
    exact made
  have image (n : NodeId) : (BrowserDocument.withMount page e).element? n = if n =
      ⟨0⟩ then some e else none := by
    unfold BrowserDocument.withMount BrowserDocument.element? BrowserDocument.slot?
      BrowserDocument.adopt
    rcases n with ⟨_ | n⟩
    · rfl
    · rfl
  have only {n : NodeId} {x : ElementId} (hx : (BrowserDocument.withMount page e).element? n =
    some x) : n = ⟨0⟩ ∧ x = e := by
    rw [image] at hx
    split at hx
    · next root => exact ⟨root, (Option.some.inj hx).symm⟩
    · cases hx
  have blank (n : NodeId) : (MemoryHost.withMount kind page.core.loaded).document.parent? n = none ∧
      (MemoryHost.withMount kind page.core.loaded).document.children n = [] := by
    unfold MemoryDocument.parent? MemoryDocument.children
    rw [node?]
    split <;> exact ⟨rfl, rfl⟩
  have ties : slotTies (BrowserDocument.withMount page e) =
      nodeTies (MemoryHost.withMount kind page.core.loaded).document := by
    simp [slotTies, nodeTies, BrowserDocument.withMount, MemoryHost.withMount,
      BrowserDocument.adopt, MemoryDocument.create,
      BrowserDocument.start, BrowserDocument.opened, MemoryDocument.empty, MemoryNode.fresh]
  refine ⟨⟨ties,
    ⟨fun n => ?_, fun n x hx => ?_, fun n k x hx hk => ?_, fun x hx => ?_, fun n x hx own =>
      ?_, fun n x hx => ?_,
    fun x y _ => whole.parents x y, whole.children, le_rfl⟩, fun n q => ?_, rfl,
    rfl⟩, able, rfl, rfl⟩
  · rw [image, Bool.eq_iff_iff, issued_iff, node?]
    split <;> simp
  · exact (only hx).2 ▸ placed
  · rw [(only hx).1, (only hk).1]
  · exact (only hx).2 ▸ placed
  · exact absurd own (by simp [(only hx).1])
  · obtain ⟨rfl, rfl⟩ := only hx
    refine ⟨outline element, .fresh kind, outlined, by rw [node?, if_pos rfl], ?_, ?_, fun own =>
      ?_, fun own => ?_, fun own => ?_⟩
    · exact fun either => tag (either.resolve_right (Nat.not_succ_le_zero 0))
    · rw [if_pos rfl, ground, pageChildren_eq, outlined]
      exact (List.append_nil _).symm
    · cases own
    · cases own
    · cases own
  · rw [(blank n).1, (blank q).2]
    simp

/-- On every page, whatever is mounted in it and whatever patches are put to it, the page does what
a document in memory does. -/
theorem hosts_agree (found : page.element? e = some element) (tag : element.tag = kind.tagName)
    (whole : WholePage page e)
    (able : page.lacks .createElement = false) (config : Config) (ps : List Patch) :
    Concur (fun h d => Coincides (page.children e) h.document d)
    (rehearseInMemory kind page.core.loaded config ps)
      (rehearseOnPage page e config ps) := by
  have single : (MemoryHost.withMount kind page.core.loaded).document.nodes.size = 1 := by
    simp [MemoryHost.withMount, MemoryDocument.create, MemoryDocument.empty]
  have tandem := tandem_withMount found (fun _ : True => tag) whole able
  exact (tandem.rehearse single config ps).mono fun _ _ tandem =>
    tandem.toReflects.coincides trivial

lemma wholePage_fresh : WholePage .fresh ⟨3⟩ := by
  have within : ∀ i < 5, ((Page.fresh.parent? ⟨i⟩).all fun y => decide (y.index < 5)) =
      true := by decide +kernel
  refine ⟨fun x y hy => ?_, fun y hy => absurd hy List.not_mem_nil⟩
  by_cases inside : x.index < 5
  · have all := within x.index inside
    rw [hy] at all
    exact of_decide_eq_true all
  · rw [Page.parent?, Page.element?, Array.getElem?_eq_none (Nat.le_of_not_lt inside)] at hy
    cases hy

/-- Whether these patches are accepted and refused like this in memory. -/
def settles (ps : List Patch) (verdicts : List Bool) : Bool :=
  match rehearseInMemory .div ∅ .standard ps with
  | .ok (.ok (outcomes, _), _) => outcomes.map (·.result.isOk) == verdicts
  | _ => false

/-- A frame with a button in it, which cannot be deleted before the button. -/
def framedButton : List Patch :=
  [.createFrame ⟨1, none, 0⟩, .create .button ⟨7, some 1, 0⟩, .deleteFrame 1, .delete .button 7,
    .deleteFrame 1]

theorem hosts_agree_on_a_framed_button :
    ∃ (outcomes : List Outcome) (s : Scene) (h : MemoryHost Recorder) (d : BrowserDocument),
      rehearseInMemory .div ∅ .standard framedButton = .ok (.ok (outcomes, s), h) ∧
      rehearseOnPage .fresh ⟨3⟩ .standard framedButton = .ok (.ok (outcomes, s), d) ∧
      outcomes.map (·.result.isOk) = [true, true, false, true, true] ∧
      Coincides [] h.document d := by
  have agree :
      Concur (fun h d => Coincides [] h.document d) (rehearseInMemory .div ∅ .standard framedButton)
        (rehearseOnPage .fresh ⟨3⟩ .standard framedButton) :=
    have found : Page.fresh.element? ⟨3⟩ = some Page.fresh.elements[3] := rfl
    hosts_agree found rfl wholePage_fresh rfl .standard framedButton
  have run : settles framedButton [true, true, false, true, true] = true := by decide +kernel
  unfold settles at run
  generalize rehearseInMemory .div ∅ .standard framedButton = r at run agree
  generalize rehearseOnPage .fresh ⟨3⟩ .standard framedButton = r' at agree
  cases agree with
  | @value a h d coincides =>
    rcases a with why | ⟨outcomes, s⟩
    · cases run
    · exact ⟨outcomes, s, h, d, rfl, rfl, eq_of_beq run, coincides⟩
  | breach => cases run

end Starting

end LayeredPage.Proofs
