import LayeredPage.Proofs.Hushing
import LayeredPage.Proofs.Sparing
import LayeredPage.Proofs.Stagehands

/-!
# What a build rigs up

Input stays bound on a node until the node is reset, and nothing else is bound there unless it is
asked for. A build binds the input of its kind on the first part, once, and resets nothing; an
update binds nothing and resets options only.
-/

namespace LayeredPage.Proofs

open MemoryDocument

/-! ## Input stays where it is bound -/

section Documents

variable {d d' : MemoryDocument} {n m p c : NodeId}

lemma heard_modify {f : MemoryNode → MemoryNode}
    (same : ∀ node, (f node).bindings = node.bindings) :
    heard (d.modify m f) n = heard d n := by
  unfold heard
  rw [node?_modify]
  split
  · cases d.node? n with
    | none => rfl
    | some node => exact same node
  · rfl

lemma heard_detach : heard (d.detach m) n = heard d n := by
  unfold MemoryDocument.detach
  cases d.parent? m with
  | none => rfl
  | some p =>
    dsimp only
    rw [heard_modify, heard_modify] <;> exact fun _ => rfl

lemma heard_append : heard (d.append p c) n = heard d n := by
  unfold MemoryDocument.append
  rw [heard_modify, heard_modify, heard_detach] <;> exact fun _ => rfl

lemma heard_clearChildren : heard (d.clearChildren m) n = heard d n := by
  have orphans (cs : List NodeId) (d' : MemoryDocument) :
      heard (cs.foldl (fun d c => d.modify c fun node => { node with parent := none }) d') n =
        heard d' n := by
    induction cs generalizing d' with
    | nil => rfl
    | cons c cs ih =>
      rw [List.foldl_cons, ih, heard_modify]
      exact fun _ => rfl
  unfold MemoryDocument.clearChildren
  rw [orphans, heard_modify]
  exact fun _ => rfl

lemma heard_setHtml (html : String) : heard (d.setHtml m html) n = heard d n := by
  unfold MemoryDocument.setHtml
  rw [heard_modify, heard_clearChildren]
  exact fun _ => rfl

lemma heard_create (kind : NodeKind) (there : d.issued n) :
    heard (d.create kind).2 n = heard d n := by
  unfold heard
  rw [node?_create_of_issued kind there]

lemma heard_reset (other : n ≠ m) : heard (d.reset m) n = heard d n := by
  have emptied :
      heard (d.reset m) n =
        heard (((d.detach m).clearChildren m).modify m fun node => .fresh node.kind) n := rfl
  rw [emptied]
  unfold heard
  rw [node?_modify, if_neg other]
  exact heard_clearChildren.trans heard_detach

lemma heard_written {w : NodeWrite} (quiet : idle w = true) :
    heard (written w m d) n = heard d n := by
  cases w with
  | bind => cases quiet
  | html | text => exact heard_setHtml _
  | focus | observe => rfl
  | attr | style | noStyle | linkStyle | form => exact heard_modify fun _ => rfl

lemma heard_bound {id : UInt32} {b : InputBinding} (there : d.issued m) :
    heard (written (.bind id b) m d) n = heard d n ++ if n = m then [(id, b)] else [] := by
  unfold heard
  change ((((d.modify m (recorded (.bind id b))).node? n).map (·.bindings)).getD []) = _
  rw [node?_modify]
  by_cases same : n = m
  · obtain ⟨node, found⟩ := issued_iff.1 there
    rw [if_pos same, if_pos same, same, found]
    rfl
  · rw [if_neg same, if_neg same, List.append_nil]

/-- A request changes what is bound on a node by binding there or by resetting it. -/
theorem heard_answered {r : DocumentRequest} {reply : r.Reply} (run : answer r d = .ok (reply, d'))
    (there : d.issued n)
    (unbound : ∀ id b, r ≠ .bindInput n id b) (kept : r ≠ .reset n) : heard d' n = heard d n := by
  cases r with
  | createElement kind =>
    cases run
    exact heard_create kind there
  | appendChild p c =>
    cases (require_inv (require_inv run).2).2
    exact heard_append
  | detach m =>
    cases (require_inv run).2
    exact heard_detach
  | reset m =>
    cases (require_inv run).2
    exact heard_reset fun same => kept (by rw [same])
  | setInnerHtml m html | setText m text =>
    cases (require_inv run).2
    exact heard_setHtml _
  | parent m | childCount m | innerHtml m | surfaceMetrics m => rw [read_inv run]
  | setAttribute m | removeAttribute m | setStyle m | removeStyle m | setLinkStyle m
    | setForm m | clearSurface m
  | resizeSurface m =>
    rw [change_inv run]
    exact heard_modify fun _ => rfl
  | bindInput m id b =>
    have other : n ≠ m := fun same => unbound id b (by rw [same])
    rw [change_inv run]
    unfold heard
    rw [node?_modify, if_neg other]
  | setRootProperty | removeRootProperty | loadFace | loadImage | focus | observeSize
    | unobserveSize | sampleScroll
  | cancelSampler =>
    cases run
    rfl
  | scrollDelta sampler now =>
    obtain rfl : _ = d' := congrArg Prod.snd (Except.ok.inj run)
    dsimp only
    split
    · rfl
    · rfl

lemma size_answered {r : DocumentRequest} {reply : r.Reply} (run : answer r d = .ok (reply, d')) :
    d.nodes.size ≤ d'.nodes.size := by
  have modified (m : NodeId) (f : MemoryNode → MemoryNode) :
      d.nodes.size ≤ (d.modify m f).nodes.size := (size_modify f).ge
  cases r with
  | createElement kind =>
    cases run
    simp
  | appendChild p c =>
    cases (require_inv (require_inv run).2).2
    exact size_append.ge
  | detach m =>
    cases (require_inv run).2
    obtain ⟨nodes, eq, size⟩ := exists_detach (d := d) (n := m)
    rw [eq]
    exact size.ge
  | reset m =>
    cases (require_inv run).2
    exact size_reset.ge
  | setInnerHtml m html | setText m text =>
    cases (require_inv run).2
    exact (size_setHtml _).ge
  | parent m | childCount m | innerHtml m | surfaceMetrics m => rw [read_inv run]
  | setAttribute m | removeAttribute m | setStyle m | removeStyle m | setLinkStyle m
    | setForm m | clearSurface m
  | resizeSurface m | bindInput m =>
    rw [change_inv run]
    exact modified _ _
  | setRootProperty | removeRootProperty | loadFace | loadImage | focus | observeSize
    | unobserveSize | sampleScroll
  | cancelSampler =>
    cases run
    exact le_rfl
  | scrollDelta sampler now =>
    obtain rfl : _ = d' := congrArg Prod.snd (Except.ok.inj run)
    dsimp only
    split
    · exact le_rfl
    · exact le_rfl

end Documents

section Scripts

variable {κ σ α : Type} [Core κ] {base : Nat} {l : Licence} {h : MemoryHost κ} {s : σ}

/-- Input is as it was on the nodes that there is no licence for. -/
def StillHeard (l : Licence) (d d' : MemoryDocument) : Prop :=
  ∀ n, d.issued n → ¬ l.binds n → ¬ l.resets n → heard d' n = heard d n

lemma Becoming.undisturbed {r : PatchRequest} {reply : r.Reply} {h' : MemoryHost κ}
    (becoming : Becoming base l h.document r) (run : MemoryHost.answerPatch r h = .ok (reply, h')) :
    h.document.nodes.size ≤ h'.document.nodes.size ∧ StillHeard l h.document h'.document := by
  cases r with
  | document r =>
    change ((answer r h.document).bind _) = _ at run
    cases asked : answer r h.document with
    | error b =>
      rw [asked] at run
      cases run
    | ok p =>
      rw [asked] at run
      cases run
      refine ⟨size_answered asked, fun n there unbound kept => heard_answered asked there ?_ ?_⟩
      · rintro id b rfl
        exact unbound becoming.granted
      · rintro rfl
        exact kept becoming.granted
  | addContext | removeContext | imageLoaded =>
    cases run
    exact ⟨le_rfl, fun _ _ _ _ => rfl⟩

theorem Behaves.undisturbed {script : Script Patching α} (behaves : Behaves base l script h) :
    Answers script h (fun _ h' => StillHeard l h.document h'.document) fun _ => True := by
  induction script generalizing h with
  | done a => exact fun _ _ _ _ => rfl
  | broken why => trivial
  | ask r next ih =>
    have step : MemoryHost.serve (.ask r next) h =
        (MemoryHost.answerPatch r h).bind fun p => MemoryHost.serve (next p.1) p.2 := rfl
    unfold Answers
    rw [step]
    cases run : MemoryHost.answerPatch r h with
    | error b => trivial
    | ok p =>
      obtain ⟨reply, h₁⟩ := p
      obtain ⟨grown, first⟩ := behaves.1.undisturbed run
      refine (ih reply (behaves.2 reply h₁ run)).mono (fun _ h₂ rest n there unbound kept =>
        ?_) fun _ _ => trivial
      exact (rest n (issued_of_size_le grown there) unbound kept).trans (first n there unbound kept)

lemma Minds.undisturbed {act : Work σ α} (minds : Minds base l act s h) :
    Ends act s h (fun _ _ h' => StillHeard l h.document h'.document)
    (fun _ _ h' => StillHeard l h.document h'.document)
      fun _ => True :=
  (answers_work act fun _ => _).1 (Behaves.undisturbed minds)

end Scripts

/-! ## Requests at the bench -/

/-- What a licence must allow for a request at the bench. -/
def Permits (l : Licence) (e : Element) : BenchRequest → Prop
  | .write spot (.bind ..) => l.binds (e.node spot)
  | .sample .. => l.binds e.leaf.id ∧ ∀ r, e.scroll = some r → l.cancels r.sampler
  | .clearOptions => ∀ n ∈ e.options, l.resets n.id
  | _ => True

section Bench

variable {κ : Type} [Core κ] {base : Nat} {l : Licence} {rest : List OwnedNode} {e₀ : Element}
  {d₀ : MemoryDocument} {b : Bench} {h : MemoryHost κ}

theorem AtWork.minds_perform (work : AtWork base rest e₀ d₀ b h.document) {r : BenchRequest}
    (permits : Permits l b.element r) : Minds base l (Bench.perform r) b h := by
  have adopted {ps : NodePools} {n : OwnedNode} {kind : NodeKind}
    {h' : MemoryHost κ} (parent : Spot)
    (o : Owned base ps (n :: (b.element.nodes ++ rest)) h'.document)
    (blank : h'.document.node? n.id = some (.fresh kind)) :
      Servable base l h'.document (.appendChild (b.element.node parent) n.id) := by
    have above : Known base (b.element.nodes ++ rest) (b.element.node parent) :=
      .inr (mem_held (node_mem b.element parent))
    refine proper_append o (above.cons n) List.mem_cons_self ?_
    exact not_under_of_childless (childless_of_blank o.linked blank fun _ => rfl)
      (ne_of_joined o above)
  cases r with
  | look => trivial
  | note notes => trivial
  | resizeRegion width height => trivial
  | write spot w =>
    refine minds_get_bind
      (minds_script
        (behaves_write work.owned (mem_held (node_mem b.element spot)) w fun loud => ?_))
    cases w with
    | bind id binding => exact permits
    | _ => cases loud
  | html spot =>
    refine minds_get_bind (minds_ask ?_)
    exact proper_write work.owned (mem_held (node_mem b.element spot)) rfl
      (fun _ _ same => by cases same) trivial
  | sample tracker interval =>
    have leaf : b.element.leaf.id ∈ (b.element.nodes ++ rest).map (·.id) := List.mem_cons_self
    refine minds_get_bind
      (minds_ask_bind
        (proper_write work.owned leaf rfl (fun _ _ same => by cases same) permits.1) ?_)
    intro sampler d _
    refine minds_modify_bind ?_
    cases hr : b.element.scroll with
    | none => trivial
    | some region =>
      refine minds_ask
        (proper_of_named (fun n hn => absurd hn List.not_mem_nil)
          (fun _ _ same => by cases same) ?_)
      exact permits.2 region hr
  | useFont font =>
    refine minds_bind_any (minds_focus ?_) fun _ _ _ => minds_pure _
    unfold FontCache.register
    cases font.face? with
    | none => trivial
    | some face =>
      refine minds_get_bind ?_
      split
      · trivial
      · have loading : Servable base l h.document (.loadFace face) :=
          proper_of_named (fun n hn => absurd hn List.not_mem_nil)
            (fun _ _ same => by cases same) trivial
        exact minds_ask_bind loading fun _ _ _ => trivial
  | clearOptions =>
    have held : (b.element.nodes ++ rest).Perm
        (b.element.options ++ (b.element.leaf :: b.element.parts ++ rest)) := by
      rw [Element.nodes, Element.fittings, ← List.cons_append,
        ← List.append_assoc b.element.options]
      exact List.perm_append_comm.append_right rest
    refine minds_get_bind (minds_modify_bind (minds_focus ?_))
    exact (work.owned.perm held).minds_giveBack permits
  | addPart parent kind =>
    refine minds_bind (minds_focus (minds_take work.owned.stocked kind))
      ((ends_focus _ _).2 ((work.owned.take kind).ends ?_))
    rintro n ps h' ⟨o, _, blank, _⟩
    exact minds_get_bind (minds_ask_bind (adopted parent o blank) fun _ _ _ =>
      minds_modify_bind (minds_pure _))
  | addOption parent kind =>
    refine minds_bind (minds_focus (minds_take work.owned.stocked kind))
      ((ends_focus _ _).2 ((work.owned.take kind).ends ?_))
    rintro n ps h' ⟨o, _, blank, _⟩
    refine minds_get_bind (minds_ask_bind (adopted parent o blank) fun reply d run => ?_)
    have above : Known base (n :: (b.element.nodes ++ rest)) (b.element.node parent) :=
      .inr (List.mem_cons_of_mem _ (mem_held (node_mem b.element parent)))
    have held : n.id ∈ (n :: (b.element.nodes ++ rest)).map (·.id) := List.mem_cons_self
    rw [answer_appendChild (o.issued_of_known above) (o.ours held).1] at run
    cases run
    have hung := o.append above held
    have tabbed (tab : String) :
        Servable base l (h'.document.append (b.element.node parent) n.id)
          (.setAttribute n.id "tabindex" tab) :=
      proper_write hung held rfl (fun _ _ same => by cases same) trivial
    cases focusable : kind.isFocusable with
    | false => trivial
    | true =>
      cases tabIndex : b.element.tabIndex with
      | none => trivial
      | some tab => exact minds_ask_bind (tabbed _) fun _ _ _ => minds_modify_bind (minds_pure _)

/-- What an element has for good: its leaf and its parts, its kind, and its sampler. -/
abbrev gear (e : Element) : OwnedNode × List OwnedNode × Widget × Option SamplerId :=
  (e.leaf, e.parts, e.widget, e.scroll.map (·.sampler))

/-- The same for the element at the bench. -/
abbrev fixture (b : Bench) : OwnedNode × List OwnedNode × Widget × Option SamplerId :=
  gear b.element

lemma spares_benchPools {α : Type} (act : Work NodePools α) :
    Spares fixture (Bench.onPools act) := by
  refine spares_focus ?_ act
  exact fun _ _ => rfl

lemma spares_benchFonts {α : Type} (act : Work FontCache α) :
    Spares fixture (Bench.onFonts act) := by
  refine spares_focus ?_ act
  exact fun _ _ => rfl

lemma spares_addOption (parent : Spot) (kind : NodeKind) :
    Spares fixture (Bench.addOption parent kind) := by
  have noted (n : OwnedNode) (place : Spot) : Spares fixture (do
      Bench.modifyElement fun e => { e with options := e.options ++ [n] }
      return place) := Spares.bind (spares_modify fun _ => rfl) fun _ => spares_pure _
  refine (spares_benchPools _).bind fun n => ?_
  refine spares_get.bind fun b => ?_
  refine (spares_script _).bind fun _ => ?_
  split
  · exact (spares_each _ _ fun _ => spares_script _).bind fun _ => noted n _
  · exact noted n _

/-- What adds no part and starts no sampler leaves the gear as it is. -/
lemma spares_perform (r : BenchRequest) (adds : ∀ parent kind, r ≠ .addPart parent kind)
    (samples : ∀ tracker interval, r ≠ .sample tracker interval) :
    Spares fixture (Bench.perform r) := by
  cases r with
  | look => exact spares_get.bind fun b => spares_pure _
  | note notes => exact spares_modify fun _ => rfl
  | resizeRegion width height =>
    refine spares_modify fun b => ?_
    dsimp only [fixture, gear]
    cases b.element.scroll <;> rfl
  | write spot w => exact spares_get.bind fun b => spares_script _
  | html spot => exact spares_get.bind fun b => spares_script _
  | useFont font => exact (spares_benchFonts _).bind fun _ => spares_pure _
  | clearOptions =>
    exact spares_get.bind fun b =>
      Spares.bind (spares_modify fun _ => rfl) fun _ => spares_benchPools _
  | addPart parent kind => exact absurd rfl (adds parent kind)
  | addOption parent kind => exact spares_addOption parent kind
  | sample tracker interval => exact absurd rfl (samples tracker interval)

/-- Nothing modest touches the gear. -/
lemma Modest.spares {widget : Widget} {r : BenchRequest} (modest : Modest widget r) :
    Spares fixture (Bench.perform r) := by
  refine spares_perform r ?_ ?_ <;> rintro _ _ rfl <;> exact modest

/-- A craft spares what its requests spare. -/
lemma Uses.spares {allowed : BenchRequest → Prop} {ρ : Type} {view : Bench → ρ} {α : Type}
    {craft : Craft α} (uses : Uses allowed craft)
    (each : ∀ r, allowed r → Spares view (Bench.perform r)) :
    Spares view (Bench.carryOut craft) := by
  induction craft with
  | done a => exact spares_pure a
  | broken why => exact spares_script _
  | ask r next ih => exact (each r uses.1).bind fun reply => ih reply (uses.2 reply)

/-- An update leaves the gear of its element as it is. -/
lemma spares_carryOut {widget : Widget} {α : Type} {craft : Craft α}
    (uses : Uses (Modest widget) craft) :
    Spares fixture (Bench.carryOut craft) := uses.spares fun _ modest => modest.spares

/-- An update needs a licence to reset nodes that are neither held by others nor the leaf or a
part. -/
theorem AtWork.minds_update {widget : Widget} {craft : Craft Unit}
    (uses : Uses (Modest widget) craft)
    (resets : ∀ n : NodeId, n ∉ (e₀.leaf :: e₀.parts).map (·.id) → n ∉ rest.map (·.id) → l.resets n)
    (work : AtWork base rest e₀ d₀ b h.document) (same : fixture b = gear e₀) :
    Minds base l (Bench.carryOut craft) b h := by
  induction craft generalizing b h with
  | done a => trivial
  | broken why => trivial
  | ask r next ih =>
    have modest := uses.1
    have permits : Permits l b.element r := by
      cases r with
      | sample => exact modest.elim
      | write spot w => cases w with
        | bind => exact modest.elim
        | attr | style | noStyle | linkStyle | html | text | form | focus | observe => trivial
      | clearOptions =>
        have leaf : b.element.leaf = e₀.leaf := congrArg Prod.fst same
        have parts : b.element.parts = e₀.parts := congrArg (·.2.1) same
        have distinct := work.owned.nodup_held
        rw [Element.nodes, Element.fittings, leaf, parts, ← List.cons_append,
          List.map_append, List.nodup_append,
          List.map_append, List.nodup_append] at distinct
        refine fun n hn => resets n.id (fun fixed => ?_) fun other => ?_
        · exact distinct.1.2.2 _ fixed _ (List.mem_map_of_mem hn) rfl
        · exact distinct.2.2 _ (List.mem_append_right _ (List.mem_map_of_mem hn)) _ other rfl
      | look | note | addPart | addOption | html | resizeRegion | useFont => trivial
    refine minds_bind (work.minds_perform permits) ?_
    refine (Ends.and (work.perform r) (Modest.spares modest κ b h)).mono ?_
      (fun _ _ _ _ => trivial) fun _ _ => trivial
    rintro reply b' h' ⟨work', kept⟩
    exact ih reply (uses.2 reply) work' (kept.trans same)

end Bench

/-! ## Builds -/

/-- The input that an element of a kind binds on its first part. -/
def bound : Widget → List InputBinding
  | .text => [.textInput]
  | .button => [.buttonClick]
  | .checkbox => [.checkboxToggle]
  | .textbox => [.textboxInput, .textboxChange]
  | .slider => [.sliderChange]
  | .dropdown => [.dropdownChange]
  | .radioSet => [.radioSetChange]
  | .scroller | .eventBlocker => []

/-- The reply to a request of a build, and the input that it binds; nothing for what no build asks
for. -/
def Tally.rig (t : Tally) : (r : BenchRequest) → Option (r.Reply × List (UInt32 × InputBinding))
  | .addPart .. => some (.part t.parts, [])
  | .sample .. => if t.sampled then none else some ((), [])
  | .write spot (.bind id b) => if spot = .part 0 ∧ 0 < t.parts then some ((), [(id, b)]) else none
  | .write .. => some ((), [])
  | _ => none

/-- The input that a craft binds on the first part, if it only adds parts, writes to nodes, and
starts one sampler at most. -/
def rigging {α : Type} : Craft α → Tally → Option (List (UInt32 × InputBinding))
  | .done _, _ => some []
  | .ask r next, t => do
    let (reply, new) ← t.rig r
    return new ++ (← rigging (next reply) (t.after r))
  | .broken _, _ => none

/-- A build binds the input of its kind, under its id. -/
theorem build_rigging (config : Config) (id : UInt32) (widget : Widget) :
    rigging (Craft.build config id widget) ⟨0, false⟩ = some ((bound widget).map (id, ·)) := by
  cases widget <;> rfl

/-- An element with as many parts as a craft has added, with its input on the first one. -/
structure Rigged (t : Tally) (input : List (UInt32 × InputBinding)) (e : Element)
    (d : MemoryDocument) : Prop where
  parts : e.parts.length = t.parts
  sampled : e.scroll.isSome = t.sampled
  heard : ∀ (i : Nat) (n : OwnedNode), e.parts[i]? = some n →
    heard d n.id = if i = 0 then input else []
  partless : t.parts = 0 → input = []

section Builds

variable {κ : Type} [Core κ] {base : Nat} {l : Licence} {rest : List OwnedNode} {e₀ : Element}
  {d₀ : MemoryDocument}
  {b : Bench} {h : MemoryHost κ} {t : Tally} {input new : List (UInt32 × InputBinding)}

lemma AtWork.minds_rig (work : AtWork base rest e₀ d₀ b h.document)
    (rigged : Rigged t input b.element h.document)
    (binds : ∀ n ∈ b.element.nodes.map (·.id), l.binds n) {r : BenchRequest} {reply : r.Reply}
    (rig : t.rig r = some (reply, new)) : Minds base l (Bench.perform r) b h := by
  refine work.minds_perform ?_
  cases r with
  | write spot w => cases w with
    | bind => exact binds _ (node_mem b.element spot)
    | _ => trivial
  | sample =>
    have still : t.sampled = false := by
      cases sampled : t.sampled with
      | false => rfl
      | true => simp [Tally.rig, sampled] at rig
    refine ⟨binds _ (node_mem b.element .leaf), fun r scroll => ?_⟩
    have scrolls := rigged.sampled
    rw [scroll, still] at scrolls
    cases scrolls
  | clearOptions => cases rig
  | look | note | addPart | addOption | html | resizeRegion | useFont => trivial

omit [Core κ] in
lemma parts_nodup (work : AtWork base rest e₀ d₀ b h.document) :
    (b.element.parts.map (·.id)).Nodup := by
  have distinct := work.owned.nodup_held
  rw [Element.nodes, Element.fittings, ← List.cons_append, List.map_append,
    List.nodup_append, List.map_append,
    List.nodup_append, List.map_cons, List.nodup_cons] at distinct
  exact distinct.1.1.2

lemma AtWork.ends_rig (work : AtWork base rest e₀ d₀ b h.document)
    (rigged : Rigged t input b.element h.document)
    {r : BenchRequest} {reply : r.Reply} (rig : t.rig r = some (reply, new)) :
    Ends (Bench.perform r) b h
      (fun reply' b' h' => reply' = reply ∧
        Rigged (t.after r) (input ++ new) b'.element h'.document)
      (fun _ _ _ => True) fun _ => True := by
  have issued (n : OwnedNode) (hn : n ∈ b.element.nodes) : h.document.issued n.id :=
    work.owned.issued (List.mem_append_left _ hn)
  have part {i : Nat} {n : OwnedNode} (hn : b.element.parts[i]? = some n) : n ∈ b.element.nodes :=
    List.mem_cons_of_mem _ (List.mem_append_left _ (List.mem_of_getElem? hn))
  cases r with
  | look | note | addOption | clearOptions | html | resizeRegion | useFont => cases rig
  | write spot w =>
    obtain ⟨target, held, at_spot⟩ := exists_node b.element spot
    refine (ends_bind _ _ _).2
      ((ends_get _).2 ((ends_script _ _).2 ((answers_write w (at_spot ▸ issued target held)).2 ?_)))
    cases quiet : idle w with
    | true =>
      obtain rfl : new = [] := by
        cases w with
        | bind => cases quiet
        | _ =>
          cases rig
          rfl
      rw [List.append_nil]
      refine ⟨rfl, rigged.parts, rigged.sampled, fun i n hn => ?_, rigged.partless⟩
      rw [heard_written quiet]
      exact rigged.heard i n hn
    | false =>
      cases w with
      | bind id binding =>
        obtain ⟨rfl, some_part⟩ : spot = .part 0 ∧ 0 < t.parts := by
          by_contra no
          simp [Tally.rig, no] at rig
        obtain rfl : new = [(id, binding)] := by
          simp only [Tally.rig, some_part, and_self, if_true, Option.some.injEq,
            Prod.mk.injEq] at rig
          exact rig.2.symm
        have inside : 0 < b.element.parts.length := rigged.parts ▸ some_part
        have first : b.element.node (.part 0) = (b.element.parts[0]).id := by
          simp [Element.node, Element.part?, List.getElem?_eq_getElem inside]
        refine ⟨rfl, rigged.parts, rigged.sampled, fun i n hn => ?_, fun none =>
          absurd none some_part.ne'⟩
        rw [heard_bound (at_spot ▸ issued target held), rigged.heard i n hn, first]
        obtain ⟨there, rfl⟩ := List.getElem?_eq_some_iff.1 hn
        by_cases zero : i = 0
        · subst zero
          rw [if_pos rfl, if_pos rfl, if_pos rfl]
        · rw [if_neg zero, if_neg zero, if_neg, List.append_nil]
          intro same
          refine zero ((List.getElem?_inj (by simpa using there) (parts_nodup work)).1 ?_)
          simpa [List.getElem?_eq_getElem there, List.getElem?_eq_getElem inside] using same
      | _ => cases quiet
  | sample tracker interval =>
    obtain ⟨still, rfl⟩ : t.sampled = false ∧ new = [] := by
      cases sampled : t.sampled with
      | false =>
        simp only [Tally.rig, sampled, Bool.false_eq_true, if_false, Option.some.injEq,
          Prod.mk.injEq] at rig
        exact ⟨rfl, rig.2.symm⟩
      | true => simp [Tally.rig, sampled] at rig
    have scroll : b.element.scroll = none := by
      rw [← Option.isNone_iff_eq_none, ← Option.not_isSome, rigged.sampled, still]
      rfl
    refine (ends_bind _ _ _).2 ((ends_get _).2 ((ends_bind _ _ _).2 ((ends_ask _ _).2 ?_)))
    rw [scroll, List.append_nil]
    exact ⟨rfl, rigged.parts, rfl, rigged.heard, rigged.partless⟩
  | addPart parent kind =>
    cases rig
    have taking :
        Minds base ⟨fun _ => False, fun _ => False, fun _ => False⟩
          (Pools.take kind : Work NodePools OwnedNode)
          b.pools h := minds_take work.owned.stocked kind
    refine (ends_bind _ _ _).2
      ((ends_focus _ _).2 ((Ends.and (work.owned.take kind) taking.undisturbed).mono ?_
        (fun _ _ _ _ => trivial) fun _ _ => trivial))
    rintro n ps h' ⟨⟨o, _, blank, _⟩, kept⟩
    have above : Known base (n :: (b.element.nodes ++ rest)) (b.element.node parent) :=
      .inr (List.mem_cons_of_mem _ (mem_held (node_mem b.element parent)))
    refine (ends_bind _ _ _).2 ((ends_get _).2 ((ends_bind _ _ _).2 ((ends_ask _ _).2 ?_)))
    rw [answer_appendChild (o.issued_of_known above) (issued_of_node? blank)]
    rw [List.append_nil]
    refine ⟨congrArg Spot.part rigged.parts, ?_, rigged.sampled, fun i m hm => ?_, fun none =>
      absurd none (Nat.succ_ne_zero _)⟩
    · simp [Tally.after, rigged.parts]
    rw [heard_append]
    change (b.element.parts ++ [n])[i]? = some m at hm
    rw [List.getElem?_append] at hm
    split at hm
    · rw [kept m.id (issued m (part hm)) id id]
      exact rigged.heard i m hm
    · next beyond =>
      obtain ⟨last, rfl⟩ : b.element.parts.length = i ∧ m = n := by
        obtain ⟨inside, rfl⟩ := List.getElem?_eq_some_iff.1 hm
        simp only [List.length_singleton] at inside
        exact ⟨by omega, by simp⟩
      rw [heard_of_node? blank]
      split
      · next none => exact (rigged.partless (rigged.parts.symm.trans (last ▸ none))).symm
      · rfl

/-- A craft that only rigs its element up does so whatever else is on the page. -/
theorem AtWork.rig {craft : Craft Unit} (work : AtWork base rest e₀ d₀ b h.document)
    (rigged : Rigged t input b.element h.document) (rigs : rigging craft t = some new)
    (binds : ∀ n : NodeId, base ≤ n.index → n ∉ rest.map (·.id) → l.binds n) :
    Minds base l (Bench.carryOut craft) b h ∧
      Ends (Bench.carryOut craft) b h
        (fun _ b' h' => ∃ t', Rigged t' (input ++ new) b'.element h'.document)
        (fun _ _ _ => True) fun _ => True := by
  induction craft generalizing t input new b h with
  | done a =>
    cases rigs
    exact ⟨trivial, t, (List.append_nil input).symm ▸ rigged⟩
  | broken why => cases rigs
  | ask r next ih =>
    obtain ⟨⟨reply, now⟩, rig, later⟩ := Option.bind_eq_some_iff.1 rigs
    obtain ⟨after, rigs', eq⟩ := Option.bind_eq_some_iff.1 later
    obtain rfl : now ++ after = new := Option.some.inj eq
    have own (n) (hn : n ∈ b.element.nodes.map (·.id)) : l.binds n := by
      have distinct := work.owned.nodup_held
      rw [List.map_append, List.nodup_append] at distinct
      exact binds n (work.owned.ours (mem_held hn)).2 fun other => distinct.2.2 n hn n other rfl
    have step := (Ends.and (work.perform r) (work.ends_rig rigged rig))
    refine ⟨minds_bind (work.minds_rig rigged own rig)
      (step.mono ?_ (fun _ _ _ _ => trivial) fun _ _ => trivial),
      (ends_bind _ _ _).2 (step.mono ?_ (fun _ _ _ _ => trivial) fun _ _ => trivial)⟩
    · rintro _ b' h' ⟨work', rfl, rigged'⟩
      exact (ih _ work' rigged' rigs').1
    · rintro _ b' h' ⟨work', rfl, rigged'⟩
      rw [← List.append_assoc]
      exact (ih _ work' rigged' rigs').2

end Builds

end LayeredPage.Proofs
