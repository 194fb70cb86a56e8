import LayeredPage.Proofs.Driving
import LayeredPage.Proofs.Relinking
import LayeredPage.Proofs.Retouching

/-!
# Faces are loaded at first sight

Five kinds of elements use fonts, and a text uses the font of its links once more for a new content.
All of them go through one cache, which forgets no face when an element is deleted. So the document
is asked for the faces of the fonts that accepted updates carried, in their order and without
repetitions.
-/

namespace LayeredPage

/-! ## Fonts and their faces -/

namespace FontOrigin

/-- Where a font is loaded from. -/
def address? : FontOrigin → Option String
  | .installed => none
  | .web address | .bundled address => some address

/-- Fonts that a stylesheet on the web declares. -/
def declared : FontOrigin → Bool
  | .web url => Text.contains Font.stylesheetHost.toList url.toList
  | .installed | .bundled _ => false

end FontOrigin

namespace Proofs

variable {f g : Font}

/-- The source of a face with its kind and its address. -/
def sourced (declared : Bool) (address : String) : FaceSource :=
  if declared then .stylesheet address else .file address

lemma face?_eq (f : Font) :
    f.face? = f.origin.address?.map fun address =>
      ⟨f.family, sourced f.origin.declared address, f.style, f.weight⟩ := by
  obtain ⟨family, origin, style, weight⟩ := f
  cases origin <;> rfl

lemma sourced_inj {declared declared' : Bool} {address address' : String} :
    sourced declared address = sourced declared' address' ↔ declared = declared' ∧
    address = address' := by
  cases declared <;> cases declared' <;> simp [sourced]

/-- Fonts share a face if they have their family, the kind and the address of their source, their
style, and their weight in common. -/
theorem face?_eq_iff (loads : f.face?.isSome) : f.face? = g.face? ↔ f.family = g.family ∧
    f.origin.declared = g.origin.declared ∧ f.origin.address? = g.origin.address? ∧
    f.style = g.style ∧ f.weight = g.weight := by
  rw [face?_eq, Option.isSome_map] at loads
  obtain ⟨address, here⟩ := Option.isSome_iff_exists.1 loads
  rw [face?_eq, face?_eq, here]
  cases g.origin.address? with
  | none => simp
  | some address' =>
    simp only [Option.map_some, Option.some.injEq, FaceRequest.mk.injEq, sourced_inj, and_assoc]

/-! ## The document and the cache -/

/-- The faces in the order in which they were loaded. -/
def inOrder (fonts : FontCache) : List FaceRequest := fonts.faces.reverse

/-- The face that a request loads. -/
def loaded? : PatchRequest → Option FaceRequest
  | .document (.loadFace face) => some face
  | _ => none

/-- Requests that load nothing. -/
def Faceless : PatchRequest → Prop
  | .document (.loadFace _) => False
  | _ => True

lemma loaded?_of_faceless {r : PatchRequest} (faceless : Faceless r) : loaded? r = none := by
  cases r with
  | document r =>
    cases r with
    | loadFace => exact faceless.elim
    | _ => rfl
  | _ => rfl

/-- The pools are in order, and the document was asked for these faces after those from before. -/
structure Abreast {κ σ : Type} (pools : σ → NodePools) (seen : σ → List FaceRequest)
    (before : List FaceRequest) (s : σ) (h : MemoryHost κ) : Prop where
  stocked : Stocked true (pools s)
  faces : h.document.faces = before ++ seen s

section Requests

open MemoryDocument

variable {d d' : MemoryDocument}

lemma faces_append (p c : NodeId) : (d.append p c).faces = d.faces := by
  obtain ⟨nodes, eq, _⟩ := exists_append (d := d) (p := p) (c := c)
  rw [eq]

lemma faces_answered {r : DocumentRequest} {reply : r.Reply} (run : answer r d = .ok (reply, d')) :
    d'.faces = d.faces ++ (loaded? (.document r)).toList := by
  have plain (same : d'.faces = d.faces) : d'.faces = d.faces ++ [] := by rw [same, List.append_nil]
  cases r with
  | loadFace face =>
    cases run
    rfl
  | createElement kind =>
    cases run
    exact plain rfl
  | appendChild p c =>
    cases (require_inv (require_inv run).2).2
    exact plain (faces_append p c)
  | detach n =>
    cases (require_inv run).2
    obtain ⟨nodes, eq, _⟩ := exists_detach (d := d) (n := n)
    exact plain (by rw [eq])
  | reset n =>
    cases (require_inv run).2
    obtain ⟨nodes, eq, _⟩ := exists_reset (d := d) (n := n)
    exact plain (by rw [eq])
  | setInnerHtml n html | setText n text =>
    cases (require_inv run).2
    obtain ⟨nodes, eq, _⟩ := exists_setHtml (d := d) (n := n) _
    exact plain (by rw [eq])
  | parent n | childCount n | innerHtml n | surfaceMetrics n =>
    exact plain (by rw [read_inv run])
  | setAttribute n | removeAttribute n | setStyle n | removeStyle n | setLinkStyle n
    | setForm n | bindInput n
  | clearSurface n | resizeSurface n =>
    exact plain (by rw [change_inv run]; rfl)
  | setRootProperty | removeRootProperty | loadImage | focus | observeSize | unobserveSize
    | sampleScroll | cancelSampler =>
    cases run
    exact plain rfl
  | scrollDelta sampler now =>
    obtain rfl : _ = d' := congrArg Prod.snd (Except.ok.inj run)
    refine plain ?_
    dsimp only
    split <;> rfl

end Requests

section Steps

variable {I : Interface} {ε σ τ α β : Type} {answer : Script.Answerer I ε} {R : σ → ε → Prop}

lemma upholds_each {o : Option β} {f : β → Action (Script I) σ Unit}
    (all : ∀ b, Upholds answer R (f b)) :
    Upholds answer R (each o f) := by
  cases o with
  | none => exact upholds_pure ()
  | some b => exact all b

lemma upholds_foldlM {xs : List β} {f : α → β → Action (Script I) σ α}
    (all : ∀ a x, Upholds answer R (f a x)) (a : α) :
    Upholds answer R (xs.foldlM f a) := by
  induction xs generalizing a with
  | nil => exact upholds_pure a
  | cons x xs ih => exact (all a x).bind ih

lemma upholds_mapM {xs : List β} {f : β → Action (Script I) σ α}
    (all : ∀ x, Upholds answer R (f x)) :
    Upholds answer R (xs.mapM f) := by
  induction xs with
  | nil => exact upholds_pure []
  | cons x xs ih =>
    rw [List.mapM_cons]
    refine (all x).bind fun _ => ?_
    refine ih.bind fun _ => ?_
    exact upholds_pure _

lemma upholds_get : Upholds answer R (get : Action (Script I) σ σ) := by
  rintro s e r s' e' holds ⟨⟩
  exact holds

lemma upholds_broken (why : Breach) :
    Upholds answer R (liftM (Script.broken why : Script I α) : Action (Script I) σ α) := by
  rintro s e r s' e' holds ⟨⟩

/-- Work on a part upholds what the part upholds beside the rest. -/
lemma upholds_focus {get : σ → τ} {set : τ → σ → σ} {act : Action (Script I) τ α}
    {Q : σ → τ → ε → Prop}
    (upholds : ∀ s, Upholds answer (Q s) act) (down : ∀ s e, R s e → Q s (get s) e)
    (up : ∀ s t e, Q s t e → R (set t s) e) :
    Upholds answer R (Action.focus get set act) := by
  intro s e r s' e' holds run
  have key : Action.focus get set act s = act (get s) >>= fun p => pure (p.1, set p.2 s) := rfl
  rw [key] at run
  obtain ⟨⟨r₁, t⟩, e₁, first, rest⟩ := run_bind_inv run
  cases rest
  exact up s t _ (upholds s _ _ _ _ _ (down s e holds) first)

end Steps

/-- Steps that keep the document abreast of the cache. -/
abbrev Credits {σ α : Type} (κ : Type) [Core κ] (pools : σ → NodePools)
    (seen : σ → List FaceRequest) (before : List FaceRequest) (act : Work σ α) : Prop :=
  Upholds (MemoryHost.answerPatch : Script.Answerer Patching (MemoryHost κ))
    (Abreast pools seen before) act

/-- Steps without a cache, so they load nothing. -/
abbrev Abstains {σ α : Type} (κ : Type) [Core κ] (pools : σ → NodePools) (before : List FaceRequest)
    (act : Work σ α) : Prop :=
  Credits κ pools (fun _ => []) before act

section Hosts

variable {κ σ τ α : Type} [Core κ] {pools : σ → NodePools} {seen : σ → List FaceRequest}
  {before : List FaceRequest} {h h' : MemoryHost κ}

lemma faces_of_request {r : PatchRequest} {reply : r.Reply}
    (run : MemoryHost.answerPatch r h = .ok (reply, h')) :
    h'.document.faces = h.document.faces ++ (loaded? r).toList := by
  cases r with
  | document r =>
    change (MemoryDocument.answer r h.document).bind _ = _ at run
    cases answered : MemoryDocument.answer r h.document with
    | error why =>
      rw [answered] at run
      cases run
    | ok p =>
      rw [answered] at run
      cases run
      exact faces_answered answered
  | addContext | removeContext | imageLoaded =>
    cases run
    exact (List.append_nil _).symm

lemma faces_of_faceless {script : Script Patching α} {a : α} (faceless : Uses Faceless script)
    (run : Script.run MemoryHost.answerPatch script h = .ok (a, h')) :
    h'.document.faces = h.document.faces := by
  have each (r : PatchRequest) (e : MemoryHost κ) (reply : r.Reply)
    (e' : MemoryHost κ) (none : Faceless r) (same : e.document.faces = h.document.faces)
    (answered : MemoryHost.answerPatch r e = .ok (reply, e')) :
      e'.document.faces = h.document.faces := by
    rw [faces_of_request answered, loaded?_of_faceless none, ← same]
    exact List.append_nil _
  exact faceless.keeps each rfl run

lemma credits_script {script : Script Patching α} (faceless : Uses Faceless script) :
    Credits κ pools seen before (liftM script : Work σ α) :=
  upholds_script fun _ _ _ _ abreast run =>
    ⟨abreast.stocked, (faces_of_faceless faceless run).trans abreast.faces⟩

lemma credits_ask {r : DocumentRequest} (faceless : Faceless (.document r)) :
    Credits κ pools seen before (liftM (ask r) : Work σ r.Reply) :=
  credits_script ⟨faceless, fun _ => trivial⟩

lemma credits_modify {f : σ → σ} (kept : ∀ s, pools (f s) = pools s)
    (same : ∀ s, seen (f s) = seen s) :
    Credits κ pools seen before (modify f : Work σ PUnit) :=
  upholds_modify fun s _ abreast =>
    ⟨by rw [kept]; exact abreast.stocked, by rw [same]; exact abreast.faces⟩

/-- Work on a part without a cache. -/
lemma credits_focus {get : σ → τ} {set : τ → σ → σ} {inner : τ → NodePools} {act : Work τ α}
    (abstains : ∀ before, Abstains κ inner before act) (shows : ∀ s, inner (get s) = pools s)
    (kept : ∀ t s, pools (set t s) = inner t) (same : ∀ t s, seen (set t s) = seen s) :
    Credits κ pools seen before (Action.focus get set act) := by
  refine upholds_focus (fun s => abstains (before ++ seen s)) ?_ ?_
  · exact fun s h abreast =>
      ⟨by rw [shows]; exact abreast.stocked, by rw [List.append_nil]; exact abreast.faces⟩
  · exact fun s t h abreast =>
      ⟨by rw [kept]; exact abreast.stocked, by rw [same, abreast.faces, List.append_nil]⟩

end Hosts

/-! ### Stages -/

section Stages

open Stage

variable {κ α : Type} [Core κ] {before : List FaceRequest}

lemma upholds_of_ends {σ : Type} {R : σ → MemoryHost κ → Prop} {act : Work σ α}
    (ends : ∀ s h, R s h → Ends act s h (fun _ => R) (fun _ => R) fun _ => True) :
    Upholds MemoryHost.answerPatch R act := by
  intro s h r s' h' holds run
  have ended := ends s h holds
  have patched : MemoryHost.patch act s h = .ok ((r, s'), h') := run
  unfold Ends at ended
  rw [patched] at ended
  cases r <;> exact ended

lemma answers_faceless {script : Script Patching α} {h : MemoryHost κ}
    (faceless : Uses Faceless script) :
    Answers script h (fun _ h' => h'.document.faces = h.document.faces) fun _ => True := by
  unfold Answers
  split
  · next run => exact faces_of_faceless faceless run
  · trivial

lemma abstains_take (kind : NodeKind) :
    Abstains κ id before (Pools.take kind : Work NodePools OwnedNode) := by
  refine upholds_of_ends fun ps h abreast => ?_
  obtain ⟨p, hp, _, make, _⟩ := abreast.stocked kind
  refine (ends_take hp _).2 ?_
  cases free : p.free with
  | cons n rest =>
    exact (answers_take_shelf free _).2 ⟨abreast.stocked.set hp rfl rfl rfl, abreast.faces⟩
  | nil =>
    exact (answers_take_made free make _).2 ⟨abreast.stocked.set hp rfl rfl rfl, abreast.faces⟩

lemma abstains_put (kind : NodeKind) (n : OwnedNode) :
    Abstains κ id before (Pools.put kind n : Work NodePools Unit) := by
  refine upholds_of_ends fun ps h abreast => ?_
  obtain ⟨p, hp, _, _, reset⟩ := abreast.stocked kind
  have faceless : Uses Faceless (p.reset n) := by
    rw [reset]
    exact ⟨trivial, fun _ => trivial⟩
  refine (ends_put hp n _).2
    ((answers_bind _ _ _).2
      ((answers_faceless faceless).mono (fun item h' same => ?_) fun _ _ => trivial))
  refine (answers_pure _ _).2 ⟨?_, same.trans abreast.faces⟩
  split <;> exact abreast.stocked.set hp rfl rfl rfl

lemma abstains_giveBack (nodes : List OwnedNode) : Abstains κ id before (Bench.giveBack nodes) :=
  upholds_forM fun n => abstains_put n.kind n

lemma abstains_inWorkshop {act : Work NodePools α} (abstains : ∀ before, Abstains κ id before act) :
    Abstains κ Workshop.pools before (Workshop.onPools act) :=
  credits_focus abstains (fun _ => rfl) (fun _ _ => rfl) fun _ _ => rfl

lemma abstains_onWorkshop {act : Work Workshop α}
    (abstains : ∀ before, Abstains κ Workshop.pools before act) :
    Abstains κ stocks before (onWorkshop act) :=
  credits_focus abstains (fun _ => rfl) (fun _ _ => rfl) fun _ _ => rfl

lemma abstains_onPools {act : Work NodePools α} (abstains : ∀ before, Abstains κ id before act) :
    Abstains κ stocks before (Stage.onPools act) :=
  abstains_onWorkshop fun _ => abstains_inWorkshop abstains

lemma abstains_register (index : Nat) (canvas : NodeId) :
    Abstains κ Workshop.pools before (Workshop.register index canvas) := by
  refine upholds_get.bind fun w => ?_
  split
  · exact (upholds_broken _).bind fun _ => credits_modify (fun _ => rfl) fun _ => rfl
  · exact credits_modify (fun _ => rfl) fun _ => rfl

lemma abstains_buildLayer (mount : NodeId) (index : Nat) :
    Abstains κ Workshop.pools before (Layer.build mount index) := by
  refine (abstains_inWorkshop fun _ => abstains_take .canvas).bind fun canvas => ?_
  refine (abstains_inWorkshop fun _ => abstains_take .div).bind fun overlay => ?_
  refine Upholds.bind (credits_ask trivial) fun _ => Upholds.bind (credits_ask trivial) fun _ => ?_
  refine Upholds.bind (credits_ask trivial) fun _ => Upholds.bind (credits_ask trivial) fun _ => ?_
  refine Upholds.bind (credits_ask trivial) fun _ => Upholds.bind (credits_ask trivial) fun _ => ?_
  refine Upholds.bind (credits_ask trivial) fun _ => (abstains_register _ _).bind fun _ => ?_
  exact Upholds.bind (credits_script ⟨trivial, fun _ => trivial⟩) fun _ => upholds_pure _

lemma abstains_addLayers (count : Nat) : Abstains κ stocks before (addLayers count) := by
  induction count with
  | zero => exact upholds_pure _
  | succ count ih =>
    refine Upholds.bind (upholds_get.bind fun s => ?_) fun _ => ih
    exact (abstains_onWorkshop fun _ => abstains_buildLayer _ _).bind fun layer =>
      credits_modify (fun _ => rfl) fun _ => rfl

lemma abstains_instantiate (layer : Nat) (parent : NodeId) (id : UInt32) :
    Abstains κ stocks before (instantiate layer parent id) := by
  refine (abstains_onPools fun _ => abstains_take .div).bind fun node => ?_
  refine Upholds.bind (credits_ask trivial) fun _ => Upholds.bind (credits_ask trivial) fun _ => ?_
  refine Upholds.bind (credits_ask trivial) fun _ => Upholds.bind (credits_ask trivial) fun _ => ?_
  refine Upholds.bind (credits_ask trivial) fun _ => ?_
  exact Upholds.bind (credits_modify (fun _ => rfl) fun _ => rfl) fun _ => upholds_pure _

lemma abstains_attachPoint (x : Option UInt32) (layer : Nat) :
    Abstains κ stocks before (attachPoint x layer) := by
  refine upholds_get.bind fun s => ?_
  split
  · exact upholds_broken _
  · split
    · exact upholds_pure _
    · split
      · exact upholds_foldlM (fun node id => abstains_instantiate layer node id) _
      · exact upholds_throw _
      · exact upholds_broken _

lemma abstains_addElement (node : NodeId) (x : Option UInt32) (layer : UInt32) :
    Abstains κ stocks before (Stage.addElement node x layer) := by
  refine Upholds.bind (upholds_get.bind fun s => abstains_addLayers _) fun _ => ?_
  exact (abstains_attachPoint x layer.toNat).bind fun _ => credits_ask trivial

lemma abstains_addContainer (id : UInt32) (parent : Option UInt32) :
    Abstains κ stocks before (addContainer id parent) := by
  unfold addContainer
  refine upholds_get.bind fun s => ?_
  dsimp only
  split
  · exact upholds_throw _
  · split
    · split
      · exact upholds_throw _
      · exact credits_modify (fun _ => rfl) fun _ => rfl
    · exact credits_modify (fun _ => rfl) fun _ => rfl

lemma abstains_updateContainer (id : UInt32) (g : Geometry) :
    Abstains κ stocks before (updateContainer id g) := by
  refine upholds_get.bind fun s => ?_
  split
  · exact upholds_throw _
  · exact Upholds.bind (credits_modify (fun _ => rfl) fun _ => rfl) fun _ => credits_ask trivial

lemma abstains_removeContainer (id : UInt32) : Abstains κ stocks before (removeContainer id) := by
  unfold removeContainer
  refine upholds_get.bind fun s => ?_
  dsimp only
  split
  · exact upholds_throw _
  · refine Upholds.bind (upholds_mapM fun _ => credits_ask trivial) fun counts => ?_
    split
    · exact upholds_throw _
    · refine Upholds.bind (upholds_forM fun p => ?_) fun _ => ?_
      · exact Upholds.bind (credits_modify (fun _ => rfl) fun _ => rfl) fun _ =>
          abstains_onPools fun _ => abstains_put .div p.2
      · exact Upholds.bind (credits_modify (fun _ => rfl) fun _ => rfl) fun _ => credits_ask trivial

end Stages

/-! ### Scenes -/

section Scenes

variable {κ α : Type} [Core κ] {before : List FaceRequest}

lemma credits_register {ps : NodePools} (font : Font) :
    Credits κ (fun _ => ps) inOrder before (FontCache.register font) := by
  refine upholds_of_ends fun fonts h abreast => ?_
  unfold FontCache.register
  cases font.face? with
  | none => exact abreast
  | some face =>
    refine (ends_bind _ _ _).2 ((ends_get _).2 ?_)
    split
    · exact abreast
    · refine (ends_bind _ _ _).2 ((ends_ask _ _).2 ⟨abreast.stocked, ?_⟩)
      change h.document.faces ++ [face] = before ++ (face :: fonts.faces).reverse
      rw [abreast.faces, List.reverse_cons, List.append_assoc]
      rfl

/-- The faces that the bench knows. -/
abbrev sighted (b : Bench) : List FaceRequest := inOrder b.fonts

lemma credits_benchPools {act : Work NodePools α} (abstains : ∀ before, Abstains κ id before act) :
    Credits κ Bench.pools sighted before (Bench.onPools act) :=
  credits_focus abstains (fun _ => rfl) (fun _ _ => rfl) fun _ _ => rfl

lemma uses_apply (w : NodeWrite) (n : NodeId) : Uses Faceless (w.apply n) := by
  cases w <;> exact ⟨trivial, fun _ => trivial⟩

lemma credits_perform (r : BenchRequest) :
    Credits κ Bench.pools sighted before (Bench.perform r) := by
  have changed (f : Element → Element) :
      Credits κ Bench.pools sighted before (Bench.modifyElement f) :=
    credits_modify (fun _ => rfl) fun _ => rfl
  cases r with
  | look => exact upholds_get.bind fun _ => upholds_pure _
  | note | resizeRegion => exact credits_modify (fun _ => rfl) fun _ => rfl
  | addPart parent kind =>
    refine (credits_benchPools fun _ => abstains_take kind).bind fun node => ?_
    refine upholds_get.bind fun b => ?_
    exact Upholds.bind (credits_ask trivial) fun _ => (changed _).bind fun _ => upholds_pure _
  | addOption parent kind =>
    refine (credits_benchPools fun _ => abstains_take kind).bind fun node => ?_
    refine upholds_get.bind fun b => ?_
    refine Upholds.bind (credits_ask trivial) fun _ => ?_
    dsimp only
    split
    · refine Upholds.bind (upholds_each fun _ => credits_ask trivial) fun _ => ?_
      exact (changed _).bind fun _ => upholds_pure _
    · exact (changed _).bind fun _ => upholds_pure _
  | clearOptions =>
    refine upholds_get.bind fun b => ?_
    exact (changed _).bind fun _ => credits_benchPools fun _ => abstains_giveBack _
  | write spot w => exact upholds_get.bind fun b => credits_script (uses_apply w _)
  | html spot => exact upholds_get.bind fun b => credits_ask trivial
  | sample tracker interval =>
    refine upholds_get.bind fun b => ?_
    refine Upholds.bind (credits_ask trivial) fun _ => ?_
    refine (changed _).bind fun _ => ?_
    exact upholds_each fun _ => credits_ask trivial
  | useFont font =>
    have registered (b : Bench) :
        Credits κ (fun _ => b.pools) inOrder before (FontCache.register font) :=
      credits_register font
    refine Upholds.bind (upholds_focus registered ?_ ?_) fun _ => upholds_pure _
    · exact fun b h abreast => ⟨abreast.stocked, abreast.faces⟩
    · exact fun b fonts h abreast => ⟨abreast.stocked, abreast.faces⟩

lemma credits_carryOut (craft : Craft α) :
    Credits κ Bench.pools sighted before (Bench.carryOut craft) := by
  induction craft with
  | done a => exact upholds_pure a
  | ask r next ih => exact (credits_perform r).bind fun reply => ih reply
  | broken why => exact upholds_broken why

/-- The faces that a scene knows. -/
abbrev beheld (s : Scene) : List FaceRequest := inOrder s.fonts

lemma credits_onStage {act : Work Stage α} (abstains : ∀ before, Abstains κ stocks before act) :
    Credits κ supplies beheld before (Scene.onStage act) :=
  credits_focus abstains (fun _ => rfl) (fun _ _ => rfl) fun _ _ => rfl

lemma credits_onPools {act : Work NodePools α} (abstains : ∀ before, Abstains κ id before act) :
    Credits κ supplies beheld before (Scene.onPools act) :=
  credits_onStage fun _ => abstains_onPools abstains

lemma credits_atBench (e : Element) (craft : Craft Unit) :
    Credits κ supplies beheld before (Scene.atBench e craft) := by
  intro s h r s' h' abreast run
  obtain ⟨⟨y, b⟩, h₁, first, rest⟩ := run_bind_inv run
  cases rest
  have kept := credits_carryOut craft _ _ _ _ _ ⟨abreast.stocked, abreast.faces⟩ first
  exact ⟨kept.stocked, kept.faces⟩

lemma credits_lookup (id : UInt32) (widget : Widget) :
    Credits κ supplies beheld before (Scene.lookup id widget) := by
  refine upholds_get.bind fun s => ?_
  split
  · exact upholds_throw _
  · split
    · exact upholds_pure _
    · exact upholds_throw _

lemma credits_release (e : Element) : Credits κ supplies beheld before (Scene.release e) := by
  have rest : Credits κ supplies beheld before (do
      each e.scroll fun r => (ask (.cancelSampler r.sampler) : Script Patching Unit)
      Scene.onPools do
        Bench.giveBack e.options
        Bench.giveBack e.parts
        Pools.put e.leaf.kind e.leaf) := by
    refine Upholds.bind (upholds_each fun _ => credits_ask trivial) fun _ =>
      credits_onPools fun _ => ?_
    refine (abstains_giveBack _).bind fun _ => ?_
    refine (abstains_giveBack _).bind fun _ => ?_
    exact abstains_put _ _
  unfold Scene.release
  split
  · exact Upholds.bind (credits_ask trivial) fun _ => rest
  · exact rest

lemma credits_create (widget : Widget) (c : Creation) :
    Credits κ supplies beheld before (Scene.create widget c) := by
  unfold Scene.create
  refine upholds_get.bind fun s => ?_
  dsimp only
  split
  · exact upholds_throw _
  · refine (credits_onPools fun _ => abstains_take _).bind fun leaf => ?_
    refine Upholds.bind (credits_ask trivial) fun _ =>
      Upholds.bind (credits_ask trivial) fun _ => ?_
    refine upholds_get.bind fun s => ?_
    refine (credits_atBench _ _).bind fun r => ?_
    refine Upholds.bind
      (Upholds.outcome (Upholds.bind ?_ fun _ => credits_onStage fun _ =>
        abstains_addElement _ _ _)) fun placed => ?_
    · unfold Scene.create.liftExcept
      split
      · exact upholds_pure _
      · exact upholds_throw _
    · split
      · exact credits_modify (fun _ => rfl) fun _ => rfl
      · exact (credits_release _).bind fun _ => upholds_throw _

lemma credits_update (id : UInt32) (change : Change) :
    Credits κ supplies beheld before (Scene.update id change) := by
  refine (credits_lookup _ _).bind fun e => ?_
  refine (credits_atBench _ _).bind fun r => ?_
  refine Upholds.bind (credits_modify (fun _ => rfl) fun _ => rfl) fun _ => ?_
  split
  · exact upholds_pure _
  · exact upholds_throw _

lemma credits_restack (id layer depth : UInt32) :
    Credits κ supplies beheld before (Scene.restack id layer depth) := by
  refine upholds_get.bind fun s => ?_
  split
  · exact upholds_throw _
  · refine (credits_onStage fun _ => abstains_addElement _ _ _).bind fun _ => ?_
    refine upholds_get.bind fun s => ?_
    split
    · exact upholds_broken _
    · refine Upholds.bind (credits_modify (fun _ => rfl) fun _ => rfl) fun _ =>
        Upholds.bind (credits_ask trivial) fun _ => ?_
      exact upholds_forM fun _ => credits_ask trivial

/-- Whatever a patch comes to, the document was asked for the faces that the scene knows. -/
theorem credits_apply (p : Patch) : Credits κ supplies beheld before (Scene.apply p) := by
  cases p with
  | create widget c => exact credits_create widget c
  | update id change => exact credits_update id change
  | delete widget id =>
    exact (credits_lookup _ _).bind fun e =>
      Upholds.bind (credits_modify (fun _ => rfl) fun _ => rfl) fun _ => credits_release e
  | restack id layer depth => exact credits_restack id layer depth
  | createFrame c => exact credits_onStage fun _ => abstains_addContainer _ _
  | updateFrame id g => exact credits_onStage fun _ => abstains_updateContainer _ _
  | deleteFrame id => exact credits_onStage fun _ => abstains_removeContainer _
  | loadImage id path =>
    refine Upholds.bind (credits_script ⟨trivial, fun _ => trivial⟩) fun loaded => ?_
    split
    · exact upholds_get.bind fun s => credits_ask trivial
    · exact upholds_pure _

end Scenes

/-! ## The fonts of a craft -/

/-- The font of a style. -/
def fontOf (style : Option TextStyle) : List Font := (style.bind (·.font)).toList

/-- The fonts that a change carries, in the order in which it applies them. -/
def carried : Change → List Font
  | .text c => fontOf c.style ++ fontOf c.linkStyle
  | .button c => fontOf c.style
  | .textbox c => fontOf c.style
  | .dropdown c => fontOf c.style
  | .radioSet c => fontOf c.style
  | _ => []

/-- The fonts that a request uses. -/
def lettering : BenchRequest → List Font
  | .useFont font => [font]
  | _ => []

/-- The link style that is noted after a request; a look shows the one that is noted, and how many
parts there are. -/
def Discloses (parts : Nat) (noted : Option TextStyle) :
    (r : BenchRequest) → r.Reply → Option TextStyle → Prop
  | .look, view, later => later = noted ∧ view.linkStyle = noted ∧ view.parts = parts
  | .note notes, _, later => later = notes.linkStyle
  | _, _, later => later = noted

/-- Whatever the replies, a craft ends with such a link style noted after it used such fonts. -/
def Wears {α : Type} (parts : Nat) (noted : Option TextStyle) (craft : Craft α)
    (post : α → Option TextStyle → List Font → Prop) : Prop :=
  match craft with
  | .done a => post a noted []
  | .ask r next =>
    ∀ reply later, Discloses parts noted r reply later →
      Wears parts later (next reply) fun a l fs => post a l (lettering r ++ fs)
  | .broken _ => False

/-- Requests that use no font. -/
def Unlettered : BenchRequest → Prop
  | .useFont _ => False
  | _ => True

/-- Requests that use no font and note nothing. -/
def Unstyled : BenchRequest → Prop
  | .useFont _ | .note _ => False
  | _ => True

section Crafts

open Craft Styling

variable {α β : Type} {parts : Nat} {noted later : Option TextStyle}
  {craft : Craft α} {f : α → Craft β}
  {post mid : α → Option TextStyle → List Font → Prop} {fs gs : List Font}

lemma Wears.mono {post' : α → Option TextStyle → List Font → Prop}
    (wears : Wears parts noted craft post)
    (more : ∀ a l fs, post a l fs → post' a l fs) : Wears parts noted craft post' := by
  induction craft generalizing noted post post' with
  | done a => exact more a noted [] wears
  | ask r rest ih =>
    exact fun reply later discloses =>
      ih reply (wears reply later discloses) fun a l fs => more a l _
  | broken why => exact wears.elim

lemma Wears.bind {post : β → Option TextStyle → List Font → Prop}
    (first : Wears parts noted craft mid)
    (next : ∀ a l fs, mid a l fs → Wears parts l (f a) fun b l' gs => post b l' (fs ++ gs)) :
    Wears parts noted (craft >>= f) post := by
  induction craft generalizing noted mid post with
  | done a => exact next a noted [] first
  | ask r rest ih =>
    refine fun reply later discloses =>
      ih reply (first reply later discloses) fun a l fs reached => ?_
    refine (next a l _ reached).mono fun b l' gs told => ?_
    rwa [List.append_assoc] at told
  | broken why => exact first.elim

lemma Unstyled.discloses {r : BenchRequest} {reply : r.Reply} (unstyled : Unstyled r)
    (discloses : Discloses parts noted r reply later) : later = noted := by
  cases r with
  | look => exact discloses.1
  | note | useFont => exact unstyled.elim
  | _ => exact discloses

lemma Uses.wears (uses : Uses Unstyled craft) :
    Wears parts noted craft fun _ l fs => l = noted ∧ fs = [] := by
  induction craft with
  | done a => exact ⟨rfl, rfl⟩
  | ask r next ih =>
    intro reply later discloses
    obtain rfl := uses.1.discloses discloses
    refine (ih reply (uses.2 reply)).mono ?_
    rintro _ _ _ ⟨rfl, rfl⟩
    have unstyled := uses.1
    cases r with
    | useFont => exact unstyled.elim
    | _ => exact ⟨rfl, rfl⟩
  | broken why => exact uses.elim

lemma Uses.unlettered (uses : Uses Unlettered craft) :
    Wears parts noted craft fun _ _ fs => fs = [] := by
  induction craft generalizing noted with
  | done a => rfl
  | ask r next ih =>
    intro reply later discloses
    refine (ih reply (uses.2 reply)).mono ?_
    rintro _ _ _ rfl
    have unlettered := uses.1
    cases r with
    | useFont => exact unlettered.elim
    | _ => rfl
  | broken why => exact uses.elim

/-! ### Pieces of crafts -/

lemma unstyled_write (spot : Spot) (w : NodeWrite) : Uses Unstyled (Styling.write spot w) :=
  ⟨trivial, fun _ => trivial⟩

lemma unstyled_px (spot : Spot) (property : String) (x : Option Float) :
    Uses Unstyled (stylePx spot property x) :=
  uses_each fun _ => unstyled_write ..

lemma unstyled_color (spot : Spot) (property : String) (color : Option Color) :
    Uses Unstyled (styleColor spot property color) :=
  uses_each fun _ => unstyled_write ..

lemma unstyled_geometry (placed sized : Spot) (g : Geometry) :
    Uses Unstyled (applyGeometry placed sized g) := by
  refine (unstyled_px ..).bind fun _ => ?_
  exact (unstyled_px ..).bind fun _ => uses_each fun _ => unstyled_write ..

lemma unstyled_alignment (container element : Spot) (s : TextStyle) :
    Uses Unstyled (applyAlignment container element s) := by
  refine (uses_each fun _ => (unstyled_write ..).bind fun _ => unstyled_write ..).bind fun _ => ?_
  exact (uses_each fun _ => unstyled_write ..).bind fun _ => uses_each fun _ => unstyled_write ..

lemma Unstyled.unlettered {r : BenchRequest} (unstyled : Unstyled r) : Unlettered r := by
  cases r with
  | note | useFont => exact unstyled.elim
  | _ => trivial

lemma unlettered_call (r : BenchRequest) (unlettered : Unlettered r) :
    Uses Unlettered (Craft.call r) := ⟨unlettered, fun _ => trivial⟩

lemma unlettered_remember (change : Notes → Notes) : Uses Unlettered (remember change) :=
  ⟨trivial, fun _ => ⟨trivial, fun _ => trivial⟩⟩

/-- Unstyled work first. -/
lemma Uses.then {post : β → Option TextStyle → List Font → Prop} (first : Uses Unstyled craft)
    (next : ∀ a, Wears parts noted (f a) post) : Wears parts noted (craft >>= f) post := by
  refine Wears.bind first.wears ?_
  rintro a _ _ ⟨rfl, rfl⟩
  exact next a

lemma wears_font {put : String → String → Craft Unit}
    (plain : ∀ p v, Uses Unstyled (put p v)) (font : Font) :
    Wears parts noted (applyFont put font) fun _ l fs => l = noted ∧ fs = [font] := by
  have putting : Uses Unstyled (do
      put "font-family" font.familyCss
      each font.style fun face => put "font-style" face.css
      each font.weight fun weight => put "font-weight" (toString weight.number)) := by
    refine (plain _ _).bind fun _ => ?_
    exact (uses_each fun _ => plain _ _).bind fun _ => uses_each fun _ => plain _ _
  rintro _ _ rfl
  refine putting.wears.mono ?_
  rintro _ _ _ ⟨rfl, rfl⟩
  exact ⟨rfl, rfl⟩

/-- A style wears its font, and the rest of it is plain. -/
lemma wears_fontOf {put : String → String → Craft Unit} (plain : ∀ p v, Uses Unstyled (put p v))
    (s : TextStyle) {rest : Craft Unit} (others : Uses Unstyled rest) :
    Wears parts noted (do each s.font (applyFont put); rest) fun _ l fs => l = noted ∧
      fs = fontOf (some s) := by
  have font : Wears parts noted (each s.font (applyFont put)) fun _ l fs => l = noted ∧
      fs = s.font.toList := by
    cases s.font with
    | none => exact ⟨rfl, rfl⟩
    | some font => exact wears_font plain font
  refine font.bind ?_
  rintro _ _ _ ⟨rfl, rfl⟩
  refine others.wears.mono ?_
  rintro _ _ _ ⟨rfl, rfl⟩
  exact ⟨rfl, List.append_nil _⟩

lemma wears_textStyle (container element : Spot) (s : TextStyle) :
    Wears parts noted (applyTextStyle container element s) fun _ l fs => l = noted ∧
      fs = fontOf (some s) := by
  refine wears_fontOf (fun _ _ => unstyled_write ..) s ?_
  refine (unstyled_color ..).bind fun _ => ?_
  refine (unstyled_px ..).bind fun _ => ?_
  refine (uses_each fun _ => unstyled_write ..).bind fun _ => ?_
  exact unstyled_alignment ..

lemma wears_linkStyle (container element : Spot) (s : TextStyle) :
    Wears parts noted (applyLinkStyle container element s) fun _ l fs => l = noted ∧
      fs = fontOf (some s) := by
  refine wears_fontOf (fun _ _ => unstyled_write ..) s ?_
  refine (uses_each fun _ => unstyled_write ..).bind fun _ => ?_
  refine (uses_each fun _ => unstyled_write ..).bind fun _ => ?_
  exact (uses_each fun _ => unstyled_write ..).bind fun _ => unstyled_alignment ..

lemma wears_each {style : Option TextStyle} {g : TextStyle → Craft Unit}
    (all : ∀ s, Wears parts noted (g s) fun _ l fs => l = noted ∧ fs = fontOf (some s)) :
    Wears parts noted (each style g) fun _ l fs => l = noted ∧ fs = fontOf style := by
  cases style with
  | none => exact ⟨rfl, rfl⟩
  | some s => exact all s

/-! ### Updates -/

/-- An update that places an element, styles its text, and uses no other font. -/
lemma wears_styled {placed sized container element : Spot} {g : Geometry}
    {style : Option TextStyle} {rest : Craft Unit} (others : Uses Unlettered rest) :
    Wears parts noted
      (do applyGeometry placed sized g; each style (applyTextStyle container element); rest)
      fun _ _ fs => fs = fontOf style := by
  refine (unstyled_geometry ..).then fun _ =>
    (wears_each fun s => wears_textStyle container element s).bind ?_
  rintro _ _ _ ⟨rfl, rfl⟩
  exact others.unlettered.mono fun _ _ _ none => by rw [none, List.append_nil]

lemma unlettered_write (spot : Spot) (w : NodeWrite) : Uses Unlettered (Styling.write spot w) :=
  ⟨trivial, fun _ => trivial⟩

lemma unlettered_px (spot : Spot) (property : String) (x : Option Float) :
    Uses Unlettered (stylePx spot property x) :=
  (unstyled_px ..).mono fun _ => Unstyled.unlettered

lemma unlettered_color (spot : Spot) (property : String) (color : Option Color) :
    Uses Unlettered (styleColor spot property color) :=
  (unstyled_color ..).mono fun _ => Unstyled.unlettered

lemma wears_look {f : ElementView → Craft β} {post : β → Option TextStyle → List Font → Prop}
    (next : ∀ view : ElementView, view.linkStyle = noted → view.parts = parts →
      Wears parts noted (f view) post) :
    Wears parts noted (Craft.call .look >>= f) post := by
  rintro view _ ⟨rfl, linkStyle, count⟩
  exact next view linkStyle count

lemma wears_remember (change : Notes → Notes) {style : Option TextStyle}
    (same : ∀ n : Notes, n.linkStyle = noted → (change n).linkStyle = style) :
    Wears parts noted (remember change) fun _ l fs => l = style ∧ fs = [] := by
  refine wears_look fun view linkStyle _ => ?_
  rintro _ _ rfl
  exact ⟨same view.toNotes linkStyle, rfl⟩

/-- The styles that an update of a text applies come first, and then perhaps the one that was noted
for its links. -/
lemma exists_again {style linkStyle noted : Option TextStyle} (relinks : Bool) : ∃ again,
    fontOf style ++ (if relinks || linkStyle.isSome then fontOf (linkStyle.or noted) else []) =
      fontOf style ++ fontOf linkStyle ++ again ∧
      ∀ font ∈ again, font ∈ fontOf noted := by
  cases linkStyle with
  | some s => exact ⟨[], by simp, nofun⟩
  | none =>
    cases relinks with
    | false => exact ⟨[], by simp [fontOf], nofun⟩
    | true => exact ⟨fontOf noted, by simp [fontOf], fun _ => id⟩

lemma wears_text (c : TextChange) : Wears parts noted (updateText c) fun _ _ fs =>
    ∃ again, fs = carried (.text c) ++ again ∧ ∀ font ∈ again, font ∈ fontOf noted := by
  unfold updateText
  refine wears_look fun view linkStyle _ => ?_
  extract_lets text html rewritten relink fill height width
  have relinked (l : Option TextStyle) : Wears parts l (relink ()) fun _ _ fs =>
      fs = if rewritten || c.linkStyle.isSome then fontOf l else [] := by
    change Wears parts l (if rewritten || c.linkStyle.isSome then _ else _) _
    split
    · refine wears_look fun again same _ => ?_
      rw [same]
      exact (wears_each fun s => wears_linkStyle .leaf text s).mono fun _ _ _ told => told.2
    · rfl
  have filled : Wears parts noted (fill ()) fun _ _ fs =>
      ∃ again, fs = carried (.text c) ++ again ∧ ∀ font ∈ again, font ∈ fontOf noted := by
    have edited (editable : Bool) : Uses Unstyled (do
        attr text "contenteditable" (if editable then "true" else "false")
        if editable then
          style text "outline" "none"
          style text "width" "inherit"
          style text "height" "inherit") := by
      refine (unstyled_write ..).bind fun _ => uses_ite ?_ trivial
      refine (unstyled_write ..).bind fun _ => ?_
      refine (unstyled_write ..).bind fun _ => ?_
      exact unstyled_write ..
    have kept :
      Wears parts noted (each c.linkStyle fun s => remember fun n => { n with linkStyle := some s })
        fun _ l fs =>
        l = c.linkStyle.or noted ∧ fs = [] := by
      cases c.linkStyle with
      | none => exact ⟨rfl, rfl⟩
      | some s => exact wears_remember (fun n => { n with linkStyle := some s }) fun _ _ => rfl
    have rewriting (l : Option TextStyle) : Wears parts l (do
        if rewritten then
          each html fun html => do
            Styling.write text (.html html)
            remember fun n => { n with html := some html }
        relink ()) fun _ _ fs => fs = if rewritten || c.linkStyle.isSome then fontOf l else [] := by
      have written (html : String) : Wears parts l (do
          Styling.write text (.html html)
          remember fun n => { n with html := some html }) fun _ l' fs => l' = l ∧ fs = [] :=
        (unstyled_write ..).then fun _ =>
          wears_remember (fun n => { n with html := some html }) fun _ => id
      have each_written : Wears parts l (each html fun html => do
          Styling.write text (.html html)
          remember fun n => { n with html := some html }) fun _ l' fs => l' = l ∧ fs = [] := by
        cases html with
        | none => exact ⟨rfl, rfl⟩
        | some html => exact written html
      dsimp only
      split
      · refine each_written.bind ?_
        rintro _ _ _ ⟨rfl, rfl⟩
        exact relinked _
      · exact relinked _
    refine (uses_each edited).then fun _ =>
      (wears_each fun s => wears_textStyle .leaf text s).bind ?_
    rintro _ _ _ ⟨rfl, rfl⟩
    refine kept.bind ?_
    rintro _ _ _ ⟨rfl, rfl⟩
    refine (rewriting _).mono ?_
    rintro _ _ _ rfl
    exact exists_again rewritten
  have tall : Wears parts noted (height ()) fun _ _ fs =>
      ∃ again, fs = carried (.text c) ++ again ∧ ∀ font ∈ again, font ∈ fontOf noted := by
    change Wears parts noted (if _ then _ else _) _
    split
    · exact (unstyled_write ..).then fun _ => filled
    · exact filled
  have wide : Wears parts noted (width ()) fun _ _ fs =>
      ∃ again, fs = carried (.text c) ++ again ∧ ∀ font ∈ again, font ∈ fontOf noted := by
    refine (unstyled_geometry ..).then fun _ => ?_
    split
    · exact (unstyled_write ..).then fun _ => tall
    · exact tall
  split
  · refine (unstyled_write ..).then fun _ =>
      (wears_remember (fun n => { n with observed := true }) fun _ => id).bind ?_
    rintro _ _ _ ⟨rfl, rfl⟩
    exact wide
  · exact wide

lemma wears_button (c : ButtonChange) (there : 3 ≤ parts) :
    Wears parts noted (updateButton c) fun _ _ fs => fs = fontOf c.style := by
  unfold updateButton
  refine wears_look fun view _ count => ?_
  extract_lets dress
  have dressed : Wears parts noted (dress ()) fun _ _ fs => fs = fontOf c.style := by
    refine (unstyled_color ..).then fun _ => ?_
    refine (unstyled_color ..).then fun _ => ?_
    refine (unstyled_color ..).then fun _ => ?_
    refine (unstyled_px ..).then fun _ => ?_
    refine (unstyled_px ..).then fun _ => ?_
    exact (wears_each fun s => wears_textStyle (.part 1) (.part 2) s).mono fun _ _ _ told => told.2
  rw [if_neg (by omega)]
  refine (unstyled_geometry ..).then fun _ => ?_
  refine (uses_each fun _ => unstyled_write ..).then fun _ => ?_
  refine Uses.then ⟨trivial, fun _ => trivial⟩ fun label => ?_
  split
  · exact (unstyled_write ..).then fun _ => dressed
  · exact dressed

lemma unlettered_dropdownOptions (select : Spot) (index : Nat) (labels : List String) :
    Uses Unlettered (addDropdownOptions select index labels) := by
  induction labels generalizing index with
  | nil => trivial
  | cons label rest ih =>
    refine (unlettered_call (.addOption ..) trivial).bind fun option => ?_
    refine (unlettered_write ..).bind fun _ => ?_
    refine (unlettered_write ..).bind fun _ => ?_
    exact ih _

lemma unlettered_radioRow (fieldset : Spot) (group label : String) :
    Uses Unlettered (addRadioRow fieldset group label) := by
  have add (parent : Spot) (kind : NodeKind) : Uses Unlettered (addOption parent kind) :=
    unlettered_call (.addOption ..) trivial
  refine (add ..).bind fun row => ?_
  refine (add ..).bind fun input => ?_
  refine (add ..).bind fun caption => ?_
  refine (unlettered_write ..).bind fun _ => ?_
  refine (unlettered_write ..).bind fun _ => ?_
  refine (unlettered_write ..).bind fun _ => ?_
  refine (unlettered_write ..).bind fun _ => ?_
  refine (unlettered_write ..).bind fun _ => ?_
  refine (unlettered_write ..).bind fun _ => ?_
  refine (unlettered_write ..).bind fun _ => ?_
  exact unlettered_write ..

lemma unlettered_look {f : ElementView → Craft β} (next : ∀ view, Uses Unlettered (f view)) :
    Uses Unlettered (Craft.call .look >>= f) :=
  ⟨trivial, next⟩

lemma wears_dropdown (c : DropdownChange) :
    Wears parts noted (updateDropdown c) fun _ _ fs => fs = fontOf c.style := by
  refine wears_styled ?_
  refine (uses_each fun labels => (unlettered_call .clearOptions trivial).bind fun _ =>
    unlettered_dropdownOptions ..).bind fun _ => ?_
  refine (uses_each fun _ => unlettered_remember _).bind fun _ => ?_
  have drawn : Uses Unlettered (do
      style (.part 0) "border-style" "solid"
      styleColor (.part 0) "background-color" c.background
      styleColor (.part 0) "border-color" c.strokeColor
      stylePx (.part 0) "border-width" c.strokeWidth
      stylePx (.part 0) "border-radius" c.borderRadius) := by
    refine (unlettered_write ..).bind fun _ => ?_
    refine (unlettered_color ..).bind fun _ => ?_
    refine (unlettered_color ..).bind fun _ => ?_
    exact (unlettered_px ..).bind fun _ => unlettered_px ..
  dsimp only
  split
  · exact unlettered_look fun view => (uses_each fun _ => unlettered_write ..).bind fun _ => drawn
  · exact drawn

lemma wears_radioSet (id : UInt32) (c : RadioSetChange) :
    Wears parts noted (updateRadioSet id c) fun _ _ fs => fs = fontOf c.style := by
  refine wears_styled ?_
  refine (uses_each fun labels => (unlettered_call .clearOptions trivial).bind fun _ =>
    uses_forM fun _ => unlettered_radioRow ..).bind fun _ => ?_
  refine (uses_each fun _ => unlettered_remember _).bind fun _ => ?_
  have drawn : Uses Unlettered (do
      styleColor (.part 0) "--background-color" c.background
      styleColor (.part 0) "--selected-color" c.checkedBackground
      styleColor (.part 0) "--border-color" c.outlineColor
      stylePx (.part 0) "--border-width" c.outlineWidth) := by
    refine (unlettered_color ..).bind fun _ => ?_
    refine (unlettered_color ..).bind fun _ => ?_
    exact (unlettered_color ..).bind fun _ => unlettered_px ..
  dsimp only
  split
  · exact unlettered_look fun view => (uses_each fun _ => unlettered_write ..).bind fun _ => drawn
  · exact drawn

lemma wears_textbox (c : TextboxChange) :
    Wears parts noted (updateTextbox c) fun _ _ fs => fs = fontOf c.style := by
  refine wears_styled ?_
  refine (unlettered_write ..).bind fun _ => ?_
  refine (unlettered_color ..).bind fun _ => ?_
  refine (unlettered_color ..).bind fun _ => ?_
  refine (unlettered_px ..).bind fun _ => ?_
  refine (unlettered_px ..).bind fun _ => ?_
  refine (uses_each fun _ => unlettered_write ..).bind fun _ => ?_
  exact uses_ite (unlettered_write ..) trivial

lemma unlettered_writeIfNew (input : Spot) (cached value : Option Float)
    (property : Float → FormProperty) :
    Uses Unlettered (writeIfNew input cached value property) := by
  unfold writeIfNew
  split
  · exact uses_ite ((unlettered_write ..).bind fun _ => trivial) trivial
  · trivial

lemma unlettered_geometry (placed sized : Spot) (g : Geometry) :
    Uses Unlettered (applyGeometry placed sized g) :=
  (unstyled_geometry ..).mono fun _ => Unstyled.unlettered

lemma unlettered_checkbox (c : CheckboxChange) : Uses Unlettered (updateCheckbox c) := by
  refine (unlettered_geometry ..).bind fun _ => ?_
  refine (uses_each fun _ => unlettered_write ..).bind fun _ => ?_
  refine (unlettered_color ..).bind fun _ => ?_
  refine (unlettered_color ..).bind fun _ => ?_
  refine (unlettered_color ..).bind fun _ => ?_
  exact (unlettered_px ..).bind fun _ => unlettered_px ..

lemma unlettered_slider (c : SliderChange) : Uses Unlettered (updateSlider c) := by
  refine unlettered_look fun view => ?_
  refine (unlettered_geometry ..).bind fun _ => ?_
  refine (unlettered_writeIfNew ..).bind fun _ => ?_
  refine (unlettered_writeIfNew ..).bind fun _ => ?_
  refine (unlettered_writeIfNew ..).bind fun _ => ?_
  refine (unlettered_writeIfNew ..).bind fun _ => ?_
  refine (unlettered_remember _).bind fun _ => ?_
  refine (unlettered_color ..).bind fun _ => ?_
  exact (unlettered_color ..).bind fun _ => unlettered_px ..

lemma unlettered_scroller (c : ScrollerChange) : Uses Unlettered (updateScroller c) := by
  refine (unlettered_geometry ..).bind fun _ => ?_
  refine (unlettered_call (.resizeRegion ..) trivial).bind fun _ => ?_
  refine unlettered_look fun view => ?_
  refine (uses_each fun _ => unlettered_write ..).bind fun _ => ?_
  refine (uses_each fun _ => unlettered_write ..).bind fun _ => ?_
  refine (uses_each fun _ => (unlettered_write ..).bind fun _ => unlettered_write ..).bind
    fun _ => ?_
  exact uses_each fun _ => (unlettered_write ..).bind fun _ => unlettered_write ..

/-- An update uses the fonts that it carries, and an update of a text perhaps the one that is noted
for its links after them. -/
theorem wears_update (noted : Option TextStyle) (id : UInt32) (change : Change)
    (there : change.widget = .button → 3 ≤ parts) :
    Wears parts noted (update id change) fun _ _ fs =>
      ∃ again, fs = carried change ++ again ∧ ∀ font ∈ again, change.widget = .text ∧
        font ∈ fontOf noted := by
  have exact_ {craft : Craft Unit} {gs : List Font} {P : Font → Prop}
    (wears : Wears parts noted craft fun _ _ fs => fs = gs) :
      Wears parts noted craft fun _ _ fs => ∃ again, fs = gs ++ again ∧ ∀ font ∈ again, P font :=
    wears.mono fun _ _ _ same => ⟨[], by rw [same, List.append_nil], nofun⟩
  cases change with
  | text c =>
    exact (wears_text c).mono fun _ _ _ ⟨again, same, old⟩ =>
      ⟨again, same, fun font there => ⟨rfl, old font there⟩⟩
  | button c => exact exact_ (wears_button c (there rfl))
  | checkbox c => exact exact_ (unlettered_checkbox c).unlettered
  | textbox c => exact exact_ (wears_textbox c)
  | slider c => exact exact_ (unlettered_slider c).unlettered
  | dropdown c => exact exact_ (wears_dropdown c)
  | radioSet c => exact exact_ (wears_radioSet id c)
  | scroller c => exact exact_ (unlettered_scroller c).unlettered
  | eventBlocker g => exact exact_ (unlettered_geometry ..).unlettered

end Crafts

/-! ## What comes of it -/

/-- The cache after a font was used. -/
def cached (fonts : FontCache) (font : Font) : FontCache :=
  match font.face? with
  | none => fonts
  | some face => if face ∈ fonts.faces then fonts else ⟨face :: fonts.faces⟩

section Bench

variable {α : Type} {b b' : Bench} {log : List (Exchange Patching)} {r : BenchRequest}
  {fonts fonts' : FontCache} {font : Font}

lemma does_cached {loaded : Bool}
    (does : Does (FontCache.register font) fonts log (.ok loaded) fonts') :
    fonts' = cached fonts font := by
  unfold FontCache.register at does
  unfold cached
  cases face : font.face? with
  | none =>
    rw [face] at does
    exact (does_pure.1 does).2.2
  | some face' =>
    rw [face] at does
    have does := does_get_bind.1 does
    dsimp only
    split at does
    · next known =>
      rw [if_pos known]
      exact (does_pure.1 does).2.2
    · next new =>
      rw [if_neg new]
      obtain ⟨_, _, _, _, rest, _⟩ := does_script_bind.1 does
      rcases does_bind.1 (does_get_bind.1 rest) with ⟨_, _, _, _, first, last, _⟩ | ⟨_, first, same⟩
      · obtain ⟨_, _, rfl⟩ := does_set.1 first
        exact (does_pure.1 last).2.2
      · cases same

/-- What a request leaves alone of an element. -/
def spared (r : BenchRequest) (e : Element) : Element :=
  match r with
  | .note _ => { e with toNotes := .blank }
  | .addPart .. => { e with parts := [] }
  | .addOption .. | .clearOptions => { e with options := [] }
  | .sample .. | .resizeRegion .. => { e with scroll := none }
  | _ => e

lemma preserves_spared (plain : ∀ font, r ≠ .useFont font) :
    Preserves (fun b : Bench => (b.fonts, spared r b.element)) (Bench.perform r) := by
  have changed {g : Element → Element} (same : ∀ e, spared r (g e) = spared r e) :
      Preserves (fun b : Bench => (b.fonts, spared r b.element)) (Bench.modifyElement g) :=
    preserves_modify fun b => by rw [same]
  have pooled {α : Type} {act : Work NodePools α} :
      Preserves (fun b : Bench => (b.fonts, spared r b.element)) (Bench.onPools act) :=
    preserves_focus fun _ _ => rfl
  cases r with
  | look => exact preserves_get.bind fun _ => preserves_pure _
  | note | resizeRegion => exact preserves_modify (by intro b; rfl)
  | addPart =>
    refine pooled.bind fun _ => ?_
    refine preserves_get.bind fun _ => ?_
    refine (preserves_script _).bind fun _ => ?_
    exact (changed (by intro e; rfl)).bind fun _ => preserves_pure _
  | addOption =>
    refine pooled.bind fun node => ?_
    refine preserves_get.bind fun _ => ?_
    refine (preserves_script _).bind fun _ => ?_
    split
    · refine (preserves_each fun _ => preserves_script _).bind fun _ => ?_
      refine (changed (by intro e; rfl)).bind fun _ => ?_
      exact preserves_pure _
    · exact (changed (by intro e; rfl)).bind fun _ => preserves_pure _
  | clearOptions =>
    refine preserves_get.bind fun _ => ?_
    refine (changed (by intro e; rfl)).bind fun _ => ?_
    exact pooled
  | write | html => exact preserves_get.bind fun _ => preserves_script _
  | sample =>
    refine preserves_get.bind fun _ => ?_
    refine (preserves_script _).bind fun _ => ?_
    refine (changed (by intro e; rfl)).bind fun _ => ?_
    exact preserves_each fun _ => preserves_script _
  | useFont font => exact absurd rfl (plain font)

/-- A request shows what is noted, and a font that it uses goes through the cache. -/
lemma does_discloses {reply : r.Reply} (old : ∀ parent kind, r ≠ .addPart parent kind)
    (does : Does (Bench.perform r) b log (.ok reply) b') :
    Discloses b.element.parts.length b.element.linkStyle r reply b'.element.linkStyle ∧
      b'.element.parts.length = b.element.parts.length ∧
      b'.fonts = (lettering r).foldl cached b.fonts := by
  by_cases plain : ∀ font, r ≠ .useFont font
  · have same := preserves_spared plain _ _ _ _ does
    have fonts := congrArg Prod.fst same
    have element := congrArg Prod.snd same
    cases r with
    | look =>
      have looked :
          Does (get >>= fun b => pure b.element.view : Work Bench ElementView) b log
            (.ok reply) b' := does
      have seen := does_get_bind.1 looked
      obtain ⟨_, viewed, rfl⟩ := does_pure.1 seen
      cases viewed
      exact ⟨⟨rfl, rfl, rfl⟩, rfl, rfl⟩
    | note n =>
      obtain ⟨_, _, rfl⟩ := does_modify.1 does
      exact ⟨rfl, rfl, rfl⟩
    | addPart parent kind => exact absurd rfl (old parent kind)
    | useFont font => exact absurd rfl (plain font)
    | _ =>
      have linkStyle := congrArg (fun e : Element => e.linkStyle) element
      have parts := congrArg (fun e : Element => e.parts.length) element
      exact ⟨linkStyle, parts, fonts⟩
  · simp only [not_forall, not_not] at plain
    obtain ⟨font, rfl⟩ := plain
    rcases does_bind.1 does with ⟨_, _, _, _, first, second, _⟩ | ⟨_, _, same⟩
    · obtain ⟨fonts, inner, rfl⟩ := does_focus first
      obtain ⟨_, _, rfl⟩ := does_pure.1 second
      exact ⟨rfl, rfl, does_cached inner⟩
    · cases same

/-- What a craft wears goes through the cache. -/
theorem does_wears {craft : Craft α} {post : α → Option TextStyle → List Font → Prop} {a : α}
    (uses : Uses (fun r : BenchRequest => ∀ parent kind, r ≠ .addPart parent kind) craft)
    (wears : Wears b.element.parts.length b.element.linkStyle craft post)
    (does : Does (Bench.carryOut craft) b log (.ok a) b') :
    ∃ fs, post a b'.element.linkStyle fs ∧ b'.fonts = fs.foldl cached b.fonts := by
  induction craft generalizing b log post with
  | done a =>
    obtain ⟨_, same, rfl⟩ := does_pure.1 does
    cases same
    exact ⟨[], wears, rfl⟩
  | ask r next ih =>
    rcases does_bind.1 does with ⟨_, reply, b₁, _, first, second, _⟩ | ⟨_, _, same⟩
    · obtain ⟨discloses, parts, fonts⟩ := does_discloses uses.1 first
      have worn := wears reply _ discloses
      rw [← parts] at worn
      obtain ⟨fs, told, later⟩ := ih reply (uses.2 reply) worn second
      exact ⟨lettering r ++ fs, told, by rw [later, fonts, List.foldl_append]⟩
    · cases same
  | broken why => exact wears.elim

end Bench

/-! ### First sights -/

section Sights

variable {fonts : FontCache} {fs again : List Font} {faces : List FaceRequest}

/-- A face that comes last is new, or it is there already. -/
lemma eraseDups_concat (face : FaceRequest) :
    (faces ++ [face]).eraseDups =
      if face ∈ faces then faces.eraseDups else faces.eraseDups ++ [face] := by
  rw [List.eraseDups_append, List.cons_removeAll]
  by_cases there : face ∈ faces <;> simp [there, List.eraseDups_cons]

lemma inOrder_cached (font : Font) (order : inOrder fonts = faces.eraseDups) :
    inOrder (cached fonts font) = (faces ++ font.face?.toList).eraseDups := by
  unfold cached
  cases font.face? with
  | none => rw [order, Option.toList_none, List.append_nil]
  | some face =>
    have known : face ∈ fonts.faces ↔ face ∈ faces := by
      rw [← List.mem_reverse]
      change face ∈ inOrder fonts ↔ _
      rw [order, List.mem_eraseDups]
    rw [Option.toList_some, eraseDups_concat, ← order]
    by_cases there : face ∈ fonts.faces
    · rw [if_pos (known.1 there)]
      dsimp only
      rw [if_pos there]
    · rw [if_neg (mt known.2 there)]
      dsimp only
      rw [if_neg there]
      exact List.reverse_cons

lemma inOrder_foldl (order : inOrder fonts = faces.eraseDups) :
    inOrder (fs.foldl cached fonts) = (faces ++ fs.filterMap Font.face?).eraseDups := by
  induction fs generalizing fonts faces with
  | nil => rw [List.filterMap_nil, List.append_nil, ← order, List.foldl_nil]
  | cons font fs ih =>
    rw [List.foldl_cons, ih (inOrder_cached font order), List.append_assoc]
    congr 2
    cases face : font.face? <;> simp [face]

/-- Faces that were there before are not seen again. -/
lemma eraseDups_again {more : List FaceRequest} (old : ∀ face ∈ more, face ∈ faces) :
    (faces ++ more).eraseDups = faces.eraseDups := by
  have none : more.removeAll faces = [] := List.filter_eq_nil_iff.2 fun face there => by
    simp [old face there]
  rw [List.eraseDups_append, none, List.eraseDups_nil, List.append_nil]

lemma nodup_eraseDups (faces : List FaceRequest) : faces.eraseDups.Nodup := by
  induction faces using List.reverseRecOn with
  | nil => exact List.nodup_nil
  | append_singleton faces face ih =>
    rw [eraseDups_concat]
    split
    · exact ih
    · next new =>
      refine List.nodup_append.2 ⟨ih, List.nodup_singleton _, fun old there face' here same => ?_⟩
      rw [same, List.mem_singleton.1 here, List.mem_eraseDups] at there
      exact new there

end Sights

/-! ## Runs -/

/-- The fonts that accepted updates carried, in the order of the updates. -/
def fontsOf : Log → List Font
  | [] => []
  | (.update _ change, .ok _) :: log => fontsOf log ++ carried change
  | _ :: log => fontsOf log

/-- The faces of fonts, each at its first sight. -/
def firstSights (fonts : List Font) : List FaceRequest := (fonts.filterMap Font.face?).eraseDups

section Patches

variable {s s' : Scene} {log : List (Exchange Patching)} {r : Except PatchError Unit}

lemma does_update_fonts {id : UInt32} {change : Change}
    (does : Does (Scene.update id change) s log (.ok ()) s') :
    ∃ e b bench, s.elements[id]? = some e ∧ e.widget = change.widget ∧
      Does (Bench.carryOut (Craft.update id change)) ⟨s.pools, s.fonts, e⟩ bench (.ok ()) b ∧
      s'.fonts = b.fonts := by
  rcases does_bind.1 does with ⟨_, e, s₁, _, first, second, _⟩ | ⟨_, _, same⟩
  · obtain ⟨_, rfl, known⟩ := does_lookup first
    obtain ⟨found, kind⟩ := known e rfl
    rcases does_bind.1 second with ⟨_, ⟨y, e'⟩, s₂, _, bench, finish, _⟩ | ⟨_, _, same⟩
    · obtain ⟨worked, ⟨y', b⟩, _, path, done, _⟩ := path_bind.1 bench
      obtain ⟨_, same⟩ := path_pure.1 done
      cases same
      rcases does_bind.1 finish with ⟨_, _, s₃, _, put, last, _⟩ | ⟨_, _, same⟩
      · obtain ⟨_, _, rfl⟩ := does_modify.1 put
        cases y with
        | ok _ =>
          obtain ⟨_, _, rfl⟩ := does_pure.1 last
          exact ⟨e, b, worked, found, kind, path, rfl⟩
        | error why => cases (does_throw.1 last).2.1
      · cases same
    · cases same
  · cases same

lemma preserves_benchFonts (e : Element) {craft : Craft Unit} (uses : Uses Unlettered craft) :
    Preserves Scene.fonts (Scene.atBench e craft) := by
  have plain (r : BenchRequest) (unlettered : Unlettered r) :
      Preserves Bench.fonts (Bench.perform r) := by
    intro b log x b' does
    refine congrArg Prod.fst (preserves_spared (fun font same => ?_) _ _ _ _ does)
    rw [same] at unlettered
    exact unlettered
  intro s log r s' does
  obtain ⟨_, ⟨y, b⟩, _, path, done, _⟩ := path_bind.1 does
  obtain ⟨_, same⟩ := path_pure.1 done
  cases same
  exact preserves_carryOut uses plain _ _ _ _ path

lemma preserves_stageFonts {α : Type} (act : Work Stage α) :
    Preserves Scene.fonts (Scene.onStage act) := preserves_focus fun _ _ => rfl

lemma preserves_lookupFonts (id : UInt32) (widget : Widget) :
    Preserves Scene.fonts (Scene.lookup id widget) := by
  intro s log r s' does
  rw [(does_lookup does).2.1]

lemma preserves_releaseFonts (e : Element) : Preserves Scene.fonts (Scene.release e) := by
  have rest : Preserves Scene.fonts (do
      each e.scroll fun r => (ask (.cancelSampler r.sampler) : Script Patching Unit)
      Scene.onPools do
        Bench.giveBack e.options
        Bench.giveBack e.parts
        Pools.put e.leaf.kind e.leaf : Work Scene Unit) :=
    (preserves_each fun _ => preserves_script _).bind fun _ => preserves_stageFonts _
  unfold Scene.release
  split
  · exact (preserves_script _).bind fun _ => rest
  · exact rest

lemma preserves_createFonts (widget : Widget) (c : Creation) :
    Preserves Scene.fonts (Scene.create widget c) := by
  have built (config : Config) : Uses Unlettered (Craft.build config c.id widget) :=
    (raises_build config c.id widget).mono fun r raises => by
    cases r with
    | useFont => exact raises
    | _ => trivial
  unfold Scene.create
  refine preserves_get.bind fun s => ?_
  extract_lets raised
  split
  · exact preserves_throw _
  · refine (preserves_stageFonts _).bind fun leaf => ?_
    refine (preserves_script _).bind fun _ => ?_
    refine (preserves_script _).bind fun _ => ?_
    refine preserves_get.bind fun s => ?_
    refine (preserves_benchFonts _ (built _)).bind fun r => ?_
    refine Preserves.bind (Preserves.outcome (Preserves.bind ?_ fun _ => preserves_stageFonts _))
      fun placed => ?_
    · unfold Scene.create.liftExcept
      split
      · exact preserves_pure _
      · exact preserves_throw _
    · split
      · exact preserves_modify (by intro s; rfl)
      · exact (preserves_releaseFonts _).bind fun _ => preserves_throw _

/-- Only updates bring faces into the cache. -/
theorem preserves_fonts {p : Patch} (other : ∀ id change, p ≠ .update id change) :
    Preserves Scene.fonts (Scene.apply p) := by
  cases p with
  | create widget c => exact preserves_createFonts widget c
  | update id change => exact absurd rfl (other id change)
  | delete widget id =>
    refine (preserves_lookupFonts _ _).bind fun e =>
      Preserves.bind (preserves_modify (by intro s; rfl)) fun _ => ?_
    exact preserves_releaseFonts e
  | restack id layer depth =>
    refine preserves_get.bind fun s => ?_
    split
    · exact preserves_throw _
    · refine (preserves_stageFonts _).bind fun _ => ?_
      refine preserves_get.bind fun s => ?_
      split
      · exact preserves_script _
      · refine Preserves.bind (preserves_modify (by intro s; rfl)) fun _ =>
          (preserves_script _).bind fun _ => ?_
        exact preserves_forM fun _ => preserves_script _
  | createFrame | updateFrame | deleteFrame => exact preserves_stageFonts _
  | loadImage id path =>
    refine (preserves_script _).bind fun loaded => ?_
    split
    · exact preserves_get.bind fun _ => preserves_script _
    · exact preserves_pure _

end Patches

section Runs

variable {κ : Type} [Core κ] {mount : NodeId} {config : Config} {h₀ h : MemoryHost κ} {log : Log}
  {s : Scene} {font : Font}

lemma fontsOf_cons (p : Patch) (r : Except PatchError Unit) :
    ∃ fonts, fontsOf ((p, r) :: log) = fontsOf log ++ fonts := by
  cases p with
  | update id change =>
    cases r with
    | ok _ => exact ⟨carried change, rfl⟩
    | error why => exact ⟨[], (List.append_nil _).symm⟩
  | _ => exact ⟨[], (List.append_nil _).symm⟩

/-- Every change in the life of an element came with an accepted update. -/
lemma mem_fontsOf {id : UInt32} {change : Change} (there : change ∈ changes log id)
    (carries : font ∈ carried change) :
    font ∈ fontsOf log := by
  induction log with
  | nil => cases there
  | cons entry log ih =>
    obtain ⟨p, r⟩ := entry
    have before (earlier : change ∈ changes log id) : font ∈ fontsOf ((p, r) :: log) := by
      obtain ⟨fonts, eq⟩ : ∃ fonts, fontsOf ((p, r) :: log) = fontsOf log ++ fonts :=
        fontsOf_cons p r
      rw [eq]
      exact List.mem_append_left _ (ih earlier)
    cases r with
    | error why =>
      rw [changes_refused] at there
      exact before there
    | ok _ =>
      cases p with
      | create widget c =>
        simp only [changes] at there
        split at there
        · cases there
        · exact before there
      | update target change' =>
        simp only [changes] at there
        split at there
        · obtain rfl | earlier := List.mem_cons.1 there
          · exact List.mem_append_right _ carries
          · exact before earlier
        · exact before there
      | _ => exact before there

/-- What a text has noted for its links came with an accepted update. -/
lemma Recalls.fonts {id : UInt32} {e : Element} (recalls : Recalls log s)
    (found : s.elements[id]? = some e) (text : e.widget = .text)
    (noted : font ∈ fontOf e.linkStyle) : font ∈ fontsOf log := by
  rw [recalls id e found text] at noted
  cases last : lastLinkStyle (changes log id) with
  | none =>
    rw [last] at noted
    cases noted
  | some style =>
    rw [last] at noted
    obtain ⟨change, there, carries⟩ := List.exists_of_findSome?_eq_some last
    refine mem_fontsOf there ?_
    cases change with
    | text c =>
      have linkStyle : c.linkStyle = some style := carries
      rw [← linkStyle] at noted
      exact List.mem_append_right _ noted
    | _ => cases carries

lemma attach_inv (run : MemoryHost.serve (Scene.attach mount config) h₀ = .ok (.ok s, h)) :
    Abreast supplies beheld h₀.document.faces s h ∧ s.fonts = .empty := by
  obtain ⟨attached, h₁, staged, done⟩ := run_bind_inv run
  obtain ⟨⟨base, workshop⟩, h₂, built, finish⟩ := run_bind_inv staged
  have kept :=
    abstains_buildLayer mount 0 _ _ _ _ _ ⟨stocked_forAll true, (List.append_nil _).symm⟩ built
  cases finish
  cases base with
  | error why => cases done
  | ok layer =>
    cases done
    exact ⟨⟨kept.stocked, kept.faces⟩, rfl⟩

lemma Chronicle.abreast (chronicle : Chronicle mount config h₀ log s h) :
    Abreast supplies beheld h₀.document.faces s h := by
  induction chronicle with
  | attached run => exact (attach_inv run).1
  | patched _ run abreast => exact credits_apply _ _ _ _ _ _ abreast run

/-- A button keeps the three parts that it was built with. -/
lemma Chronicle.buttonParts (chronicle : Chronicle mount config h₀ log s h)
    (reached : Reached h₀.document) (there : h₀.document.issued mount) {id : UInt32} {e : Element}
    (found : s.elements[id]? = some e) (button : e.widget = .button) :
    e.parts.length = 3 := by
  have other : Widget.button ≠ .scroller := nofun
  have parts : (likeness e h.document).parts.length = partCount .button :=
    (abiding_parts other).abides chronicle.usage reached there id e found button
  rwa [likeness, portrait, List.length_map] at parts

/-- Fonts that were there before come to nothing when they are used after new ones. -/
lemma firstSights_update {fonts new again : List Font} {c : FontCache}
    (order : inOrder c = firstSights fonts) (old : ∀ font ∈ again, font ∈ fonts) :
    inOrder ((new ++ again).foldl cached c) = firstSights (fonts ++ new) := by
  rw [inOrder_foldl order, firstSights, List.filterMap_append, List.filterMap_append,
    ← List.append_assoc]
  refine eraseDups_again fun face there => List.mem_append_left _ ?_
  obtain ⟨font, used, loads⟩ := List.mem_filterMap.1 there
  exact List.mem_filterMap.2 ⟨font, old font used, loads⟩

/-- The cache holds the faces of the fonts that came with accepted updates. -/
theorem Chronicle.sights (chronicle : Chronicle mount config h₀ log s h)
    (reached : Reached h₀.document)
    (there : h₀.document.issued mount) : inOrder s.fonts = firstSights (fontsOf log) := by
  induction chronicle with
  | attached run =>
    rw [(attach_inv run).2]
    rfl
  | @patched log s s' h h' p r chronicle run sights =>
    obtain ⟨exchanges, does⟩ := does_of_patch run
    have kept (other : ∀ id change, p ≠ .update id change) :
        inOrder s'.fonts = firstSights (fontsOf log) := by
      rw [preserves_fonts other _ _ _ _ does, sights]
    cases p with
    | update id change =>
      cases r with
      | error why =>
        have refused := (chronicle.history.sound reached.tidy.linked there).update id change
        unfold Ends at refused
        rw [show MemoryHost.patch (Scene.update id change) s h = _ from run] at refused
        rw [refused.1, sights]
        rfl
      | ok _ =>
        obtain ⟨e, b, bench, found, kind, worked, fonts⟩ := does_update_fonts does
        have modest :
            Uses (fun r : BenchRequest => ∀ parent kind, r ≠ .addPart parent kind)
              (Craft.update id change) :=
          (modest_update id change).mono fun r modest parent kind same => by
            rw [same] at modest
            exact modest
        have wears := wears_update e.linkStyle id change fun button =>
          (chronicle.buttonParts reached there found (kind.trans button)).ge
        obtain ⟨_, ⟨again, rfl, old⟩, cache⟩ := does_wears modest wears worked
        rw [fonts, cache]
        refine firstSights_update sights fun font used => ?_
        obtain ⟨text, noted⟩ := old font used
        exact chronicle.annals.recalls.fonts found (kind.trans text) noted
    | create | delete | restack | createFrame | updateFrame | deleteFrame | loadImage =>
      exact kept (by rintro _ _ ⟨⟩)

/-- In every run of patches, the document is asked for the faces of all fonts that accepted updates
carried, each at its first sight. Fonts share a face if they have their family, the kind and the
address of their source, their style, and their weight in common. -/
theorem faces_of_chronicle (reached : Reached h₀.document) (there : h₀.document.issued mount)
    (chronicle : Chronicle mount config h₀ log s h) :
    h.document.faces = h₀.document.faces ++ firstSights (fontsOf log) ∧
    (firstSights (fontsOf log)).Nodup ∧
      ∀ f g : Font, f.face?.isSome →
        (f.face? = g.face? ↔ f.family = g.family ∧ f.origin.declared = g.origin.declared ∧
          f.origin.address? = g.origin.address? ∧ f.style = g.style ∧ f.weight = g.weight) := by
  have asked := chronicle.abreast.faces
  rw [beheld, chronicle.sights reached there] at asked
  exact ⟨asked, nodup_eraseDups _, fun f g => face?_eq_iff⟩

/-- A font of this family without a style and a weight. -/
def typeface (family : String) (origin : FontOrigin) : Font := ⟨family, origin, none, none⟩

/-- A style with nothing but a font. -/
def inFont (font : Font) : TextStyle := ⟨some font, none, none, none, none, none, none⟩

/-- A text was rewritten, deleted and created again, and its fonts were used by others, one of them
from a bundle with the same address. Three faces were loaded; a refused update loaded nothing. -/
theorem faces_after_reuse :
    ∃ (log : Log) (s : Scene) (h : MemoryHost Recorder), Chronicle ⟨0⟩ .standard blankPage log s h ∧
    (fontsOf log).length = 6 ∧ (typeface "Lora" (.web "lora.ttf")).face?.isSome ∧
      (typeface "Lora" (.web "lora.ttf")).face? = (typeface "Lora" (.bundled "lora.ttf")).face? ∧
      h.document.faces =
        [⟨"Inter", .stylesheet "https://fonts.googleapis.com/css?family=Inter", none, none⟩,
          ⟨"Lora", .file "lora.ttf", none, none⟩, ⟨"Inter", .file "inter.ttf", none, none⟩] := by
  let inter := typeface "Inter" (.web "https://fonts.googleapis.com/css?family=Inter")
  let lora := typeface "Lora" (.web "lora.ttf")
  have run : (logged ⟨0⟩ .standard blankPage [.create .text ⟨1, none, 0⟩,
      .update 1
        (.text ⟨⟨none, none, none⟩, some "[a](b)", some (inFont inter), some (inFont lora), none⟩),
      .update 1 (.text (retext (some "again") none)),
      .update 2 (.text (retext none (some (inFont (typeface "Never" (.web "never.ttf")))))),
      .delete .text 1, .create .text ⟨1, none, 0⟩,
      .update 1 (.text (retext none (some (inFont lora)))),
      .create .text ⟨2, none, 1⟩,
      .update 2 (.text (retext none (some (inFont (typeface "Lora" (.bundled "lora.ttf")))))),
      .update 2 (.text (retext none (some (inFont (typeface "Inter" (.bundled "inter.ttf")))))),
      .update 2 (.text (retext none (some (inFont (typeface "Arial" .installed)))))]).map
      (fun log => ((fontsOf log).length, firstSights (fontsOf log))) =
      some (6, [⟨"Inter", .stylesheet "https://fonts.googleapis.com/css?family=Inter", none, none⟩,
        ⟨"Lora", .file "lora.ttf", none, none⟩,
        ⟨"Inter", .file "inter.ttf", none, none⟩]) := by decide +kernel
  obtain ⟨log, start, facts⟩ := Option.map_eq_some_iff.1 run
  obtain ⟨fonts, sights⟩ := Prod.mk.inj facts
  obtain ⟨s, h, chronicle⟩ := exists_chronicle start
  obtain ⟨faces, _, shared⟩ := faces_of_chronicle reached_blankPage rfl chronicle
  refine ⟨log, s, h, chronicle, fonts, rfl,
    (shared _ _ rfl).2 ⟨rfl, by decide +kernel, rfl, rfl, rfl⟩, ?_⟩
  rw [faces, sights]
  rfl

end Runs

end Proofs

end LayeredPage
