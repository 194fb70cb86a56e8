import LayeredPage.Proofs.Annals
import LayeredPage.Proofs.Portraits

/-!
# Links of texts

A text whose markup is written anew has new links, and these are styled again as the text remembers.
Link styles are sparse, though, and a text remembers only the last one it was sent: what an earlier
one alone carried is lost with the old links. All of this holds for every page, whatever it replies.
-/

namespace LayeredPage.Proofs

/-! ## What a craft tells about links -/

/-- Markup that is written anew, or a style of the links in it. -/
inductive Mark where
  | rewrite (html : String)
  | restyle (property value : String)
deriving DecidableEq

def mark? : NodeWrite → Option Mark
  | .html html => some (.rewrite html)
  | .linkStyle property value => some (.restyle property value)
  | _ => none

/-- The marks that a request makes, with the nodes on which it makes them. -/
def marked? : PatchRequest → Option (NodeId × Mark)
  | .document (.setInnerHtml node html) => some (node, .rewrite html)
  | .document (.setLinkStyle node property value) => some (node, .restyle property value)
  | _ => none

def marks : BenchRequest → List (Spot × Mark)
  | .write spot w => ((mark? w).map (spot, ·)).toList
  | _ => []

/-- Marks on the nodes of an element. -/
def placed (e : Element) (ms : List (Spot × Mark)) : List (NodeId × Mark) :=
  ms.map fun x => (e.node x.1, x.2)

/-- What an element has noted after a settled request with this reply. -/
def Renotes (n : Notes) : (r : BenchRequest) → r.Reply → Notes → Prop
  | .look, view, n' => n' = n ∧ view.toNotes = n
  | .note notes, _, n' => n' = notes
  | _, _, n' => n' = n

/-- Whatever the replies, a craft ends with such notes after such marks. -/
def Tells {α : Type} (n : Notes) (craft : Craft α)
    (post : α → Notes → List (Spot × Mark) → Prop) : Prop :=
  match craft with
  | .done a => post a n []
  | .ask r next =>
    Settled r ∧ ∀ reply n', Renotes n r reply n' → Tells n' (next reply) fun a n'' ms =>
      post a n'' (marks r ++ ms)
  | .broken _ => False

/-- A craft notes nothing, and makes these marks. -/
abbrev Utters {α : Type} (n : Notes) (craft : Craft α) (ms : List (Spot × Mark)) : Prop :=
  Tells n craft fun _ n' ms' => n' = n ∧ ms' = ms

section Crafts

open Craft Styling

variable {α β : Type} {n : Notes} {craft : Craft α} {f : α → Craft β}
  {post mid : α → Notes → List (Spot × Mark) → Prop} {ms ms' : List (Spot × Mark)}

lemma Tells.mono {post' : α → Notes → List (Spot × Mark) → Prop} (tells : Tells n craft post)
    (more : ∀ a n' ms, post a n' ms → post' a n' ms) : Tells n craft post' := by
  induction craft generalizing n post post' with
  | done a => exact more a n [] tells
  | ask r rest ih =>
    exact ⟨tells.1, fun reply n' renotes =>
      ih reply (tells.2 reply n' renotes) fun a n'' ms => more a n'' _⟩
  | broken why => exact tells.elim

lemma Tells.bind {post : β → Notes → List (Spot × Mark) → Prop} (first : Tells n craft mid)
    (next : ∀ a n' ms, mid a n' ms → Tells n' (f a) fun b n'' ms' => post b n'' (ms ++ ms')) :
    Tells n (craft >>= f) post := by
  induction craft generalizing n mid post with
  | done a => exact next a n [] first
  | ask r rest ih =>
    refine ⟨first.1, fun reply n' renotes =>
      ih reply (first.2 reply n' renotes) fun a n'' ms reached => ?_⟩
    refine (next a n'' _ reached).mono fun b n₃ ms' told => ?_
    rwa [List.append_assoc] at told
  | broken why => exact first.elim

lemma utters_pure (a : α) : Utters n (pure a : Craft α) [] := ⟨rfl, rfl⟩

lemma Utters.bind (first : Utters n craft ms) (next : ∀ a, Utters n (f a) ms') :
    Utters n (craft >>= f) (ms ++ ms') := by
  refine Tells.bind first ?_
  rintro a _ _ ⟨rfl, rfl⟩
  exact (next a).mono fun _ n' told said => ⟨said.1, by rw [said.2]⟩

/-- Nothing is uttered first. -/
lemma Utters.then {post : β → Notes → List (Spot × Mark) → Prop} (first : Utters n craft [])
    (next : ∀ a, Tells n (f a) post) :
    Tells n (craft >>= f) post := by
  refine Tells.bind first ?_
  rintro a _ _ ⟨rfl, rfl⟩
  exact next a

lemma utters_each {o : Option α} {g : α → Craft Unit} {marked : α → List (Spot × Mark)}
    (all : ∀ a, Utters n (g a) (marked a)) :
    Utters n (each o g) (o.elim [] marked) := by
  cases o with
  | none => exact ⟨rfl, rfl⟩
  | some a => exact all a

/-- Nothing is said where nothing is said of any value. -/
lemma utters_nothing {o : Option α} {g : α → Craft Unit} (all : ∀ a, Utters n (g a) []) :
    Utters n (each o g) [] := by
  cases o with
  | none => exact ⟨rfl, rfl⟩
  | some a => exact all a

lemma tells_ite {c : Prop} [Decidable c] {yes no : Craft α} (hy : Tells n yes post)
    (hn : Tells n no post) :
    Tells n (if c then yes else no) post := by
  split
  · exact hy
  · exact hn

lemma utters_write (spot : Spot) (w : NodeWrite) :
    Utters n (Styling.write spot w) ((mark? w).map (spot, ·)).toList := by
  refine ⟨trivial, ?_⟩
  rintro _ _ rfl
  exact ⟨rfl, List.append_nil _⟩

lemma utters_style (spot : Spot) (property value : String) :
    Utters n (style spot property value) [] := utters_write ..

lemma utters_font {put : String → String → Craft Unit}
    {marked : String → String → List (Spot × Mark)}
    (utters : ∀ p v, Utters n (put p v) (marked p v)) (font : Font) : Utters n (applyFont put font)
      (marked "font-family" font.familyCss ++
        (font.style.elim [] (fun face => marked "font-style" face.css) ++
          font.weight.elim [] fun weight => marked "font-weight" (toString weight.number))) := by
  have used : Utters n (Craft.call (.useFont font)) [] := by
    refine ⟨trivial, ?_⟩
    rintro _ _ rfl
    exact ⟨rfl, rfl⟩
  refine used.then fun _ => ?_
  refine (utters _ _).bind fun _ => ?_
  exact (utters_each fun _ => utters _ _).bind fun _ => utters_each fun _ => utters _ _

lemma utters_alignment (container element : Spot) (s : TextStyle) :
    Utters n (applyAlignment container element s) [] := by
  refine (utters_nothing fun _ => (utters_style ..).then fun _ => utters_style ..).then fun _ => ?_
  exact (utters_nothing fun _ => utters_style ..).then fun _ =>
    utters_nothing fun _ => utters_style ..

lemma utters_textStyle (container element : Spot) (s : TextStyle) :
    Utters n (applyTextStyle container element s) [] := by
  have font (face : Font) : Utters n (applyFont (style container) face) [] := by
    have silent (p v : String) : Utters n (style container p v) ((fun _ _ => []) p v) :=
      utters_style ..
    refine (utters_font silent face).mono fun _ _ ms said => ⟨said.1, ?_⟩
    rw [said.2]
    cases face.style <;> cases face.weight <;> rfl
  refine (utters_nothing font).then fun _ => ?_
  refine (utters_nothing fun _ => utters_style ..).then fun _ => ?_
  refine (utters_nothing fun _ => utters_style ..).then fun _ => ?_
  refine (utters_nothing fun _ => utters_style ..).then fun _ => ?_
  exact utters_alignment ..

lemma utters_geometry (placed sized : Spot) (g : Geometry) :
    Utters n (applyGeometry placed sized g) [] := by
  refine (utters_nothing fun _ => utters_style ..).then fun _ => ?_
  refine (utters_nothing fun _ => utters_style ..).then fun _ => ?_
  exact utters_nothing fun _ => utters_style ..

/-! ### Link styles -/

def fontProperties (font : Font) : List (String × String) :=
  [("font-family", font.familyCss)] ++
    (font.style.elim [] (fun face => [("font-style", face.css)]) ++
      font.weight.elim [] fun weight => [("font-weight", toString weight.number)])

/-- The properties of links that a style carries. -/
def linkProperties (s : TextStyle) : List (String × String) :=
  s.font.elim [] fontProperties ++ (s.fill.elim [] (fun fill => [("color", fill.css)]) ++
    (s.size.elim [] (fun size => [("font-size", px size)]) ++ s.underline.elim [] fun u =>
      [("text-decoration", decoration u)]))

def restyles (spot : Spot) (ps : List (String × String)) : List (Spot × Mark) :=
  ps.map fun p => (spot, .restyle p.1 p.2)

lemma utters_linkStyle (container element : Spot) (s : TextStyle) :
    Utters n (applyLinkStyle container element s) (restyles element (linkProperties s)) := by
  have link (p v : String) :
      Utters n (Styling.write element (.linkStyle p v)) [(element, .restyle p v)] := utters_write ..
  refine Tells.mono (Utters.bind (utters_each fun font => utters_font link font) fun _ =>
    (utters_each fun _ => link ..).bind fun _ =>
    (utters_each fun _ => link ..).bind fun _ => (utters_each fun _ => link ..).bind fun _ =>
      utters_alignment ..) fun _ _ ms said => ⟨said.1, ?_⟩
  rw [said.2]
  rcases s with ⟨_ | ⟨_, _, _ | _, _ | _⟩, _ | _, _ | _, _ | _, _, _, _⟩ <;> rfl

/-! ### An update of a text -/

lemma tells_look {f : ElementView → Craft β} {post : β → Notes → List (Spot × Mark) → Prop}
    (next : ∀ view : ElementView, view.toNotes = n → Tells n (f view) post) :
    Tells n (Craft.call .look >>= f) post := by
  refine ⟨trivial, ?_⟩
  rintro view _ ⟨rfl, notes⟩
  exact next view notes

lemma tells_remember (change : Notes → Notes) :
    Tells n (remember change) fun _ n' ms => n' = change n ∧ ms = [] := by
  refine tells_look fun view notes => ?_
  rw [notes]
  refine ⟨trivial, ?_⟩
  rintro _ _ rfl
  exact ⟨rfl, rfl⟩

/-- The markup that an update writes, if it is not what was written last. -/
def rewriting (c : TextChange) (n : Notes) : Option String :=
  if (c.content.map Markdown.render).isSome &&
    c.content.map Markdown.render != n.html then c.content.map Markdown.render else none

/-- The styles of links that a text remembers. -/
def remembered (n : Notes) : List (Spot × Mark) :=
  n.linkStyle.elim [] fun s => restyles (.part 0) (linkProperties s)

/-- An update of a text that had noted `n` writes its markup first, and styles all links after
that. -/
structure Relinks (c : TextChange) (n n' : Notes) (ms : List (Spot × Mark)) : Prop where
  linkStyle : n'.linkStyle = c.linkStyle.or n.linkStyle
  marks : ms = (rewriting c n).elim [] (fun html => [(.part 0, .rewrite html)]) ++
    if (rewriting c n).isSome || c.linkStyle.isSome then remembered n' else []

theorem tells_text (c : TextChange) (n : Notes) : Tells n (updateText c) fun _ => Relinks c n := by
  unfold updateText
  refine tells_look fun view notes => ?_
  subst notes
  extract_lets text html rewritten relink fill height width
  have written : (rewriting c view.toNotes).isSome = rewritten := by
    change (if rewritten then html else none).isSome = rewritten
    cases here : rewritten with
    | false => rfl
    | true => exact (Bool.and_eq_true_iff.1 here).1
  have relinked (n₁ : Notes) :
      Utters n₁ (relink ()) (if rewritten || c.linkStyle.isSome then remembered n₁ else []) := by
    change Utters n₁ (if rewritten || c.linkStyle.isSome then _ else _) _
    split
    · refine tells_look fun again notes => ?_
      rw [remembered, ← notes]
      exact utters_each fun s => utters_linkStyle .leaf text s
    · exact utters_pure ()
  have filled (n₁ : Notes) (same : n₁.linkStyle = view.linkStyle) :
      Tells n₁ (fill ()) fun _ => Relinks c view.toNotes := by
    have edited (editable : Bool) : Utters n₁ (do
        attr text "contenteditable" (if editable then "true" else "false")
        if editable then
          style text "outline" "none"
          style text "width" "inherit"
          style text "height" "inherit") [] := by
      refine (utters_write ..).then fun _ => tells_ite ?_ (utters_pure ())
      refine (utters_style ..).then fun _ => ?_
      refine (utters_style ..).then fun _ => ?_
      exact utters_style ..
    have noted :
        Tells n₁ (each c.linkStyle fun s => remember fun n => { n with linkStyle := some s })
        fun _ n' ms =>
        n'.linkStyle = c.linkStyle.or view.linkStyle ∧ ms = [] := by
      rw [← same]
      cases c.linkStyle with
      | none => exact ⟨rfl, rfl⟩
      | some s =>
        have kept := tells_remember (n := n₁) fun n => { n with linkStyle := some s }
        refine kept.mono ?_
        rintro _ _ _ ⟨rfl, rfl⟩
        exact ⟨rfl, rfl⟩
    refine (utters_nothing edited).then fun _ => ?_
    refine (utters_nothing fun _ => utters_textStyle ..).then fun _ => ?_
    refine noted.bind ?_
    rintro _ n₂ _ ⟨linkStyle, rfl⟩
    split
    · next rewrites =>
      obtain ⟨markup, found⟩ := Option.isSome_iff_exists.1 (Bool.and_eq_true_iff.1 rewrites).1
      have markup_written : rewriting c view.toNotes = some markup := (if_pos rewrites).trans found
      rw [found]
      have marked_up : Tells n₂ (do
          Styling.write text (.html markup)
          remember fun n => { n with html := some markup }) fun _ n' ms =>
            n' = { n₂ with html := some markup } ∧ ms = [(text, .rewrite markup)] := by
        refine Tells.bind (utters_write ..) ?_
        rintro _ _ _ ⟨rfl, rfl⟩
        refine (tells_remember _).mono ?_
        rintro _ _ _ ⟨rfl, rfl⟩
        exact ⟨rfl, rfl⟩
      refine marked_up.bind ?_
      rintro _ _ _ ⟨rfl, rfl⟩
      refine (relinked _).mono ?_
      rintro _ _ _ ⟨rfl, rfl⟩
      exact ⟨linkStyle, by rw [written, markup_written]; rfl⟩
    · next same_markup =>
      refine (relinked n₂).mono ?_
      rintro _ _ _ ⟨rfl, rfl⟩
      exact ⟨linkStyle,
        by rw [written, show rewriting c view.toNotes = none from if_neg same_markup]; rfl⟩
  have tall (n₁ : Notes) (same : n₁.linkStyle = view.linkStyle) :
      Tells n₁ (height ()) fun _ => Relinks c view.toNotes :=
    tells_ite ((utters_write ..).then fun _ => filled n₁ same) (filled n₁ same)
  have wide (n₁ : Notes) (same : n₁.linkStyle = view.linkStyle) :
      Tells n₁ (width ()) fun _ => Relinks c view.toNotes :=
    (utters_geometry ..).then fun _ =>
      tells_ite ((utters_write ..).then fun _ => tall n₁ same) (tall n₁ same)
  refine tells_ite ((utters_write ..).then fun _ => (tells_remember _).bind ?_) (wide _ rfl)
  rintro _ _ _ ⟨rfl, rfl⟩
  exact wide _ rfl

end Crafts

/-! ## At the bench -/

section Bench

variable {α : Type} {b b' : Bench} {log : List (Exchange Patching)} {r : BenchRequest}
  {x : Except PatchError r.Reply}

lemma does_script_of_get {f : Bench → Script Patching α} {y : Except PatchError α}
    (does : Does (do (f (← get) : Script Patching α) : Work Bench α) b log y b') :
    ∃ a, Path (f b) log a ∧ y = .ok a ∧ b' = b := does_script.1 (does_get_bind.1 does)

lemma path_ask {r : DocumentRequest} {reply : r.Reply} (path : Path (ask r) log reply) :
    log = [⟨.document r, reply⟩] := path_request.1 path

lemma marked_write {w : NodeWrite} {n : NodeId} {u : Unit} (path : Path (w.apply n) log u) :
    log.filterMap (marked? ·.1) = ((mark? w).map (n, ·)).toList := by
  cases w <;> · rw [path_ask path]; rfl

lemma does_register {font : Font} {fonts fonts' : FontCache} {y : Except PatchError Bool}
    (does : Does (FontCache.register font) fonts log y fonts') : (∃ loaded, y = .ok loaded) ∧
    log.filterMap (marked? ·.1) = [] := by
  unfold FontCache.register at does
  cases face : font.face? with
  | none =>
    rw [face] at does
    obtain ⟨rfl, rfl, rfl⟩ := does_pure.1 does
    exact ⟨⟨_, rfl⟩, rfl⟩
  | some face' =>
    rw [face] at does
    have does := does_get_bind.1 does
    split at does
    · obtain ⟨rfl, rfl, rfl⟩ := does_pure.1 does
      exact ⟨⟨_, rfl⟩, rfl⟩
    · obtain ⟨before, u, after, path, rest, rfl⟩ := does_script_bind.1 does
      rcases does_bind.1 (does_get_bind.1 rest) with ⟨_, _, _, _, first, last, rfl⟩ | ⟨_, first, _⟩
      · obtain ⟨rfl, _, rfl⟩ := does_set.1 first
        obtain ⟨rfl, rfl, rfl⟩ := does_pure.1 last
        exact ⟨⟨_, rfl⟩, by rw [path_ask path]; rfl⟩
      · obtain ⟨_, same, _⟩ := does_set.1 first
        cases same

/-- Whatever a settled request is replied: the element keeps its nodes, and the marks are on those
that the request means. -/
theorem does_perform (settled : Settled r) (does : Does (Bench.perform r) b log x b') :
    ∃ reply, x = .ok reply ∧ Renotes b.element.toNotes r reply b'.element.toNotes ∧
      (∀ spot, b'.element.node spot = b.element.node spot) ∧
      log.filterMap (marked? ·.1) = placed b.element (marks r) := by
  cases r with
  | addPart | addOption | clearOptions | sample => exact settled.elim
  | look =>
    have looked :
        Does (get >>= fun b => pure b.element.view : Work Bench ElementView) b log x b' := does
    have viewed := does_get_bind.1 looked
    obtain ⟨rfl, rfl, rfl⟩ := does_pure.1 viewed
    exact ⟨_, rfl, ⟨rfl, rfl⟩, fun _ => rfl, rfl⟩
  | note notes =>
    obtain ⟨rfl, rfl, rfl⟩ := does_modify.1 does
    exact ⟨_, rfl, rfl, fun spot => by cases spot <;> rfl, rfl⟩
  | resizeRegion width height =>
    obtain ⟨rfl, rfl, rfl⟩ := does_modify.1 does
    exact ⟨_, rfl, rfl, fun spot => by cases spot <;> rfl, rfl⟩
  | html spot =>
    obtain ⟨reply, path, rfl, rfl⟩ := does_script_of_get does
    exact ⟨reply, rfl, rfl, fun _ => rfl, by rw [path_ask path]; rfl⟩
  | write spot w =>
    obtain ⟨reply, path, rfl, rfl⟩ := does_script_of_get does
    refine ⟨reply, rfl, rfl, fun _ => rfl, ?_⟩
    rw [marked_write path]
    cases h : mark? w <;> simp [marks, placed, h]
  | useFont font =>
    rcases does_bind.1 does with ⟨before, _, b₁, after, first, second, rfl⟩ | ⟨why, first, _⟩
    · obtain ⟨fonts, inner, rfl⟩ := does_focus first
      obtain ⟨rfl, rfl, rfl⟩ := does_pure.1 second
      exact ⟨_, rfl, rfl, fun _ => rfl, by rw [List.append_nil, (does_register inner).2]; rfl⟩
    · obtain ⟨fonts, inner, rfl⟩ := does_focus first
      obtain ⟨⟨_, same⟩, _⟩ := does_register inner
      cases same

theorem does_carryOut {craft : Craft α} {post : α → Notes → List (Spot × Mark) → Prop}
    {y : Except PatchError α}
    (tells : Tells b.element.toNotes craft post) (does : Does (Bench.carryOut craft) b log y b') :
    ∃ a ms, y = .ok a ∧ post a b'.element.toNotes ms ∧
      log.filterMap (marked? ·.1) = placed b.element ms := by
  induction craft generalizing b log post with
  | done a =>
    obtain ⟨rfl, rfl, rfl⟩ := does_pure.1 does
    exact ⟨a, [], rfl, tells, rfl⟩
  | ask r next ih =>
    rcases does_bind.1 does with ⟨before, reply, b₁, after, first, second, rfl⟩ | ⟨why, first, _⟩
    · obtain ⟨_, same, renotes, nodes, said⟩ := does_perform tells.1 first
      cases same
      obtain ⟨a, ms, rfl, told, later⟩ := ih reply (tells.2 reply _ renotes) second
      have there : placed b₁.element ms = placed b.element ms := by
        rw [placed, funext nodes, placed]
      exact ⟨a, marks r ++ ms, rfl, told,
        by rw [List.filterMap_append, said, later, there, placed, placed, placed, List.map_append]⟩
    · obtain ⟨_, same, _⟩ := does_perform tells.1 first
      cases same
  | broken why => exact tells.elim

end Bench

/-! ## What is remembered of a log -/

/-- The link style that a change carries. -/
def linkStyle? : Change → Option TextStyle
  | .text c => c.linkStyle
  | _ => none

/-- The link style that came last. -/
def lastLinkStyle (cs : List Change) : Option TextStyle := cs.findSome? linkStyle?

lemma lastLinkStyle_cons {c : TextChange} {cs : List Change} :
    lastLinkStyle (.text c :: cs) = c.linkStyle.or (lastLinkStyle cs) := by
  cases h : c.linkStyle <;> simp [lastLinkStyle, linkStyle?, h]

section Logs

variable {mount : NodeId} {config : Config} {log log' : Log} {s s' : Scene} {id : UInt32}
  {exchanges : List (Exchange Patching)}

/-- Texts remember the link styles that came last. -/
def Recalls (log : Log) (s : Scene) : Prop :=
  ∀ (id : UInt32) (e : Element), s.elements[id]? = some e → e.widget = .text →
    e.linkStyle = lastLinkStyle (changes log id)

lemma Recalls.stems (recalls : Recalls log s) (stems : Stems s s')
    (same : changes log' = changes log) : Recalls log' s' := by
  intro id e' found kind
  obtain ⟨e, there, widget, notes⟩ := stems id e' found
  rw [notes, same]
  exact recalls id e there (widget ▸ kind)

lemma Recalls.update (recalls : Recalls log s) {change : Change} {r : Except PatchError Unit}
    (does : Does (Scene.update id change) s exchanges r s') :
    Recalls ((.update id change, r) :: log) s' := by
  rcases does_update does with ⟨rfl, why, rfl⟩ | ⟨e, b, found, kind, bench, elements⟩
  · exact recalls.stems (.of_elements rfl) changes_refused
  · have widget : b.element.widget = e.widget :=
      preserves_carryOut (modest_update id change) (fun r _ => preserves_widget r) _ _ _ _ bench
    have others {j : UInt32} {x : Element} (other : j ≠ id) (there : s'.elements[j]? = some x)
      (text : x.widget = .text) :
        x.linkStyle = lastLinkStyle (changes ((.update id change, r) :: log) j) := by
      rw [elements, getElem?_insert_of_ne other] at there
      rw [recalls j x there text]
      cases r with
      | ok _ => simp only [changes, if_neg other]
      | error why => rw [changes_refused]
    intro j x there text
    by_cases here : j = id
    · subst here
      rw [elements, Std.ExtTreeMap.getElem?_insert_self, Option.some_inj] at there
      subst there
      cases change with
      | text c =>
        obtain ⟨_, _, rfl, relinked, _⟩ := does_carryOut (tells_text c e.toNotes) bench
        simp only [changes, if_true]
        rw [relinked.linkStyle, recalls j e found kind]
        exact lastLinkStyle_cons.symm
      | _ => cases kind.symm.trans (widget.symm.trans text)
    · exact others here there text

theorem Recalls.apply (recalls : Recalls log s) {p : Patch} {r : Except PatchError Unit}
    (does : Does (Scene.apply p) s exchanges r s') : Recalls ((p, r) :: log) s' := by
  cases p with
  | create widget c =>
    rcases does_create does with ⟨⟨why, rfl⟩, same⟩ | ⟨e, blank, rfl, elements⟩
    · exact recalls.stems (.of_elements same) changes_refused
    · intro id x there text
      simp only [changes]
      split
      · next here =>
        rw [elements, here, Std.ExtTreeMap.getElem?_insert_self, Option.some_inj] at there
        rw [← there, blank]
        rfl
      · next other =>
        rw [elements, getElem?_insert_of_ne other] at there
        exact recalls id x there text
  | update id change => exact recalls.update does
  | delete widget gone => exact recalls.stems (does_delete does) (by cases r <;> rfl)
  | restack target layer depth => exact recalls.stems (does_restack does) (by cases r <;> rfl)
  | createFrame | updateFrame | deleteFrame =>
    exact recalls.stems (.of_elements (preserves_onStage _ _ _ _ _ does)) (by cases r <;> rfl)
  | loadImage id path =>
    exact recalls.stems (.of_elements (preserves_loadImage id path _ _ _ _ does))
      (by cases r <;> rfl)

theorem Annals.recalls (annals : Annals mount config log s) : Recalls log s := by
  induction annals with
  | attached path =>
    obtain ⟨_, attached, _, _, done, _⟩ := path_bind.1 path
    obtain ⟨_, same⟩ := path_pure.1 done
    cases attached with
    | error why => cases same
    | ok stage =>
      cases same
      intro id e found
      have nobody : (∅ : Std.ExtTreeMap UInt32 Element)[id]? = some e := found
      simp at nobody
  | patched _ does recalls => exact recalls.apply does

end Logs

/-! ## What links get -/

/-- The value of a property that a link style carries. -/
def linkValue (s : TextStyle) (p : String) : Option String := (linkProperties s).lookup p

/-- The value of a property that link styles carried last. -/
def lastLinkValue (cs : List Change) (p : String) : Option String :=
  cs.findSome? fun change => (linkStyle? change).bind (linkValue · p)

/-- The value that requests give to a property of the links below a node, the last one if they give
several. -/
def given (n : NodeId) (p : String) (requests : List PatchRequest) : Option String :=
  requests.reverse.findSome? fun
    | .document (.setLinkStyle m q value) => if m = n ∧ q = p then some value else none
    | _ => none

section Links

variable {mount : NodeId} {config : Config} {log : Log} {s s' : Scene} {id : UInt32}
  {exchanges : List (Exchange Patching)}
  {n m : NodeId} {p html : String} {requests before after : List PatchRequest}
  {ps : List (String × String)}

lemma nodup_linkProperties (s : TextStyle) : ((linkProperties s).map Prod.fst).Nodup := by
  rcases s with ⟨_ | ⟨_, _, _ | _, _ | _⟩, _ | _, _ | _, _ | _, _, _, _⟩ <;>
    simp [linkProperties, fontProperties]

/-- Where a property is given once, the last value is the only one. -/
lemma lookup_of_reversed (nodup : (ps.map Prod.fst).Nodup) :
    ps.reverse.findSome? (fun q => if q.1 = p then some q.2 else none) = ps.lookup p := by
  induction ps with
  | nil => rfl
  | cons q ps ih =>
    rw [List.map_cons, List.nodup_cons] at nodup
    rw [List.reverse_cons, List.findSome?_append, ih nodup.2, List.lookup_cons]
    by_cases here : q.1 = p
    · subst here
      have absent : ps.lookup q.1 = none := List.lookup_eq_none_iff.2 fun x hx => by
        simpa using fun same : q.1 = x.1 => nodup.1 (same ▸ List.mem_map_of_mem hx)
      simp [absent]
    · simp [here, beq_eq_false_iff_ne.2 (Ne.symm here)]

lemma given_of_marked (marked : requests.filterMap marked? = ps.map fun q => (n, .restyle q.1 q.2))
    (nodup : (ps.map Prod.fst).Nodup) : given n p requests = ps.lookup p := by
  have value : (fun r => match r with
      | PatchRequest.document (.setLinkStyle m q value) =>
        if m = n ∧ q = p then some value else none
      | _ => none) = fun r => (marked? r).bind fun x => match x with
        | (m, .restyle q value) => if m = n ∧ q = p then some value else none
        | _ => none := by
    funext r
    cases r with
    | document r => cases r <;> rfl
    | addContext | removeContext | imageLoaded => rfl
  unfold given
  rw [value, ← List.head?_filterMap, ← List.filterMap_filterMap, List.filterMap_reverse,
    marked, ← List.map_reverse,
    List.head?_filterMap, List.findSome?_map, ← lookup_of_reversed nodup]
  congr 1
  funext q
  simp

/-- After a rewrite come only the styles of the links. -/
lemma marks_after_rewrite {node : NodeId} {markup : Option String} {ms : List (NodeId × Mark)}
    (marked : before.filterMap marked? ++ (n, .rewrite html) :: after.filterMap marked? =
      markup.elim [] (fun html => [(node, Mark.rewrite html)]) ++ ms)
    (plain : ∀ x ∈ ms, ∀ m html, x ≠ (m, .rewrite html)) : markup.isSome ∧ n = node ∧
    after.filterMap marked? = ms := by
  cases markup with
  | none =>
    rw [Option.elim_none, List.nil_append] at marked
    exact absurd rfl (plain _ (marked ▸ List.mem_append_right _ List.mem_cons_self) n html)
  | some h =>
    rw [Option.elim_some, List.singleton_append] at marked
    cases first : before.filterMap marked? with
    | nil =>
      rw [first, List.nil_append, List.cons.injEq, Prod.mk.injEq] at marked
      exact ⟨rfl, marked.1.1, marked.2⟩
    | cons x xs =>
      rw [first, List.cons_append, List.cons.injEq] at marked
      exact absurd rfl (plain _ (marked.2 ▸ List.mem_append_right _ List.mem_cons_self) n html)

lemma lastLinkValue_of_last {cs : List Change} {style : TextStyle} {v : String}
    (last : lastLinkStyle cs = some style)
    (value : linkValue style p = some v) : lastLinkValue cs p = some v := by
  obtain ⟨later, change, earlier, rfl, carries, silent⟩ := List.findSome?_eq_some_iff.1 last
  have quiet : later.findSome? (fun change => (linkStyle? change).bind (linkValue · p)) = none :=
    List.findSome?_eq_none_iff.2 fun x hx => by rw [silent x hx, Option.bind_none]
  rw [lastLinkValue, List.findSome?_append, quiet, Option.none_or, List.findSome?_cons, carries,
    Option.bind_some, value]

/-- An update that writes the markup of a text styles its links as the last link style says, and
says nothing more about them. -/
lemma Annals.relinks {c : TextChange} (annals : Annals mount config log s)
    (does : Does (Scene.apply (.update id (.text c))) s exchanges (.ok ()) s')
    (rewrites : exchanges.map Sigma.fst = before ++ .document (.setInnerHtml n html) :: after) :
    after.filterMap marked? =
      ((lastLinkStyle (changes ((.update id (.text c), .ok ()) :: log) id)).elim
        [] linkProperties).map
      fun q => (n, .restyle q.1 q.2) := by
  have recalls := annals.recalls.update does
  rcases does_update does with ⟨_, why, same⟩ | ⟨e, b, found, kind, bench, elements⟩
  · cases same
  · obtain ⟨_, ms, _, relinks, marked⟩ := does_carryOut (tells_text c e.toNotes) bench
    have widget : b.element.widget = e.widget :=
      preserves_carryOut (modest_update id (.text c)) (fun r _ => preserves_widget r) _ _ _ _ bench
    have remembers :=
      recalls id b.element
        (by rw [elements, Std.ExtTreeMap.getElem?_insert_self]) (widget.trans kind)
    have split : exchanges.filterMap (marked? ·.1) =
        before.filterMap marked? ++ (n, .rewrite html) :: after.filterMap marked? := by
      rw [← Function.comp_def, ← List.filterMap_map, rewrites, List.filterMap_append,
        List.filterMap_cons]
      rfl
    have place (markup : Option String) :
        placed e (markup.elim [] fun html => [(.part 0, .rewrite html)]) =
          markup.elim [] fun html => [(e.node (.part 0), .rewrite html)] := by
      cases markup <;> rfl
    have links : placed e (remembered b.element.toNotes) =
        (b.element.linkStyle.elim [] linkProperties).map fun q =>
          (e.node (.part 0), .restyle q.1 q.2) := by
      unfold remembered
      cases b.element.linkStyle with
      | none => rfl
      | some style => exact List.map_map
    rw [split, relinks.marks, placed, List.map_append, ← placed, ← placed, place] at marked
    obtain ⟨rewritten, rfl, later⟩ := marks_after_rewrite marked fun x hx m html same => by
      split at hx
      · rw [links] at hx
        obtain ⟨q, _, rfl⟩ := List.mem_map.1 hx
        cases same
      · cases hx
    rw [later, rewritten, Bool.true_or, if_pos rfl, links, remembers]

/-- Each property of the new links gets the value that the last link style carries. -/
lemma Annals.gives {c : TextChange} (annals : Annals mount config log s)
    (does : Does (Scene.apply (.update id (.text c))) s exchanges (.ok ()) s')
    (rewrites : exchanges.map Sigma.fst = before ++ .document (.setInnerHtml n html) :: after)
    (p : String) :
    given n p after = (lastLinkStyle (changes ((.update id (.text c), .ok ()) :: log) id)).bind
      (linkValue · p) := by
  have marked := annals.relinks does rewrites
  cases last : lastLinkStyle (changes ((.update id (.text c), .ok ()) :: log) id) with
  | none =>
    rw [last] at marked
    have nothing : given n p after = ([] : List (String × String)).lookup p :=
      given_of_marked marked List.nodup_nil
    exact nothing
  | some style =>
    rw [last] at marked
    exact given_of_marked marked (nodup_linkProperties style)

/-- Whatever a page replies, after any run of patches: an update that writes the markup of a text
gives each property of the new links the value that the last link style carries. That is the value
that link styles carried last, unless the last one lacks a property that an earlier one carried. -/
theorem links_of_annals {c : TextChange} (annals : Annals mount config log s)
    (does : Does (Scene.apply (.update id (.text c))) s exchanges (.ok ()) s')
    (rewrites : exchanges.map Sigma.fst = before ++ .document (.setInnerHtml n html) :: after)
    (p : String) :
    given n p after =
      (lastLinkStyle (changes ((.update id (.text c), .ok ()) :: log) id)).bind (linkValue · p) ∧
      ((∀ style, lastLinkStyle (changes ((.update id (.text c), .ok ()) :: log) id) = some style →
        linkValue style p = none →
          lastLinkValue (changes ((.update id (.text c), .ok ()) :: log) id) p = none) →
        given n p after =
          lastLinkValue (changes ((.update id (.text c), .ok ()) :: log) id) p) := by
  refine ⟨annals.gives does rewrites p, fun complete => ?_⟩
  rw [annals.gives does rewrites p]
  generalize changes ((.update id (.text c), .ok ()) :: log) id = cs at complete
  cases last : lastLinkStyle cs with
  | none =>
    have silent := List.findSome?_eq_none_iff.1 last
    exact (List.findSome?_eq_none_iff.2 fun change hc =>
      by rw [silent change hc, Option.bind_none]).symm
  | some style =>
    rw [Option.bind_some]
    cases value : linkValue style p with
    | none => exact (complete style last value).symm
    | some v => exact (lastLinkValue_of_last last value).symm

/-! ### Runs in memory -/

/-- The first mark among requests is that of a rewrite. -/
lemma exists_rewrite {rest : List (NodeId × Mark)}
    (marked : requests.filterMap marked? = (n, .rewrite html) :: rest) :
    ∃ before after, requests = before ++ .document (.setInnerHtml n html) :: after ∧
      after.filterMap marked? = rest := by
  obtain ⟨before, r, after, rfl, _, here, later⟩ := List.filterMap_eq_cons_iff.1 marked
  have rewrites : r = .document (.setInnerHtml n html) := by
    cases r with
    | document r =>
      cases r with
      | setInnerHtml =>
        cases here
        rfl
      | _ => cases here
    | addContext | removeContext | imageLoaded => cases here
  exact ⟨before, after, by rw [rewrites], later⟩

/-- An update with this content and this link style, and nothing else. -/
def retext (content : Option String) (linkStyle : Option TextStyle) : TextChange :=
  ⟨⟨none, none, none⟩, content, none, linkStyle, none⟩

/-- Links are underlined again after the content of a text in a frame changed. -/
theorem links_underlined_again : ∃ (log : Log) (s s' : Scene) (exchanges : List (Exchange Patching))
    (before after : List PatchRequest) (n : NodeId) (html : String), Annals ⟨0⟩ .standard log s ∧
      Does (Scene.apply (.update 5 (.text (retext (some "again") none)))) s exchanges (.ok ()) s' ∧
      exchanges.map Sigma.fst = before ++ .document (.setInnerHtml n html) :: after ∧
      given n "text-decoration" after = some "underline" := by
  have run : (asked [.createFrame ⟨1, none, 0⟩, .create .text ⟨5, some 1, 0⟩,
      .update 5
        (.text (retext (some "once") (some ⟨none, none, none, some true, none, none, none⟩))),
        .delete .button 5]
      (.update 5 (.text (retext (some "again") none)))).map (fun r => (r.2.filterMap marked?,
        (lastLinkStyle
          (changes ((.update 5 (.text (retext (some "again") none)), .ok ()) :: r.1) 5)).map
            (linkValue · "text-decoration"))) =
      some ([(⟨4⟩, .rewrite "again"), (⟨4⟩, .restyle "text-decoration" "underline")],
        some (some "underline")) := by decide +kernel
  obtain ⟨⟨log, requests⟩, start, facts⟩ := Option.map_eq_some_iff.1 run
  obtain ⟨marked, last⟩ := Prod.mk.inj facts
  obtain ⟨s, s', exchanges, annals, does, rfl⟩ := exists_annals_of_asked start
  obtain ⟨before, after, rewrites, _⟩ := exists_rewrite marked
  obtain ⟨style, hs, value⟩ := Option.map_eq_some_iff.1 last
  have gives :=
    (links_of_annals annals does rewrites "text-decoration").2 fun style' same lacks => by
    rw [hs, Option.some_inj] at same
    rw [← same, value] at lacks
    cases lacks
  exact ⟨log, s, s', exchanges, before, after, ⟨4⟩, "again", annals, does, rewrites,
    gives.trans (lastLinkValue_of_last hs value)⟩

/-- The colour of links came first, their size later, and then a new content; nothing colours its
links. -/
theorem links_lose_their_colour :
    ∃ (log : Log) (s s' : Scene) (exchanges : List (Exchange Patching))
    (before after : List PatchRequest) (n : NodeId) (html : String), Annals ⟨0⟩ .standard log s ∧
      Does (Scene.apply (.update 1 (.text (retext (some "[a](b)") none)))) s exchanges (.ok ()) s' ∧
      exchanges.map Sigma.fst = before ++ .document (.setInnerHtml n html) :: after ∧
      given n "color" after = none ∧
      (lastLinkValue (changes ((.update 1 (.text (retext (some "[a](b)") none)), .ok ()) :: log) 1)
        "color").isSome := by
  have run : (asked [.create .text ⟨1, none, 0⟩,
      .update 1
        (.text (retext none (some ⟨none, some (.rgb 0 0 1), none, none, none, none, none⟩))),
      .update 1 (.text (retext none (some ⟨none, none, some 20, none, none, none, none⟩)))]
      (.update 1 (.text (retext (some "[a](b)") none)))).map (fun r => (r.2.filterMap marked?,
        (lastLinkStyle
          (changes ((.update 1 (.text (retext (some "[a](b)") none)), .ok ()) :: r.1) 1)).bind
            (linkValue · "color"),
        (lastLinkValue
          (changes ((.update 1 (.text (retext (some "[a](b)") none)), .ok ()) :: r.1) 1)
            "color").isSome)) =
      some ([(⟨4⟩, .rewrite "<a href=\"b\">a</a>"), (⟨4⟩, .restyle "font-size" "20px")], none,
        true) := by decide +kernel
  obtain ⟨⟨log, requests⟩, start, facts⟩ := Option.map_eq_some_iff.1 run
  obtain ⟨marked, last⟩ := Prod.mk.inj facts
  obtain ⟨lacks, carried⟩ := Prod.mk.inj last
  obtain ⟨s, s', exchanges, annals, does, rfl⟩ := exists_annals_of_asked start
  obtain ⟨before, after, rewrites, _⟩ := exists_rewrite marked
  exact ⟨log, s, s', exchanges, before, after, _, _, annals, does, rewrites,
    (annals.gives does rewrites "color").trans lacks, carried⟩

end Links

end LayeredPage.Proofs
