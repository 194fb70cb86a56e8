import LayeredPage.Proofs.Licences
import LayeredPage.Proofs.Reporting

/-!
# Who has which equipment

A patch enters an element, or takes one out, or leaves the gear of all of them as it is. Every live
element hears the input of its kind on its first part, from the patch that creates it to the one
that deletes it.
-/

namespace LayeredPage.Proofs

open MemoryDocument

/-- Whether a patch with this result entered an element or took one out. -/
def Moves : Patch → Except PatchError Unit → Prop
  | .create .., .ok _ | .delete .., .ok _ => True
  | _, _ => False

/-- What a patch did to the elements of a scene. -/
inductive Shift (s : Scene) : Patch → Except PatchError Unit → Std.ExtTreeMap UInt32 Element → Prop
  | created {c : Creation} {widget : Widget} {e : Element} :
    s.elements[c.id]? = none → e.widget = widget →
    Shift s (.create widget c) (.ok ()) (s.elements.insert c.id e)
  | deleted {id : UInt32} {widget : Widget} {e : Element} :
    s.elements[id]? = some e → e.widget = widget →
    Shift s (.delete widget id) (.ok ()) (s.elements.erase id)
  | kept {p : Patch} {result : Except PatchError Unit} {elements : Std.ExtTreeMap UInt32 Element} :
    ¬ Moves p result →
    survivors s p = s.elements →
    (∀ id : UInt32, (elements[id]?).map gear = (s.elements[id]?).map gear) →
    Shift s p result elements

/-- Every element has the outfit of its kind. -/
def Equipped (elements : Std.ExtTreeMap UInt32 Element) (d : MemoryDocument) : Prop :=
  ∀ (id : UInt32) (e : Element), elements[id]? = some e → Outfit id e d

section Shifts

variable {κ : Type} [Core κ] {base : Nat} {mount : NodeId} {s : Scene} {h : MemoryHost κ}
  {id : UInt32} {e e' : Element} {elements : Std.ExtTreeMap UInt32 Element}

lemma regear_insert (found : elements[id]? = some e) (same : gear e' = gear e) (j : UInt32) :
    ((elements.insert id e')[j]?).map gear = (elements[j]?).map gear := by
  rw [getElem?_insert_eq]
  split
  · next here => rw [here, found, Option.map_some, Option.map_some, same]
  · rfl

lemma survivors_delete (found : s.elements[id]? = some e) :
    survivors s (.delete e.widget id) = s.elements.erase id := by
  simp [survivors, found]

lemma survivors_missing {widget : Widget} {why : PatchError}
    (missing : Missing s.elements id widget why) :
    survivors s (.delete widget id) = s.elements := by
  rcases missing with ⟨absent, _⟩ | ⟨x, found, other, _⟩
  · simp [survivors, absent]
  · simp [survivors, found, other]

/-- An update changes an element in what is no gear, or nothing. -/
lemma regear_update (s : Scene) (h : MemoryHost κ) (id : UInt32) (change : Change) :
    Ends (Scene.update id change) s h
    (fun _ s' _ => ∀ j : UInt32, (s'.elements[j]?).map gear = (s.elements[j]?).map gear)
    (fun _ s' _ => ∀ j : UInt32, (s'.elements[j]?).map gear = (s.elements[j]?).map gear) fun _ =>
      True := by
  unfold Scene.update
  refine (ends_bind _ _ _).2 ((ends_lookup s h id change.widget).mono ?_ ?_ fun _ => False.elim)
  · rintro e s₁ h₁ ⟨rfl, rfl, found, _⟩
    refine (ends_bind _ _ _).2
      ((ends_atBench _ _ _ _).2
        ((spares_carryOut (modest_update id change) κ _ h₁).mono ?_ ?_ fun _ _ => trivial))
    · exact fun _ b h₂ same => regear_insert found same
    · exact fun _ b h₂ same => regear_insert found same
  · rintro _ _ _ ⟨rfl, _⟩ _
    rfl

/-- What each patch does to the elements. -/
theorem Sound.shift (sound : Sound base mount s h) (p : Patch) : Ends (Scene.apply p) s h
    (fun _ s' _ => Shift s p (.ok ()) s'.elements)
    (fun why s' _ => Shift s p (.error why) s'.elements) fun _ => True := by
  have same {p : Patch} {result : Except PatchError Unit} {s' : Scene} (still : ¬ Moves p result)
    (outlive : survivors s p = s.elements)
    (elements : s'.elements = s.elements) : Shift s p result s'.elements :=
    .kept still outlive fun _ => by rw [elements]
  cases p with
  | create widget c =>
    refine (sound.create widget c).mono ?_
      (fun _ _ _ refused => same id rfl refused.2.1) fun _ _ => trivial
    rintro _ s' _ ⟨_, new, e, kind, elements⟩
    rw [elements]
    exact .created new kind
  | update id change =>
    exact (regear_update s h id change).mono (fun _ _ _ => .kept not_false rfl)
      (fun _ _ _ => .kept not_false rfl) fun _ _ => trivial
  | delete widget id =>
    refine (sound.delete widget id).mono ?_ ?_ fun _ _ => trivial
    · rintro _ s' _ ⟨_, ⟨e, found, kind⟩, elements⟩
      rw [elements]
      exact .deleted found kind
    · rintro _ s' _ ⟨rfl, _, missing⟩
      exact same not_false (survivors_missing missing) rfl
  | restack id layer depth =>
    refine (sound.restack id layer depth).mono ?_ ?_ fun _ _ => trivial
    · rintro _ s' _ ⟨_, e, tab, found, elements⟩
      refine .kept not_false rfl ?_
      rw [elements]
      exact regear_insert found rfl
    · rintro _ s' _ ⟨rfl, _⟩
      exact same not_false rfl rfl
  | createFrame c =>
    refine (sound.createFrame c.id c.frame).mono (fun _ _ _ done => same not_false rfl done.2.1)
      ?_ fun _ _ => trivial
    exact fun _ _ _ refused => same not_false rfl (by rw [refused.1])
  | updateFrame id g =>
    refine (sound.updateFrame id g).mono (fun _ _ _ done => same not_false rfl done.2.1)
      ?_ fun _ _ => trivial
    exact fun _ _ _ refused => same not_false rfl (by rw [refused.1])
  | deleteFrame id =>
    refine (sound.deleteFrame id).mono (fun _ _ _ done => same not_false rfl done.2.1)
      ?_ fun _ _ => trivial
    exact fun _ _ _ refused => same not_false rfl (by rw [refused.1])
  | loadImage id path =>
    have kept : Spares Scene.elements (Scene.loadImage id path) := by
      refine (spares_script _).bind fun known => ?_
      split
      · exact spares_get.bind fun s => spares_script _
      · exact spares_pure _
    exact (kept κ s h).mono (fun _ _ _ => same not_false rfl)
      (fun _ _ _ => same not_false rfl) fun _ _ => trivial

end Shifts

section Outfits

variable {κ : Type} [Core κ] {base : Nat} {mount : NodeId} {s : Scene} {h : MemoryHost κ}
  {id : UInt32} {e e' : Element} {elements : Std.ExtTreeMap UInt32 Element} {d d' : MemoryDocument}

lemma Outfit.regear (outfit : Outfit id e d) (same : gear e' = gear e) : Outfit id e' d := by
  have parts : e'.parts = e.parts := congrArg (·.2.1) same
  have widget : e'.widget = e.widget := congrArg (·.2.2.1) same
  refine ⟨?_, ?_⟩
  · rw [parts, widget]
    exact outfit.heard
  · rw [parts, widget]
    exact outfit.partless

/-- Nothing is bound on the parts of those who are guarded, and nothing is taken from them. -/
lemma Outfit.undisturbed {binds : Prop} (outfit : Outfit id e d) (there : elements[id]? = some e)
    (undisturbed : StillHeard (guarding elements binds) d d')
    (issued : ∀ n ∈ e.parts, d.issued n.id) : Outfit id e d' := by
  refine ⟨fun i n hn => ?_, outfit.partless⟩
  have part := List.mem_of_getElem? hn
  have fixed : Fixed elements n.id :=
    ⟨id, e, there, List.mem_map_of_mem (List.mem_cons_of_mem _ part)⟩
  rw [undisturbed n.id (issued n part) (fun granted => granted.2 fixed)
    fun granted => granted fixed]
  exact outfit.heard i n hn

/-- An element that was created has its outfit. -/
lemma Sound.outfitted (sound : Sound base mount s h) (widget : Widget) (c : Creation) :
    Ends (Scene.create widget c) s h
    (fun _ s' h' => ∃ e, s'.elements[c.id]? = some e ∧ Outfit c.id e h'.document)
    (fun _ _ _ => True) fun _ => True := by
  have tried := sound.tryOut widget c (l := .free) fun _ _ _ => trivial
  rw [create_eq]
  refine (ends_bind _ _ _).2 ((ends_get _).2 ?_)
  split
  · trivial
  refine (ends_bind _ _ _).2 (tried.2.mono ?_ (fun _ _ _ _ => trivial) fun _ _ => trivial)
  rintro ⟨placed, e⟩ s₁ h₁ ⟨_, _, _, outfit⟩
  cases placed with
  | ok => exact ⟨e, Std.ExtTreeMap.getElem?_insert_self, outfit⟩
  | error why =>
    refine (ends_bind _ _ _).2 (Ends.any ?_)
    exact fun _ _ _ => trivial

omit [Core κ] in
lemma Equipped.shift {p : Patch} {result : Except PatchError Unit}
    {elements : Std.ExtTreeMap UInt32 Element}
    (equipped : Equipped s.elements h.document) (shift : Shift s p result elements)
    (sound : Sound base mount s h)
    (undisturbed : StillHeard (guarding (survivors s p) (Creates p)) h.document d')
    (newly : ∀ widget c, p = .create widget c → result = .ok () →
      ∃ e, elements[c.id]? = some e ∧ Outfit c.id e d') :
    Equipped elements d' := by
  have old {id : UInt32} {e : Element} (there : (survivors s p)[id]? = some e)
    (found : s.elements[id]? = some e) :
      Outfit id e d' := by
    refine (equipped id e found).undisturbed there undisturbed fun n hn => ?_
    refine sound.stage.owned.issued
      (List.mem_append_right _ (mem_elementNodes.2 ⟨id, e, found, ?_⟩))
    exact List.mem_cons_of_mem _ (List.mem_append_left _ hn)
  intro id e he
  cases shift with
  | @created c widget x new kind =>
    rcases getElem?_table_insert he with ⟨rfl, rfl⟩ | ⟨_, he⟩
    · obtain ⟨y, hy, outfit⟩ := newly widget c rfl rfl
      rw [Std.ExtTreeMap.getElem?_insert_self] at hy
      cases hy
      exact outfit
    · exact old he he
  | deleted found kind =>
    have there := getElem?_erase_iff.1 he
    refine old ?_ there.2
    rw [← kind, survivors_delete found]
    exact he
  | kept still outlive gears =>
    have same := gears id
    rw [he, Option.map_some] at same
    obtain ⟨x, hx, same⟩ := Option.map_eq_some_iff.1 same.symm
    exact (old (outlive ▸ hx) hx).regear same.symm

/-- Whatever a patch does, the live elements have their outfit. -/
theorem Equipped.apply (equipped : Equipped s.elements h.document)
    (sound : Sound base mount s h) (p : Patch) :
    Ends (Scene.apply p) s h (fun _ s' h' => Equipped s'.elements h'.document)
    (fun _ s' h' => Equipped s'.elements h'.document)
      fun _ => True := by
  have newly : Ends (Scene.apply p) s h
      (fun _ s' h' => ∀ widget c, p = .create widget c → ∃ e, s'.elements[c.id]? = some e ∧
        Outfit c.id e h'.document)
      (fun _ _ _ => True) fun _ => True := by
    cases p with
    | create widget c =>
      refine (sound.outfitted widget c).mono ?_ (fun _ _ _ _ => trivial) fun _ _ => trivial
      rintro _ s' h' done _ _ ⟨⟩
      exact done
    | _ =>
      refine Ends.any fun _ _ _ => ?_
      exact nofun
  refine (((sound.minds_apply p).undisturbed.and (sound.shift p)).and newly).mono ?_
    ?_ fun _ _ => trivial
  · rintro _ s' h' ⟨⟨undisturbed, shift⟩, newly⟩
    exact equipped.shift shift sound undisturbed fun widget c create _ => newly widget c create
  · rintro why s' h' ⟨⟨undisturbed, shift⟩, _⟩
    exact equipped.shift shift sound undisturbed fun _ _ _ => nofun

end Outfits

end LayeredPage.Proofs
