import Mathlib
import LayeredPage.Layers.Stage

/-!
# Climbing through containers

The node of a container hangs from its parent's, and so on up to the overlay. Where the chain of
parents ends, the climb for a place on a layer finds it, whatever the layer has already; so fuel
never decides.
-/

namespace LayeredPage.Proofs

/-- The containers from one of them outwards, up to one without parent. -/
inductive Line (cs : Std.ExtTreeMap UInt32 Container) : Option UInt32 → List UInt32 → Prop where
  | top : Line cs none []
  | inner {id : UInt32} {c : Container} {ids : List UInt32} : cs[id]? = some c →
    Line cs c.parent ids →
      Line cs (some id) (id :: ids)

/-- The containers passed, innermost first, on the way to the first that has a node on the layer. -/
inductive Ascent (s : Stage) (l : Layer) : Option UInt32 → List UInt32 → NodeId → Prop where
  | overlay : Ascent s l none [] l.overlay.id
  | here {id : UInt32} {node : OwnedNode} : l.frames[id]? = some node →
    Ascent s l (some id) [] node.id
  | up {id : UInt32} {c : Container} {ids : List UInt32} {base : NodeId} : l.frames[id]? = none →
      s.containers[id]? = some c → Ascent s l c.parent ids base →
      Ascent s l (some id) (id :: ids) base

variable {s : Stage} {l : Layer} {x : Option UInt32} {ids ids' : List UInt32} {base base' : NodeId}

lemma Line.ascent (line : Line s.containers x ids) (l : Layer) :
    ∃ ids base, Ascent s l x ids base := by
  induction line with
  | top => exact ⟨[], l.overlay.id, .overlay⟩
  | @inner id c ids found _ ih =>
    obtain ⟨passed, base, ascent⟩ := ih
    cases here : l.frames[id]? with
    | some node => exact ⟨[], node.id, .here here⟩
    | none => exact ⟨id :: passed, base, .up here found ascent⟩

lemma Ascent.unique (a : Ascent s l x ids base) (a' : Ascent s l x ids' base') :
    ids = ids' ∧ base = base' := by
  induction a generalizing ids' with
  | overlay =>
    cases a'
    exact ⟨rfl, rfl⟩
  | here found =>
    cases a' with
    | here found' =>
      rw [found] at found'
      cases found'
      exact ⟨rfl, rfl⟩
    | up missing => simp [found] at missing
  | up missing found _ ih =>
    cases a' with
    | here found' => simp [missing] at found'
    | up _ found' rest =>
      rw [found] at found'
      cases found'
      obtain ⟨rfl, rfl⟩ := ih rest
      exact ⟨rfl, rfl⟩

/-- From a container passed on the way, the rest of the way is no longer. -/
lemma Ascent.from_passed (a : Ascent s l x ids base) {id : UInt32} (hid : id ∈ ids) :
    ∃ rest, Ascent s l (some id) rest base ∧ rest.length ≤ ids.length := by
  induction a with
  | overlay => cases hid
  | here => cases hid
  | @up first c ids base missing found rest ih =>
    rcases List.mem_cons.1 hid with rfl | hid
    · exact ⟨_, .up missing found rest, le_rfl⟩
    · obtain ⟨later, a, short⟩ := ih hid
      exact ⟨later, a, short.trans (Nat.le_succ _)⟩

lemma Ascent.nodup (a : Ascent s l x ids base) : ids.Nodup := by
  induction a with
  | overlay => exact List.nodup_nil
  | here => exact List.nodup_nil
  | @up id c ids base missing found rest ih =>
    refine List.nodup_cons.2 ⟨fun again => ?_, ih⟩
    obtain ⟨later, a, short⟩ := rest.from_passed again
    rw [(a.unique (.up missing found rest)).1, List.length_cons] at short
    omega

lemma Ascent.passed (a : Ascent s l x ids base) {id : UInt32} (hid : id ∈ ids) :
    l.frames[id]? = none ∧ id ∈ s.containers := by
  induction a with
  | overlay => cases hid
  | here => cases hid
  | up missing found _ ih =>
    rcases List.mem_cons.1 hid with rfl | hid
    · exact ⟨missing, Std.ExtTreeMap.mem_iff_isSome_getElem?.2 (by simp [found])⟩
    · exact ih hid

/-- There are no more registered containers than the table holds. -/
lemma length_le_size {cs : Std.ExtTreeMap UInt32 Container} (distinct : ids.Nodup)
    (known : ∀ id ∈ ids, id ∈ cs) :
    ids.length ≤ cs.size := by
  rw [← Std.ExtTreeMap.length_keys]
  exact (distinct.subperm fun id hid => Std.ExtTreeMap.mem_keys.2 (known id hid)).length_le

lemma Ascent.length_le (a : Ascent s l x ids base) : ids.length ≤ s.containers.size :=
  length_le_size a.nodup fun _ hid => (a.passed hid).2

lemma route_sound {fuel : Nat} {id : UInt32} {inner missing : List UInt32}
    (found : s.route l fuel id inner = .down base missing) :
    ∃ ids, Ascent s l (some id) ids base ∧ missing = ids.reverse ++ inner := by
  induction fuel generalizing id inner with
  | zero => simp [Stage.route] at found
  | succ fuel ih =>
    rw [Stage.route] at found
    cases here : l.frames[id]? with
    | some node =>
      simp only [here, Stage.Route.down.injEq] at found
      obtain ⟨rfl, rfl⟩ := found
      exact ⟨[], .here here, rfl⟩
    | none =>
      cases known : s.containers[id]? with
      | none => simp [here, known] at found
      | some c =>
        cases parent : c.parent with
        | none =>
          simp only [here, known, parent, Stage.Route.down.injEq] at found
          obtain ⟨rfl, rfl⟩ := found
          refine ⟨[id], .up here known ?_, rfl⟩
          rw [parent]
          exact .overlay
        | some p =>
          simp only [here, known, parent] at found
          obtain ⟨ids, ascent, rfl⟩ := ih found
          refine ⟨id :: ids, .up here known ?_, by simp⟩
          rwa [parent]

lemma route_complete {fuel : Nat} {id : UInt32} {inner : List UInt32}
    (a : Ascent s l (some id) ids base)
    (enough : ids.length < fuel) : s.route l fuel id inner = .down base (ids.reverse ++ inner) := by
  induction fuel generalizing id ids inner with
  | zero => omega
  | succ fuel ih =>
    rw [Stage.route]
    cases a with
    | here found => simp [found]
    | @up _ c ids _ missing found rest =>
      cases parent : c.parent with
      | none =>
        rw [parent] at rest
        cases rest
        simp [missing, found, parent]
      | some p =>
        rw [parent] at rest
        rw [List.length_cons] at enough
        simp [missing, found, parent, ih rest (Nat.lt_of_succ_lt_succ enough)]

/-- The climb for a place that exists finds it. -/
theorem route_eq {id : UInt32} (a : Ascent s l (some id) ids base) :
    s.route l (s.containers.size + 1) id [] = .down base ids.reverse := by
  rw [route_complete a (Nat.lt_succ_of_le a.length_le), List.append_nil]

end LayeredPage.Proofs
