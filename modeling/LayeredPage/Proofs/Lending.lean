import LayeredPage.Pool
import Mathlib

/-!
# Pools as lenders

Pools lend what their hooks make, and what comes back is reset and lent again. Articles are numbered
here as they are made, so they can be told apart whatever they are worth and whatever the hooks make
of them, and all that happens to them is noted. An article is with one borrower or on one shelf; the
one that came back last goes out first; and every article is reset once between two borrowers. The
pools do not see the numbers, so all of this holds of articles without them.
-/

namespace LayeredPage

/-- Hooks that share a state, and may break off. -/
abbrev Hooking (σ : Type) := StateT σ (Except Breach)

/-- What makes and resets the articles of each tag. -/
structure Hooks (σ κ τ : Type) where
  make : κ → Hooking σ τ
  reset : κ → τ → Hooking σ τ

/-- An item under a number that no other item has. -/
structure Article (τ : Type) where
  serial : Nat
  item : τ
deriving DecidableEq

inductive Trade (κ τ : Type) where
  | made (tag : κ) (p : Article τ)
  | took (tag : κ) (p : Article τ)
  | gave (tag : κ) (p : Article τ)
  /-- What came back became something else. -/
  | reset (tag : κ) (before after : Article τ)
deriving DecidableEq

namespace Trade

variable {κ τ : Type}

/-- The number of the article that was dealt with. -/
def serial : Trade κ τ → Nat
  | .made _ p | .took _ p | .gave _ p | .reset _ p _ => p.serial

def isMade : Trade κ τ → Bool
  | .made .. => true
  | _ => false

/-- The article that came back under this tag, as it is after its reset. -/
def returned? [DecidableEq κ] (tag : κ) : Trade κ τ → Option (Article τ)
  | .reset t _ p => if t = tag then some p else none
  | _ => none

end Trade

/-- The state of the hooks, and what happened so far, latest first. -/
abbrev TradeLog (σ κ τ : Type) := σ × List (Trade κ τ)

namespace Hooks

variable {σ κ τ : Type} (h : Hooks σ κ τ) (tag : κ)

/-- Makes an article under the next number. -/
def makeArticle : Hooking (TradeLog σ κ τ) (Article τ) := fun (world, trades) => do
  let (item, world) ← h.make tag world
  let p : Article τ := ⟨trades.countP (·.isMade), item⟩
  return (p, world, .made tag p :: trades)

/-- Resets an article, which keeps its number. -/
def resetArticle (p : Article τ) : Hooking (TradeLog σ κ τ) (Article τ) := fun (world, trades) => do
  let (item, world) ← h.reset tag p.item world
  let after : Article τ := ⟨p.serial, item⟩
  return (after, world, .reset tag p after :: trades)

end Hooks

/-- Pools of numbered articles, with the state of their hooks and all that happened. -/
structure Lender (σ κ τ : Type) where
  pools : Pools (Hooking (TradeLog σ κ τ)) κ (Article τ)
  world : σ
  trades : List (Trade κ τ)

/-- What borrowers do. -/
inductive Dealing (σ κ τ : Type) where
  | register (tag : κ)
  | take (tag : κ)
  | put (tag : κ) (p : Article τ)
  /-- They work on the state that they share with the hooks. -/
  | other (f : σ → σ)

section Borrowing

variable {σ κ τ : Type} [DecidableEq κ]

/-- The numbers of the articles that are with borrowers, under the tags that they got them from. -/
def borrowed : List (Trade κ τ) → List (κ × Nat)
  | [] => []
  | .took tag p :: trades => (tag, p.serial) :: borrowed trades
  | .gave tag p :: trades => (borrowed trades).erase (tag, p.serial)
  | .made .. :: trades | .reset .. :: trades => borrowed trades

/-- The article of a tag that came back last and was not borrowed again. -/
def lastReturned? (tag : κ) (trades : List (Trade κ τ)) : Option (Article τ) :=
  (trades.filterMap (Trade.returned? tag)).find? fun p => decide ((tag, p.serial) ∉ borrowed trades)

variable [Described κ]

namespace Lender

def log (l : Lender σ κ τ) : TradeLog σ κ τ := (l.world, l.trades)

/-- Borrowers put back what they have, whatever it is worth by then, under the tag that they got it
from, and register no tag twice. What breaks off leads nowhere. -/
def next? (h : Hooks σ κ τ) (l : Lender σ κ τ) : Dealing σ κ τ → Option (Lender σ κ τ)
  | .register tag =>
    if l.pools.isRegistered tag then none
    else some { l with pools := l.pools.register tag (h.makeArticle tag) (h.resetArticle tag) }
  | .take tag =>
    match Pools.take tag l.pools l.log with
    | .ok ((.ok p, pools), world, trades) => some ⟨pools, world, .took tag p :: trades⟩
    | .ok ((.error _, pools), world, trades) => some ⟨pools, world, trades⟩
    | .error _ => none
  | .put tag p =>
    if (tag, p.serial) ∈ borrowed l.trades then
      match Pools.put tag p l.pools (l.world, .gave tag p :: l.trades) with
      | .ok ((_, pools), world, trades) => some ⟨pools, world, trades⟩
      | .error _ => none
    else none
  | .other f => some { l with world := f l.world }

/-- A lender after some dealings, latest first. -/
def after (h : Hooks σ κ τ) (world : σ) : List (Dealing σ κ τ) → Option (Lender σ κ τ)
  | [] => some ⟨.empty, world, []⟩
  | e :: es => (after h world es).bind fun l => l.next? h e

end Lender

end Borrowing

namespace Pools

variable {σ κ τ : Type}

/-- The same pools, without numbers on the articles and without notes. -/
def unnumbered (h : Hooks σ κ τ) (ps : Pools (Hooking (TradeLog σ κ τ)) κ (Article τ)) :
    Pools (Hooking σ) κ τ :=
  ⟨ps.entries.map fun (tag, p) =>
    (tag, ⟨p.free.map (·.item), p.created, p.keeps, h.make tag, h.reset tag⟩)⟩

end Pools

end LayeredPage

namespace LayeredPage.Proofs

/-! ## Calls to pools -/

section Calls

variable {m : Type → Type} {κ τ : Type} [DecidableEq κ] {ps : Pools m κ τ}
  {pool : Pool m τ} {tag t : κ}

lemma find?_setIn (es : List (κ × Pool m τ)) :
    ((Pools.setIn tag pool es).find? fun e => decide (e.1 = t)).map (·.2) =
      if t = tag then some pool else (es.find? fun e => decide (e.1 = t)).map (·.2) := by
  induction es with
  | nil =>
    by_cases same : t = tag
    · simp [Pools.setIn, same]
    · simp [Pools.setIn, same, Ne.symm same]
  | cons e es ih =>
    by_cases here : e.1 = tag
    · by_cases same : t = tag
      · simp [Pools.setIn, here, same]
      · simp [Pools.setIn, here, same, Ne.symm same]
    · rw [Pools.setIn, if_neg here, List.find?_cons, List.find?_cons]
      by_cases found : e.1 = t
      · have other : t ≠ tag := found ▸ here
        simp [found, other]
      · simp only [found, decide_false]
        exact ih

lemma get?_set : (ps.set tag pool).get? t = if t = tag then some pool else ps.get? t :=
  find?_setIn _

end Calls

section Pooling

variable {m : Type → Type} [Monad m] [LawfulMonad m] {κ τ : Type} [DecidableEq κ] [Described κ]
  {ps : Pools m κ τ} {pool : Pool m τ} {tag : κ} {item : τ} {rest : List τ}

lemma pool_of_get? (there : ps.get? tag = some pool) :
    (Pools.pool tag : Action m (Pools m κ τ) (Pool m τ)) ps = pure (.ok pool, ps) := by
  unfold Pools.pool
  simp [Action.bind_apply, Action.get_apply, there, Action.pure_apply]

lemma pool_of_missing (missing : ps.get? tag = none) :
    (Pools.pool tag : Action m (Pools m κ τ) (Pool m τ)) ps =
      pure (.error (.unregisteredTag (Described.describe tag)), ps) := by
  unfold Pools.pool
  rw [Action.bind_apply, Action.get_apply]
  simp [missing]
  rfl

lemma take_of_get? (there : ps.get? tag = some pool) :
    (Pools.take tag : Action m (Pools m κ τ) τ) ps =
      (fun r => (.ok r.1, ps.set tag r.2)) <$> pool.take := by
  unfold Pools.take
  simp only [Action.bind_apply, pool_of_get? there, Action.liftM_apply, Action.modify_apply,
    Action.pure_apply, pure_bind, bind_assoc]
  rw [bind_pure_comp]

/-- An article is on the shelf: the top one goes out, and no hook is called. -/
lemma take_of_shelved (there : ps.get? tag = some pool) (shelved : pool.free = item :: rest) :
    (Pools.take tag : Action m (Pools m κ τ) τ) ps =
      pure (.ok item, ps.set tag { pool with free := rest }) := by
  rw [take_of_get? there, Pool.take, shelved, map_pure]

/-- The shelf is bare: one article is made. -/
lemma take_of_bare (there : ps.get? tag = some pool) (bare : pool.free = []) :
    (Pools.take tag : Action m (Pools m κ τ) τ) ps =
      (fun item => (.ok item, ps.set tag { pool with created := pool.created + 1 })) <$>
        pool.make := by
  rw [take_of_get? there, Pool.take, bare]
  simp

lemma put_of_get? (there : ps.get? tag = some pool) (item : τ) :
    (Pools.put tag item : Action m (Pools m κ τ) Unit) ps =
      (fun p => (.ok (), ps.set tag p)) <$> pool.put item := by
  unfold Pools.put
  simp [Action.bind_apply, pool_of_get? there, Action.liftM_apply, Action.modify_apply]

lemma put_of_keeps (there : ps.get? tag = some pool) (keeps : pool.keeps = true) (item : τ) :
    (Pools.put tag item : Action m (Pools m κ τ) Unit) ps =
      (fun item => (.ok (), ps.set tag { pool with free := item :: pool.free })) <$>
        pool.reset item := by
  rw [put_of_get? there, Pool.put]
  simp [keeps]

lemma take_of_missing (missing : ps.get? tag = none) :
    (Pools.take tag : Action m (Pools m κ τ) τ) ps =
      pure (.error (.unregisteredTag (Described.describe tag)), ps) := by
  unfold Pools.take
  simp [Action.bind_apply, pool_of_missing missing]

lemma put_of_missing (missing : ps.get? tag = none) (item : τ) :
    (Pools.put tag item : Action m (Pools m κ τ) Unit) ps =
      pure (.error (.unregisteredTag (Described.describe tag)), ps) := by
  unfold Pools.put
  simp [Action.bind_apply, pool_of_missing missing]

end Pooling

/-! ## What can have happened -/

section Courses

variable {κ τ : Type} [DecidableEq κ]

/-- The articles of a tag that came back and did not go out again, latest first. -/
def waiting (tag : κ) : List (Trade κ τ) → List (Article τ)
  | [] => []
  | .took t _ :: trades => if t = tag then (waiting tag trades).tail else waiting tag trades
  | .reset t _ after :: trades =>
    if t = tag then after :: waiting tag trades else waiting tag trades
  | .made .. :: trades | .gave .. :: trades => waiting tag trades

def madeUnder (tag : κ) : List (Trade κ τ) → Nat
  | [] => 0
  | .made t _ :: trades => if t = tag then madeUnder tag trades + 1 else madeUnder tag trades
  | .took .. :: trades | .gave .. :: trades | .reset .. :: trades => madeUnder tag trades

/-- What pools deal in, call by call. -/
inductive Course : List (Trade κ τ) → Prop where
  | nothing : Course []
  | made {tag : κ} {p : Article τ} {trades : List (Trade κ τ)} (course : Course trades)
    (bare : waiting tag trades = []) (fresh : p.serial = trades.countP (·.isMade)) :
      Course (.took tag p :: .made tag p :: trades)
  | lent {tag : κ} {p : Article τ} {rest : List (Article τ)} {trades : List (Trade κ τ)}
    (course : Course trades) (shelved : waiting tag trades = p :: rest) :
      Course (.took tag p :: trades)
  | returned {tag : κ} {before after : Article τ} {trades : List (Trade κ τ)}
    (course : Course trades) (held : (tag, before.serial) ∈ borrowed trades)
    (same : after.serial = before.serial) :
      Course (.reset tag before after :: .gave tag before :: trades)

/-- The first list has the last of the second list for each number that is not in the set, in this
order. -/
inductive Piled : Set Nat → List (Article τ) → List (Article τ) → Prop where
  | nothing {out : Set Nat} : Piled out [] []
  | skip {out : Set Nat} {p : Article τ} {waiting returned : List (Article τ)}
    (gone : p.serial ∈ out) (piled : Piled out waiting returned) : Piled out waiting (p :: returned)
  | top {out : Set Nat} {p : Article τ} {waiting returned : List (Article τ)}
    (here : p.serial ∉ out) (piled : Piled (insert p.serial out) waiting returned) :
      Piled out (p :: waiting) (p :: returned)

variable {out : Set Nat} {p : Article τ} {articles back : List (Article τ)}
  {trades : List (Trade κ τ)} {tag t : κ}

lemma Piled.not_mem (piled : Piled out articles back) (there : p ∈ articles) : p.serial ∉ out := by
  induction piled with
  | nothing => cases there
  | skip _ _ ih => exact ih there
  | top here _ ih =>
    obtain rfl | there := List.mem_cons.1 there
    · exact here
    · exact fun gone => ih there (Set.mem_insert_of_mem _ gone)

/-- The top of the stack goes out. -/
lemma Piled.pop (piled : Piled out (p :: articles) back) :
    Piled (insert p.serial out) articles back := by
  generalize same : p :: articles = whole at piled
  induction piled with
  | nothing => cases same
  | skip gone _ ih => exact .skip (Set.mem_insert_of_mem _ gone) (ih same)
  | top here piled _ =>
    cases same
    exact .skip (Set.mem_insert _ _) piled

lemma Piled.mono_bare {out' : Set Nat} (piled : Piled out [] back) (more : out ⊆ out') :
    Piled out' [] back := by
  generalize same : ([] : List (Article τ)) = none at piled
  induction piled with
  | nothing => exact .nothing
  | skip gone _ ih => exact .skip (more gone) (ih more same)
  | top => cases same

lemma Piled.find? {test : Article τ → Bool} (piled : Piled out articles back)
    (tests : ∀ p, test p = true ↔ p.serial ∉ out) : back.find? test = articles.head? := by
  induction piled with
  | nothing => rfl
  | skip gone _ ih => rw [List.find?_cons_of_neg (by simpa [tests] using gone), ih tests]
  | top here _ _ => rw [List.find?_cons_of_pos ((tests _).2 here), List.head?_cons]

/-! ## What is known of a course -/

/-- Since this article was put back one thing has happened to it: the reset of its tag made it what
it is. -/
def ResetSince (tag : κ) (p : Article τ) (trades : List (Trade κ τ)) : Prop :=
  ∃ later earlier before, trades = later ++ .gave tag before :: earlier ∧ before.serial = p.serial ∧
    later.filter (fun d => d.serial = p.serial) = [.reset tag before p]

/-- Each number belongs to one tag, and is with one borrower, or waits on the shelf of its tag,
above those that came back before. -/
structure Accounted (trades : List (Trade κ τ)) : Prop where
  numbered : ∀ tag p, .made tag p ∈ trades → p.serial < trades.countP (·.isMade)
  single : ∀ t p t' p', .made t p ∈ trades → .made t' p' ∈ trades → p.serial = p'.serial → t = t'
  held : (borrowed trades).Nodup
  origin : ∀ tag s, (tag, s) ∈ borrowed trades → ∃ p, p.serial = s ∧ .made tag p ∈ trades
  piled : ∀ tag, Piled {s | (tag, s) ∈ borrowed trades} (waiting tag trades)
    (trades.filterMap (Trade.returned? tag))
  shelved : ∀ tag, ∀ q ∈ waiting tag trades, ∃ p, p.serial = q.serial ∧ .made tag p ∈ trades
  balanced :
    ∀ tag, madeUnder tag trades = (borrowed trades).countP (·.1 = tag) + (waiting tag trades).length
  renewed : ∀ tag, ∀ p ∈ waiting tag trades, ResetSince tag p trades

/-- An article that waits is with nobody, not even under another tag. -/
lemma Accounted.apart (accounted : Accounted trades) (there : p ∈ waiting tag trades) (t : κ) :
    (t, p.serial) ∉ borrowed trades := by
  intro held
  obtain ⟨q, same, made⟩ := accounted.origin t _ held
  obtain ⟨q', same', made'⟩ := accounted.shelved tag p there
  obtain rfl := accounted.single _ _ _ _ made made' (same.trans same'.symm)
  exact (accounted.piled _).not_mem there held

lemma Accounted.nothing : Accounted ([] : List (Trade κ τ)) where
  numbered := nofun
  single := nofun
  held := List.nodup_nil
  origin := nofun
  piled _ := .nothing
  shelved := nofun
  balanced _ := rfl
  renewed := nofun

omit [DecidableEq κ] in
lemma ResetSince.cons {d : Trade κ τ} (renewed : ResetSince tag p trades)
    (other : d.serial ≠ p.serial) : ResetSince tag p (d :: trades) := by
  obtain ⟨later, earlier, before, rfl, same, once⟩ := renewed
  exact ⟨d :: later, earlier, before, rfl, same,
    by rw [List.filter_cons_of_neg (by simpa using other), once]⟩

lemma borrowed_took (t : κ) : {s | (t, s) ∈ borrowed (.took tag p :: trades)} =
    if t =
      tag then insert p.serial {s | (t, s) ∈ borrowed trades}
        else {s | (t, s) ∈ borrowed trades} := by
  ext s
  split <;> simp_all [borrowed]

lemma borrowed_gave (held : (borrowed trades).Nodup) (t : κ) :
    {s | (t, s) ∈ borrowed (.gave tag p :: trades)} =
    if t =
      tag then {s | (t, s) ∈ borrowed trades} \ {p.serial} else {s | (t, s) ∈ borrowed trades} := by
  ext s
  split <;> simp_all [borrowed, held.mem_erase_iff, and_comm]

/-- An article goes out from the top of its shelf. -/
lemma Accounted.lent {rest : List (Article τ)} (accounted : Accounted trades)
    (shelved : waiting tag trades = p :: rest) :
    Accounted (.took tag p :: trades) := by
  have there : p ∈ waiting tag trades := shelved ▸ List.mem_cons_self
  have rests {t : κ} {q : Article τ} (waits : q ∈ waiting t (.took tag p :: trades)) :
      q ∈ waiting t trades := by
    rw [waiting] at waits
    split at waits
    · exact List.mem_of_mem_tail waits
    · exact waits
  have piled (t : κ) :
      Piled {s | (t, s) ∈ borrowed (.took tag p :: trades)} (waiting t (.took tag p :: trades))
        ((Trade.took tag p :: trades).filterMap (Trade.returned? t)) := by
    rw [borrowed_took, waiting, List.filterMap_cons_none rfl]
    by_cases same : t = tag
    · subst same
      have pop := accounted.piled t
      rw [shelved] at pop
      rw [if_pos rfl, if_pos rfl, shelved]
      exact pop.pop
    · rw [if_neg same, if_neg (Ne.symm same)]
      exact accounted.piled t
  refine ⟨fun t q made => ?_, fun t q t' q' made made' =>
    accounted.single t q t' q' (by simpa using made) (by simpa using made'),
    List.nodup_cons.2 ⟨accounted.apart there tag, accounted.held⟩, fun t n held => ?_, piled,
    fun t q waits => ?_, fun t => ?_,
    fun t q waits => (accounted.renewed t q (rests waits)).cons fun same => ?_⟩
  · simpa [Trade.isMade] using accounted.numbered t q (by simpa using made)
  · obtain held | held := List.mem_cons.1 held
    · cases held
      obtain ⟨q, same, made⟩ := accounted.shelved tag p there
      exact ⟨q, same, List.mem_cons_of_mem _ made⟩
    · obtain ⟨q, same, made⟩ := accounted.origin t n held
      exact ⟨q, same, List.mem_cons_of_mem _ made⟩
  · obtain ⟨q', same, made⟩ := accounted.shelved t q (rests waits)
    exact ⟨q', same, List.mem_cons_of_mem _ made⟩
  · have balanced := accounted.balanced t
    rw [waiting, borrowed, List.countP_cons, madeUnder]
    by_cases same : t = tag
    · subst same
      rw [shelved, List.length_cons] at balanced
      rw [if_pos rfl, shelved, List.tail_cons, balanced]
      simp
      omega
    · simp [balanced, Ne.symm same]
  · obtain ⟨p', sameP, madeP⟩ := accounted.shelved tag p there
    obtain ⟨q', sameQ, madeQ⟩ := accounted.shelved t q (rests waits)
    obtain rfl := accounted.single _ _ _ _ madeP madeQ (sameP.trans (same.trans sameQ.symm))
    exact (piled tag).not_mem waits (List.mem_cons.2 (.inl (Prod.ext rfl same.symm)))

/-- A new article goes out past a bare shelf. -/
lemma Accounted.made (accounted : Accounted trades) (bare : waiting tag trades = [])
    (fresh : p.serial = trades.countP (·.isMade)) :
    Accounted (.took tag p :: .made tag p :: trades) := by
  have known {t : κ} {n : Nat} (held : (t, n) ∈ borrowed trades) : n ≠ p.serial := by
    obtain ⟨q, rfl, made⟩ := accounted.origin t n held
    exact (fresh ▸ accounted.numbered t q made).ne
  have unchanged (t : κ) : waiting t (.took tag p :: .made tag p :: trades) = waiting t trades := by
    rw [waiting, waiting]
    split
    · next same => rw [← same, bare, List.tail_nil]
    · rfl
  refine ⟨fun t q made => ?_, fun t q t' q' made made' same => ?_,
    List.nodup_cons.2 ⟨fun held => known held rfl, accounted.held⟩,
    fun t n held => ?_, fun t => ?_, fun t q waits => ?_, fun t => ?_, fun t q waits => ?_⟩
  · have count : (Trade.took tag p :: .made tag p :: trades).countP (·.isMade) =
        trades.countP (·.isMade) + 1 := by simp [Trade.isMade]
    rw [count]
    obtain ⟨rfl, rfl⟩ | old : t = tag ∧ q = p ∨ .made t q ∈ trades := by simpa using made
    · omega
    · exact (accounted.numbered t q old).trans (Nat.lt_succ_self _)
  · obtain ⟨rfl, rfl⟩ | old : t = tag ∧ q = p ∨ .made t q ∈ trades := by simpa using made
    · obtain ⟨rfl, rfl⟩ | old' : t' = t ∧ q' = q ∨ .made t' q' ∈ trades := by simpa using made'
      · rfl
      · exact absurd (same.symm.trans fresh) (accounted.numbered t' q' old').ne
    · obtain ⟨rfl, rfl⟩ | old' : t' = tag ∧ q' = p ∨ .made t' q' ∈ trades := by simpa using made'
      · exact absurd (same.trans fresh) (accounted.numbered t q old).ne
      · exact accounted.single t q t' q' old old' same
  · obtain held | held := List.mem_cons.1 held
    · cases held
      exact ⟨p, rfl, by simp⟩
    · obtain ⟨q, same, made⟩ := accounted.origin t n held
      exact ⟨q, same, List.mem_cons_of_mem _ (List.mem_cons_of_mem _ made)⟩
  · rw [borrowed_took, unchanged, List.filterMap_cons_none rfl, List.filterMap_cons_none rfl]
    by_cases same : t = tag
    · subst same
      have piled := accounted.piled t
      rw [bare] at piled ⊢
      rw [if_pos rfl]
      exact piled.mono_bare (Set.subset_insert _ _)
    · rw [if_neg same]
      exact accounted.piled t
  · rw [unchanged] at waits
    obtain ⟨q', same, made⟩ := accounted.shelved t q waits
    exact ⟨q', same, List.mem_cons_of_mem _ (List.mem_cons_of_mem _ made)⟩
  · rw [unchanged, borrowed, borrowed, List.countP_cons, madeUnder, madeUnder, accounted.balanced t]
    by_cases same : t = tag
    · subst same
      simp
      omega
    · simp [Ne.symm same]
  · rw [unchanged] at waits
    obtain ⟨q', same, made⟩ := accounted.shelved t q waits
    have other : p.serial ≠ q.serial := by
      rw [fresh, ← same]
      exact (accounted.numbered t q' made).ne'
    exact ((accounted.renewed t q waits).cons (by exact other)).cons (by exact other)

/-- An article comes back and is reset. -/
lemma Accounted.returned {before after : Article τ} (accounted : Accounted trades)
    (held : (tag, before.serial) ∈ borrowed trades) (same : after.serial = before.serial) :
    Accounted (.reset tag before after :: .gave tag before :: trades) := by
  have waits {t : κ} {q : Article τ}
    (waits : q ∈ waiting t (.reset tag before after :: .gave tag before :: trades)) :
      t = tag ∧ q = after ∨ q ∈ waiting t trades := by
    rw [waiting, waiting] at waits
    split at waits
    · next same => exact (List.mem_cons.1 waits).imp_left fun here => ⟨same.symm, here⟩
    · exact .inr waits
  have made {t : κ} {q : Article τ} :
      .made t q ∈ (Trade.reset tag before after :: .gave tag before :: trades) ↔
      .made t q ∈ trades := by
    simp
  refine ⟨fun t q there => ?_, fun t q t' q' there there' =>
    accounted.single t q t' q' (made.1 there) (made.1 there'),
    accounted.held.erase _, fun t n still => ?_, fun t => ?_, fun t q there => ?_, fun t => ?_,
    fun t q there => ?_⟩
  · simpa [Trade.isMade] using accounted.numbered t q (made.1 there)
  · obtain ⟨q, same, there⟩ := accounted.origin t n (List.mem_of_mem_erase still)
    exact ⟨q, same, made.2 there⟩
  · rw [borrowed, borrowed_gave accounted.held, waiting, waiting]
    by_cases here : t = tag
    · subst here
      rw [if_pos rfl, if_pos rfl, List.filterMap_cons_some (by rw [Trade.returned?, if_pos rfl]),
        List.filterMap_cons_none rfl]
      refine .top (by simp [same]) ?_
      rw [same, Set.insert_sdiff_singleton, Set.insert_eq_of_mem (by exact held)]
      exact accounted.piled t
    · rw [if_neg here, if_neg (Ne.symm here),
        List.filterMap_cons_none (by rw [Trade.returned?, if_neg (Ne.symm here)]),
        List.filterMap_cons_none rfl]
      exact accounted.piled t
  · obtain ⟨rfl, rfl⟩ | there := waits there
    · obtain ⟨q', same', there⟩ := accounted.origin _ _ held
      exact ⟨q', same'.trans same.symm, made.2 there⟩
    · obtain ⟨q', same', there⟩ := accounted.shelved t q there
      exact ⟨q', same', made.2 there⟩
  · have balanced := accounted.balanced t
    have some : t = tag → 0 < (borrowed trades).countP (·.1 = t) := fun same =>
      List.countP_pos_iff.2 ⟨_, held, by simp [same]⟩
    rw [madeUnder, madeUnder, balanced, borrowed, borrowed, List.countP_erase, waiting, waiting]
    by_cases here : t = tag
    · subst here
      have some := some rfl
      simp [held]
      omega
    · simp [Ne.symm here]
  · obtain ⟨rfl, rfl⟩ | there := waits there
    · exact ⟨[_], trades, before, rfl, same.symm, by simp [Trade.serial, same]⟩
    · have other : before.serial ≠ q.serial := by
        intro same
        rw [same] at held
        exact accounted.apart there tag held
      exact ((accounted.renewed t q there).cons (by exact other)).cons (by exact other)

lemma Course.accounted (course : Course trades) : Accounted trades := by
  induction course with
  | nothing => exact .nothing
  | made _ bare fresh ih => exact ih.made bare fresh
  | lent _ shelved ih => exact ih.lent shelved
  | returned _ held same ih => exact ih.returned held same

end Courses

/-! ## What pools keep to -/

section Lenders

variable {σ κ τ : Type} [DecidableEq κ] [Described κ] {h : Hooks σ κ τ} {l l' : Lender σ κ τ}
  {world : σ} {trades : List (Trade κ τ)}
  {tag t : κ} {es : List (Dealing σ κ τ)} {e : Dealing σ κ τ}

/-- The pools are what the trades say. -/
structure Audited (h : Hooks σ κ τ) (l : Lender σ κ τ) : Prop where
  course : Course l.trades
  stocked : ∀ tag pool, l.pools.get? tag = some pool →
    pool =
      ⟨waiting tag l.trades, madeUnder tag l.trades, true, h.makeArticle tag, h.resetArticle tag⟩
  idle : ∀ tag, l.pools.get? tag = none → waiting tag l.trades = [] ∧ madeUnder tag l.trades = 0
  opened : ∀ tag s, (tag, s) ∈ borrowed l.trades → ∃ pool, l.pools.get? tag = some pool

omit [DecidableEq κ] [Described κ] in
lemma makeArticle_eq :
    h.makeArticle tag (world, trades) =
      (fun r => (⟨trades.countP (·.isMade), r.1⟩, r.2,
        .made tag ⟨trades.countP (·.isMade), r.1⟩ :: trades)) <$>
        (h.make tag world : Except Breach (τ × σ)) := rfl

omit [DecidableEq κ] [Described κ] in
lemma resetArticle_eq (p : Article τ) :
    h.resetArticle tag p (world, trades) =
      (fun r => (⟨p.serial, r.1⟩, r.2, .reset tag p ⟨p.serial, r.1⟩ :: trades)) <$>
        (h.reset tag p.item world : Except Breach (τ × σ)) := rfl

lemma hooking_map {α β : Type} (f : α → β) (act : Hooking σ α) (world : σ) :
    (f <$> act) world = (fun r => (f r.1, r.2)) <$> (act world : Except Breach (α × σ)) := rfl

section Calls

variable {pool : Pool (Hooking (TradeLog σ κ τ)) (Article τ)}

lemma Audited.take_bare (audited : Audited h l) (there : l.pools.get? tag = some pool)
    (bare : waiting tag l.trades = []) (log : TradeLog σ κ τ) : Pools.take tag l.pools log =
      (fun r => ((.ok r.1, l.pools.set tag { pool with created := pool.created + 1 }), r.2)) <$>
        h.makeArticle tag log := by
  obtain rfl := audited.stocked tag pool there
  rw [take_of_bare there bare]
  rfl

lemma Audited.take_shelved {p : Article τ} {rest : List (Article τ)} (audited : Audited h l)
    (there : l.pools.get? tag = some pool)
    (shelved : waiting tag l.trades = p :: rest) (log : TradeLog σ κ τ) :
    Pools.take tag l.pools log =
      .ok ((.ok p, l.pools.set tag { pool with free := pool.free.tail }), log) := by
  obtain rfl := audited.stocked tag pool there
  rw [take_of_shelved there shelved, shelved]
  rfl

lemma Audited.put (audited : Audited h l) (there : l.pools.get? tag = some pool) (p : Article τ)
    (log : TradeLog σ κ τ) :
    Pools.put tag p l.pools log =
      (fun r => ((.ok (), l.pools.set tag { pool with free := r.1 :: pool.free }), r.2)) <$>
        h.resetArticle tag p log := by
  obtain rfl := audited.stocked tag pool there
  rw [put_of_keeps there rfl]
  rfl

omit [Described κ] in
/-- Deeds under one tag change one pool. -/
lemma Audited.set {pool' : Pool (Hooking (TradeLog σ κ τ)) (Article τ)} {trades' : List (Trade κ τ)}
    (audited : Audited h l) (there : l.pools.get? tag = some pool) (course : Course trades')
    (here : pool' =
      ⟨waiting tag trades', madeUnder tag trades', true, h.makeArticle tag, h.resetArticle tag⟩)
    (others : ∀ t, t ≠ tag → waiting t trades' = waiting t l.trades ∧
      madeUnder t trades' = madeUnder t l.trades)
    (held : ∀ t s, (t, s) ∈ borrowed trades' → t = tag ∨ (t, s) ∈ borrowed l.trades) (world : σ) :
    Audited h ⟨l.pools.set tag pool', world, trades'⟩ := by
  refine ⟨course, fun t q found => ?_, fun t missing => ?_, fun t s lent => ?_⟩
  · rw [get?_set] at found
    by_cases same : t = tag
    · subst same
      rw [if_pos rfl] at found
      rw [← Option.some.inj found, here]
    · rw [if_neg same] at found
      dsimp only
      rw [(others t same).1, (others t same).2]
      exact audited.stocked t q found
  · rw [get?_set] at missing
    by_cases same : t = tag
    · rw [if_pos same] at missing
      cases missing
    · rw [if_neg same] at missing
      dsimp only
      rw [(others t same).1, (others t same).2]
      exact audited.idle t missing
  · rw [get?_set]
    by_cases same : t = tag
    · exact ⟨pool', if_pos same⟩
    · rw [if_neg same]
      exact audited.opened t s ((held t s lent).resolve_left same)

lemma Audited.next_take (audited : Audited h l) (next : l.next? h (.take tag) = some l') :
    Audited h l' := by
  rw [Lender.next?] at next
  cases there : l.pools.get? tag with
  | none =>
    rw [take_of_missing there] at next
    cases next
    exact audited
  | some pool =>
    have kept := audited.stocked tag pool there
    cases waits : waiting tag l.trades with
    | nil =>
      rw [audited.take_bare there waits, Lender.log, makeArticle_eq] at next
      cases made : (h.make tag l.world : Except Breach (τ × σ)) with
      | error =>
        rw [made] at next
        cases next
      | ok r =>
        rw [made] at next
        cases next
        refine audited.set there (.made audited.course waits rfl) ?_ (fun t other => ?_)
          (fun t s lent => ?_) _
        · subst kept
          simp [waiting, madeUnder, waits]
        · simp [waiting, madeUnder, Ne.symm other]
        · exact (List.mem_cons.1 lent).imp_left fun same => congrArg Prod.fst same
    | cons p rest =>
      rw [audited.take_shelved there waits] at next
      cases next
      refine audited.set there (.lent audited.course waits) ?_ (fun t other => ?_)
        (fun t s lent => ?_) _
      · subst kept
        simp [waiting, madeUnder]
      · simp [waiting, madeUnder, Ne.symm other]
      · exact (List.mem_cons.1 lent).imp_left fun same => congrArg Prod.fst same

lemma Audited.next_put {p : Article τ} (audited : Audited h l)
    (next : l.next? h (.put tag p) = some l') : Audited h l' := by
  rw [Lender.next?] at next
  split at next
  · next held =>
    obtain ⟨pool, there⟩ := audited.opened tag _ held
    have kept := audited.stocked tag pool there
    rw [audited.put there, resetArticle_eq] at next
    cases renewed : (h.reset tag p.item l.world : Except Breach (τ × σ)) with
    | error =>
      rw [renewed] at next
      cases next
    | ok r =>
      rw [renewed] at next
      cases next
      have course : Course (.reset tag p ⟨p.serial, r.1⟩ :: .gave tag p :: l.trades) :=
        .returned audited.course held rfl
      refine audited.set there course ?_ (fun t other => ?_) (fun t s lent => ?_) _
      · subst kept
        simp [waiting, madeUnder]
      · simp [waiting, madeUnder, Ne.symm other]
      · exact .inr (List.mem_of_mem_erase lent)
  · cases next

lemma Audited.next_register (audited : Audited h l) (next : l.next? h (.register tag) = some l') :
    Audited h l' := by
  rw [Lender.next?] at next
  split at next
  · cases next
  · next fresh =>
    cases next
    have missing : l.pools.get? tag = none := by simpa [Pools.isRegistered] using fresh
    refine ⟨audited.course, fun t q found => ?_, fun t missing' => ?_, fun t s lent => ?_⟩
    · rw [Pools.register, get?_set] at found
      by_cases same : t = tag
      · subst same
        rw [if_pos rfl] at found
        rw [← Option.some.inj found, (audited.idle t missing).1, (audited.idle t missing).2]
        rfl
      · rw [if_neg same] at found
        exact audited.stocked t q found
    · rw [Pools.register, get?_set] at missing'
      by_cases same : t = tag
      · rw [if_pos same] at missing'
        cases missing'
      · rw [if_neg same] at missing'
        exact audited.idle t missing'
    · rw [Pools.register, get?_set]
      by_cases same : t = tag
      · exact ⟨_, if_pos same⟩
      · rw [if_neg same]
        exact audited.opened t s lent

lemma Audited.next (audited : Audited h l) (next : l.next? h e = some l') : Audited h l' := by
  cases e with
  | register tag => exact audited.next_register next
  | take tag => exact audited.next_take next
  | put tag p => exact audited.next_put next
  | other f =>
    cases next
    exact ⟨audited.course, audited.stocked, audited.idle, audited.opened⟩

lemma audited_of_after (history : Lender.after h world es = some l) : Audited h l := by
  induction es generalizing l with
  | nil =>
    cases history
    exact ⟨.nothing, nofun, fun _ _ => ⟨rfl, rfl⟩, nofun⟩
  | cons e es ih =>
    obtain ⟨l', before, next⟩ := Option.bind_eq_some_iff.1 history
    exact (ih before).next next

end Calls

/-! ## Articles without numbers -/

section Unnumbered

variable {ps : Pools (Hooking (TradeLog σ κ τ)) κ (Article τ)}
  {pool : Pool (Hooking (TradeLog σ κ τ)) (Article τ)}

omit [Described κ] in
lemma get?_unnumbered : (ps.unnumbered h).get? tag =
    (ps.get? tag).map fun p =>
      ⟨p.free.map (·.item), p.created, p.keeps, h.make tag, h.reset tag⟩ := by
  obtain ⟨entries⟩ := ps
  unfold Pools.get? Pools.unnumbered
  rw [List.find?_map, Option.map_map, Option.map_map]
  have same :
      (fun e => decide (e.1 = tag)) ∘ (fun (e : κ × Pool (Hooking (TradeLog σ κ τ)) (Article τ)) =>
        (e.1,
          (⟨e.2.free.map (·.item), e.2.created, e.2.keeps, h.make e.1, h.reset e.1⟩ :
            Pool (Hooking σ) τ))) =
        fun e => decide (e.1 = tag) := rfl
  rw [same]
  cases found : entries.find? fun e => decide (e.1 = tag) with
  | none => rfl
  | some e =>
    have here := List.find?_some found
    obtain rfl := of_decide_eq_true here
    rfl

omit [Described κ] in
lemma unnumbered_set : (ps.set tag pool).unnumbered h =
    (ps.unnumbered h).set tag ⟨pool.free.map (·.item), pool.created, pool.keeps,
      h.make tag, h.reset tag⟩ := by
  obtain ⟨entries⟩ := ps
  simp only [Pools.set, Pools.unnumbered, Pools.mk.injEq]
  induction entries with
  | nil => rfl
  | cons e entries ih =>
    by_cases here : e.1 = tag
    · rw [Pools.setIn, if_pos here, List.map_cons, List.map_cons, Pools.setIn, if_pos here]
    · rw [Pools.setIn, if_neg here, List.map_cons, List.map_cons, Pools.setIn, if_neg here, ih]

/-- Numbers make no difference to what goes out. -/
lemma Audited.take_unnumbered (audited : Audited h l) (tag : κ) :
    (Pools.take tag (l.pools.unnumbered h) l.world : Except Breach _) =
      (fun r => ((r.1.1.map (·.item), r.1.2.unnumbered h), r.2.1)) <$>
        (Pools.take tag l.pools l.log : Except Breach _) := by
  cases there : l.pools.get? tag with
  | none =>
    have missing : (l.pools.unnumbered h).get? tag = none := by
      rw [get?_unnumbered, there, Option.map_none]
    rw [take_of_missing there, take_of_missing missing]
    rfl
  | some pool =>
    have kept := audited.stocked tag pool there
    have plain : (l.pools.unnumbered h).get? tag =
        some ⟨pool.free.map (·.item), pool.created, pool.keeps, h.make tag, h.reset tag⟩ := by
      rw [get?_unnumbered, there, Option.map_some]
    cases waits : waiting tag l.trades with
    | nil =>
      rw [audited.take_bare there waits, take_of_bare plain (by rw [kept, waits]; rfl), Lender.log,
        makeArticle_eq, hooking_map]
      dsimp only
      cases (h.make tag l.world : Except Breach (τ × σ)) with
      | error => rfl
      | ok r => simp only [Functor.map, Except.map, unnumbered_set]
    | cons p rest =>
      rw [audited.take_shelved there waits, take_of_shelved plain (by rw [kept, waits]; rfl)]
      refine congrArg (fun ps => Except.ok ((Except.ok p.item, ps), l.world)) ?_
      rw [unnumbered_set, kept, waits]
      rfl

lemma Audited.put_unnumbered (audited : Audited h l) (tag : κ) (p : Article τ)
    (trades : List (Trade κ τ)) :
    (Pools.put tag p.item (l.pools.unnumbered h) l.world : Except Breach _) =
      (fun r => ((r.1.1, r.1.2.unnumbered h), r.2.1)) <$>
        (Pools.put tag p l.pools (l.world, trades) : Except Breach _) := by
  cases there : l.pools.get? tag with
  | none =>
    have missing : (l.pools.unnumbered h).get? tag = none := by
      rw [get?_unnumbered, there, Option.map_none]
    rw [put_of_missing there, put_of_missing missing]
    rfl
  | some pool =>
    have kept := audited.stocked tag pool there
    have plain : (l.pools.unnumbered h).get? tag =
        some ⟨pool.free.map (·.item), pool.created, pool.keeps, h.make tag, h.reset tag⟩ := by
      rw [get?_unnumbered, there, Option.map_some]
    rw [audited.put there, put_of_keeps plain (by rw [kept]), resetArticle_eq, hooking_map]
    dsimp only
    cases (h.reset tag p.item l.world : Except Breach (τ × σ)) with
    | error => rfl
    | ok r => simp only [Functor.map, Except.map, unnumbered_set, List.map_cons]

end Unnumbered

/-- What pools keep to, whatever their hooks do. -/
structure Reliable (h : Hooks σ κ τ) (l : Lender σ κ τ) : Prop where
  unshared : ((borrowed l.trades).map (·.2)).Nodup
  balanced : ∀ tag pool, l.pools.get? tag = some pool →
    pool.created = (borrowed l.trades).countP (·.1 = tag) + pool.available
  /-- What came back last goes out, and no hook is called; if there is nothing, one article is made,
  which nobody had before. -/
  taken : ∀ tag pool, l.pools.get? tag = some pool →
    match lastReturned? tag l.trades with
    | some p => (∀ t, (t, p.serial) ∉ borrowed l.trades) ∧
        Pools.take tag l.pools l.log =
          .ok ((.ok p, l.pools.set tag { pool with free := pool.free.tail }), l.log)
    | none => (∀ t, (t, l.trades.countP (·.isMade)) ∉ borrowed l.trades) ∧
        Pools.take tag l.pools l.log =
          (fun r => ((.ok r.1, l.pools.set tag { pool with created := pool.created + 1 }), r.2)) <$>
            h.makeArticle tag l.log
  /-- What comes back is reset once by the hook of its tag, and goes on top of the shelf. -/
  put : ∀ tag p, (tag, p.serial) ∈ borrowed l.trades → ∃ pool, l.pools.get? tag = some pool ∧ ∀ log,
    Pools.put tag p l.pools log =
      (fun r => ((.ok (), l.pools.set tag { pool with free := r.1 :: pool.free }), r.2)) <$>
        h.resetArticle tag p log
  renewed : ∀ tag pool, l.pools.get? tag = some pool → ∀ p ∈ pool.free, ResetSince tag p l.trades
  /-- A tag without a pool is refused by its name. -/
  refused : ∀ tag, l.pools.get? tag = none → ∀ log,
    Pools.take tag l.pools log =
      .ok ((.error (.unregisteredTag (Described.describe tag)), l.pools), log) ∧
    ∀ p, Pools.put tag p l.pools log =
      .ok ((.error (.unregisteredTag (Described.describe tag)), l.pools), log)
  /-- Pools of articles without numbers do the same. -/
  unnumbered : ∀ tag,
    (Pools.take tag (l.pools.unnumbered h) l.world : Except Breach _) =
      (fun r => ((r.1.1.map (·.item), r.1.2.unnumbered h), r.2.1)) <$>
        (Pools.take tag l.pools l.log : Except Breach _) ∧
    ∀ p trades, (Pools.put tag p.item (l.pools.unnumbered h) l.world : Except Breach _) =
      (fun r => ((r.1.1, r.1.2.unnumbered h), r.2.1)) <$>
        (Pools.put tag p l.pools (l.world, trades) : Except Breach _)

omit [Described κ] in
/-- A course tells which article is on top of a shelf. -/
lemma Accounted.lastReturned? (accounted : Accounted trades) :
    lastReturned? tag trades = (waiting tag trades).head? :=
  (accounted.piled tag).find? fun p => by simp

omit [Described κ] in
/-- New numbers are with nobody. -/
lemma Accounted.fresh (accounted : Accounted trades) (t : κ) :
    (t, trades.countP (·.isMade)) ∉ borrowed trades := by
  intro held
  obtain ⟨p, same, made⟩ := accounted.origin t _ held
  exact absurd same (accounted.numbered t p made).ne

omit [Described κ] in
/-- A number is with one borrower. -/
lemma Accounted.unshared (accounted : Accounted trades) : ((borrowed trades).map (·.2)).Nodup := by
  refine (List.nodup_map_iff_inj_on accounted.held).2 ?_
  rintro ⟨t, n⟩ held ⟨t', n'⟩ held' rfl
  obtain ⟨p, same, made⟩ := accounted.origin t _ held
  obtain ⟨p', same', made'⟩ := accounted.origin t' _ held'
  rw [accounted.single t p t' p' made made' (same.trans same'.symm)]

lemma Audited.reliable (audited : Audited h l) : Reliable h l := by
  have accounted := audited.course.accounted
  refine ⟨accounted.unshared, fun tag pool there => ?_, fun tag pool there => ?_, fun tag p held =>
    ?_, fun tag pool there p waits => ?_,
    fun tag missing log => ⟨?_, fun p => ?_⟩,
    fun tag => ⟨audited.take_unnumbered tag, audited.put_unnumbered tag⟩⟩
  · obtain rfl := audited.stocked tag pool there
    exact accounted.balanced tag
  · rw [accounted.lastReturned?]
    cases waits : waiting tag l.trades with
    | nil => exact ⟨accounted.fresh, audited.take_bare there waits _⟩
    | cons p rest =>
      exact ⟨accounted.apart (waits ▸ List.mem_cons_self), audited.take_shelved there waits _⟩
  · obtain ⟨pool, there⟩ := audited.opened tag _ held
    exact ⟨pool, there, audited.put there p⟩
  · obtain rfl := audited.stocked tag pool there
    exact accounted.renewed tag p waits
  · rw [take_of_missing missing]
    rfl
  · rw [put_of_missing missing]
    rfl

section Registered

variable {ps ps' : Pools (Hooking (TradeLog σ κ τ)) κ (Article τ)} {log log' : TradeLog σ κ τ}

omit [Described κ] in
lemma isRegistered_set {pool : Pool (Hooking (TradeLog σ κ τ)) (Article τ)} :
    (ps.set tag pool).isRegistered t = true ↔ t = tag ∨ ps.isRegistered t = true := by
  rw [Pools.isRegistered, get?_set]
  split
  · next same => simp [same]
  · next other => simp [other, Pools.isRegistered]

omit [Described κ] in
/-- Who changes a pool that is there registers no tag. -/
lemma isRegistered_map {α β : Type} {pool : Pool (Hooking (TradeLog σ κ τ)) (Article τ)}
    {act : Hooking (TradeLog σ κ τ) α}
    {f : α → Except PatchError β} {g : α → Pool (Hooking (TradeLog σ κ τ)) (Article τ)}
    {r : Except PatchError β} (there : ps.get? tag = some pool)
    (call : ((fun a => (f a, ps.set tag (g a))) <$> act) log = .ok ((r, ps'), log'))
    (t : κ) : ps'.isRegistered t = true ↔ ps.isRegistered t = true := by
  rw [hooking_map] at call
  cases acted : (act log : Except Breach _) with
  | error =>
    rw [acted] at call
    cases call
  | ok a =>
    rw [acted] at call
    cases call
    rw [isRegistered_set]
    refine or_iff_right_of_imp ?_
    rintro rfl
    simp [Pools.isRegistered, there]

lemma isRegistered_take {r : Except PatchError (Article τ)}
    (call : Pools.take tag ps log = .ok ((r, ps'), log')) (t : κ) :
    ps'.isRegistered t = true ↔ ps.isRegistered t = true := by
  cases there : ps.get? tag with
  | none =>
    rw [take_of_missing there] at call
    cases call
    rfl
  | some pool =>
    rw [take_of_get? there] at call
    exact isRegistered_map there call t

lemma isRegistered_put {r : Except PatchError Unit} {p : Article τ}
    (call : Pools.put tag p ps log = .ok ((r, ps'), log'))
    (t : κ) : ps'.isRegistered t = true ↔ ps.isRegistered t = true := by
  cases there : ps.get? tag with
  | none =>
    rw [put_of_missing there] at call
    cases call
    rfl
  | some pool =>
    rw [put_of_get? there] at call
    exact isRegistered_map there call t

/-- A tag has a pool from the day it is registered. -/
lemma isRegistered_of_after (history : Lender.after h world es = some l) (tag : κ) :
    l.pools.isRegistered tag = true ↔ .register tag ∈ es := by
  induction es generalizing l with
  | nil =>
    cases history
    simp [Pools.isRegistered, Pools.get?, Pools.empty]
  | cons e es ih =>
    obtain ⟨l', before, next⟩ := Option.bind_eq_some_iff.1 history
    rw [List.mem_cons, ← ih before]
    cases e with
    | register t =>
      rw [Lender.next?] at next
      split at next
      · cases next
      · cases next
        simp [Pools.register, isRegistered_set]
    | take t =>
      rw [Lender.next?] at next
      split at next
      all_goals
        next call =>
        cases next
        try simpa using isRegistered_take call tag
    | put t p =>
      rw [Lender.next?] at next
      split at next
      · split at next
        · next call =>
          cases next
          simpa using isRegistered_put call tag
        · cases next
      · cases next
    | other f =>
      cases next
      simp

end Registered

/-- Whatever the hooks do, and whatever was dealt: no article is with two borrowers; each pool has
made what is out and what it has; what came back last goes out first, reset once since it came back,
and articles are made one at a time and only when there are none; and tags are refused by their
name, untouched, if and only if they were never registered. -/
theorem lending_of_history (history : Lender.after h world es = some l) :
    Reliable h l ∧ ∀ tag, l.pools.isRegistered tag = true ↔ .register tag ∈ es :=
  ⟨(audited_of_after history).reliable, isRegistered_of_after history⟩

end Lenders

/-- Buffers under two tags; a third tag has no pool. Both articles of the first come back written
to, and go out again empty. -/
theorem lending_of_buffers :
    let h : Hooks Nat String (List Nat) :=
      ⟨fun _ n => .ok ([], n + 1), fun _ _ n => .ok ([], n + 10)⟩
    let es : List (Dealing Nat String (List Nat)) :=
      [.take "a", .take "c", .take "b", .put "a" ⟨1, [5]⟩, .other (· + 100), .put "a" ⟨0, [7, 8]⟩,
        .take "a", .register "b", .take "a", .register "a"]
    ∃ l, Lender.after h 0 es = some l ∧ Reliable h l ∧
      (∀ tag, l.pools.isRegistered tag = true ↔ .register tag ∈ es) ∧
      l.world = 123 ∧ borrowed l.trades = [("a", 1), ("b", 2)] ∧
      lastReturned? "a" l.trades = some ⟨0, []⟩ := by
  intro h es
  have history : ∃ l, Lender.after h 0 es = some l ∧ l.world = 123 ∧
    borrowed l.trades = [("a", 1), ("b", 2)] ∧
      lastReturned? "a" l.trades = some ⟨0, []⟩ := ⟨_, rfl, by decide, by decide, by decide⟩
  obtain ⟨l, history, facts⟩ := history
  obtain ⟨reliable, registered⟩ := lending_of_history history
  exact ⟨l, history, reliable, registered, facts⟩

end LayeredPage.Proofs
