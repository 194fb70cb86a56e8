import LayeredPage.Proofs.Streaming
import Mathlib.Data.List.DropRight

/-!
# Offsets that count bytes

A text is looked at byte by byte and cut at offsets that count bytes. A cut fails off the end of the
text and inside a character. A byte below 0x80 is a character of its own, so a cut next to one that
was found is always good.
-/

namespace LayeredPage.Text

/-- Number of bytes of a text. -/
def size (cs : List Char) : Nat := (cs.map Char.utf8Size).sum

def bytes (cs : List Char) : List UInt8 := cs.flatMap String.utf8EncodeChar

/-- The byte of a character that needs no second one. -/
def byteOf (c : Char) : UInt8 := UInt8.ofNat c.toNat

/-- A text before and after an offset: fails if the offset is not between two characters. -/
def cutAt? : Nat → List Char → Option (List Char × List Char)
  | 0, cs => some ([], cs)
  | _ + 1, [] => none
  | n + 1, c :: cs =>
    if c.utf8Size ≤ n + 1 then (cutAt? (n + 1 - c.utf8Size) cs).map
      fun parts => (c :: parts.1, parts.2) else none

def upTo? (n : Nat) (cs : List Char) : Option (List Char) := (cutAt? n cs).map Prod.fst

def beyond? (n : Nat) (cs : List Char) : Option (List Char) := (cutAt? n cs).map Prod.snd

def between? (first last : Nat) (cs : List Char) : Option (List Char) :=
  (upTo? last cs).bind (beyond? first)

/-- The first bytes, if there are so many. -/
def firstBytes? (n : Nat) (bs : List UInt8) : Option (List UInt8) :=
  if n ≤ bs.length then some (bs.take n) else none

/-- Where a character first stands. -/
def offset? (stop : Char) : List Char → Option Nat
  | [] => none
  | c :: cs => if c == stop then some 0 else (offset? stop cs).map (c.utf8Size + ·)

end LayeredPage.Text

namespace LayeredPage

/-- Goes round a loop until it gives its result. A round that does not come closer to the end
fails. -/
def untilDone {σ β : Type} (ahead : σ → Nat) (round : σ → Option (σ ⊕ β)) (s : σ) : Option β :=
  match round s with
  | none => none
  | some (.inr b) => some b
  | some (.inl s') => if ahead s' < ahead s then untilDone ahead round s' else none
termination_by ahead s

end LayeredPage

namespace LayeredPage.Proofs

open Text Markdown

/-- A loop gives a result if each round from a state of some kind gives it or comes, closer to the
end, to a state of that kind. -/
lemma untilDone_eq_some {σ β : Type} {ahead : σ → Nat} {round : σ → Option (σ ⊕ β)}
    {b : β} (Kind : σ → Prop)
    (goes : ∀ s, Kind s → round s = some (.inr b) ∨ ∃ s', round s = some (.inl s') ∧
      ahead s' < ahead s ∧ Kind s')
    {s : σ} (start : Kind s) : untilDone ahead round s = some b := by
  fun_induction untilDone ahead round s with
  | case1 s failed =>
    obtain done | ⟨s', next, -⟩ := goes s start
    · rw [failed] at done
      cases done
    · rw [failed] at next
      cases next
  | case2 s b' done =>
    obtain result | ⟨s', next, -⟩ := goes s start
    · rw [done] at result
      cases result
      rfl
    · rw [done] at next
      cases next
  | case3 s s' next closer ih =>
    obtain done | ⟨s'', same, -, kept⟩ := goes s start
    · rw [next] at done
      cases done
    · rw [next] at same
      cases same
      exact ih kept
  | case4 s s' next far =>
    obtain done | ⟨s'', same, closer, -⟩ := goes s start
    · rw [next] at done
      cases done
    · rw [next] at same
      cases same
      exact absurd closer far

section Cutting

variable {cs a b m : List Char} {c stop : Char} {n : Nat}

@[simp] lemma size_nil : size [] = 0 := rfl

@[simp] lemma size_cons (c : Char) (cs : List Char) : size (c :: cs) = c.utf8Size + size cs := by
  rw [size, List.map_cons, List.sum_cons, size]

@[simp] lemma size_join (a b : List Char) : size (a ++ b) = size a + size b := by
  rw [size, List.map_append, List.sum_append, size, size]

lemma size_pos (c : Char) (cs : List Char) : 0 < size (c :: cs) := by
  rw [size_cons]
  exact Nat.add_pos_left c.utf8Size_pos _

lemma size_le_of_infix (inside : a <:+: cs) : size a ≤ size cs := by
  obtain ⟨before, after, rfl⟩ := inside
  simp only [size_join]
  omega

lemma length_bytes (cs : List Char) : (bytes cs).length = size cs := by
  induction cs with
  | nil => rfl
  | cons c cs ih =>
    rw [bytes, List.flatMap_cons, List.length_append, String.length_utf8EncodeChar,
      ← bytes, ih, size_cons]

lemma bytes_append (a b : List Char) : bytes (a ++ b) = bytes a ++ bytes b := List.flatMap_append

lemma cutAt?_append (a b : List Char) : cutAt? (size a) (a ++ b) = some (a, b) := by
  induction a with
  | nil => rw [size_nil, cutAt?, List.nil_append]
  | cons c a ih =>
    obtain ⟨k, positive⟩ := Nat.exists_eq_succ_of_ne_zero c.utf8Size_pos.ne'
    have sized : size (c :: a) = k + size a + 1 := by
      rw [size_cons]
      omega
    have left : k + size a + 1 - c.utf8Size = size a := by omega
    rw [sized, List.cons_append, cutAt?, if_pos (by omega), left, ih, Option.map_some]

lemma upTo?_append (a b : List Char) : upTo? (size a) (a ++ b) = some a := by
  rw [upTo?, cutAt?_append, Option.map_some]

lemma beyond?_append (a b : List Char) : beyond? (size a) (a ++ b) = some b := by
  rw [beyond?, cutAt?_append, Option.map_some]

lemma between?_append (a m b : List Char) :
    between? (size a) (size (a ++ m)) (a ++ m ++ b) = some m := by
  rw [between?, upTo?_append, Option.bind_some, beyond?_append]

lemma offset?_eq (stop : Char) (cs : List Char) :
    offset? stop cs = (cut? stop cs).map fun parts => size parts.1 := by
  induction cs with
  | nil => rfl
  | cons c cs ih =>
    rw [offset?, cut?]
    split
    · rfl
    · rw [ih, Option.map_map, Option.map_map]
      refine congrArg (Option.map · _) (funext fun parts => ?_)
      exact (size_cons c parts.1).symm

end Cutting

section Bytes

variable {cs : List Char} {c x : Char}

/-- The first byte of a character. -/
def lead (c : Char) : UInt8 := (String.utf8EncodeChar c).headD 0

lemma utf8EncodeChar_eq (c : Char) :
    String.utf8EncodeChar c = lead c :: (String.utf8EncodeChar c).tail := by
  obtain ⟨b, bs, same⟩ := List.exists_cons_of_ne_nil String.utf8EncodeChar_ne_nil
  rw [lead, same]
  rfl

lemma bytes_cons (c : Char) (cs : List Char) :
    bytes (c :: cs) = lead c :: ((String.utf8EncodeChar c).tail ++ bytes cs) := by
  rw [bytes, List.flatMap_cons, ← List.cons_append, ← utf8EncodeChar_eq]
  rfl

lemma lead_of_ascii (ascii : c.toNat < 128) : lead c = byteOf c ∧ c.utf8Size = 1 := by
  have small : c.val.toNat ≤ 127 := Nat.le_of_lt_succ ascii
  have one : String.utf8EncodeChar c = [byteOf c] := by
    rw [String.utf8EncodeChar]
    exact if_pos small
  refine ⟨by rw [lead, one]; rfl, ?_⟩
  rw [← String.length_utf8EncodeChar, one]
  rfl

lemma lead_of_wide (wide : ¬c.toNat < 128) : 128 ≤ (lead c).toNat := by
  have large : ¬c.val.toNat ≤ 127 := by
    rw [Char.toNat_val]
    omega
  rw [lead, String.utf8EncodeChar]
  rw [if_neg large]
  split
  · simp only [List.headD_cons, UInt8.toNat_ofNat']
    omega
  split
  · simp only [List.headD_cons, UInt8.toNat_ofNat']
    omega
  · simp only [List.headD_cons, UInt8.toNat_ofNat']
    omega

/-- All bytes of a character but the first are above those that stand for a character of their
own. -/
lemma wide_of_tail {b : UInt8} (there : b ∈ (String.utf8EncodeChar c).tail) : 128 ≤ b.toNat := by
  rw [String.utf8EncodeChar] at there
  repeat' split at there
  all_goals
    simp only [List.tail_cons, List.mem_cons, List.not_mem_nil, or_false] at there
  · rw [there, UInt8.toNat_ofNat']
    omega
  · rcases there with rfl | rfl <;> rw [UInt8.toNat_ofNat'] <;> omega
  · rcases there with rfl | rfl | rfl <;> rw [UInt8.toNat_ofNat'] <;> omega

lemma byteOf_inj (ascii : c.toNat < 128) (ascii' : x.toNat < 128) :
    byteOf c = byteOf x ↔ c = x := by
  refine ⟨fun same => ?_, congrArg _⟩
  have values := congrArg UInt8.toNat same
  rw [byteOf, byteOf, UInt8.toNat_ofNat', UInt8.toNat_ofNat'] at values
  apply Char.toNat_inj.1
  omega

/-- A byte of a character of one byte stands for that character only. -/
lemma lead_eq_iff (ascii : x.toNat < 128) : lead c = byteOf x ↔ c = x := by
  by_cases narrow : c.toNat < 128
  · rw [(lead_of_ascii narrow).1, byteOf_inj narrow ascii]
  · constructor
    · intro same
      have wide := lead_of_wide narrow
      rw [same, byteOf, UInt8.toNat_ofNat'] at wide
      omega
    · rintro rfl
      exact absurd ascii narrow

/-- Reading bytes as long as they stand for characters of one kind is reading the characters. -/
lemma length_takeWhile_bytes (p : UInt8 → Bool) (q : Char → Bool) (agree : ∀ c, p (lead c) = q c)
    (ascii : ∀ c, q c = true → c.toNat < 128) (cs : List Char) :
    ((bytes cs).takeWhile p).length = size (cs.takeWhile q) ∧
    size (cs.takeWhile q) = (cs.takeWhile q).length := by
  induction cs with
  | nil => exact ⟨rfl, rfl⟩
  | cons c cs ih =>
    rw [bytes_cons, List.takeWhile_cons, List.takeWhile_cons, agree]
    cases kind : q c with
    | false => exact ⟨rfl, rfl⟩
    | true =>
      have one := (lead_of_ascii (ascii c kind)).2
      have alone : (String.utf8EncodeChar c).tail = [] := by
        rw [← List.length_eq_zero_iff, List.length_tail, String.length_utf8EncodeChar, one]
      rw [alone, List.nil_append, if_pos rfl, if_pos rfl, size_cons, List.length_cons,
        List.length_cons, one]
      omega

end Bytes

end LayeredPage.Proofs
