import LayeredPage.Proofs.Forms
import Mathlib.Data.List.Forall2

/-!
# Batches of patches

A batch is read in two passes: first all items must be objects, then each entry must have one key
and, if that is a tag, a payload of the tag's form. So the outcome of a batch is made up of the
outcomes of its parts, and entries with unknown keys count for nothing.
-/

namespace LayeredPage.Proofs

open Schema Batch

lemma ofName?_eq_some_iff {key : String} {tag : PatchTag} :
    PatchTag.ofName? key = some tag ↔ tag.name = key := by
  have named : ∀ tag ∈ PatchTag.all, PatchTag.ofName? tag.name = some tag := by decide +kernel
  have all : tag ∈ PatchTag.all := by
    cases tag with
    | create w => cases w <;> decide
    | update w => cases w <;> decide
    | delete w => cases w <;> decide
    | _ => decide
  constructor
  · intro found
    simpa using List.find?_some found
  · rintro rfl
    exact named tag all

/-- The bytes are the text of an array of these items. -/
def Spells (bytes : ByteArray) (items : List Json) : Prop :=
  ¬isBlank bytes ∧ Json.readBytes? bytes = some (.array items)

/-- One key, and a payload of its form if the key is a tag. -/
def Proper (j : Json) : Prop :=
  ∃ key payload, j = .object [(key, payload)] ∧ ∀ tag : PatchTag, tag.name = key →
    (formOf tag).Fits payload

/-- The tag and the payload of an entry whose key is a tag. -/
def tagged? : Json → Option (PatchTag × Json)
  | .object [(key, payload)] => (PatchTag.ofName? key).map (·, payload)
  | _ => none

/-- An entry with one key, which is no tag. -/
def isForeign : Json → Bool
  | .object [(key, _)] => (PatchTag.ofName? key).isNone
  | _ => false

/-- Every item is an object. -/
def Shaped (items : List Json) : Prop := ∀ i ∈ items, ∃ ms, i = .object ms

section Items

variable {items : List Json}

/-- What an entry can be. -/
lemma entry_cases (ms : Members) :
    ms.length ≠ 1 ∨ (∃ key payload, ms = [(key, payload)] ∧ PatchTag.ofName? key = none) ∨
      ∃ tag payload, ms = [(PatchTag.name tag, payload)] := by
  match ms with
  | [] => simp
  | [(key, payload)] =>
    cases found : PatchTag.ofName? key with
    | none => exact .inr (.inl ⟨key, payload, rfl, found⟩)
    | some tag =>
      obtain rfl := ofName?_eq_some_iff.1 found
      exact .inr (.inr ⟨tag, payload, rfl⟩)
  | _ :: _ :: _ => simp

lemma not_proper_of_keys {ms : Members} (many : ms.length ≠ 1) : ¬Proper (.object ms) := by
  rintro ⟨key, payload, eq, _⟩
  obtain rfl := Json.object.inj eq
  exact many rfl

lemma proper_foreign {key : String} {payload : Json} (foreign : PatchTag.ofName? key = none) :
    Proper (.object [(key, payload)]) := by
  refine ⟨key, payload, rfl, fun tag named => ?_⟩
  rw [ofName?_eq_some_iff.2 named] at foreign
  contradiction

lemma proper_tagged {tag : PatchTag} {payload : Json} :
    Proper (.object [(tag.name, payload)]) ↔ (formOf tag).Fits payload := by
  constructor
  · rintro ⟨key, payload', eq, fits⟩
    obtain ⟨rfl, rfl⟩ : tag.name = key ∧ payload = payload' := by simpa using eq
    exact fits tag rfl
  · intro fits
    refine ⟨tag.name, payload, rfl, fun tag' named => ?_⟩
    have same := (ofName?_eq_some_iff.2 named).symm.trans (ofName?_eq_some_iff.2 rfl)
    rwa [Option.some.inj same]

lemma mapM_members (entries : List Members) :
    (entries.map Json.object).mapM members? = some entries := by
  induction entries with
  | nil => rfl
  | cons ms entries ih => rw [List.map_cons, List.mapM_cons, ih]; rfl

lemma mapM_members_none (other : ∃ i ∈ items, ∀ ms, i ≠ .object ms) :
    items.mapM members? = none := by
  obtain ⟨i, mem, other⟩ := other
  induction items with
  | nil => contradiction
  | cons j items ih =>
    rw [List.mapM_cons]
    rcases List.mem_cons.1 mem with rfl | later
    · cases i with
      | object ms => exact absurd rfl (other ms)
      | _ => rfl
    · cases members? j <;> simp [ih later]

lemma exists_entries (shaped : Shaped items) :
    ∃ entries : List Members, items = entries.map .object := by
  induction items with
  | nil => exact ⟨[], rfl⟩
  | cons j items ih =>
    obtain ⟨⟨ms, rfl⟩, tail⟩ := List.forall_mem_cons.1 shaped
    obtain ⟨entries, rfl⟩ := ih tail
    exact ⟨ms :: entries, rfl⟩

lemma Proper.object {j : Json} (proper : Proper j) : ∃ ms, j = .object ms := by
  obtain ⟨key, payload, rfl, _⟩ := proper
  exact ⟨_, rfl⟩

lemma shaped_of_proper (proper : ∀ i ∈ items, Proper i) : Shaped items :=
  fun i mem => (proper i mem).object

lemma not_shaped_iff : ¬Shaped items ↔ ∃ i ∈ items, ∀ ms, i ≠ .object ms := by
  simp only [Shaped, not_forall, not_exists, exists_prop]

/-- The entries that a batch is read from: those whose key may be a tag. -/
def natives (items : List Json) : List Json := items.filter fun i => !isForeign i

lemma shaped_natives : Shaped (natives items) ↔ Shaped items := by
  refine ⟨fun shaped i mem => ?_, fun shaped i mem => shaped i (List.mem_filter.1 mem).1⟩
  by_cases foreign : isForeign i
  · cases i with
    | object ms => exact ⟨ms, rfl⟩
    | _ => cases foreign
  · exact shaped i (List.mem_filter.2 ⟨mem, by simpa using foreign⟩)

end Items

section Outcomes

variable [Wording]

/-- What is wrong with one entry. -/
inductive Fault : Json → PatchError → Prop where
  | keys {ms : Members} (many : ms.length ≠ 1) : Fault (.object ms) (.malformed (.keys ms.length))
  | payload {tag : PatchTag} {j : Json} (misfit : ¬(formOf tag).Fits j) :
    Fault (.object [(tag.name, j)]) (.malformed (.form (Wording.misfit tag j)))

/-- The fault of the first entry that has one. -/
def FirstFault (items : List Json) (e : PatchError) : Prop :=
  ∃ before j after, items = before ++ j :: after ∧ (∀ i ∈ before, Proper i) ∧ Fault j e

section Entries

lemma entry_foreign {key : String} {payload : Json} (foreign : PatchTag.ofName? key = none) :
    entry [(key, payload)] = .ok none := by
  simp [entry, foreign]

lemma entry_misfit {tag : PatchTag} {payload : Json} (misfit : patch? tag payload = none) :
    entry [(tag.name, payload)] = .error (.malformed (.form (Wording.misfit tag payload))) := by
  simp [entry, ofName?_eq_some_iff.2 rfl, misfit]

lemma entry_read {tag : PatchTag} {payload : Json} {p : Patch}
    (read : patch? tag payload = some p) :
    entry [(tag.name, payload)] = .ok (some p) := by
  simp [entry, ofName?_eq_some_iff.2 rfl, read]

lemma entry_keys {ms : Members} (many : ms.length ≠ 1) :
    entry ms = .error (.malformed (.keys ms.length)) := by
  match ms, many with
  | [], _ => rfl
  | [_], one => exact absurd rfl one
  | _ :: _ :: _, _ => rfl

lemma entry_proper {ms : Members} (proper : Proper (.object ms)) : ∃ p?, entry ms = .ok p? := by
  obtain many | ⟨key, payload, rfl, foreign⟩ | ⟨tag, payload, rfl⟩ := entry_cases ms
  · exact absurd proper (not_proper_of_keys many)
  · exact ⟨none, entry_foreign foreign⟩
  · obtain ⟨p, read⟩ :=
      Option.isSome_iff_exists.1 (((reads_patch tag).fits payload).2 (proper_tagged.1 proper))
    exact ⟨some p, entry_read read⟩

lemma entry_fault {ms : Members} {e : PatchError} (fault : Fault (.object ms) e) :
    entry ms = .error e := by
  cases fault with
  | keys many => exact entry_keys many
  | payload misfit => exact entry_misfit (by simpa using mt ((reads_patch _).fits _).1 misfit)

/-- Every entry is proper or has a fault. -/
lemma proper_or_fault (ms : Members) : Proper (.object ms) ∨ ∃ e, Fault (.object ms) e := by
  obtain many | ⟨key, payload, rfl, foreign⟩ | ⟨tag, payload, rfl⟩ := entry_cases ms
  · exact .inr ⟨_, .keys many⟩
  · exact .inl (proper_foreign foreign)
  · by_cases fits : (formOf tag).Fits payload
    · exact .inl (proper_tagged.2 fits)
    · exact .inr ⟨_, .payload fits⟩

/-- Unless all entries are proper, there is a first fault. -/
lemma all_proper_or_firstFault {items : List Json} (shaped : Shaped items) :
    (∀ i ∈ items, Proper i) ∨ ∃ e, FirstFault items e := by
  induction items with
  | nil => exact .inl (by simp)
  | cons j items ih =>
    obtain ⟨⟨ms, rfl⟩, rest⟩ := List.forall_mem_cons.1 shaped
    obtain proper | ⟨e, fault⟩ := proper_or_fault ms
    · obtain all | ⟨e, before, i, after, rfl, proper', fault⟩ := ih rest
      · exact .inl (List.forall_mem_cons.2 ⟨proper, all⟩)
      · exact .inr ⟨e, _ :: before, i, after, rfl, List.forall_mem_cons.2 ⟨proper, proper'⟩, fault⟩
    · exact .inr ⟨e, [], _, items, rfl, by simp, fault⟩

lemma ofEntries_ok_cons {ms : Members} {p? : Option Patch} (read : entry ms = .ok p?)
    (entries : List Members) :
    ofEntries (ms :: entries) = (ofEntries entries).map (p?.toList ++ ·) := by
  simp only [ofEntries, read]
  cases ofEntries entries <;> rfl

lemma ofEntries_error_cons {ms : Members} {e : PatchError} (fault : entry ms = .error e)
    (entries : List Members) :
    ofEntries (ms :: entries) = .error e := by
  simp only [ofEntries, fault]
  rfl

lemma ofEntries_proper {entries : List Members} (proper : ∀ ms ∈ entries, Proper (.object ms)) :
    ∃ ps, ofEntries entries = .ok ps ∧
      List.Forall₂ (fun t p => p.tag = t.1 ∧ patch? t.1 t.2 = some p)
      ((entries.map Json.object).filterMap tagged?) ps := by
  induction entries with
  | nil => exact ⟨[], rfl, .nil⟩
  | cons ms entries ih =>
    obtain ⟨head, tail⟩ := List.forall_mem_cons.1 proper
    obtain ⟨ps, read, right⟩ := ih tail
    obtain many | ⟨key, payload, rfl, foreign⟩ | ⟨tag, payload, rfl⟩ := entry_cases ms
    · exact absurd head (not_proper_of_keys many)
    · refine ⟨ps, by simp [ofEntries_ok_cons (entry_foreign foreign), read, Except.map], ?_⟩
      simpa [tagged?, foreign] using right
    · obtain ⟨p, taken⟩ :=
        Option.isSome_iff_exists.1 (((reads_patch tag).fits payload).2 (proper_tagged.1 head))
      refine ⟨p :: ps, by simp [ofEntries_ok_cons (entry_read taken), read, Except.map], ?_⟩
      simpa [tagged?, ofName?_eq_some_iff.2 rfl, taken, tag_of_patch? taken] using right

lemma ofEntries_append_proper {before : List Members} (proper : ∀ ms ∈ before, Proper (.object ms))
    {after : List Members} {e : PatchError} (fault : ofEntries after = .error e) :
    ofEntries (before ++ after) = .error e := by
  induction before with
  | nil => exact fault
  | cons ms before ih =>
    obtain ⟨head, tail⟩ := List.forall_mem_cons.1 proper
    obtain ⟨p?, read⟩ := entry_proper head
    rw [List.cons_append, ofEntries_ok_cons read, ih tail]
    rfl

lemma ofEntries_append (a b : List Members) : ofEntries (a ++ b) = do
    let ps ← ofEntries a
    let qs ← ofEntries b
    return ps ++ qs := by
  induction a with
  | nil =>
    rw [List.nil_append]
    cases ofEntries b <;> rfl
  | cons ms a ih =>
    cases read : entry ms with
    | error e => rw [List.cons_append, ofEntries_error_cons read, ofEntries_error_cons read]; rfl
    | ok p? =>
      rw [List.cons_append, ofEntries_ok_cons read, ofEntries_ok_cons read, ih]
      cases ofEntries a with
      | error e => rfl
      | ok ps => cases ofEntries b <;> simp [Except.map, bind, Except.bind, pure, Except.pure]

/-- Entries whose key is no tag count for nothing. -/
lemma ofEntries_native (entries : List Members) :
    ofEntries (entries.filter fun ms => !isForeign (.object ms)) = ofEntries entries := by
  induction entries with
  | nil => rfl
  | cons ms entries ih =>
    cases foreign : isForeign (.object ms) with
    | true =>
      obtain ⟨key, payload, rfl, unknown⟩ : ∃ key payload, ms = [(key, payload)] ∧
          PatchTag.ofName? key = none := by
        unfold isForeign at foreign
        split at foreign
        · next eq => exact ⟨_, _, Json.object.inj eq, by simpa using foreign⟩
        · contradiction
      rw [ofEntries_ok_cons (entry_foreign unknown),
        List.filter_cons_of_neg (by simp [foreign]), ih]
      cases ofEntries entries <;> rfl
    | false =>
      rw [List.filter_cons_of_pos (by simp [foreign])]
      cases read : entry ms with
      | ok p? => rw [ofEntries_ok_cons read, ofEntries_ok_cons read, ih]
      | error e => rw [ofEntries_error_cons read, ofEntries_error_cons read]

end Entries

section Texts

variable {bytes : ByteArray} {items : List Json} {e : PatchError}

namespace Spells

lemma decode_entries {entries : List Members} (spells : Spells bytes (entries.map .object)) :
    decode bytes = ofEntries entries := by
  unfold decode
  rw [if_neg spells.1, spells.2, Option.bind_some, entries?, mapM_members]

/-- An item that is no entry fails the batch, whatever stands before it. -/
lemma decode_shapeless (spells : Spells bytes items) (other : ∃ i ∈ items, ∀ ms, i ≠ .object ms) :
    decode bytes = .error (.malformed (.form (Wording.shape bytes))) := by
  unfold decode
  rw [if_neg spells.1, spells.2, Option.bind_some, entries?, mapM_members_none other]

lemma decode_proper (spells : Spells bytes items) (proper : ∀ i ∈ items, Proper i) :
    ∃ ps, decode bytes = .ok ps ∧
      List.Forall₂ (fun t p => p.tag = t.1 ∧ patch? t.1 t.2 = some p)
      (items.filterMap tagged?) ps := by
  obtain ⟨entries, rfl⟩ := exists_entries (shaped_of_proper proper)
  rw [spells.decode_entries]
  exact ofEntries_proper fun ms mem => proper _ (List.mem_map_of_mem mem)

lemma decode_fault (spells : Spells bytes items) (shaped : Shaped items)
    (fault : FirstFault items e) :
    decode bytes = .error e := by
  obtain ⟨before, j, after, rfl, proper, fault⟩ := fault
  obtain ⟨before, rfl⟩ := exists_entries fun i mem => shaped i (List.mem_append_left _ mem)
  obtain ⟨_ | ⟨ms, after⟩, eq⟩ := exists_entries fun i mem => shaped i (List.mem_append_right _ mem)
  · contradiction
  · obtain ⟨rfl, rfl⟩ := List.cons.inj eq
    rw [← List.map_cons, ← List.map_append] at spells
    rw [spells.decode_entries]
    exact ofEntries_append_proper (fun ms mem => proper _ (List.mem_map_of_mem mem))
      (ofEntries_error_cons (entry_fault fault) after)

/-- An array is accepted if and only if all its items are proper. -/
lemma accepted_iff (spells : Spells bytes items) :
    (∃ ps, decode bytes = .ok ps) ↔ ∀ i ∈ items, Proper i := by
  constructor
  · rintro ⟨ps, read⟩
    by_cases shaped : Shaped items
    · refine (all_proper_or_firstFault shaped).resolve_right ?_
      rintro ⟨e, fault⟩
      cases read.symm.trans (spells.decode_fault shaped fault)
    · cases read.symm.trans (spells.decode_shapeless (not_shaped_iff.1 shaped))
  · intro proper
    obtain ⟨ps, read, _⟩ := spells.decode_proper proper
    exact ⟨ps, read⟩

end Spells

/-- Two lists of entries that differ in foreign entries only are read alike. -/
lemma decode_natives {bytes' : ByteArray} {items' : List Json} (spells : Spells bytes items)
    (spells' : Spells bytes' items')
    (same : natives items = natives items') (shaped : Shaped items) :
    decode bytes = decode bytes' := by
  have shaped' : Shaped items' := shaped_natives.1 (same ▸ shaped_natives.2 shaped)
  obtain ⟨entries, rfl⟩ := exists_entries shaped
  obtain ⟨entries', rfl⟩ := exists_entries shaped'
  have eq : entries.filter (fun ms => !isForeign (.object ms)) = entries'.filter fun ms =>
      !isForeign (.object ms) := by
    unfold natives at same
    rw [List.filter_map, List.filter_map] at same
    exact List.map_injective_iff.2 (fun _ _ => Json.object.inj) same
  rw [spells.decode_entries, spells'.decode_entries, ← ofEntries_native, eq, ofEntries_native]

/-- The parts of a batch make up the whole. -/
lemma decode_append {a b ab : ByteArray} {xs ys : List Json} {ps qs : List Patch}
    (first : Spells a xs) (second : Spells b ys)
    (whole : Spells ab (xs ++ ys)) (left : decode a = .ok ps) (right : decode b = .ok qs) :
    decode ab = .ok (ps ++ qs) := by
  obtain ⟨xs, rfl⟩ := exists_entries (shaped_of_proper (first.accepted_iff.1 ⟨ps, left⟩))
  obtain ⟨ys, rfl⟩ := exists_entries (shaped_of_proper (second.accepted_iff.1 ⟨qs, right⟩))
  rw [← List.map_append] at whole
  rw [first.decode_entries] at left
  rw [second.decode_entries] at right
  rw [whole.decode_entries, ofEntries_append, left, right]
  rfl

lemma decode_blank (blank : isBlank bytes) : decode bytes = .ok [] := if_pos blank

lemma decode_null (solid : ¬isBlank bytes) (null : Json.readBytes? bytes = some .null) :
    decode bytes = .ok [] := by
  unfold decode
  rw [if_neg solid, null]
  rfl

/-- The texts that a batch can be read from. -/
lemma decode_ok {ps : List Patch} (read : decode bytes = .ok ps) :
    (isBlank bytes ∨ Json.readBytes? bytes = some .null) ∧ ps = [] ∨
      ∃ items, Spells bytes items ∧ ∀ i ∈ items, Proper i := by
  by_cases blank : isBlank bytes
  · rw [decode_blank blank] at read
    exact .inl ⟨.inl blank, (Except.ok.inj read).symm⟩
  cases text : Json.readBytes? bytes with
  | none => simp [decode, blank, text] at read
  | some j =>
    cases j with
    | null =>
      rw [decode_null blank text] at read
      exact .inl ⟨.inr rfl, (Except.ok.inj read).symm⟩
    | array items =>
      have spells : Spells bytes items := ⟨blank, text⟩
      exact .inr ⟨items, spells, spells.accepted_iff.1 ⟨ps, read⟩⟩
    | _ => simp [decode, blank, text, entries?] at read

lemma exists_decode_iff :
    (∃ ps, decode bytes = .ok ps) ↔ isBlank bytes ∨ Json.readBytes? bytes = some .null ∨
    ∃ items, Json.readBytes? bytes = some (.array items) ∧ ∀ i ∈ items, Proper i := by
  constructor
  · rintro ⟨ps, read⟩
    obtain ⟨blank | null, -⟩ | ⟨items, spells, proper⟩ := decode_ok read
    · exact .inl blank
    · exact .inr (.inl null)
    · exact .inr (.inr ⟨items, spells.2, proper⟩)
  · intro fits
    by_cases blank : isBlank bytes
    · exact ⟨[], decode_blank blank⟩
    · obtain text | null | ⟨items, text, proper⟩ := fits
      · contradiction
      · exact ⟨[], decode_null blank null⟩
      · exact Spells.accepted_iff ⟨blank, text⟩ |>.2 proper

end Texts

/-- The batches that are read, and what is read from them: the patches of the tagged entries, in
order. A payload is read by its tag's form alone, and fields that are absent or null change nothing.
Two batches in one array give the patches of both, or the first fault of an entry; but an item that
is no object goes before every other fault. Entries with unknown keys can come and go: where every
item is an object nothing changes, and where one is not, the reader says so of the buffer that it is
given. -/
theorem batches_compose :
    (∀ bytes, (∃ ps, decode bytes = .ok ps) ↔ isBlank bytes ∨ Json.readBytes? bytes = some .null ∨
      ∃ items, Json.readBytes? bytes = some (.array items) ∧ ∀ i ∈ items, Proper i) ∧
    (∀ bytes ps, decode bytes = .ok ps →
      (isBlank bytes ∨ Json.readBytes? bytes = some .null) ∧ ps = [] ∨
      ∃ items, Spells bytes items ∧
        List.Forall₂ (fun t p => p.tag = t.1 ∧ patch? t.1 t.2 = some p)
        (items.filterMap tagged?) ps) ∧
    (∀ tag payload payload', (formOf tag).Same payload payload' →
      patch? tag payload = patch? tag payload') ∧
    (∀ w ms id, required "id" word? ms = some id → (∀ f ∈ changeFields w, f.value? ms = none) →
      patch? (.update w) (.object ms) = some (.update id (unchanged w))) ∧
    (∀ a b ab xs ys, Spells a xs → Spells b ys → Spells ab (xs ++ ys) →
      (∀ ps qs, decode a = .ok ps → decode b = .ok qs → decode ab = .ok (ps ++ qs)) ∧
      (¬((∃ ps, decode a = .ok ps) ∧ ∃ qs, decode b = .ok qs) →
        (Shaped (xs ++ ys) → ∃ e, FirstFault (xs ++ ys) e ∧ decode ab = .error e) ∧
        (¬Shaped (xs ++ ys) → decode ab = .error (.malformed (.form (Wording.shape ab)))))) ∧
    ∀ a b xs ys, Spells a xs → Spells b ys → natives xs = natives ys →
      Shaped xs ∧ Shaped ys ∧ decode a = decode b ∨
      ¬Shaped xs ∧ ¬Shaped ys ∧ decode a = .error (.malformed (.form (Wording.shape a))) ∧
        decode b = .error (.malformed (.form (Wording.shape b))) := by
  refine ⟨fun bytes => exists_decode_iff, ?_, fun tag => (reads_patch tag).same,
    fun w ms id => patch?_silent, ?_, ?_⟩
  · intro bytes ps read
    obtain empty | ⟨items, spells, proper⟩ := decode_ok read
    · exact .inl empty
    · obtain ⟨ps', read', right⟩ := spells.decode_proper proper
      rw [read'] at read
      obtain rfl := Except.ok.inj read
      exact .inr ⟨items, spells, right⟩
  · intro a b ab xs ys first second whole
    refine ⟨fun ps qs => decode_append first second whole, fun bad =>
      ⟨fun shaped => ?_, fun shapeless => ?_⟩⟩
    · obtain proper | ⟨e, fault⟩ := all_proper_or_firstFault shaped
      · rw [List.forall_mem_append] at proper
        exact absurd ⟨first.accepted_iff.2 proper.1, second.accepted_iff.2 proper.2⟩ bad
      · exact ⟨e, fault, whole.decode_fault shaped fault⟩
    · exact whole.decode_shapeless (not_shaped_iff.1 shapeless)
  · intro a b xs ys first second same
    by_cases shaped : Shaped xs
    · have shaped' : Shaped ys := shaped_natives.1 (same ▸ shaped_natives.2 shaped)
      exact .inl ⟨shaped, shaped', decode_natives first second same shaped⟩
    · have shapeless : ¬Shaped ys :=
        fun shaped' => shaped (shaped_natives.1 (same ▸ shaped_natives.2 shaped'))
      exact .inr ⟨shaped, shapeless, first.decode_shapeless (not_shaped_iff.1 shaped),
        second.decode_shapeless (not_shaped_iff.1 shapeless)⟩

end Outcomes

/-- The words of a reader that finds a number at the end of a list of objects, or as the last member
of a payload in place of a yes or no. -/
@[reducible] def plainWords : Wording where
  shape bytes :=
    "invalid type: integer `5`, expected a map at line 1 column " ++ toString (bytes.size - 1)
  misfit _ payload :=
    match payload with
    | .object [_, (_, .int n)] => "invalid type: integer `" ++ toString n ++ "`, expected a boolean"
    | _ => "invalid type: null, expected a boolean"

/-- An entry from the future before one that is known: it is read as if it were not there, and the
payload that does not fit is what it is without it. -/
theorem batch_of_two_makers :
    @decode plainWords
      "[\x7b\"HologramCreate\":\x7b\"id\":1\x7d\x7d,\x7b\"ButtonDelete\":3\x7d]".toUTF8 =
      .ok [.delete .button 3] ∧
    @decode plainWords ("[\x7b\"HologramCreate\":1\x7d," ++
        "\x7b\"TextUpdate\":\x7b\"id\":1,\"editable\":3\x7d\x7d]").toUTF8 =
      .error (.malformed (.form "invalid type: integer `3`, expected a boolean")) := by
  let := plainWords
  constructor
  · have later :
        Spells "[\x7b\"ButtonDelete\":3\x7d]".toUTF8 [.object [("ButtonDelete", .int 3)]] :=
      ⟨by decide +kernel, rfl⟩
    have both :
        Spells "[\x7b\"HologramCreate\":\x7b\"id\":1\x7d\x7d,\x7b\"ButtonDelete\":3\x7d]".toUTF8
          [.object [("HologramCreate", .object [("id", .int 1)])],
            .object [("ButtonDelete", .int 3)]] :=
      ⟨by decide +kernel, rfl⟩
    have read : decode _ = ofEntries [[("ButtonDelete", .int 3)]] := later.decode_entries
    obtain ⟨_, _, same⟩ | ⟨_, shapeless, _⟩ := batches_compose.2.2.2.2.2 _ _ _ _ both later rfl
    · rw [same, read]
      rfl
    · exact absurd (by simp [Shaped]) shapeless
  · have later : Spells "[\x7b\"TextUpdate\":\x7b\"id\":1,\"editable\":3\x7d\x7d]".toUTF8
        [.object [("TextUpdate", .object [("id", .int 1), ("editable", .int 3)])]] :=
      ⟨by decide +kernel, rfl⟩
    have both : Spells
        ("[\x7b\"HologramCreate\":1\x7d," ++
          "\x7b\"TextUpdate\":\x7b\"id\":1,\"editable\":3\x7d\x7d]").toUTF8
        [.object [("HologramCreate", .int 1)],
          .object [("TextUpdate", .object [("id", .int 1), ("editable", .int 3)])]] :=
      ⟨by decide +kernel, rfl⟩
    have read :
        decode _ = ofEntries [[("TextUpdate", .object [("id", .int 1), ("editable", .int 3)])]] :=
      later.decode_entries
    obtain ⟨_, _, same⟩ | ⟨_, shapeless, _⟩ := batches_compose.2.2.2.2.2 _ _ _ _ both later rfl
    · rw [same, read]
      rfl
    · exact absurd (by simp [Shaped]) shapeless

/-- An entry with two keys, and after it an item that is no entry at all. -/
def ragged : List Json := [.object [("A", .int 1), ("B", .int 2)], .int 5]

/-- The entry with two keys comes first, and fails a batch of its own; but with the number after it,
it is the number that fails the batch. An unknown entry before the number changes what the reader
says of it. -/
theorem number_goes_before_keys :
    (Spells "[\x7b\"A\":1,\"B\":2\x7d]".toUTF8 (ragged.take 1) ∧
      Spells "[5]".toUTF8 (ragged.drop 1) ∧
      Spells "[\x7b\"A\":1,\"B\":2\x7d,5]".toUTF8 ragged ∧
      @FirstFault plainWords ragged (.malformed (.keys 2)) ∧
      @decode plainWords "[\x7b\"A\":1,\"B\":2\x7d]".toUTF8 = .error (.malformed (.keys 2)) ∧
      @decode plainWords "[\x7b\"A\":1,\"B\":2\x7d,5]".toUTF8 ≠ .error (.malformed (.keys 2))) ∧
    Spells "[\x7b\"Zzz\":1\x7d,5]".toUTF8 [.object [("Zzz", .int 1)], .int 5] ∧
      natives [.object [("Zzz", .int 1)], .int 5] = natives (ragged.drop 1) ∧
      @decode plainWords "[5]".toUTF8 ≠ @decode plainWords "[\x7b\"Zzz\":1\x7d,5]".toUTF8 := by
  let := plainWords
  have first : Spells "[\x7b\"A\":1,\"B\":2\x7d]".toUTF8 (ragged.take 1) := ⟨by decide +kernel, rfl⟩
  have last : Spells "[5]".toUTF8 (ragged.drop 1) := ⟨by decide +kernel, rfl⟩
  have whole : Spells "[\x7b\"A\":1,\"B\":2\x7d,5]".toUTF8 ragged := ⟨by decide +kernel, rfl⟩
  have inserted : Spells "[\x7b\"Zzz\":1\x7d,5]".toUTF8 [.object [("Zzz", .int 1)], .int 5] :=
    ⟨by decide +kernel, rfl⟩
  have fault : FirstFault ragged (.malformed (.keys 2)) :=
    ⟨[], _, [.int 5], rfl, by simp, .keys (by decide)⟩
  refine ⟨⟨first, last, whole, fault, ?_, ?_⟩, inserted, rfl, ?_⟩
  · have read : decode _ = ofEntries [[("A", .int 1), ("B", .int 2)]] := first.decode_entries
    rw [read]
    rfl
  · rw [whole.decode_shapeless ⟨.int 5, by simp [ragged], by simp⟩]
    simp
  · rw [last.decode_shapeless ⟨.int 5, by simp [ragged], by simp⟩,
      inserted.decode_shapeless ⟨.int 5, by simp, by simp⟩]
    have apart : Wording.shape "[5]".toUTF8 ≠ Wording.shape "[\x7b\"Zzz\":1\x7d,5]".toUTF8 := by
      decide +kernel
    simpa using apart

end LayeredPage.Proofs
