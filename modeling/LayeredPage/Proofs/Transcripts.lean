import LayeredPage.Proofs.Numerals

/-!
# Transcripts

What the reader makes of the text of a value: the value itself, with null for the numbers that are
not finite. Each part of the grammar is read together with what follows it, which is a comma, a
closing bracket or the end.
-/

namespace LayeredPage.Json

/-- A number that is not finite is written as null. -/
def receivedFloat (x : Float) : Json :=
  if (Number.Reading.ofFloat x).isFinite then .float x else .null

mutual

/-- What the text of a value stands for. -/
def received : Json → Json
  | .float x => receivedFloat x
  | .array items => .array (receivedItems items)
  | .object members => .object (receivedMembers members)
  | j => j

def receivedItems : List Json → List Json
  | [] => []
  | j :: rest => j.received :: receivedItems rest

def receivedMembers : List (String × Json) → List (String × Json)
  | [] => []
  | (key, j) :: rest => (key, j.received) :: receivedMembers rest

end

/-- Values that the reader takes: whole numbers of 64 bits, objects without repeated keys, nested no
deeper than allowed. -/
inductive Writable : Nat → Json → Prop
  | null {depth} : Writable depth .null
  | bool {depth b} : Writable depth (.bool b)
  | int {depth} {n : Int} (least : -9223372036854775808 ≤ n) (most : n < UInt64.size) :
    Writable depth (.int n)
  | float {depth x} : Writable depth (.float x)
  | string {depth s} : Writable depth (.string s)
  | array {depth items} (each : ∀ j ∈ items, Writable depth j) : Writable (depth + 1) (.array items)
  | object {depth members} (distinct : (members.map Prod.fst).Nodup)
    (each : ∀ m ∈ members, Writable depth m.2) :
    Writable (depth + 1) (.object members)

end LayeredPage.Json

namespace LayeredPage.Proofs

open Json

section Tokens

variable {c : Char} {cs rest : List Char}

/-- What may follow a value. -/
def Closes (rest : List Char) : Prop := ∀ c ∈ rest.head?, c = ',' ∨ c = ']' ∨ c = '\x7d'

lemma Closes.stops (closes : Closes rest) : Stops rest := by
  intro c first
  rcases closes c first with rfl | rfl | rfl <;> simp

lemma skipBlanks_cons (visible : isBlank c = false) : skipBlanks (c :: cs) = c :: cs := by
  rw [skipBlanks, List.dropWhile_cons_of_neg (by simp [visible])]

/-- A control character is written with four digits, which are read as its number. -/
lemma unit?_hexDigit {n : Nat} (control : n < 32) :
    unit? '0' '0' (hexDigit (n / 16)) (hexDigit (n % 16)) = some n := by
  revert n
  decide

/-- A character is read from its escape, whatever follows. -/
lemma string?_stringChar (c : Char) (cs : List Char) :
    Json.string? (stringChar c ++ cs) = (Json.string? cs).map fun (s, rest) => (c :: s, rest) := by
  unfold stringChar
  split_ifs with quote slash back feed line ret tab control
  · obtain rfl := eq_of_beq quote
    simp [Json.string?, escape?]
  · obtain rfl := eq_of_beq slash
    simp [Json.string?, escape?]
  · obtain rfl := eq_of_beq back
    simp [Json.string?, escape?]
  · obtain rfl := eq_of_beq feed
    simp [Json.string?, escape?]
  · obtain rfl := eq_of_beq line
    simp [Json.string?, escape?]
  · obtain rfl := eq_of_beq ret
    simp [Json.string?, escape?]
  · obtain rfl := eq_of_beq tab
    simp [Json.string?, escape?]
  · have low : isLowHalf c.toNat = false := by simp [isLowHalf]; omega
    have high : isHighHalf c.toNat = false := by simp [isHighHalf]; omega
    simp [Json.string?, unit?_hexDigit control, low, high]
  · rw [List.singleton_append, Json.string?.eq_def]
    split <;> simp_all

lemma string?_flatMap (s cs : List Char) :
    Json.string? (s.flatMap stringChar ++ '\x22' :: cs) = some (s, cs) := by
  induction s with
  | nil => rfl
  | cons c s ih =>
    rw [List.flatMap_cons, List.append_assoc, string?_stringChar, ih]
    rfl

lemma string?_stringText (s : String) (rest : List Char) :
    ∃ text, stringText s ++ rest = '\x22' :: text ∧ Json.string? text = some (s.toList, rest) :=
  ⟨s.toList.flatMap stringChar ++ '\x22' :: rest, by simp [stringText],
    string?_flatMap s.toList rest⟩

lemma digit_visible (digit : c.isDigit) : isBlank c = false ∧ c ≠ ']' ∧ c ≠ '\x7d' := by
  refine ⟨?_, ?_, ?_⟩
  · rw [Bool.eq_false_iff]
    intro blank
    simp only [isBlank, Bool.or_eq_true, beq_iff_eq] at blank
    rcases blank with ((rfl | rfl) | rfl) | rfl <;> simp at digit
  · rintro rfl
    simp at digit
  · rintro rfl
    simp at digit

/-- Numbers are what remains when no other value starts. -/
lemma value?_digit (digit : c.isDigit) (depth : Nat) :
    Json.value? .nearest depth (c :: cs) = number? .nearest false (c :: cs) := by
  rw [Json.value?.eq_def, skipBlanks_cons (digit_visible digit).1]
  split <;> simp_all

lemma numeral_start {n : Number.Numeral} (sound : n.Sound) :
    ∃ c cs, n.chars = c :: cs ∧ c.isDigit := by
  obtain ⟨c, whole, same⟩ := List.exists_cons_of_ne_nil sound.started
  exact ⟨c, _, by rw [Number.Numeral.chars, same, List.cons_append],
    sound.whole c (same ▸ List.mem_cons_self)⟩

/-- A number starts with a digit or a sign. -/
lemma signed_start {n : Number.Numeral} (sound : n.Sound) (negative : Bool) :
    ∃ c cs, Number.Layout.signed negative n.chars = c :: cs ∧ isBlank c = false ∧
      c ≠ ']' ∧ c ≠ '\x7d' := by
  cases negative with
  | true => exact ⟨'-', _, rfl, rfl, by decide, by decide⟩
  | false =>
    obtain ⟨c, cs, same, digit⟩ := numeral_start sound
    exact ⟨c, cs, same, digit_visible digit⟩

lemma value?_minus (depth : Nat) (cs : List Char) :
    Json.value? .nearest depth ('-' :: cs) = number? .nearest true cs := by
  rw [Json.value?.eq_def, skipBlanks_cons rfl]
  rfl

/-- A number is read as its sign and its numeral. -/
lemma value?_signed {n : Number.Numeral} (sound : n.Sound) (negative : Bool) (depth : Nat)
    (rest : List Char) :
    Json.value? .nearest depth (Number.Layout.signed negative n.chars ++ rest) =
      number? .nearest negative (n.chars ++ rest) := by
  cases negative with
  | true => exact value?_minus depth _
  | false =>
    obtain ⟨c, cs, same, digit⟩ := numeral_start sound
    rw [Number.Layout.signed, if_neg (by decide), same]
    exact value?_digit digit depth

/-- Digits alone are a numeral. -/
def wholeNumeral (k : Nat) : Number.Numeral := ⟨Nat.toDigits 10 k, none, none⟩

lemma wholeNumeral_sound (k : Nat) : (wholeNumeral k).Sound := by
  refine ⟨toDigits_run k, Nat.toDigits_ne_nil, ?_, by simp [wholeNumeral]⟩
  rcases Nat.eq_zero_or_pos k with rfl | positive
  · exact .inl rfl
  · exact .inr (head?_toDigits positive)

lemma intText_eq (n : Int) :
    intText n = Number.Layout.signed (decide (n < 0)) (wholeNumeral n.natAbs).chars := by
  simp [intText, Number.Layout.signed, wholeNumeral, Number.Numeral.chars,
    Number.Numeral.fractionChars, Number.Numeral.powerChars]

/-- Whole numbers of 64 bits stay whole. -/
lemma value?_intText {n : Int} (least : -9223372036854775808 ≤ n) (most : n < UInt64.size)
    (closes : Closes rest) (depth : Nat) :
    Json.value? .nearest depth (intText n ++ rest) = some (.int n, rest) := by
  have kept : whole? (decide (n < 0)) n.natAbs = some n := by
    simp only [UInt64.size] at most
    by_cases sign : n < 0
    · rw [decide_eq_true sign, whole?, if_pos rfl, if_pos (by simp; omega)]
      exact congrArg some (by omega)
    · rw [decide_eq_false sign, whole?, if_neg (by decide),
        if_pos (by simp only [UInt64.size]; omega)]
      exact congrArg some (by omega)
  have sound := wholeNumeral_sound n.natAbs
  rw [intText_eq, value?_signed sound, number?_chars sound closes.stops]
  simp only [wholeNumeral, digitsValue_toDigits, kept]
  rfl

lemma messageText_null {x : Float} (infinite : (Number.Reading.ofFloat x).isFinite = false) :
    (Number.messageText x).toList = ['n', 'u', 'l', 'l'] := by
  rcases reading : Number.Reading.ofFloat x with _ | negative | _ | _
  · simp [Number.messageText, Number.Layout.text, reading, Number.messageLayout]
  · cases negative <;> simp [Number.messageText, Number.Layout.text, reading, Number.messageLayout]
  · simp [reading, Number.Reading.isFinite] at infinite
  · simp [reading, Number.Reading.isFinite] at infinite

/-- A number that is not whole is read as the value nearest to its text, if it is finite. -/
lemma value?_messageText (x : Float) (closes : Closes rest) (depth : Nat) :
    Json.value? .nearest depth ((Number.messageText x).toList ++ rest) =
      some (receivedFloat x, rest) := by
  unfold receivedFloat
  split_ifs with finite
  · obtain ⟨negative, n, text, sound, marked, read⟩ := messageText_spec finite
    have point : (n.fraction.isNone && n.power.isNone) = false := by
      rcases marked with marked | marked
      · simp [Option.isNone_eq_false_iff.2 marked]
      · simp [Option.isNone_eq_false_iff.2 marked]
    rw [text, value?_signed sound, number?_chars sound closes.stops, point, read]
    rfl
  · rw [messageText_null (by simpa using finite), Json.value?.eq_def]
    simp [skipBlanks_cons, isBlank]

end Tokens

section Trees

variable {item : List Char → Option (Json × List Char)} {rest : List Char} {depth : Nat}

/-- A value starts with something that neither is blank nor closes a list. -/
lemma chars_start (j : Json) :
    ∃ c cs, j.chars = c :: cs ∧ isBlank c = false ∧ c ≠ ']' ∧ c ≠ '\x7d' := by
  cases j with
  | null => exact ⟨'n', _, rfl, rfl, by decide, by decide⟩
  | bool b => cases b <;> exact ⟨_, _, rfl, rfl, by decide, by decide⟩
  | int n =>
    rw [Json.chars, intText_eq]
    exact signed_start (wholeNumeral_sound n.natAbs) _
  | float x =>
    rw [Json.chars]
    by_cases finite : (Number.Reading.ofFloat x).isFinite = true
    · obtain ⟨negative, n, text, sound, -⟩ := messageText_spec finite
      rw [text]
      exact signed_start sound negative
    · rw [messageText_null (by simpa using finite)]
      exact ⟨'n', _, rfl, rfl, by decide, by decide⟩
  | string s => exact ⟨'\x22', _, rfl, rfl, by decide, by decide⟩
  | array items => exact ⟨'[', _, rfl, rfl, by decide, by decide⟩
  | object members => exact ⟨'\x7b', _, rfl, rfl, by decide, by decide⟩

lemma closes_cons {c : Char} (closing : c = ',' ∨ c = ']' ∨ c = '\x7d') (rest : List Char) :
    Closes (c :: rest) := by
  rintro _ ⟨⟩
  exact closing

/-- What an item reader does with a value in front of a comma or a closing bracket. -/
def Recovers (item : List Char → Option (Json × List Char)) (j : Json) : Prop :=
  ∀ rest, Closes rest → item (j.chars ++ rest) = some (j.received, rest)

/-- Items are read one by one, up to the closing bracket. -/
lemma items?_itemChars {items : List Json} (started : items ≠ [])
    (each : ∀ j ∈ items, Recovers item j) (fuel : Nat)
    (enough : items.length ≤ fuel) (rest : List Char) :
    items? item fuel (itemChars items ++ ']' :: rest) = some (receivedItems items, rest) := by
  induction items generalizing fuel with
  | nil => exact absurd rfl started
  | cons j items ih =>
    obtain ⟨fuel, rfl⟩ : ∃ k, fuel = k + 1 := ⟨fuel - 1, by simp at enough; omega⟩
    obtain ⟨first, others⟩ := List.forall_mem_cons.1 each
    cases items with
    | nil =>
      rw [itemChars, items?, first _ (closes_cons (by simp) _)]
      simp [skipBlanks_cons, isBlank, receivedItems]
    | cons k items =>
      rw [itemChars, List.append_assoc, List.cons_append, items?, first _ (closes_cons (by simp) _)]
      simp only [skipBlanks_cons (show isBlank ',' = false from rfl)]
      rw [ih (by simp) others fuel (by simpa using enough)]
      rfl
      simp

/-- Members are read one by one, up to the closing brace. -/
lemma members?_memberChars {members : List (String × Json)} (started : members ≠ [])
    (each : ∀ m ∈ members, Recovers item m.2)
    (fuel : Nat) (enough : members.length ≤ fuel) (rest : List Char) :
    members? item fuel (memberChars members ++ '\x7d' :: rest) =
      some (receivedMembers members, rest) := by
  induction members generalizing fuel with
  | nil => exact absurd rfl started
  | cons m members ih =>
    obtain ⟨key, j⟩ := m
    obtain ⟨fuel, rfl⟩ : ∃ k, fuel = k + 1 := ⟨fuel - 1, by simp at enough; omega⟩
    obtain ⟨first, others⟩ := List.forall_mem_cons.1 each
    have first : Recovers item j := first
    cases members with
    | nil =>
      obtain ⟨text, same, read⟩ := string?_stringText key (':' :: (j.chars ++ '\x7d' :: rest))
      rw [memberChars, List.append_assoc, List.cons_append, same, members?, skipBlanks_cons rfl]
      simp only [read, skipBlanks_cons (show isBlank ':' = false from rfl),
        first _ (closes_cons (.inr (.inr rfl)) _),
        skipBlanks_cons (show isBlank '\x7d' = false from rfl), String.ofList_toList]
      rfl
    | cons k members =>
      obtain ⟨text, same, read⟩ :=
        string?_stringText key
          (':' :: (j.chars ++ ',' :: (memberChars (k :: members) ++ '\x7d' :: rest)))
      rw [memberChars, List.append_assoc, List.cons_append, List.append_assoc,
        List.cons_append, same, members?,
        skipBlanks_cons rfl]
      simp only [read, skipBlanks_cons (show isBlank ':' = false from rfl),
        first _ (closes_cons (.inl rfl) _),
        skipBlanks_cons (show isBlank ',' = false from rfl), String.ofList_toList,
        ih (by simp) others fuel (by simpa using enough)]
      rfl
      simp

lemma length_itemChars (items : List Json) : items.length ≤ (itemChars items).length := by
  induction items with
  | nil => simp
  | cons j items ih =>
    obtain ⟨c, cs, start, -⟩ := chars_start j
    cases items with
    | nil => simp [itemChars, start]
    | cons k items =>
      rw [itemChars, start]
      · simp at ih ⊢
        omega
      · simp

lemma length_memberChars (members : List (String × Json)) :
    members.length ≤ (memberChars members).length := by
  induction members with
  | nil => simp
  | cons m members ih =>
    obtain ⟨key, j⟩ := m
    cases members with
    | nil =>
      simp [memberChars]
      omega
    | cons k members =>
      rw [memberChars]
      · simp at ih ⊢
        omega
      · simp

/-- A new key goes to the end. -/
lemma setMember_of_fresh {key : String} {j : Json} {members : List (String × Json)}
    (fresh : key ∉ members.map Prod.fst) :
    setMember key j members = members ++ [(key, j)] := by
  induction members with
  | nil => rfl
  | cons m members ih =>
    obtain ⟨other, later⟩ := not_or.1 (List.mem_cons.not.1 fresh)
    rw [setMember, if_neg (by simpa using Ne.symm other), ih later]
    rfl

/-- Of members without repeated keys all count. -/
lemma lastMembers_of_nodup {members : List (String × Json)}
    (distinct : (members.map Prod.fst).Nodup) :
    lastMembers members = members := by
  have appended (earlier members : List (String × Json))
    (distinct : ((earlier ++ members).map Prod.fst).Nodup) :
      members.foldl (fun ms m => setMember m.1 m.2 ms) earlier = earlier ++ members := by
    induction members generalizing earlier with
    | nil => simp
    | cons m members ih =>
      have fresh : m.1 ∉ earlier.map Prod.fst := by
        rw [List.map_append, List.nodup_append] at distinct
        intro found
        exact distinct.2.2 _ found _ (by simp) rfl
      rw [List.foldl_cons, setMember_of_fresh fresh, ih _ (by simpa using distinct)]
      simp
  exact appended [] members (by simpa using distinct)

lemma receivedMembers_keys (members : List (String × Json)) :
    (receivedMembers members).map Prod.fst = members.map Prod.fst := by
  induction members with
  | nil => rfl
  | cons m members ih => rw [receivedMembers, List.map_cons, ih]; rfl

lemma value?_bracket {c : Char} {cs : List Char} (visible : isBlank c = false) (other : c ≠ ']') :
    Json.value? .nearest (depth + 1) ('[' :: c :: cs) =
      (items? (Json.value? .nearest depth) (c :: cs).length (c :: cs)).map fun (js, rest) =>
        (.array js, rest) := by
  rw [Json.value?.eq_def, skipBlanks_cons rfl]
  simp only [skipBlanks_cons visible]
  split
  · rename_i same
    exact absurd (List.cons.inj same).1 other
  · rfl

lemma value?_brace {c : Char} {cs : List Char} (visible : isBlank c = false) (other : c ≠ '\x7d') :
    Json.value? .nearest (depth + 1) ('\x7b' :: c :: cs) =
      (members? (Json.value? .nearest depth) (c :: cs).length (c :: cs)).map
        fun (ms, rest) => (.object (lastMembers ms), rest) := by
  rw [Json.value?.eq_def, skipBlanks_cons rfl]
  simp only [skipBlanks_cons visible]
  split
  · rename_i same
    exact absurd (List.cons.inj same).1 other
  · rfl

lemma itemChars_start (j : Json) (items : List Json) :
    ∃ c cs, itemChars (j :: items) = c :: cs ∧ isBlank c = false ∧ c ≠ ']' := by
  obtain ⟨c, cs, start, visible, other, -⟩ := chars_start j
  cases items with
  | nil => exact ⟨c, cs, by rw [itemChars, start], visible, other⟩
  | cons k items => exact ⟨c, _, by rw [itemChars, start, List.cons_append]; simp, visible, other⟩

lemma memberChars_start (m : String × Json) (members : List (String × Json)) :
    ∃ cs, memberChars (m :: members) = '\x22' :: cs := by
  cases members with
  | nil => exact ⟨_, rfl⟩
  | cons k members =>
    exact ⟨_, by rw [memberChars, stringText, List.cons_append, List.cons_append]; simp⟩

lemma value?_array {items : List Json}
    (each : ∀ j ∈ items, Recovers (Json.value? .nearest depth) j) :
    Recovers (Json.value? .nearest (depth + 1)) (.array items) := by
  intro rest closes
  rw [Json.chars, List.cons_append, List.cons_append, List.append_assoc, List.singleton_append]
  cases items with
  | nil =>
    rw [Json.value?.eq_def]
    simp [itemChars, skipBlanks_cons, isBlank, received, receivedItems]
  | cons j items =>
    have long := length_itemChars (j :: items)
    have read :=
      items?_itemChars (List.cons_ne_nil j items) each
        (itemChars (j :: items) ++ ']' :: rest).length
      (by rw [List.length_append]; omega) rest
    obtain ⟨c, cs, start, visible, bracket⟩ := itemChars_start j items
    rw [start, List.cons_append] at read ⊢
    rw [value?_bracket visible bracket, read]
    rfl

lemma value?_object {members : List (String × Json)} (distinct : (members.map Prod.fst).Nodup)
    (each : ∀ m ∈ members, Recovers (Json.value? .nearest depth) m.2) :
    Recovers (Json.value? .nearest (depth + 1)) (.object members) := by
  intro rest closes
  rw [Json.chars, List.cons_append, List.cons_append, List.append_assoc, List.singleton_append]
  cases members with
  | nil =>
    rw [Json.value?.eq_def]
    simp [memberChars, skipBlanks_cons, isBlank, received, receivedMembers]
  | cons m members =>
    have long := length_memberChars (m :: members)
    have read :=
      members?_memberChars (List.cons_ne_nil m members) each
        (memberChars (m :: members) ++ '\x7d' :: rest).length
      (by rw [List.length_append]; omega) rest
    obtain ⟨cs, start⟩ := memberChars_start m members
    rw [start, List.cons_append] at read ⊢
    rw [value?_brace rfl (by decide), read, Option.map_some]
    simp only [received]
    rw [lastMembers_of_nodup (by rwa [receivedMembers_keys])]

/-- A value is read back from its text, whatever follows. -/
theorem value?_chars {j : Json} (writable : Writable depth j) :
    Recovers (Json.value? .nearest depth) j := by
  induction writable with
  | null =>
    intro rest closes
    rw [Json.value?.eq_def]
    simp [Json.chars, skipBlanks_cons, isBlank, received]
  | @bool depth b =>
    intro rest closes
    rw [Json.value?.eq_def]
    cases b <;> simp [Json.chars, skipBlanks_cons, isBlank, received]
  | int least most => exact fun rest closes => value?_intText least most closes _
  | float => exact fun rest closes => value?_messageText _ closes _
  | @string depth s =>
    intro rest closes
    obtain ⟨text, same, read⟩ := string?_stringText s rest
    rw [Json.chars, same, Json.value?.eq_def]
    simp [skipBlanks_cons, isBlank, received, read]
  | array each ih => exact value?_array ih
  | object distinct each ih => exact value?_object distinct ih

/-- The whole text of a value is read as the value. -/
theorem readNearest?_text {j : Json} (writable : Writable 127 j) :
    readNearest? j.text = some j.received := by
  have read := value?_chars writable [] (by simp [Closes])
  rw [List.append_nil] at read
  rw [readNearest?, readWith?, Json.text, String.toList_ofList, read]
  rfl

end Trees

end LayeredPage.Proofs
