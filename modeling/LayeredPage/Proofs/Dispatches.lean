import LayeredPage.Proofs.Transcripts
import LayeredPage.Wire.InterruptReader

/-!
# Interrupts are read back

The text of an interrupt is read as an object with its name as the only key, and what the schema
makes of that object is the interrupt itself if all its numbers are finite. So the core can tell any
two of them apart.
-/

namespace LayeredPage.Interrupt

/-- Coordinates, movements, sizes and control values, in order. -/
def numbers {α : Type} : Interrupt α → List α
  | .sliderChange _ value => [value]
  | .mouse _ p _ _ | .clap p | .dropFile p _ _ _ | .scroll p => [p.x, p.y]
  | .wheel p d _ => [p.x, p.y, d.x, d.y]
  | .touches _ reports =>
    reports.flatMap fun t => [t.position.x, t.position.y, t.delta.x, t.delta.y]
  | .sizes reports => reports.flatMap fun r => [r.width, r.height]
  | _ => []

def touchIdentifiers {α : Type} : Interrupt α → List Int
  | .touches _ reports => reports.map (·.identifier)
  | _ => []

/-- Touch identifiers are signed words of 64 bits. -/
def Worded {α : Type} (i : Interrupt α) : Prop :=
  ∀ n ∈ i.touchIdentifiers, -9223372036854775808 ≤ n ∧ n < 9223372036854775808

def AllFinite (i : Interrupt Float) : Prop :=
  ∀ x ∈ i.numbers, (Number.Reading.ofFloat x).isFinite = true

end LayeredPage.Interrupt

namespace LayeredPage.Proofs

open Json Interrupt

/-! ## What is written -/

section Writing

variable {depth : Nat} {i : Interrupt Float}

attribute [simp] Writable.bool Writable.float Writable.string

@[simp]
lemma writable_longWord (n : UInt64) : Writable depth (.int n.toNat) :=
  .int (by omega) (Int.ofNat_lt.2 n.toNat_lt_size)

@[simp]
lemma writable_wordJson (n : UInt32) : Writable depth (wordJson n) := writable_longWord n.toUInt64

/-- A record is an object with different keys. -/
lemma writable_record {members : List (String × Json)} (distinct : (members.map Prod.fst).Nodup)
    (each : ∀ j ∈ members.map Prod.snd, Writable depth j) :
    Writable (depth + 1) (.object members) :=
  .object distinct fun m member => each m.2 (List.mem_map_of_mem member)

lemma writable_list {α : Type} {write : α → Json} {entries : List α}
    (each : ∀ a ∈ entries, Writable depth (write a)) :
    Writable (depth + 1) (.array (entries.map write)) :=
  .array (List.forall_mem_map.2 each)

@[simp]
lemma writable_modifiersJson (modifiers : List ModifierKey) :
    Writable (depth + 1) (modifiersJson modifiers) :=
  writable_list fun _ _ => .string

lemma writable_touchJson {t : TouchReport Float} (least : -9223372036854775808 ≤ t.identifier)
    (most : t.identifier < 9223372036854775808) : Writable (depth + 1) (touchJson t) := by
  have identifier : Writable depth (.int t.identifier) :=
    .int least (by simp only [UInt64.size]; omega)
  exact writable_record (by simp) (by simp [identifier])

lemma writable_sizeJson (r : SizeReport Float) : Writable (depth + 1) (sizeJson r) :=
  writable_record (by simp) (by simp)

/-- The payload of an interrupt nests three deep at most. -/
lemma writable_parts (worded : i.Worded) : Writable (depth + 3) i.parts.2 := by
  cases i with
  | touches event reports =>
    have touches : Writable (depth + 2) (.array (reports.map touchJson)) :=
      writable_list fun t report => by
      obtain ⟨least, most⟩ := worded t.identifier (List.mem_map_of_mem report)
      exact writable_touchJson least most
    exact writable_record (by simp) (by simpa using touches)
  | sizes reports => exact writable_list fun r _ => writable_sizeJson r
  | image id path width height =>
    have data :
        Writable (depth + 2)
          (.object [("id", wordJson id), ("path", .string path), ("width", wordJson width),
            ("height", wordJson height)]) := writable_record (by simp) (by simp)
    exact writable_record (by simp) (by simpa using data)
  | _ => exact writable_record (by simp) (by simp)

lemma receivedItems_eq {items : List Json} (each : ∀ j ∈ items, j.received = j) :
    receivedItems items = items := by
  induction items with
  | nil => rfl
  | cons j items ih =>
    obtain ⟨first, others⟩ := List.forall_mem_cons.1 each
    rw [receivedItems, first, ih others]

@[simp]
lemma received_modifiersJson (modifiers : List ModifierKey) :
    (modifiersJson modifiers).received = modifiersJson modifiers := by
  refine congrArg Json.array (receivedItems_eq (List.forall_mem_map.2 fun m _ => rfl))

lemma receivedFloat_eq {x : Float} (finite : (Number.Reading.ofFloat x).isFinite = true) :
    receivedFloat x = .float x :=
  if_pos finite

/-- Nothing is lost of a payload whose numbers are finite. -/
lemma received_parts (finite : i.AllFinite) : i.parts.2.received = i.parts.2 := by
  cases i with
  | touches event reports =>
    have each : ∀ t ∈ reports, (touchJson t).received = touchJson t := fun t report => by
      have numbers := List.forall_mem_flatMap.1 finite t report
      simp only [List.forall_mem_cons, List.not_mem_nil, false_imp_iff, implies_true,
        and_true] at numbers
      simp [touchJson, received, receivedMembers, receivedFloat_eq, numbers]
    simp [Interrupt.parts, received, receivedMembers, receivedItems_eq (List.forall_mem_map.2 each)]
  | sizes reports =>
    have each : ∀ r ∈ reports, (sizeJson r).received = sizeJson r := fun r report => by
      have numbers := List.forall_mem_flatMap.1 finite r report
      simp only [List.forall_mem_cons, List.not_mem_nil, false_imp_iff, implies_true,
        and_true] at numbers
      simp [sizeJson, received, receivedMembers, wordJson, receivedFloat_eq, numbers]
    simp [Interrupt.parts, received, receivedItems_eq (List.forall_mem_map.2 each)]
  | _ =>
    simp only [AllFinite, Interrupt.numbers, List.forall_mem_cons, List.not_mem_nil,
      false_imp_iff, implies_true,
      and_true] at finite
    simp [Interrupt.parts, received, receivedMembers, wordJson, receivedFloat_eq, finite]

end Writing

/-! ## What the schema makes of it -/

section Reading

open Schema

lemma fits_of_lt {n size : Nat} (small : n < size) :
    (0 ≤ (n : Int) && decide ((n : Int) < size)) = true := by
  rw [Bool.and_eq_true, decide_eq_true_eq, decide_eq_true_eq]
  exact ⟨Int.natCast_nonneg n, Int.ofNat_lt.2 small⟩

@[simp]
lemma word?_wordJson (n : UInt32) : Schema.word? (wordJson n) = some n := by
  simp only [Schema.word?, wordJson, fits_of_lt n.toNat_lt_size, if_true,
    Int.toNat_natCast, UInt32.ofNat_toNat]

@[simp]
lemma longWord?_int (n : UInt64) : longWord? (.int n.toNat) = some n := by
  simp only [longWord?, fits_of_lt n.toNat_lt_size, if_true, Int.toNat_natCast, UInt64.ofNat_toNat]

/-- A list is read if its entries are. -/
lemma list?_map {α : Type} {read? : Json → Option α} {write : α → Json}
    (each : ∀ a, read? (write a) = some a)
    (entries : List α) : list? read? (.array (entries.map write)) = some entries := by
  induction entries with
  | nil => rfl
  | cons a entries ih =>
    simp only [list?] at ih
    simp [list?, each, ih]

@[simp]
lemma modifiers?_modifiersJson (modifiers : List ModifierKey) :
    modifiers? (modifiersJson modifiers) = some modifiers :=
  list?_map (fun m => by cases m <;> rfl) modifiers

section Members

variable {α : Type} {key other : String} {read? : Json → Option α} {j : Json} {ms : Members}

@[simp]
lemma required_head : required key read? ((key, j) :: ms) = read? j := by
  rw [required, member?, List.find?_cons_of_pos (by simp), Option.map_some, Option.bind_some]

@[simp]
lemma required_tail (different : other ≠ key) :
    required key read? ((other, j) :: ms) = required key read? ms := by
  rw [required, required, member?, member?, List.find?_cons_of_neg (by simpa using different)]

end Members

@[simp]
lemma bool?_bool (b : Bool) : Schema.bool? (.bool b) = some b := rfl

@[simp]
lemma string?_string (s : String) : Schema.string? (.string s) = some s := rfl

@[simp]
lemma number?_float (x : Float) : Schema.number? (.float x) = some x := rfl

@[simp]
lemma int?_int (n : Int) : int? (.int n) = some n := rfl

@[simp]
lemma oneOf?_button (b : MouseButton) :
    oneOf? MouseButton.all MouseButton.name (.string b.name) = some b := by cases b <;> rfl

-- without the option the kernel is left to compare words by running their range checks
@[simp]
lemma touchReport?_touchJson (t : TouchReport Float) : touchReport? (touchJson t) = some t := by
  simp -implicitDefEqProofs [touchReport?, touchJson, Schema.members?, position?, delta?, point?]

@[simp]
lemma sizeReport?_sizeJson (r : SizeReport Float) : sizeReport? (sizeJson r) = some r := by
  simp -implicitDefEqProofs [sizeReport?, sizeJson, Schema.members?]

lemma interrupt?_image (ms : Members) :
    Schema.interrupt? "Image" (.object ms) = imageInterrupt? ms := rfl

lemma interrupt?_mouse (event : MouseEvent) (ms : Members) :
    Schema.interrupt? event.name (.object ms) = mouseInterrupt? event ms := by
  cases event <;> rfl

lemma interrupt?_touches (event : TouchEvent) (ms : Members) :
    Schema.interrupt? event.name (.object ms) =
    (required "touches" (list? touchReport?) ms).bind fun reports =>
      some (.touches event reports) := by
  cases event <;> rfl

lemma interrupt?_key (event : KeyEvent) (ms : Members) :
    Schema.interrupt? event.name (.object ms) = keyInterrupt? event ms := by
  cases event <;> rfl

/-- The names that stand for one kind of interrupt each. -/
def ownNames : List String :=
  ["FormButtonClick", "FormCheckboxToggle", "FormTextboxInput", "FormTextboxChange",
    "FormSliderChange", "FormDropdownChange", "FormRadioSetChange", "TextInput", "Clap", "Wheel",
    "DropFile", "Scroll"]

/-- Names outside the tables of mouse, touch and key events are looked for among widgets and then
among window input. -/
lemma interrupt?_own {name : String} (own : name ∈ ownNames) (ms : Members) :
    Schema.interrupt? name (.object ms) =
      (widgetInterrupt? name ms <|> windowInterrupt? name ms) := by
  simp only [ownNames, List.mem_cons, List.not_mem_nil, or_false] at own
  rcases own with rfl | rfl | rfl | rfl | rfl | rfl | rfl | rfl | rfl | rfl | rfl | rfl <;> rfl

/-- The schema gives an interrupt its name and takes every member from the payload. -/
theorem ofJson?_parts (i : Interrupt Float) : Interrupt.ofJson? (.object [i.parts]) = some i := by
  change Schema.interrupt? i.parts.1 i.parts.2 = some i
  cases i with
  | sizes reports =>
    change ((list? sizeReport? (.array (reports.map sizeJson))).bind fun reports =>
      some (Interrupt.sizes reports)) = _
    rw [list?_map sizeReport?_sizeJson, Option.bind_some]
  | touches event reports =>
    refine (interrupt?_touches event _).trans ?_
    rw [required_head, list?_map touchReport?_touchJson, Option.bind_some]
  | mouse event position button modifiers =>
    refine (interrupt?_mouse event _).trans ?_
    simp -implicitDefEqProofs [mouseInterrupt?, position?, point?]
  | key event name modifiers isRepeat =>
    refine (interrupt?_key event _).trans ?_
    simp -implicitDefEqProofs [keyInterrupt?]
  | image id path width height =>
    refine (interrupt?_image _).trans ?_
    simp -implicitDefEqProofs [imageInterrupt?, Schema.members?, id?]
  | _ =>
    simp only [Interrupt.parts]
    rw [interrupt?_own (by decide)]
    simp -implicitDefEqProofs [widgetInterrupt?, windowInterrupt?, id?, position?, delta?, point?]

end Reading

/-! ## There and back -/

section Transport

variable {i : Interrupt Float}

lemma readNearest?_json (worded : i.Worded) :
    Json.readNearest? i.text = some (.object [(i.parts.1, i.parts.2.received)]) := by
  have writable : Writable 127 i.json :=
    writable_record (List.nodup_singleton _) fun j payload => by
      obtain rfl := List.mem_singleton.1 payload
      exact writable_parts worded
  exact readNearest?_text writable

/-- Nothing is lost of an interrupt whose numbers are finite. -/
lemma ofText?_text (worded : i.Worded) (finite : i.AllFinite) :
    Interrupt.ofText? i.text = some i := by
  rw [Interrupt.ofText?, readNearest?_json worded, Option.bind_some, received_parts finite]
  exact ofJson?_parts i

/-- The text of an interrupt is an object with its name as the only key. A core that knows the
schema reads the interrupt back if all its numbers are finite, so no other such interrupt has the
same text. -/
theorem interrupt_of_text (i : Interrupt Float) (worded : i.Worded) :
    Json.readNearest? i.text = some (.object [(i.parts.1, i.parts.2.received)]) ∧
    (i.AllFinite → Interrupt.ofText? i.text = some i ∧
      ∀ other : Interrupt Float, other.Worded → other.AllFinite →
        other.text = i.text → other = i) := by
  refine ⟨readNearest?_json worded, fun finite => ⟨ofText?_text worded finite, ?_⟩⟩
  intro other other_worded other_finite same
  have read := ofText?_text other_worded other_finite
  rw [same, ofText?_text worded finite] at read
  exact (Option.some.inj read).symm

/-- A touch at a tenth and minus zero that moved by the least and the largest magnitude. -/
def extremeTouch : Interrupt Float :=
  .touches .stop [⟨⟨.ofBits 0x3FB999999999999A, .ofBits 0x8000000000000000⟩, -9223372036854775808,
    ⟨.ofBits 1, .ofBits 0x7FEFFFFFFFFFFFFF⟩⟩]

theorem interrupt_of_extreme_touch : extremeTouch.Worded ∧ extremeTouch.AllFinite ∧
    Json.readNearest? extremeTouch.text =
      some (.object [("TouchEnd", extremeTouch.parts.2.received)]) ∧
    Interrupt.ofText? extremeTouch.text = some extremeTouch := by
  have worded : extremeTouch.Worded := by simp [extremeTouch, Worded, touchIdentifiers]
  have finite : extremeTouch.AllFinite := by
    unfold AllFinite
    decide +kernel
  obtain ⟨object, back⟩ := interrupt_of_text extremeTouch worded
  exact ⟨worded, finite, object, (back finite).1⟩

end Transport

end LayeredPage.Proofs
