import Farsounder.Data.WireEncoding

namespace Farsounder.Data.Wire

/-! What a sequence of fields says, one field number at a time: the last
occurrence of a singular member counts, the elements of a repeated one are
collected, and the occurrences of a submessage are one message. -/

abbrev Decoder := Bytes → Option (List Field)

/-- What a field makes of the value of a message or of one of its members. -/
abbrev Member (σ : Type) := σ → Field → Option σ

namespace Field

variable (number : Nat)

def varint? : Field → Option UInt64
  | varint number' value => if number' = number then some value else none
  | _ => none

def fixed64? : Field → Option UInt64
  | fixed64 number' value => if number' = number then some value else none
  | _ => none

def payload? : Field → Option Bytes
  | lengthDelimited number' payload =>
  if number' = number then some payload else none
  | _ => none

def fixed32? : Field → Option UInt32
  | fixed32 number' value => if number' = number then some value else none
  | _ => none

end Field

/-! Singular members. -/

section Last

variable {α : Type} {select : Field → Option α}

def last (select : Field → Option α) (fields : List Field) : Option α :=
  (fields.filterMap select).getLast?

def Member.last (select : Field → Option α) : Member (Option α) :=
  fun held field => some ((select field).or held)

theorem last_cons (field : Field) (fields : List Field) :
    last select (field :: fields) = (last select fields).or (select field) := by
  cases selected : select field with
  | none => simp [last, List.filterMap_cons_none selected]
  | some value =>
      rw [last, List.filterMap_cons_some selected, List.getLast?_cons, last]
      cases (fields.filterMap select).getLast? <;> rfl

theorem foldlM_last {fields : List Field} {held : Option α} :
    fields.foldlM (Member.last select) held =
      some ((last select fields).or held) := by
  induction fields generalizing held with
  | nil => rfl
  | cons field rest induction =>
      have moved :
          Member.last select held field = some ((select field).or held) := rfl
      rw [List.foldlM_cons, moved, Option.bind_eq_bind, Option.bind_some,
        induction, last_cons, Option.or_assoc]

end Last

/-! Repeated members.  Numbers may be packed into one field. -/

def readMany {α : Type} (reader : Bytes → Option (α × Bytes)) :
    (fuel : Nat) → Bytes → Option (List α)
  | _, [] => some []
  | 0, _ :: _ => none
  | fuel + 1, input => do
      let (value, rest) ← reader input
      (readMany reader fuel rest).map (value :: ·)

def unpackVarints (payload : Bytes) : Option (List UInt64) :=
  (readMany (readVarint 10) payload.length payload).map (·.map UInt64.ofNat)

def unpackFixed64 (payload : Bytes) : Option (List UInt64) :=
  (readMany (readLittleEndian 8) payload.length payload).map
    (·.map UInt64.ofNat)

/-- The elements that a field adds to a repeated member; `none` is a malformed
packed field. -/
def Field.elements {α : Type} (single? : Field → Option α)
    (unpack : Bytes → Option (List α)) (number : Nat) (field : Field) :
    Option (List α) :=
  match field.payload? number with
  | some payload => unpack payload
  | none => some (single? field).toList

section Elements

variable {α : Type} {elements : Field → Option (List α)}

def Member.collected (elements : Field → Option (List α)) : Member (List α) :=
  fun held field => (elements field).map (held ++ ·)

/-- The values are the elements of all the fields. -/
def Collected (elements : Field → Option (List α)) (fields : List Field)
    (values : List α) : Prop :=
  ∃ lists,
    List.Forall₂ (fun field list => elements field = some list) fields lists ∧
    values = lists.flatten

theorem collected_eq_some {field : Field} {held after : List α} :
    Member.collected elements held field = some after ↔
      ∃ list, elements field = some list ∧ held ++ list = after :=
  Option.map_eq_some_iff

theorem foldlM_collected {fields : List Field} {held values : List α} :
    fields.foldlM (Member.collected elements) held = some values ↔
      ∃ collected, Collected elements fields collected ∧
        values = held ++ collected := by
  induction fields generalizing held with
  | nil =>
      simp only [List.foldlM_nil, Option.pure_def, Option.some.injEq]
      constructor
      · rintro rfl
        exact ⟨[], ⟨[], .nil, rfl⟩, (List.append_nil _).symm⟩
      · rintro ⟨_, ⟨_, ⟨⟩, rfl⟩, rfl⟩
        exact (List.append_nil _).symm
  | cons field rest induction =>
      rw [List.foldlM_cons, Option.bind_eq_bind, Option.bind_eq_some_iff]
      simp only [collected_eq_some]
      constructor
      · rintro ⟨_, ⟨list, found, rfl⟩, continued⟩
        obtain ⟨_, ⟨lists, matched, rfl⟩, rfl⟩ := induction.mp continued
        exact ⟨_, ⟨list :: lists, .cons found matched, rfl⟩, by simp⟩
      · rintro ⟨_, ⟨_, matched, rfl⟩, rfl⟩
        cases matched with
        | @cons _ list _ lists found matched =>
            refine ⟨_, ⟨list, found, rfl⟩,
              induction.mpr ⟨_, ⟨lists, matched, rfl⟩, ?_⟩⟩
            simp

theorem foldlM_collected_nil {fields : List Field} {values : List α} :
    fields.foldlM (Member.collected elements) [] = some values ↔
      Collected elements fields values := by
  rw [foldlM_collected]
  simp

end Elements

/-! Messages of several members. -/

section Both

variable {M σ τ : Type}

def Member.both (first : Member σ) (second : Member τ) : Member (σ × τ) :=
  fun (held, held') field =>
    (first held field).bind fun after =>
      (second held' field).map fun after' => (after, after')

theorem foldlM_both {first : Member σ} {second : Member τ} {fields : List Field}
    {held after : σ} {held' after' : τ} :
    fields.foldlM (first.both second) (held, held') = some (after, after') ↔
      fields.foldlM first held = some after ∧
        fields.foldlM second held' = some after' := by
  induction fields generalizing held held' with
  | nil => simp
  | cons field rest induction =>
      simp only [List.foldlM_cons, Member.both, Option.bind_eq_bind,
        Option.bind_eq_some_iff, Option.map_eq_some_iff]
      constructor
      · rintro ⟨_, ⟨middle, moved, middle', moved', rfl⟩, continued⟩
        obtain ⟨first, second⟩ := induction.mp continued
        exact ⟨⟨middle, moved, first⟩, middle', moved', second⟩
      · rintro ⟨⟨middle, moved, first⟩, middle', moved', second⟩
        exact ⟨_, ⟨middle, moved, middle', moved', rfl⟩,
          induction.mpr ⟨first, second⟩⟩

/-- A message that is built from members which each field changes on its own. -/
theorem foldlM_build {merge : Member M} {members : Member σ} {build : σ → M}
    (built : ∀ held field,
      merge (build held) field = (members held field).map build)
    (fields : List Field) (held : σ) :
    fields.foldlM merge (build held) =
      (fields.foldlM members held).map build := by
  induction fields generalizing held with
  | nil => rfl
  | cons field rest induction =>
      rw [List.foldlM_cons, List.foldlM_cons, built]
      cases members held field with
      | none => rfl
      | some after => exact induction after

end Both

/-! Submessages. -/

section Messages

variable {M : Type} {decode : Decoder} {merge : Member M} {empty : M}
  {number : Nat} {Means : List Field → M → Prop}

def payloads (number : Nat) (fields : List Field) : List Bytes :=
  fields.filterMap (Field.payload? number)

/-- An occurrence is merged into what the earlier ones gave. -/
def Member.message (decode : Decoder) (merge : Member M) (empty : M)
    (number : Nat) :
    Member (Option M) :=
  fun held field =>
    match field.payload? number with
    | none => some held
    | some payload =>
        ((decode payload).bind fun fields =>
          fields.foldlM merge (held.getD empty)).map some

def Member.messages (decode : Decoder) (merge : Member M) (empty : M)
    (number : Nat) :
    Member (List M) :=
  fun held field =>
    match field.payload? number with
    | none => some held
    | some payload =>
        ((decode payload).bind fun fields => fields.foldlM merge empty).map
          (held ++ [·])

/-- A singular submessage: what all its occurrences together mean. -/
def Submessage (decode : Decoder) (Means : List Field → M → Prop) (number : Nat)
    (fields : List Field) : Option M → Prop
  | none => payloads number fields = []
  | some message => payloads number fields ≠ [] ∧
      ∃ lists, List.Forall₂ (fun payload fields => decode payload = some fields)
        (payloads number fields) lists ∧ Means lists.flatten message

/-- A repeated submessage: each occurrence is one message. -/
def Submessages (decode : Decoder) (Means : List Field → M → Prop)
    (number : Nat) (fields : List Field) (messages : List M) : Prop :=
  List.Forall₂ (fun payload message => ∃ fields, decode payload = some fields ∧
    Means fields message) (payloads number fields) messages

theorem payloads_cons_none {field : Field}
    (absent : field.payload? number = none) (fields : List Field) :
    payloads number (field :: fields) = payloads number fields :=
  List.filterMap_cons_none absent

theorem payloads_cons_some {field : Field} {payload : Bytes}
    (present : field.payload? number = some payload) (fields : List Field) :
    payloads number (field :: fields) = payload :: payloads number fields :=
  List.filterMap_cons_some present

/-- Merging occurrence by occurrence is merging all their fields. -/
theorem foldlM_message {fields : List Field} {held after : Option M} :
    fields.foldlM (Member.message decode merge empty number) held = some after ↔
      (payloads number fields = [] ∧ after = held) ∨
      (payloads number fields ≠ [] ∧
        ∃ lists,
          List.Forall₂ (fun payload fields => decode payload = some fields)
            (payloads number fields) lists ∧
        ∃ message, lists.flatten.foldlM merge (held.getD empty) = some message ∧
          after = some message) := by
  induction fields generalizing held with
  | nil => simp [payloads, eq_comm]
  | cons field rest induction =>
      rw [List.foldlM_cons]
      cases present : field.payload? number with
      | none =>
          rw [payloads_cons_none present, ← induction]
          simp [Member.message, present]
      | some payload =>
          rw [payloads_cons_some present]
          simp only [Member.message, present, Option.bind_eq_bind,
            Option.bind_eq_some_iff, Option.map_eq_some_iff, reduceCtorEq,
            false_and, false_or, ne_eq, not_false_eq_true, true_and]
          constructor
          · rintro ⟨_, ⟨message, ⟨first, decoded, merged⟩, rfl⟩, continued⟩
            rcases induction.mp continued with
              ⟨ended, rfl⟩ | ⟨_, lists, decodeds, last, mergeds, rfl⟩
            · exact ⟨[first], ended ▸ .cons decoded .nil, message, by
                simp [merged], rfl⟩
            · refine ⟨first :: lists, .cons decoded decodeds, last, ?_, rfl⟩
              rw [List.flatten_cons, List.foldlM_append, merged]
              exact mergeds
          · rintro ⟨_, decodeds, last, merged, rfl⟩
            cases decodeds with
            | @cons _ first _ lists decoded decodeds =>
                rw [List.flatten_cons, List.foldlM_append] at merged
                obtain ⟨message, merged, mergeds⟩ :=
                  Option.bind_eq_some_iff.mp merged
                refine ⟨_, ⟨message, ⟨first, decoded, merged⟩, rfl⟩,
                  induction.mpr ?_⟩
                by_cases ended : payloads number rest = []
                · rw [ended] at decodeds
                  cases decodeds
                  exact .inl ⟨ended, mergeds.symm⟩
                · exact .inr ⟨ended, lists, decodeds, last, mergeds, rfl⟩

theorem foldlM_message_none
    (means : ∀ fields message, fields.foldlM merge empty = some message ↔
      Means fields message) {fields : List Field} {after : Option M} :
    fields.foldlM (Member.message decode merge empty number) none = some after ↔
      Submessage decode Means number fields after := by
  rw [foldlM_message]
  cases after with
  | none => simp [Submessage]
  | some message => simp [Submessage, means]

theorem foldlM_messages
    (means : ∀ fields message, fields.foldlM merge empty = some message ↔
      Means fields message) {fields : List Field} {held after : List M} :
    fields.foldlM (Member.messages decode merge empty number) held =
      some after ↔
      ∃ messages, Submessages decode Means number fields messages ∧
        after = held ++ messages := by
  induction fields generalizing held with
  | nil =>
      simp only [List.foldlM_nil, Option.pure_def, Option.some.injEq]
      constructor
      · rintro rfl
        exact ⟨[], .nil, (List.append_nil _).symm⟩
      · rintro ⟨_, ⟨⟩, rfl⟩
        exact (List.append_nil _).symm
  | cons field rest induction =>
      rw [List.foldlM_cons]
      cases present : field.payload? number with
      | none =>
          simp only [Submessages, payloads_cons_none present] at induction ⊢
          rw [← induction]
          simp [Member.messages, present]
      | some payload =>
          simp only [Submessages, payloads_cons_some present,
            Member.messages, present, Option.bind_eq_bind,
            Option.bind_eq_some_iff, Option.map_eq_some_iff, means]
          constructor
          · rintro ⟨_, ⟨message, decoded, rfl⟩, continued⟩
            obtain ⟨messages, matched, rfl⟩ := induction.mp continued
            exact ⟨message :: messages, .cons decoded matched, by simp⟩
          · rintro ⟨_, matched, rfl⟩
            cases matched with
            | @cons _ message _ messages decoded matched =>
                exact ⟨_, ⟨message, decoded, rfl⟩,
                  induction.mpr ⟨messages, matched, by simp⟩⟩

theorem foldlM_messages_nil
    (means : ∀ fields message, fields.foldlM merge empty = some message ↔
      Means fields message) {fields : List Field} {messages : List M} :
    fields.foldlM (Member.messages decode merge empty number) [] =
      some messages ↔
      Submessages decode Means number fields messages := by
  rw [foldlM_messages means]
  simp

/-- A submessage that is read but not kept. -/
def Member.checked (decode : Decoder) (merge : Member M) (empty : M)
    (number : Nat) :
    Member Unit :=
  fun _ field =>
    match field.payload? number with
    | none => some ()
    | some payload =>
        ((decode payload).bind fun fields => fields.foldlM merge empty).map
          fun _ => ()

theorem foldlM_checked
    (means : ∀ fields message, fields.foldlM merge empty = some message ↔
      Means fields message) {fields : List Field} {held after : Unit} :
    fields.foldlM (Member.checked decode merge empty number) held = some after ↔
      ∃ messages, Submessages decode Means number fields messages := by
  have built (held : List M) (field : Field) :
      Member.checked decode merge empty number ((fun _ => ()) held) field =
        (Member.messages decode merge empty number held field).map fun _ =>
        () := by
    simp only [Member.checked, Member.messages]
    cases field.payload? number with
    | none => rfl
    | some payload => simp [Function.comp_def]
  have forgotten := foldlM_build built fields []
  rw [forgotten, Option.map_eq_some_iff]
  simp only [foldlM_messages_nil means, and_true]

end Messages

end Farsounder.Data.Wire
