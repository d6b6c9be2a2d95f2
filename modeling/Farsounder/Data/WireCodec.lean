import Farsounder.Data.WireMeaning
import Mathlib.Logic.Equiv.Defs

namespace Farsounder.Data.Wire

/-! Codecs: how a value is written as fields, and what it is read from. -/

def fieldsOf (number : Nat) (fields : List Field) : List Field :=
  fields.filter fun field => field.number = number

theorem fieldsOf_cons_same {number : Nat} {field : Field}
    (same : field.number = number) (fields : List Field) :
    fieldsOf number (field :: fields) = field :: fieldsOf number fields :=
  List.filter_cons_of_pos (decide_eq_true same)

theorem fieldsOf_cons_other {number : Nat} {field : Field}
    (other : field.number ≠ number) (fields : List Field) :
    fieldsOf number (field :: fields) = fieldsOf number fields :=
  List.filter_cons_of_neg (by simp [other])

theorem fieldsOf_append (number : Nat) (fields later : List Field) :
    fieldsOf number (fields ++ later) = fieldsOf number fields ++
      fieldsOf number later :=
  List.filter_append ..

theorem fieldsOf_eq_nil {number : Nat} {fields : List Field}
    (absent : ∀ field ∈ fields, field.number ≠ number) :
    fieldsOf number fields = [] :=
  List.filter_eq_nil_iff.mpr fun field listed => by simp [absent field listed]

/-- What is selected by number is selected from the fields with that number. -/
theorem filterMap_fieldsOf {α : Type} {select : Field → Option α} {number : Nat}
    (numbered : ∀ {field value}, select field = some value →
      field.number = number) (fields : List Field) :
    (fieldsOf number fields).filterMap select = fields.filterMap select := by
  induction fields with
  | nil => rfl
  | cons field rest induction =>
      by_cases same : field.number = number
      · rw [fieldsOf_cons_same same, List.filterMap_cons, List.filterMap_cons,
          induction]
      · have absent : select field = none := by
          cases selected : select field with
          | none => rfl
          | some value => exact absurd (numbered selected) same
        rw [fieldsOf_cons_other same, List.filterMap_cons_none absent,
          induction]

/-- How values are held in one field. -/
structure Scalar (α : Type) where
  read : Nat → Field → Option α
  write : Nat → α → Field
  number_write : ∀ number value, (write number value).number = number
  read_write : ∀ number value, read number (write number value) = some value
  number_of_read : ∀ {number field value}, read number field = some value →
    field.number = number

namespace Scalar

def varint : Scalar UInt64 where
  read := Field.varint?
  write := .varint
  number_write _ _ := rfl
  read_write _ _ := if_pos rfl
  number_of_read := by
    intro number field value read
    cases field with
    | varint number' value' => exact (Option.ite_none_right_eq_some.mp read).1
    | _ => contradiction

def fixed64 : Scalar UInt64 where
  read := Field.fixed64?
  write := .fixed64
  number_write _ _ := rfl
  read_write _ _ := if_pos rfl
  number_of_read := by
    intro number field value read
    cases field with
    | fixed64 number' value' => exact (Option.ite_none_right_eq_some.mp read).1
    | _ => contradiction

def fixed32 : Scalar UInt32 where
  read := Field.fixed32?
  write := .fixed32
  number_write _ _ := rfl
  read_write _ _ := if_pos rfl
  number_of_read := by
    intro number field value read
    cases field with
    | fixed32 number' value' => exact (Option.ite_none_right_eq_some.mp read).1
    | _ => contradiction

def payload : Scalar Bytes where
  read := Field.payload?
  write := .lengthDelimited
  number_write _ _ := rfl
  read_write _ _ := if_pos rfl
  number_of_read := by
    intro number field value read
    cases field with
    | lengthDelimited number' value' =>
        exact (Option.ite_none_right_eq_some.mp read).1
    | _ => contradiction

/-- Values that stand for some of those of another scalar. -/
def refine {α β : Type} (scalar : Scalar α) (toValue : α → Option β)
    (ofValue : β → α)
    (inverse : ∀ value, toValue (ofValue value) = some value) : Scalar β where
  read number field := (scalar.read number field).bind toValue
  write number value := scalar.write number (ofValue value)
  number_write number value := scalar.number_write number (ofValue value)
  read_write number value := by
    rw [scalar.read_write, Option.bind_some, inverse]
  number_of_read := by
    intro number field value read
    obtain ⟨held, read, _⟩ := Option.bind_eq_some_iff.mp read
    exact scalar.number_of_read read

theorem packable_fixed64 (number : Nat) (value : UInt64) :
    (fixed64.write number value).payload? number = none :=
  rfl

end Scalar

/-- How the members of a value are laid out as fields. -/
structure Layout (σ : Type) where
  numbers : List Nat
  empty : σ
  merge : Member σ
  Means : List Field → σ → Prop
  write : σ → List Field
  merged : ∀ fields value, fields.foldlM merge empty = some value ↔
    Means fields value
  /-- Only the fields with these numbers count, and those of each number by
  themselves. -/
  own : ∀ {fields fields' value}, Means fields value →
    (∀ number ∈ numbers, fieldsOf number fields = fieldsOf number fields') →
    Means fields' value
  written : ∀ {value field}, field ∈ write value → field.number ∈ numbers
  means_write : ∀ {value}, numbers.Nodup →
    (encodeFields (write value)).length < 2 ^ 31 → Means (write value) value

/-- A message: each of its members has a number of its own. -/
structure Codec (σ : Type) extends Layout σ where
  distinct : numbers.Nodup
  numbered : ∀ number ∈ numbers, Numbered number

namespace Codec

section Messages

variable {σ : Type} (codec : Codec σ)

def encode (value : σ) : Bytes :=
  encodeFields (codec.write value)

def parse (input : Bytes) : Option σ :=
  (decode input).bind fun fields => fields.foldlM codec.merge codec.empty

variable {codec}

theorem parse_eq_some {input : Bytes} {value : σ} :
    codec.parse input = some value ↔
      ∃ fields, decode input = some fields ∧ codec.Means fields value := by
  simp only [parse, Option.bind_eq_some_iff, codec.merged]

theorem decode_encode {value : σ}
    (bounded : (codec.encode value).length < 2 ^ 31) :
    decode (codec.encode value) = some (codec.write value) := by
  apply decode_encodeFields
  · exact fun field listed => codec.numbered _ (codec.written listed)
  · exact bounded

theorem parse_encode {value : σ}
    (bounded : (codec.encode value).length < 2 ^ 31) :
    codec.parse (codec.encode value) = some value :=
  parse_eq_some.mpr ⟨_, decode_encode bounded,
    codec.means_write codec.distinct bounded⟩

end Messages

end Codec

namespace Layout

section Members

variable {α σ : Type} {number : Nat}

theorem last_congr {select : Field → Option α}
    (numbered : ∀ {field value}, select field = some value →
      field.number = number) {fields fields' : List Field}
    (same : fieldsOf number fields = fieldsOf number fields') :
    last select fields = last select fields' := by
  rw [last, ← filterMap_fieldsOf numbered, same, filterMap_fieldsOf numbered,
    last]

theorem payloads_congr {fields fields' : List Field}
    (same : fieldsOf number fields = fieldsOf number fields') :
    payloads number fields = payloads number fields' := by
  have numbered :
      ∀ {field payload}, Field.payload? number field = some payload →
      field.number = number := Scalar.payload.number_of_read
  rw [payloads, ← filterMap_fieldsOf numbered, same,
    filterMap_fieldsOf numbered, payloads]

theorem collected_cons {elements : Field → Option (List α)} {field : Field}
    {fields : List Field} {values : List α} :
    Collected elements (field :: fields) values ↔
      ∃ list later, elements field = some list ∧
        Collected elements fields later ∧
        values = list ++ later := by
  constructor
  · rintro ⟨_, matched, rfl⟩
    cases matched with
    | @cons _ list _ lists found matched =>
        exact ⟨list, lists.flatten, found, ⟨lists, matched, rfl⟩, rfl⟩
  · rintro ⟨list, _, found, ⟨lists, matched, rfl⟩, rfl⟩
    exact ⟨list :: lists, .cons found matched, rfl⟩

theorem collected_fieldsOf {elements : Field → Option (List α)}
    (other : ∀ {field}, field.number ≠ number → elements field = some [])
    {fields : List Field} {values : List α} :
    Collected elements (fieldsOf number fields) values ↔
    Collected elements fields values := by
  induction fields generalizing values with
  | nil => rfl
  | cons field rest induction =>
      by_cases same : field.number = number
      · simp only [fieldsOf_cons_same same, collected_cons, induction]
      · simp [fieldsOf_cons_other same, collected_cons, induction, other same]

theorem elements_of_ne (scalar : Scalar α) (unpack : Bytes → Option (List α))
    {field : Field} (other : field.number ≠ number) :
    Field.elements (scalar.read number) unpack number field = some [] := by
  have unpacked : field.payload? number = none := by
    cases packed : field.payload? number with
    | none => rfl
    | some payload => exact absurd (Scalar.payload.number_of_read packed) other
  have unread : scalar.read number field = none := by
    cases read : scalar.read number field with
    | none => rfl
    | some value => exact absurd (scalar.number_of_read read) other
  simp [Field.elements, unpacked, unread]

/-- A singular scalar. -/
def last (number : Nat) (scalar : Scalar α) : Layout (Option α) where
  numbers := [number]
  empty := none
  merge := Member.last (scalar.read number)
  Means fields value := Wire.last (scalar.read number) fields = value
  write value := (value.map (scalar.write number)).toList
  merged fields value := by rw [foldlM_last, Option.or_none, Option.some.injEq]
  own := by
    intro fields fields' value means same
    rw [← means]
    exact (last_congr scalar.number_of_read
      (same number (List.mem_singleton_self _))).symm
  written := by
    intro value field listed
    cases value with
    | none => contradiction
    | some value =>
        obtain rfl := List.mem_singleton.mp listed
        exact List.mem_singleton.mpr (scalar.number_write number value)
  means_write := by
    intro value _ _
    cases value with
    | none => rfl
    | some value => simp [Wire.last, scalar.read_write]

/-- A repeated scalar; each element is written by itself, but may be packed when
read. -/
def repeated (number : Nat) (scalar : Scalar α)
    (unpack : Bytes → Option (List α))
    (unpacked : ∀ value, (scalar.write number value).payload? number = none) :
    Layout (List α) where
  numbers := [number]
  empty := []
  merge := Member.collected (Field.elements (scalar.read number) unpack number)
  Means := Collected (Field.elements (scalar.read number) unpack number)
  write values := values.map (scalar.write number)
  merged _ _ := foldlM_collected_nil
  own := by
    intro fields fields' values means same
    have others {field : Field} (other : field.number ≠ number) :=
      elements_of_ne scalar unpack other
    rw [← collected_fieldsOf others, same number (List.mem_singleton_self _),
      collected_fieldsOf others] at means
    exact means
  written := by
    intro values field listed
    obtain ⟨value, _, rfl⟩ := List.mem_map.mp listed
    exact List.mem_singleton.mpr (scalar.number_write number value)
  means_write := by
    intro values _ bounded
    clear bounded
    induction values with
    | nil => exact ⟨[], .nil, rfl⟩
    | cons value rest induction =>
        refine collected_cons.mpr ⟨[value], rest, ?_, induction, rfl⟩
        simp [Field.elements, unpacked, scalar.read_write]

theorem submessage_congr {Means : List Field → σ → Prop}
    {fields fields' : List Field}
    (same : fieldsOf number fields = fieldsOf number fields') {value : Option σ}
    (means : Submessage decode Means number fields value) :
    Submessage decode Means number fields' value := by
  cases value with
  | none | some => rwa [Submessage, payloads_congr same] at means

theorem encodeFields_append (fields later : List Field) :
    encodeFields (fields ++ later) = encodeFields fields ++
      encodeFields later :=
  List.flatMap_append

def writeMessage (codec : Codec σ) (number : Nat) (value : σ) : Field :=
  .lengthDelimited number (codec.encode value)

theorem payload?_writeMessage (codec : Codec σ) (value : σ) :
    (writeMessage codec number value).payload? number =
      some (codec.encode value) :=
  if_pos rfl

/-- A singular submessage. -/
def message (number : Nat) (codec : Codec σ) : Layout (Option σ) where
  numbers := [number]
  empty := none
  merge := Member.message decode codec.merge codec.empty number
  Means := Submessage decode codec.Means number
  write value := (value.map (writeMessage codec number)).toList
  merged _ _ := foldlM_message_none codec.merged
  own means same :=
    submessage_congr (same number (List.mem_singleton_self _)) means
  written := by
    intro value field listed
    cases value with
    | none => contradiction
    | some value =>
        obtain rfl := List.mem_singleton.mp listed
        exact List.mem_singleton_self _
  means_write := by
    intro value _ bounded
    cases value with
    | none => rfl
    | some value =>
        have short := payload_length_lt bounded _ (List.mem_singleton_self _)
        have decoded := Codec.decode_encode short
        have means := codec.means_write codec.distinct short
        have present : payloads number [writeMessage codec number value] =
            [codec.encode value] := by
          rw [payloads_cons_some (payload?_writeMessage codec value)]
          rfl
        simp only [Submessage, Option.map_some, Option.toList_some, present]
        refine ⟨List.cons_ne_nil _ _, [codec.write value],
          .cons decoded .nil, ?_⟩
        simpa using means

/-- A repeated submessage. -/
def messages (number : Nat) (codec : Codec σ) : Layout (List σ) where
  numbers := [number]
  empty := []
  merge := Member.messages decode codec.merge codec.empty number
  Means := Submessages decode codec.Means number
  write values := values.map (writeMessage codec number)
  merged _ _ := foldlM_messages_nil codec.merged
  own := by
    intro fields fields' values means same
    rw [Submessages, payloads_congr (same number (List.mem_singleton_self _))]
      at means
    exact means
  written := by
    intro values field listed
    obtain ⟨value, _, rfl⟩ := List.mem_map.mp listed
    exact List.mem_singleton_self _
  means_write := by
    intro values _ bounded
    have short := payload_length_lt bounded
    clear bounded
    induction values with
    | nil => exact .nil
    | cons value rest induction =>
        obtain ⟨first, others⟩ := List.forall_mem_cons.mp short
        rw [List.map_cons, Submessages,
          payloads_cons_some (payload?_writeMessage codec value)]
        have decoded := Codec.decode_encode first
        have means := codec.means_write codec.distinct first
        exact .cons ⟨_, decoded, means⟩ (induction others)

/-- A submessage that must be well formed but is not kept. -/
def checked (number : Nat) (codec : Codec σ) : Layout Unit where
  numbers := [number]
  empty := ()
  merge := Member.checked decode codec.merge codec.empty number
  Means fields _ :=
    ∃ values, Submessages decode codec.Means number fields values
  write _ := []
  merged fields _ := foldlM_checked codec.merged
  own := by
    intro fields fields' _ means same
    obtain ⟨values, means⟩ := means
    rw [Submessages, payloads_congr (same number (List.mem_singleton_self _))]
      at means
    exact ⟨values, means⟩
  written := nofun
  means_write _ _ := ⟨[], .nil⟩

end Members

section Both

variable {σ τ : Type}

theorem encode_left {fields later : List Field} {limit : Nat}
    (bounded : (encodeFields (fields ++ later)).length < limit) :
    (encodeFields fields).length < limit := by
  rw [encodeFields_append, List.length_append] at bounded
  omega

theorem encode_right {fields later : List Field} {limit : Nat}
    (bounded : (encodeFields (fields ++ later)).length < limit) :
    (encodeFields later).length < limit := by
  rw [encodeFields_append, List.length_append] at bounded
  omega

def both (first : Layout σ) (second : Layout τ) : Layout (σ × τ) where
  numbers := first.numbers ++ second.numbers
  empty := (first.empty, second.empty)
  merge := first.merge.both second.merge
  Means fields value := first.Means fields value.1 ∧ second.Means fields value.2
  write value := first.write value.1 ++ second.write value.2
  merged fields value := by
    rw [foldlM_both, first.merged, second.merged]
  own := by
    intro fields fields' value means same
    obtain ⟨same, same'⟩ := List.forall_mem_append.mp same
    exact ⟨first.own means.1 same, second.own means.2 same'⟩
  written := by
    intro value field listed
    rw [List.mem_append] at listed ⊢
    exact listed.imp first.written second.written
  means_write := by
    intro value distinct bounded
    obtain ⟨distinct, distinct', disjoint⟩ := List.nodup_append.mp distinct
    constructor
    · refine first.own (first.means_write distinct (encode_left bounded))
        fun number listed => ?_
      have absent : fieldsOf number (second.write value.2) = [] :=
        fieldsOf_eq_nil fun field held same =>
          disjoint number listed number (same ▸ second.written held) rfl
      rw [fieldsOf_append, absent, List.append_nil]
    · refine second.own (second.means_write distinct' (encode_right bounded))
        fun number listed => ?_
      have absent : fieldsOf number (first.write value.1) = [] :=
        fieldsOf_eq_nil fun field held same =>
          disjoint number (same ▸ first.written held) number listed rfl
      rw [fieldsOf_append, absent, List.nil_append]

/-- The same fields as the members of a structure. -/
def equiv (layout : Layout σ) (build : σ ≃ τ) : Layout τ where
  numbers := layout.numbers
  empty := build layout.empty
  merge held field := (layout.merge (build.symm held) field).map build
  Means fields value := layout.Means fields (build.symm value)
  write value := layout.write (build.symm value)
  merged fields value := by
    have built (held : σ) (field : Field) :
        (layout.merge (build.symm (build held)) field).map build =
          (layout.merge held field).map build := by
      rw [Equiv.symm_apply_apply]
    rw [foldlM_build built, Option.map_eq_some_iff]
    simp only [layout.merged, ← Equiv.eq_symm_apply, exists_eq_right]
  own := layout.own
  written := layout.written
  means_write := layout.means_write

end Both

end Layout

namespace Codec

variable {σ M : Type}

def of (members : Layout σ) (build : σ ≃ M) (distinct : members.numbers.Nodup)
    (numbered : ∀ number ∈ members.numbers, Numbered number) : Codec M :=
  { members.equiv build with distinct := distinct, numbered := numbered }

end Codec

end Farsounder.Data.Wire
