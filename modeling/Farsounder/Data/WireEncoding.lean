import Farsounder.Data.Wire
import Mathlib.Algebra.Order.Ring.Nat

namespace Farsounder.Data.Wire

/-! Writing the wire format, and reading back what was written. -/

/-- The shortest groups of seven bits; at most `limit` bytes are written. -/
def writeVarint : (limit : Nat) → Nat → Bytes
  | 0, _ => []
  | limit + 1, value =>
      if value < 128 then [UInt8.ofNat value]
      else UInt8.ofNat (value % 128 + 128) :: writeVarint limit (value / 128)

def writeLittleEndian : (count : Nat) → Nat → Bytes
  | 0, _ => []
  | count + 1, value =>
      UInt8.ofNat (value % 256) :: writeLittleEndian count (value / 256)

def writeTag (number wireType : Nat) : Bytes :=
  writeVarint 5 (8 * number + wireType)

def Field.number : Field → Nat
  | varint number _ | fixed64 number _ | lengthDelimited number _
  | fixed32 number _ =>
      number

def Field.payload : Field → Bytes
  | lengthDelimited _ payload => payload
  | varint _ _ | fixed64 _ _ | fixed32 _ _ => []

def Field.encode : Field → Bytes
  | varint number value => writeTag number 0 ++ writeVarint 10 value.toNat
  | fixed64 number value => writeTag number 1 ++ writeLittleEndian 8 value.toNat
  | lengthDelimited number payload =>
      writeTag number 2 ++ (writeVarint 10 payload.length ++ payload)
  | fixed32 number value => writeTag number 5 ++ writeLittleEndian 4 value.toNat

def Token.number : Token → Nat
  | .field held => held.number
  | .startGroup number | .endGroup number => number

def Token.encode : Token → Bytes
  | .field held => held.encode
  | .startGroup number => writeTag number 3
  | .endGroup number => writeTag number 4

def encodeTokens (tokens : List Token) : Bytes :=
  tokens.flatMap Token.encode

def encodeFields (fields : List Field) : Bytes :=
  fields.flatMap Field.encode

/-- The numbers that a field can be declared with. -/
def Numbered (number : Nat) : Prop :=
  0 < number ∧ number < 2 ^ 29

instance (number : Nat) : Decidable (Numbered number) :=
  inferInstanceAs (Decidable (_ ∧ _))

/-! Varints and little-endian words. -/

theorem readVarint_writeVarint {limit value : Nat} (positive : 0 < limit)
    (bounded : value < 128 ^ limit) (rest : Bytes) :
    readVarint limit (writeVarint limit value ++ rest) =
      some (value, rest) := by
  induction limit generalizing value with
  | zero => contradiction
  | succ limit induction =>
      by_cases small : value < 128
      · have byte : (UInt8.ofNat value).toNat = value := by
          rw [UInt8.toNat_ofNat']
          omega
        simp [writeVarint, readVarint, small, byte]
      · have byte :
            (UInt8.ofNat (value % 128 + 128)).toNat = value % 128 + 128 := by
          rw [UInt8.toNat_ofNat']
          omega
        have groups : 0 < limit := by
          rcases Nat.eq_zero_or_pos limit with rfl | groups
          · exact absurd bounded small
          · exact groups
        have rest : value / 128 < 128 ^ limit := by
          rw [Nat.div_lt_iff_lt_mul (by decide)]
          rwa [← Nat.pow_succ]
        have continues : ¬ value % 128 + 128 < 128 := by omega
        simp only [writeVarint, if_neg small, List.cons_append,
          readVarint, byte, if_neg continues, induction groups rest,
          Option.map_some, Option.some.injEq, Prod.mk.injEq, and_true]
        omega

theorem readLittleEndian_writeLittleEndian {count value : Nat}
    (bounded : value < 256 ^ count) (rest : Bytes) :
    readLittleEndian count (writeLittleEndian count value ++ rest) =
      some (value, rest) := by
  induction count generalizing value with
  | zero =>
      obtain rfl : value = 0 := Nat.lt_one_iff.mp bounded
      rfl
  | succ count induction =>
      have byte : (UInt8.ofNat (value % 256)).toNat = value % 256 := by
        rw [UInt8.toNat_ofNat']
        omega
      have rest : value / 256 < 256 ^ count := by
        rw [Nat.div_lt_iff_lt_mul (by decide)]
        rwa [← Nat.pow_succ]
      simp only [writeLittleEndian, List.cons_append, readLittleEndian, byte,
        induction rest, Option.map_some, Option.some.injEq,
          Prod.mk.injEq, and_true]
      omega

theorem writeVarint_ne_nil {limit : Nat} (positive : 0 < limit) (value : Nat) :
    writeVarint limit value ≠ [] := by
  cases limit with
  | zero => contradiction
  | succ limit =>
      rw [writeVarint]
      split <;> simp

/-! Tokens. -/

theorem readVarint_writeTag {number wireType : Nat} (numbered : Numbered number)
    (small : wireType < 8) (rest : Bytes) :
    readVarint 5 (writeTag number wireType ++ rest) =
      some (8 * number + wireType, rest) := by
  refine readVarint_writeVarint (by decide) ?_ rest
  have := numbered.2
  omega

theorem readPayload_write {payload : Bytes} (bounded : payload.length < 2 ^ 31)
    (rest : Bytes) :
    readPayload (writeVarint 10 payload.length ++ (payload ++ rest)) =
      some (payload, rest) := by
  have length :
      readVarint 10 (writeVarint 10 payload.length ++ (payload ++ rest)) =
      some (payload.length, payload ++ rest) :=
    readVarint_writeVarint (by decide) (by omega) _
  have fits : payload.length ≤ (payload ++ rest).length := by simp
  simp only [readPayload, length, Option.bind_eq_bind, Option.bind_some,
    if_pos fits, List.take_left, List.drop_left]

/-- What `readToken` does after the tag. -/
def readContents (number : Nat) : (wireType : Nat) → Bytes →
      Option (Token × Bytes)
  | 0, rest => (readVarint 10 rest).map fun (value, rest) =>
      (.field (.varint number (UInt64.ofNat value)), rest)
  | 1, rest => (readLittleEndian 8 rest).map fun (value, rest) =>
      (.field (.fixed64 number (UInt64.ofNat value)), rest)
  | 2, rest => (readPayload rest).map fun (payload, rest) =>
      (.field (.lengthDelimited number payload), rest)
  | 3, rest => some (.startGroup number, rest)
  | 4, rest => some (.endGroup number, rest)
  | 5, rest => (readLittleEndian 4 rest).map fun (value, rest) =>
      (.field (.fixed32 number (UInt32.ofNat value)), rest)
  | _, _ => none

theorem readToken_eq (input : Bytes) :
    readToken input = (readVarint 5 input).bind fun (tag, rest) =>
      if tag / 8 = 0 then none else readContents (tag / 8) (tag % 8) rest := by
  simp only [readToken, Option.bind_eq_bind]
  refine congrArg _ (funext fun (tag, rest) => ?_)
  simp only
  split
  · rfl
  · unfold readContents
    split <;> simp_all only [Option.map_eq_bind] <;> rfl

theorem readToken_writeTag {number wireType : Nat} (numbered : Numbered number)
    (small : wireType < 8) (rest : Bytes) :
    readToken (writeTag number wireType ++ rest) =
      readContents number wireType rest := by
  have positive := numbered.1
  have quotient : (8 * number + wireType) / 8 = number := by omega
  have remainder : (8 * number + wireType) % 8 = wireType := by omega
  rw [readToken_eq, readVarint_writeTag numbered small, Option.bind_some]
  simp only [quotient, remainder, if_neg (Nat.ne_of_gt positive)]

theorem readToken_encode {token : Token} (numbered : Numbered token.number)
    (bounded : ∀ field, token = .field field → field.payload.length < 2 ^ 31)
    (rest : Bytes) : readToken (token.encode ++ rest) = some (token, rest) := by
  cases token with
  | startGroup number => exact readToken_writeTag numbered (by decide) rest
  | endGroup number => exact readToken_writeTag numbered (by decide) rest
  | field field =>
      cases field with
      | varint number value =>
          have numbered : Numbered number := numbered
          have read := readVarint_writeVarint (show 0 < 10 by decide)
            (show value.toNat < 128 ^ 10 by have := value.toNat_lt; omega) rest
          rw [Token.encode, Field.encode, List.append_assoc,
            readToken_writeTag numbered (by decide), readContents, read]
          simp
      | fixed64 number value =>
          have numbered : Numbered number := numbered
          have read := readLittleEndian_writeLittleEndian
            (show value.toNat < 256 ^ 8 by have := value.toNat_lt; omega) rest
          rw [Token.encode, Field.encode, List.append_assoc,
            readToken_writeTag numbered (by decide), readContents, read]
          simp
      | lengthDelimited number payload =>
          have numbered : Numbered number := numbered
          have bounded : payload.length < 2 ^ 31 := bounded _ rfl
          rw [Token.encode, Field.encode, List.append_assoc,
            readToken_writeTag numbered (by decide), readContents,
            List.append_assoc, readPayload_write bounded]
          rfl
      | fixed32 number value =>
          have numbered : Numbered number := numbered
          have read := readLittleEndian_writeLittleEndian
            (show value.toNat < 256 ^ 4 by have := value.toNat_lt; omega) rest
          rw [Token.encode, Field.encode, List.append_assoc,
            readToken_writeTag numbered (by decide), readContents, read]
          simp

/-! Sequences of tokens. -/

/-- A token read while some groups are open, and then the rest. -/
def proceed (rest : List Nat → Option (List Field)) :
    (groups : List Nat) → Token → Option (List Field)
  | [], .field field => (rest []).map (field :: ·)
  | innermost :: outer, .field _ => rest (innermost :: outer)
  | groups, .startGroup number => rest (number :: groups)
  | [], .endGroup _ => none
  | innermost :: outer, .endGroup number =>
      if number = innermost then rest outer else none

/-- The fields of a sequence of tokens that are outside every group. -/
def outside : List Token → (groups : List Nat) → Option (List Field)
  | [], [] => some []
  | [], _ :: _ => none
  | token :: rest, groups => proceed (outside rest) groups token

theorem readFields_read {input rest : Bytes} {token : Token}
    (read : readToken input = some (token, rest)) (fuel : Nat)
    (groups : List Nat) :
    readFields (fuel + 1) groups input =
      proceed (readFields fuel · rest) groups token := by
  cases input with
  | nil => contradiction
  | cons byte input =>
      rw [readFields, read]
      · cases token <;> cases groups <;> rfl
      · exact fun _ => nofun
      · exact fun _ _ _ => nofun

theorem outside_fields (fields : List Field) :
    outside (fields.map .field) [] = some fields := by
  induction fields with
  | nil => rfl
  | cons field rest induction =>
      rw [List.map_cons, outside, proceed, induction, Option.map_some]

theorem Token.encode_ne_nil (token : Token) : token.encode ≠ [] := by
  have tag : ∀ number wireType, writeTag number wireType ≠ [] :=
    fun _ _ => writeVarint_ne_nil (by decide) _
  cases token with
  | startGroup number | endGroup number => exact tag _ _
  | field field => cases field <;> simp [encode, Field.encode, tag]

/-- A token that can be written and read back. -/
structure Token.Legal (token : Token) : Prop where
  numbered : Numbered token.number
  bounded : ∀ field, token = .field field → field.payload.length < 2 ^ 31

theorem readFields_encodeTokens {tokens : List Token}
    (legal : ∀ token ∈ tokens, token.Legal) {fuel : Nat}
    (enough : tokens.length ≤ fuel) (groups : List Nat) :
    readFields fuel groups (encodeTokens tokens) = outside tokens groups := by
  induction tokens generalizing fuel groups with
  | nil => cases groups <;> cases fuel <;> rfl
  | cons token rest induction =>
      obtain ⟨legal, legals⟩ := List.forall_mem_cons.mp legal
      cases fuel with
      | zero => contradiction
      | succ fuel =>
          have shorter : rest.length ≤ fuel := Nat.le_of_succ_le_succ enough
          have read := readToken_encode legal.numbered legal.bounded
              (encodeTokens rest)
          have written : encodeTokens (token :: rest) =
              token.encode ++ encodeTokens rest := List.flatMap_cons
          rw [written, readFields_read read, outside]
          exact congrArg (proceed · groups token)
            (funext (induction legals shorter))

theorem tokens_length_le (tokens : List Token) :
    tokens.length ≤ (encodeTokens tokens).length := by
  induction tokens with
  | nil => exact Nat.le_refl _
  | cons token rest induction =>
      have nonempty := List.length_pos_iff.mpr token.encode_ne_nil
      simp only [encodeTokens, List.flatMap_cons, List.length_append,
        List.length_cons] at induction ⊢
      omega

/-- Decoding what was written gives the fields that are outside every group. -/
theorem decode_encodeTokens {tokens : List Token}
    (legal : ∀ token ∈ tokens, token.Legal) :
    decode (encodeTokens tokens) = outside tokens [] :=
  readFields_encodeTokens legal (tokens_length_le tokens) []

theorem payload_length_le (field : Field) :
    field.payload.length ≤ field.encode.length := by
  cases field with
  | lengthDelimited number payload =>
      simp only [Field.payload, Field.encode, List.length_append]
      omega
  | varint | fixed64 | fixed32 => exact Nat.zero_le _

/-- A payload is no longer than what it is part of. -/
theorem payload_length_lt {fields : List Field} {limit : Nat}
    (bounded : (encodeFields fields).length < limit) :
    ∀ field ∈ fields, field.payload.length < limit := by
  induction fields with
  | nil => exact fun _ => nofun
  | cons field rest induction =>
      rw [encodeFields, List.flatMap_cons, List.length_append, ← encodeFields]
        at bounded
      rw [List.forall_mem_cons]
      refine ⟨?_, induction (by omega)⟩
      have := payload_length_le field
      omega

theorem decode_encodeFields {fields : List Field}
    (numbered : ∀ field ∈ fields, Numbered field.number)
    (bounded : (encodeFields fields).length < 2 ^ 31) :
    decode (encodeFields fields) = some fields := by
  have written : encodeFields fields = encodeTokens (fields.map .field) := by
    rw [encodeFields, encodeTokens, List.flatMap_map]
    rfl
  rw [written, decode_encodeTokens, outside_fields]
  intro token member
  obtain ⟨field, listed, rfl⟩ := List.mem_map.mp member
  refine ⟨numbered field listed, ?_⟩
  rintro _ ⟨⟩
  exact payload_length_lt bounded field listed

end Farsounder.Data.Wire
