namespace Farsounder.Data.Wire

/-! The protobuf wire format: a message is a sequence of numbered fields. -/

abbrev Bytes := List UInt8

inductive Field where
  | varint (number : Nat) (value : UInt64)
  | fixed64 (number : Nat) (value : UInt64)
  | lengthDelimited (number : Nat) (payload : Bytes)
  | fixed32 (number : Nat) (value : UInt32)
  deriving DecidableEq, Repr

inductive Token where
  | field (field : Field)
  | startGroup (number : Nat)
  | endGroup (number : Nat)

/-- Little-endian groups of seven bits; at most `limit` bytes are read. -/
def readVarint : (limit : Nat) → Bytes → Option (Nat × Bytes)
  | 0, _ => none
  | _ + 1, [] => none
  | limit + 1, byte :: rest =>
      if byte.toNat < 128 then
        some (byte.toNat, rest)
      else
        (readVarint limit rest).map fun (high, tail) =>
          (byte.toNat - 128 + 128 * high, tail)

def readLittleEndian : (count : Nat) → Bytes → Option (Nat × Bytes)
  | 0, rest => some (0, rest)
  | _ + 1, [] => none
  | count + 1, byte :: rest =>
      (readLittleEndian count rest).map fun (high, tail) =>
        (byte.toNat + 256 * high, tail)

def readPayload (input : Bytes) : Option (Bytes × Bytes) := do
  let (length, rest) ← readVarint 10 input
  if length ≤ rest.length then
    some (rest.take length, rest.drop length)
  else none

def readToken (input : Bytes) : Option (Token × Bytes) := do
  let (tag, rest) ← readVarint 5 input
  let number := tag / 8
  if number = 0 then none else
  match tag % 8 with
  | 0 => do
      let (value, rest) ← readVarint 10 rest
      some (.field (.varint number (UInt64.ofNat value)), rest)
  | 1 => do
      let (value, rest) ← readLittleEndian 8 rest
      some (.field (.fixed64 number (UInt64.ofNat value)), rest)
  | 2 => do
      let (payload, rest) ← readPayload rest
      some (.field (.lengthDelimited number payload), rest)
  | 3 => some (.startGroup number, rest)
  | 4 => some (.endGroup number, rest)
  | 5 => do
      let (value, rest) ← readLittleEndian 4 rest
      some (.field (.fixed32 number (UInt32.ofNat value)), rest)
  | _ => none

/-- The fields outside every group.  `groups` are the numbers of the groups
still open, innermost first; what they contain is skipped. -/
def readFields : (fuel : Nat) → (groups : List Nat) → Bytes →
      Option (List Field)
  | _, [], [] => some []
  | _, _ :: _, [] => none
  | 0, _, _ :: _ => none
  | fuel + 1, groups, input => do
      let (token, rest) ← readToken input
      match token, groups with
      | .field field, [] => (readFields fuel [] rest).map (field :: ·)
      | .field _, _ :: _ => readFields fuel groups rest
      | .startGroup number, _ => readFields fuel (number :: groups) rest
      | .endGroup _, [] => none
      | .endGroup number, innermost :: outer =>
          if number = innermost then readFields fuel outer rest else none

/-- Every token takes at least one byte, so the length is fuel enough. -/
def decode (input : Bytes) : Option (List Field) :=
  readFields input.length [] input

example : decode [0x0a, 0x02, 0x10, 0x63] =
    some [.lengthDelimited 1 [0x10, 0x63]] := by decide

end Farsounder.Data.Wire
