/-!
# Wire format

A message on the wire is a sequence of numbered fields, each a variable-length
integer or a run of bytes. Integers are written in groups of seven bits, lowest
first, and a set top bit announces another group.
-/

namespace UsageWatch.Wire

inductive Value where
  | varint (n : UInt64)
  | bytes (bs : List UInt8)
deriving DecidableEq, Repr

structure Field where
  number : Nat
  value : Value
deriving DecidableEq, Repr

/-! ## Writing -/

def varint (n : Nat) : List UInt8 :=
  if n < 128 then [UInt8.ofNat n] else UInt8.ofNat (n % 128 + 128) :: varint (n / 128)
termination_by n

/-- The key holds the field's number and, in its low three bits, its shape. -/
def Field.encode (f : Field) : List UInt8 :=
  match f.value with
  | .varint n => varint (f.number * 8) ++ varint n.toNat
  | .bytes bs => varint (f.number * 8 + 2) ++ varint bs.length ++ bs

def encode (fs : List Field) : List UInt8 := fs.flatMap Field.encode

/-! ## Reading -/

def readVarint : List UInt8 → Option (Nat × List UInt8)
  | [] => none
  | b :: rest =>
    if b.toNat < 128 then some (b.toNat, rest)
    else (readVarint rest).map fun (n, rest) => (b.toNat - 128 + 128 * n, rest)

def readField (bs : List UInt8) : Option (Field × List UInt8) := do
  let (key, bs) ← readVarint bs
  let (n, bs) ← readVarint bs
  match key % 8 with
  | 0 => some (⟨key / 8, .varint (UInt64.ofNat n)⟩, bs)
  | 2 => if n ≤ bs.length then some (⟨key / 8, .bytes (bs.take n)⟩, bs.drop n) else none
  | _ => none

def decodeUpTo : (fuel : Nat) → List UInt8 → Option (List Field)
  | _, [] => some []
  | 0, _ :: _ => none
  | fuel + 1, bs => do
    let (f, rest) ← readField bs
    let fs ← decodeUpTo fuel rest
    some (f :: fs)

/-- Every field takes at least one byte, so the bytes themselves bound their number. -/
def decode (bs : List UInt8) : Option (List Field) := decodeUpTo bs.length bs

/-! ## Fields of a message

Numbers and texts equal to their default are left out. A nested message that is
present is written even if it is empty.
-/

def utf8 (s : String) : List UInt8 := s.toUTF8.toList

def ofUtf8? (bs : List UInt8) : Option String := String.fromUTF8? ⟨bs.toArray⟩

def int64 (number : Nat) (n : Int64) : List Field :=
  if n = 0 then [] else [⟨number, .varint n.toUInt64⟩]

/-- Narrow numbers are widened with their sign. -/
def int32 (number : Nat) (n : Int32) : List Field := int64 number n.toInt64

def text (number : Nat) (s : String) : List Field :=
  if s = "" then [] else [⟨number, .bytes (utf8 s)⟩]

variable {α : Type}

def nested (number : Nat) (fields : α → List Field) (m : Option α) : List Field :=
  m.toList.map fun m => ⟨number, .bytes (encode (fields m))⟩

def repeated (number : Nat) (fields : α → List Field) (ms : List α) : List Field :=
  ms.map fun m => ⟨number, .bytes (encode (fields m))⟩

def valuesOf (number : Nat) (fs : List Field) : List Value :=
  (fs.filter (·.number = number)).map (·.value)

/-- The last integer of that number, or zero. -/
def getInt64 (number : Nat) (fs : List Field) : Option Int64 :=
  match (valuesOf number fs).getLast? with
  | none => some 0
  | some (.varint n) => some n.toInt64
  | some (.bytes _) => none

def getInt32 (number : Nat) (fs : List Field) : Option Int32 :=
  (getInt64 number fs).map (·.toInt32)

def getText (number : Nat) (fs : List Field) : Option String :=
  match (valuesOf number fs).getLast? with
  | none => some ""
  | some (.bytes bs) => ofUtf8? bs
  | some (.varint _) => none

def messageOf (ofFields : List Field → Option α) : Value → Option α
  | .bytes bs => (decode bs).bind ofFields
  | .varint _ => none

def getNested (number : Nat) (ofFields : List Field → Option α) (fs : List Field) :
    Option (Option α) :=
  match (valuesOf number fs).getLast? with
  | none => some none
  | some v => (messageOf ofFields v).map some

def getRepeated (number : Nat) (ofFields : List Field → Option α) (fs : List Field) :
    Option (List α) :=
  (valuesOf number fs).mapM (messageOf ofFields)

end UsageWatch.Wire
