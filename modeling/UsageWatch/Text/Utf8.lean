/-!
# Bytes as text

Every byte sequence has a text: a longest prefix of a character that goes no
further counts as one replacement character.
-/

namespace UsageWatch.Text

def replacement : Char := '\ufffd'

def isContinuation (b : UInt8) : Bool := 0x80 ≤ b && b ≤ 0xbf

/-- The second bytes that may follow a leading byte of three or four. -/
def secondRange (b : UInt8) : UInt8 × UInt8 :=
  if b = 0xe0 then (0xa0, 0xbf)
  else if b = 0xed then (0x80, 0x9f)
  else if b = 0xf0 then (0x90, 0xbf)
  else if b = 0xf4 then (0x80, 0x8f)
  else (0x80, 0xbf)

def isSecond (lead b : UInt8) : Bool :=
  (secondRange lead).1 ≤ b && b ≤ (secondRange lead).2

def low6 (b : UInt8) : Nat := b.toNat % 64

def decodeLossy : List UInt8 → List Char
  | [] => []
  | a :: r =>
    if a < 0x80 then Char.ofNat a.toNat :: decodeLossy r
    else if a < 0xc2 || 0xf4 < a then replacement :: decodeLossy r
    else
      match r with
      | [] => [replacement]
      | b :: s =>
        if !isSecond a b then replacement :: decodeLossy (b :: s)
        else if a < 0xe0 then Char.ofNat (a.toNat % 32 * 64 + low6 b) :: decodeLossy s
        else
          match s with
          | [] => [replacement]
          | c :: t =>
            if !isContinuation c then replacement :: decodeLossy (c :: t)
            else if a < 0xf0 then
              Char.ofNat ((a.toNat % 16 * 64 + low6 b) * 64 + low6 c) :: decodeLossy t
            else
              match t with
              | [] => [replacement]
              | d :: u =>
                if !isContinuation d then replacement :: decodeLossy (d :: u)
                else
                  Char.ofNat (((a.toNat % 8 * 64 + low6 b) * 64 + low6 c) * 64 + low6 d)
                    :: decodeLossy u

end UsageWatch.Text
