import UsageWatch.Text.Fields
import UsageWatch.Text.Hex
import UsageWatch.Text.Numeral
/-!
# Internet addresses

Addresses of both protocol versions: how they are read, and the one text each of
them is written as. A run of zero groups may be left out once, and the last two
groups may be written like an address of version four.
-/

namespace UsageWatch

inductive IpAddress where
  | v4 (octets : Vector UInt8 4)
  | v6 (groups : Vector UInt16 8)
deriving DecidableEq, Repr

namespace IpAddress

/-! ## Reading -/

def isNumeral (most : Nat) (isDigit : Char → Bool) (s : List Char) : Bool :=
  !s.isEmpty && s.length ≤ most && s.all isDigit

/-- A decimal number below 256, without zeros in front. -/
def octet? (s : List Char) : Option UInt8 :=
  if isNumeral 3 (fun c => (Text.digit? c).isSome) s ∧ (s.head? ≠ some '0' ∨ s.length = 1) then
    match Text.readNumeral 255 s with
    | .ok n => some (UInt8.ofNat n)
    | .error _ => none
  else none

def octets? (s : List Char) : Option (Vector UInt8 4) := do
  match ← (Text.fields '.' s).mapM octet? with
  | [a, b, c, d] => some #v[a, b, c, d]
  | _ => none

/-- Up to four hexadecimal digits. -/
def group? (s : List Char) : Option UInt16 :=
  if isNumeral 4 (fun c => (Text.hexDigit? c).isSome) s then
    (Text.hexValue? s).map UInt16.ofNat
  else none

/-- Two groups out of four octets. -/
def groupsOf (octets : Vector UInt8 4) : List UInt16 :=
  let pair (high low : UInt8) := UInt16.ofNat (high.toNat * 256 + low.toNat)
  [pair octets[0] octets[1], pair octets[2] octets[3]]

/-- The groups of a text that ends with one; the last piece may stand for two. -/
def endingGroups? : List (List Char) → Option (List UInt16)
  | [] => some []
  | [last] => ((group? last).map ([·])).or ((octets? last).map groupsOf)
  | piece :: rest => do
    let group ← group? piece
    some (group :: (← endingGroups? rest))

def pieces (s : List Char) : List (List Char) := if s.isEmpty then [] else Text.fields ':' s

/-- What stands before and after the first doubled colon. -/
def cutZeros? : List Char → Option (List Char × List Char)
  | ':' :: ':' :: rest => some ([], rest)
  | c :: rest => (cutZeros? rest).map fun (before, behind) => (c :: before, behind)
  | [] => none

def ofGroups? (groups : List UInt16) : Option IpAddress :=
  if h : groups.length = 8 then some (.v6 ⟨groups.toArray, by simpa using h⟩) else none

/-- An address of version six. A doubled colon stands for one zero group or more. -/
def parseV6? (s : List Char) : Option IpAddress :=
  match cutZeros? s with
  | none => (endingGroups? (pieces s)).bind ofGroups?
  | some (before, behind) => do
    let head ← (pieces before).mapM group?
    let tail ← endingGroups? (pieces behind)
    if 7 < head.length + tail.length then none
    else ofGroups? (head ++ List.replicate (8 - head.length - tail.length) 0 ++ tail)

def parse? (s : String) : Option IpAddress :=
  ((octets? s.toList).map .v4).or (parseV6? s.toList)

/-! ## Writing -/

def octetsText (octets : Vector UInt8 4) : String :=
  ".".intercalate (octets.toList.map fun b => toString b.toNat)

def groupText (group : UInt16) : String :=
  match (Text.lowerHex 4 group.toNat).dropWhile (· = '0') with
  | [] => "0"
  | digits => String.ofList digits

def groupsText (groups : List UInt16) : String := ":".intercalate (groups.map groupText)

def leadingZeros (groups : List UInt16) : Nat := (groups.takeWhile (· = 0)).length

/-- Start and length of the longest run of zeros, the first of equally long ones. -/
def longestZeros (groups : List UInt16) : Nat × Nat :=
  (List.range groups.length).foldl
    (fun best i =>
      let n := leadingZeros (groups.drop i)
      if best.2 < n then (i, n) else best)
    (0, 0)

def octetsOf (group : UInt16) : List Nat := [group.toNat / 256, group.toNat % 256]

/-- The text of an address. One zero group alone is written out, and addresses
that stand for version four show its octets. -/
def text : IpAddress → String
  | .v4 octets => octetsText octets
  | .v6 groups =>
    let groups := groups.toList
    let zeros := longestZeros groups
    if groups.take 6 = [0, 0, 0, 0, 0, 0xffff] then
      "::ffff:" ++ ".".intercalate (((groups.drop 6).flatMap octetsOf).map toString)
    else if 1 < zeros.2 then
      groupsText (groups.take zeros.1) ++ "::" ++ groupsText (groups.drop (zeros.1 + zeros.2))
    else groupsText groups

end IpAddress

structure Endpoint where
  address : IpAddress
  port : UInt16
deriving DecidableEq, Repr

namespace Endpoint

/-- The number of a zone behind a percent sign. -/
def isZone (s : List Char) : Bool :=
  !s.isEmpty && s.all (fun c => (Text.digit? c).isSome)
    && match Text.readCount s with
      | .ok _ => true
      | .error _ => false

/-- An address of version six in brackets, with or without a zone. -/
def bracketed? : List Char → Option IpAddress
  | '[' :: rest =>
    match rest.reverse with
    | ']' :: inner =>
      let inner := inner.reverse
      match Text.cut? '%' inner with
      | none => IpAddress.parseV6? inner
      | some (address, zone) => if isZone zone then IpAddress.parseV6? address else none
    | _ => none
  | _ => none

/-- The endpoint of a host and a port. A host is an address of version four, or
one of version six in brackets. -/
def ofHost? (host : String) (port : UInt16) : Option Endpoint := do
  let address ← ((IpAddress.octets? host.toList).map .v4).or (bracketed? host.toList)
  some ⟨address, port⟩

end Endpoint

end UsageWatch
