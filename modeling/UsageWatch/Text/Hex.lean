/-!
# Hexadecimal digits

Digits up to sixteen, and characters by their numbers.
-/

namespace UsageWatch.Text

def hexDigit? (c : Char) : Option Nat :=
  if '0' ≤ c ∧ c ≤ '9' then some (c.toNat - 48)
  else if 'a' ≤ c ∧ c ≤ 'f' then some (c.toNat - 87)
  else if 'A' ≤ c ∧ c ≤ 'F' then some (c.toNat - 55)
  else none

/-- The value of digits, the first of which counts most. -/
def hexValue? (ds : List Char) : Option Nat :=
  ds.foldlM (fun n d => (hexDigit? d).map (n * 16 + ·)) 0

def lowerHexDigit (n : Nat) : Char := if n < 10 then Char.ofNat (48 + n) else Char.ofNat (87 + n)

def upperHexDigit (n : Nat) : Char := if n < 10 then Char.ofNat (48 + n) else Char.ofNat (55 + n)

theorem hexDigit?_lowerHexDigit : ∀ n < 16, hexDigit? (lowerHexDigit n) = some n := by decide

theorem hexDigit?_upperHexDigit : ∀ n < 16, hexDigit? (upperHexDigit n) = some n := by decide

/-- The last `width` digits of a number. -/
def upperHex : (width n : Nat) → List Char
  | 0, _ => []
  | width + 1, n => upperHex width (n / 16) ++ [upperHexDigit (n % 16)]

theorem length_upperHex (width n : Nat) : (upperHex width n).length = width := by
  induction width generalizing n with
  | zero => rfl
  | succ width ih => simp [upperHex, ih]

theorem hexValue?_upperHex {width n : Nat} (h : n < Nat.pow 16 width) :
    hexValue? (upperHex width n) = some n := by
  induction width generalizing n with
  | zero =>
    have hn : n = 0 := Nat.lt_one_iff.mp h
    rw [hn]
    rfl
  | succ width ih =>
    have hpow : Nat.pow 16 (width + 1) = Nat.pow 16 width * 16 := rfl
    have hhigh : (upperHex width (n / 16)).foldlM (fun n d => (hexDigit? d).map (n * 16 + ·)) 0 =
        some (n / 16) := ih (by omega)
    rw [hexValue?, upperHex, List.foldlM_append, hhigh]
    simp [hexDigit?_upperHexDigit (n % 16) (Nat.mod_lt _ (by decide)), Nat.div_add_mod']

theorem exists_of_mem_upperHex {width n : Nat} {c : Char} (h : c ∈ upperHex width n) :
    ∃ d < 16, c = upperHexDigit d := by
  induction width generalizing n with
  | zero => cases h
  | succ width ih =>
    rcases List.mem_append.mp h with h | h
    · exact ih h
    · exact ⟨n % 16, Nat.mod_lt _ (by decide), List.mem_singleton.mp h⟩

/-- The last `width` digits of a number, in lower case. -/
def lowerHex : (width n : Nat) → List Char
  | 0, _ => []
  | width + 1, n => lowerHex width (n / 16) ++ [lowerHexDigit (n % 16)]

/-- The bytes that pairs of digits stand for. -/
def hexBytes? : List Char → Option (List UInt8)
  | [] => some []
  | [_] => none
  | high :: low :: rest => do
    let n ← hexValue? [high, low]
    some (UInt8.ofNat n :: (← hexBytes? rest))

/-- The character with a number, if it is one. -/
def charOfNat? (n : Nat) : Option Char := if h : n.isValidChar then some (Char.ofNatAux n h) else none

theorem charOfNat?_toNat (c : Char) : charOfNat? c.toNat = some c := by
  have hvalid : c.toNat.isValidChar := c.valid
  rw [charOfNat?, dif_pos hvalid]
  rfl

end UsageWatch.Text
