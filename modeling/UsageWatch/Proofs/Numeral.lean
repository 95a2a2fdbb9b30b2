import Mathlib.Data.Nat.Digits.Lemmas
import UsageWatch.Text.Numeral
/-!
# Decimal numerals

A number is printed with its digits only, the first of which is no zero unless it
stands alone. Reading accepts digits behind a plus sign too (`IsNumeral`), as long as
their value keeps to the limit.
-/

namespace UsageWatch.Text

/-! ## Digits -/

theorem isDigit_iff {c : Char} : c.isDigit = true ↔ '0' ≤ c ∧ c ≤ '9' := by
  simp [Char.isDigit, Char.le_def]

theorem digit_bounds {c : Char} (h : c.isDigit = true) : 48 ≤ c.toNat ∧ c.toNat ≤ 57 := by
  obtain ⟨hlow, hhigh⟩ := isDigit_iff.mp h
  exact ⟨UInt32.le_iff_toNat_le.mp hlow, UInt32.le_iff_toNat_le.mp hhigh⟩

theorem isDigit_of_mem_toDigits {n : Nat} {c : Char} (h : c ∈ Nat.toDigits 10 n) :
    c.isDigit = true :=
  Nat.isDigit_of_mem_toDigits (by decide) (by decide) h

theorem exists_toDigits_cons (n : Nat) :
    ∃ d ds, Nat.toDigits 10 n = d :: ds ∧ d.isDigit = true := by
  obtain ⟨d, ds, hds⟩ := List.exists_cons_of_ne_nil (Nat.toDigits_ne_nil (n := n) (b := 10))
  exact ⟨d, ds, hds, isDigit_of_mem_toDigits (hds ▸ List.mem_cons_self)⟩

/-- A leading zero stands alone. -/
theorem toDigits_zero_cons {n : Nat} {ds : List Char} (h : Nat.toDigits 10 n = '0' :: ds) :
    ds = [] := by
  induction n using Nat.strong_induction_on generalizing ds with
  | _ n ih =>
    by_cases hn : n < 10
    · rw [Nat.toDigits_of_lt_base hn] at h
      exact (List.cons.inj h).2.symm
    · rw [Nat.toDigits_of_base_le (by decide) (by omega)] at h
      obtain ⟨d, ds', hds, -⟩ := exists_toDigits_cons (n / 10)
      rw [hds, List.cons_append] at h
      obtain ⟨rfl, -⟩ := List.cons.inj h
      -- the digits in front stand for zero, which they cannot with more than one digit
      have hnil := ih (n / 10) (by omega) hds
      have hzero : n / 10 = 0 := by
        have hvalue := Nat.ofDigitChars_ten_toDigits (n := n / 10)
        rw [hds, hnil] at hvalue
        exact hvalue.symm
      omega

/-- The value of digits as a fold that multiplies from the left. -/
theorem foldl_digits (ds : List Char) (n : Nat) :
    ds.foldl (fun n c => n * 10 + (c.toNat - 48)) n = Nat.ofDigitChars 10 ds n := by
  simp only [Nat.mul_comm _ 10]
  rfl

theorem le_ofDigitChars (ds : List Char) (n : Nat) : n ≤ Nat.ofDigitChars 10 ds n := by
  induction ds generalizing n with
  | nil => exact Nat.le_refl n
  | cons c ds ih =>
    rw [Nat.ofDigitChars_cons]
    exact Nat.le_trans (by omega) (ih _)

/-! ## Reading -/

inductive IsNumeral : List Char → Nat → Prop
  | unsigned {ds : List Char} (hne : ds ≠ []) (hdigits : ∀ c ∈ ds, c.isDigit = true) :
      IsNumeral ds (Nat.ofDigitChars 10 ds 0)
  | signed {ds : List Char} (hne : ds ≠ []) (hdigits : ∀ c ∈ ds, c.isDigit = true) :
      IsNumeral ('+' :: ds) (Nat.ofDigitChars 10 ds 0)

theorem isNumeral_toDigits (n : Nat) : IsNumeral (Nat.toDigits 10 n) n := by
  have h := IsNumeral.unsigned (Nat.toDigits_ne_nil (n := n) (b := 10))
    fun _ hc => isDigit_of_mem_toDigits hc
  rwa [Nat.ofDigitChars_ten_toDigits] at h

theorem IsNumeral.eq_plus_or_isDigit {s : List Char} {n : Nat} (h : IsNumeral s n) :
    ∀ c ∈ s, c = '+' ∨ c.isDigit = true := by
  intro c hc
  cases h with
  | unsigned _ hdigits => exact .inr (hdigits c hc)
  | signed _ hdigits =>
    rcases List.mem_cons.mp hc with hplus | hc
    · exact .inl hplus
    · exact .inr (hdigits c hc)

theorem digit?_eq_some_iff {c : Char} {d : Nat} :
    digit? c = some d ↔ c.isDigit = true ∧ d = c.toNat - 48 := by
  rw [isDigit_iff, digit?]
  by_cases hc : '0' ≤ c ∧ c ≤ '9'
  · rw [if_pos hc]
    simp [hc, eq_comm]
  · rw [if_neg hc]
    simp [hc]

theorem readDigits_eq_ok_iff {limit acc n : Nat} {s : List Char} (hacc : acc ≤ limit) :
    readDigits limit acc s = .ok n ↔
      (∀ c ∈ s, c.isDigit = true) ∧ Nat.ofDigitChars 10 s acc = n ∧ n ≤ limit := by
  induction s generalizing acc with
  | nil =>
    constructor
    · rintro ⟨⟩
      exact ⟨by simp, rfl, hacc⟩
    · rintro ⟨-, rfl, -⟩
      rfl
  | cons c s ih =>
    rw [readDigits, Nat.ofDigitChars_cons]
    cases hc : digit? c with
    | none =>
      constructor
      · rintro ⟨⟩
      · rintro ⟨hdigits, -, -⟩
        rw [digit?_eq_some_iff.mpr ⟨hdigits c List.mem_cons_self, rfl⟩] at hc
        cases hc
    | some d =>
      obtain ⟨hdigit, rfl⟩ := digit?_eq_some_iff.mp hc
      have hvalue : 10 * acc + (c.toNat - '0'.toNat) = acc * 10 + (c.toNat - 48) := by
        rw [Nat.mul_comm]
        rfl
      rw [hvalue]
      dsimp only
      by_cases hlimit : limit < acc * 10 + (c.toNat - 48)
      · rw [if_pos hlimit]
        constructor
        · rintro ⟨⟩
        · rintro ⟨-, hn, hle⟩
          have := le_ofDigitChars s (acc * 10 + (c.toNat - 48))
          omega
      · rw [if_neg hlimit, ih (by omega), List.forall_mem_cons]
        simp [hdigit]

theorem readNumeral_eq_ok_iff {limit n : Nat} {s : List Char} :
    readNumeral limit s = .ok n ↔ IsNumeral s n ∧ n ≤ limit := by
  have hread (ds : List Char) := readDigits_eq_ok_iff (n := n) (s := ds) (Nat.zero_le limit)
  constructor
  · intro h
    unfold readNumeral at h
    split at h
    · cases h
    · cases h
    · next digits hne =>
      obtain ⟨hdigits, rfl, hle⟩ := (hread _).mp h
      exact ⟨.signed (by simpa using hne) hdigits, hle⟩
    · next hne _ _ =>
      obtain ⟨hdigits, rfl, hle⟩ := (hread _).mp h
      exact ⟨.unsigned hne hdigits, hle⟩
  · rintro ⟨hs, hle⟩
    cases hs with
    | @unsigned ds hne hdigits =>
      have hplus : ∀ rest, s = '+' :: rest → False := by
        rintro rest rfl
        exact absurd (hdigits '+' List.mem_cons_self) (by decide)
      have heq : readNumeral limit s = readDigits limit 0 s := by
        unfold readNumeral
        split
        · exact absurd rfl hne
        · exact absurd rfl (hplus [])
        · exact absurd rfl (hplus _)
        · rfl
      rw [heq]
      exact (hread s).mpr ⟨hdigits, rfl, hle⟩
    | @signed ds hne hdigits =>
      obtain ⟨d, ds', rfl⟩ := List.exists_cons_of_ne_nil hne
      exact (hread _).mpr ⟨hdigits, rfl, hle⟩

theorem readCount_eq_ok_iff {n : UInt32} {s : List Char} :
    readCount s = .ok n ↔ IsNumeral s n.toNat := by
  unfold readCount
  constructor
  · intro h
    cases hm : readNumeral 0xffffffff s with
    | error e => rw [hm] at h; cases h
    | ok m =>
      rw [hm] at h
      cases h
      obtain ⟨hs, hle⟩ := readNumeral_eq_ok_iff.mp hm
      rwa [UInt32.toNat_ofNat_of_lt' (by rw [UInt32.size]; omega)]
  · intro h
    have hle : n.toNat ≤ 0xffffffff := Nat.le_of_lt_succ n.toNat_lt
    rw [readNumeral_eq_ok_iff.mpr ⟨h, hle⟩]
    exact congrArg Except.ok (UInt32.ofNat_toNat)

end UsageWatch.Text
