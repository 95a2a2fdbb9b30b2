import Mathlib.Data.List.TakeWhile
import UsageWatch.Text.Blank
/-!
# Runs of characters

A run ends in front of the first character of another kind. Trimming takes away the
runs of blanks around a text, and nothing else of it.
-/

namespace UsageWatch.Text

section
variable {p : Char → Bool} {run rest : List Char} (hrun : ∀ c ∈ run, p c = true)
  (hrest : ∀ c, rest.head? = some c → p c = false)

include hrun hrest

theorem dropWhile_exact : (run ++ rest).dropWhile p = rest := by
  rw [List.dropWhile_append_of_pos hrun]
  cases rest with
  | nil => rfl
  | cons c rest => rw [List.dropWhile_cons_of_neg (by simp [hrest c rfl])]

theorem takeWhile_exact : (run ++ rest).takeWhile p = run := by
  rw [List.takeWhile_append_of_pos hrun]
  cases rest with
  | nil => rw [List.takeWhile_nil, List.append_nil]
  | cons c rest => rw [List.takeWhile_cons_of_neg (by simp [hrest c rfl]), List.append_nil]

end

theorem ne_of_kind {p : Char → Bool} {a b : Char} (ha : p a = true) (hb : p b = false) : a ≠ b := by
  rintro rfl
  rw [ha] at hb
  cases hb

theorem eq_false_of_head?_dropWhile {p : Char → Bool} {s : List Char} {c : Char}
    (h : (s.dropWhile p).head? = some c) : p c = false := by
  have hnot := List.head?_dropWhile_not p s
  rw [h] at hnot
  simpa using hnot

/-- A text begins with a run of a kind, which may be empty. -/
theorem exists_run (p : Char → Bool) (s : List Char) : ∃ run rest, s = run ++ rest ∧
    (∀ c ∈ run, p c = true) ∧ ∀ c, rest.head? = some c → p c = false := by
  exact ⟨s.takeWhile p, s.dropWhile p, List.takeWhile_append_dropWhile.symm,
    fun c hc => List.mem_takeWhile_imp hc, fun c hc => eq_false_of_head?_dropWhile hc⟩

theorem toList_pushn (s : String) (c : Char) (n : Nat) :
    (s.pushn c n).toList = s.toList ++ List.replicate n c := by
  rw [String.pushn_eq_repeat_push]
  induction n with
  | zero => simp [Nat.repeat]
  | succ n ih => simp [Nat.repeat, ih, List.replicate_succ']

/-! ## Blanks around a text -/

variable {before s behind : List Char}

theorem trim_eq_nil (h : ∀ c ∈ s, isBlank c = true) : trim s = [] := by
  have hleft : trimLeft s = [] := List.dropWhile_eq_nil_iff.mpr h
  rw [trim, hleft]
  rfl

theorem trim_surrounded (hbefore : ∀ c ∈ before, isBlank c = true) (hs : Trimmed s)
    (hbehind : ∀ c ∈ behind, isBlank c = true) : trim (before ++ s ++ behind) = s := by
  cases s with
  | nil =>
    refine trim_eq_nil fun c hc => ?_
    rcases List.mem_append.mp hc with hc | hc
    · exact hbefore c (by simpa using hc)
    · exact hbehind c hc
  | cons first s =>
    have hleft : trimLeft (before ++ first :: s ++ behind) = first :: s ++ behind := by
      rw [trimLeft, List.append_assoc]
      exact dropWhile_exact hbefore hs.1
    have hright : trimRight (first :: s ++ behind) = first :: s := by
      rw [trimRight, List.reverse_append, dropWhile_exact (by simpa using hbehind),
        List.reverse_reverse]
      intro c hc
      rw [List.head?_reverse] at hc
      exact hs.2 c hc
    rw [trim, hleft, hright]

theorem eq_trimRight_append (s : List Char) :
    s = trimRight s ++ (s.reverse.takeWhile isBlank).reverse := by
  rw [trimRight, ← List.reverse_append, List.takeWhile_append_dropWhile, List.reverse_reverse]

theorem exists_trim (s : List Char) : ∃ before behind, s = before ++ trim s ++ behind ∧
    (∀ c ∈ before, isBlank c = true) ∧ (∀ c ∈ behind, isBlank c = true) := by
  have hleft : s = s.takeWhile isBlank ++ trimLeft s := List.takeWhile_append_dropWhile.symm
  have hright : trimLeft s = trim s ++ ((trimLeft s).reverse.takeWhile isBlank).reverse :=
    eq_trimRight_append (trimLeft s)
  refine ⟨s.takeWhile isBlank, ((trimLeft s).reverse.takeWhile isBlank).reverse, ?_, ?_, ?_⟩
  · rw [List.append_assoc, ← hright]
    exact hleft
  · exact fun c hc => List.mem_takeWhile_imp hc
  · exact fun c hc => List.mem_takeWhile_imp (List.mem_reverse.mp hc)

theorem not_mem_surrounded {sep : Char} (hsep : isBlank sep = false)
    (hbefore : ∀ c ∈ before, isBlank c = true) (hbehind : ∀ c ∈ behind, isBlank c = true)
    (hs : sep ∉ s) : sep ∉ before ++ s ++ behind := by
  intro h
  rcases List.mem_append.mp h with h | h
  · rcases List.mem_append.mp h with h | h
    · exact ne_of_kind (hbefore sep h) hsep rfl
    · exact hs h
  · exact ne_of_kind (hbehind sep h) hsep rfl

theorem mem_of_mem_trim {c : Char} (h : c ∈ trim s) : c ∈ s := by
  obtain ⟨before, behind, hs, -, -⟩ := exists_trim s
  rw [hs]
  exact List.mem_append_left _ (List.mem_append_right _ h)

theorem head?_trimRight {c : Char} (h : (trimRight s).head? = some c) : s.head? = some c := by
  rw [eq_trimRight_append s, List.head?_append, h]
  rfl

theorem trimmed_trim (s : List Char) : Trimmed (trim s) := by
  refine ⟨fun c hc => eq_false_of_head?_dropWhile (head?_trimRight hc), fun c hc => ?_⟩
  rw [trim, trimRight, List.getLast?_reverse] at hc
  exact eq_false_of_head?_dropWhile hc

end UsageWatch.Text
