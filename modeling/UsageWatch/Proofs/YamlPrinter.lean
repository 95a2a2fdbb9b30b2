import UsageWatch.Proofs.YamlLiteral
import UsageWatch.Proofs.YamlQuoted
/-!
# Written texts

Which texts are written in which style, and that nothing is written that a document must
not hold.
-/

namespace UsageWatch.Yaml

theorem styleOf_cases (s : List Char) :
    (styleOf s = .literal ∧ '\n' ∈ s ∧ fitsLiteral s = true) ∨
    (styleOf s = .plain ∧ s ≠ [] ∧ fitsPlain s = true) ∨
    (styleOf s = .singleQuoted ∧ '\n' ∉ s ∧ fitsSingleQuotes s = true) ∨
    styleOf s = .doubleQuoted := by
  unfold styleOf
  by_cases hnewline : s.contains '\n' = true
  · rw [if_pos hnewline]
    by_cases hfits : fitsLiteral s = true
    · exact .inl ⟨if_pos hfits, by simpa using hnewline, hfits⟩
    · exact .inr (.inr (.inr (if_neg hfits)))
  · rw [if_neg hnewline]
    by_cases hplain : (!isAmbiguous s && fitsPlain s) = true
    · rw [if_pos hplain]
      rw [Bool.and_eq_true] at hplain
      refine .inr (.inl ⟨rfl, ?_, hplain.2⟩)
      rintro rfl
      cases hplain.1
    · rw [if_neg hplain]
      by_cases hfits : fitsSingleQuotes s = true
      · exact .inr (.inr (.inl ⟨if_pos hfits, by simpa using hnewline, hfits⟩))
      · exact .inr (.inr (.inr (if_neg hfits)))

/-! ## Characters -/

theorem isAllowed_of_isPrintable {c : Char} (h : isPrintable c = true) : isAllowed c = true := by
  have hvalid : c.toNat < 0xd800 ∨ 0xdfff < c.toNat ∧ c.toNat < 0x110000 := c.valid
  simp only [isPrintable, Bool.or_eq_true, Bool.and_eq_true, decide_eq_true_eq] at h
  simp only [isAllowed, Bool.or_eq_true, Bool.and_eq_true, decide_eq_true_eq]
  omega

theorem isAllowed_escapeChar (c : Char) : ∀ a ∈ escapeChar c, isAllowed a = true := by
  have hdigits : ∀ d < 16, isAllowed (Text.upperHexDigit d) = true := by decide
  have hmarks : ∀ e ∈ Quoted.simpleEscapes, isAllowed e.1 = true := by decide
  rcases Quoted.escapeChar_cases c with ⟨mark, h, hmem⟩ | ⟨mark, n, h, hmark, -⟩ | ⟨h, hprintable, -⟩
  · rw [h, List.forall_mem_cons, List.forall_mem_singleton]
    exact ⟨by decide, hmarks (mark, c) hmem⟩
  · have hallowed : isAllowed mark = true := by
      unfold Quoted.escapeLength? at hmark
      split at hmark
      · decide
      · decide
      · decide
      · cases hmark
    rw [h, List.forall_mem_cons, List.forall_mem_cons]
    refine ⟨by decide, hallowed, fun a ha => ?_⟩
    obtain ⟨d, hd, rfl⟩ := Text.exists_of_mem_upperHex ha
    exact hdigits d hd
  · rw [h, List.forall_mem_singleton]
    exact isAllowed_of_isPrintable hprintable

/-! ## Texts -/

section
variable {margin s : List Char} {atMargin : Bool} {a : Char}

theorem mem_singleQuotedFrom (h : a ∈ singleQuotedFrom margin atMargin s) :
    a ∈ margin ∨ a = '\'' ∨ a ∈ s := by
  induction s generalizing atMargin with
  | nil =>
    cases atMargin
    · cases h
    · exact .inl h
  | cons c s ih =>
    have hmargin : a ∈ (if atMargin = true then margin else []) → a ∈ margin := by
      cases atMargin <;> simp
    by_cases hbreak : isBreak c = true
    · rw [singleQuotedFrom, if_pos hbreak, List.mem_cons] at h
      rcases h with rfl | h
      · simp
      · exact (ih h).imp_right (Or.imp_right (List.mem_cons_of_mem c))
    · rw [singleQuotedFrom, if_neg hbreak, List.mem_append, List.mem_append] at h
      rcases h with (h | h) | h
      · exact .inl (hmargin h)
      · by_cases hquote : c = '\''
        · rw [if_pos hquote] at h
          simp_all
        · rw [if_neg hquote] at h
          simp_all
      · exact (ih h).imp_right (Or.imp_right (List.mem_cons_of_mem c))

theorem mem_literalLines (h : a ∈ literalLines margin atMargin s) : a ∈ margin ∨ a ∈ s := by
  induction s generalizing atMargin with
  | nil => cases h
  | cons c s ih =>
    have hmargin : a ∈ (if atMargin = true then margin else []) → a ∈ margin := by
      cases atMargin <;> simp
    by_cases hbreak : isBreak c = true
    · rw [literalLines, if_pos hbreak, List.mem_cons] at h
      rcases h with rfl | h
      · simp
      · exact (ih h).imp_right (List.mem_cons_of_mem c)
    · rw [literalLines, if_neg hbreak, List.mem_append, List.mem_cons] at h
      rcases h with h | rfl | h
      · exact .inl (hmargin h)
      · simp
      · exact (ih h).imp_right (List.mem_cons_of_mem c)

end

theorem mem_literalHeader {s : List Char} {a : Char} (h : a ∈ literalHeader margin s) :
    a ∈ ['|', '2', '-', '+'] := by
  have hhint : (toString margin.length).toList = ['2'] := by decide
  unfold literalHeader at h
  rw [hhint, List.cons_append, List.mem_cons, List.mem_append] at h
  rcases h with rfl | h | h
  · simp
  · split at h <;> simp_all
  · split at h
    · simp_all
    · split at h
      · simp_all
      · split at h <;> simp_all

theorem isAllowed_writeText (s : List Char) : ∀ a ∈ writeText margin s, isAllowed a = true := by
  have hmargin : ∀ a ∈ margin, isAllowed a = true := List.all_eq_true.mp (by decide)
  have hheader : ∀ a ∈ ['|', '2', '-', '+'], isAllowed a = true := List.all_eq_true.mp (by decide)
  have hmarks : isAllowed '\n' = true ∧ isAllowed '\'' = true ∧ isAllowed '"' = true := by decide
  intro a ha
  unfold writeText at ha
  rcases styleOf_cases s with ⟨h, -, hfits⟩ | ⟨h, -, hfits⟩ | ⟨h, -, hfits⟩ | h
  · simp only [h, List.mem_append, List.mem_cons] at ha
    simp only [fitsLiteral, Bool.and_eq_true, List.all_eq_true] at hfits
    rcases ha with (ha | rfl | ha) | ha
    · exact hheader a (mem_literalHeader ha)
    · exact hmarks.1
    · rcases mem_literalLines ha with ha | ha
      · exact hmargin a ha
      · exact isAllowed_of_isPrintable (hfits.1.1 a ha)
    · split at ha
      · cases ha
      · rw [List.mem_singleton.mp ha]
        exact hmarks.1
  · simp only [h, List.mem_append, List.mem_singleton] at ha
    simp only [fitsPlain, Bool.and_eq_true, List.all_eq_true] at hfits
    rcases ha with ha | rfl
    · exact isAllowed_of_isPrintable (hfits.1.1.1.1 a ha)
    · exact hmarks.1
  · simp only [h, singleQuoted, List.cons_append, List.mem_append, List.mem_cons, List.not_mem_nil,
      or_false] at ha
    simp only [fitsSingleQuotes, Bool.and_eq_true, List.all_eq_true] at hfits
    rcases ha with rfl | (ha | rfl) | rfl
    · exact hmarks.2.1
    · rcases mem_singleQuotedFrom ha with ha | rfl | ha
      · exact hmargin a ha
      · exact hmarks.2.1
      · exact isAllowed_of_isPrintable (hfits.1.1 a ha)
    · exact hmarks.2.1
    · exact hmarks.1
  · simp only [h, doubleQuoted, List.cons_append, List.mem_append, List.mem_cons, List.mem_flatMap,
      List.not_mem_nil, or_false] at ha
    rcases ha with rfl | (⟨c, -, ha⟩ | rfl) | rfl
    · exact hmarks.2.2
    · exact isAllowed_escapeChar c a ha
    · exact hmarks.2.2
    · exact hmarks.1

end UsageWatch.Yaml
