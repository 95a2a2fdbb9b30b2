import Mathlib.Data.List.Infix
import UsageWatch.Toml.Quoted
/-!
# Quoted texts of TOML

Each of the four ways to quote a text is read as this text. Behind a text the line ends,
so that no quote can follow the closing ones.
-/

namespace UsageWatch.Toml

theorem extraQuotes_newline (quote : Char) (h : quote ≠ '\n') (rest : List Char) :
    extraQuotes quote ('\n' :: rest) = ([], '\n' :: rest) := by
  simp [extraQuotes, h.symm]

/-! ## Single quotes -/

theorem literalLine_append {s : List Char} (h : ∀ c ∈ s, c ≠ '\'' ∧ isPlain c = true)
    (rest : List Char) : literalLine (s ++ '\'' :: rest) = some (s, rest) := by
  induction s with
  | nil => rfl
  | cons c s ih =>
    rw [List.forall_mem_cons] at h
    simp [literalLine, h.1.1, h.1.2, ih h.2]

/-- A text without three quotes in a row and none at its end has no three of them even
in front of closing ones. -/
theorem not_tripled {a b c : Char} {s t rest : List Char} (hne : s ≠ [])
    (htriple : hasTripleQuote s = false) (hlast : s.getLast? ≠ some '\'')
    (h : s ++ rest = a :: b :: c :: t) : ¬ (a = '\'' ∧ b = '\'' ∧ c = '\'') := by
  rintro ⟨rfl, rfl, rfl⟩
  match s, hne with
  | [a], _ => simp_all
  | [a, b], _ => simp_all
  | a :: b :: c :: s, _ =>
    simp only [List.cons_append, List.cons.injEq] at h
    obtain ⟨rfl, rfl, rfl, -⟩ := h
    simp [hasTripleQuote] at htriple

theorem literalLines_append {s : List Char} (h : ∀ c ∈ s, c = '\n' ∨ isPlain c = true)
    (htriple : hasTripleQuote s = false) (hlast : s.getLast? ≠ some '\'') (rest : List Char) :
    literalLines (s ++ (tripled '\'' ++ '\n' :: rest)) = some (s, '\n' :: rest) := by
  induction s with
  | nil =>
    have hextra := extraQuotes_newline '\'' (by decide) rest
    simp [tripled, literalLines, hextra]
  | cons c s ih =>
    rw [List.forall_mem_cons] at h
    have hrest : literalLines (s ++ (tripled '\'' ++ '\n' :: rest)) = some (s, '\n' :: rest) := by
      refine ih h.2 ?_ ?_
      · simp_all [hasTripleQuote]
      · cases s with
        | nil => simp
        | cons d s => simpa using hlast
    rw [List.cons_append, literalLines.eq_def]
    split
    · next heq => cases heq
    · next more heq =>
      exact absurd ⟨rfl, rfl, rfl⟩ (not_tripled (List.cons_ne_nil c s) htriple hlast heq)
    · next heq =>
      cases heq
      simp [h.1, hrest]

/-! ## Double quotes -/

theorem exists_upperHex {c : Char} (h : c.toNat < 0x10000) : ∃ a b d e,
    Text.upperHex 4 c.toNat = [a, b, d, e] ∧
      Text.hexValue? [a, b, d, e] = some c.toNat := by
  have hvalue : Text.hexValue? (Text.upperHex 4 c.toNat) = some c.toNat := Text.hexValue?_upperHex h
  exact ⟨_, _, _, _, rfl, hvalue⟩

/-- A character is written behind a backslash, by its number, or as it is. -/
theorem escapeChar_cases (c : Char) :
    (∃ e, escapeChar c = ['\\', e] ∧ simpleEscape? e = some c ∧ e ≠ 'u' ∧ e ≠ 'U' ∧ e ≠ '\n' ∧
      isBlank e = false) ∨
    (c.toNat < 0x10000 ∧ escapeChar c = '\\' :: 'u' :: Text.upperHex 4 c.toNat) ∨
    (escapeChar c = [c] ∧ c ≠ '"' ∧ c ≠ '\\' ∧ (c = '\n' ∨ isPlain c = true)) := by
  unfold escapeChar
  iterate 6
    split
    · next h => exact .inl ⟨_, rfl, by rw [h]; rfl, by decide, by decide, by decide, by decide⟩
  split
  · next h => exact .inr (.inr ⟨by rw [h], by rw [h]; decide, by rw [h]; decide, .inl h⟩)
  split
  · next h =>
    have hcontrol : c.toNat < 0x10000 := by
      simp only [isControl, Bool.or_eq_true, decide_eq_true_eq] at h
      omega
    exact .inr (.inl ⟨hcontrol, rfl⟩)
  · next hquote hbackslash hnewline hcontrol =>
    have hplain : isPlain c = true := by
      simp only [isControl, Bool.or_eq_true, decide_eq_true_eq, not_or] at hcontrol
      simp [isPlain, hcontrol.2, Nat.le_of_not_lt hcontrol.1]
    exact .inr (.inr ⟨rfl, hquote, hbackslash, .inr hplain⟩)

theorem escapedLine_escapeChar {c : Char} (hnewline : c ≠ '\n') (s : List Char) :
    escapedLine (escapeChar c ++ s) =
      (escapedLine s).map fun (cs, rest) => (c :: cs, rest) := by
  rcases escapeChar_cases c with ⟨e, heq, he, hu, hU, -⟩ | ⟨hc, heq⟩ | ⟨heq, hquote, hbackslash, hplain⟩
  · rw [heq]
    simp [escapedLine, he, hu, hU]
  · obtain ⟨a, b, d, e, hdigits, hvalue⟩ := exists_upperHex hc
    rw [heq, hdigits]
    simp [escapedLine, hvalue, Text.charOfNat?_toNat]
  · rw [heq]
    simp [escapedLine, hquote, hbackslash, hplain.resolve_left hnewline]

theorem escapedLine_flatMap {s : List Char} (h : '\n' ∉ s) (rest : List Char) :
    escapedLine (s.flatMap escapeChar ++ '"' :: rest) = some (s, rest) := by
  induction s with
  | nil => simp [escapedLine]
  | cons c s ih =>
    rw [List.mem_cons, not_or] at h
    rw [List.flatMap_cons, List.append_assoc, escapedLine_escapeChar (Ne.symm h.1), ih h.2]
    rfl

theorem escapedLines_escapeChar (c : Char) (s : List Char) :
    escapedLines .inside (escapeChar c ++ s) =
      (escapedLines .inside s).map fun (cs, rest) => (c :: cs, rest) := by
  rcases escapeChar_cases c with ⟨e, heq, he, hu, hU, hn, hb⟩ | ⟨hc, heq⟩ |
    ⟨heq, hquote, hbackslash, hplain⟩
  · rw [heq]
    simp [escapedLines, he, hu, hU, hn, hb]
  · obtain ⟨a, b, d, e, hdigits, hvalue⟩ := exists_upperHex hc
    rw [heq, hdigits]
    simp [escapedLines, hvalue, Text.charOfNat?_toNat]
  · rw [heq]
    simp [escapedLines, hquote, hbackslash, hplain]

theorem escapedLines_flatMap (s rest : List Char) :
    escapedLines .inside (s.flatMap escapeChar ++ (tripled '"' ++ '\n' :: rest)) =
      some (s, '\n' :: rest) := by
  induction s with
  | nil =>
    have hextra := extraQuotes_newline '"' (by decide) rest
    simp [tripled, escapedLines, hextra]
  | cons c s ih =>
    rw [List.flatMap_cons, List.append_assoc, escapedLines_escapeChar, ih]
    rfl

/-! ## All four ways -/

theorem isPlain_of_isLiteral {s : List Char} (h : isLiteral s = true) :
    ∀ c ∈ s, c = '\n' ∨ isPlain c = true := by
  intro c hc
  simp only [isLiteral, Bool.and_eq_true, List.all_eq_true, Bool.or_eq_true, decide_eq_true_eq] at h
  rcases h.1.1 c hc with (hcontrol | rfl) | rfl
  · simp only [isControl, Bool.not_eq_true', Bool.or_eq_false_iff, decide_eq_false_iff_not] at hcontrol
    right
    simp [isPlain, hcontrol.2, Nat.le_of_not_lt hcontrol.1]
  · exact .inr (by decide)
  · exact .inl rfl

theorem head_escapeChar_ne {c d : Char} {more : List Char} (h : escapeChar c = d :: more) : d ≠ '"' := by
  rcases escapeChar_cases c with ⟨e, heq, -⟩ | ⟨-, heq⟩ | ⟨heq, hquote, -⟩
  all_goals
    rw [heq] at h
    cases h
  · decide
  · decide
  · exact hquote

theorem dropNewline_of_not_mem {s : List Char} (h : '\n' ∉ s) (c : Char) (hc : c ≠ '\n')
    (rest : List Char) : dropNewline (s ++ c :: rest) = s ++ c :: rest := by
  cases s with
  | nil => simp [dropNewline, hc]
  | cons d s =>
    have hd : d ≠ '\n' := fun hd => h (by rw [hd]; exact List.mem_cons_self)
    simp [dropNewline, hd]

theorem readQuoted_single {s : List Char} (hquote : '\'' ∉ s) (hplain : ∀ c ∈ s, isPlain c = true)
    (rest : List Char) :
    readQuoted ('\'' :: (s ++ '\'' :: '\n' :: rest)) = some (.text s false, '\n' :: rest) := by
  have hline : literalLine (s ++ '\'' :: '\n' :: rest) = some (s, '\n' :: rest) :=
    literalLine_append (fun c hc => ⟨fun heq => hquote (heq ▸ hc), hplain c hc⟩) _
  cases s with
  | nil => simp [readQuoted, literalLine]
  | cons c s =>
    have hc : c ≠ '\'' := fun hc => hquote (by rw [hc]; exact List.mem_cons_self)
    rw [List.cons_append] at hline ⊢
    simp [readQuoted, hc, hline]

theorem readQuoted_double {s : List Char} (hne : s ≠ []) (hnewline : '\n' ∉ s) (rest : List Char) :
    readQuoted ('"' :: (s.flatMap escapeChar ++ '"' :: '\n' :: rest)) =
      some (.text s false, '\n' :: rest) := by
  have hline := escapedLine_flatMap hnewline ('\n' :: rest)
  obtain ⟨c, s, rfl⟩ := List.exists_cons_of_ne_nil hne
  obtain ⟨d, more, hd⟩ : ∃ d more, escapeChar c = d :: more := by
    rcases escapeChar_cases c with ⟨e, heq, -⟩ | ⟨-, heq⟩ | ⟨heq, -⟩ <;> exact ⟨_, _, heq⟩
  have hquote : d ≠ '"' := head_escapeChar_ne hd
  rw [List.flatMap_cons, hd, List.cons_append, List.cons_append] at hline ⊢
  simpa [readQuoted, hquote] using hline

theorem readQuoted_quoted (s : List Char) : ∃ multiline, ∀ rest,
    readQuoted (quoted s ++ '\n' :: rest) = some (.text s multiline, '\n' :: rest) := by
  unfold quoted
  by_cases hliteral : isLiteral s = true
  · rw [if_pos hliteral]
    have hplain := isPlain_of_isLiteral hliteral
    obtain ⟨htriple, hlast⟩ : hasTripleQuote s = false ∧ s.getLast? ≠ some '\'' := by
      simp only [isLiteral, Bool.and_eq_true, Bool.not_eq_true', decide_eq_true_eq] at hliteral
      exact ⟨hliteral.1.2, hliteral.2⟩
    have hlines := literalLines_append hplain htriple hlast
    by_cases hnewline : s.contains '\n' = true
    · rw [if_pos hnewline]
      refine ⟨true, fun rest => ?_⟩
      simpa [tripled, readQuoted, dropNewline] using hlines rest
    · rw [if_neg hnewline]
      have hmem : '\n' ∉ s := by simpa using hnewline
      by_cases hquote : s.contains '\'' = true
      · rw [if_pos hquote]
        refine ⟨true, fun rest => ?_⟩
        have hdrop := dropNewline_of_not_mem hmem '\'' (by decide) ('\'' :: '\'' :: '\n' :: rest)
        simpa [tripled, readQuoted, hdrop] using hlines rest
      · rw [if_neg hquote]
        refine ⟨false, fun rest => ?_⟩
        have hsingle := readQuoted_single (s := s) (by simpa using hquote)
          (fun c hc => (hplain c hc).resolve_left fun heq => hmem (heq ▸ hc)) rest
        simpa using hsingle
  · rw [if_neg hliteral]
    by_cases hnewline : s.contains '\n' = true
    · rw [if_pos hnewline]
      refine ⟨true, fun rest => ?_⟩
      have hlines := escapedLines_flatMap s rest
      simpa [tripled, readQuoted, dropNewline] using hlines
    · rw [if_neg hnewline]
      refine ⟨false, fun rest => ?_⟩
      have hne : s ≠ [] := fun hnil => hliteral (by rw [hnil]; rfl)
      have hdouble := readQuoted_double hne (by simpa using hnewline) rest
      simpa using hdouble

theorem return_not_mem_escapeChar (c : Char) : '\r' ∉ escapeChar c := by
  rcases escapeChar_cases c with ⟨e, heq, he, -⟩ | ⟨-, heq⟩ | ⟨heq, -, -, hplain⟩
  all_goals rw [heq]
  · have hne : e ≠ '\r' := fun hr => by
      rw [hr] at he
      cases he
    simp [hne.symm]
  · intro hmem
    simp only [List.mem_cons, Char.reduceEq, false_or] at hmem
    obtain ⟨d, hd, heq⟩ := Text.exists_of_mem_upperHex hmem
    have hne : ∀ d < 16, '\r' ≠ Text.upperHexDigit d := by decide
    exact hne d hd heq
  · intro hmem
    rw [← List.mem_singleton.mp hmem] at hplain
    exact absurd hplain (by decide)

theorem return_not_mem_quoted (s : List Char) : '\r' ∉ quoted s := by
  have hescaped : '\r' ∉ s.flatMap escapeChar := fun hmem => by
    obtain ⟨c, -, hc⟩ := List.mem_flatMap.mp hmem
    exact return_not_mem_escapeChar c hc
  unfold quoted
  by_cases hliteral : isLiteral s = true
  · have hs : '\r' ∉ s := fun hmem => by
      have hplain := isPlain_of_isLiteral hliteral _ hmem
      exact absurd hplain (by decide)
    rw [if_pos hliteral]
    split
    · simp [tripled, hs]
    split
    · simp [tripled, hs]
    · simp [hs]
  · rw [if_neg hliteral]
    split
    · simp [tripled, hescaped]
    · simp [hescaped]

end UsageWatch.Toml
