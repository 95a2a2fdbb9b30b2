import UsageWatch.Config.Toml
import UsageWatch.Proofs.Numeral
import UsageWatch.Proofs.Settings
import UsageWatch.Proofs.TextRuns
import UsageWatch.Proofs.TomlText
/-!
# Settings in TOML

What is written of a configuration reads back, unless it has a number in the upper half of
the unsigned range (`Setting.FitsToml`): such a number is written like every other one, but
its line is not read.
-/

namespace UsageWatch

def Setting.toToml : Setting → Toml
  | .number n => .integer n
  | .flag b => .boolean b
  | .text s => .text s
  | .numbers entries => .table false (entries.map fun (k, n) => (k, .integer n))

def Setting.FitsToml : Setting → Prop
  | .number n => n < 0x8000000000000000
  | .numbers entries => ∀ entry ∈ entries, entry.2 < 0x8000000000000000
  | _ => True

instance : DecidablePred Setting.FitsToml
  | .number n => inferInstanceAs (Decidable (n < 0x8000000000000000))
  | .numbers entries => inferInstanceAs (Decidable (∀ entry ∈ entries, entry.2 < 0x8000000000000000))
  | .flag _ => inferInstanceAs (Decidable True)
  | .text _ => inferInstanceAs (Decidable True)

namespace Toml

/-! ## Tokens -/

/-- What the characters of `text` are read as, whatever stands behind them. Every token
takes a character, so as much fuel as there are characters is enough. -/
def Lexes (text : List Char) (tokens : Tokens) : Prop :=
  ∀ (rest : List Char) (fuel : Nat), (text ++ rest).length ≤ fuel →
    ∃ fuel', rest.length ≤ fuel' ∧
      readTokens fuel (text ++ rest) = (readTokens fuel' rest).map (tokens ++ ·)

theorem lexes_nil : Lexes [] [] := by
  intro rest fuel hfuel
  exact ⟨fuel, hfuel, by simp⟩

theorem Lexes.append {text text' : List Char} {tokens tokens' : Tokens} (h : Lexes text tokens)
    (h' : Lexes text' tokens') : Lexes (text ++ text') (tokens ++ tokens') := by
  intro rest fuel hfuel
  rw [List.append_assoc] at hfuel ⊢
  obtain ⟨fuel₁, hfuel₁, heq⟩ := h (text' ++ rest) fuel hfuel
  obtain ⟨fuel₂, hfuel₂, heq'⟩ := h' rest fuel₁ hfuel₁
  refine ⟨fuel₂, hfuel₂, ?_⟩
  rw [heq, heq', Option.map_map]
  congr 1
  funext ts
  simp

def IsWord (w : List Char) : Prop := w ≠ [] ∧ ∀ c ∈ w, isWordChar c = true

theorem isWord_of_isName {w : List Char} (h : IsName w) : IsWord w := by
  refine ⟨h.ne_nil, fun c hc => ?_⟩
  rcases h.letters c hc with hbounds | rfl
  · simp [isWordChar, hbounds]
  · decide

theorem punctuation?_eq_none {c : Char} (h : isWordChar c = true) : punctuation? c = none := by
  unfold punctuation?
  split
  all_goals first | rfl | exact absurd h (by decide)

theorem isBlank_eq_false {c : Char} (h : isWordChar c = true) : isBlank c = false := by
  have hspace : c ≠ ' ' := Text.ne_of_kind h (by decide)
  have htab : c ≠ '\t' := Text.ne_of_kind h (by decide)
  simp [isBlank, hspace, htab]

theorem readTokens_word {w : List Char} (h : IsWord w) {c : Char} (hc : isWordChar c = false)
    (fuel : Nat) (rest : List Char) :
    readTokens (fuel + 1) (w ++ c :: rest) = (readTokens fuel (c :: rest)).map (.word w :: ·) := by
  obtain ⟨d, w, rfl⟩ := List.exists_cons_of_ne_nil h.1
  have hd := h.2 d List.mem_cons_self
  have hw : ∀ c ∈ w, isWordChar c = true := fun c hc => h.2 c (List.mem_cons_of_mem _ hc)
  have hend : ∀ d, (c :: rest).head? = some d → isWordChar d = false := fun d hd => by
    cases hd
    exact hc
  simp only [List.cons_append, readTokens, punctuation?_eq_none hd, isBlank_eq_false hd, hd,
    Text.takeWhile_exact hw hend, Text.dropWhile_exact hw hend, Bool.false_eq_true, if_false, if_true]

theorem readTokens_blank {c : Char} (hc : isBlank c = false) (fuel : Nat) (rest : List Char) :
    readTokens (fuel + 1) (' ' :: c :: rest) =
      (readTokens fuel (c :: rest)).map (.blank true :: ·) := by
  have hspace : isBlank ' ' = true := rfl
  simp [readTokens, punctuation?, hspace, hc]

theorem readTokens_punctuation {c : Char} {t : Token} (h : punctuation? c = some t) (fuel : Nat)
    (rest : List Char) : readTokens (fuel + 1) (c :: rest) = (readTokens fuel rest).map (t :: ·) := by
  simp [readTokens, h]

theorem exists_quoted_cons (s : List Char) : ∃ c more, quoted s = c :: more ∧
    (c = '\'' ∨ c = '"') := by
  unfold quoted
  split
  · split
    · exact ⟨_, _, rfl, .inl rfl⟩
    split
    · exact ⟨_, _, rfl, .inl rfl⟩
    · exact ⟨_, _, rfl, .inl rfl⟩
  · split
    · exact ⟨_, _, rfl, .inr rfl⟩
    · exact ⟨_, _, rfl, .inr rfl⟩

theorem readTokens_quoted (s : List Char) : ∃ multiline, ∀ (fuel : Nat) (rest : List Char),
    readTokens (fuel + 1) (quoted s ++ '\n' :: rest) =
      (readTokens fuel ('\n' :: rest)).map (.text s multiline :: ·) := by
  obtain ⟨multiline, hread⟩ := readQuoted_quoted s
  obtain ⟨c, more, hs, hc⟩ := exists_quoted_cons s
  refine ⟨multiline, fun fuel rest => ?_⟩
  have hread := hread rest
  rw [hs, List.cons_append] at hread ⊢
  rcases hc with rfl | rfl
  · have hclass : punctuation? '\'' = none ∧ isBlank '\'' = false ∧ isWordChar '\'' = false := by decide
    simp [readTokens, hclass, hread]
  · have hclass : punctuation? '"' = none ∧ isBlank '"' = false ∧ isWordChar '"' = false := by decide
    simp [readTokens, hclass, hread]

inductive ValueToken : Setting → Token → Prop
  | number (n : Nat) : ValueToken (.number n) (.word (Nat.toDigits 10 n))
  | flag (b : Bool) : ValueToken (.flag b) (.word (if b then "true" else "false").toList)
  | text (s : String) (multiline : Bool) : ValueToken (.text s) (.text s.toList multiline)

theorem isWord_toDigits (n : Nat) : IsWord (Nat.toDigits 10 n) := by
  refine ⟨Nat.toDigits_ne_nil, fun c hc => ?_⟩
  have hdigit := Text.isDigit_iff.mp (Text.isDigit_of_mem_toDigits hc)
  simp [isWordChar, hdigit]

theorem lexes_line {key : String} (hkey : IsWord key.toList) {value : String} {t : Token}
    (hblank : ∃ c more, value.toList = c :: more ∧ isBlank c = false)
    (hvalue : ∀ (fuel : Nat) (rest : List Char), readTokens (fuel + 1) (value.toList ++ '\n' :: rest) =
      (readTokens fuel ('\n' :: rest)).map (t :: ·)) :
    Lexes (entryLine key value).toList
      [.word key.toList, .blank true, .equals, .blank true, t, .newline] := by
  intro rest fuel hfuel
  obtain ⟨c, more, hvalueText, hc⟩ := hblank
  have hline : (entryLine key value).toList ++ rest =
      key.toList ++ ' ' :: '=' :: ' ' :: (value.toList ++ '\n' :: rest) := by
    simp [entryLine]
  have hlength : 1 ≤ key.toList.length := List.length_pos_of_ne_nil hkey.1
  rw [hline] at hfuel ⊢
  rw [hvalueText] at hvalue hfuel ⊢
  simp only [List.length_append, List.length_cons] at hfuel
  obtain ⟨fuel, rfl⟩ : ∃ fuel', fuel = fuel' + 6 := ⟨fuel - 6, by omega⟩
  refine ⟨fuel, by omega, ?_⟩
  rw [readTokens_word hkey (by decide), readTokens_blank (by decide),
    readTokens_punctuation (t := .equals) rfl, List.cons_append, readTokens_blank hc,
    ← List.cons_append, hvalue, readTokens_punctuation (t := .newline) rfl]
  simp [Option.map_map, Function.comp_def]

/-! ## Values -/

theorem digit?_eq {c : Char} (h : c.isDigit = true) : digit? 10 c = some (c.toNat - 48) := by
  have hbounds := Text.digit_bounds h
  have hsmall : c.toNat - 48 < 10 := by omega
  simp [digit?, Text.hexDigit?, Text.isDigit_iff.mp h, hsmall]

theorem wellSpaced_digits {ds : List Char} (hne : ds ≠ []) (h : ∀ c ∈ ds, c.isDigit = true) :
    wellSpaced ds = true := by
  have hunderscore : ∀ c ∈ ds, c ≠ '_' := fun c hc => Text.ne_of_kind (h c hc) (by decide)
  induction ds with
  | nil => exact absurd rfl hne
  | cons c ds ih =>
    cases ds with
    | nil => simp [wellSpaced, hunderscore]
    | cons d ds =>
      rw [List.forall_mem_cons] at h hunderscore
      have hd := hunderscore.2 d List.mem_cons_self
      simp [wellSpaced, hunderscore.1, hd, ih (by simp) h.2 hunderscore.2]

theorem readDigits_toDigits (n : Nat) :
    readDigits 10 false (Nat.toDigits 10 n) = some ((Nat.toDigits 10 n).map fun c => c.toNat - 48, []) := by
  have hdigits : ∀ c ∈ Nat.toDigits 10 n, c.isDigit = true := fun c hc =>
    Text.isDigit_of_mem_toDigits hc
  have hpart : ∀ c ∈ Nat.toDigits 10 n, (decide (c = '_') || (digit? 10 c).isSome) = true := by
    intro c hc
    simp [digit?_eq (hdigits c hc)]
  have hend : ∀ c, ([] : List Char).head? = some c →
      (decide (c = '_') || (digit? 10 c).isSome) = false := fun c hc => nomatch hc
  have hrun := Text.takeWhile_exact hpart hend
  have hrest := Text.dropWhile_exact hpart hend
  rw [List.append_nil] at hrun hrest
  have hzero : ¬ ((Nat.toDigits 10 n).head? = some '0' ∧ 1 < (Nat.toDigits 10 n).length) := by
    rintro ⟨hhead, hlength⟩
    obtain ⟨ds, hds⟩ := List.head?_eq_some_iff.mp hhead
    rw [hds, Text.toDigits_zero_cons hds] at hlength
    exact absurd hlength (by decide)
  have hvalues : (Nat.toDigits 10 n).filterMap (digit? 10) =
      (Nat.toDigits 10 n).map fun c => c.toNat - 48 := by
    rw [← List.filterMap_eq_map]
    exact List.filterMap_congr fun c hc => digit?_eq (hdigits c hc)
  unfold readDigits
  dsimp only
  rw [hrun, hrest, wellSpaced_digits Nat.toDigits_ne_nil hdigits, hvalues]
  simpa using hzero

theorem decimalInteger?_eq {w : List Char} {ds : List Nat} (hminus : readMinus w = (false, w))
    (hdigits : readDigits 10 false w = some (ds, [])) : decimalInteger? w =
      if inRange (digitsValue 10 ds : Int) then some (.integer (digitsValue 10 ds)) else none := by
  have hread : decimalInteger? w = (readDigits 10 false w).bind fun digits =>
      if digits.2.isEmpty && inRange (signed false (digitsValue 10 digits.1)) then
        some (.integer (signed false (digitsValue 10 digits.1)))
      else none := by
    unfold decimalInteger?
    rw [hminus]
    rfl
  rw [hread, hdigits, Option.bind_some]
  simp only [List.isEmpty_nil, Bool.true_and, signed, Bool.false_eq_true, if_false]

theorem inRange_iff (n : Nat) : inRange (n : Int) = true ↔ n < 0x8000000000000000 := by
  simp only [inRange, Bool.and_eq_true, decide_eq_true_eq]
  omega

theorem decimalInteger?_toDigits (n : Nat) : decimalInteger? (Nat.toDigits 10 n) =
    if n < 0x8000000000000000 then some (.integer n) else none := by
  obtain ⟨d, ds, hds, hd⟩ := Text.exists_toDigits_cons n
  have hminus : readMinus (Nat.toDigits 10 n) = (false, Nat.toDigits 10 n) := by
    have hne : d ≠ '-' := Text.ne_of_kind hd (by decide)
    rw [hds]
    simp [readMinus, hne]
  have hvalue : digitsValue 10 ((Nat.toDigits 10 n).map fun c => c.toNat - 48) = n := by
    rw [digitsValue, List.foldl_map, Text.foldl_digits, Nat.ofDigitChars_ten_toDigits]
  rw [decimalInteger?_eq hminus (readDigits_toDigits n), hvalue]
  by_cases hn : n < 0x8000000000000000
  · rw [if_pos ((inRange_iff n).mpr hn), if_pos hn]
  · rw [if_neg ((inRange_iff n).not.mpr hn), if_neg hn]

theorem readWord_toDigits (n : Nat) (ts : Tokens) : readWord (Nat.toDigits 10 n) (.newline :: ts) =
    if n < 0x8000000000000000 then some (.integer n, .newline :: ts) else none := by
  obtain ⟨d, ds, hds, hd⟩ := Text.exists_toDigits_cons n
  have hnot : ∀ c : Char, c.isDigit = false → c ∉ d :: ds := fun c hc hmem => by
    rw [← hds] at hmem
    rw [Text.isDigit_of_mem_toDigits hmem] at hc
    cases hc
  have hne : ∀ c : Char, c.isDigit = false → d ≠ c := fun c hc heq =>
    hnot c hc (heq ▸ List.mem_cons_self)
  have hdate : looksLikeDate (d :: ds) = false := by
    have hminus : '-' ∉ ds := fun hmem => hnot '-' (by decide) (List.mem_cons_of_mem _ hmem)
    simp [looksLikeDate, hnot 'T' (by decide), hnot 't' (by decide), hminus]
  have hnumber : readNumber (d :: ds) (.newline :: ts) =
      (decimalInteger? (d :: ds)).map (·, .newline :: ts) := by
    have hsecond : ∀ c more, c.isDigit = false → ds ≠ c :: more := fun c more hc heq => by
      rw [heq] at hnot
      exact hnot c hc (by simp)
    have hunsigned : (readMinus (d :: ds)).2 = d :: ds := by
      simp [readMinus, hne '-' (by decide)]
    unfold readNumber
    split
    · next heq => exact absurd (List.cons.inj heq).2 (hsecond 'x' _ (by decide))
    · next heq => exact absurd (List.cons.inj heq).2 (hsecond 'o' _ (by decide))
    · next heq => exact absurd (List.cons.inj heq).2 (hsecond 'b' _ (by decide))
    · simp [hnot 'e' (by decide), hnot 'E' (by decide), hunsigned, hne 'i' (by decide),
        hne 'n' (by decide)]
  have hdecimal := decimalInteger?_toDigits n
  have hclass := Text.isDigit_iff.mp hd
  rw [hds] at hdecimal ⊢
  have htrue : d :: ds ≠ "true".toList := by simp [hne]
  have hfalse : d :: ds ≠ "false".toList := by simp [hne]
  unfold readWord
  rw [if_neg htrue, if_neg hfalse]
  simp [hclass, readNumberOrMoment, hdate, hnumber, hdecimal]

theorem readValue_token {setting : Setting} {t : Token} (h : ValueToken setting t) (fuel : Nat)
    (ts : Tokens) : readValue (fuel + 1) (t :: .newline :: ts) =
      if setting.FitsToml then some (setting.toToml, .newline :: ts) else none := by
  cases h with
  | number n =>
    rw [readValue, readWord_toDigits]
    rfl
  | flag b =>
    rw [readValue]
    unfold readWord
    cases b <;> simp [Setting.FitsToml, Setting.toToml]
  | text s multiline => simp [readValue, Setting.FitsToml, Setting.toToml]

/-! ## Lines -/

theorem readLine_entry {setting : Setting} {t : Token} (h : ValueToken setting t) (key : String)
    (ts : Tokens) :
    readLine (.word key.toList :: .blank true :: .equals :: .blank true :: t :: .newline :: ts) =
      if setting.FitsToml then some (.entry [key] setting.toToml, ts) else none := by
  have hline : readLine (.word key.toList :: .blank true :: .equals :: .blank true :: t :: .newline :: ts) =
      (readValue ((t :: .newline :: ts).length + 1) (t :: .newline :: ts)).bind fun value =>
        (expectLineEnd value.2).bind fun ts => some (Line.entry [String.ofList key.toList] value.1, ts) := rfl
  rw [hline, readValue_token h, String.ofList_toList]
  split <;> rfl

theorem readLine_header (key : String) (ts : Tokens) :
    readLine (.openBracket :: .word key.toList :: .closeBracket :: .newline :: ts) =
      some (.header [key] false, ts) := by
  have hline : readLine (.openBracket :: .word key.toList :: .closeBracket :: .newline :: ts) =
      some (Line.header [String.ofList key.toList] false, ts) := rfl
  rw [hline, String.ofList_toList]

/-- What the lines of `text` say, whatever stands behind them; none if one cannot be read. -/
def Says (text : List Char) (lines : Option (List Line)) : Prop :=
  ∃ tokens, Lexes text tokens ∧ ∀ (ts : Tokens) (fuel : Nat), (tokens ++ ts).length < fuel →
    ∃ fuel', ts.length < fuel' ∧
      readLines fuel (tokens ++ ts) = lines.bind fun lines => (readLines fuel' ts).map (lines ++ ·)

theorem says_nil : Says [] (some []) := by
  refine ⟨[], lexes_nil, fun ts fuel hfuel => ⟨fuel, hfuel, ?_⟩⟩
  simp

theorem Says.append {text text' : List Char} {lines lines' : Option (List Line)} (h : Says text lines)
    (h' : Says text' lines') :
    Says (text ++ text') (lines.bind fun before => lines'.map (before ++ ·)) := by
  obtain ⟨tokens, htokens, hlines⟩ := h
  obtain ⟨tokens', htokens', hlines'⟩ := h'
  refine ⟨tokens ++ tokens', htokens.append htokens', fun ts fuel hfuel => ?_⟩
  rw [List.append_assoc] at hfuel ⊢
  obtain ⟨fuel₁, hfuel₁, heq⟩ := hlines (tokens' ++ ts) fuel hfuel
  obtain ⟨fuel₂, hfuel₂, heq'⟩ := hlines' ts fuel₁ hfuel₁
  refine ⟨fuel₂, hfuel₂, ?_⟩
  rw [heq, heq']
  cases lines <;> cases lines' <;> simp [Option.map_map, Function.comp_def]

/-- One line that is read by itself. -/
theorem Says.of_line {text : List Char} {t : Token} {more : Tokens} (line : Option Line)
    (hlexes : Lexes text (t :: more)) (hskip : ∀ ts, ∃ s rest, skipLines (t :: more ++ ts) = s :: rest ∧
      readLine (s :: rest) = line.map (·, ts)) :
    Says text (line.map ([·])) := by
  refine ⟨t :: more, hlexes, fun ts fuel hfuel => ?_⟩
  obtain ⟨fuel, rfl⟩ := Nat.exists_eq_add_one_of_ne_zero (Nat.ne_zero_of_lt hfuel)
  refine ⟨fuel, ?_, ?_⟩
  · simp only [List.cons_append, List.length_cons, List.length_append] at hfuel
    omega
  · obtain ⟨s, rest, hrest, hline⟩ := hskip ts
    rw [readLines, hrest]
    dsimp only
    rw [hline]
    cases line <;> simp

theorem exists_lexes_settingLine {key : String} (hkey : IsWord key.toList) {setting : Setting}
    (hsingle : setting.IsSingle) : ∃ t, ValueToken setting t ∧
      Lexes (settingLine key setting).toList
        [.word key.toList, .blank true, .equals, .blank true, t, .newline] := by
  have hword : ∀ {value : String}, IsWord value.toList →
      Lexes (entryLine key value).toList
        [.word key.toList, .blank true, .equals, .blank true, .word value.toList, .newline] := by
    intro value hvalue
    obtain ⟨c, more, hcons⟩ := List.exists_cons_of_ne_nil hvalue.1
    have hc : isWordChar c = true := hvalue.2 c (hcons ▸ List.mem_cons_self)
    refine lexes_line hkey ⟨c, more, hcons, isBlank_eq_false hc⟩ fun fuel rest => ?_
    exact readTokens_word hvalue (by decide) fuel rest
  cases setting with
  | number n =>
    refine ⟨_, .number n, ?_⟩
    have hdigits : (toString n).toList = Nat.toDigits 10 n := by
      rw [Nat.toString_eq_repr, Nat.toList_repr]
    rw [← hdigits]
    exact hword (hdigits ▸ isWord_toDigits n)
  | flag b =>
    refine ⟨_, .flag b, hword ?_⟩
    cases b <;> simp [IsWord] <;> decide
  | text s =>
    obtain ⟨multiline, hquoted⟩ := readTokens_quoted s.toList
    obtain ⟨c, more, hcons, hc⟩ := exists_quoted_cons s.toList
    refine ⟨_, .text s multiline, lexes_line hkey ⟨c, more, ?_, ?_⟩ fun fuel rest => ?_⟩
    · rw [String.toList_ofList, hcons]
    · rcases hc with rfl | rfl <;> decide
    · rw [String.toList_ofList]
      exact hquoted fuel rest
  | numbers entries => exact absurd rfl (hsingle entries)

theorem says_settingLine {key : String} (hkey : IsWord key.toList) {setting : Setting}
    (hsingle : setting.IsSingle) : Says (settingLine key setting).toList
      (if setting.FitsToml then some [.entry [key] setting.toToml] else none) := by
  obtain ⟨t, ht, hlexes⟩ := exists_lexes_settingLine hkey hsingle
  have hline : Says (settingLine key setting).toList
      ((if setting.FitsToml then some (.entry [key] setting.toToml) else none : Option Line).map ([·])) := by
    refine .of_line _ hlexes fun ts => ⟨.word key.toList, _, rfl, ?_⟩
    refine (readLine_entry ht key ts).trans ?_
    split <;> rfl
  rw [apply_ite (Option.map ([·]))] at hline
  exact hline

theorem says_header {key : String} (hkey : IsWord key.toList) :
    Says ('\n' :: '[' :: (key.toList ++ [']', '\n'])) (some [.header [key] false]) := by
  have hlexes : Lexes ('\n' :: '[' :: (key.toList ++ [']', '\n']))
      [.newline, .openBracket, .word key.toList, .closeBracket, .newline] := by
    intro rest fuel hfuel
    have htext : '\n' :: '[' :: (key.toList ++ [']', '\n']) ++ rest =
        '\n' :: '[' :: (key.toList ++ ']' :: '\n' :: rest) := by
      simp
    have hlength : 1 ≤ key.toList.length := List.length_pos_of_ne_nil hkey.1
    rw [htext] at hfuel ⊢
    simp only [List.length_append, List.length_cons] at hfuel
    obtain ⟨fuel, rfl⟩ : ∃ fuel', fuel = fuel' + 5 := ⟨fuel - 5, by omega⟩
    refine ⟨fuel, by omega, ?_⟩
    rw [readTokens_punctuation (t := .newline) rfl, readTokens_punctuation (t := .openBracket) rfl,
      readTokens_word hkey (by decide), readTokens_punctuation (t := .closeBracket) rfl,
      readTokens_punctuation (t := .newline) rfl]
    simp [Option.map_map, Function.comp_def]
  exact Says.of_line (some (.header [key] false)) hlexes fun ts =>
    ⟨.openBracket, _, rfl, readLine_header key ts⟩

theorem says_settings {settings : List (String × Setting)}
    (hkeys : ∀ s ∈ settings, IsWord s.1.toList) (hsingle : ∀ s ∈ settings, s.2.IsSingle) :
    Says (settings.flatMap fun (key, setting) => (settingLine key setting).toList)
      (if ∀ s ∈ settings, s.2.FitsToml then
        some (settings.map fun (key, setting) => Line.entry [key] setting.toToml)
      else none) := by
  induction settings with
  | nil => simpa using says_nil
  | cons s settings ih =>
    rw [List.forall_mem_cons] at hkeys hsingle
    have hline := (says_settingLine hkeys.1 hsingle.1).append (ih hkeys.2 hsingle.2)
    rw [List.flatMap_cons, List.map_cons]
    convert hline using 1
    simp only [List.forall_mem_cons]
    by_cases hs : s.2.FitsToml
    · by_cases hsettings : ∀ s ∈ settings, s.2.FitsToml
      · rw [if_pos ⟨hs, hsettings⟩, if_pos hs, if_pos hsettings]
        rfl
      · rw [if_neg fun h => hsettings h.2, if_pos hs, if_neg hsettings]
        rfl
    · rw [if_neg fun h => hs h.1, if_neg hs]
      rfl

/-! ## Sections -/

theorem ofLines?_entries (path : List String) (repeated : Bool) (entries : List (String × Toml))
    (settings : List (String × Setting)) (lines : List Line) :
    Section.ofLines? ⟨path, repeated, entries⟩
        ((settings.map fun (key, setting) => Line.entry [key] setting.toToml) ++ lines) =
      Section.ofLines?
        ⟨path, repeated, entries ++ settings.map fun (key, setting) => (key, setting.toToml)⟩ lines := by
  induction settings generalizing entries with
  | nil => simp
  | cons s settings ih =>
    have hinsert : insert? s.2.toToml [s.1] entries = some (entries ++ [(s.1, s.2.toToml)]) := rfl
    simp [Section.ofLines?, hinsert, ih]

theorem assemble?_section (top inner : List (String × Toml)) (key : String) :
    assemble? [⟨[], false, top⟩, ⟨[key], false, inner⟩] =
      some (top ++ [(key, table false inner)]) := by
  simp [assemble?, Section.tail, Section.inside, Section.outside]

theorem foldLineEnds_of_not_mem {s : List Char} (h : '\r' ∉ s) : foldLineEnds s = s := by
  induction s with
  | nil => rfl
  | cons c s ih =>
    rw [List.mem_cons, not_or] at h
    unfold foldLineEnds
    split
    · next heq => cases heq
    · next heq => exact absurd (List.cons.inj heq).1.symm h.1
    · next heq =>
      cases heq
      rw [ih h.2]

theorem Lexes.tokens? {text : List Char} {tokens : Tokens} (h : Lexes text tokens)
    (hreturn : '\r' ∉ text) (hmark : text.head? ≠ some '\ufeff') : Toml.tokens? text = some tokens := by
  obtain ⟨fuel, -, hread⟩ := h [] text.length (by simp)
  have hend : readTokens fuel [] = some [] := by cases fuel <;> rfl
  rw [List.append_nil, hend] at hread
  unfold Toml.tokens?
  split
  · next heq => simp at hmark
  · next => simp [foldLineEnds_of_not_mem hreturn, hread]

theorem Says.parse? {text : String} {lines : Option (List Line)} (h : Says text.toList lines)
    (hreturn : '\r' ∉ text.toList) (hmark : text.toList.head? ≠ some '\ufeff') :
    Toml.parse? text = lines.bind fun lines => (Section.ofLines? ⟨[], false, []⟩ lines).bind assemble? := by
  obtain ⟨tokens, hlexes, hlines⟩ := h
  obtain ⟨fuel, hfuel, hread⟩ := hlines [] (tokens.length + 1) (by simp)
  obtain ⟨fuel, rfl⟩ := Nat.exists_eq_add_one_of_ne_zero (Nat.ne_zero_of_lt hfuel)
  have hend : readLines (fuel + 1) [] = some [] := rfl
  rw [List.append_nil, hend] at hread
  rw [Toml.parse?, hlexes.tokens? hreturn hmark]
  simp only [Option.bind_eq_bind, Option.bind_some, hread]
  cases lines <;> simp

/-! ## Configurations -/

theorem settingReader_readsBack : settingReader.ReadsBack Setting.toToml where
  counter n := by
    have hword : (integer n.toNat).word? 64 = some n.toNat := by
      simpa [word?] using n.toNat_lt
    change ((integer n.toNat).word? 64).map UInt64.ofNat = some n
    rw [hword, Option.map_some, UInt64.ofNat_toNat]
  port n := by
    have hword : (integer n.toNat).word? 16 = some n.toNat := by
      simpa [word?] using n.toNat_lt
    change ((integer n.toNat).word? 16).map UInt16.ofNat = some n
    rw [hword, Option.map_some, UInt16.ofNat_toNat]
  flag b := rfl
  text s := rfl
  entries entries := by
    simp [settingReader, Setting.toToml, entries?]

end Toml

namespace Config

def FitsToml (c : Config) : Prop := ∀ s ∈ c.settings, s.2.FitsToml

instance (c : Config) : Decidable c.FitsToml :=
  inferInstanceAs (Decidable (∀ s ∈ c.settings, s.2.FitsToml))

open Toml (Says settingLine IsWord)

theorem toList_renderToml (c : Config) : c.renderToml.toList =
    (c.singleSettings.flatMap fun (key, setting) => (settingLine key setting).toList) ++
      ('\n' :: '[' :: ("collection_intervals".toList ++ [']', '\n']) ++
        c.intervalSettings.flatMap fun (key, setting) => (settingLine key setting).toList) := by
  have hgroups : String.join (c.singleSettings.map fun (k, s) => Toml.groupLines k s) = "" := rfl
  have hgroup : (Toml.groupLines "collection_intervals" (.numbers c.intervals.settings)).toList =
      '\n' :: '[' :: ("collection_intervals".toList ++ [']', '\n']) ++
        c.intervalSettings.flatMap fun (key, setting) => (settingLine key setting).toList := by
    simp only [Toml.groupLines, String.toList_append, String.toList_join, intervalSettings,
      List.flatMap_map, settingLine]
    simp
  rw [renderToml, settings_eq, List.map_append, List.map_append, String.join_append,
    String.join_append, hgroups, String.toList_append, String.toList_append, String.toList_append,
    String.toList_join, String.toList_join, String.toList_join, List.flatMap_map]
  simp only [List.map_cons, List.map_nil, List.flatMap_cons, List.flatMap_nil, hgroup]
  simp [settingLine]

theorem fitsToml_iff (c : Config) : c.FitsToml ↔
    (∀ s ∈ c.singleSettings, s.2.FitsToml) ∧ ∀ s ∈ c.intervalSettings, s.2.FitsToml := by
  have hintervals : (Setting.numbers c.intervals.settings).FitsToml ↔
      ∀ s ∈ c.intervalSettings, s.2.FitsToml := by
    rw [intervalSettings, List.forall_mem_map]
    rfl
  rw [FitsToml, settings_eq, List.forall_mem_append, List.forall_mem_singleton, hintervals]

theorem return_not_mem_settingLine {key : String} (hkey : IsWord key.toList) (setting : Setting) :
    '\r' ∉ (settingLine key setting).toList := by
  have hkey : '\r' ∉ key.toList := fun hmem => absurd (hkey.2 _ hmem) (by decide)
  cases setting with
  | number n =>
    have hdigits : '\r' ∉ Nat.toDigits 10 n := fun hmem =>
      absurd (Text.isDigit_of_mem_toDigits hmem) (by decide)
    simp [settingLine, Toml.entryLine, hkey, Nat.toString_eq_repr, Nat.toList_repr, hdigits]
  | flag b => cases b <;> simp [settingLine, Toml.entryLine, hkey]
  | text s => simp [settingLine, Toml.entryLine, hkey, Toml.return_not_mem_quoted]
  | numbers entries => simp [settingLine]

theorem return_not_mem_renderToml (c : Config) : '\r' ∉ c.renderToml.toList := by
  have hsingle := fun s hs => Toml.isWord_of_isName (c.isName_singleSettings s hs)
  have hintervals := fun s hs => Toml.isWord_of_isName (c.isName_intervalSettings s hs)
  rw [toList_renderToml]
  intro hmem
  rcases List.mem_append.mp hmem with hmem | hmem
  · obtain ⟨s, hs, hmem⟩ := List.mem_flatMap.mp hmem
    exact return_not_mem_settingLine (hsingle s hs) s.2 hmem
  rcases List.mem_append.mp hmem with hmem | hmem
  · simp at hmem
  · obtain ⟨s, hs, hmem⟩ := List.mem_flatMap.mp hmem
    exact return_not_mem_settingLine (hintervals s hs) s.2 hmem

/-- A configuration is read from its text unless one of its numbers does not fit. -/
theorem parseToml?_renderToml (c : Config) :
    parseToml? c.renderToml = if c.FitsToml then some c else none := by
  have hsingle := fun s hs => Toml.isWord_of_isName (c.isName_singleSettings s hs)
  have hintervals := fun s hs => Toml.isWord_of_isName (c.isName_intervalSettings s hs)
  have hgroup := Toml.isWord_of_isName isName_collectionIntervals
  have hsays := (Toml.says_settings hsingle c.isSingle_settings.1).append
    ((Toml.says_header hgroup).append (Toml.says_settings hintervals c.isSingle_settings.2))
  have hmark : c.renderToml.toList.head? ≠ some '\ufeff' := by
    have hcons : c.singleSettings = ("top_n_stats_per_category", .number c.packagesPerList.toNat) ::
        c.singleSettings.tail := rfl
    have hkey : "top_n_stats_per_category".toList = 't' :: "op_n_stats_per_category".toList := by decide
    have hline : settingLine "top_n_stats_per_category" (.number c.packagesPerList.toNat) =
        Toml.entryLine "top_n_stats_per_category" (toString c.packagesPerList.toNat) := rfl
    rw [toList_renderToml, hcons, List.flatMap_cons]
    dsimp only
    rw [hline, Toml.entryLine, String.toList_append, String.toList_append, String.toList_append, hkey]
    simp
  rw [← toList_renderToml] at hsays
  rw [parseToml?, hsays.parse? c.return_not_mem_renderToml hmark]
  by_cases hfits : c.FitsToml
  · obtain ⟨hsingle, hintervals⟩ := c.fitsToml_iff.mp hfits
    have hsections := Toml.assemble?_section
      (c.singleSettings.map fun (key, setting) => (key, setting.toToml))
      (c.intervalSettings.map fun (key, setting) => (key, setting.toToml)) "collection_intervals"
    have hintervalLines := Toml.ofLines?_entries ["collection_intervals"] false [] c.intervalSettings []
    rw [List.append_nil, List.nil_append] at hintervalLines
    rw [if_pos hfits, if_pos hsingle, if_pos hintervals]
    simp only [Option.bind_some, Option.map_some, List.singleton_append, Toml.ofLines?_entries,
      List.nil_append, hintervalLines, Toml.Section.ofLines?, hsections, Option.bind_eq_bind]
    apply decode?_eq Toml.settingReader_readsBack
    simp [Toml.settingReader, Toml.entries?, singleSettings, intervalSettings, settings,
      Intervals.settings, Setting.toToml]
  · have hnone : ¬ ((∀ s ∈ c.singleSettings, s.2.FitsToml) ∧ ∀ s ∈ c.intervalSettings, s.2.FitsToml) :=
      fun h => hfits (c.fitsToml_iff.mpr h)
    rw [if_neg hfits]
    by_cases hsingle : ∀ s ∈ c.singleSettings, s.2.FitsToml
    · rw [if_pos hsingle, if_neg fun h => hnone ⟨hsingle, h⟩]
      rfl
    · rw [if_neg hsingle]
      rfl

end Config

end UsageWatch
