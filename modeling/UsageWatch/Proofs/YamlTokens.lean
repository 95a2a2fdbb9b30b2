import UsageWatch.Proofs.YamlPrinter
import UsageWatch.Yaml.Token.Reader
/-!
# Lines that read as tokens

A key stands behind a margin and in front of a colon, and its value ends the line. Reading
goes in rounds of one token: past the gap in front of it (`Skips`), and past the token. What a
number of rounds does to a reader is told by the reader they lead to (`Leads`).
-/

namespace UsageWatch.Yaml.TokenReader

/-! ## Gaps -/

def Begins (s : List Char) : Prop := ∀ a, s.head? = some a → IsInk a ∧ a ≠ '#' ∧ a ≠ '\ufeff'

structure Skips (r r' : TokenReader) : Prop where
  shorter : r'.cursor.rest.length ≤ r.cursor.rest.length
  skipGap : ∀ fuel, r.cursor.rest.length < fuel → r.skipGap fuel = some r'

def plain (c : Cursor) (tokens : List Token) (indent : Int) (outer : List Int) (allowed : Bool) :
    TokenReader :=
  { cursor := c, tokens := tokens, count := tokens.length, indent := indent, outer := outer,
    keyAllowed := allowed }

section
variable (c : Cursor) (tokens : List Token) (indent : Int) (outer : List Int) (allowed : Bool)

@[simp] theorem cursor_plain : (plain c tokens indent outer allowed).cursor = c := rfl
@[simp] theorem inFlow_plain : (plain c tokens indent outer allowed).inFlow = false := rfl

end

theorem Begins.stops {s : List Char} (h : Begins s) : Stops s := fun a ha => (h a ha).1

theorem skipWhile_blanks {n : Nat} {s : List Char} (hs : ∀ a, s.head? = some a → isBlank a = false)
    (tabs : Bool) {c : Cursor} (hc : c.rest = List.replicate n ' ' ++ s) :
    c.skipWhile (fun a => a = ' ' || (tabs && a = '\t')) = c.skip n := by
  have hblanks : ∀ a ∈ List.replicate n ' ', (decide (a = ' ') || (tabs && a = '\t')) = true := by
    intro a ha
    simp [List.eq_of_mem_replicate ha]
  have hstop : ∀ a, s.head? = some a → (decide (a = ' ') || (tabs && a = '\t')) = false := by
    intro a ha
    have hblank := hs a ha
    simp only [isBlank, Bool.or_eq_false_iff] at hblank
    simp [hblank.1, hblank.2]
  rw [Cursor.skipWhile, hc, Text.takeWhile_exact hblanks hstop, List.length_replicate]

theorem skips_blanks {r : TokenReader} {n : Nat} {s : List Char}
    (hrest : r.cursor.rest = List.replicate n ' ' ++ s) (hs : Begins s) :
    Skips r { r with cursor := r.cursor.skip n } := by
  refine ⟨by simp, fun fuel hfuel => ?_⟩
  obtain ⟨fuel, rfl⟩ := Nat.exists_eq_add_one_of_ne_zero (Nat.ne_zero_of_lt hfuel)
  have hmark : r.cursor.head? ≠ some '\ufeff' := by
    rw [Cursor.head?, hrest]
    cases n with
    | zero => exact fun hmark => (hs '\ufeff' hmark).2.2 rfl
    | succ n => simp [List.replicate_succ]
  have hskip : (r.cursor.skip n).rest = s := by simp [hrest]
  have hcomment : (r.cursor.skip n).head? ≠ some '#' := fun hhash => (hs '#' (hskip ▸ hhash)).2.1 rfl
  have hbreak : (r.cursor.skip n).takeBreak? = none :=
    Cursor.takeBreak?_of_stops (by rw [hskip]; exact hs.stops)
  simp only [TokenReader.skipGap, hmark, decide_false, Bool.and_false, Bool.false_eq_true, if_false,
    skipWhile_blanks (fun a ha => (hs.stops a ha).1) _ hrest, hcomment, hbreak]

theorem skips_line {line s : List Char} (hline : ∀ a ∈ line, isBreak a = false)
    (hcomment : ∀ a, line.head? = some a → a = '#') {c : Cursor} (hc : c.rest = line ++ '\n' :: s)
    {tokens : List Token} {indent : Int} {outer : List Int} {allowed : Bool} {r : TokenReader}
    (h : Skips (plain ⟨s, c.index + line.length + 1, c.line + 1, 0⟩ tokens indent outer true) r) :
    Skips (plain c tokens indent outer allowed) r := by
  refine ⟨Nat.le_trans h.shorter (by simp [hc]; omega), fun fuel hfuel => ?_⟩
  obtain ⟨fuel, rfl⟩ := Nat.exists_eq_add_one_of_ne_zero (Nat.ne_zero_of_lt hfuel)
  have hhead : c.head? = some '#' ∨ c.head? = some '\n' := by
    rw [Cursor.head?, hc]
    cases line with
    | nil => exact .inr rfl
    | cons a line => exact .inl (by rw [hcomment a rfl]; rfl)
  have hmark : c.head? ≠ some '\ufeff' := by
    rcases hhead with hhead | hhead <;> simp [hhead]
  have hblank : ∀ a, c.rest.head? = some a → isBlank a = false := by
    intro a ha
    rcases hhead with hhead | hhead <;>
      (obtain rfl := Option.some.inj (hhead.symm.trans ha); decide)
  have hskip (tabs : Bool) : c.skipWhile (fun a => a = ' ' || (tabs && a = '\t')) = c :=
    skipWhile_blanks (n := 0) hblank tabs rfl
  have htext : c.skipWhile (!isBreak ·) = c.skip line.length := by
    have htake : (line ++ '\n' :: s).takeWhile (!isBreak ·) = line := Text.takeWhile_exact
      (fun a ha => by simp [hline a ha]) (fun a ha => by cases ha; decide)
    rw [Cursor.skipWhile, hc, htake]
  have hend : (if c.head? = some '#' then c.skipWhile (!isBreak ·) else c) = c.skip line.length := by
    by_cases hhash : c.head? = some '#'
    · rw [if_pos hhash, htext]
    · rw [if_neg hhash]
      cases line with
      | nil => rfl
      | cons a line =>
        refine absurd ?_ hhash
        rw [Cursor.head?, hc, hcomment a rfl]
        rfl
  have hrest : (c.skip line.length).rest = '\n' :: s := by simp [hc]
  have hfuel' : s.length < fuel := by
    simp only [cursor_plain, hc, List.length_append, List.length_cons] at hfuel
    omega
  simp only [TokenReader.skipGap, cursor_plain, hmark, decide_false, Bool.and_false, Bool.false_eq_true, if_false,
    hskip, hend, Cursor.takeBreak?_feed hrest (.inl rfl), inFlow_plain, Bool.not_false, Bool.or_true]
  exact h.skipGap fuel hfuel'

def AtLine (r : TokenReader) (column : Nat) (s : List Char) (indent : Int) (outer : List Int)
    (tokens : List Token) : Prop :=
  ∃ c : Cursor, c.rest = s ∧ c.column = column ∧ Skips r (plain c tokens indent outer true)

section
variable {c : Cursor} {n column : Nat} {line rest s : List Char} (tokens : List Token) (indent : Int)
  (outer : List Int) (allowed : Bool)

theorem atLine_blanks (hc : c.rest = List.replicate n ' ' ++ s) (hs : Begins s) :
    AtLine (plain c tokens indent outer true) (c.column + n) s indent outer tokens :=
  ⟨c.skip n, by simp [hc], rfl, skips_blanks hc hs⟩

theorem atLine_line (hline : ∀ a ∈ line, isBreak a = false)
    (hcomment : ∀ a, line.head? = some a → a = '#') (hc : c.rest = line ++ '\n' :: rest)
    (h : ∀ c : Cursor, c.rest = rest → c.column = 0 →
      AtLine (plain c tokens indent outer true) column s indent outer tokens) :
    AtLine (plain c tokens indent outer allowed) column s indent outer tokens := by
  obtain ⟨c', hc', hcolumn, hskip⟩ := h ⟨rest, c.index + line.length + 1, c.line + 1, 0⟩ rfl rfl
  exact ⟨c', hc', hcolumn, skips_line hline hcomment hc hskip⟩

theorem atLine_newline (hc : c.rest = '\n' :: (List.replicate n ' ' ++ s)) (hs : Begins s) :
    AtLine (plain c tokens indent outer allowed) n s indent outer tokens := by
  refine atLine_line tokens indent outer allowed (List.forall_mem_nil _) (by simp) hc
    fun c hc hcolumn => ?_
  have hblanks := atLine_blanks tokens indent outer hc hs
  rwa [hcolumn, Nat.zero_add] at hblanks

theorem atLine_comments {lines : List (List Char)} (hlines : ∀ line ∈ lines, ∀ a ∈ line, isBreak a = false)
    (hcomments : ∀ line ∈ lines, ∀ a, line.head? = some a → a = '#') (hs : Begins s)
    (hc : c.rest = lines.flatMap (· ++ ['\n']) ++ s) (hcolumn : c.column = 0) :
    AtLine (plain c tokens indent outer true) 0 s indent outer tokens := by
  induction lines generalizing c with
  | nil =>
    have hblanks := atLine_blanks (n := 0) tokens indent outer hc hs
    rwa [hcolumn] at hblanks
  | cons line lines ih =>
    rw [List.forall_mem_cons] at hlines hcomments
    have hrest : c.rest = line ++ '\n' :: (lines.flatMap (· ++ ['\n']) ++ s) := by simp [hc]
    refine atLine_line tokens indent outer true hlines.1 hcomments.1 hrest fun c hc hcolumn => ?_
    exact ih hlines.2 hcomments.2 hc hcolumn

end

/-! ## Rounds -/

/-- Reading on from `r` is reading on from `r'`, which is further on. -/
def Leads (r r' : TokenReader) : Prop :=
  ∀ fuel, r.cursor.rest.length < fuel → ∃ fuel', r'.cursor.rest.length < fuel' ∧
    readAll fuel r = readAll fuel' r'

theorem Leads.trans {r r' r'' : TokenReader} (h : Leads r r') (h' : Leads r' r'') : Leads r r'' := by
  intro fuel hfuel
  obtain ⟨fuel₁, hfuel₁, heq⟩ := h fuel hfuel
  obtain ⟨fuel₂, hfuel₂, heq'⟩ := h' fuel₁ hfuel₁
  exact ⟨fuel₂, hfuel₂, heq.trans heq'⟩

/-- A round that neither gives up a key nor ends a block. -/
theorem leads_token {r r₁ r₂ : TokenReader} (hskip : Skips r r₁) {a : Char} {rest : List Char}
    (hrest : r₁.cursor.rest = a :: rest) (hkeys : r₁.dropStaleKeys = some r₁)
    (hindent : r₁.unindent r₁.cursor.column = r₁) (hread : r₁.readToken a rest = some r₂)
    (hshorter : r₂.cursor.rest.length < r₁.cursor.rest.length) : Leads r r₂ := by
  intro fuel hfuel
  obtain ⟨fuel, rfl⟩ := Nat.exists_eq_add_one_of_ne_zero (Nat.ne_zero_of_lt hfuel)
  have hlength := hskip.shorter
  refine ⟨fuel, by omega, ?_⟩
  rw [readAll, hskip.skipGap _ (Nat.lt_succ_self _)]
  simp only [Option.bind_eq_bind, Option.bind_some, hkeys, hindent, hrest, hread]

theorem unindent_eq {r : TokenReader} {column : Int} (h : r.indent ≤ column) : r.unindent column = r := by
  unfold unindent
  split
  · rfl
  · cases r.outer with
    | nil => rfl
    | cons outer rest => rw [endBlocks, if_neg (by omega)]

theorem dropStaleKeys_plain (c : Cursor) (tokens : List Token) (indent : Int) (outer : List Int)
    (allowed : Bool) : (plain c tokens indent outer allowed).dropStaleKeys =
      some (plain c tokens indent outer allowed) := rfl

theorem isDocumentMark_of_head {mark a : Char} (h : a ≠ mark) (rest : List Char) :
    isDocumentMark mark (a :: rest) = false := by
  match rest with
  | [] => rfl
  | [_] => rfl
  | b :: d :: rest => simp [isDocumentMark, h]

theorem readToken_plain {r : TokenReader} (hflow : r.flowKeys = []) {a : Char} {rest : List Char}
    (hrest : r.cursor.rest = a :: rest) (hindicator : a ∉ leadingIndicators) (hblank : isBlank a = false)
    (hgap : a = '-' ∨ a = '?' ∨ a = ':' → isGap rest = false)
    (hmark : r.cursor.column = 0 → a ≠ '-' ∧ a ≠ '.') : r.readToken a rest = r.readPlain := by
  have hinFlow : r.inFlow = false := by simp [inFlow, hflow]
  have hstands (mark : Char) (h : a = mark → isGap rest = false) :
      (decide (a = mark) && isGap rest) = false := by
    by_cases ha : a = mark
    · rw [h ha, Bool.and_false]
    · simp [ha]
  have hdocument (mark : Char) (h : r.cursor.column = 0 → a ≠ mark) :
      (decide (r.cursor.column = 0) && isDocumentMark mark r.cursor.rest) = false := by
    by_cases hcolumn : r.cursor.column = 0
    · rw [hrest, isDocumentMark_of_head (h hcolumn), Bool.and_false]
    · simp [hcolumn]
  simp only [leadingIndicators, List.mem_cons, List.not_mem_nil, or_false, not_or] at hindicator
  have hbegins : beginsPlain false a rest = true := by
    by_cases hspecial : a = '-' ∨ a = '?' ∨ a = ':'
    · have hrestGap := hgap hspecial
      have hrestBlank : rest.head?.any Yaml.isBlank = false := by
        cases rest with
        | nil => rfl
        | cons b rest =>
          simp only [isGap, Bool.or_eq_false_iff] at hrestGap
          simp [hrestGap.1]
      rcases hspecial with rfl | rfl | rfl <;> simp [beginsPlain, hrestGap, hrestBlank]
    · rw [not_or, not_or] at hspecial
      simp [beginsPlain, indicators, hblank, hindicator, hspecial]
  simp [readToken, hindicator, hinFlow, hbegins, hdocument '-' fun hcolumn => (hmark hcolumn).1,
    hdocument '.' fun hcolumn => (hmark hcolumn).2, hstands '-' fun ha => hgap (.inl ha),
    hstands '?' fun ha => hgap (.inr (.inl ha)), hstands ':' fun ha => hgap (.inr (.inr ha))]

/-! ## Keys -/

/-- A word that a key may be: it fits in front of its colon. -/
structure IsKey (w : List Char) : Prop where
  ne_nil : w ≠ []
  length_le : w.length ≤ 1024
  isNameChar : ∀ c ∈ w, isNameChar c = true ∧ c ≠ '-'

theorem not_mem_leadingIndicators {a : Char} (ha : Yaml.isNameChar a = true) : a ∉ leadingIndicators := by
  intro hmem
  have hall : leadingIndicators.all (fun b => !Yaml.isNameChar b) = true := by decide
  have hnot := List.all_eq_true.mp hall a hmem
  rw [ha] at hnot
  cases hnot

theorem isInk_of_isNameChar {a : Char} (ha : isNameChar a = true) : IsInk a := by
  have hne {b : Char} (hb : isNameChar b = false) : a ≠ b := Text.ne_of_kind ha hb
  constructor
  · simp [isBlank, hne (b := ' ') (by decide), hne (b := '\t') (by decide)]
  · simp [isBreak, hne (b := '\n') (by decide), hne (b := '\r') (by decide), hne (b := '\x85') (by decide),
      hne (b := '\u2028') (by decide), hne (b := '\u2029') (by decide)]

theorem isPiece_of_isNameChar {w : List Char} (hne : w ≠ []) (hw : ∀ c ∈ w, Yaml.isNameChar c = true) :
    Plain.IsPiece w where
  ne_nil := hne
  ink c hc := isInk_of_isNameChar (hw c hc)
  last hlast := Text.ne_of_kind (hw ':' (List.mem_of_getLast? hlast)) (by decide) rfl

theorem IsKey.isPiece {w : List Char} (h : IsKey w) : Plain.IsPiece w :=
  isPiece_of_isNameChar h.ne_nil fun c hc => (h.isNameChar c hc).1

theorem IsKey.begins {w : List Char} (h : IsKey w) (s : List Char) : Begins (w ++ s) := by
  obtain ⟨d, w, rfl⟩ := List.exists_cons_of_ne_nil h.ne_nil
  have hd := (h.isNameChar d List.mem_cons_self).1
  rintro a ⟨⟩
  exact ⟨isInk_of_isNameChar hd, Text.ne_of_kind hd (by decide), Text.ne_of_kind hd (by decide)⟩

def opened (indent : Int) (column : Nat) (tokens : List Token) : List Token :=
  if indent < column then .blockMappingStart :: tokens else tokens

def around (indent : Int) (column : Nat) (outer : List Int) : List Int :=
  if indent < column then indent :: outer else outer

def behindKey (c : Cursor) (w : List Char) (tokens : List Token) (indent : Int) (outer : List Int) :
    TokenReader :=
  { plain (c.skip w.length) (.scalar .plain w :: tokens) indent outer false with
    blockKey := some
      { required := indent == c.column
        position := tokens.length
        index := c.index
        line := c.line
        column := c.column } }

section
variable {c : Cursor} {tokens : List Token} {indent : Int} {outer : List Int}

theorem readToken_key {w t : List Char} (hw : IsKey w) (ht : isGap t = true) (hc : c.rest = w ++ ':' :: t)
    {a : Char} {rest : List Char} (ha : w ++ ':' :: t = a :: rest) :
    (plain c tokens indent outer true).readToken a rest = some (behindKey c w tokens indent outer) := by
  have hmem : a ∈ w := by
    obtain ⟨d, w, rfl⟩ := List.exists_cons_of_ne_nil hw.ne_nil
    obtain ⟨rfl, -⟩ := List.cons.inj ha
    exact List.mem_cons_self
  obtain ⟨hname, hdash⟩ := hw.isNameChar a hmem
  have hne {b : Char} (hb : Yaml.isNameChar b = false) : a ≠ b := Text.ne_of_kind hname hb
  have hmark : c.atDocumentMark = false := by
    simp [Cursor.atDocumentMark, hc, ha, isDocumentMark_of_head hdash,
      isDocumentMark_of_head (hne (b := '.') (by decide))]
  have hcomment : w.head? ≠ some '#' := fun hhash =>
    Text.ne_of_kind (hw.isNameChar '#' (List.mem_of_mem_head? hhash)).1 (by decide) rfl
  have hspecial : a = '-' ∨ a = '?' ∨ a = ':' → isGap rest = false := by
    rintro (h | h | h)
    · exact absurd h hdash
    · exact absurd h (hne (by decide))
    · exact absurd h (hne (by decide))
  have hread := Plain.read_key hw.isPiece ht hc hcomment hmark (indent + 1).toNat
  rw [readToken_plain rfl (hc.trans ha) (not_mem_leadingIndicators hname) (isInk_of_isNameChar hname).1 hspecial
    fun _ => ⟨hdash, hne (by decide)⟩]
  simp [readPlain, markKey, dropKey, keyStart?, setKeyStart, plain, inFlow, hread, allowKey, pushRead, push,
    behindKey]

/-- The colon behind a key puts in the mark of the key and begins its block. -/
theorem readValue_behindKey (w : List Char) (hindent : indent ≤ c.column) :
    (behindKey c w tokens indent outer).readValue =
      some (plain (c.skip (w.length + 1))
        (.value :: .scalar .plain w :: .key :: opened indent c.column tokens) c.column
        (around indent c.column outer) false) := by
  by_cases hopen : indent < c.column
  · have htwo : tokens.length + 1 + 1 - tokens.length = 2 := by omega
    simp [readValue, behindKey, keyStart?, setKeyStart, plain, insert, beginBlock, inFlow, allowKey, pushMark,
      push, opened, around, hopen, htwo, Cursor.skip_skip]
  · have heq : indent = c.column := by omega
    simp [readValue, behindKey, keyStart?, setKeyStart, plain, insert, beginBlock, inFlow, allowKey, pushMark,
      push, opened, around, heq, Cursor.skip_skip]

theorem readToken_colon {r : TokenReader} (hcolumn : r.cursor.column ≠ 0) {t : List Char}
    (ht : isGap t = true) : r.readToken ':' t = r.readValue := by
  simp [readToken, hcolumn, ht]

theorem leads_key {r : TokenReader} (hskip : Skips r (plain c tokens indent outer true)) {w t : List Char}
    (hw : IsKey w) (ht : isGap t = true) (hc : c.rest = w ++ ':' :: t) (hindent : indent ≤ c.column) :
    Leads r (plain (c.skip (w.length + 1))
      (.value :: .scalar .plain w :: .key :: opened indent c.column tokens) c.column
      (around indent c.column outer) false) := by
  have hpos := List.length_pos_of_ne_nil hw.ne_nil
  have hcursor : (behindKey c w tokens indent outer).cursor = c.skip w.length := rfl
  have hcolon : (c.skip w.length).rest = ':' :: t := by simp [hc]
  obtain ⟨a, rest, ha⟩ : ∃ a rest, w ++ ':' :: t = a :: rest := by
    obtain ⟨a, w, rfl⟩ := List.exists_cons_of_ne_nil hw.ne_nil
    exact ⟨a, _, rfl⟩
  have hkey : Leads r (behindKey c w tokens indent outer) := by
    refine leads_token hskip (hc.trans ha) (dropStaleKeys_plain _ _ _ _ _) (unindent_eq hindent)
      (readToken_key hw ht hc ha) ?_
    rw [hcursor, hcolon, cursor_plain, hc]
    simp
    omega
  have hblanks : Skips (behindKey c w tokens indent outer) (behindKey c w tokens indent outer) :=
    skips_blanks (n := 0) hcolon fun a ha => by
      cases ha
      decide
  have hfresh : (behindKey c w tokens indent outer).dropStaleKeys =
      some (behindKey c w tokens indent outer) := by
    simp [dropStaleKeys, behindKey, freshKey?, isCurrent, plain, hw.length_le]
  refine hkey.trans (leads_token hblanks hcolon hfresh (unindent_eq ?_)
    ((readToken_colon ?_ ht).trans (readValue_behindKey w hindent)) ?_)
  · rw [hcursor, Cursor.column_skip]
    exact Int.le_trans hindent (by omega)
  · rw [hcursor, Cursor.column_skip]
    omega
  · simp [hcursor, hc]

/-! ## Values -/

/-- A round behind a key: one blank and a token that is not a key. -/
theorem leads_value {v : List Char} (hc : c.rest = ' ' :: v) (hv : Begins v) (hindent : indent ≤ c.column)
    {a : Char} {rest : List Char} (ha : v = a :: rest) {r : TokenReader}
    (hread : (plain (c.skip 1) tokens indent outer false).readToken a rest = some r)
    (hshorter : r.cursor.rest.length < v.length) : Leads (plain c tokens indent outer false) r := by
  have hskip : (c.skip 1).rest = v := by simp [hc]
  refine leads_token (skips_blanks (n := 1) hc hv) (hskip.trans ha) (dropStaleKeys_plain _ _ _ _ _)
    (unindent_eq ?_) hread (by rw [cursor_plain, hskip]; exact hshorter)
  exact Int.le_trans hindent (Int.ofNat_le.mpr (Nat.le_add_right _ _))

/-- What is written for a value is read as a scalar, in a block at column `indent` and in
front of a line with at most that margin. -/
def IsValue (indent : Nat) (written : List Char) (style : ScalarStyle) (s : List Char) : Prop :=
  ∀ (m : Nat) (next : List Char) (c : Cursor) (tokens : List Token) (outer : List Int), m ≤ indent →
    Begins next → c.rest = ' ' :: (written ++ (List.replicate m ' ' ++ next)) → indent ≤ c.column →
    ∃ r, Leads (plain c tokens indent outer false) r ∧
      AtLine r m next indent outer (.scalar style s :: tokens)

theorem isValue_plain {s : List Char} (htext : Plain.IsText s) (hindicator : beginsWithIndicator s = false)
    (hmark : s.head? ≠ some '\ufeff') (indent : Nat) : IsValue indent (s ++ ['\n']) .plain s := by
  intro m next c tokens outer hm hnext hc hindent
  have hrest : (c.skip 1).rest = s ++ '\n' :: (List.replicate m ' ' ++ next) := by simp [hc]
  obtain ⟨a, more, rfl, hink⟩ := htext.exists_ink
  simp only [beginsWithIndicator, Bool.or_eq_false_iff, List.contains_eq_mem, decide_eq_false_iff_not]
    at hindicator
  have hcomment : a ≠ '#' := fun heq => hindicator.1 (by rw [heq]; decide)
  have hspecial : a = '-' ∨ a = '?' ∨ a = ':' →
      isGap (more ++ '\n' :: (List.replicate m ' ' ++ next)) = false := by
    intro hspecial
    have hgap : beginsWithGap more = false := by
      rcases hspecial with rfl | rfl | rfl <;> simpa using hindicator.2
    cases more with
    | nil => cases hgap
    | cons d more =>
      simp only [beginsWithGap, List.head?_cons, Option.all_some, isGapChar, Bool.or_eq_false_iff] at hgap
      simp [isGap, hgap.1]
  obtain ⟨c', hread, hc', hcolumn'⟩ := Plain.read_text htext (by simpa using hcomment) hnext.stops
    (Nat.lt_succ_of_le hm) hrest (by rw [Cursor.column_skip]; omega)
  have htoken : (plain (c.skip 1) tokens indent outer false).readToken a
      (more ++ '\n' :: (List.replicate m ' ' ++ next)) =
        some (plain c' (.scalar .plain (a :: more) :: tokens) indent outer true) := by
    rw [readToken_plain rfl hrest hindicator.1 hink.1 hspecial fun hcolumn => absurd hcolumn (by simp)]
    simp [readPlain, markKey, plain, inFlow, hread, allowKey, pushRead, push]
  refine ⟨_, leads_value (hc.trans (by simp)) ?_ (Int.ofNat_le.mpr hindent) rfl htoken ?_, ?_⟩
  · rintro b ⟨⟩
    exact ⟨hink, hcomment, by simpa using hmark⟩
  · simp [hc']
    omega
  · rw [← hcolumn']
    exact atLine_blanks (n := 0) _ _ _ hc' hnext

theorem isValue_word {w : List Char} (hne : w ≠ []) (hname : ∀ c ∈ w, Yaml.isNameChar c = true)
    (hdash : w.head? ≠ some '-') (indent : Nat) : IsValue indent (w ++ ['\n']) .plain w := by
  refine isValue_plain (.piece (isPiece_of_isNameChar hne hname)) ?_ (fun hmark => ?_) indent
  · obtain ⟨a, w, rfl⟩ := List.exists_cons_of_ne_nil hne
    have ha := hname a List.mem_cons_self
    have hdash : a ≠ '-' := by simpa using hdash
    simp [beginsWithIndicator, not_mem_leadingIndicators ha, hdash, Text.ne_of_kind ha (b := '?') (by decide),
      Text.ne_of_kind ha (b := ':') (by decide)]
  · exact Text.ne_of_kind (hname '\ufeff' (List.mem_of_mem_head? hmark)) (by decide) rfl

theorem isValue_quoted (single : Bool) {quoted s : List Char}
    (hhead : quoted.head? = some (Quoted.quoteMark single))
    (hread : ∀ (rest : List Char) (c : Cursor), rest.head? ≠ some '\'' → c.rest = quoted ++ rest →
      ∃ c', Quoted.read single c = some (s, c') ∧ c'.rest = rest) (indent : Nat) :
    IsValue indent (quoted ++ ['\n']) (if single then .singleQuoted else .doubleQuoted) s := by
  intro m next c tokens outer hm hnext hc hindent
  obtain ⟨more, rfl⟩ : ∃ more, quoted = Quoted.quoteMark single :: more := by
    cases quoted with
    | nil => cases hhead
    | cons a more => exact ⟨more, by rw [Option.some.inj hhead]⟩
  have hrest : (c.skip 1).rest =
      Quoted.quoteMark single :: more ++ '\n' :: (List.replicate m ' ' ++ next) := by simp [hc]
  obtain ⟨c', hread, hc'⟩ := hread _ (c.skip 1) (by simp) hrest
  have htoken : (plain (c.skip 1) tokens indent outer false).readToken (Quoted.quoteMark single)
      (more ++ '\n' :: (List.replicate m ' ' ++ next)) =
        some (plain c' (.scalar (if single then .singleQuoted else .doubleQuoted) s :: tokens) indent outer
          false) := by
    cases single <;>
      simp [readToken, Quoted.quoteMark, readQuoted, markKey, plain, inFlow, hread, allowKey, pushRead, push]
  refine ⟨_, leads_value (hc.trans (by simp)) ?_ (Int.ofNat_le.mpr hindent) rfl htoken ?_,
    atLine_newline _ _ _ _ hc' hnext⟩
  · rintro b ⟨⟩
    cases single <;> decide
  · have hrest : (plain c' (.scalar (if single then .singleQuoted else .doubleQuoted) s :: tokens) indent outer
        false).cursor.rest = '\n' :: (List.replicate m ' ' ++ next) := hc'
    rw [hrest]
    simp only [List.length_cons, List.length_append]
    omega

theorem isValue_literal {s : List Char} (hprintable : ∀ c ∈ s, isPrintable c = true) (hne : s ≠ []) :
    IsValue 0 (literalHeader margin s ++ '\n' :: literalLines margin true s
      ++ (if s.getLast?.any isBreak then [] else ['\n'])) .literal s := by
  intro m next c tokens outer hm hnext hc hindent
  obtain rfl := Nat.le_zero.mp hm
  have hheader : ∃ more, literalHeader margin s = '|' :: more := ⟨_, rfl⟩
  obtain ⟨more, hmore⟩ := hheader
  obtain ⟨c', hread, hc', hcolumn'⟩ := Block.read_literal hprintable hne hnext.stops (c := c.skip 1)
    (by simp [hc])
  have htoken : ∀ rest, (plain (c.skip 1) tokens 0 outer false).readToken '|' rest =
      some (plain c' (.scalar .literal s :: tokens) 0 outer true) := by
    intro rest
    simp [readToken, readBlockScalar, dropKey, keyStart?, plain, inFlow, hread, allowKey, pushRead, push]
  refine ⟨_, leads_value hc ?_ (Int.ofNat_le.mpr hindent) (by rw [hmore]; rfl) (htoken _) ?_, ?_⟩
  · rw [hmore]
    rintro b ⟨⟩
    decide
  · have hrest : (plain c' (.scalar .literal s :: tokens) 0 outer true).cursor.rest = next := hc'
    rw [hrest, hmore]
    simp only [List.cons_append, List.length_cons, List.length_append]
    omega
  · have hblanks := atLine_blanks (n := 0) (.scalar .literal s :: tokens) 0 outer hc' hnext
    rwa [hcolumn'] at hblanks

theorem isValue_writeText (s : List Char) : IsValue 0 (writeText margin s) (styleOf s) s := by
  unfold writeText
  rcases styleOf_cases s with ⟨h, hnewline, hfits⟩ | ⟨h, hne, hfits⟩ | ⟨h, hnewline, hfits⟩ | h
  · rw [h]
    simp only [fitsLiteral, Bool.and_eq_true, List.all_eq_true] at hfits
    exact isValue_literal hfits.1.1 (List.ne_nil_of_mem hnewline)
  · rw [h]
    have htext := Plain.isText_of_fitsPlain hne hfits
    simp only [fitsPlain, hasIndicator, Bool.and_eq_true, Bool.not_eq_true', Bool.or_eq_false_iff,
      List.all_eq_true] at hfits
    refine isValue_plain htext hfits.2.1.1.2 (fun hmark => ?_) 0
    exact absurd (hfits.1.1.1.1 '\ufeff' (List.mem_of_mem_head? hmark)) (by decide)
  · rw [h]
    exact isValue_quoted true rfl
      (fun rest c hrest hc => Quoted.read_singleQuoted 1 hfits hnewline hrest hc) 0
  · rw [h]
    exact isValue_quoted false rfl (fun rest c hrest hc => Quoted.read_doubleQuoted s hrest hc) 0

end

/-! ## Entries -/

structure Entry where
  key : List Char
  written : List Char
  style : ScalarStyle
  value : List Char

namespace Entry

def text (e : Entry) : List Char := e.key ++ ':' :: ' ' :: e.written

def tokens (e : Entry) : List Token :=
  [.key, .scalar .plain e.key, .value, .scalar e.style e.value]

structure Reads (column : Nat) (e : Entry) : Prop where
  key : IsKey e.key
  value : IsValue column e.written e.style e.value

theorem Reads.begins {column : Nat} {e : Entry} (h : e.Reads column) (s : List Char) :
    Begins (e.text ++ s) := by
  rw [text, List.append_assoc]
  exact h.key.begins _

end Entry

section
variable {tokens : List Token} {indent : Int} {outer : List Int}

theorem opened_self (column : Nat) (tokens : List Token) : opened column column tokens = tokens :=
  if_neg (Int.lt_irrefl _)

theorem around_self (column : Nat) (outer : List Int) : around column column outer = outer :=
  if_neg (Int.lt_irrefl _)

theorem AtLine.entry {r : TokenReader} (column m : Nat) (e : Entry) (next : List Char)
    (h : AtLine r column (e.text ++ (List.replicate m ' ' ++ next)) indent outer tokens)
    (he : e.Reads column) (hindent : indent ≤ column) (hm : m ≤ column) (hnext : Begins next) :
    ∃ r', Leads r r' ∧ AtLine r' m next column (around indent column outer)
      (e.tokens.reverse ++ opened indent column tokens) := by
  obtain ⟨c, hc, rfl, hskip⟩ := h
  have hkey := leads_key hskip he.key (t := ' ' :: (e.written ++ (List.replicate m ' ' ++ next))) rfl
    (by simp [hc, Entry.text]) hindent
  obtain ⟨r', hvalue, hline⟩ := he.value m next (c.skip (e.key.length + 1))
    (.value :: .scalar .plain e.key :: .key :: opened indent c.column tokens) (around indent c.column outer)
    hm hnext (by simp [hc, Entry.text]) (by simp)
  exact ⟨r', hkey.trans hvalue, hline⟩

/-- Entries below each other, the first of which may begin a block. -/
theorem AtLine.entries {r : TokenReader} (column : Nat) (e : Entry) (es : List Entry) (next : List Char)
    (h : AtLine r column
      (e.text ++ (es.flatMap (List.replicate column ' ' ++ ·.text) ++ next)) indent outer tokens)
    (he : ∀ e' ∈ e :: es, e'.Reads column) (hindent : indent ≤ column) (hnext : Begins next) :
    ∃ r', Leads r r' ∧ AtLine r' 0 next column (around indent column outer)
      (((e :: es).flatMap Entry.tokens).reverse ++ opened indent column tokens) := by
  induction es generalizing r e indent outer tokens with
  | nil =>
    obtain ⟨r', hleads, hline⟩ := AtLine.entry column 0 e next h (he e List.mem_cons_self) hindent
      (Nat.zero_le _) hnext
    exact ⟨r', hleads, by simpa using hline⟩
  | cons e' es ih =>
    rw [List.forall_mem_cons] at he
    obtain ⟨r₁, hleads, hline⟩ := AtLine.entry column column e
      (e'.text ++ (es.flatMap (List.replicate column ' ' ++ ·.text) ++ next)) (by simpa using h) he.1 hindent
      (Nat.le_refl _) ((he.2 e' List.mem_cons_self).begins _)
    obtain ⟨r₂, hmore, hline⟩ := ih e' hline he.2 (Int.le_refl _)
    rw [around_self, opened_self] at hline
    exact ⟨r₂, hleads.trans hmore, by simpa using hline⟩

theorem AtLine.header {r : TokenReader} (column margin : Nat) (key next : List Char)
    (h : AtLine r column (key ++ ':' :: '\n' :: (List.replicate margin ' ' ++ next)) indent outer tokens)
    (hkey : IsKey key) (hindent : indent ≤ column) (hnext : Begins next) :
    ∃ r', Leads r r' ∧ AtLine r' margin next column (around indent column outer)
      (.value :: .scalar .plain key :: .key :: opened indent column tokens) := by
  obtain ⟨c, hc, rfl, hskip⟩ := h
  exact ⟨_, leads_key hskip hkey rfl hc hindent, atLine_newline _ _ _ _ (by simp [hc]) hnext⟩

/-- The end of the text inside of one block in another. -/
theorem AtLine.readAll_end {r : TokenReader} {column : Nat} (hcolumn : 0 < column)
    (h : AtLine r 0 [] column [0, -1] tokens) {fuel : Nat} (hfuel : r.cursor.rest.length < fuel) :
    ∃ r', readAll fuel r = some r' ∧ r'.tokens = .blockEnd :: .blockEnd :: tokens := by
  obtain ⟨c, hc, hzero, hskip⟩ := h
  obtain ⟨fuel, rfl⟩ := Nat.exists_eq_add_one_of_ne_zero (Nat.ne_zero_of_lt hfuel)
  have hinner : (plain c tokens column [0, -1] true).unindent c.column =
      plain c (.blockEnd :: tokens) 0 [-1] true := by
    simp [hzero, unindent, endBlocks, plain, inFlow, push, hcolumn]
  have houter : (plain c (.blockEnd :: tokens) 0 [-1] true).unindent (-1) =
      plain c (.blockEnd :: .blockEnd :: tokens) (-1) [] true := by
    simp [unindent, endBlocks, plain, inFlow, push]
  refine ⟨plain c (.blockEnd :: .blockEnd :: tokens) (-1) [] true, ?_, rfl⟩
  rw [readAll, hskip.skipGap _ (Nat.lt_succ_self _)]
  simp only [Option.bind_eq_bind, Option.bind_some, dropStaleKeys_plain, cursor_plain, hinner, hc, houter]
  rfl

end

end UsageWatch.Yaml.TokenReader
