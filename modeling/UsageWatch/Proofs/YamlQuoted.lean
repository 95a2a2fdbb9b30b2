import UsageWatch.Proofs.YamlScalars
/-!
# Quoted scalars that read back

What stands between quotes is words, each character written on its own, and gaps between
them (`Body`). Between single quotes a gap is blanks or line breaks with the margin of the
next line behind them, between double quotes it is blanks.
-/

namespace UsageWatch.Yaml.Quoted

/-! ## Text between quotes -/

inductive GapText : List Char → List Char → Prop
  | blanks (n : Nat) : GapText (List.replicate (n + 1) ' ') (List.replicate (n + 1) ' ')
  | breaks {b : Char} {feeds : List Char} (hb : IsFeed b) (hne : b ≠ '\n')
      (hfeeds : ∀ b ∈ feeds, IsFeed b) (n : Nat) :
      GapText (b :: feeds) (b :: feeds ++ List.replicate (n + 1) ' ')

/-- A text, and how it is written if `write` gives the characters with `p`. -/
inductive Body (write : Char → List Char) (p : Char → Prop) : List Char → List Char → Prop
  | word {w : List Char} (hw : ∀ c ∈ w, p c) : Body write p w (w.flatMap write)
  | gap {w gap gapText s body : List Char} (hw : ∀ c ∈ w, p c) (hgap : GapText gap gapText)
      (hs : Body write p s body) (hstops : Stops body) :
      Body write p (w ++ (gap ++ s)) (w.flatMap write ++ (gapText ++ body))

structure Reads (single : Bool) (write : Char → List Char) (p : Char → Prop) : Prop where
  ne_nil : ∀ d, p d → write d ≠ []
  readPiece : ∀ d, p d → ∀ (fuel : Nat) (c : Cursor) (rest : List Char), c.rest = write d ++ rest →
    Quoted.readPiece single (fuel + 1) c =
      (Quoted.readPiece single fuel (c.skip (write d).length)).map
        fun (cs, stop, c) => (d :: cs, stop, c)

theorem GapText.exists_cons {gap gapText : List Char} (h : GapText gap gapText) :
    ∃ a more, gapText = a :: more ∧ (isBlank a || isBreak a) = true := by
  cases h with
  | blanks n => exact ⟨' ', _, rfl, by decide⟩
  | breaks hb hne hfeeds n => exact ⟨_, _, rfl, by simp [hb.isBreak]⟩

theorem GapText.read {gap gapText : List Char} (h : GapText gap gapText) {rest : List Char}
    (hrest : Stops rest) {c : Cursor} (hc : c.rest = gapText ++ rest) :
    ∃ g c', Gap.read 0 (c.rest.length + 1) {} c = some (g, c') ∧ g.text = gap ∧ c'.rest = rest ∧
      c'.column ≠ 0 := by
  cases h with
  | blanks n =>
    refine ⟨_, _, Gap.read_blanks hrest 0 (n + 1) _ {} hc ?_, rfl, ?_, ?_⟩
    · rw [hc, List.length_append, List.length_replicate]
      omega
    · simp [hc]
    · simp
  | @breaks b feeds hb hne hfeeds n =>
    obtain ⟨c', hread, hc', hcolumn'⟩ := Gap.read_break hrest hb hfeeds 0 (n + 1) (c.rest.length + 1)
      (c := c) (by simpa using hc) (by rw [hc]; simp; omega)
    exact ⟨_, c', hread, by simp [Gap.text, foldBreaks, hne], hc', by omega⟩

/-! ## Reading -/

theorem readPiece_word {single : Bool} {write : Char → List Char} {p : Char → Prop}
    (h : Reads single write p) {w : List Char} (hw : ∀ c ∈ w, p c) {rest : List Char} (fuel : Nat)
    {c : Cursor} (hc : c.rest = w.flatMap write ++ rest) (hfuel : c.rest.length < fuel) :
    ∃ fuel', rest.length < fuel' ∧ readPiece single fuel c =
      (readPiece single fuel' (c.skip (w.flatMap write).length)).map
        fun (cs, stop, c) => (w ++ cs, stop, c) := by
  induction w generalizing fuel c with
  | nil => exact ⟨fuel, by simpa [hc] using hfuel, by simp⟩
  | cons d w ih =>
    rw [List.forall_mem_cons] at hw
    have hpos : 0 < (write d).length := List.length_pos_of_ne_nil (h.ne_nil d hw.1)
    rw [List.flatMap_cons, List.append_assoc] at hc
    obtain ⟨fuel, rfl⟩ := Nat.exists_eq_add_one_of_ne_zero (Nat.ne_zero_of_lt hfuel)
    have hrest : (c.skip (write d).length).rest = w.flatMap write ++ rest := by simp [hc]
    rw [hc, List.length_append] at hfuel
    obtain ⟨fuel', hfuel', hmore⟩ := ih hw.2 fuel hrest (by rw [hrest]; omega)
    refine ⟨fuel', hfuel', ?_⟩
    rw [h.readPiece d hw.1 fuel c _ hc, hmore, Cursor.skip_skip, Option.map_map, List.flatMap_cons,
      List.length_append]
    rfl

theorem readPiece_gap (single : Bool) {a : Char} {more : List Char}
    (ha : (isBlank a || isBreak a) = true) (fuel : Nat) {c : Cursor} (hc : c.rest = a :: more) :
    readPiece single (fuel + 1) c = some ([], .gap, c) := by
  simp [readPiece, hc, ha]

def quoteMark (single : Bool) : Char := if single then '\'' else '"'

theorem readPiece_quoteMark (single : Bool) {rest : List Char} (hrest : rest.head? ≠ some '\'')
    (fuel : Nat) {c : Cursor} (hc : c.rest = quoteMark single :: rest) :
    readPiece single (fuel + 1) c = some ([], .quote, c.skip 1) := by
  have hsingle : (isBlank '\'' || isBreak '\'') = false := by decide
  have hdouble : (isBlank '"' || isBreak '"') = false := by decide
  cases single <;> simp [readPiece, hc, quoteMark, hsingle, hdouble, hrest]

theorem isInk_quoteMark (single : Bool) : IsInk (quoteMark single) := by
  cases single <;> decide

theorem readFrom_quote {single : Bool} {c c' : Cursor} {piece : List Char} (hcolumn : c.column ≠ 0)
    (hne : c.rest ≠ []) (hread : readPiece single (c.rest.length + 1) c = some (piece, .quote, c'))
    (fuel : Nat) (text : List Char) :
    readFrom single (fuel + 1) text c = some (text ++ piece, c') := by
  have hempty : c.rest.isEmpty = false := by simpa using hne
  simp [readFrom, Cursor.atDocumentMark_of_column hcolumn, hempty, hread]

theorem readFrom_gap {single : Bool} {c c₁ c₂ : Cursor} {piece : List Char} {gap : Gap}
    (hcolumn : c.column ≠ 0) (hne : c.rest ≠ [])
    (hread : readPiece single (c.rest.length + 1) c = some (piece, .gap, c₁))
    (hgap : Gap.read 0 (c₁.rest.length + 1) {} c₁ = some (gap, c₂)) (fuel : Nat) (text : List Char) :
    readFrom single (fuel + 1) text c = readFrom single fuel (text ++ piece ++ gap.text) c₂ := by
  have hempty : c.rest.isEmpty = false := by simpa using hne
  simp [readFrom, Cursor.atDocumentMark_of_column hcolumn, hempty, hread, hgap]

theorem readFrom_body {single : Bool} {write : Char → List Char} {p : Char → Prop}
    (h : Reads single write p) {s body : List Char} (hs : Body write p s body) {rest : List Char}
    (hrest : rest.head? ≠ some '\'') : ∀ (fuel : Nat) (text : List Char) {c : Cursor},
      c.rest = body ++ quoteMark single :: rest → c.column ≠ 0 → body.length < fuel →
      ∃ c', readFrom single fuel text c = some (text ++ s, c') ∧ c'.rest = rest := by
  induction hs with
  | @word w hw =>
    intro fuel text c hc hcolumn hfuel
    obtain ⟨fuel, rfl⟩ := Nat.exists_eq_add_one_of_ne_zero (Nat.ne_zero_of_lt hfuel)
    obtain ⟨fuel', hfuel', hpiece⟩ := readPiece_word h hw _ hc (Nat.lt_succ_self _)
    obtain ⟨fuel', rfl⟩ := Nat.exists_eq_add_one_of_ne_zero (Nat.ne_zero_of_lt hfuel')
    have hrest' : (c.skip (w.flatMap write).length).rest = quoteMark single :: rest := by simp [hc]
    simp only [readPiece_quoteMark single hrest fuel' hrest', Option.map_some, List.append_nil]
      at hpiece
    refine ⟨_, readFrom_quote hcolumn (by simp [hc]) hpiece fuel text, ?_⟩
    rw [Cursor.rest_skip, hrest']
    rfl
  | @gap w gap gapText s body hw hgap hs hstops ih =>
    intro fuel text c hc hcolumn hfuel
    obtain ⟨fuel, rfl⟩ := Nat.exists_eq_add_one_of_ne_zero (Nat.ne_zero_of_lt hfuel)
    rw [List.append_assoc, List.append_assoc] at hc
    obtain ⟨fuel', hfuel', hpiece⟩ := readPiece_word h hw _ hc (Nat.lt_succ_self _)
    obtain ⟨fuel', rfl⟩ := Nat.exists_eq_add_one_of_ne_zero (Nat.ne_zero_of_lt hfuel')
    have hrest' : (c.skip (w.flatMap write).length).rest =
        gapText ++ (body ++ quoteMark single :: rest) := by simp [hc]
    obtain ⟨a, more, heq, ha⟩ := hgap.exists_cons
    have hgapHere := readPiece_gap single ha fuel' (hrest'.trans (by rw [heq]; rfl))
    simp only [hgapHere, Option.map_some, List.append_nil] at hpiece
    have hstops' : Stops (body ++ quoteMark single :: rest) := by
      cases body with
      | nil => exact stops_cons (isInk_quoteMark single)
      | cons d body => exact stops_cons (hstops d rfl)
    obtain ⟨g, c', hread, hg, hc', hcolumn'⟩ := hgap.read hstops' hrest'
    rw [heq, List.length_append, List.length_append, List.length_cons] at hfuel
    obtain ⟨c'', hmore, hc''⟩ := ih fuel (text ++ w ++ gap) hc' hcolumn' (by omega)
    refine ⟨c'', ?_, hc''⟩
    rw [readFrom_gap hcolumn (by simp [hc]) hpiece hread, hg, hmore]
    simp

theorem read_body {single : Bool} {write : Char → List Char} {p : Char → Prop}
    (h : Reads single write p) {s body : List Char} (hs : Body write p s body) {rest : List Char}
    (hrest : rest.head? ≠ some '\'') {c : Cursor}
    (hc : c.rest = quoteMark single :: body ++ quoteMark single :: rest) :
    ∃ c', read single c = some (s, c') ∧ c'.rest = rest := by
  have hskip : (c.skip 1).rest = body ++ quoteMark single :: rest := by simp [hc]
  exact readFrom_body h hs hrest _ [] hskip (by simp) (by rw [hskip, List.length_append]; omega)

/-! ## Single quotes -/

def writeSingle (c : Char) : List Char := if c = '\'' then ['\'', '\''] else [c]

theorem reads_writeSingle : Reads true writeSingle IsInk where
  ne_nil d _ := by
    unfold writeSingle
    split <;> simp
  readPiece d hd fuel c rest hc := by
    unfold writeSingle at hc ⊢
    by_cases hquote : d = '\''
    · have hink : (isBlank '\'' || isBreak '\'') = false := by decide
      rw [if_pos hquote] at hc ⊢
      simp [readPiece, hc, hink, hquote]
    · rw [if_neg hquote] at hc ⊢
      simp [readPiece, hc, hd.1, hd.2, hquote]

theorem singleQuotedFrom_word {w : List Char} (hw : ∀ c ∈ w, isBreak c = false) (margin s : List Char) :
    singleQuotedFrom margin false (w ++ s) = w.flatMap writeSingle ++ singleQuotedFrom margin false s := by
  induction w with
  | nil => rfl
  | cons c w ih =>
    rw [List.forall_mem_cons] at hw
    simp [singleQuotedFrom, hw.1, ih hw.2, writeSingle]

theorem singleQuotedFrom_breaks {feeds : List Char} (hfeeds : ∀ c ∈ feeds, isBreak c = true)
    (margin s : List Char) :
    singleQuotedFrom margin true (feeds ++ s) = feeds ++ singleQuotedFrom margin true s := by
  induction feeds with
  | nil => rfl
  | cons c feeds ih =>
    rw [List.forall_mem_cons] at hfeeds
    simp [singleQuotedFrom, hfeeds.1, ih hfeeds.2]

theorem singleQuotedFrom_margin {s : List Char} (hs : ∀ c, s.head? = some c → isBreak c = false)
    (margin : List Char) : singleQuotedFrom margin true s = margin ++ singleQuotedFrom margin false s := by
  cases s with
  | nil => simp [singleQuotedFrom]
  | cons c s => simp [singleQuotedFrom, hs c rfl]

theorem stops_singleQuotedFrom {s : List Char} (hs : Stops s) (margin : List Char) :
    Stops (singleQuotedFrom margin false s) := by
  cases s with
  | nil => exact hs
  | cons c s =>
    have hc := hs c rfl
    rw [singleQuotedFrom, hc.2]
    by_cases hquote : c = '\''
    · rw [if_pos hquote]
      exact stops_cons (by decide)
    · rw [if_neg hquote]
      exact stops_cons hc

/-- What does not stand behind a run is not there. -/
theorem head?_of_hasNeighbours {p q : Char → Bool} {run s : List Char} (hne : run ≠ [])
    (hrun : ∀ c ∈ run, p c = true) (h : hasNeighbours (fun a b => p a && q b) (run ++ s) = false) :
    ∀ c, s.head? = some c → q c = false := by
  intro c hc
  obtain ⟨-, -, hbetween⟩ := hasNeighbours_append h
  have hlast := hrun _ (List.getLast_mem hne)
  simpa [hlast] using hbetween _ c (List.getLast?_eq_some_getLast hne) hc

theorem exists_gap (n : Nat) {s : List Char} (hprintable : ∀ c ∈ s, isPrintable c = true)
    (hnewline : '\n' ∉ s) (hbefore : hasNeighbours (fun a b => a = ' ' && isBreak b) s = false)
    (hbehind : hasNeighbours (fun a b => isBreak a && b = ' ') s = false)
    (hne : s ≠ []) (hgap : ∀ c, s.head? = some c → ¬ IsInk c) :
    ∃ gap gapText t, s = gap ++ t ∧ gap ≠ [] ∧ GapText gap gapText ∧ Stops t ∧
      singleQuotedFrom (List.replicate (n + 1) ' ') false s =
        gapText ++ singleQuotedFrom (List.replicate (n + 1) ' ') false t := by
  obtain ⟨c, more, rfl⟩ := List.exists_cons_of_ne_nil hne
  have hc : isPrintable c = true := hprintable c List.mem_cons_self
  by_cases hbreak : isBreak c = true
  · obtain ⟨feeds, t, rfl, hfeeds, ht⟩ := Text.exists_run isBreak more
    have hrun : ∀ b ∈ c :: feeds, isBreak b = true := List.forall_mem_cons.mpr ⟨hbreak, hfeeds⟩
    have hspace := head?_of_hasNeighbours (q := (· = ' ')) (List.cons_ne_nil c feeds) hrun hbehind
    have hmore : ∀ b ∈ feeds, IsFeed b := fun b hb =>
      isFeed_of_isPrintable (hprintable b (by simp [hb])) (hfeeds b hb)
    refine ⟨c :: feeds, c :: feeds ++ List.replicate (n + 1) ' ', t, rfl, List.cons_ne_nil c feeds,
      .breaks (isFeed_of_isPrintable hc hbreak) (fun heq => hnewline (by simp [heq])) hmore n,
      fun d hd => ?_, ?_⟩
    · have hd' : isPrintable d = true := hprintable d (by simp [List.mem_of_mem_head? hd])
      exact (eq_space_or_isInk hd' (ht d hd)).resolve_left (of_decide_eq_false (hspace d hd))
    · rw [singleQuotedFrom, if_pos hbreak, singleQuotedFrom_breaks hfeeds, singleQuotedFrom_margin ht]
      simp
  · rw [Bool.not_eq_true] at hbreak
    have hspace : c = ' ' := (eq_space_or_isInk hc hbreak).resolve_right (hgap c rfl)
    obtain ⟨blanks, t, rfl, hblanks, ht⟩ := Text.exists_run (· = ' ') more
    have hrun : ∀ b ∈ c :: blanks, decide (b = ' ') = true :=
      List.forall_mem_cons.mpr ⟨by simp [hspace], hblanks⟩
    have hbreaks := head?_of_hasNeighbours (List.cons_ne_nil c blanks) hrun hbefore
    have hreplicate : c :: blanks = List.replicate (blanks.length + 1) ' ' :=
      List.eq_replicate_of_mem fun b hb => of_decide_eq_true (hrun b hb)
    refine ⟨c :: blanks, c :: blanks, t, rfl, List.cons_ne_nil c blanks, ?_, fun d hd => ?_, ?_⟩
    · rw [hreplicate]
      exact .blanks blanks.length
    · have hd' : isPrintable d = true := hprintable d (by simp [List.mem_of_mem_head? hd])
      exact (eq_space_or_isInk hd' (hbreaks d hd)).resolve_left (of_decide_eq_false (ht d hd))
    · have hquote : (List.replicate (blanks.length + 1) ' ').flatMap writeSingle =
          List.replicate (blanks.length + 1) ' ' := by
        have hwrite : writeSingle ' ' = [' '] := by decide
        simp [List.flatMap_replicate, hwrite]
      have hbreak : ∀ b ∈ List.replicate (blanks.length + 1) ' ', isBreak b = false := fun b hb => by
        rw [List.eq_of_mem_replicate hb]
        decide
      rw [← List.cons_append, hreplicate, singleQuotedFrom_word hbreak, hquote]

theorem body_singleQuotedFrom (n : Nat) {s : List Char} (hprintable : ∀ c ∈ s, isPrintable c = true)
    (hnewline : '\n' ∉ s) (hbefore : hasNeighbours (fun a b => a = ' ' && isBreak b) s = false)
    (hbehind : hasNeighbours (fun a b => isBreak a && b = ' ') s = false) :
    Body writeSingle IsInk s (singleQuotedFrom (List.replicate (n + 1) ' ') false s) := by
  induction hlength : s.length using Nat.strong_induction_on generalizing s with
  | _ length ih =>
    subst hlength
    obtain ⟨w, rest, rfl, hw, hrest⟩ := Text.exists_run (fun c => decide (IsInk c)) s
    have hw : ∀ c ∈ w, IsInk c := fun c hc => of_decide_eq_true (hw c hc)
    rw [singleQuotedFrom_word fun c hc => (hw c hc).2]
    by_cases hne : rest = []
    · rw [hne, singleQuotedFrom, if_neg Bool.false_ne_true, List.append_nil, List.append_nil]
      exact .word hw
    have hprintable : ∀ c ∈ rest, isPrintable c = true := fun c hc =>
      hprintable c (List.mem_append_right _ hc)
    have hnewline : '\n' ∉ rest := fun hc => hnewline (List.mem_append_right _ hc)
    have hbefore := (hasNeighbours_append hbefore).2.1
    have hbehind := (hasNeighbours_append hbehind).2.1
    obtain ⟨gap, gapText, t, rfl, hgapne, hgap, ht, heq⟩ :=
      exists_gap n hprintable hnewline hbefore hbehind hne
      fun c hc => of_decide_eq_false (hrest c hc)
    rw [heq]
    refine .gap hw hgap (ih t.length ?_ (fun c hc => hprintable c (List.mem_append_right _ hc))
      (fun hc => hnewline (List.mem_append_right _ hc)) (hasNeighbours_append hbefore).2.1
      (hasNeighbours_append hbehind).2.1 rfl) (stops_singleQuotedFrom ht _)
    have hpos := List.length_pos_of_ne_nil hgapne
    simp only [List.length_append]
    omega

theorem read_singleQuoted (n : Nat) {s : List Char} (hfits : fitsSingleQuotes s = true)
    (hnewline : '\n' ∉ s) {rest : List Char} (hrest : rest.head? ≠ some '\'') {c : Cursor}
    (hc : c.rest = singleQuoted (List.replicate (n + 1) ' ') s ++ rest) :
    ∃ c', read true c = some (s, c') ∧ c'.rest = rest := by
  simp only [fitsSingleQuotes, Bool.and_eq_true, Bool.not_eq_true', List.all_eq_true] at hfits
  exact read_body reads_writeSingle (body_singleQuotedFrom n hfits.1.1 hnewline hfits.2 hfits.1.2) hrest
    (by simp [hc, singleQuoted, quoteMark])

/-! ## Double quotes -/

/-- A character is written behind a backslash, by its number, or as it is. -/
theorem escapeChar_cases (c : Char) :
    (∃ mark, escapeChar c = ['\\', mark] ∧ (mark, c) ∈ simpleEscapes) ∨
    (∃ mark n, escapeChar c = '\\' :: mark :: Text.upperHex n c.toNat ∧ escapeLength? mark = some n ∧
      c.toNat < Nat.pow 16 n ∧ isBreak mark = false) ∨
    (escapeChar c = [c] ∧ isPrintable c = true ∧ isBreak c = false ∧ c ≠ '"' ∧ c ≠ '\\') := by
  unfold escapeChar
  split
  · next h =>
    simp only [Bool.and_eq_true, Bool.not_eq_true', decide_eq_true_eq] at h
    exact .inr (.inr ⟨rfl, h.1.1.1, h.1.1.2, h.1.2, h.2⟩)
  split
  · next mark d hfind =>
    have hd : d = c := by simpa using List.find?_some hfind
    exact .inl ⟨mark, rfl, hd ▸ List.mem_of_find?_eq_some hfind⟩
  have hbound : c.toNat < 0x110000 := by
    rcases c.valid with h | h
    · exact Nat.lt_trans h (by decide)
    · exact h.2
  split
  · next h => exact .inr (.inl ⟨'x', 2, rfl, rfl, h, by decide⟩)
  split
  · next h => exact .inr (.inl ⟨'u', 4, rfl, rfl, h, by decide⟩)
  · exact .inr (.inl ⟨'U', 8, rfl, rfl, Nat.lt_trans hbound (by decide), by decide⟩)

theorem readEscape_simple {mark c : Char} (h : (mark, c) ∈ simpleEscapes) (rest : List Char) :
    readEscape (mark :: rest) = some (c, 1) ∧ isBreak mark = false := by
  have hall : ∀ e ∈ simpleEscapes, escapeLength? e.1 = none ∧
      (simpleEscapes ++ furtherEscapes).lookup e.1 = some e.2 ∧ isBreak e.1 = false := by decide
  obtain ⟨hlength, hlookup, hbreak⟩ := hall _ h
  exact ⟨by simp [readEscape, hlength, hlookup], hbreak⟩

theorem readEscape_number {mark c : Char} {n : Nat} (hmark : escapeLength? mark = some n)
    (hc : c.toNat < Nat.pow 16 n) (rest : List Char) :
    readEscape (mark :: (Text.upperHex n c.toNat ++ rest)) = some (c, n + 1) := by
  have hlength := Text.length_upperHex n c.toNat
  simp [readEscape, hmark, hlength, Text.hexValue?_upperHex hc, Text.charOfNat?_toNat]

theorem reads_escapeChar : Reads false escapeChar (· ≠ ' ') where
  ne_nil d _ := by
    rcases escapeChar_cases d with ⟨mark, h, -⟩ | ⟨mark, n, h, -⟩ | ⟨h, -⟩
    all_goals simp [h]
  readPiece d hd fuel c rest hc := by
    have hbackslash : (isBlank '\\' || isBreak '\\') = false := by decide
    rcases escapeChar_cases d with ⟨mark, h, hmem⟩ | ⟨mark, n, h, hmark, hlt, hbreak⟩ |
      ⟨h, hprintable, hbreak, hquote, hslash⟩
    · obtain ⟨hread, hbreak⟩ := readEscape_simple hmem rest
      rw [h] at hc ⊢
      simp [readPiece, hc, hbackslash, hbreak, hread]
    · rw [h] at hc ⊢
      simp [readPiece, hc, hbackslash, hbreak, readEscape_number hmark hlt, Text.length_upperHex]
    · have hink := (eq_space_or_isInk hprintable hbreak).resolve_left hd
      rw [h] at hc ⊢
      simp [readPiece, hc, hink.1, hink.2, hquote, hslash]

theorem stops_escaped {s : List Char} (hs : s.head? ≠ some ' ') : Stops (s.flatMap escapeChar) := by
  cases s with
  | nil => exact fun c hc => nomatch hc
  | cons c s =>
    have hc : c ≠ ' ' := fun hc => hs (by rw [hc]; rfl)
    rw [List.flatMap_cons]
    rcases escapeChar_cases c with ⟨mark, h, -⟩ | ⟨mark, n, h, -⟩ | ⟨h, hprintable, hbreak, -⟩
    · rw [h]
      exact stops_cons (by decide)
    · rw [h]
      exact stops_cons (by decide)
    · rw [h]
      exact stops_cons ((eq_space_or_isInk hprintable hbreak).resolve_left hc)

theorem body_escaped (s : List Char) : Body escapeChar (· ≠ ' ') s (s.flatMap escapeChar) := by
  induction hlength : s.length using Nat.strong_induction_on generalizing s with
  | _ length ih =>
    subst hlength
    obtain ⟨w, n, t, rfl, hw, ht, hzero⟩ := exists_word s
    have hw : ∀ c ∈ w, c ≠ ' ' := fun c hc heq => hw (heq ▸ hc)
    cases n with
    | zero =>
      obtain rfl := hzero rfl
      have hword : Body escapeChar (· ≠ ' ') w (w.flatMap escapeChar) := .word hw
      simpa using hword
    | succ n =>
      have hblanks : (List.replicate (n + 1) ' ').flatMap escapeChar = List.replicate (n + 1) ' ' := by
        have hspace : escapeChar ' ' = [' '] := by decide
        simp [List.flatMap_replicate, hspace]
      rw [List.flatMap_append, List.flatMap_append, hblanks]
      refine .gap hw (.blanks n) (ih t.length ?_ t rfl) (stops_escaped ht)
      simp only [List.length_append, List.length_replicate]
      omega

theorem read_doubleQuoted (s : List Char) {rest : List Char} (hrest : rest.head? ≠ some '\'') {c : Cursor}
    (hc : c.rest = doubleQuoted s ++ rest) : ∃ c', read false c = some (s, c') ∧ c'.rest = rest :=
  read_body reads_escapeChar (body_escaped s) hrest (by simp [hc, doubleQuoted, quoteMark])

end UsageWatch.Yaml.Quoted
