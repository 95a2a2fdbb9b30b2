import UsageWatch.Config.Yaml
import UsageWatch.Proofs.YamlScalars
/-!
# Literal blocks that read back

A text with line feeds is written line by line behind a margin, and the header says what
becomes of the line breaks at its end (`Lines`). A text that begins with a blank or a line
break gives its indentation in the header.
-/

namespace UsageWatch.Yaml.Block

structure IsLine (line : List Char) : Prop where
  ne_nil : line ≠ []
  unbroken : ∀ c ∈ line, isBreak c = false

/-- Lines with line breaks between them, and what keeps the line breaks at the end. -/
inductive Lines.Written : Chomping → List Char → Prop
  | strip {line : List Char} (hline : IsLine line) : Written .strip line
  | clip {line : List Char} {b : Char} (hline : IsLine line) (hb : IsFeed b) :
      Written .clip (line ++ [b])
  | keep {line feeds : List Char} {b b' : Char} (hline : IsLine line) (hb : IsFeed b)
      (hfeeds : ∀ b ∈ b' :: feeds, IsFeed b) : Written .keep (line ++ b :: b' :: feeds)
  | more {line feeds s : List Char} {b : Char} {chomping : Chomping} (hline : IsLine line)
      (hb : IsFeed b) (hfeeds : ∀ b ∈ feeds, IsFeed b) (hs : Written chomping s) :
      Written chomping (line ++ (b :: feeds ++ s))

open Lines (Written)

theorem IsLine.exists_cons {line : List Char} (h : IsLine line) : ∃ c more, line = c :: more ∧
    isBreak c = false := by
  obtain ⟨c, more, rfl⟩ := List.exists_cons_of_ne_nil h.ne_nil
  exact ⟨c, more, rfl, h.unbroken c List.mem_cons_self⟩

theorem Lines.Written.exists_cons {chomping : Chomping} {s : List Char} (h : Written chomping s) :
    ∃ c more, s = c :: more ∧ isBreak c = false := by
  obtain ⟨hline⟩ | ⟨hline, -⟩ | ⟨hline, -⟩ | ⟨hline, -⟩ := h
  all_goals
    obtain ⟨c, more, rfl, hc⟩ := hline.exists_cons
    exact ⟨c, _, rfl, hc⟩

theorem exists_written {s : List Char} (hne : s ≠ []) (hhead : ∀ c, s.head? = some c → isBreak c = false)
    (hfeeds : ∀ c ∈ s, isBreak c = true → IsFeed c) : ∃ chomping, Written chomping s := by
  induction hlength : s.length using Nat.strong_induction_on generalizing s with
  | _ length ih =>
    subst hlength
    obtain ⟨line, rest, rfl, hline, hrest⟩ := Text.exists_run (fun c => !isBreak c) s
    have hline : IsLine line := by
      refine ⟨?_, fun c hc => by simpa using hline c hc⟩
      rintro rfl
      obtain ⟨c, rest, rfl⟩ := List.exists_cons_of_ne_nil hne
      have hbreak := hrest c rfl
      rw [hhead c rfl] at hbreak
      cases hbreak
    cases rest with
    | nil =>
      rw [List.append_nil]
      exact ⟨_, .strip hline⟩
    | cons b rest =>
      obtain ⟨feeds, t, rfl, hmore, ht⟩ := Text.exists_run isBreak rest
      have hb : IsFeed b := hfeeds b (by simp) (by simpa using hrest b rfl)
      have hmore : ∀ b ∈ feeds, IsFeed b := fun b hb => hfeeds b (by simp [hb]) (hmore b hb)
      by_cases htne : t = []
      · rw [htne, List.append_nil]
        cases feeds with
        | nil => exact ⟨_, .clip hline hb⟩
        | cons b' feeds => exact ⟨_, .keep hline hb hmore⟩
      · obtain ⟨chomping, hs⟩ := ih t.length (by simp; omega) htne ht
          (fun c hc => hfeeds c (by simp [hc])) rfl
        exact ⟨chomping, .more hline hb hmore hs⟩

/-! ## Text -/

theorem literalLines_line {line : List Char} (hline : ∀ c ∈ line, isBreak c = false)
    (margin s : List Char) : literalLines margin false (line ++ s) = line ++ literalLines margin false s := by
  induction line with
  | nil => rfl
  | cons c line ih =>
    rw [List.forall_mem_cons] at hline
    simp [literalLines, hline.1, ih hline.2]

theorem literalLines_breaks {feeds : List Char} (hfeeds : ∀ c ∈ feeds, IsFeed c) (margin s : List Char) :
    literalLines margin true (feeds ++ s) = feeds ++ literalLines margin true s := by
  induction feeds with
  | nil => rfl
  | cons c feeds ih =>
    rw [List.forall_mem_cons] at hfeeds
    simp [literalLines, hfeeds.1.isBreak, ih hfeeds.2]

theorem literalLines_break {b : Char} (hb : IsFeed b) (margin s : List Char) :
    literalLines margin false (b :: s) = b :: literalLines margin true s := by
  simp [literalLines, hb.isBreak]

theorem literalLines_margin {chomping : Chomping} {s : List Char} (hs : Written chomping s)
    (margin : List Char) : literalLines margin true s = margin ++ literalLines margin false s := by
  obtain ⟨c, more, rfl, hc⟩ := hs.exists_cons
  simp [literalLines, hc]

def Chomping.mark : Chomping → List Char
  | .strip => ['-']
  | .clip => []
  | .keep => ['+']

/-- The line break that ends a text without one. -/
def Chomping.ending : Chomping → List Char
  | .strip => ['\n']
  | .clip => []
  | .keep => []

def indentHint (s : List Char) : List Char := if s.head?.any isEdge then ['2'] else []

theorem literalHeader_keep {feeds : List Char} (hfeeds : ∀ b ∈ feeds, IsFeed b) (before : List Char)
    (hlength : 2 ≤ feeds.length ∨ before = [] ∧ feeds ≠ []) :
    literalHeader margin (before ++ feeds) = '|' :: (indentHint (before ++ feeds) ++ ['+']) := by
  have hhint : (toString margin.length).toList = ['2'] := by decide
  obtain rfl | ⟨init, c, rfl⟩ := List.eq_nil_or_concat feeds
  · simp at hlength
  have hc : isBreak c = true := (hfeeds c (by simp)).isBreak
  obtain rfl | ⟨init, d, rfl⟩ := List.eq_nil_or_concat init
  · obtain rfl : before = [] := by simpa using hlength
    unfold literalHeader
    rw [hhint]
    simp [indentHint, hc]
  · have hd : isBreak d = true := (hfeeds d (by simp)).isBreak
    unfold literalHeader
    rw [hhint]
    simp [indentHint, hc, hd]

theorem literalHeader_eq {chomping : Chomping} {s : List Char} (hs : Written chomping s)
    (before : List Char) : literalHeader margin (before ++ s) =
      '|' :: (indentHint (before ++ s) ++ chomping.mark) := by
  have hhint : (toString margin.length).toList = ['2'] := by decide
  induction hs generalizing before with
  | @strip line hline =>
    obtain ⟨init, c, rfl⟩ := (List.eq_nil_or_concat line).resolve_left hline.ne_nil
    have hc : isBreak c = false := hline.unbroken c (by simp)
    unfold literalHeader
    rw [hhint]
    simp [indentHint, Chomping.mark, hc]
  | @clip line b hline hb =>
    obtain ⟨init, c, rfl⟩ := (List.eq_nil_or_concat line).resolve_left hline.ne_nil
    have hc : isBreak c = false := hline.unbroken c (by simp)
    unfold literalHeader
    rw [hhint]
    simp [indentHint, Chomping.mark, hc, hb.isBreak]
  | @keep line feeds b b' hline hb hfeeds =>
    rw [← List.append_assoc]
    exact literalHeader_keep (List.forall_mem_cons.mpr ⟨hb, hfeeds⟩) (before ++ line) (.inl (by simp))
  | @more line feeds s b chomping hline hb hfeeds hs ih =>
    simpa using ih (before ++ (line ++ b :: feeds))

theorem ending_eq {chomping : Chomping} {s : List Char} (hs : Written chomping s) (before : List Char) :
    (if (before ++ s).getLast?.any isBreak then [] else ['\n']) = chomping.ending := by
  induction hs generalizing before with
  | @strip line hline =>
    obtain ⟨init, c, rfl⟩ := (List.eq_nil_or_concat line).resolve_left hline.ne_nil
    have hc : isBreak c = false := hline.unbroken c (by simp)
    simp [← List.append_assoc, hc, Chomping.ending]
  | @clip line b hline hb => simp [← List.append_assoc, hb.isBreak, Chomping.ending]
  | @keep line feeds b b' hline hb hfeeds =>
    obtain ⟨init, c, heq⟩ := (List.eq_nil_or_concat (b' :: feeds)).resolve_left (List.cons_ne_nil _ _)
    have hc : isBreak c = true := (hfeeds c (by simp [heq])).isBreak
    have hconcat : before ++ (line ++ b :: (init ++ [c])) = before ++ (line ++ b :: init) ++ [c] := by simp
    rw [heq, List.concat_eq_append, hconcat, List.getLast?_concat]
    simp [hc, Chomping.ending]
  | @more line feeds s b chomping hline hb hfeeds hs ih =>
    simpa using ih (before ++ (line ++ b :: feeds))

/-! ## Margins -/

theorem skipMargin_margin {c : Cursor} {s : List Char} (hc : c.rest = margin ++ s) (hcolumn : c.column = 0) :
    skipMargin (some 2) c = c.skip 2 := by
  simp [skipMargin, hc, hcolumn, margin]

theorem skipMargin_unknown {c : Cursor} {s : List Char} (hc : c.rest = margin ++ s)
    (hs : s.head? ≠ some ' ') : skipMargin none c = c.skip 2 := by
  have hspaces : (margin ++ s).takeWhile (· = ' ') = margin :=
    Text.takeWhile_exact (List.all_eq_true.mp (by decide)) fun a ha => decide_eq_false fun heq => hs (heq ▸ ha)
  rw [skipMargin, hc, hspaces]
  rfl

theorem skipMargin_of_head {c : Cursor} (hc : c.rest.head? ≠ some ' ') (indent : Option Nat) :
    skipMargin indent c = c := by
  have hspaces : c.rest.takeWhile (· = ' ') = [] := by
    cases hrest : c.rest with
    | nil => rfl
    | cons a s =>
      have ha : a ≠ ' ' := fun heq => hc (by rw [hrest, heq]; rfl)
      simp [ha]
  cases indent <;> simp [skipMargin, hspaces]

theorem readMargin_feeds (indent : Option Nat) {s : List Char} {n : Nat}
    (hskip : ∀ c : Cursor, c.rest = s → c.column = 0 → skipMargin indent c = c.skip n)
    (hs : ∀ a, (s.drop n).head? = some a → isBreak a = false ∧ a ≠ '\t') {feeds : List Char}
    (hfeeds : ∀ b ∈ feeds, IsFeed b) (fuel deepest : Nat) (breaks : List Char) {c : Cursor}
    (hc : c.rest = feeds ++ s) (hcolumn : c.column = 0) (hfuel : feeds.length < fuel) :
    ∃ c', readMargin indent fuel deepest breaks c = some (breaks ++ feeds, max deepest n, c') ∧
      c'.rest = s.drop n ∧ c'.column = n := by
  induction feeds generalizing fuel deepest breaks c with
  | nil =>
    obtain ⟨fuel, rfl⟩ := Nat.exists_eq_add_one_of_ne_zero (Nat.ne_zero_of_lt hfuel)
    have hrest : (c.skip n).rest = s.drop n := by simp [hc]
    have hbreak : (c.skip n).takeBreak? = none := Cursor.takeBreak?_eq_none fun a ha => (hs a (hrest ▸ ha)).1
    have htab : (c.skip n).head? ≠ some '\t' := fun ha => (hs '\t' (hrest ▸ ha)).2 rfl
    refine ⟨c.skip n, ?_, hrest, by simp [hcolumn]⟩
    rw [readMargin, hskip c hc hcolumn]
    simp [hbreak, htab, hcolumn]
  | cons b feeds ih =>
    rw [List.forall_mem_cons] at hfeeds
    obtain ⟨fuel, rfl⟩ := Nat.exists_eq_add_one_of_ne_zero (Nat.ne_zero_of_lt hfuel)
    have hspace : b ≠ ' ' ∧ b ≠ '\t' := by
      obtain rfl | rfl | rfl := hfeeds.1 <;> decide
    obtain ⟨c', hread, hc'⟩ := ih hfeeds.2 fuel deepest (breaks ++ [b])
      (c := ⟨feeds ++ s, c.index + 1, c.line + 1, 0⟩) rfl rfl (by simpa using hfuel)
    refine ⟨c', ?_, hc'⟩
    rw [readMargin, skipMargin_of_head (by simp [hc, hspace.1])]
    have htab : c.head? ≠ some '\t' := by simp [Cursor.head?, hc, hspace.2]
    simp [htab, hcolumn, Cursor.takeBreak?_feed hc hfeeds.1, hread]

/-! ## Reading -/

theorem readLines_line {line feeds s : List Char} {b : Char} (hline : IsLine line) (hb : IsFeed b)
    (hfeeds : ∀ b ∈ feeds, IsFeed b) {n : Nat}
    (hskip : ∀ c : Cursor, c.rest = s → c.column = 0 → skipMargin (some 2) c = c.skip n)
    (hs : ∀ a, (s.drop n).head? = some a → isBreak a = false ∧ a ≠ '\t') (fuel : Nat) (l : Lines)
    {c : Cursor} (hc : c.rest = line ++ (b :: feeds ++ s)) (hcolumn : c.column = 2) :
    ∃ indented c', readLines false 2 (fuel + 1) l c =
        readLines false 2 fuel ⟨l.text ++ l.first ++ l.others ++ line, [b], feeds, indented⟩ c' ∧
      c'.rest = s.drop n ∧ c'.column = n := by
  have hrest : (c.skip line.length).rest = b :: (feeds ++ s) := by simp [hc]
  have hbreak := Cursor.takeBreak?_feed hrest hb
  obtain ⟨c', hread, hc'⟩ := readMargin_feeds (some 2) hskip hs hfeeds (feeds.length + s.length + 1)
    0 [] (c := ⟨feeds ++ s, c.index + line.length + 1, c.line + 1, 0⟩) rfl rfl
    (by omega)
  have htext : c.rest.takeWhile (!isBreak ·) = line := by
    rw [hc]
    refine Text.takeWhile_exact (fun a ha => by simp [hline.unbroken a ha]) fun a ha => ?_
    cases ha
    simp [hb.isBreak]
  have hempty : c.rest.isEmpty = false := by simp [hc]
  refine ⟨c.head?.any isBlank, c', ?_, hc'⟩
  rw [readLines, htext]
  simp [hcolumn, hempty, hbreak, hread, Lines.joined]

theorem readLines_end {c : Cursor} (hcolumn : c.column = 0) (fuel : Nat) (l : Lines) :
    readLines false 2 (fuel + 1) l c = some (l, c) := by
  simp [readLines, hcolumn]

theorem skipMargin_stops {s : List Char} (hs : Stops s) (c : Cursor) (hc : c.rest = s) :
    skipMargin (some 2) c = c.skip 0 := by
  refine skipMargin_of_head (fun hspace => ?_) _
  exact absurd (hs ' ' (hc ▸ hspace)) (by decide)

theorem head?_of_stops {s : List Char} (hs : Stops s) :
    ∀ a, (s.drop 0).head? = some a → isBreak a = false ∧ a ≠ '\t' := by
  intro a ha
  refine ⟨(hs a ha).2, ?_⟩
  rintro rfl
  exact absurd (hs '\t' ha) (by decide)

theorem readLines_last {line feeds rest : List Char} {b : Char} (hline : IsLine line) (hb : IsFeed b)
    (hfeeds : ∀ b ∈ feeds, IsFeed b) (hrest : Stops rest) (fuel : Nat) (hfuel : line.length < fuel)
    (l : Lines) {c : Cursor} (hc : c.rest = line ++ (b :: feeds ++ rest)) (hcolumn : c.column = 2) :
    ∃ indented c', readLines false 2 fuel l c =
        some (⟨l.text ++ l.first ++ l.others ++ line, [b], feeds, indented⟩, c') ∧
      c'.rest = rest ∧ c'.column = 0 := by
  have hpos := List.length_pos_of_ne_nil hline.ne_nil
  obtain ⟨fuel, rfl⟩ := Nat.exists_eq_add_of_le' (Nat.le_trans (Nat.succ_le_succ hpos) hfuel)
  obtain ⟨indented, c', hread, hc', hcolumn'⟩ := readLines_line hline hb hfeeds
    (fun c hc _ => skipMargin_stops hrest c hc) (head?_of_stops hrest) (fuel + 1) l hc hcolumn
  rw [readLines_end hcolumn'] at hread
  exact ⟨indented, c', hread, hc', hcolumn'⟩

theorem readLines_written {chomping : Chomping} {s : List Char} (h : Written chomping s)
    (htab : '\t' ∉ s) {rest : List Char} (hrest : Stops rest) (fuel : Nat) (l : Lines) {c : Cursor}
    (hc : c.rest = literalLines margin false s ++ (chomping.ending ++ rest)) (hcolumn : c.column = 2)
    (hfuel : (literalLines margin false s).length < fuel) :
    ∃ l' c', readLines false 2 fuel l c = some (l', c') ∧
      l'.chomped chomping = l.text ++ l.first ++ l.others ++ s ∧ c'.rest = rest ∧ c'.column = 0 := by
  induction h generalizing fuel l c with
  | @strip line hline =>
    have hlines : literalLines margin false line = line := by
      simpa [literalLines] using literalLines_line hline.unbroken margin []
    rw [hlines] at hc hfuel
    obtain ⟨indented, c', hread, hc'⟩ := readLines_last hline (.inl rfl) (List.forall_mem_nil _) hrest
      fuel hfuel l hc hcolumn
    exact ⟨_, c', hread, rfl, hc'⟩
  | @clip line b hline hb =>
    have hlines : literalLines margin false (line ++ [b]) = line ++ [b] := by
      rw [literalLines_line hline.unbroken, literalLines_break hb]
      rfl
    rw [hlines] at hc hfuel
    rw [List.length_append] at hfuel
    obtain ⟨indented, c', hread, hc'⟩ := readLines_last hline hb (List.forall_mem_nil _)
      hrest fuel (by omega) l (by simpa [Chomping.ending] using hc) hcolumn
    exact ⟨_, c', hread, by simp [Lines.chomped], hc'⟩
  | @keep line feeds b b' hline hb hfeeds =>
    have hbreaks := literalLines_breaks hfeeds margin []
    have hlines : literalLines margin false (line ++ b :: b' :: feeds) = line ++ b :: b' :: feeds := by
      rw [literalLines_line hline.unbroken, literalLines_break hb]
      simpa [literalLines] using hbreaks
    rw [hlines] at hc hfuel
    rw [List.length_append] at hfuel
    obtain ⟨indented, c', hread, hc'⟩ := readLines_last hline hb hfeeds hrest fuel (by omega) l
      (by simpa [Chomping.ending] using hc) hcolumn
    exact ⟨_, c', hread, by simp [Lines.chomped], hc'⟩
  | @more line feeds s b chomping hline hb hfeeds hs ih =>
    obtain ⟨d, more, heq, hd⟩ := hs.exists_cons
    have hlines : literalLines margin false (line ++ (b :: feeds ++ s)) =
        line ++ (b :: feeds ++ (margin ++ literalLines margin false s)) := by
      rw [literalLines_line hline.unbroken, List.cons_append, literalLines_break hb,
        literalLines_breaks hfeeds, literalLines_margin hs]
      rfl
    rw [hlines] at hc hfuel
    obtain ⟨fuel, rfl⟩ := Nat.exists_eq_add_one_of_ne_zero (Nat.ne_zero_of_lt hfuel)
    have hnext : ∀ a, ((margin ++ (literalLines margin false s ++ (chomping.ending ++ rest))).drop 2).head? =
        some a → isBreak a = false ∧ a ≠ '\t' := by
      rintro a ha
      obtain rfl : d = a := by simpa [heq, literalLines, hd, margin] using ha
      refine ⟨hd, fun htab' => htab ?_⟩
      simp [heq, htab']
    obtain ⟨indented, c₁, hread, hc₁, hcolumn₁⟩ := readLines_line hline hb hfeeds
      (fun c hc hcolumn => skipMargin_margin hc hcolumn) hnext fuel l (by simpa using hc) hcolumn
    obtain ⟨l', c', hmore, hl', hc'⟩ := ih (fun hmem => htab (by simp [hmem])) fuel
      ⟨l.text ++ l.first ++ l.others ++ line, [b], feeds, indented⟩ hc₁ hcolumn₁
      (by simp only [List.length_append, List.length_cons] at hfuel; omega)
    exact ⟨l', c', hread.trans hmore, by simpa using hl', hc'⟩

/-! ## Blocks -/

def givenIndent (s : List Char) : Option Nat := if s.head?.any isEdge then some 2 else none

theorem readHeader_written (chomping : Chomping) (s : List Char) {t : List Char} {c : Cursor}
    (hc : c.rest = indentHint s ++ (chomping.mark ++ '\n' :: t)) : readHeader c =
      some (⟨chomping, givenIndent s⟩, c.skip (indentHint s ++ chomping.mark).length) := by
  have hdigit : chomping? '2' = none ∧ increment? '2' = some 2 := by decide
  have hmark : chomping? '+' = some .keep ∧ chomping? '-' = some .strip := by decide
  have hbreak : chomping? '\n' = none ∧ increment? '\n' = none := by decide
  unfold indentHint at hc ⊢
  unfold givenIndent
  by_cases hedge : s.head?.any isEdge = true
  · rw [if_pos hedge] at hc
    rw [if_pos hedge, if_pos hedge]
    cases chomping <;>
      simp [readHeader, Cursor.head?, hc, Chomping.mark, hdigit, hmark, hbreak, Cursor.skip_skip]
  · rw [if_neg hedge] at hc
    rw [if_neg hedge, if_neg hedge]
    cases chomping <;>
      simp [readHeader, Cursor.head?, hc, Chomping.mark, hmark, hbreak]

theorem skipToLineEnd?_newline {c : Cursor} {t : List Char} (hc : c.rest = '\n' :: t) :
    c.skipToLineEnd? = some c := by
  have hblank : isBlank '\n' = false := by decide
  have hbreak : isBreak '\n' = true := by decide
  simp [Cursor.skipToLineEnd?, Cursor.skipWhile, Cursor.head?, hc, hblank, hbreak, isLineEnd]

/-- A block whose header is right and whose lines are read. -/
theorem read_eq {chomping : Chomping} {s t rest : List Char} {c : Cursor}
    (hc : c.rest = '|' :: (indentHint s ++ (chomping.mark ++ '\n' :: t)))
    (h : ∀ c : Cursor, c.rest = t → c.column = 0 → ∃ breaks deepest c₁ l c₂,
      readMargin (givenIndent s) (t.length + 1) 0 [] c = some (breaks, deepest, c₁) ∧
      (givenIndent s).getD (max (max deepest 1) 1) = 2 ∧
      readLines false 2 (t.length + 1) { others := breaks } c₁ = some (l, c₂) ∧
      l.chomped chomping = s ∧ c₂.rest = rest ∧ c₂.column = 0) :
    ∃ c', read false 0 c = some (s, c') ∧ c'.rest = rest ∧ c'.column = 0 := by
  have hheader := readHeader_written chomping s (c := c.skip 1) (t := t) (by simp [hc])
  have hnewline : ((c.skip 1).skip (indentHint s ++ chomping.mark).length).rest = '\n' :: t := by
    simp [hc]
  have hbreak := Cursor.takeBreak?_feed hnewline (.inl rfl)
  obtain ⟨breaks, deepest, c₁, l, c₂, hmargin, hindent, hlines, hchomped, hc₂⟩ := h ⟨t, _, _, 0⟩ rfl rfl
  refine ⟨c₂, ?_, hc₂⟩
  have hgiven : (givenIndent s).map (fun n => if (0 : Int) ≤ 0 then (0 : Int).toNat + n else n) =
      givenIndent s := by
    cases givenIndent s <;> simp
  unfold read
  simp only [hheader, Option.bind_eq_bind, Option.bind_some, skipToLineEnd?_newline hnewline,
    Cursor.skipBreak, hbreak, Option.map_some, Option.getD_some, hgiven]
  have hone : ((0 : Int) + 1).toNat = 1 := rfl
  rw [hmargin, Option.bind_some]
  dsimp only
  rw [hone, hindent, hlines, Option.bind_some, hchomped]

theorem givenIndent_of_isFeed {b : Char} (hb : IsFeed b) (s : List Char) : givenIndent (b :: s) = some 2 := by
  simp [givenIndent, isEdge, hb.isBreak]

/-- The first line with something on it is where the header or its own blanks tell. -/
theorem skipMargin_given {feeds s : List Char} (hfeeds : ∀ b ∈ feeds, IsFeed b)
    (hhead : ∃ c more, s = c :: more ∧ isBreak c = false) {c : Cursor} {more : List Char}
    (hmore : more.head? = s.head?) (hc : c.rest = margin ++ more) (hcolumn : c.column = 0) :
    skipMargin (givenIndent (feeds ++ s)) c = c.skip 2 := by
  cases feeds with
  | cons b feeds =>
    rw [List.cons_append, givenIndent_of_isFeed (hfeeds b List.mem_cons_self)]
    exact skipMargin_margin hc hcolumn
  | nil =>
    obtain ⟨d, s, rfl, hd⟩ := hhead
    by_cases hspace : d = ' '
    · have hgiven : givenIndent ([] ++ d :: s) = some 2 := by simp [givenIndent, isEdge, hspace]
      rw [hgiven]
      exact skipMargin_margin hc hcolumn
    · have hgiven : givenIndent ([] ++ d :: s) = none := by simp [givenIndent, isEdge, hspace, hd]
      rw [hgiven]
      exact skipMargin_unknown hc (by rw [hmore]; simpa using hspace)

theorem read_written {chomping : Chomping} {feeds s : List Char} (hfeeds : ∀ b ∈ feeds, IsFeed b)
    (hs : Written chomping s) (htab : '\t' ∉ s) {rest : List Char} (hrest : Stops rest) {c : Cursor}
    (hc : c.rest = '|' :: (indentHint (feeds ++ s) ++ (chomping.mark ++ '\n' ::
      (feeds ++ (margin ++ (literalLines margin false s ++ (chomping.ending ++ rest))))))) :
    ∃ c', read false 0 c = some (feeds ++ s, c') ∧ c'.rest = rest ∧ c'.column = 0 := by
  refine read_eq hc fun c hc hcolumn => ?_
  obtain ⟨d, more, heq, hd⟩ := hs.exists_cons
  have hmore : (literalLines margin false s ++ (chomping.ending ++ rest)).head? = s.head? := by
    simp [heq, literalLines, hd]
  have hnext : ∀ a, ((margin ++ (literalLines margin false s ++ (chomping.ending ++ rest))).drop 2).head? =
      some a → isBreak a = false ∧ a ≠ '\t' := by
    intro a ha
    obtain rfl : d = a := by simpa [heq, literalLines, hd, margin] using ha
    exact ⟨hd, fun htab' => htab (by simp [heq, htab'])⟩
  obtain ⟨c₁, hmargin, hc₁, hcolumn₁⟩ := readMargin_feeds (givenIndent (feeds ++ s))
    (fun c hc hcolumn => skipMargin_given hfeeds hs.exists_cons hmore hc hcolumn) hnext hfeeds
    (c.rest.length + 1) 0 [] hc hcolumn (by rw [hc, List.length_append]; omega)
  obtain ⟨l, c₂, hlines, hchomped, hc₂⟩ := readLines_written hs htab hrest (c.rest.length + 1)
    { others := feeds } hc₁ hcolumn₁ (by rw [hc]; simp only [List.length_append]; omega)
  rw [hc] at hmargin hlines
  refine ⟨feeds, 2, c₁, l, c₂, hmargin, ?_, hlines, hchomped, hc₂⟩
  unfold givenIndent
  split <;> rfl

theorem read_feeds {feeds : List Char} (hne : feeds ≠ []) (hfeeds : ∀ b ∈ feeds, IsFeed b)
    {rest : List Char} (hrest : Stops rest) {c : Cursor}
    (hc : c.rest = '|' :: (indentHint feeds ++ (Chomping.keep.mark ++ '\n' :: (feeds ++ rest)))) :
    ∃ c', read false 0 c = some (feeds, c') ∧ c'.rest = rest ∧ c'.column = 0 := by
  refine read_eq hc fun c hc hcolumn => ?_
  obtain ⟨b, feeds, rfl⟩ := List.exists_cons_of_ne_nil hne
  rw [givenIndent_of_isFeed (hfeeds b List.mem_cons_self)]
  obtain ⟨c₁, hmargin, hc₁, hcolumn₁⟩ := readMargin_feeds (some 2)
    (fun c hc _ => skipMargin_stops hrest c hc) (head?_of_stops hrest) hfeeds
    ((b :: feeds ++ rest).length + 1) 0 [] hc hcolumn (by rw [List.length_append]; omega)
  exact ⟨_, _, c₁, _, _, hmargin, rfl, readLines_end hcolumn₁ _ _, rfl, hc₁, hcolumn₁⟩

theorem read_literal {s : List Char} (hprintable : ∀ c ∈ s, isPrintable c = true) (hne : s ≠ [])
    {rest : List Char} (hrest : Stops rest) {c : Cursor}
    (hc : c.rest = literalHeader margin s ++ '\n' :: literalLines margin true s
      ++ (if s.getLast?.any isBreak then [] else ['\n']) ++ rest) :
    ∃ c', read false 0 c = some (s, c') ∧ c'.rest = rest ∧ c'.column = 0 := by
  obtain ⟨feeds, t, rfl, hfeeds, ht⟩ := Text.exists_run isBreak s
  have hfeeds : ∀ b ∈ feeds, IsFeed b := fun b hb =>
    isFeed_of_isPrintable (hprintable b (by simp [hb])) (hfeeds b hb)
  by_cases htne : t = []
  · rw [htne, List.append_nil] at hne hc ⊢
    have hheader := literalHeader_keep hfeeds [] (.inr ⟨rfl, hne⟩)
    have hlines := literalLines_breaks hfeeds margin []
    have hlast : feeds.getLast?.any isBreak = true := by
      rw [List.getLast?_eq_some_getLast hne]
      exact (hfeeds _ (List.getLast_mem hne)).isBreak
    simp only [List.nil_append, List.append_nil, literalLines] at hheader hlines
    exact read_feeds hne hfeeds hrest (by simp [hc, hheader, hlines, hlast, Chomping.mark])
  · obtain ⟨chomping, hs⟩ := exists_written htne ht fun c hc hbreak =>
      isFeed_of_isPrintable (hprintable c (by simp [hc])) hbreak
    have htab : '\t' ∉ t := fun hmem => absurd (hprintable '\t' (by simp [hmem])) (by decide)
    refine read_written hfeeds hs htab hrest ?_
    rw [hc, literalHeader_eq hs, literalLines_breaks hfeeds, literalLines_margin hs, ending_eq hs]
    simp

end UsageWatch.Yaml.Block
