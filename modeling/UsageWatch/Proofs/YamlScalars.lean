import Mathlib.Data.List.Basic
import UsageWatch.Proofs.TextRuns
import UsageWatch.Yaml.Scalar.Block
import UsageWatch.Yaml.Scalar.Plain
import UsageWatch.Yaml.Scalar.Printer
import UsageWatch.Yaml.Scalar.Quoted
/-!
# Scalars that read back

A text is written as pieces without gaps and the gaps between them. Each of the four styles
is read as the text it was written for, up to the line break behind it.
-/

namespace UsageWatch.Yaml

/-! ## Characters -/

/-- What neither parts words nor lines. -/
def IsInk (c : Char) : Prop := isBlank c = false ∧ isBreak c = false

instance (c : Char) : Decidable (IsInk c) :=
  inferInstanceAs (Decidable (isBlank c = false ∧ isBreak c = false))

def Stops (s : List Char) : Prop := ∀ c, s.head? = some c → IsInk c

/-- A line break that is kept as it is. -/
def IsFeed (c : Char) : Prop := c = '\n' ∨ c = '\u2028' ∨ c = '\u2029'

theorem IsFeed.isBreak {c : Char} (h : IsFeed c) : Yaml.isBreak c = true := by
  rcases h with rfl | rfl | rfl <;> decide

theorem isFeed_of_isPrintable {c : Char} (hprintable : isPrintable c = true)
    (hbreak : Yaml.isBreak c = true) : IsFeed c := by
  simp only [Yaml.isBreak, Bool.or_eq_true, decide_eq_true_eq] at hbreak
  rcases hbreak with (((h | rfl) | rfl) | h) | h
  · exact .inl h
  · exact absurd hprintable (by decide)
  · exact absurd hprintable (by decide)
  · exact .inr (.inl h)
  · exact .inr (.inr h)

theorem eq_space_or_isInk {c : Char} (hprintable : isPrintable c = true) (hbreak : isBreak c = false) :
    c = ' ' ∨ IsInk c := by
  by_cases hspace : c = ' '
  · exact .inl hspace
  · have htab : c ≠ '\t' := by
      rintro rfl
      exact absurd hprintable (by decide)
    exact .inr ⟨by simp [isBlank, hspace, htab], hbreak⟩

theorem stops_cons {c : Char} {s : List Char} (h : IsInk c) : Stops (c :: s) := by
  intro d hd
  cases hd
  exact h

theorem isGap_of_stops {c : Char} {s : List Char} (h : Stops (c :: s)) : isGap (c :: s) = false := by
  have hink := h c rfl
  simp [isGap, hink.1, hink.2]

theorem hasNeighbours_append {p : Char → Char → Bool} {s t : List Char}
    (h : hasNeighbours p (s ++ t) = false) : hasNeighbours p s = false ∧ hasNeighbours p t = false ∧
      ∀ a b, s.getLast? = some a → t.head? = some b → p a b = false := by
  induction s with
  | nil => exact ⟨rfl, h, by simp⟩
  | cons c s ih =>
    cases s with
    | nil =>
      cases t with
      | nil => exact ⟨rfl, rfl, by simp⟩
      | cons d t =>
        simp only [List.singleton_append, hasNeighbours, Bool.or_eq_false_iff] at h
        refine ⟨rfl, h.2, ?_⟩
        rintro a b ⟨⟩ ⟨⟩
        exact h.1
    | cons d s =>
      simp only [List.cons_append, hasNeighbours, Bool.or_eq_false_iff] at h ih ⊢
      obtain ⟨hs, ht, hbetween⟩ := ih h.2
      exact ⟨⟨h.1, hs⟩, ht, by simpa using hbetween⟩

/-- A text as a word without blanks, and the blanks behind it if anything follows. -/
theorem exists_word (s : List Char) : ∃ w n t, s = w ++ (List.replicate n ' ' ++ t) ∧ ' ' ∉ w ∧
    t.head? ≠ some ' ' ∧ (n = 0 → t = []) := by
  obtain ⟨w, rest, rfl, hw, hrest⟩ := Text.exists_run (· ≠ ' ') s
  obtain ⟨blanks, t, rfl, hblanks, ht⟩ := Text.exists_run (· = ' ') rest
  have hreplicate : blanks = List.replicate blanks.length ' ' :=
    List.eq_replicate_of_mem fun c hc => by simpa using hblanks c hc
  refine ⟨w, blanks.length, t, by rw [← hreplicate], fun hmem => by simpa using hw ' ' hmem,
    fun hhead => by simpa using ht ' ' hhead, fun hzero => ?_⟩
  obtain rfl := List.eq_nil_of_length_eq_zero hzero
  cases t with
  | nil => rfl
  | cons c t =>
    have hspace : c = ' ' := by simpa using hrest c rfl
    exact absurd hspace (by simpa using ht c rfl)

/-! ## Cursors -/

namespace Cursor

@[simp] theorem rest_skip (c : Cursor) (n : Nat) : (c.skip n).rest = c.rest.drop n := rfl
@[simp] theorem column_skip (c : Cursor) (n : Nat) : (c.skip n).column = c.column + n := rfl
@[simp] theorem index_skip (c : Cursor) (n : Nat) : (c.skip n).index = c.index + n := rfl
@[simp] theorem line_skip (c : Cursor) (n : Nat) : (c.skip n).line = c.line := rfl
@[simp] theorem skip_zero (c : Cursor) : c.skip 0 = c := rfl

theorem skip_skip (c : Cursor) (m n : Nat) : (c.skip m).skip n = c.skip (m + n) := by
  simp [skip, List.drop_drop, Nat.add_assoc]

theorem takeBreak?_feed {c : Cursor} {b : Char} {s : List Char} (hrest : c.rest = b :: s)
    (hb : IsFeed b) : c.takeBreak? = some ([b], ⟨s, c.index + 1, c.line + 1, 0⟩) := by
  rcases hb with rfl | rfl | rfl <;> simp [takeBreak?, hrest, isBreak]

theorem takeBreak?_eq_none {c : Cursor} (h : ∀ a, c.rest.head? = some a → isBreak a = false) :
    c.takeBreak? = none := by
  unfold takeBreak?
  split
  · next hrest => exact absurd (h '\r' (by rw [hrest]; rfl)) (by decide)
  · next b s _ hrest =>
    have hb : isBreak b = false := h b (by rw [hrest]; rfl)
    simp [hb]
  · rfl

theorem takeBreak?_of_stops {c : Cursor} (h : Stops c.rest) : c.takeBreak? = none :=
  takeBreak?_eq_none fun a ha => (h a ha).2

theorem atDocumentMark_of_column {c : Cursor} (h : c.column ≠ 0) : c.atDocumentMark = false := by
  simp [atDocumentMark, h]

end Cursor

/-! ## Gaps -/

namespace Gap

theorem read_of_stops {c : Cursor} (h : Stops c.rest) (indent fuel : Nat) (g : Gap) :
    read indent (fuel + 1) g c = some (g, c) := by
  rw [read, Cursor.takeBreak?_of_stops h]
  dsimp only
  cases hhead : c.head? with
  | none => rfl
  | some a => simp [(h a hhead).1]

theorem read_blank {c : Cursor} {s : List Char} (hrest : c.rest = ' ' :: s) (indent fuel : Nat) (g : Gap) :
    read indent (fuel + 1) g c = read indent fuel (g.addBlank ' ') (c.skip 1) := by
  have hbreak : c.takeBreak? = none := Cursor.takeBreak?_eq_none fun a ha => by
    rw [hrest] at ha
    cases ha
    decide
  have hhead : c.head? = some ' ' := by rw [Cursor.head?, hrest]; rfl
  have hblank : isBlank ' ' = true := by decide
  rw [read, hbreak]
  dsimp only
  rw [hhead]
  simp [hblank]

theorem read_feed {c : Cursor} {b : Char} {s : List Char} (hrest : c.rest = b :: s) (hb : IsFeed b)
    (indent fuel : Nat) (g : Gap) : read indent (fuel + 1) g c =
      read indent fuel (g.addBreak [b]) ⟨s, c.index + 1, c.line + 1, 0⟩ := by
  rw [read, Cursor.takeBreak?_feed hrest hb]

theorem read_blanks {s : List Char} (hs : Stops s) (indent m : Nat) : ∀ (fuel : Nat) (g : Gap) {c : Cursor},
    c.rest = List.replicate m ' ' ++ s → m < fuel →
      read indent fuel g c =
        some (if g.broken then g else { g with blanks := g.blanks ++ List.replicate m ' ' }, c.skip m) := by
  induction m with
  | zero =>
    intro fuel g c hrest hfuel
    obtain ⟨fuel, rfl⟩ := Nat.exists_eq_add_one_of_ne_zero (Nat.ne_zero_of_lt hfuel)
    have hstops : Stops c.rest := hrest ▸ hs
    simp [read_of_stops hstops]
  | succ m ih =>
    intro fuel g c hrest hfuel
    obtain ⟨fuel, rfl⟩ := Nat.exists_eq_add_one_of_ne_zero (Nat.ne_zero_of_lt hfuel)
    have hcons : c.rest = ' ' :: (List.replicate m ' ' ++ s) := by rw [hrest, List.replicate_succ]; rfl
    rw [read_blank hcons, ih fuel (g.addBlank ' ') (by simp [hcons]) (by omega), Cursor.skip_skip,
      Nat.add_comm 1]
    cases hbroken : g.broken <;> simp [addBlank, hbroken, List.replicate_succ]

theorem read_feeds {s feeds : List Char} (hs : Stops s) (hfeeds : ∀ b ∈ feeds, IsFeed b) (indent m : Nat) :
    ∀ (fuel : Nat) {g : Gap} {c : Cursor}, g.broken = true → c.column = 0 →
      c.rest = feeds ++ (List.replicate m ' ' ++ s) → feeds.length + m < fuel →
      ∃ c', read indent fuel g c = some ({ g with others := g.others ++ feeds }, c') ∧
        c'.rest = s ∧ c'.column = m := by
  induction feeds with
  | nil =>
    intro fuel g c hbroken hcolumn hrest hfuel
    refine ⟨c.skip m, ?_, ?_, ?_⟩
    · rw [read_blanks hs indent m fuel g hrest (by simpa using hfuel), if_pos hbroken]
      simp
    · simp [hrest]
    · simp [hcolumn]
  | cons b feeds ih =>
    intro fuel g c hbroken hcolumn hrest hfuel
    rw [List.forall_mem_cons] at hfeeds
    obtain ⟨fuel, rfl⟩ := Nat.exists_eq_add_one_of_ne_zero (Nat.ne_zero_of_lt hfuel)
    rw [List.length_cons] at hfuel
    rw [List.cons_append] at hrest
    obtain ⟨c', hread, hc'⟩ := ih hfeeds.2 fuel (g := g.addBreak [b])
      (c := ⟨feeds ++ (List.replicate m ' ' ++ s), c.index + 1, c.line + 1, 0⟩)
      (by simp [addBreak, hbroken]) rfl rfl (by omega)
    refine ⟨c', ?_, hc'⟩
    rw [read_feed hrest hfeeds.1, hread]
    simp [addBreak, hbroken]

theorem read_break {s : List Char} {b : Char} (hs : Stops s) (hb : IsFeed b) {feeds : List Char}
    (hfeeds : ∀ b ∈ feeds, IsFeed b) (indent m fuel : Nat) {c : Cursor}
    (hrest : c.rest = b :: feeds ++ (List.replicate m ' ' ++ s)) (hfuel : (b :: feeds).length + m < fuel) :
    ∃ c', read indent fuel {} c = some ({ broken := true, first := [b], others := feeds }, c') ∧
      c'.rest = s ∧ c'.column = m := by
  obtain ⟨fuel, rfl⟩ := Nat.exists_eq_add_one_of_ne_zero (Nat.ne_zero_of_lt hfuel)
  rw [List.length_cons] at hfuel
  rw [List.cons_append] at hrest
  obtain ⟨c', hread, hc'⟩ := read_feeds hs hfeeds indent m fuel
    (g := { broken := true, first := [b] })
    (c := ⟨feeds ++ (List.replicate m ' ' ++ s), c.index + 1, c.line + 1, 0⟩) rfl rfl rfl (by omega)
  refine ⟨c', ?_, hc'⟩
  rw [read_feed hrest hb]
  exact hread

end Gap

/-! ## Plain scalars -/

namespace Plain

structure IsPiece (w : List Char) : Prop where
  ne_nil : w ≠ []
  ink : ∀ c ∈ w, IsInk c
  last : w.getLast? ≠ some ':'

/-- Pieces with blanks between them. None behind the first begins like a comment. -/
inductive IsText : List Char → Prop
  | piece {w : List Char} (hw : IsPiece w) : IsText w
  | blanks {w s : List Char} (hw : IsPiece w) (n : Nat) (hs : IsText s) (hcomment : s.head? ≠ some '#') :
    IsText (w ++ (List.replicate (n + 1) ' ' ++ s))

theorem IsText.exists_ink {s : List Char} (h : IsText s) : ∃ c more, s = c :: more ∧ IsInk c := by
  obtain ⟨hw⟩ | ⟨hw, n, -, -⟩ := h
  all_goals
    obtain ⟨c, w, rfl⟩ := List.exists_cons_of_ne_nil hw.ne_nil
    exact ⟨c, _, rfl, hw.ink c List.mem_cons_self⟩

theorem readPiece_append {w : List Char} (hw : IsPiece w) {s : List Char}
    (hs : readPiece false s = some []) : readPiece false (w ++ s) = some w := by
  obtain ⟨hne, hink, hlast⟩ := hw
  induction w with
  | nil => exact absurd rfl hne
  | cons c w ih =>
    rw [List.forall_mem_cons] at hink
    cases w with
    | nil =>
      have hc : c ≠ ':' := fun hc => hlast (by rw [hc]; rfl)
      simp [readPiece, hink.1.1, hink.1.2, hc, hs]
    | cons d w =>
      have hgap : isGap (d :: (w ++ s)) = false := isGap_of_stops (stops_cons (hink.2 d List.mem_cons_self))
      have hmore := ih (by simp) hink.2 (by simpa using hlast)
      rw [List.cons_append, List.cons_append, readPiece, ← List.cons_append, hmore]
      simp [hink.1.1, hink.1.2, hgap]

theorem readPiece_blank (s : List Char) : readPiece false (' ' :: s) = some [] := by
  simp [readPiece, isBlank]

theorem readPiece_newline (s : List Char) : readPiece false ('\n' :: s) = some [] := by
  simp [readPiece, isBreak]

theorem readPiece_colon {s : List Char} (h : isGap s = true) : readPiece false (':' :: s) = some [] := by
  simp [readPiece, isBlank, isBreak, h]

theorem readFrom_piece {w s : List Char} (hw : IsPiece w) (hs : readPiece false s = some [])
    (hgap : isGap s = true) (hne : s ≠ []) {indent fuel : Nat} {text : List Char} {gap gap' : Gap}
    {c c' : Cursor} (hc : c.rest = w ++ s) (hcomment : w.head? ≠ some '#') (hcolumn : c.column ≠ 0)
    (hread : Gap.read indent (s.length + 1) {} (c.skip w.length) = some (gap', c')) :
    readFrom false indent (fuel + 1) text gap c =
      if c'.column < indent then some (text ++ gap.text ++ w, gap'.broken, c')
      else readFrom false indent fuel (text ++ gap.text ++ w) gap' c' := by
  have hpiece : readPiece false c.rest = some w := by
    rw [hc]
    exact readPiece_append hw hs
  have hhead : c.head? ≠ some '#' := by
    obtain ⟨d, w, rfl⟩ := List.exists_cons_of_ne_nil hw.ne_nil
    rw [Cursor.head?, hc]
    exact hcomment
  have hrest : (c.skip w.length).rest = s := by simp [hc]
  have hempty : w.isEmpty = false := by simpa using hw.ne_nil
  have hsempty : s.isEmpty = false := by simpa using hne
  rw [readFrom, Cursor.atDocumentMark_of_column hcolumn]
  simp only [hhead, hpiece, hempty, hrest, hsempty, hgap, hread, decide_false, Bool.or_self,
    Bool.not_false, Bool.and_self, Bool.true_and, Bool.false_eq_true, if_false, if_true,
    Option.bind_eq_bind, Option.bind_some, decide_eq_true_eq]

/-- A plain text is read to the end of its line and on to what stands on the next one. -/
theorem readFrom_eq {s : List Char} (h : IsText s) {rest : List Char} (hrest : Stops rest) {m indent : Nat}
    (hindent : m < indent) : ∀ (fuel : Nat) (text : List Char) (gap : Gap) {c : Cursor},
      c.rest = s ++ '\n' :: (List.replicate m ' ' ++ rest) → s.head? ≠ some '#' → indent ≤ c.column →
      s.length < fuel →
      ∃ c', readFrom false indent fuel text gap c = some (text ++ gap.text ++ s, true, c') ∧
        c'.rest = rest ∧ c'.column = m := by
  induction h with
  | @piece w hw =>
    intro fuel text gap c hc hcomment hcolumn hfuel
    obtain ⟨fuel, rfl⟩ := Nat.exists_eq_add_one_of_ne_zero (Nat.ne_zero_of_lt hfuel)
    obtain ⟨c', hread, hc', hcolumn'⟩ := Gap.read_break hrest (.inl rfl)
      (List.forall_mem_nil IsFeed) indent m (('\n' :: (List.replicate m ' ' ++ rest)).length + 1)
      (c := c.skip w.length) (by simp [hc]) (by simp; omega)
    refine ⟨c', ?_, hc', hcolumn'⟩
    rw [readFrom_piece hw (readPiece_newline _) rfl (by simp) hc hcomment (by omega) hread,
      if_pos (by omega)]
  | @blanks w s hw n hs hcomment' ih =>
    intro fuel text gap c hc hcomment hcolumn hfuel
    obtain ⟨fuel, rfl⟩ := Nat.exists_eq_add_one_of_ne_zero (Nat.ne_zero_of_lt hfuel)
    obtain ⟨d, more, hd, hink⟩ := hs.exists_ink
    have hblanks : c.rest = w ++ (List.replicate (n + 1) ' ' ++
        (s ++ '\n' :: (List.replicate m ' ' ++ rest))) := by simp [hc]
    have hstops : Stops (s ++ '\n' :: (List.replicate m ' ' ++ rest)) := by
      rw [hd]
      exact stops_cons hink
    have hread := Gap.read_blanks hstops indent (n + 1)
      ((List.replicate (n + 1) ' ' ++ (s ++ '\n' :: (List.replicate m ' ' ++ rest))).length + 1) {}
      (c := c.skip w.length) (by simp [hblanks])
      (by rw [List.length_append, List.length_replicate]; omega)
    have hwhead : w.head? ≠ some '#' := by
      obtain ⟨d, w, rfl⟩ := List.exists_cons_of_ne_nil hw.ne_nil
      exact hcomment
    rw [readFrom_piece hw (by rw [List.replicate_succ]; exact readPiece_blank _) rfl (by simp) hblanks
        hwhead (by omega) hread,
      if_neg (by simp; omega)]
    obtain ⟨c', hmore, hc'⟩ := ih fuel (text ++ gap.text ++ w)
      { blanks := List.replicate (n + 1) ' ' } (c := (c.skip w.length).skip (n + 1))
      (by simp [hblanks]) hcomment' (by simp; omega)
      (by simp only [List.length_append, List.length_replicate] at hfuel; omega)
    refine ⟨c', ?_, hc'⟩
    simpa [Gap.text] using hmore

theorem read_text {s : List Char} (h : IsText s) (hcomment : s.head? ≠ some '#') {rest : List Char}
    (hrest : Stops rest) {m indent : Nat} (hindent : m < indent) {c : Cursor}
    (hc : c.rest = s ++ '\n' :: (List.replicate m ' ' ++ rest)) (hcolumn : indent ≤ c.column) :
    ∃ c', read false indent c = some (s, true, c') ∧ c'.rest = rest ∧ c'.column = m :=
  readFrom_eq h hrest hindent _ [] {} hc hcomment hcolumn (by rw [hc, List.length_append]; omega)

theorem read_key {w : List Char} (hw : IsPiece w) {rest : List Char} (hrest : isGap rest = true)
    {c : Cursor} (hc : c.rest = w ++ ':' :: rest) (hcomment : w.head? ≠ some '#')
    (hmark : c.atDocumentMark = false) (indent : Nat) :
    read false indent c = some (w, false, c.skip w.length) := by
  have hpiece : readPiece false c.rest = some w := by
    rw [hc]
    exact readPiece_append hw (readPiece_colon hrest)
  have hhead : c.head? ≠ some '#' := by
    obtain ⟨d, w, rfl⟩ := List.exists_cons_of_ne_nil hw.ne_nil
    rw [Cursor.head?, hc]
    exact hcomment
  have hgap : isGap (c.rest.drop w.length) = false := by
    rw [hc, List.drop_left]
    rfl
  rw [read, readFrom, hmark]
  simp [hhead, hpiece, hw.ne_nil, hgap, Gap.text]

theorem isText_of_tidy {s : List Char} (hne : s ≠ []) (hink : ∀ c ∈ s, c = ' ' ∨ IsInk c)
    (hhead : s.head? ≠ some ' ') (hlast : s.getLast? ≠ some ' ')
    (hcolon : hasNeighbours (fun a b => a = ':' && isGapChar b) s = false)
    (hcolonLast : s.getLast? ≠ some ':')
    (hcomment : hasNeighbours (fun a b => isGapChar a && b = '#') s = false) : IsText s := by
  induction hlength : s.length using Nat.strong_induction_on generalizing s with
  | _ length ih =>
    subst hlength
    obtain ⟨w, n, t, rfl, hw, ht, hzero⟩ := exists_word s
    have hwne : w ≠ [] := by
      rintro rfl
      cases n with
      | zero => simp [hzero rfl] at hne
      | succ n => simp [List.replicate_succ] at hhead
    have hwink : ∀ c ∈ w, IsInk c := fun c hc =>
      (hink c (List.mem_append_left _ hc)).resolve_left fun heq => hw (heq ▸ hc)
    cases n with
    | zero =>
      obtain rfl := hzero rfl
      simp only [List.replicate_zero, List.append_nil] at hcolonLast ⊢
      exact .piece ⟨hwne, hwink, hcolonLast⟩
    | succ n =>
      have htne : t ≠ [] := by
        rintro rfl
        simp [List.replicate_succ', ← List.append_assoc] at hlast
      rw [List.getLast?_append_of_ne_nil _ (by simp), List.getLast?_append_of_ne_nil _ htne]
        at hlast hcolonLast
      obtain ⟨-, hcolon, hcolonBetween⟩ := hasNeighbours_append hcolon
      obtain ⟨-, hcolon, -⟩ := hasNeighbours_append hcolon
      obtain ⟨-, hcomment, -⟩ := hasNeighbours_append hcomment
      obtain ⟨-, hcomment, hcommentBetween⟩ := hasNeighbours_append hcomment
      have hpiece : IsPiece w := ⟨hwne, hwink, fun hw => by
        simpa [isGapChar, isBlank] using hcolonBetween ':' ' ' hw rfl⟩
      have hcommentHead : t.head? ≠ some '#' := fun hhash => by
        have hlastBlank : (List.replicate (n + 1) ' ').getLast? = some ' ' := by
          rw [List.replicate_succ', List.getLast?_concat]
        simpa [isGapChar, isBlank] using hcommentBetween ' ' '#' hlastBlank hhash
      have hlength : t.length < (w ++ (List.replicate (n + 1) ' ' ++ t)).length := by simp; omega
      exact .blanks hpiece n (ih t.length hlength htne (fun c hc => hink c (by simp [hc])) ht hlast
        hcolon hcolonLast hcomment rfl) hcommentHead

theorem isText_of_fitsPlain {s : List Char} (hne : s ≠ []) (h : fitsPlain s = true) : IsText s := by
  simp only [fitsPlain, hasIndicator, Bool.and_eq_true, Bool.not_eq_true', Bool.or_eq_false_iff] at h
  obtain ⟨⟨⟨⟨hprintable, hbreak⟩, hhead⟩, hlast⟩, ⟨⟨-, hindicator⟩, hstop⟩, hcomment⟩ := h
  rw [List.all_eq_true] at hprintable
  rw [List.any_eq_false] at hbreak
  obtain ⟨c, rest, rfl⟩ := List.exists_cons_of_ne_nil hne
  simp only [beginsWithIndicator, Bool.or_eq_false_iff] at hindicator
  simp only [hasColonStop, Bool.or_eq_false_iff, decide_eq_false_iff_not] at hstop
  have hfirst : c = ':' → beginsWithGap rest = false := by
    rintro rfl
    simpa using hindicator.2
  refine isText_of_tidy hne
    (fun c hc => eq_space_or_isInk (hprintable c hc) (Bool.not_eq_true _ ▸ hbreak c hc)) ?_ ?_ ?_ ?_ hcomment
  · intro hspace
    simp [hspace, isEdge] at hhead
  · intro hspace
    simp [hspace, isEdge] at hlast
  · cases rest with
    | nil => rfl
    | cons d rest =>
      simp only [hasNeighbours, Bool.or_eq_false_iff]
      refine ⟨?_, hstop.1⟩
      by_cases hc : c = ':'
      · simpa [hc, beginsWithGap] using hfirst hc
      · simp [hc]
  · cases rest with
    | nil =>
      rintro ⟨⟩
      exact absurd (hfirst rfl) (by decide)
    | cons d rest => simpa using hstop.2

end Plain

end UsageWatch.Yaml
