import UsageWatch.Json.Printer
import UsageWatch.Json.Reader
import UsageWatch.Proofs.Numeral
import UsageWatch.Proofs.TextRuns
/-!
# Values that read back from their text

A value of texts, truth values and whole numbers that are not negative, in lists and
structures (`Writable`), is what its text says, indented or on one line: both are the
same tokens with other gaps between them (`enclosed`). Only a number ends where something
else begins, so what stands behind a value matters just for numbers (`Stops`).
-/

namespace UsageWatch.Json

/-! ## Blanks -/

theorem skipSpace_append {blanks : List Char} (h : ∀ c ∈ blanks, isSpace c = true) (s : List Char) :
    skipSpace (blanks ++ s) = skipSpace s :=
  List.dropWhile_append_of_pos h

theorem skipSpace_cons {c : Char} (h : isSpace c = false) (s : List Char) :
    skipSpace (c :: s) = c :: s :=
  List.dropWhile_cons_of_neg (by simp [h])

/-! ## Strings -/

/-- A character is written behind a backslash, by its number, or as it is. -/
theorem escapeChar_cases (c : Char) :
    (∃ e, escapeChar c = ['\\', e] ∧ e ≠ 'u' ∧ simpleEscape? e = some c) ∨
    (c.toNat < 32 ∧ escapeChar c = '\\' :: 'u' :: '0' :: '0' ::
      [Text.lowerHexDigit (c.toNat / 16), Text.lowerHexDigit (c.toNat % 16)]) ∨
    (32 ≤ c.toNat ∧ c ≠ '"' ∧ c ≠ '\\' ∧ escapeChar c = [c]) := by
  unfold escapeChar
  iterate 7
    split
    · next h => exact .inl ⟨_, rfl, by decide, by rw [h]; rfl⟩
  split
  · next h => exact .inr (.inl ⟨h, rfl⟩)
  · next hquote hbackslash _ _ _ _ _ h => exact .inr (.inr ⟨by omega, hquote, hbackslash, rfl⟩)

theorem readUnits_escapeChar (c : Char) (s : List Char) :
    readUnits (escapeChar c ++ s) =
      (readUnits s).map fun (units, rest) => (.char c :: units, rest) := by
  rcases escapeChar_cases c with ⟨e, heq, he, hc⟩ | ⟨hcontrol, heq⟩ | ⟨hc, hquote, hbackslash, heq⟩
  · rw [heq]
    cases h : readUnits s <;> simp [readUnits, he, hc, h]
  · have hvalue : Text.hexValue? ['0', '0', Text.lowerHexDigit (c.toNat / 16),
        Text.lowerHexDigit (c.toNat % 16)] = some c.toNat := by
      have hhigh := Text.hexDigit?_lowerHexDigit (c.toNat / 16) (by omega)
      have hlow := Text.hexDigit?_lowerHexDigit (c.toNat % 16) (by omega)
      have hzero : Text.hexDigit? '0' = some 0 := by decide
      simp only [Text.hexValue?, List.foldlM_cons, List.foldlM_nil, hzero, hhigh, hlow, Option.map_some,
        Option.bind_eq_bind, Option.bind_some]
      exact congrArg some (by omega)
    have hunit : Unit16.ofNat c.toNat = .char c := by
      have hhigh : isHighSurrogate c.toNat = false := by simp [isHighSurrogate]; omega
      have hlow : isLowSurrogate c.toNat = false := by simp [isLowSurrogate]; omega
      simp [Unit16.ofNat, hhigh, hlow]
    rw [heq]
    cases h : readUnits s <;> simp [readUnits, hvalue, hunit, h]
  · rw [heq]
    cases h : readUnits s <;> simp [readUnits, hbackslash, hc, h]

theorem readText_escape (s : String) (rest : List Char) :
    readText (escape s.toList ++ '"' :: rest) = some (some s, rest) := by
  have hread : readUnits (escape s.toList ++ '"' :: rest) = some (s.toList.map .char, rest) := by
    induction s.toList with
    | nil => rfl
    | cons c s ih =>
      have hcons : escape (c :: s) ++ '"' :: rest = escapeChar c ++ (escape s ++ '"' :: rest) := by
        simp [escape]
      rw [hcons, readUnits_escapeChar, ih]
      rfl
  have hjoin : joinUnits (s.toList.map .char) = some s.toList := by
    clear hread
    induction s.toList with
    | nil => rfl
    | cons c s ih => simp [joinUnits, ih]
  rw [readText, hread]
  simp [hjoin]

/-! ## Numbers -/

/-- What does not go on with a number. -/
def Stops (rest : List Char) : Prop :=
  ∀ c, rest.head? = some c → c.isDigit = false ∧ c ≠ '.' ∧ c ≠ 'e' ∧ c ≠ 'E'

theorem isDigit_eq (c : Char) : isDigit c = c.isDigit := by
  rw [Bool.eq_iff_iff, Text.isDigit_iff, isDigit, decimalDigit?]
  split <;> simp [*]

theorem readNumber_toDigits (n : Nat) {rest : List Char} (h : Stops rest) :
    readNumber (Nat.toDigits 10 n ++ rest) = some (.ofNat n, rest) := by
  have hdigits : ∀ c ∈ Nat.toDigits 10 n, isDigit c = true := fun c hc => by
    rw [isDigit_eq]
    exact Text.isDigit_of_mem_toDigits hc
  have hend : ∀ c, rest.head? = some c → isDigit c = false := fun c hc => by
    rw [isDigit_eq]
    exact (h c hc).1
  have hfraction : readFraction rest = some (none, rest) := by
    cases rest with
    | nil => rfl
    | cons c rest => simp [readFraction, (h c rfl).2.1]
  have hexponent : readExponent rest = some (none, rest) := by
    cases rest with
    | nil => rfl
    | cons c rest => simp [readExponent, (h c rfl).2.2]
  have hvalue : digitsValue 0 (Nat.toDigits 10 n) = n := by
    rw [digitsValue, Text.foldl_digits, Nat.ofDigitChars_ten_toDigits]
  have hmagnitude : readMagnitude false (Nat.toDigits 10 n ++ rest) = some (.ofNat n, rest) := by
    unfold readMagnitude
    rw [Text.takeWhile_exact hdigits hend, Text.dropWhile_exact hdigits hend]
    dsimp only
    split
    · next hnil => exact absurd hnil Nat.toDigits_ne_nil
    · next hzero => cases Text.toDigits_zero_cons hzero
    · simp [hfraction, hexponent, hvalue, ofNat]
  obtain ⟨d, ds, hds, hd⟩ := Text.exists_toDigits_cons n
  have hminus : d ≠ '-' := fun hminus => by
    rw [hminus] at hd
    exact absurd hd (by decide)
  rw [← hmagnitude, hds]
  simp [readNumber, hminus]

/-! ## Values -/

/-- A text that reads back as `j`, also with blanks in front and other texts behind.
Every step of the reader takes a character of it, so `fuel` beyond their number is enough. -/
structure ReadsBack (j : Json) (text : List Char) : Prop where
  begins : ∃ c more, text = c :: more ∧ isSpace c = false ∧ c ≠ ']'
  read : ∀ (fuel : Nat) {blanks : List Char} (rest : List Char), (∀ c ∈ blanks, isSpace c = true) →
    Stops rest → text.length < fuel → readValue fuel (blanks ++ text ++ rest) = some (j, rest)

theorem ReadsBack.of_read {j : Json} {c : Char} {more : List Char} (hspace : isSpace c = false)
    (hbracket : c ≠ ']')
    (hread : ∀ fuel rest, Stops rest → (c :: more).length ≤ fuel →
      readValue (fuel + 1) (c :: more ++ rest) = some (j, rest)) : ReadsBack j (c :: more) := by
  refine ⟨⟨c, more, rfl, hspace, hbracket⟩, ?_⟩
  intro fuel blanks rest hblanks hrest hfuel
  obtain ⟨fuel, rfl⟩ := Nat.exists_eq_add_one_of_ne_zero (Nat.ne_zero_of_lt hfuel)
  have hskip : readValue (fuel + 1) (blanks ++ (c :: more ++ rest)) =
      readValue (fuel + 1) (c :: more ++ rest) := by
    rw [readValue, readValue, skipSpace_append hblanks]
  rw [List.append_assoc, hskip]
  exact hread fuel rest hrest (Nat.le_of_lt_succ hfuel)

theorem ReadsBack.length_pos {j : Json} {text : List Char} (h : ReadsBack j text) :
    0 < text.length := by
  obtain ⟨c, more, hc, -⟩ := h.begins
  simp [hc]

theorem readsBack_bool (b : Bool) : ReadsBack (.bool b) (if b then "true" else "false").toList := by
  cases b
  · have htext : (if false = true then "true" else "false").toList = ['f', 'a', 'l', 's', 'e'] := by simp
    rw [htext]
    refine .of_read (by decide) (by decide) fun fuel rest _ _ => ?_
    simp [readValue, skipSpace, isSpace, expect]
  · have htext : (if true = true then "true" else "false").toList = ['t', 'r', 'u', 'e'] := by simp
    rw [htext]
    refine .of_read (by decide) (by decide) fun fuel rest _ _ => ?_
    simp [readValue, skipSpace, isSpace, expect]

theorem isSpace_of_isDigit {c : Char} (h : c.isDigit = true) : isSpace c = false := by
  have hne : ∀ d : Char, d.isDigit = false → c ≠ d := fun d hd heq => by
    rw [heq, hd] at h
    cases h
  simp [isSpace, hne]

theorem readsBack_ofNat (n : Nat) : ReadsBack (.ofNat n) (toString n).toList := by
  rw [Nat.toString_eq_repr, Nat.toList_repr]
  obtain ⟨d, ds, hds, hd⟩ := Text.exists_toDigits_cons n
  have hne : ∀ c : Char, c.isDigit = false → d ≠ c := fun c hc heq => by
    rw [heq, hc] at hd
    cases hd
  have hspace : isSpace d = false := isSpace_of_isDigit hd
  rw [hds]
  refine .of_read hspace (hne _ (by decide)) fun fuel rest hrest _ => ?_
  have hread := readNumber_toDigits n hrest
  rw [hds] at hread
  rw [readValue, List.cons_append, skipSpace_cons hspace]
  simpa [hne] using hread

theorem readsBack_ofString (s : String) : ReadsBack (.ofString s) (quoted s).toList := by
  have htext : (quoted s).toList = '"' :: (escape s.toList ++ ['"']) := by simp [quoted]
  rw [htext]
  refine .of_read (by decide) (by decide) fun fuel rest _ _ => ?_
  have hrest : '"' :: (escape s.toList ++ ['"']) ++ rest = '"' :: (escape s.toList ++ '"' :: rest) := by
    simp
  rw [hrest, readValue, skipSpace_cons (by decide)]
  simp [readText_escape, ofString]

/-! ## Lists and structures -/

def joined (gap : List Char) (entries : List (List Char)) : List Char :=
  (',' :: gap).intercalate entries

def enclosed (left right : Char) (gap lastGap : List Char) (entries : List (List Char)) : List Char :=
  if entries.isEmpty then [left, right]
  else left :: (gap ++ (joined gap entries ++ (lastGap ++ [right])))

theorem joined_cons_cons (gap text text' : List Char) (texts : List (List Char)) :
    joined gap (text :: text' :: texts) = text ++ ',' :: (gap ++ joined gap (text' :: texts)) := by
  rw [joined, List.intercalate_cons_cons, List.append_assoc, List.cons_append, joined]

theorem append_joined_cons_cons (gap text text' : List Char) (texts : List (List Char))
    (blanks behind : List Char) :
    blanks ++ joined gap (text :: text' :: texts) ++ behind =
      blanks ++ text ++ ',' :: (gap ++ joined gap (text' :: texts) ++ behind) := by
  rw [joined_cons_cons]
  simp

theorem stops_cons {c : Char} (h : c.isDigit = false ∧ c ≠ '.' ∧ c ≠ 'e' ∧ c ≠ 'E') (rest : List Char) :
    Stops (c :: rest) := by
  intro _ hc
  cases hc
  exact h

section

variable {gap lastGap : List Char} (hgap : ∀ c ∈ gap, isSpace c = true)
  (hlast : ∀ c ∈ lastGap, isSpace c = true)

include hlast

theorem stops_append {rest : List Char} (h : Stops rest) : Stops (lastGap ++ rest) := by
  cases lastGap with
  | nil => exact h
  | cons c more =>
    have hspace : isSpace c = true := hlast c List.mem_cons_self
    refine stops_cons ?_ _
    simp only [isSpace, Bool.or_eq_true, decide_eq_true_eq] at hspace
    rcases hspace with ((rfl | rfl) | rfl) | rfl <;> decide

theorem skipSpace_append_cons {c : Char} (h : isSpace c = false) (rest : List Char) :
    skipSpace (lastGap ++ c :: rest) = c :: rest := by
  rw [skipSpace_append hlast, skipSpace_cons h]

include hgap

theorem readItems_joined {items : List Json} {texts : List (List Char)}
    (h : List.Forall₂ ReadsBack items texts) (hne : items ≠ []) (rest : List Char) :
    ∀ (fuel : Nat) {blanks : List Char}, (∀ c ∈ blanks, isSpace c = true) →
      (joined gap texts).length + 1 < fuel →
      readItems fuel (blanks ++ joined gap texts ++ (lastGap ++ ']' :: rest)) = some (items, rest) := by
  induction h with
  | nil => exact absurd rfl hne
  | @cons j text items texts hj htexts ih =>
    intro fuel blanks hblanks hfuel
    obtain ⟨fuel, rfl⟩ := Nat.exists_eq_add_one_of_ne_zero (Nat.ne_zero_of_lt hfuel)
    cases htexts with
    | nil =>
      rw [joined, List.intercalate_singleton] at hfuel ⊢
      have hstops : Stops (lastGap ++ ']' :: rest) := stops_append hlast (stops_cons (by decide) _)
      have hread := hj.read fuel _ hblanks hstops (by omega)
      have hskip := skipSpace_append_cons hlast (c := ']') (by decide) rest
      simp only [readItems, hread, hskip, Option.bind_eq_bind, Option.bind_some]
    | @cons j' text' items texts hj' htexts =>
      have hpos := hj.length_pos
      rw [joined_cons_cons, List.length_append, List.length_cons, List.length_append] at hfuel
      have hread := hj.read fuel (',' :: (gap ++ joined gap (text' :: texts) ++ (lastGap ++ ']' :: rest)))
        hblanks (stops_cons (by decide) _) (by omega)
      have hmore := ih (by simp) fuel hgap (by omega)
      have hskip : ∀ s, skipSpace (',' :: s) = ',' :: s := fun s => skipSpace_cons (by decide) s
      rw [append_joined_cons_cons]
      simp only [readItems, hread, hskip, hmore, Option.bind_eq_bind, Option.bind_some]

end

inductive MemberReadsBack : Option String × Json → List Char → Prop
  | intro (name : String) {j : Json} {text blanks : List Char} (hblanks : ∀ c ∈ blanks, isSpace c = true)
    (h : ReadsBack j text) :
    MemberReadsBack (some name, j) ((quoted name).toList ++ ':' :: (blanks ++ text))

theorem toList_quoted_append (name : String) (s : List Char) :
    (quoted name).toList ++ s = '"' :: (escape name.toList ++ '"' :: s) := by
  simp [quoted]

theorem MemberReadsBack.begins {m : Option String × Json} {text : List Char}
    (h : MemberReadsBack m text) : ∃ more, text = '"' :: more := by
  obtain ⟨name, -, -⟩ := h
  exact ⟨_, toList_quoted_append name _⟩

/-- A member is read up to what stands behind it, and `skipSpace rest` says what that is. -/
theorem MemberReadsBack.read {m : Option String × Json} {text : List Char} (h : MemberReadsBack m text)
    {fuel : Nat} {blanks rest : List Char} (hblanks : ∀ c ∈ blanks, isSpace c = true) (hrest : Stops rest)
    (hfuel : text.length ≤ fuel) :
    (∀ s, skipSpace rest = '\x7d' :: s →
      readMembers (fuel + 1) (blanks ++ text ++ rest) = some ([m], s)) ∧
    ∀ s, skipSpace rest = ',' :: s → readMembers (fuel + 1) (blanks ++ text ++ rest) =
      (readMembers fuel s).map fun more => (m :: more.1, more.2) := by
  obtain @⟨name, j, text, inner, hinner, hj⟩ := h
  have hkey : ∀ s, skipSpace (blanks ++ ((quoted name).toList ++ s)) =
      '"' :: (escape name.toList ++ '"' :: s) := fun s => by
    rw [skipSpace_append hblanks, toList_quoted_append, skipSpace_cons (by decide)]
  have hcolon : ∀ s, skipSpace (':' :: s) = ':' :: s := fun s => skipSpace_cons (by decide) s
  have hsplit : blanks ++ ((quoted name).toList ++ ':' :: (inner ++ text)) ++ rest =
      blanks ++ ((quoted name).toList ++ ':' :: (inner ++ text ++ rest)) := by simp
  have hread := hj.read fuel rest hinner hrest (by
    rw [List.length_append, List.length_cons, List.length_append] at hfuel
    omega)
  rw [hsplit]
  refine ⟨fun s hs => ?_, fun s hs => ?_⟩
  · simp only [readMembers, hkey, readText_escape, hcolon, hread, hs, Option.bind_eq_bind,
      Option.bind_some]
  · simp only [readMembers, hkey, readText_escape, hcolon, hread, hs, Option.bind_eq_bind,
      Option.bind_some]
    cases readMembers fuel s <;> rfl

section

variable {gap lastGap : List Char} (hgap : ∀ c ∈ gap, isSpace c = true)
  (hlast : ∀ c ∈ lastGap, isSpace c = true)

include hgap hlast

theorem readMembers_joined {members : List (Option String × Json)}
    {texts : List (List Char)} (h : List.Forall₂ MemberReadsBack members texts) (hne : members ≠ [])
    (rest : List Char) :
    ∀ (fuel : Nat) {blanks : List Char}, (∀ c ∈ blanks, isSpace c = true) →
      (joined gap texts).length + 1 < fuel →
      readMembers fuel (blanks ++ joined gap texts ++ (lastGap ++ '\x7d' :: rest)) =
        some (members, rest) := by
  induction h with
  | nil => exact absurd rfl hne
  | @cons m text members texts hm htexts ih =>
    intro fuel blanks hblanks hfuel
    obtain ⟨fuel, rfl⟩ := Nat.exists_eq_add_one_of_ne_zero (Nat.ne_zero_of_lt hfuel)
    cases htexts with
    | nil =>
      rw [joined, List.intercalate_singleton] at hfuel ⊢
      have hstops : Stops (lastGap ++ '\x7d' :: rest) := stops_append hlast (stops_cons (by decide) _)
      exact (hm.read hblanks hstops (by omega)).1 rest (skipSpace_append_cons hlast (by decide) rest)
    | @cons m' text' members texts hm' htexts =>
      obtain ⟨more, hmore⟩ := hm.begins
      have hpos : 0 < text.length := by simp [hmore]
      rw [joined_cons_cons, List.length_append, List.length_cons, List.length_append] at hfuel
      have hread := ih (by simp) fuel hgap (by omega)
      rw [append_joined_cons_cons, (hm.read hblanks (stops_cons (by decide) _) (by omega)).2 _
        (skipSpace_cons (by decide) _), hread]
      rfl

omit hgap hlast

/-- Entries between brackets read back if what stands behind the opening bracket does. -/
theorem ReadsBack.of_joined {j : Json} {left right : Char} (hspace : isSpace left = false)
    (hbracket : left ≠ ']') {text : List Char} (texts : List (List Char))
    (hbegins : ∃ c more, text = c :: more ∧ isSpace c = false ∧ c ≠ right)
    (hread : ∀ fuel rest c more, isSpace c = false → c ≠ right →
      joined gap (text :: texts) ++ (lastGap ++ right :: rest) = c :: more →
      (joined gap (text :: texts)).length + 1 < fuel →
      readValue (fuel + 1) (left :: (gap ++ c :: more)) = some (j, rest)) :
    ReadsBack j (enclosed left right gap lastGap (text :: texts)) := by
  refine .of_read hspace hbracket fun fuel rest _ hfuel => ?_
  obtain ⟨c, more, htext, hc, hne⟩ := hbegins
  obtain ⟨more, hlines⟩ : ∃ more, joined gap (text :: texts) ++ (lastGap ++ right :: rest) = c :: more := by
    cases texts with
    | nil => exact ⟨_, by rw [joined, List.intercalate_singleton, htext]; rfl⟩
    | cons text' texts => exact ⟨_, by rw [joined_cons_cons, htext]; rfl⟩
  have hsplit : left :: (gap ++ (joined gap (text :: texts) ++ (lastGap ++ [right]))) ++ rest =
      left :: (gap ++ c :: more) := by
    simp [← hlines]
  rw [hsplit]
  refine hread fuel rest c more hc hne hlines ?_
  simp only [List.length_cons, List.length_append] at hfuel
  omega

include hgap hlast

theorem readsBack_array {items : List Json} {texts : List (List Char)}
    (h : List.Forall₂ ReadsBack items texts) :
    ReadsBack (.array items) (enclosed '[' ']' gap lastGap texts) := by
  match items, texts, h with
  | [], [], _ =>
    refine .of_read (by decide) (by decide) fun fuel rest _ _ => ?_
    simp [readValue, skipSpace, isSpace]
  | j :: items, text :: texts, .cons hj htexts =>
    refine .of_joined (by decide) (by decide) texts hj.begins ?_
    intro fuel rest c more hspace hne hlines hfuel
    have hread := readItems_joined hgap hlast (.cons hj htexts) (by simp) rest fuel
      (List.forall_mem_nil _) hfuel
    rw [List.nil_append, hlines] at hread
    have hopening : ∀ s, skipSpace ('[' :: s) = '[' :: s := fun s => skipSpace_cons (by decide) s
    simp only [readValue, hopening, skipSpace_append_cons hgap hspace]
    simp [hne, hread]

theorem readsBack_object {members : List (Option String × Json)} {texts : List (List Char)}
    (h : List.Forall₂ MemberReadsBack members texts) :
    ReadsBack (.object members) (enclosed '\x7b' '\x7d' gap lastGap texts) := by
  match members, texts, h with
  | [], [], _ =>
    refine .of_read (by decide) (by decide) fun fuel rest _ _ => ?_
    simp [readValue, skipSpace, isSpace]
  | m :: members, text :: texts, .cons hm htexts =>
    obtain ⟨more, hmore⟩ := hm.begins
    refine .of_joined (by decide) (by decide) texts ⟨'"', more, hmore, by decide, by decide⟩ ?_
    intro fuel rest c more hspace hne hlines hfuel
    have hread := readMembers_joined hgap hlast (.cons hm htexts) (by simp) rest fuel
      (List.forall_mem_nil _) hfuel
    rw [List.nil_append, hlines] at hread
    have hopening : ∀ s, skipSpace ('\x7b' :: s) = '\x7b' :: s := fun s => skipSpace_cons (by decide) s
    simp only [readValue, hopening, skipSpace_append_cons hgap hspace]
    simp [hne, hread]

end

/-! ## Whole texts -/

inductive Writable : Json → Prop
  | bool (b : Bool) : Writable (.bool b)
  | number (n : Nat) : Writable (.ofNat n)
  | text (s : String) : Writable (.ofString s)
  | array {items : List Json} (h : ∀ j ∈ items, Writable j) : Writable (.array items)
  | object {members : List (Option String × Json)} (hnames : ∀ m ∈ members, m.1.isSome)
    (h : ∀ m ∈ members, Writable m.2) : Writable (.object members)

theorem Writable.ofMembers {members : List (String × Json)} (h : ∀ m ∈ members, Writable m.2) :
    Writable (Json.ofMembers members) := by
  refine .object ?_ ?_
  · intro entry hentry
    obtain ⟨m, -, rfl⟩ := List.mem_map.mp hentry
    rfl
  · intro entry hentry
    obtain ⟨m, hm, rfl⟩ := List.mem_map.mp hentry
    exact h m hm

theorem forall₂_map_right {α β : Type} {R : α → β → Prop} {f : α → β} {l : List α}
    (h : ∀ a ∈ l, R a (f a)) : List.Forall₂ R l (l.map f) := by
  rw [List.forall₂_map_right_iff, List.forall₂_same]
  exact h

theorem memberReadsBack_literal {m : Option String × Json} (hname : m.1.isSome) {blanks text : List Char}
    (hblanks : ∀ c ∈ blanks, isSpace c = true) (h : ReadsBack m.2 text) :
    MemberReadsBack m ((literal m.1).toList ++ ':' :: (blanks ++ text)) := by
  obtain ⟨name, hname⟩ := Option.isSome_iff_exists.mp hname
  have hmember := MemberReadsBack.intro name hblanks h
  rwa [← hname, ← literal, ← hname] at hmember

/-! ## Indented texts -/

def margin (width : Nat) : List Char := '\n' :: List.replicate width ' '

theorem isSpace_of_mem_margin (width : Nat) : ∀ c ∈ margin width, isSpace c = true := by
  intro c hc
  rcases List.mem_cons.mp hc with rfl | hc
  · decide
  · rw [List.eq_of_mem_replicate hc]
    decide

theorem toList_newline_pushn (n : Nat) : ("\n".pushn ' ' n).toList = margin n := by
  rw [Text.toList_pushn]
  rfl

theorem toList_bracketed {opening closing : String} (left right : Char) (hleft : opening.toList = [left])
    (hright : closing.toList = [right]) (depth : Nat) (entries : List String) :
    (bracketed opening closing depth entries).toList =
      enclosed left right (margin (2 * (depth + 1))) (margin (2 * depth)) (entries.map String.toList) := by
  cases entries with
  | nil => simp [bracketed, enclosed, hleft, hright]
  | cons entry entries =>
    simp [bracketed, enclosed, joined, String.toList_intercalate, toList_newline_pushn, hleft, hright]

theorem prettyItems_eq_map (depth : Nat) (items : List Json) :
    prettyItems depth items = items.map (prettyAt depth) := by
  induction items with
  | nil => rfl
  | cons j items ih => rw [prettyItems, ih, List.map_cons]

theorem prettyMembers_eq_map (depth : Nat) (members : List (Option String × Json)) :
    prettyMembers depth members =
      members.map fun m => literal m.1 ++ ": " ++ prettyAt depth m.2 := by
  induction members with
  | nil => rfl
  | cons m members ih => rw [prettyMembers, ih, List.map_cons]

theorem Writable.readsBack_pretty {j : Json} (h : Writable j) :
    ∀ depth, ReadsBack j (prettyAt depth j).toList := by
  induction h with
  | bool b =>
    intro depth
    rw [prettyAt]
    exact readsBack_bool b
  | number n =>
    intro depth
    have htext : prettyAt depth (.ofNat n) = toString n := by simp [ofNat, prettyAt, integerText]
    rw [htext]
    exact readsBack_ofNat n
  | text s => exact fun _ => readsBack_ofString s
  | array _ ih =>
    intro depth
    rw [prettyAt, prettyItems_eq_map, toList_bracketed '[' ']' (by simp) (by simp), List.map_map]
    refine readsBack_array (isSpace_of_mem_margin _) (isSpace_of_mem_margin _) (forall₂_map_right ?_)
    exact fun j hj => ih j hj _
  | object hnames _ ih =>
    intro depth
    rw [prettyAt, prettyMembers_eq_map, toList_bracketed '\x7b' '\x7d' (by simp) (by simp), List.map_map]
    refine readsBack_object (isSpace_of_mem_margin _) (isSpace_of_mem_margin _) (forall₂_map_right ?_)
    intro m hm
    have hblank : ∀ c ∈ [' '], isSpace c = true := List.all_eq_true.mp (by decide)
    have hmember := memberReadsBack_literal (hnames m hm) hblank (ih m hm (depth + 1))
    simpa using hmember

/-! ## Texts on one line -/

theorem compactItems_eq_map (items : List Json) : compactItems items = items.map compact := by
  induction items with
  | nil => rfl
  | cons j items ih => rw [compactItems, ih, List.map_cons]

theorem compactMembers_eq_map (members : List (Option String × Json)) :
    compactMembers members = members.map fun m => literal m.1 ++ ":" ++ compact m.2 := by
  induction members with
  | nil => rfl
  | cons m members ih => rw [compactMembers, ih, List.map_cons]

theorem toList_enclosed {opening closing : String} (left right : Char) (hleft : opening.toList = [left])
    (hright : closing.toList = [right]) (entries : List String) :
    (opening ++ ",".intercalate entries ++ closing).toList =
      enclosed left right [] [] (entries.map String.toList) := by
  cases entries with
  | nil => simp [enclosed, hleft, hright]
  | cons entry entries => simp [enclosed, joined, String.toList_intercalate, hleft, hright]

theorem Writable.readsBack_compact {j : Json} (h : Writable j) : ReadsBack j j.compact.toList := by
  induction h with
  | bool b =>
    rw [compact]
    exact readsBack_bool b
  | number n =>
    have htext : compact (.ofNat n) = toString n := by simp [ofNat, compact, integerText]
    rw [htext]
    exact readsBack_ofNat n
  | text s => exact readsBack_ofString s
  | array _ ih =>
    rw [compact, compactItems_eq_map, toList_enclosed '[' ']' (by simp) (by simp), List.map_map]
    exact readsBack_array (List.forall_mem_nil _) (List.forall_mem_nil _) (forall₂_map_right ih)
  | object hnames _ ih =>
    rw [compact, compactMembers_eq_map, toList_enclosed '\x7b' '\x7d' (by simp) (by simp), List.map_map]
    refine readsBack_object (List.forall_mem_nil _) (List.forall_mem_nil _) (forall₂_map_right ?_)
    intro m hm
    have hmember := memberReadsBack_literal (hnames m hm) (List.forall_mem_nil _) (ih m hm)
    simpa using hmember

theorem ReadsBack.parse?_eq {j : Json} {s : String} (h : ReadsBack j s.toList) : parse? s = some j := by
  have hread := h.read (s.toList.length + 1) [] (List.forall_mem_nil _) (fun _ hc => by cases hc)
    (Nat.lt_succ_self _)
  rw [List.nil_append, List.append_nil] at hread
  simp only [parse?, hread, Option.bind_eq_bind, Option.bind_some]
  rfl

theorem Writable.parse?_pretty {j : Json} (h : Writable j) : parse? j.pretty = some j :=
  (h.readsBack_pretty 0).parse?_eq

theorem Writable.parse?_compact {j : Json} (h : Writable j) : parse? j.compact = some j :=
  h.readsBack_compact.parse?_eq

end UsageWatch.Json
