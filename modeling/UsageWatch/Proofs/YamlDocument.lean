import UsageWatch.Proofs.YamlTokens
import UsageWatch.Yaml.Document
/-!
# Documents that read back

A document with entries below each other, and a block of entries under the last key
(`Outline.Reads.parse?`). Lines in front of it do not count if they are empty or comments.
-/

namespace UsageWatch.Yaml

open TokenReader

/-! ## Nodes -/

theorem readNode_mapping {place : Place} (h : place.isBlock = true) (fuel : Nat) (names : Names)
    (ts : List Token) : readNode place (fuel + 1) names (.blockMappingStart :: ts) =
      (readBlockEntries fuel names ts).bind fun r => some (.mapping none r.1, r.2.1, r.2.2) := by
  cases place with
  | flow => cases h
  | block => rfl
  | inMapping => rfl

def TokenReader.Entry.node (e : Entry) : Node × Node :=
  (.scalar none none .plain e.key, .scalar none none e.style e.value)

theorem readBlockEntries_entry (e : Entry) (fuel : Nat) (names : Names) (ts : List Token) :
    readBlockEntries (fuel + 2) names (e.tokens ++ ts) =
      (readBlockEntries (fuel + 1) names ts).bind fun r => some (e.node :: r.1, r.2.1, r.2.2) :=
  rfl

theorem readBlockEntries_entries (es : List Entry) (fuel : Nat) (names : Names) (ts : List Token) :
    readBlockEntries (fuel + 1 + es.length) names (es.flatMap Entry.tokens ++ ts) =
      (readBlockEntries (fuel + 1) names ts).bind
        fun r => some (es.map Entry.node ++ r.1, r.2.1, r.2.2) := by
  induction es with
  | nil => cases hread : readBlockEntries (fuel + 1) names ts <;> simp [hread]
  | cons e es ih =>
    have hfuel : fuel + 1 + (e :: es).length = fuel + es.length + 2 := by
      rw [List.length_cons]
      omega
    have hfuel' : fuel + es.length + 1 = fuel + 1 + es.length := by omega
    rw [hfuel, List.flatMap_cons, List.append_assoc, readBlockEntries_entry, hfuel', ih, Option.bind_assoc]
    rfl

/-- Entries, and under the last key a block of further ones. -/
structure Outline where
  entries : List Entry
  key : List Char
  group : List Entry

namespace Outline

def text (o : Outline) : List Char :=
  o.entries.flatMap Entry.text ++
    (o.key ++ ':' :: '\n' :: o.group.flatMap fun e => List.replicate 2 ' ' ++ e.text)

def tokens (o : Outline) : List Token :=
  .blockMappingStart :: (o.entries.flatMap Entry.tokens ++ .key :: .scalar .plain o.key :: .value ::
    .blockMappingStart :: (o.group.flatMap Entry.tokens ++ [.blockEnd, .blockEnd]))

def node (o : Outline) : Node :=
  .mapping none (o.entries.map Entry.node ++
    [(.scalar none none .plain o.key, .mapping none (o.group.map Entry.node))])

structure Reads (o : Outline) : Prop where
  entries_ne_nil : o.entries ≠ []
  entries : ∀ e ∈ o.entries, e.Reads 0
  key : IsKey o.key
  group_ne_nil : o.group ≠ []
  group : ∀ e ∈ o.group, e.Reads 2

variable {o : Outline}

theorem Reads.atLine (h : o.Reads) {r : TokenReader} (hline : AtLine r 0 o.text (-1) [] []) {fuel : Nat}
    (hfuel : r.cursor.rest.length < fuel) : ∃ r', TokenReader.readAll fuel r = some r' ∧
      r'.tokens.reverse = o.tokens := by
  obtain ⟨entries, key, group⟩ := o
  obtain ⟨hentries, hes, hkey, hgroup, hgs⟩ := h
  obtain ⟨e, es, rfl⟩ := List.exists_cons_of_ne_nil hentries
  obtain ⟨g, gs, rfl⟩ := List.exists_cons_of_ne_nil hgroup
  obtain ⟨r₁, hleads₁, hline⟩ := AtLine.entries 0 e es
    (key ++ ':' :: '\n' :: (g :: gs).flatMap fun e => List.replicate 2 ' ' ++ e.text)
    (by simpa [text] using hline) hes (by decide) (hkey.begins _)
  obtain ⟨r₂, hleads₂, hline⟩ := AtLine.header 0 2 key
    (g.text ++ gs.flatMap fun e => List.replicate 2 ' ' ++ e.text) (by simpa using hline) hkey
    (Int.le_refl 0) ((hgs g List.mem_cons_self).begins _)
  obtain ⟨r₃, hleads₃, hline⟩ := AtLine.entries 2 g gs [] (by simpa using hline) hgs
    (Int.natCast_nonneg 2) (fun a ha => nomatch ha)
  obtain ⟨fuel', hfuel', heq⟩ := (hleads₁.trans (hleads₂.trans hleads₃)) fuel hfuel
  obtain ⟨r', hread, htokens⟩ := AtLine.readAll_end (by decide) hline hfuel'
  refine ⟨r', heq.trans hread, ?_⟩
  rw [htokens]
  simp [tokens, opened]

/-- An outline under empty lines and comments. -/
theorem Reads.tokens? (h : o.Reads) {lines : List (List Char)}
    (hlines : ∀ line ∈ lines, ∀ a ∈ line, isBreak a = false)
    (hcomments : ∀ line ∈ lines, ∀ a, line.head? = some a → a = '#')
    (hallowed : ∀ a ∈ lines.flatMap (· ++ ['\n']) ++ o.text, isAllowed a = true) :
    Yaml.tokens? (lines.flatMap (· ++ ['\n']) ++ o.text) = some o.tokens := by
  have hbegins : Begins o.text := by
    obtain ⟨e, es, heq⟩ := List.exists_cons_of_ne_nil h.entries_ne_nil
    rw [text, heq, List.flatMap_cons, List.append_assoc]
    exact (h.entries e (heq ▸ List.mem_cons_self)).begins _
  have hline : AtLine { cursor := { rest := lines.flatMap (· ++ ['\n']) ++ o.text } } 0 o.text (-1) [] [] :=
    atLine_comments _ _ _ hlines hcomments hbegins rfl rfl
  obtain ⟨r, hread, htokens⟩ := h.atLine hline (Nat.lt_succ_self _)
  rw [Yaml.tokens?, if_pos (List.all_eq_true.mpr hallowed), Option.bind_eq_bind, hread, Option.bind_some,
    htokens]

theorem readBlockEntries_block (key : List Char) (fuel : Nat) (names : Names) (ts : List Token) :
    readBlockEntries (fuel + 2) names (.key :: .scalar .plain key :: .value :: .blockMappingStart :: ts) =
      (readBlockEntries fuel names ts).bind fun r => (readBlockEntries (fuel + 1) r.2.1 r.2.2).bind
        fun r' => some ((.scalar none none .plain key, .mapping none r.1) :: r'.1, r'.2.1, r'.2.2) := by
  have hread : readBlockEntries (fuel + 2) names
      (.key :: .scalar .plain key :: .value :: .blockMappingStart :: ts) =
        ((readBlockEntries fuel names ts).bind fun r => some (Node.mapping none r.1, r.2.1, r.2.2)).bind
          fun r => (readBlockEntries (fuel + 1) r.2.1 r.2.2).bind
            fun r' => some ((.scalar none none .plain key, r.1) :: r'.1, r'.2.1, r'.2.2) := rfl
  rw [hread, Option.bind_assoc]
  rfl

theorem readBlockEntries_group (key : List Char) (group : List Entry) (names : Names) (fuel : Nat) :
    readBlockEntries (fuel + 1 + group.length + 2) names (.key :: .scalar .plain key :: .value ::
      .blockMappingStart :: (group.flatMap Entry.tokens ++ [.blockEnd, .blockEnd])) =
        some ([(.scalar none none .plain key, .mapping none (group.map Entry.node))], names, []) := by
  rw [readBlockEntries_block, readBlockEntries_entries]
  simp [readBlockEntries]

theorem length_flatMap_tokens (es : List Entry) : (es.flatMap Entry.tokens).length = es.length * 4 := by
  simp [List.length_flatMap, Entry.tokens]

theorem ofTokens?_tokens (o : Outline) : Node.ofTokens? o.tokens = some (some o.node) := by
  have hroot : Node.ofTokens? o.tokens =
      (readNode .block (nodeFuel o.tokens) { handles := defaultHandles } o.tokens).bind
        fun r => if (dropDocumentEnds r.2.2).isEmpty then some (some r.1) else none := rfl
  obtain ⟨fuel, hfuel⟩ : ∃ fuel,
      nodeFuel o.tokens = fuel + 1 + o.group.length + 1 + 1 + o.entries.length + 1 := by
    refine ⟨nodeFuel o.tokens - (o.group.length + o.entries.length + 4), ?_⟩
    simp only [nodeFuel, tokens, List.length_cons, List.length_append, length_flatMap_tokens]
    omega
  rw [hroot, hfuel, tokens, readNode_mapping rfl, readBlockEntries_entries, readBlockEntries_group]
  rfl

theorem Reads.parse? (h : o.Reads) {lines : List (List Char)}
    (hlines : ∀ line ∈ lines, ∀ a ∈ line, isBreak a = false)
    (hcomments : ∀ line ∈ lines, ∀ a, line.head? = some a → a = '#')
    (hallowed : ∀ a ∈ lines.flatMap (· ++ ['\n']) ++ o.text, isAllowed a = true) {s : String}
    (hs : s.toList = lines.flatMap (· ++ ['\n']) ++ o.text) : Yaml.parse? s = some (some o.node) := by
  rw [Yaml.parse?, hs, h.tokens? hlines hcomments hallowed, Option.bind_eq_bind, Option.bind_some,
    ofTokens?_tokens]

end Outline

end UsageWatch.Yaml
