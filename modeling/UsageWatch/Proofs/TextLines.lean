import Mathlib.Data.List.Infix
import UsageWatch.Text.Fields
/-!
# Lines of a text

A text that is cut at a separator can be taken apart and put together at one. So can
the count of a marker that ends with a separator and has no other.
-/

namespace UsageWatch.Text

/-! ## Pieces -/

section
variable {sep : Char} {s t p q : List Char}

theorem flatMap_fields (sep : Char) (s : List Char) : (fields sep s).flatMap (· ++ [sep]) = s ++ [sep] := by
  induction s with
  | nil => rfl
  | cons c s ih =>
    rw [fields]
    by_cases hc : c = sep
    · rw [if_pos hc, List.flatMap_cons, ih, hc]
      rfl
    · rw [if_neg hc]
      cases hfields : fields sep s with
      | nil => exact absurd hfields (fields_ne_nil sep s)
      | cons first rest =>
        rw [hfields, List.flatMap_cons] at ih
        simpa using ih

theorem fields_append_sep (sep : Char) (s t : List Char) :
    fields sep (s ++ sep :: t) = fields sep s ++ fields sep t := by
  induction s with
  | nil => simp [fields]
  | cons c s ih =>
    rw [List.cons_append, fields, fields]
    by_cases hc : c = sep
    · rw [if_pos hc, if_pos hc, ih, List.cons_append]
    · rw [if_neg hc, if_neg hc, ih]
      cases hfields : fields sep s with
      | nil => exact absurd hfields (fields_ne_nil sep s)
      | cons first rest => rfl

theorem fields_append_of_not_mem (hp : sep ∉ p) (s : List Char) :
    fields sep (p ++ s) = (fields sep s).modifyHead (p ++ ·) := by
  induction p with
  | nil =>
    rw [List.nil_append]
    cases fields sep s <;> rfl
  | cons c p ih =>
    rw [List.mem_cons, not_or] at hp
    rw [List.cons_append, fields, if_neg (Ne.symm hp.1), ih hp.2]
    cases hfields : fields sep s with
    | nil => exact absurd hfields (fields_ne_nil sep s)
    | cons first rest => rfl

theorem fields_of_not_mem (hp : sep ∉ p) : fields sep p = [p] := by
  have h := fields_append_of_not_mem hp []
  rwa [List.append_nil, fields, List.modifyHead_cons, List.append_nil] at h

theorem fields_intercalate {pieces : List (List Char)} (hne : pieces ≠ []) (h : ∀ p ∈ pieces, sep ∉ p) :
    fields sep ([sep].intercalate pieces) = pieces := by
  induction pieces with
  | nil => exact absurd rfl hne
  | cons p pieces ih =>
    rw [List.forall_mem_cons] at h
    cases pieces with
    | nil => rw [List.intercalate_singleton, fields_of_not_mem h.1]
    | cons p' pieces =>
      rw [List.intercalate_cons_cons, List.append_assoc, List.singleton_append, fields_append_sep,
        fields_of_not_mem h.1, ih (List.cons_ne_nil _ _) h.2, List.singleton_append]

theorem not_mem_of_mem_fields (h : p ∈ fields sep s) : sep ∉ p := by
  induction s generalizing p with
  | nil =>
    obtain rfl := List.mem_singleton.mp h
    exact List.not_mem_nil
  | cons c s ih =>
    rw [fields] at h
    by_cases hc : c = sep
    · rw [if_pos hc] at h
      rcases List.mem_cons.mp h with rfl | h
      · exact List.not_mem_nil
      · exact ih h
    · rw [if_neg hc] at h
      cases hfields : fields sep s with
      | nil => exact absurd hfields (fields_ne_nil sep s)
      | cons first rest =>
        rw [hfields] at h ih
        rcases List.mem_cons.mp h with rfl | h
        · simp [Ne.symm hc, ih List.mem_cons_self]
        · exact ih (List.mem_cons_of_mem _ h)

/-- A text without separators behind another one belongs to its last piece. -/
theorem exists_fields_append (hq : sep ∉ q) : ∀ s : List Char, ∃ init last,
    fields sep s = init ++ [last] ∧ fields sep (s ++ q) = init ++ [last ++ q]
  | [] => ⟨[], [], rfl, fields_of_not_mem hq⟩
  | c :: s => by
    obtain ⟨init, last, hs, hsq⟩ := exists_fields_append hq s
    rw [List.cons_append, fields, fields, hs, hsq]
    by_cases hc : c = sep
    · exact ⟨[] :: init, last, by rw [if_pos hc, List.cons_append],
        by rw [if_pos hc, List.cons_append]⟩
    · cases init with
      | nil => exact ⟨[], c :: last, by rw [if_neg hc]; rfl, by rw [if_neg hc]; rfl⟩
      | cons first init =>
        exact ⟨(c :: first) :: init, last, by rw [if_neg hc]; rfl, by rw [if_neg hc]; rfl⟩

def innerFields (sep : Char) (s : List Char) : List (List Char) := (fields sep s).tail.dropLast

theorem innerFields_of_not_mem (hs : sep ∉ s) : innerFields sep s = [] := by
  rw [innerFields, fields_of_not_mem hs]
  rfl

/-- What surrounds a text changes its outer pieces only. -/
theorem fields_surrounded (hp : sep ∉ p) (hq : sep ∉ q) (s : List Char) :
    (innerFields sep s = [] ∧ fields sep (p ++ s ++ q) = [p ++ s ++ q]) ∨
      ∃ first last, fields sep (p ++ s ++ q) =
        (p ++ first) :: (innerFields sep s ++ [last ++ q]) := by
  obtain ⟨init, last, hs, hsq⟩ := exists_fields_append hq s
  rw [List.append_assoc, fields_append_of_not_mem hp, hsq, innerFields, hs]
  cases init with
  | nil =>
    left
    have hlast := join_fields sep s
    rw [hs] at hlast
    obtain rfl : last = s := hlast
    exact ⟨rfl, rfl⟩
  | cons first init => exact .inr ⟨first, last, by simp⟩

end

/-! ## The first separator -/

section
variable {sep : Char} {s : List Char}

theorem cut?_eq_none_iff : cut? sep s = none ↔ sep ∉ s := by
  induction s with
  | nil => simp [cut?]
  | cons c s ih =>
    rw [cut?]
    by_cases hc : c = sep
    · simp [hc]
    · rw [if_neg hc, Option.map_eq_none_iff, ih, List.mem_cons, not_or]
      exact (and_iff_right (Ne.symm hc)).symm

theorem cut?_of_not_mem {before : List Char} (h : sep ∉ before) (behind : List Char) :
    cut? sep (before ++ sep :: behind) = some (before, behind) := by
  induction before with
  | nil => simp [cut?]
  | cons c before ih =>
    rw [List.mem_cons, not_or] at h
    rw [List.cons_append, cut?, if_neg (Ne.symm h.1), ih h.2]
    rfl

theorem of_cut?_eq_some {before behind : List Char} (h : cut? sep s = some (before, behind)) :
    s = before ++ sep :: behind ∧ sep ∉ before := by
  induction s generalizing before with
  | nil => cases h
  | cons c s ih =>
    rw [cut?] at h
    by_cases hc : c = sep
    · rw [if_pos hc] at h
      cases h
      exact ⟨by rw [hc, List.nil_append], List.not_mem_nil⟩
    · rw [if_neg hc] at h
      obtain ⟨⟨first, behind'⟩, hcut, heq⟩ := Option.map_eq_some_iff.mp h
      cases heq
      obtain ⟨rfl, hnot⟩ := ih hcut
      exact ⟨rfl, by simp [Ne.symm hc, hnot]⟩

end

/-! ## Counting -/

/-- At how many places of the text `needle` begins. -/
def occurrences (needle s : List Char) : Nat := s.tails.countP (needle <+: ·)

section
variable {c sep : Char} {needle s t p q w : List Char}

theorem occurrences_nil (h : needle ≠ []) : occurrences needle [] = 0 := by
  simp [occurrences, h]

theorem occurrences_cons (needle : List Char) (c : Char) (s : List Char) :
    occurrences needle (c :: s) =
      (if needle <+: c :: s then 1 else 0) + occurrences needle s := by
  unfold occurrences
  rw [List.tails_cons, List.countP_cons, Nat.add_comm]
  simp

theorem occurrences_eq_zero_iff : occurrences needle s = 0 ↔ ¬ needle <:+: s := by
  rw [List.infix_iff_prefix_suffix, occurrences, List.countP_eq_zero]
  simp only [List.mem_tails, decide_eq_true_eq, not_exists, not_and]
  exact forall_congr' fun _ => imp_not_comm

theorem occurrences_append_of_not_mem (hc : c ∉ p) (s : List Char) :
    occurrences (c :: needle) (p ++ s) = occurrences (c :: needle) s := by
  induction p with
  | nil => rfl
  | cons d p ih =>
    rw [List.mem_cons, not_or] at hc
    have hne : ¬ c :: needle <+: d :: (p ++ s) := fun h => hc.1 (List.cons_prefix_cons.mp h).1
    rw [List.cons_append, occurrences_cons, if_neg hne, Nat.zero_add, ih hc.2]

theorem occurrences_concat (h : needle ≠ []) (s : List Char) (c : Char) :
    occurrences needle (s ++ [c]) =
      occurrences needle s + if needle <:+ s ++ [c] then 1 else 0 := by
  induction s with
  | nil =>
    have hsame : needle <+: [c] ↔ needle <:+ [c] := by
      simp [List.prefix_cons_iff, List.suffix_cons_iff, h]
    rw [List.nil_append, occurrences_cons, occurrences_nil h, Nat.zero_add, Nat.add_zero]
    simp only [hsame]
  | cons d s ih =>
    have hstart : needle <+: d :: (s ++ [c]) ↔ needle = d :: (s ++ [c]) ∨ needle <+: d :: s := by
      rw [← List.cons_append, List.prefix_concat_iff]
    have hend : needle <:+ d :: (s ++ [c]) ↔ needle = d :: (s ++ [c]) ∨ needle <:+ s ++ [c] :=
      List.suffix_cons_iff
    rw [List.cons_append, occurrences_cons, occurrences_cons, ih]
    by_cases hwhole : needle = d :: (s ++ [c])
    · have hlength := congrArg List.length hwhole
      rw [List.length_cons, List.length_append, List.length_singleton] at hlength
      have hshort : ¬ needle <+: d :: s := fun h => by
        have := h.length_le
        rw [List.length_cons] at this
        omega
      have hshort' : ¬ needle <:+ s ++ [c] := fun h => by
        have := h.length_le
        rw [List.length_append, List.length_singleton] at this
        omega
      rw [if_pos (hstart.mpr (.inl hwhole)), if_pos (hend.mpr (.inl hwhole)), if_neg hshort,
        if_neg hshort']
      omega
    · simp only [hstart, hend, hwhole, false_or]
      omega

theorem concat_suffix_concat_iff {a b : Char} :
    w ++ [a] <:+ s ++ [b] ↔ a = b ∧ w <:+ s := by
  rw [List.suffix_concat_iff]
  constructor
  · rintro (h | ⟨t, h, ht⟩)
    · simp at h
    · obtain ⟨rfl, hlast⟩ := List.append_inj' h rfl
      exact ⟨by simpa using hlast, ht⟩
  · rintro ⟨rfl, h⟩
    exact .inr ⟨w, rfl, h⟩

/-- Nothing ends in what has no such last character. -/
theorem occurrences_append_right (hq : sep ∉ q) (s : List Char) :
    occurrences (w ++ [sep]) (s ++ q) = occurrences (w ++ [sep]) s := by
  induction q using List.reverseRecOn with
  | nil => rw [List.append_nil]
  | append_singleton q c ih =>
    rw [List.mem_append, List.mem_singleton, not_or] at hq
    have hne : ¬ w ++ [sep] <:+ s ++ q ++ [c] := fun h => hq.2 (concat_suffix_concat_iff.mp h).1
    rw [← List.append_assoc, occurrences_concat (by simp), if_neg hne, Nat.add_zero, ih hq.1]

theorem prefix_append_sep_iff (hw : sep ∉ w) (s t : List Char) :
    w ++ [sep] <+: s ++ sep :: t ↔ w ++ [sep] <+: s ++ [sep] := by
  have hline : s ++ [sep] <+: s ++ sep :: t := ⟨t, by simp⟩
  refine ⟨fun h => ?_, fun h => h.trans hline⟩
  rcases Nat.lt_or_ge s.length w.length with hlt | hge
  · -- the needle would reach over a separator
    have hover : s ++ [sep] <+: w := List.prefix_of_prefix_length_le hline
      ((List.prefix_append w [sep]).trans h)
        (by simp only [List.length_append, List.length_singleton]; omega)
    exact absurd (hover.mem (by simp)) hw
  · exact List.prefix_of_prefix_length_le h hline (by simpa using hge)

theorem occurrences_append_sep (hw : sep ∉ w) (s t : List Char) :
    occurrences (w ++ [sep]) (s ++ sep :: t) =
      occurrences (w ++ [sep]) (s ++ [sep]) + occurrences (w ++ [sep]) t := by
  induction s with
  | nil =>
    have hfirst := prefix_append_sep_iff hw [] t
    simp only [List.nil_append] at hfirst ⊢
    rw [occurrences_cons, occurrences_cons, occurrences_nil (by simp), Nat.add_zero]
    simp only [hfirst]
  | cons c s ih =>
    have hfirst := prefix_append_sep_iff hw (c :: s) t
    simp only [List.cons_append] at hfirst ⊢
    rw [occurrences_cons, occurrences_cons, ih, Nat.add_assoc]
    simp only [hfirst]

/-- A marker that ends with a separator stands at the end of a piece. -/
theorem occurrences_eq_zero_of_fields (hw : sep ∉ w) (h : ∀ piece ∈ fields sep s, ¬ w <:+ piece) :
    occurrences (w ++ [sep]) (s ++ [sep]) = 0 := by
  rw [occurrences_eq_zero_iff]
  rintro ⟨before, behind, hinfix⟩
  obtain ⟨init, last, -, hlast⟩ := exists_fields_append hw before
  have hfields := congrArg (fields sep) hinfix
  rw [← List.append_assoc, List.append_assoc (before ++ w), List.singleton_append,
    fields_append_sep, fields_append_sep, hlast] at hfields
  have hpieces : fields sep s = init ++ [last ++ w] ++ (fields sep behind).dropLast := by
    have hdrop := congrArg List.dropLast hfields
    rw [List.dropLast_append_of_ne_nil (fields_ne_nil sep behind)] at hdrop
    simpa [fields] using hdrop.symm
  exact h (last ++ w) (by rw [hpieces]; simp) (List.suffix_append last w)

/-- A line counts no more than what stands in it, if it neither begins before the
needle can nor ends as the needle does. -/
theorem occurrences_surrounded {a b : Char} (hneedle : w ++ [a] ++ [sep] = c :: needle) (hp : c ∉ p)
    (hq : sep ∉ q ++ [b]) (hne : a ≠ b) (s : List Char) :
    occurrences (w ++ [a] ++ [sep]) (p ++ s ++ (q ++ [b]) ++ [sep]) =
      occurrences (w ++ [a] ++ [sep]) s := by
  have hend : ¬ w ++ [a] ++ [sep] <:+ p ++ s ++ (q ++ [b]) ++ [sep] := by
    rw [← List.append_assoc (p ++ s), concat_suffix_concat_iff, concat_suffix_concat_iff]
    exact fun h => hne h.2.1
  rw [occurrences_concat (by simp), if_neg hend, Nat.add_zero, occurrences_append_right hq, hneedle,
    occurrences_append_of_not_mem hp]

end

end UsageWatch.Text
