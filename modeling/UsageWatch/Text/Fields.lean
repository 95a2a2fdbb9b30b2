/-!
# Separated fields

A text cut at every separator, or at the first one only.
-/

namespace UsageWatch.Text

/-- The pieces between separators; one more piece than there are separators. -/
def fields (sep : Char) : List Char → List (List Char)
  | [] => [[]]
  | c :: rest =>
    if c = sep then [] :: fields sep rest
    else
      match fields sep rest with
      | [] => [[c]]
      | first :: others => (c :: first) :: others

def join (sep : Char) : List (List Char) → List Char
  | [] => []
  | [piece] => piece
  | piece :: others => piece ++ sep :: join sep others

/-- What stands before and after the first separator. -/
def cut? (sep : Char) : List Char → Option (List Char × List Char)
  | [] => none
  | c :: rest =>
    if c = sep then some ([], rest)
    else (cut? sep rest).map fun (before, behind) => (c :: before, behind)

theorem fields_ne_nil (sep : Char) (s : List Char) : fields sep s ≠ [] := by
  cases s with
  | nil => simp [fields]
  | cons c rest =>
    unfold fields
    split
    · simp
    · split <;> simp

theorem join_fields (sep : Char) (s : List Char) : join sep (fields sep s) = s := by
  induction s with
  | nil => rfl
  | cons c rest ih =>
    unfold fields
    split
    · next h =>
      subst h
      cases hf : fields c rest with
      | nil => exact absurd hf (fields_ne_nil c rest)
      | cons first others => rw [hf] at ih; simp [join, ih]
    · cases hf : fields sep rest with
      | nil => exact absurd hf (fields_ne_nil sep rest)
      | cons first others =>
        rw [hf] at ih
        cases others with
        | nil => simp only [join] at ih ⊢; rw [ih]
        | cons second others => simp only [join] at ih ⊢; rw [List.cons_append, ih]

end UsageWatch.Text
