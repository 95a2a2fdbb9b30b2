import UsageWatch.Toml.Reader
/-!
# TOML sections

The lines of a document fall into sections: the entries in front of the first
header, and one section for each header. The sections are put together to one
table; a table has at most one section of its own, and one that began as an
array of tables stays one.
-/

namespace UsageWatch.Toml

structure Section where
  path : List String
  /-- Whether the section is one table of an array. -/
  repeated : Bool
  entries : List (String × Toml)

namespace Section

def tail (s : Section) : Section := { s with path := s.path.tail }

def isUnder (key : String) (s : Section) : Bool := s.path.head? = some key

def inside (key : String) (sections : List Section) : List Section :=
  (sections.filter (isUnder key)).map tail

def outside (key : String) (sections : List Section) : List Section :=
  sections.filter (!isUnder key ·)

/-- Whether the section begins another table of the array that the path names. -/
def isNext (s : Section) : Bool := s.path.isEmpty && s.repeated

def weight (sections : List Section) : Nat :=
  sections.foldr (fun s n => s.path.length + 1 + n) 0

def ofLines? (current : Section) : List Line → Option (List Section)
  | [] => some [current]
  | .header path repeated :: lines => do
    let rest ← ofLines? ⟨path, repeated, []⟩ lines
    some (current :: rest)
  | .entry path v :: lines => do
    let entries ← insert? v path current.entries
    ofLines? { current with entries } lines

theorem weight_cons (s : Section) (rest : List Section) :
    weight (s :: rest) = s.path.length + 1 + weight rest := rfl

theorem weight_outside_le (key : String) (sections : List Section) :
    weight (outside key sections) ≤ weight sections := by
  induction sections with
  | nil => simp [outside]
  | cons s rest ih =>
    unfold outside at ih ⊢
    rw [List.filter_cons]
    split
    · simp only [weight_cons]; omega
    · simp only [weight_cons]; omega

theorem weight_inside_le (key : String) (sections : List Section) :
    weight (inside key sections) ≤ weight sections := by
  induction sections with
  | nil => simp [inside]
  | cons s rest ih =>
    unfold inside at ih ⊢
    rw [List.filter_cons]
    split
    · simp only [List.map_cons, weight_cons, tail, List.length_tail]; omega
    · simp only [weight_cons]; omega

theorem weight_dropWhile_le (p : Section → Bool) (sections : List Section) :
    weight (sections.dropWhile p) ≤ weight sections := by
  induction sections with
  | nil => simp
  | cons s rest ih =>
    rw [List.dropWhile_cons]
    split
    · simp only [weight_cons]; omega
    · exact Nat.le_refl _

theorem weight_takeWhile_le (p : Section → Bool) (sections : List Section) :
    weight (sections.takeWhile p) ≤ weight sections := by
  induction sections with
  | nil => simp
  | cons s rest ih =>
    rw [List.takeWhile_cons]
    split
    · simp only [weight_cons]; omega
    · simp [weight]

end Section

open Section in
mutual

/-- The entries of a table, from the sections under its path. -/
def assemble? (sections : List Section) : Option (List (String × Toml)) :=
  match sections with
  | [] => some []
  | s :: rest =>
    match _hpath : s.path with
    | [] =>
      if s.repeated || rest.any (·.path.isEmpty) then none
      else (assemble? rest).map (s.entries ++ ·)
    | key :: path => do
      let v ←
        if s.repeated && path.isEmpty then (assembleItems? s.entries (inside key rest)).map .array
        else (assemble? (s.tail :: inside key rest)).map (.table false)
      (assemble? (outside key rest)).map ((key, v) :: ·)
termination_by (weight sections, 0)
decreasing_by
  all_goals
    apply Prod.Lex.left
    simp only [weight_cons]
  · omega
  · have := weight_outside_le key rest; omega
  · have := weight_inside_le key rest; omega
  · have := weight_inside_le key rest
    rw [show s.tail.path.length = path.length by simp [tail, _hpath], _hpath, List.length_cons]
    omega

/-- The tables of an array, of which the first has `entries` of its own. -/
def assembleItems? (entries : List (String × Toml)) (sections : List Section) :
    Option (List Toml) := do
  let own := sections.takeWhile (!isNext ·)
  if own.any (·.path.isEmpty) then none
  let item := .table false (entries ++ (← assemble? own))
  match _hnext : sections.dropWhile (!isNext ·) with
  | [] => some [item]
  | next :: rest => (assembleItems? next.entries rest).map (item :: ·)
termination_by (weight sections, 1)
decreasing_by
  · rcases Nat.lt_or_eq_of_le (weight_takeWhile_le (!isNext ·) sections) with h | h
    · exact Prod.Lex.left _ _ h
    · rw [h]; exact Prod.Lex.right _ (by decide)
  · apply Prod.Lex.left
    have h := weight_dropWhile_le (!isNext ·) sections
    rw [_hnext, weight_cons] at h
    omega

end

def parse? (s : String) : Option (List (String × Toml)) := do
  let ts ← tokens? s.toList
  let lines ← readLines (ts.length + 1) ts
  assemble? (← Section.ofLines? ⟨[], false, []⟩ lines)

end UsageWatch.Toml
