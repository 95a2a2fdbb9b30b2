import UsageWatch.Json.Fields
import UsageWatch.Proofs.JsonText
import UsageWatch.Proofs.Layout
/-!
# Members left out

A structure can be written without some of its members. Which ones are left out is told by
the steps that lead to a member from the whole value, so that structures inside others and
in lists leave out members of their own.
-/

namespace UsageWatch.Json

/-- From a value to a part of it. -/
inductive Step where
  | member (name : String)
  | item (index : Nat)
deriving DecidableEq, Repr

/-- Whether the member at the end of these steps is left out. -/
abbrev Omission := List Step → Bool

def Omission.inside (omission : Omission) (step : Step) : Omission := fun steps => omission (step :: steps)

def Omission.drops (optional : List String) (omission : Omission) (name : String) : Bool :=
  optional.contains name && omission [.member name]

variable (optional : List String)

mutual

def without (omission : Omission) : Json → Json
  | .array items => .array (withoutItems omission 0 items)
  | .object members => .object (withoutMembers omission members)
  | j => j

def withoutItems (omission : Omission) (index : Nat) : List Json → List Json
  | [] => []
  | j :: rest =>
    without (omission.inside (.item index)) j :: withoutItems omission (index + 1) rest

def withoutMembers (omission : Omission) : List (Option String × Json) → List (Option String × Json)
  | [] => []
  | (none, j) :: rest => (none, j) :: withoutMembers omission rest
  | (some name, j) :: rest =>
    if omission.drops optional name then withoutMembers omission rest
    else (some name, without (omission.inside (.member name)) j) :: withoutMembers omission rest

end

@[simp] theorem without_ofNat (omission : Omission) (n : Nat) :
    without optional omission (ofNat n) = ofNat n := by
  rw [ofNat, without]
  all_goals simp

@[simp] theorem without_ofString (omission : Omission) (s : String) :
    without optional omission (ofString s) = ofString s := by
  rw [ofString, without]
  all_goals simp

theorem withoutItems_eq_mapIdx (omission : Omission) (items : List Json) (index : Nat) :
    withoutItems optional omission index items =
      items.mapIdx fun i j => without optional (omission.inside (.item (index + i))) j := by
  induction items generalizing index with
  | nil => rfl
  | cons j items ih =>
    rw [withoutItems, ih, List.mapIdx_cons]
    simp only [Nat.add_zero, Nat.add_assoc, Nat.add_comm 1]

def memberWithout (omission : Omission) (name : String) (j : Json) : Option Json :=
  if omission.drops optional name then none
  else some (without optional (omission.inside (.member name)) j)

theorem without_ofMembers (omission : Omission) (members : List (String × Json)) :
    without optional omission (ofMembers members) = .object (Layout.present
      (members.map fun (name, j) => (name, memberWithout optional omission name j))) := by
  have hmembers : withoutMembers optional omission (members.map fun (name, j) => (some name, j)) =
      Layout.present (members.map fun (name, j) => (name, memberWithout optional omission name j)) := by
    induction members with
    | nil => rfl
    | cons m members ih =>
      rw [List.map_cons, withoutMembers, ih]
      by_cases h : omission.drops optional m.1 <;> simp [Layout.present, memberWithout, h]
  rw [ofMembers, without, hmembers]

theorem fields?_without (omission : Omission) {layout : Layout} {members : List (String × Json)}
    (hnodup : layout.flatten.Nodup)
    (hnames : List.Forall₂ (fun m names => m.1 ∈ names) members layout) :
    fields? layout (without optional omission (ofMembers members)) =
      some (members.map fun (name, j) => memberWithout optional omission name j) := by
  rw [without_ofMembers, fields?, entries?, Option.bind_some, Layout.assign?_present hnodup]
  · rw [List.map_map]
    rfl
  · rwa [List.forall₂_map_left_iff]

theorem list?_without (omission : Omission) {α : Type} {toJson : α → Json} {decode : Json → Option α}
    {f : Omission → α → α}
    (h : ∀ omission a, decode (without optional omission (toJson a)) = some (f omission a)) (as : List α) :
    list? decode (without optional omission (.array (as.map toJson))) =
      some (as.mapIdx fun i a => f (omission.inside (.item i)) a) := by
  have hitems : ∀ index, (withoutItems optional omission index (as.map toJson)).mapM decode =
      some (as.mapIdx fun i a => f (omission.inside (.item (index + i))) a) := by
    induction as with
    | nil => exact fun _ => rfl
    | cons a as ih =>
      intro index
      rw [List.map_cons, withoutItems, List.mapM_cons, h, ih, List.mapIdx_cons]
      simp [Nat.add_assoc, Nat.add_comm 1]
  rw [without]
  simpa [list?, items?] using hitems 0

theorem Writable.without {j : Json} (h : Writable j) (omission : Omission) :
    Writable (without optional omission j) := by
  induction h generalizing omission with
  | bool b =>
    rw [Json.without]
    · exact .bool b
    all_goals simp
  | number n =>
    rw [without_ofNat]
    exact .number n
  | text s =>
    rw [without_ofString]
    exact .text s
  | @array items _ ih =>
    rw [Json.without, withoutItems_eq_mapIdx]
    refine .array fun j hj => ?_
    obtain ⟨i, hi, rfl⟩ := List.mem_mapIdx.mp hj
    exact ih _ (List.getElem_mem hi) _
  | @object members hnames hvalues ih =>
    rw [Json.without]
    clear hvalues
    have hmembers : ∀ m ∈ withoutMembers optional omission members, m.1.isSome ∧ Writable m.2 := by
      induction members with
      | nil => simp [withoutMembers]
      | cons m members ih' =>
        rw [List.forall_mem_cons] at hnames ih
        obtain ⟨name, hname⟩ := Option.isSome_iff_exists.mp hnames.1
        obtain ⟨key, j⟩ := m
        cases hname
        rw [withoutMembers]
        split
        · exact ih' hnames.2 ih.2
        · rw [List.forall_mem_cons]
          exact ⟨⟨rfl, ih.1 _⟩, ih' hnames.2 ih.2⟩
    exact .object (fun m hm => (hmembers m hm).1) fun m hm => (hmembers m hm).2

theorem mapIdx_eq_self {α : Type} {f : Nat → α → α} {as : List α} (h : ∀ a ∈ as, ∀ i, f i a = a) :
    as.mapIdx f = as := by
  apply List.ext_getElem
  · rw [List.length_mapIdx]
  · intro i hi hi'
    rw [List.getElem_mapIdx, h _ (List.getElem_mem hi')]

def Omission.nothing : Omission := fun _ => false

theorem Writable.without_nothing {j : Json} (h : Writable j) : Json.without optional .nothing j = j := by
  induction h with
  | bool b =>
    rw [Json.without]
    all_goals simp
  | number n => rw [without_ofNat]
  | text s => rw [without_ofString]
  | array _ ih =>
    rw [Json.without, withoutItems_eq_mapIdx]
    exact congrArg _ (mapIdx_eq_self fun j hj _ => ih j hj)
  | @object members hnames hvalues ih =>
    rw [Json.without]
    clear hvalues
    have hmembers : withoutMembers optional .nothing members = members := by
      induction members with
      | nil => rfl
      | cons m members ih' =>
        rw [List.forall_mem_cons] at hnames ih
        obtain ⟨name, hname⟩ := Option.isSome_iff_exists.mp hnames.1
        obtain ⟨key, j⟩ := m
        cases hname
        have hkeeps : Omission.drops optional .nothing name = false := by
          simp [Omission.drops, Omission.nothing]
        have hvalue : Json.without optional (Omission.inside .nothing (.member name)) j = j := ih.1
        simp [withoutMembers, hkeeps, hvalue, ih' hnames.2 ih.2]
    rw [hmembers]

end UsageWatch.Json
