import Mathlib.Data.List.Forall2
import UsageWatch.Layout
/-!
# Fields given by name

Fields written down in the order of a layout, each under one of its names, are the fields
that are read. It takes that no name stands for two fields.
-/

namespace UsageWatch.Layout

variable {α : Type}

def present (fields : List (String × Option α)) : List (Option String × α) :=
  fields.filterMap fun (name, value) => value.map (some name, ·)

theorem given_present_append (names : List String) (fields others : List (String × Option α)) :
    given names (present (fields ++ others)) =
      given names (present fields) ++ given names (present others) := by
  rw [present, List.filterMap_append, given, List.filterMap_append]
  rfl

theorem given_present_of_mem {names : List String} {field : String × Option α}
    (h : field.1 ∈ names) : given names (present [field]) = field.2.toList := by
  obtain ⟨name, value⟩ := field
  cases value <;> simp_all [present, given]

theorem given_present_eq_nil {names : List String} {fields : List (String × Option α)}
    (h : ∀ field ∈ fields, field.1 ∉ names) : given names (present fields) = [] := by
  rw [given, List.filterMap_eq_nil_iff]
  intro entry hentry
  obtain ⟨field, hfield, hvalue⟩ := List.mem_filterMap.mp hentry
  obtain ⟨v, -, rfl⟩ := Option.map_eq_some_iff.mp hvalue
  simp [h field hfield]

theorem mem_flatten_of_forall₂ {layout : Layout} {fields : List (String × Option α)}
    (hnames : List.Forall₂ (fun field names => field.1 ∈ names) fields layout) :
    ∀ field ∈ fields, field.1 ∈ layout.flatten := by
  induction hnames with
  | nil => exact List.forall_mem_nil _
  | cons hfield _ ih =>
    rw [List.flatten_cons, List.forall_mem_cons]
    exact ⟨List.mem_append_left _ hfield, fun other hother => List.mem_append_right _ (ih other hother)⟩

/-- Of the fields behind `before`, which a layout has no names for, each is found. -/
theorem mapM_unique? {layout : Layout} {fields : List (String × Option α)}
    (hnodup : layout.flatten.Nodup)
    (hnames : List.Forall₂ (fun field names => field.1 ∈ names) fields layout) :
    ∀ {before : List (String × Option α)}, (∀ field ∈ before, field.1 ∉ layout.flatten) →
      layout.mapM (fun names => unique? (given names (present (before ++ fields)))) =
        some (fields.map Prod.snd) := by
  induction hnames with
  | nil => exact fun _ => rfl
  | @cons field names fields layout hfield hfields ih =>
    intro before hbefore
    rw [List.flatten_cons, List.nodup_append] at hnodup
    obtain ⟨-, hrest, hdisjoint⟩ := hnodup
    have hothers : ∀ other ∈ fields, other.1 ∉ names := fun other hother hmem =>
      hdisjoint _ hmem _ (mem_flatten_of_forall₂ hfields other hother) rfl
    have hhead : unique? (given names (present (before ++ field :: fields))) = some field.2 := by
      have hnone : given names (present before) = [] := given_present_eq_nil fun other hother hmem =>
        hbefore other hother (List.mem_append_left _ hmem)
      rw [← List.singleton_append, given_present_append, given_present_append, hnone,
        given_present_of_mem hfield, given_present_eq_nil hothers]
      cases field.2 <;> rfl
    have hpassed : ∀ other ∈ before ++ [field], other.1 ∉ layout.flatten := fun other hother hmem => by
      rcases List.mem_append.mp hother with hother | hother
      · exact hbefore other hother (List.mem_append_right _ hmem)
      · rw [List.mem_singleton.mp hother] at hmem
        exact hdisjoint _ hfield _ hmem rfl
    have htail := ih hrest hpassed
    rw [List.append_assoc, List.singleton_append] at htail
    rw [List.mapM_cons, hhead, htail]
    rfl

theorem assign?_present {layout : Layout} {fields : List (String × Option α)}
    (hnodup : layout.flatten.Nodup)
    (hnames : List.Forall₂ (fun field names => field.1 ∈ names) fields layout) :
    layout.assign? (.named (present fields)) = some (fields.map Prod.snd) := by
  have hsome : (present fields).all (·.1.isSome) = true := by
    rw [List.all_eq_true]
    intro entry hentry
    obtain ⟨field, -, hvalue⟩ := List.mem_filterMap.mp hentry
    obtain ⟨v, -, rfl⟩ := Option.map_eq_some_iff.mp hvalue
    rfl
  rw [assign?, if_pos hsome]
  exact mapM_unique? hnodup hnames (List.forall_mem_nil _)

end UsageWatch.Layout
