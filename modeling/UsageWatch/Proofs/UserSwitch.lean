import UsageWatch.Proofs.Numeral
import UsageWatch.Proofs.TextLines
import UsageWatch.Proofs.TextRuns
import UsageWatch.Replay.Plan
/-!
# User switches in a replay plan

Which texts name a user switch (`IsSwitch`), and which of the faults of any other text
is reported (`switch_parsed`).
-/

namespace UsageWatch

namespace ReplayPlan

def IsUser (s : List Char) (user : UInt32) : Prop :=
  ∃ before numeral behind, s = before ++ numeral ++ behind ∧
    (∀ c ∈ before, Text.isBlank c = true) ∧ (∀ c ∈ behind, Text.isBlank c = true) ∧
    Text.IsNumeral numeral user.toNat

def IsSwitch (s : List Char) (origin target : UInt32) : Prop :=
  ∃ before behind, s = before ++ ':' :: behind ∧ IsUser before origin ∧ IsUser behind target

def switchText (origin target : UInt32) : String :=
  toString origin.toNat ++ ":" ++ toString target.toNat

/-! ## One user -/

theorem isBlank_of_numeral {s : List Char} {n : Nat} (h : Text.IsNumeral s n) :
    ∀ c ∈ s, Text.isBlank c = false := by
  intro c hc
  rcases h.eq_plus_or_isDigit c hc with rfl | hdigit
  · decide
  · obtain ⟨hlow, hhigh⟩ := Text.digit_bounds hdigit
    simp [Text.isBlank, Text.blankRanges]
    omega

theorem trimmed_of_numeral {s : List Char} {n : Nat} (h : Text.IsNumeral s n) : Text.Trimmed s :=
  ⟨fun c hc => isBlank_of_numeral h c (List.mem_of_head? hc),
    fun c hc => isBlank_of_numeral h c (List.mem_of_getLast? hc)⟩

theorem IsUser.colon_not_mem {s : List Char} {user : UInt32} (h : IsUser s user) : ':' ∉ s := by
  obtain ⟨before, numeral, behind, rfl, hbefore, hbehind, hnumeral⟩ := h
  have hcolon : ':' ∉ numeral := fun hc =>
    absurd (hnumeral.eq_plus_or_isDigit _ hc) (by decide)
  exact Text.not_mem_surrounded (by decide) hbefore hbehind hcolon

theorem readUser_eq_ok_iff {s : List Char} {user : UInt32} : readUser s = .ok user ↔ IsUser s user := by
  have hread : readUser s = .ok user ↔ Text.IsNumeral (Text.trim s) user.toNat := by
    rw [← Text.readCount_eq_ok_iff, readUser]
    cases Text.readCount (Text.trim s) <;> simp [Except.mapError]
  rw [hread]
  constructor
  · intro h
    obtain ⟨before, behind, hs, hbefore, hbehind⟩ := Text.exists_trim s
    exact ⟨before, Text.trim s, behind, hs, hbefore, hbehind, h⟩
  · rintro ⟨before, numeral, behind, rfl, hbefore, hbehind, h⟩
    rwa [Text.trim_surrounded hbefore (trimmed_of_numeral h) hbehind]

theorem isUser_toString (user : UInt32) : IsUser (toString user.toNat).toList user := by
  refine ⟨[], Nat.toDigits 10 user.toNat, [], ?_, by simp, by simp, Text.isNumeral_toDigits _⟩
  rw [Nat.toString_eq_repr, Nat.toList_repr, List.nil_append, List.append_nil]

/-! ## Both users -/

theorem parseSwitch_of_not_mem {s : String} (h : ':' ∉ s.toList) :
    parseSwitch s = .error (.noColon s) := by
  rw [parseSwitch, Text.cut?_eq_none_iff.mpr h]

theorem parseSwitch_of_eq {s : String} {before behind : List Char}
    (hs : s.toList = before ++ ':' :: behind) (hbefore : ':' ∉ before) :
    parseSwitch s =
      (readUser before).bind fun origin => (readUser behind).map fun target => (origin, target) := by
  rw [parseSwitch, hs, Text.cut?_of_not_mem hbefore]
  dsimp only
  cases readUser before with
  | error e => rfl
  | ok origin => cases readUser behind <;> rfl

theorem exists_cut {s : String} (h : ':' ∈ s.toList) :
    ∃ before behind, s.toList = before ++ ':' :: behind ∧ ':' ∉ before := by
  obtain ⟨⟨before, behind⟩, hcut⟩ := Option.ne_none_iff_exists'.mp
    fun hnone => Text.cut?_eq_none_iff.mp hnone h
  exact ⟨before, behind, Text.of_cut?_eq_some hcut⟩

theorem cut_unique {before before' behind behind' : List Char} (hbefore : ':' ∉ before)
    (hbefore' : ':' ∉ before') (h : before ++ ':' :: behind = before' ++ ':' :: behind') :
    before = before' ∧ behind = behind' := by
  have hcut := Text.cut?_of_not_mem hbefore behind
  rw [h, Text.cut?_of_not_mem hbefore', Option.some.injEq, Prod.mk.injEq] at hcut
  exact ⟨hcut.1.symm, hcut.2.symm⟩

theorem parseSwitch_eq_ok_iff {s : String} {origin target : UInt32} :
    parseSwitch s = .ok (origin, target) ↔ IsSwitch s.toList origin target := by
  constructor
  · intro h
    by_cases hcolon : ':' ∈ s.toList
    · obtain ⟨before, behind, hs, hbefore⟩ := exists_cut hcolon
      rw [parseSwitch_of_eq hs hbefore] at h
      cases horigin : readUser before with
      | error e => simp [horigin, Except.bind] at h
      | ok origin' =>
        cases htarget : readUser behind with
        | error e => simp [horigin, htarget, Except.bind, Except.map] at h
        | ok target' =>
          simp only [horigin, htarget, Except.bind, Except.map, Except.ok.injEq, Prod.mk.injEq] at h
          obtain ⟨rfl, rfl⟩ := h
          exact ⟨before, behind, hs, readUser_eq_ok_iff.mp horigin, readUser_eq_ok_iff.mp htarget⟩
    · rw [parseSwitch_of_not_mem hcolon] at h
      cases h
  · rintro ⟨before, behind, hs, horigin, htarget⟩
    rw [parseSwitch_of_eq hs horigin.colon_not_mem, readUser_eq_ok_iff.mpr horigin,
      readUser_eq_ok_iff.mpr htarget]
    rfl

/-- The first user's fault wins. -/
theorem parseSwitch_eq_error_iff {s : String} {e : PlanError} :
    parseSwitch s = .error e ↔
      (':' ∉ s.toList ∧ e = .noColon s) ∨
      ∃ before behind, s.toList = before ++ ':' :: behind ∧ ':' ∉ before ∧
        (readUser before = .error e ∨
          (∃ origin, IsUser before origin) ∧ readUser behind = .error e) := by
  by_cases hcolon : ':' ∈ s.toList
  · obtain ⟨before, behind, hs, hbefore⟩ := exists_cut hcolon
    rw [parseSwitch_of_eq hs hbefore]
    constructor
    · intro h
      refine .inr ⟨before, behind, hs, hbefore, ?_⟩
      cases horigin : readUser before with
      | error e' => exact .inl (by simpa [horigin, Except.bind] using h)
      | ok origin =>
        refine .inr ⟨⟨origin, readUser_eq_ok_iff.mp horigin⟩, ?_⟩
        rw [horigin] at h
        cases htarget : readUser behind with
        | error e' => simpa [htarget, Except.bind, Except.map] using h
        | ok target => simp [htarget, Except.bind, Except.map] at h
    · rintro (⟨hnot, -⟩ | ⟨before', behind', hs', hbefore', hfault⟩)
      · exact absurd hcolon hnot
      · obtain ⟨rfl, rfl⟩ := cut_unique hbefore hbefore' (hs.symm.trans hs')
        rcases hfault with hfault | ⟨⟨origin, horigin⟩, hfault⟩
        · rw [hfault]
          rfl
        · rw [readUser_eq_ok_iff.mpr horigin, hfault]
          rfl
  · rw [parseSwitch_of_not_mem hcolon]
    constructor
    · rintro ⟨⟩
      exact .inl ⟨hcolon, rfl⟩
    · rintro (⟨-, rfl⟩ | ⟨before, behind, hs, -, -⟩)
      · rfl
      · exact absurd (by simp [hs]) hcolon

end ReplayPlan

/-- **The text of a user switch.** A plan has a switch from its text exactly if that is
two numerals of 32 bits with a colon between them, each with any blanks around it. Of the
faults of any other text the first one from the left is reported, where a missing colon
comes first of all. What is printed of two users is such a text. -/
theorem switch_parsed (packages : Option String) (s : String) :
    (∀ plan, ReplayPlan.parse packages (some s) = .ok plan ↔
      ∃ origin target, ReplayPlan.IsSwitch s.toList origin target ∧
        plan = { packages := packages.elim {} .parse, userSwitch := some (origin, target) }) ∧
    (∀ e, ReplayPlan.parse packages (some s) = .error e ↔
      (':' ∉ s.toList ∧ e = .noColon s) ∨
      ∃ before behind, s.toList = before ++ ':' :: behind ∧ ':' ∉ before ∧
        (ReplayPlan.readUser before = .error e ∨
          (∃ origin, ReplayPlan.IsUser before origin) ∧ ReplayPlan.readUser behind = .error e)) ∧
    (PlanError.noColon s).message = "invalid user switch '" ++ s ++ "', expected FROM:TO" ∧
    ∀ origin target, ReplayPlan.parse packages (some (ReplayPlan.switchText origin target)) =
      .ok { packages := packages.elim {} .parse, userSwitch := some (origin, target) } := by
  have hparse : ∀ s', ReplayPlan.parse packages (some s') = (ReplayPlan.parseSwitch s').map fun pair =>
      { packages := packages.elim {} .parse, userSwitch := some pair } := by
    intro s'
    unfold ReplayPlan.parse
    cases h : ReplayPlan.parseSwitch s' <;> simp [h] <;> rfl
  refine ⟨fun plan => ?_, fun e => ?_, rfl, fun origin target => ?_⟩
  · rw [hparse]
    constructor
    · intro h
      cases hswitch : ReplayPlan.parseSwitch s with
      | error e =>
        rw [hswitch] at h
        cases h
      | ok pair =>
        rw [hswitch] at h
        cases h
        exact ⟨pair.1, pair.2, ReplayPlan.parseSwitch_eq_ok_iff.mp hswitch, rfl⟩
    · rintro ⟨origin, target, hswitch, rfl⟩
      rw [ReplayPlan.parseSwitch_eq_ok_iff.mpr hswitch]
      rfl
  · rw [hparse, ← ReplayPlan.parseSwitch_eq_error_iff]
    cases ReplayPlan.parseSwitch s <;> simp [Except.map]
  · have hswitch : ReplayPlan.IsSwitch (ReplayPlan.switchText origin target).toList origin target := by
      refine ⟨(toString origin.toNat).toList, (toString target.toNat).toList, ?_,
        ReplayPlan.isUser_toString origin, ReplayPlan.isUser_toString target⟩
      simp [ReplayPlan.switchText]
    rw [hparse, ReplayPlan.parseSwitch_eq_ok_iff.mpr hswitch]
    rfl

end UsageWatch
