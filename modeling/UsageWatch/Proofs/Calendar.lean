import Mathlib.Data.List.Lex
import Mathlib.Tactic.IntervalCases
import UsageWatch.Wire.Projection
/-!
# The calendar

Counted from March, years begin behind their leap day, so that days before a
year and days before a month are closed formulas. With them the date of a day
is a date of the calendar and counts that day again (`toDays_ofDays`), and
counts are in the order of dates. So the date and time of day in the message of
a record give back its time in milliseconds, rounded down (`dates_exact`).
-/

namespace UsageWatch

namespace Date

/-! ## Years from March -/

/-- Days from 1 March of the year 0 to 1 March of the year `y`. -/
def marchStart (y : Int) : Int := 365 * y + y / 4 - y / 100 + y / 400

theorem isLeap_iff (y : Int) : isLeap y = true ↔ y % 4 = 0 ∧ (y % 100 ≠ 0 ∨ y % 400 = 0) := by
  simp [isLeap]

theorem marchStart_era (y era : Int) :
    marchStart (y + era * 400) = marchStart y + era * 146097 := by
  unfold marchStart
  omega

theorem marchStart_succ (y : Int) :
    marchStart (y + 1) = marchStart y + if isLeap (y + 1) then 366 else 365 := by
  unfold marchStart
  split
  · rename_i h
    rw [isLeap_iff] at h
    omega
  · rename_i h
    rw [isLeap_iff] at h
    omega

theorem marchStart_mono {y z : Int} (h : y ≤ z) : marchStart y ≤ marchStart z := by
  unfold marchStart
  omega

def marchYear (d : Date) : Int := if d.month ≤ 2 then d.year - 1 else d.year

def marchMonth (d : Date) : Int := if d.month ≤ 2 then d.month + 9 else d.month - 3

/-- Days from 1 March to the first of the month. -/
def monthStart (m : Int) : Int := (153 * m + 2) / 5

def marchDay (d : Date) : Int := monthStart d.marchMonth + d.day - 1

theorem toDays_eq (d : Date) : d.toDays = marchStart d.marchYear + d.marchDay - 719468 := by
  unfold toDays marchStart marchDay monthStart marchYear marchMonth
  split <;> simp only [] <;> omega

theorem monthLength_february (year : Int) :
    monthLength year 2 = if isLeap year then 29 else 28 := rfl

theorem monthLength_eq {d : Date} (h1 : 1 ≤ d.month) (h12 : d.month ≤ 12) (hfeb : d.month ≠ 2) :
    (monthLength d.year d.month : Int) =
      monthStart (d.marchMonth + 1) - monthStart d.marchMonth := by
  obtain ⟨year, month, day⟩ := d
  simp only at h1 h12 hfeb
  interval_cases month <;> simp_all [monthLength, monthStart, marchMonth]

theorem Valid.marchMonth_mem {d : Date} (h : d.Valid) : 0 ≤ d.marchMonth ∧ d.marchMonth ≤ 11 := by
  obtain ⟨h1, h12, -, -⟩ := h
  unfold marchMonth
  split <;> omega

theorem Valid.marchDay_nonneg {d : Date} (h : d.Valid) : 0 ≤ d.marchDay := by
  have hm := h.marchMonth_mem
  have hday := h.2.2.1
  unfold marchDay monthStart
  omega

/-- A month ends before the next one starts. -/
theorem Valid.marchDay_lt {d : Date} (h : d.Valid) :
    d.marchDay < monthStart (d.marchMonth + 1) := by
  obtain ⟨h1, h12, -, hlast⟩ := h
  unfold marchDay
  by_cases hfeb : d.month = 2
  · have hm : d.marchMonth = 11 := by simp [marchMonth, hfeb]
    rw [hfeb, monthLength_february] at hlast
    rw [hm]
    unfold monthStart
    split at hlast <;> omega
  · have hlength := monthLength_eq h1 h12 hfeb
    omega

theorem Valid.marchDay_lt_length {d : Date} (h : d.Valid) :
    d.marchDay < if isLeap (d.marchYear + 1) then 366 else 365 := by
  by_cases hfeb : d.month = 2
  · have hlast := h.2.2.2
    have hm : d.marchMonth = 11 := by simp [marchMonth, hfeb]
    have hyear : d.marchYear + 1 = d.year := by simp [marchYear, hfeb]
    rw [hfeb, monthLength_february] at hlast
    unfold marchDay monthStart
    rw [hm, hyear]
    split at hlast <;> simp_all <;> omega
  · have hlt := h.marchDay_lt
    have hm : d.marchMonth ≤ 10 := by
      have h12 := h.2.1
      unfold marchMonth
      split <;> omega
    unfold monthStart at hlt
    split <;> omega

/-- Earlier dates have smaller counts. -/
theorem toDays_lt {d e : Date} (hd : d.Valid) (he : e.Valid)
    (hlt : d.year < e.year ∨ d.year = e.year ∧
      (d.month < e.month ∨ d.month = e.month ∧ d.day < e.day)) : d.toDays < e.toDays := by
  rw [toDays_eq, toDays_eq]
  have hyears : d.marchYear < e.marchYear ∨ d.marchYear = e.marchYear ∧
      (d.marchMonth < e.marchMonth ∨ d.marchMonth = e.marchMonth ∧ d.day < e.day) := by
    have hd12 := hd.2.1
    have he1 := he.1
    unfold marchYear marchMonth
    split <;> split <;> omega
  rcases hyears with hyear | ⟨hyear, hmonth | ⟨hmonth, hday⟩⟩
  · have hstart := marchStart_succ d.marchYear
    have hmono := marchStart_mono (y := d.marchYear + 1) (z := e.marchYear) hyear
    have hlast := hd.marchDay_lt_length
    have hfirst := he.marchDay_nonneg
    omega
  · have hlast := hd.marchDay_lt
    have hday := he.2.2.1
    have hm : monthStart (d.marchMonth + 1) ≤ monthStart e.marchMonth := by
      unfold monthStart
      omega
    have he' : e.marchDay = monthStart e.marchMonth + e.day - 1 := rfl
    rw [hyear]
    omega
  · unfold marchDay
    rw [hyear, hmonth]
    omega

/-! ## The day after -/

def next (d : Date) : Date :=
  if d.day < monthLength d.year d.month then { d with day := d.day + 1 }
  else if d.month < 12 then { d with month := d.month + 1, day := 1 }
  else ⟨d.year + 1, 1, 1⟩

theorem monthLength_pos (year : Int) (month : Nat) : 1 ≤ monthLength year month := by
  unfold monthLength
  split
  · split <;> decide
  all_goals decide

theorem Valid.next {d : Date} (h : d.Valid) : d.next.Valid := by
  obtain ⟨h1, h12, hfirst, hlast⟩ := h
  unfold Date.next
  split
  · exact ⟨h1, h12, by simp, by simpa⟩
  · split
    · exact ⟨by simp, by simp; omega, by simp, monthLength_pos _ _⟩
    · exact ⟨by simp, by simp, by simp, monthLength_pos _ _⟩

theorem Valid.toDays_next {d : Date} (h : d.Valid) : d.next.toDays = d.toDays + 1 := by
  obtain ⟨h1, h12, hfirst, hlast⟩ := h
  rw [toDays_eq, toDays_eq]
  by_cases hend : d.day < monthLength d.year d.month
  · have hnext : d.next = { d with day := d.day + 1 } := if_pos hend
    rw [hnext]
    simp only [marchYear, marchDay, marchMonth]
    push_cast
    omega
  have hday : (d.day : Int) = monthLength d.year d.month := by omega
  by_cases hfeb : d.month = 2
  · have hnext : d.next = ⟨d.year, 3, 1⟩ := by
      rw [hfeb] at hend
      simp [Date.next, hend, hfeb]
    have hsucc := marchStart_succ (d.year - 1)
    rw [Int.sub_add_cancel] at hsucc
    rw [hfeb, monthLength_february] at hday
    rw [hnext]
    cases hleap : isLeap d.year with
    | true | false =>
      simp only [hleap, if_true, Bool.false_eq_true, if_false] at hday hsucc
      simp [marchYear, marchDay, marchMonth, hfeb, monthStart, hday, hsucc]
      omega
  · have hyear : d.next.marchYear = d.marchYear := by
      unfold Date.next marchYear
      rw [if_neg hend]
      split <;> simp <;> omega
    have hmonth : d.next.marchMonth = d.marchMonth + 1 := by
      unfold Date.next marchMonth
      rw [if_neg hend]
      split <;> simp <;> omega
    have hone : d.next.day = 1 := by
      unfold Date.next
      rw [if_neg hend]
      split <;> rfl
    rw [monthLength_eq h1 h12 hfeb] at hday
    unfold marchDay
    rw [hyear, hmonth, hone]
    omega

/-! ## The date of a day -/

/-- The year of an era, counted from March, that its day `n` lies in. -/
def yearOfEra (n : Int) : Int := (n - n / 1460 + n / 36524 - n / 146096) / 365

/-- An era is 4 centuries of 25 cycles, a cycle 4 years. The last year of a cycle
has a leap day, but not that of a century, unless it is that of the era. -/
theorem exists_yearOfEra {n : Int} (h0 : 0 ≤ n) (h1 : n < 146097) :
    ∃ c q j d : Int, 0 ≤ c ∧ c ≤ 3 ∧ 25 * c ≤ q ∧ q ≤ 25 * c + 24 ∧ 0 ≤ j ∧ j ≤ 3 ∧
      0 ≤ d ∧ (d ≤ 364 ∨ d = 365 ∧ j = 3 ∧ (q = 25 * c + 24 → c = 3)) ∧
      n = 1461 * q + 365 * j + d - c ∧
      yearOfEra n = 4 * q + j := by
  unfold yearOfEra
  by_cases hlast : n = 146096
  · exact ⟨3, 99, 3, 365, by omega⟩
  have hera : n / 146096 = 0 := by omega
  rw [hera]
  generalize hc : n / 36524 = c
  generalize hq : (n + c) / 1461 = q
  generalize hs : (n + c) % 1461 = s
  have hn : n = 1461 * q + s - c := by omega
  have hs : 0 ≤ s ∧ s ≤ 1460 := by omega
  have hc03 : 0 ≤ c ∧ c ≤ 3 := by omega
  have hq24 : 25 * c ≤ q ∧ q ≤ 25 * c + 24 := by omega
  have hcentury : c < 3 → n < 36524 * c + 36524 := by omega
  clear hera hlast hc hq
  subst hn
  -- the formula takes cycles of 1460 days, which are one day short
  by_cases hshort : 1460 ≤ q + s - c
  · have hcycles : (1461 * q + s - c) / 1460 = q + 1 := by omega
    rw [hcycles]
    by_cases hleap : s = 1460
    · exact ⟨c, q, 3, 365, by omega⟩
    · exact ⟨c, q, s / 365, s % 365, by omega⟩
  · have hcycles : (1461 * q + s - c) / 1460 = q := by omega
    rw [hcycles]
    exact ⟨c, q, s / 365, s % 365, by omega⟩

theorem marchStart_cycles {c q j : Int} (hq : 25 * c ≤ q ∧ q ≤ 25 * c + 24) (hj : 0 ≤ j ∧ j ≤ 3)
    (hc : 0 ≤ c ∧ c ≤ 3) : marchStart (4 * q + j) = 1461 * q + 365 * j - c := by
  have h4 : (4 * q + j) / 4 = q := by omega
  have h100 : (4 * q + j) / 100 = c := by omega
  have h400 : (4 * q + j) / 400 = 0 := by omega
  unfold marchStart
  rw [h4, h100, h400]
  omega

theorem isLeap_cycles {c q : Int} (hq : 25 * c ≤ q ∧ q ≤ 25 * c + 24)
    (hlast : q = 25 * c + 24 → c = 3) : isLeap (4 * q + 3 + 1) = true := by
  rw [isLeap_iff]
  omega

theorem yearOfEra_bounds {n : Int} (h0 : 0 ≤ n) (h1 : n < 146097) :
    0 ≤ yearOfEra n ∧ yearOfEra n ≤ 399 ∧ marchStart (yearOfEra n) ≤ n ∧
      n < marchStart (yearOfEra n + 1) := by
  obtain ⟨c, q, j, d, hc0, hc3, hq0, hq, hj0, hj3, hd0, hd, hn, hy⟩ := exists_yearOfEra h0 h1
  have hstart := marchStart_cycles ⟨hq0, hq⟩ ⟨hj0, hj3⟩ ⟨hc0, hc3⟩
  rw [hy, marchStart_succ, hstart]
  refine ⟨by omega, by omega, by omega, ?_⟩
  rcases hd with hd | ⟨hd, rfl, hlast⟩
  · split <;> omega
  · rw [if_pos (isLeap_cycles ⟨hq0, hq⟩ hlast)]
    omega

theorem monthOfYear_bounds {n : Int} (h0 : 0 ≤ n) (h1 : n ≤ 365) :
    let m := (5 * n + 2) / 153
    0 ≤ m ∧ m ≤ 11 ∧ monthStart m ≤ n ∧ n < monthStart (m + 1) := by
  intro m
  unfold monthStart
  omega

/-- The date on the `n`th day of a year from March, in its month `m`. -/
def ofMarch (y n m : Int) : Date :=
  let month := if m < 10 then m + 3 else m - 9
  ⟨y + (if month ≤ 2 then 1 else 0), month.toNat, (n - monthStart m + 1).toNat⟩

theorem ofDays_eq (days : Int) : ∃ y n m : Int, ofDays days = ofMarch y n m ∧
    days = marchStart y + n - 719468 ∧ 0 ≤ n ∧ n < (if isLeap (y + 1) then 366 else 365) ∧
    0 ≤ m ∧ m ≤ 11 ∧ monthStart m ≤ n ∧ n < monthStart (m + 1) := by
  obtain ⟨era, hera⟩ : ∃ era, era = (days + 719468) / 146097 := ⟨_, rfl⟩
  obtain ⟨k, hk⟩ : ∃ k, k = (days + 719468) % 146097 := ⟨_, rfl⟩
  obtain ⟨hy0, hy, hstart, hend⟩ := yearOfEra_bounds (n := k) (by omega) (by omega)
  obtain ⟨y, hyear⟩ : ∃ y, y = yearOfEra k := ⟨_, rfl⟩
  have heq : ofDays days = ofMarch (y + era * 400) (k - (365 * y + y / 4 - y / 100))
      ((5 * (k - (365 * y + y / 4 - y / 100)) + 2) / 153) := by
    rw [hyear, hk, hera]
    rfl
  have hn : k - (365 * y + y / 4 - y / 100) = k - marchStart y := by
    unfold marchStart
    omega
  have hleap : isLeap (y + era * 400 + 1) = isLeap (y + 1) := by
    rw [Bool.eq_iff_iff, isLeap_iff, isLeap_iff]
    omega
  rw [hn] at heq
  rw [← hyear] at hy0 hy hstart hend
  have hlength := marchStart_succ y
  refine ⟨_, _, _, heq, ?_, by omega, ?_, ?_⟩
  · rw [marchStart_era]
    omega
  · rw [hleap]
    omega
  · refine monthOfYear_bounds (by omega) ?_
    split at hlength <;> omega

section
variable {y n m : Int} (h0 : 0 ≤ m) (h11 : m ≤ 11) (hfirst : monthStart m ≤ n)

include h0 h11 in
theorem marchYear_ofMarch : (ofMarch y n m).marchYear = y := by
  unfold ofMarch marchYear
  by_cases hm : m < 10
  · simp only [hm, if_true]
    split <;> split <;> omega
  · simp only [hm, if_false]
    split <;> split <;> omega

include h0 h11 in
theorem marchMonth_ofMarch : (ofMarch y n m).marchMonth = m := by
  unfold ofMarch marchMonth
  by_cases hm : m < 10
  · simp only [hm, if_true]
    split <;> omega
  · simp only [hm, if_false]
    split <;> omega

include h0 h11 hfirst in
theorem marchDay_ofMarch : (ofMarch y n m).marchDay = n := by
  have hday : ((ofMarch y n m).day : Int) = n - monthStart m + 1 := by
    show ((n - monthStart m + 1).toNat : Int) = _
    omega
  unfold marchDay
  rw [marchMonth_ofMarch h0 h11, hday]
  omega

include h0 h11 hfirst in
theorem valid_ofMarch (hn : n < if isLeap (y + 1) then 366 else 365)
    (hlast : n < monthStart (m + 1)) :
    (ofMarch y n m).Valid := by
  have hmonth := marchMonth_ofMarch (y := y) (n := n) h0 h11
  have hday : ((ofMarch y n m).day : Int) = n - monthStart m + 1 := by
    show ((n - monthStart m + 1).toNat : Int) = _
    omega
  have h12 : 1 ≤ (ofMarch y n m).month ∧ (ofMarch y n m).month ≤ 12 := by
    unfold ofMarch
    by_cases hm : m < 10
    · simp only [hm, if_true]
      omega
    · simp only [hm, if_false]
      omega
  refine ⟨h12.1, h12.2, by omega, ?_⟩
  by_cases hfeb : (ofMarch y n m).month = 2
  · have hyear := marchYear_ofMarch (y := y) (n := n) h0 h11
    unfold marchYear at hyear
    unfold marchMonth at hmonth
    rw [hfeb] at hyear hmonth
    simp only [le_refl, if_true] at hyear hmonth
    have hlong : (ofMarch y n m).year = y + 1 := by omega
    have hm : m = 11 := by omega
    rw [hfeb, hlong, monthLength_february]
    subst hm
    unfold monthStart at hday
    split at hn <;> simp_all <;> omega
  · have hlength := monthLength_eq h12.1 h12.2 hfeb
    rw [hmonth] at hlength
    omega
end

theorem valid_ofDays (days : Int) : (ofDays days).Valid := by
  obtain ⟨y, n, m, heq, -, h0, hn, hm0, hm, hfirst, hlast⟩ := ofDays_eq days
  rw [heq]
  exact valid_ofMarch hm0 hm hfirst hn hlast

theorem toDays_ofDays (days : Int) : (ofDays days).toDays = days := by
  obtain ⟨y, n, m, heq, hdays, h0, hn, hm0, hm, hfirst, hlast⟩ := ofDays_eq days
  rw [heq, toDays_eq, marchYear_ofMarch hm0 hm, marchDay_ofMarch hm0 hm hfirst, hdays]


theorem toDays_first : (⟨-262143, 1, 1⟩ : Date).toDays = -96465292 := by decide
theorem toDays_last : (⟨262142, 12, 31⟩ : Date).toDays = 95026236 := by decide

theorem year_ofDays {days : Int} (h0 : -96465292 ≤ days) (h1 : days ≤ 95026236) :
    -262143 ≤ (ofDays days).year ∧ (ofDays days).year ≤ 262142 := by
  have hvalid := valid_ofDays days
  have hdays := toDays_ofDays days
  constructor
  · by_contra hlt
    have h := toDays_lt (e := ⟨-262143, 1, 1⟩) hvalid (by decide) (.inl (by simp; omega))
    rw [toDays_first] at h
    omega
  · by_contra hlt
    have h := toDays_lt (d := ⟨262142, 12, 31⟩) (by decide) hvalid (.inl (by simp; omega))
    rw [toDays_last] at h
    omega

end Date

/-! ## Time of day -/

namespace TimeOfDay

theorem valid_ofNanos {n : Nat} (h : n < 86400000000000) : (ofNanos n).Valid := by
  unfold ofNanos Valid
  simp only []
  omega

theorem toMillis_ofNanos (n : Nat) : (ofNanos n).toMillis = n / 1000000 := by
  unfold ofNanos toMillis
  simp only []
  omega

theorem Valid.toMillis_lt {t : TimeOfDay} (h : t.Valid) : t.toMillis < 86400000 := by
  unfold Valid at h
  unfold toMillis
  omega

end TimeOfDay

/-! ## Order -/

def Date.figures (d : Date) (t : TimeOfDay) : List Int :=
  [d.year, d.month, d.day, t.hour, t.minute, t.second, t.millis]

def Date.millis (d : Date) (t : TimeOfDay) : Int := d.toDays * 86400000 + t.toMillis

theorem TimeOfDay.toMillis_lt_of_figures {t u : TimeOfDay} (ht : t.Valid) (hu : u.Valid)
    (h : t.hour < u.hour ∨ t.hour = u.hour ∧ (t.minute < u.minute ∨ t.minute = u.minute ∧
      (t.second < u.second ∨ t.second = u.second ∧ t.millis < u.millis))) :
    t.toMillis < u.toMillis := by
  unfold Valid at ht hu
  unfold toMillis
  omega

namespace Date

variable {d e : Date} {t u : TimeOfDay}

theorem millis_lt (hd : d.Valid) (he : e.Valid) (ht : t.Valid) (hu : u.Valid)
    (h : List.Lex (· < ·) (d.figures t) (e.figures u)) : d.millis t < e.millis u := by
  have hlt := ht.toMillis_lt
  simp only [figures, List.cons_lex_cons_iff, Int.ofNat_lt, Int.natCast_inj, List.not_lex_nil,
    and_false, or_false] at h
  unfold millis
  rcases h with hyear | ⟨hyear, hmonth | ⟨hmonth, hday | ⟨hday, htime⟩⟩⟩
  · have hdays := toDays_lt hd he (.inl hyear)
    omega
  · have hdays := toDays_lt hd he (.inr ⟨hyear, .inl hmonth⟩)
    omega
  · have hdays := toDays_lt hd he (.inr ⟨hyear, .inr ⟨hmonth, hday⟩⟩)
    omega
  · have hsame : d = e := by
      cases d
      cases e
      simp_all
    have hmillis := TimeOfDay.toMillis_lt_of_figures ht hu htime
    rw [hsame]
    omega

/-- Figures are in the order of what they stand for. -/
theorem figures_lt_iff (hd : d.Valid) (he : e.Valid) (ht : t.Valid) (hu : u.Valid) :
    List.Lex (· < ·) (d.figures t) (e.figures u) ↔ d.millis t < e.millis u := by
  refine ⟨millis_lt hd he ht hu, fun h => ?_⟩
  rcases trichotomous_of (List.Lex (· < ·)) (d.figures t) (e.figures u) with hlt | heq | hgt
  · exact hlt
  · simp only [figures, List.cons.injEq, Int.natCast_inj, and_true] at heq
    obtain ⟨hyear, hmonth, hday, hhour, hminute, hsecond, hmilli⟩ := heq
    have hdate : d = e := by
      cases d
      cases e
      simp_all
    have htime : t = u := by
      cases t
      cases u
      simp_all
    rw [hdate, htime] at h
    exact absurd h (lt_irrefl _)
  · exact absurd h (lt_asymm (millis_lt he hd hu ht hgt))

end Date

/-! ## What a record shows -/

namespace Timestamp

theorem exists_civil {t : Timestamp} (h : t.InCalendar) :
    ∃ c, t.civil? = some c ∧ c.date.Valid ∧ c.time.Valid ∧
      -262143 ≤ c.date.year ∧ c.date.year ≤ 262142 ∧
      c.date.millis c.time = t.nanos / 1000000 := by
  refine ⟨_, if_pos h, Date.valid_ofDays _, ?_, ?_⟩
  · refine TimeOfDay.valid_ofNanos ?_
    unfold nanosPerDay
    omega
  · unfold InCalendar seconds at h
    have hday : -96465292 ≤ t.day ∧ t.day ≤ 95026236 := by
      unfold day nanosPerDay
      omega
    have hyear := Date.year_ofDays hday.1 hday.2
    refine ⟨hyear.1, hyear.2, ?_⟩
    unfold Date.millis
    rw [Date.toDays_ofDays, TimeOfDay.toMillis_ofNanos]
    unfold day nanosPerDay
    omega

end Timestamp

namespace Wire

def StatsRecord.figures? (m : StatsRecord) : Option (List Int) := do
  let date ← m.date
  let time ← m.time
  some [date.year.toInt, date.month.toInt, date.day.toInt, time.hours.toInt, time.minutes.toInt,
    time.seconds.toInt, time.millis.toInt]

theorem StatsRecord.figures?_ofRecord {id : Nat} {r : Record} {m : StatsRecord}
    (h : ofRecord? id r = some m) :
    ∃ (d : Date) (t : TimeOfDay), m.figures? = some (d.figures t) ∧ d.Valid ∧ t.Valid ∧
      d.millis t = r.time.nanos / 1000000 := by
  have hcal : r.time.InCalendar := by
    by_contra hout
    simp [ofRecord?, Timestamp.civil?, hout] at h
  obtain ⟨c, hc, hd, ht, hmin, hmax, hmillis⟩ := Timestamp.exists_civil hcal
  rw [ofRecord?, hc, Option.map_some, Option.some.injEq] at h
  refine ⟨c.date, c.time, ?_, hd, ht, hmillis⟩
  subst h
  have hlength : c.date.day ≤ 31 := by
    have := hd.2.2.2
    unfold Date.monthLength at this
    split at this <;> try split at this
    all_goals omega
  unfold Date.Valid at hd
  unfold TimeOfDay.Valid at ht
  simp only [figures?, DateStamp.ofDate, ClockTime.ofTime, Date.figures, Option.bind_eq_bind,
    Option.bind_some]
  rw [Int32.toInt_ofInt_of_le (by omega) (by omega)]
  repeat rw [Int32.toInt_ofNat_of_lt (by omega)]

end Wire

/-- **Dates.** The first day of 1970 is day 0, and behind every date stands one
that counts one more. A record that the calendar reaches has a message; its date
and time of day are valid and give back the time of the record in milliseconds,
rounded down. In the order of their figures messages are in the order of these. -/
theorem dates_exact (id : Nat) (r : Record) (hr : r.time.InCalendar) :
    Date.toDays ⟨1970, 1, 1⟩ = 0 ∧
      (∀ d : Date, d.Valid → d.next.Valid ∧ d.next.toDays = d.toDays + 1) ∧
      ∃ (m : Wire.StatsRecord) (d : Date) (t : TimeOfDay),
        Wire.StatsRecord.ofRecord? id r = some m ∧ m.figures? = some (d.figures t) ∧
          d.Valid ∧ t.Valid ∧ d.toDays * 86400000 + t.toMillis = r.time.nanos / 1000000 ∧
          ∀ (id' : Nat) (r' : Record) (m' : Wire.StatsRecord) (figures' : List Int),
            Wire.StatsRecord.ofRecord? id' r' = some m' → m'.figures? = some figures' →
              (List.Lex (· < ·) (d.figures t) figures' ↔
                r.time.nanos / 1000000 < r'.time.nanos / 1000000) ∧
              (r.time ≤ r'.time → ¬ List.Lex (· < ·) figures' (d.figures t)) := by
  refine ⟨by decide, fun d hd => ⟨hd.next, hd.toDays_next⟩, ?_⟩
  obtain ⟨c, hc, -⟩ := Timestamp.exists_civil hr
  obtain ⟨m, hm⟩ : ∃ m, Wire.StatsRecord.ofRecord? id r = some m := by
    rw [Wire.StatsRecord.ofRecord?, hc]
    exact ⟨_, rfl⟩
  obtain ⟨d, t, hfigures, hd, ht, hmillis⟩ := Wire.StatsRecord.figures?_ofRecord hm
  refine ⟨m, d, t, hm, hfigures, hd, ht, hmillis, fun id' r' m' figures' hm' hfigures' => ?_⟩
  obtain ⟨d', t', heq, hd', ht', hmillis'⟩ := Wire.StatsRecord.figures?_ofRecord hm'
  obtain rfl : figures' = d'.figures t' := Option.some.inj (hfigures'.symm.trans heq)
  rw [Date.figures_lt_iff hd hd' ht ht', Date.figures_lt_iff hd' hd ht' ht, hmillis, hmillis']
  refine ⟨Iff.rfl, fun hle hlt => ?_⟩
  rw [Timestamp.le_iff] at hle
  omega

/-- A nanosecond before the epoch is in the last millisecond of 1969. -/
theorem dates_exact_early :
    let r : Record := { time := ⟨-1, by decide, by decide⟩ }
    r.time.InCalendar ∧ ∃ (m : Wire.StatsRecord) (d : Date) (t : TimeOfDay),
      Wire.StatsRecord.ofRecord? 0 r = some m ∧ m.figures? = some (d.figures t) ∧
        d.Valid ∧ t.Valid ∧ d.toDays * 86400000 + t.toMillis = -1 := by
  intro r
  have hr : r.time.InCalendar := by decide
  obtain ⟨-, -, m, d, t, hm, hfigures, hd, ht, hmillis, -⟩ := dates_exact 0 r hr
  exact ⟨hr, m, d, t, hm, hfigures, hd, ht, hmillis⟩

example : (Wire.StatsRecord.ofRecord? 0 { time := ⟨-1, by decide, by decide⟩ }).bind (·.figures?) =
    some [1969, 12, 31, 23, 59, 59, 999] := by decide

end UsageWatch
