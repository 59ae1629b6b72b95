import Mathlib.Data.Prod.Lex

/-!
# Calendar dates and instants of coordinated universal time

A date is a valid triple of the proleptic Gregorian calendar and a datetime is a date
with the microseconds since its midnight; validity is part of the type. Datetimes are
ordered by their fields, from the year down. Two facts matter for windows that are
opened at one instant and compared at a later one: the date and the calendar month of
the earlier instant never exceed those of the later one, and an instant lies before the
first instant of a month exactly when its own month is an earlier one. The microsecond
count since the start of the calendar respects the same order, for arithmetic on hours.
-/

set_option autoImplicit false

namespace Calendar

def isLeap (year : Nat) : Bool := year % 4 == 0 && (year % 100 != 0 || year % 400 == 0)

def daysInMonth (year month : Nat) : Nat :=
  if month = 2 then (if isLeap year then 29 else 28)
  else if month = 4 ∨ month = 6 ∨ month = 9 ∨ month = 11 then 30
  else 31

theorem one_le_daysInMonth (year month : Nat) : 1 ≤ daysInMonth year month := by
  unfold daysInMonth
  split
  · split <;> omega
  · split <;> omega

end Calendar

open Calendar

/-- A date of the proleptic Gregorian calendar. -/
@[ext] structure Date where
  year : Nat
  month : Nat
  day : Nat
  yearPos : 1 ≤ year := by decide
  monthPos : 1 ≤ month := by decide
  monthLe : month ≤ 12 := by decide
  dayPos : 1 ≤ day := by decide
  dayLe : day ≤ daysInMonth year month := by decide
deriving DecidableEq

namespace Date

/-- The calendar month, counted from year 0. -/
def monthIndex (d : Date) : Nat := 13 * d.year + d.month

def fields (d : Date) : ℕ ×ₗ ℕ ×ₗ ℕ := toLex (d.year, toLex (d.month, d.day))

theorem fields_injective : Function.Injective fields := by
  intro a b h
  have hfields : (a.year, a.month, a.day) = (b.year, b.month, b.day) := h
  obtain ⟨hyear, hrest⟩ := Prod.mk.inj hfields
  obtain ⟨hmonth, hday⟩ := Prod.mk.inj hrest
  exact Date.ext hyear hmonth hday

instance : LinearOrder Date := LinearOrder.lift' fields fields_injective

/-- The order by year, then month, then day. -/
theorem lt_iff_fields {a b : Date} :
    a < b ↔ a.year < b.year ∨ a.year = b.year ∧
      (a.month < b.month ∨ a.month = b.month ∧ a.day < b.day) := by
  have hlt : a < b ↔ a.fields < b.fields := Iff.rfl
  rw [hlt, fields, fields, Prod.Lex.toLex_lt_toLex, Prod.Lex.toLex_lt_toLex]

theorem monthIndex_mono {a b : Date} (h : a ≤ b) : a.monthIndex ≤ b.monthIndex := by
  have ha := a.monthLe
  have hb := b.monthPos
  unfold monthIndex
  rcases eq_or_lt_of_le h with rfl | hlt
  · exact Nat.le_refl _
  · have hfields := lt_iff_fields.mp hlt
    omega

def firstOfMonth (d : Date) : Date where
  year := d.year
  month := d.month
  day := 1
  yearPos := d.yearPos
  monthPos := d.monthPos
  monthLe := d.monthLe
  dayLe := one_le_daysInMonth _ _

theorem lt_firstOfMonth_iff {a b : Date} : a < b.firstOfMonth ↔ a.monthIndex < b.monthIndex := by
  have hpos := a.dayPos
  have hale := a.monthLe
  have hble := b.monthLe
  have hafrom := a.monthPos
  have hbfrom := b.monthPos
  rw [lt_iff_fields]
  unfold monthIndex firstOfMonth
  dsimp only
  omega

end Date

/-- A date and the microseconds since its midnight. -/
@[ext] structure Datetime where
  date : Date
  micros : Nat
  microsLt : micros < 86400000000 := by decide
deriving DecidableEq

namespace Datetime

def fields (t : Datetime) : Date ×ₗ ℕ := toLex (t.date, t.micros)

theorem fields_injective : Function.Injective fields := by
  intro a b h
  have hfields : (a.date, a.micros) = (b.date, b.micros) := h
  obtain ⟨hdate, hmicros⟩ := Prod.mk.inj hfields
  exact Datetime.ext hdate hmicros

instance : LinearOrder Datetime := LinearOrder.lift' fields fields_injective

theorem lt_iff_fields {a b : Datetime} :
    a < b ↔ a.date < b.date ∨ a.date = b.date ∧ a.micros < b.micros := by
  have hlt : a < b ↔ a.fields < b.fields := Iff.rfl
  rw [hlt, fields, fields, Prod.Lex.toLex_lt_toLex]

def monthIndex (t : Datetime) : Nat := t.date.monthIndex

theorem date_mono {a b : Datetime} (h : a ≤ b) : a.date ≤ b.date := by
  rcases eq_or_lt_of_le h with rfl | hlt
  · exact le_refl _
  · rcases lt_iff_fields.mp hlt with hdate | ⟨hdate, _⟩
    · exact le_of_lt hdate
    · exact le_of_eq hdate

theorem monthIndex_mono {a b : Datetime} (h : a ≤ b) : a.monthIndex ≤ b.monthIndex :=
  Date.monthIndex_mono (date_mono h)

def monthStart (t : Datetime) : Datetime := ⟨t.date.firstOfMonth, 0, by decide⟩

theorem lt_monthStart_iff {a b : Datetime} : a < b.monthStart ↔ a.monthIndex < b.monthIndex := by
  rw [lt_iff_fields, monthStart]
  constructor
  · rintro (h | ⟨_, h⟩)
    · exact Date.lt_firstOfMonth_iff.mp h
    · exact absurd h (Nat.not_lt_zero _)
  · exact fun h => Or.inl (Date.lt_firstOfMonth_iff.mpr h)

end Datetime

namespace Calendar

/-- The number of days before the first of January of a year. -/
def daysBeforeYear (year : Nat) : Nat :=
  (year - 1) * 365 + (year - 1) / 4 - (year - 1) / 100 + (year - 1) / 400

/-- The number of days of a year before the first of a month. -/
def daysBeforeMonth (year month : Nat) : Nat :=
  (List.range (month - 1)).foldl (fun days m => days + daysInMonth year (m + 1)) 0

theorem isLeap_iff (year : Nat) : isLeap year = true ↔ 4 ∣ year ∧ (¬100 ∣ year ∨ 400 ∣ year) := by
  simp only [isLeap, Bool.and_eq_true, Bool.or_eq_true, beq_iff_eq, bne_iff_ne, ne_eq,
    Nat.dvd_iff_mod_eq_zero]

theorem daysBeforeYear_succ {year : Nat} (h : 1 ≤ year) :
    daysBeforeYear (year + 1) = daysBeforeYear year + if isLeap year then 366 else 365 := by
  obtain ⟨y, rfl⟩ : ∃ y, year = y + 1 := ⟨year - 1, by omega⟩
  have hcentury : y / 100 ≤ y := Nat.div_le_self y 100
  have hto100 : 400 ∣ y + 1 → 100 ∣ y + 1 := Nat.dvd_trans (by decide)
  have hto4 : 100 ∣ y + 1 → 4 ∣ y + 1 := Nat.dvd_trans (by decide)
  simp only [daysBeforeYear, isLeap_iff, Nat.add_one_sub_one, Nat.succ_div]
  -- the quotients of `y` play no part from here on
  generalize y / 4 = a, y / 100 = b, y / 400 = c at *
  by_cases h400 : 400 ∣ y + 1
  · have h100 := hto100 h400
    simp [h400, h100, hto4 h100]
    omega
  · by_cases h100 : 100 ∣ y + 1
    · simp [h400, h100, hto4 h100]
      omega
    · by_cases h4 : 4 ∣ y + 1
      · simp [h400, h100, h4]
        omega
      · simp [h400, h100, h4]
        omega

theorem daysBeforeYear_mono {a b : Nat} (ha : 1 ≤ a) (h : a ≤ b) :
    daysBeforeYear a ≤ daysBeforeYear b := by
  induction h with
  | refl => exact Nat.le_refl _
  | @step b hab ih =>
    rw [Nat.succ_eq_add_one, daysBeforeYear_succ (Nat.le_trans ha hab)]
    omega

theorem daysBeforeMonth_succ (year : Nat) {month : Nat} (h : 1 ≤ month) :
    daysBeforeMonth year (month + 1) = daysBeforeMonth year month + daysInMonth year month := by
  obtain ⟨m, rfl⟩ : ∃ m, month = m + 1 := ⟨month - 1, by omega⟩
  simp [daysBeforeMonth, List.range_succ]

theorem daysBeforeMonth_mono (year : Nat) {a b : Nat} (ha : 1 ≤ a) (h : a ≤ b) :
    daysBeforeMonth year a ≤ daysBeforeMonth year b := by
  induction h with
  | refl => exact Nat.le_refl _
  | @step b hab ih =>
    rw [Nat.succ_eq_add_one, daysBeforeMonth_succ year (Nat.le_trans ha hab)]
    omega

theorem daysBeforeMonth_thirteen (year : Nat) :
    daysBeforeMonth year 13 = if isLeap year then 366 else 365 := by
  have hrange : List.range 12 = [0, 1, 2, 3, 4, 5, 6, 7, 8, 9, 10, 11] := rfl
  simp only [daysBeforeMonth, Nat.add_one_sub_one, hrange, List.foldl_cons, List.foldl_nil,
    daysInMonth]
  cases isLeap year <;> rfl

end Calendar

/-- The day number, with the first of January of year 1 as day 1. -/
def Date.toordinal (d : Date) : Nat :=
  daysBeforeYear d.year + daysBeforeMonth d.year d.month + d.day

namespace Date

theorem toordinal_gt (d : Date) :
    daysBeforeYear d.year + daysBeforeMonth d.year d.month < d.toordinal := by
  have := d.dayPos
  unfold toordinal
  omega

theorem toordinal_le_month (d : Date) :
    d.toordinal ≤ daysBeforeYear d.year + daysBeforeMonth d.year (d.month + 1) := by
  have := d.dayLe
  rw [daysBeforeMonth_succ d.year d.monthPos]
  unfold toordinal
  omega

theorem toordinal_le_year (d : Date) : d.toordinal ≤ daysBeforeYear (d.year + 1) := by
  have hmonth := d.toordinal_le_month
  have hle := daysBeforeMonth_mono d.year (by omega : 1 ≤ d.month + 1)
    (Nat.succ_le_succ d.monthLe)
  rw [show Nat.succ 12 = 13 from rfl, daysBeforeMonth_thirteen] at hle
  rw [daysBeforeYear_succ d.yearPos]
  omega

theorem toordinal_strictMono {a b : Date} (h : a < b) : a.toordinal < b.toordinal := by
  have hgt := b.toordinal_gt
  rcases lt_iff_fields.mp h with hy | ⟨hy, hm | ⟨hm, hd⟩⟩
  · have hle := a.toordinal_le_year
    have hmono := daysBeforeYear_mono (by omega : 1 ≤ a.year + 1) hy
    omega
  · have hle := a.toordinal_le_month
    have hmono := daysBeforeMonth_mono b.year (by omega : 1 ≤ a.month + 1) hm
    rw [hy] at hle
    omega
  · unfold toordinal
    rw [hy, hm]
    omega

def next (d : Date) : Date :=
  if hday : d.day < daysInMonth d.year d.month then
    {d with
      day := d.day + 1
      dayPos := Nat.succ_pos _
      dayLe := hday}
  else if hmonth : d.month < 12 then
    {d with
      month := d.month + 1
      day := 1
      monthPos := Nat.succ_pos _
      monthLe := hmonth
      dayPos := Nat.le_refl 1
      dayLe := one_le_daysInMonth d.year (d.month + 1)}
  else {year := d.year + 1, month := 1, day := 1, yearPos := Nat.succ_pos _,
        dayLe := one_le_daysInMonth (d.year + 1) 1}

theorem toordinal_next (d : Date) : d.next.toordinal = d.toordinal + 1 := by
  have hmonthLe := d.monthLe
  have hdayLe := d.dayLe
  unfold next
  split
  · rfl
  · rename_i hday
    split
    · have hmonth := daysBeforeMonth_succ d.year d.monthPos
      simp only [toordinal]
      omega
    · rename_i hmonth
      have htwelve : d.month = 12 := by omega
      have hyear := daysBeforeYear_succ d.yearPos
      have hdecember := daysBeforeMonth_succ d.year d.monthPos
      have hthirteen := daysBeforeMonth_thirteen d.year
      have hjanuary : daysBeforeMonth (d.year + 1) 1 = 0 := rfl
      rw [htwelve] at hdecember hdayLe hday
      rw [show 12 + 1 = 13 from rfl] at hdecember
      simp only [toordinal, htwelve]
      omega

end Date

/-- Microseconds since the day before the first of January of year 1. -/
def Datetime.instant (t : Datetime) : Nat := 86400000000 * t.date.toordinal + t.micros

theorem Datetime.instant_strictMono {a b : Datetime} (h : a < b) : a.instant < b.instant := by
  have ha := a.microsLt
  unfold instant
  rcases lt_iff_fields.mp h with hd | ⟨hd, hm⟩
  · have := Date.toordinal_strictMono hd
    omega
  · rw [hd]
    omega

theorem Datetime.instant_le_iff {a b : Datetime} : a.instant ≤ b.instant ↔ a ≤ b := by
  constructor
  · intro h
    exact not_lt.mp fun hlt => absurd (instant_strictMono hlt) (Nat.not_lt.mpr h)
  · intro h
    rcases lt_or_eq_of_le h with hlt | rfl
    · exact Nat.le_of_lt (instant_strictMono hlt)
    · exact Nat.le_refl _

def Datetime.nextDay (t : Datetime) : Datetime := {t with date := t.date.next}

theorem Datetime.instant_nextDay (t : Datetime) :
    t.nextDay.instant = t.instant + 3600000000 * 24 := by
  simp only [instant, nextDay, Date.toordinal_next]
  omega

/-- `t >= now - timedelta(hours=h)`. -/
def Datetime.withinHours (now : Datetime) (hours : Nat) (t : Datetime) : Bool :=
  now.instant ≤ 3600000000 * hours + t.instant

namespace Datetime

def epoch : Datetime := ⟨{year := 1970, month := 1, day := 1}, 0, by decide⟩

/-- `timegm(t.utctimetuple())`: the whole seconds since the epoch. -/
def timegm (t : Datetime) : Int := (t.instant - epoch.instant : Int) / 1000000

/-- `int((t + timedelta(minutes=m)).timestamp())`. -/
def timestampAfter (t : Datetime) (minutes : Nat) : Int :=
  (t.instant + 60000000 * minutes - epoch.instant : Int).tdiv 1000000

theorem timegm_mono {t t' : Datetime} (h : t ≤ t') : t.timegm ≤ t'.timegm := by
  have hinstant := Datetime.instant_le_iff.mpr h
  unfold timegm
  omega

end Datetime
