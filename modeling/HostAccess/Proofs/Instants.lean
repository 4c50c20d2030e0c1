import Mathlib.Algebra.Group.Nat.Defs
import HostAccess.Instant

/-! # Reading written instants

The day of a date is the date of the day again, for every day of the calendar, so the date and the
time of day in which an instant is written lead back to its minute. A written number is read back
wherever it stands, and so every instant is read back from its text, a leap second and the years of
more than four digits included. -/
namespace HostAccess

/-! ## Days and dates -/

namespace CivilDate

/-- Days of a cycle of four centuries before a year of it, where years start in March. -/
def yearStart (year : Int) : Int := year * 365 + year / 4 - year / 100

/-- The year in which a day of a cycle lies. -/
def yearOfCycle (day : Int) : Int := (day - day / 1460 + day / 36524 - day / 146096) / 365

/-- The year in which a day of a cycle lies has 365 days, and one more if it ends in the
February of a leap year. -/
theorem yearOfCycle_spans {day year : Int} (first : 0 ≤ day) (last : day ≤ 146096)
    (lies : year = yearOfCycle day) :
    0 ≤ year ∧ year ≤ 399 ∧ yearStart year ≤ day ∧
      (day ≤ yearStart year + 364 ∨ day = yearStart year + 365 ∧ isLeapYear (year + 1) = true) := by
  unfold yearOfCycle at lies
  unfold yearStart
  by_cases final : day = 146096
  -- The last day of a cycle is the leap day of its only leap century.
  · obtain rfl : year = 399 := by omega
    subst final
    decide
  -- Any other day is day `s` of a group of four years, the `k`-th of a century.
  obtain ⟨c, century⟩ : ∃ c, c = day / 36524 := ⟨_, rfl⟩
  obtain ⟨k, group⟩ : ∃ k, k = (day - 36524 * c) / 1461 := ⟨_, rfl⟩
  obtain ⟨s, rest⟩ : ∃ s, s = day - 36524 * c - 1461 * k := ⟨_, rfl⟩
  obtain ⟨e, excess⟩ : ∃ e, e = (k + 24 * c + s) / 1460 := ⟨_, rfl⟩
  have split : day / 1460 = 25 * c + k + e := by omega
  have none : day / 146096 = 0 := by omega
  have small : e = 0 ∨ e = 1 := by omega
  obtain ⟨j, place⟩ : ∃ j, j = (s - e) / 365 := ⟨_, rfl⟩
  have shape : year = 100 * c + 4 * k + j := by omega
  have within : 0 ≤ j ∧ j ≤ 3 := by omega
  have fours : year / 4 = 25 * c + k := by omega
  have centuries : year / 100 = c := by omega
  refine ⟨by omega, by omega, by omega, ?_⟩
  by_cases short : day ≤ year * 365 + year / 4 - year / 100 + 364
  · exact Or.inl short
  · refine Or.inr ⟨by omega, ?_⟩
    have fourth : j = 3 := by omega
    have fourYearly : (year + 1) % 4 = 0 := by omega
    have noCentury : (year + 1) % 100 ≠ 0 := by omega
    simp [isLeapYear, fourYearly, noCentury]

theorem isLeapYear_cycle (year cycle : Int) :
    isLeapYear (year + cycle * 400) = isLeapYear year := by
  have four : (year + cycle * 400) % 4 = year % 4 := by omega
  have hundred : (year + cycle * 400) % 100 = year % 100 := by omega
  have fourHundred : (year + cycle * 400) % 400 = year % 400 := by omega
  simp only [isLeapYear, four, hundred, fourHundred]

/-- Days of a year before a month of it, both counted from March. -/
def monthStart (month : Nat) : Nat := (153 * month + 2) / 5

/-- The number that a month counted from March has in the calendar. -/
def calendarMonth (month : Nat) : Nat := if month < 10 then month + 3 else month - 9

/-- The date with this year, month and day, counted from the first March of a cycle. -/
def fromMarch (cycle year : Int) (month day : Nat) : CivilDate :=
  ⟨(if month < 10 then year else year + 1) + cycle * 400, calendarMonth month, day⟩

theorem monthStart_next {year : Int} {month : Nat} (early : month < 11) :
    monthStart (month + 1) = monthStart month + monthLength year (calendarMonth month) := by
  have noFebruary : calendarMonth month ≠ 2 := by unfold calendarMonth; split <;> omega
  have anyYear : monthLength year (calendarMonth month) = monthLength 1 (calendarMonth month) := by
    simp only [monthLength, noFebruary, if_false]
  have inFirst : ∀ month < 11,
      monthStart (month + 1) = monthStart month + monthLength 1 (calendarMonth month) := by decide
  rw [anyYear, inFirst month early]

/-- A day of a year that starts in March lies in a month of it. -/
theorem exists_month {day : Nat} (within : day ≤ 365) : ∃ month before,
    month = (5 * day + 2) / 153 ∧ day = monthStart month + before ∧
      (month < 11 ∧ day < monthStart (month + 1) ∨ month = 11) := by
  refine ⟨(5 * day + 2) / 153, day - monthStart ((5 * day + 2) / 153), rfl, ?_⟩
  unfold monthStart
  omega

theorem toDays_fromMarch {cycle year : Int} {month day : Nat} (first : 0 ≤ year)
    (last : year ≤ 399) (months : month ≤ 11) :
    (fromMarch cycle year month day).toDays =
      cycle * 146097 + yearStart year + monthStart month + day - 1 - 719468 := by
  unfold toDays fromMarch calendarMonth yearStart monthStart
  by_cases before : month < 10
  · have late : ¬ month + 3 ≤ 2 := by omega
    simp only [before, late, if_true, if_false]
    omega
  · have early : month - 9 ≤ 2 := by omega
    simp only [before, early, if_true, if_false]
    omega

theorem fromMarch_exists {cycle year : Int} {month day : Nat} (start : 1 ≤ day)
    (finish : month < 11 ∧ monthStart month + day ≤ monthStart (month + 1) ∨
      month = 11 ∧ (day ≤ 28 ∨ day = 29 ∧ isLeapYear (year + 1) = true)) :
    (fromMarch cycle year month day).Exists := by
  refine ⟨?_, ?_, start, ?_⟩ <;> dsimp only [fromMarch]
  · unfold calendarMonth; split <;> omega
  · unfold calendarMonth; split <;> omega
  obtain ⟨early, short⟩ | ⟨rfl, february⟩ := finish
  · rw [monthStart_next early] at short
    exact Nat.le_of_add_le_add_left short
  · obtain short | ⟨rfl, leap⟩ := february
    · simp only [calendarMonth, monthLength]
      simp
      split <;> omega
    · simp [calendarMonth, monthLength, isLeapYear_cycle, leap]

/-- The date of a day whose places in its cycle, its year and its month are known. -/
theorem ofDays_eq {days cycle dayOfCycle year : Int} {dayOfYear month before : Nat}
    (cycles : cycle = (days + 719468) / 146097) (remains : dayOfCycle = (days + 719468) % 146097)
    (lies : year = yearOfCycle dayOfCycle)
    (place : (dayOfYear : Int) = dayOfCycle - yearStart year)
    (months : month = (5 * dayOfYear + 2) / 153) (monthly : dayOfYear = monthStart month + before) :
    ofDays days = fromMarch cycle year month (before + 1) := by
  have inYear : dayOfCycle - (365 * year + year / 4 - year / 100) = dayOfYear := by
    rw [place, yearStart, Int.mul_comm 365]
  have ofMonth : (5 * (dayOfYear : Int) + 2) / 153 = month := by omega
  have ofDay : (dayOfYear : Int) - (153 * month + 2) / 5 + 1 = (before + 1 : Nat) := by
    unfold monthStart at monthly
    omega
  unfold yearOfCycle at lies
  simp only [ofDays, ← cycles, ← remains, ← lies, inYear, ofMonth, ofDay, fromMarch,
    calendarMonth, Int.toNat_natCast]
  by_cases early : month < 10
  · have spring : (month : Int) < 10 := by omega
    have late : ¬ (month : Int) + 3 ≤ 2 := by omega
    simp only [early, spring, late, if_true, if_false]
    congr 1
  · have winter : ¬ (month : Int) < 10 := by omega
    have late : (month : Int) - 9 ≤ 2 := by omega
    simp only [early, winter, late, if_true, if_false]
    congr 1 <;> omega

theorem ofDays_eq_fromMarch (days : Int) : ∃ cycle year month day,
    ofDays days = fromMarch cycle year month day ∧ 0 ≤ year ∧ year ≤ 399 ∧ month ≤ 11 ∧
      (fromMarch cycle year month day).Exists ∧
      days = cycle * 146097 + yearStart year + monthStart month + day - 1 - 719468 := by
  obtain ⟨cycle, cycles⟩ : ∃ cycle, cycle = (days + 719468) / 146097 := ⟨_, rfl⟩
  obtain ⟨dayOfCycle, remains⟩ : ∃ d, d = (days + 719468) % 146097 := ⟨_, rfl⟩
  obtain ⟨year, lies⟩ : ∃ year, year = yearOfCycle dayOfCycle := ⟨_, rfl⟩
  obtain ⟨first, last, start, finish⟩ := yearOfCycle_spans (by omega) (by omega) lies
  obtain ⟨dayOfYear, place⟩ : ∃ day : Nat, (day : Int) = dayOfCycle - yearStart year :=
    ⟨(dayOfCycle - yearStart year).toNat, by omega⟩
  obtain ⟨month, before, months, monthly, short⟩ := exists_month (by omega : dayOfYear ≤ 365)
  have february : monthStart 11 = 337 := rfl
  refine ⟨cycle, year, month, before + 1, ofDays_eq cycles remains lies place months monthly,
    first, last, by omega, fromMarch_exists (by omega) ?_, by omega⟩
  obtain ⟨early, short⟩ | rfl := short
  · exact Or.inl ⟨early, by omega⟩
  · obtain within | ⟨leapDay, leap⟩ := finish
    · exact Or.inr ⟨rfl, Or.inl (by omega)⟩
    · exact Or.inr ⟨rfl, Or.inr ⟨by omega, leap⟩⟩

theorem toDays_ofDays (days : Int) : (ofDays days).toDays = days := by
  obtain ⟨cycle, year, month, day, shape, first, last, months, -, total⟩ := ofDays_eq_fromMarch days
  rw [shape, toDays_fromMarch first last months, ← total]

theorem ofDays_exists (days : Int) : (ofDays days).Exists := by
  obtain ⟨_, _, _, _, shape, _, _, _, actual, _⟩ := ofDays_eq_fromMarch days
  rw [shape]
  exact actual

theorem monthLength_le (year : Int) (month : Nat) : monthLength year month ≤ 31 := by
  unfold monthLength
  split
  · split <;> decide
  · split <;> decide

/-- The days of the years from -262143 to 262142. -/
theorem year_ofDays {days : Int} (early : -96465292 ≤ days) (late : days ≤ 95026236) :
    -262143 ≤ (ofDays days).year ∧ (ofDays days).year ≤ 262142 := by
  obtain ⟨cycle, year, month, day, shape, first, last, months, ⟨-, -, start, finish⟩, total⟩ :=
    ofDays_eq_fromMarch days
  have finish : day ≤ 31 := Nat.le_trans finish (monthLength_le _ _)
  have start : 1 ≤ day := start
  have seasons : ∀ month ≤ 11, monthStart month ≤ 337 ∧
      (month < 10 ∧ monthStart month ≤ 275 ∨ ¬ month < 10 ∧ 306 ≤ monthStart month) := by decide
  obtain ⟨within, season⟩ := seasons month months
  have leaps : year * 365 ≤ yearStart year ∧ yearStart year ≤ year * 365 + 96 := by
    unfold yearStart
    omega
  -- Only the first and the last cycle come close to the bounds.
  have cycles : cycle = -656 ∨ -655 ≤ cycle ∧ cycle ≤ 654 ∨ cycle = 655 := by omega
  unfold yearStart at total
  rw [shape]
  dsimp only [fromMarch]
  obtain ⟨early, autumn⟩ | ⟨late, winter⟩ := season
  · rw [if_pos early]
    obtain rfl | inner | rfl := cycles <;> omega
  · rw [if_neg late]
    obtain rfl | inner | rfl := cycles <;> omega

end CivilDate

/-! ## Digits -/

namespace Text

theorem toNat_digitChar (d : Nat) : (digitChar d).toNat = 48 + d % 10 := by
  have all : ∀ digit < 10, (Char.ofNat (48 + digit)).toNat = 48 + digit := by decide
  exact all (d % 10) (Nat.mod_lt d (by decide))

theorem isDigit_digitChar (d : Nat) : isDigit (digitChar d) = true := by
  have all : ∀ digit < 10, isDigit (Char.ofNat (48 + digit)) = true := by decide
  exact all (d % 10) (Nat.mod_lt d (by decide))

theorem isDigit_of_mem_padded {c : Char} : ∀ {width n : Nat}, c ∈ padded width n → isDigit c = true
  | 0, _, member => absurd member List.not_mem_nil
  | width + 1, n, member => by
    rw [padded, List.mem_append, List.mem_singleton] at member
    obtain earlier | rfl := member
    · exact isDigit_of_mem_padded earlier
    · exact isDigit_digitChar n

@[simp] theorem length_padded : ∀ width n : Nat, (padded width n).length = width
  | 0, _ => rfl
  | width + 1, n => by rw [padded, List.length_append, length_padded]; rfl

theorem digitsValue_padded : ∀ {width n : Nat}, n < 10 ^ width → digitsValue (padded width n) = n
  | 0, n, fits => by
    obtain rfl : n = 0 := by omega
    rfl
  | width + 1, n, fits => by
    have earlier : digitsValue (padded width (n / 10)) = n / 10 :=
      digitsValue_padded (by rw [Nat.pow_succ] at fits; omega)
    rw [digitsValue] at earlier
    rw [padded, digitsValue, List.foldl_append, earlier, List.foldl_cons, List.foldl_nil,
      toNat_digitChar]
    omega

theorem not_isBlank_of_isDigit {c : Char} (digit : isDigit c = true) : isBlank c = false := by
  simp only [isDigit, Bool.and_eq_true, decide_eq_true_eq] at digit
  have least : 48 ≤ c.toNat := digit.1
  have most : c.toNat ≤ 57 := digit.2
  simp only [isBlank, Bool.or_eq_false_iff, Bool.and_eq_false_iff, decide_eq_false_iff_not,
    beq_eq_false_iff_ne]
  omega

theorem skipBlanks_cons {c : Char} {rest : List Char} (solid : isBlank c = false) :
    skipBlanks (c :: rest) = c :: rest :=
  List.dropWhile_cons_of_neg (by simp [solid])

/-- A padded number starts with a digit. -/
theorem exists_padded {width : Nat} (n : Nat) (wide : 0 < width) :
    ∃ c digits, padded width n = c :: digits ∧ isDigit c = true := by
  obtain ⟨c, digits, shape⟩ := List.exists_cons_of_length_pos (l := padded width n) (by simpa)
  exact ⟨c, digits, shape, isDigit_of_mem_padded (shape ▸ List.mem_cons_self)⟩

theorem skipBlanks_padded {width n : Nat} {rest : List Char} (wide : 0 < width) :
    skipBlanks (padded width n ++ rest) = padded width n ++ rest := by
  obtain ⟨c, digits, shape, digit⟩ := exists_padded n wide
  rw [shape, List.cons_append, skipBlanks_cons (not_isBlank_of_isDigit digit)]

/-- Whether a text goes on with something else than a digit, or not at all. -/
def LeavesDigits (rest : List Char) : Prop := ∀ c ∈ rest.head?, isDigit c = false

theorem takeWhile_padded {width n : Nat} {rest : List Char} (leaves : LeavesDigits rest) :
    (padded width n ++ rest).takeWhile isDigit = padded width n := by
  rw [List.takeWhile_append_of_pos fun _ => isDigit_of_mem_padded]
  cases rest with
  | nil => simp
  | cons c rest => simp [leaves c rfl]

/-- A padded number is read back if it is the longest one that is looked for, or if no digit
follows it. -/
theorem number?_padded {width most n : Nat} {rest : List Char} (wide : 0 < width)
    (fits : n < 10 ^ width) (ends : width = most ∨ width ≤ most ∧ LeavesDigits rest) :
    number? most (padded width n ++ rest) = some (n, rest) := by
  obtain ⟨c, others, shape, -⟩ := exists_padded n wide
  have digits : ((padded width n ++ rest).take most).takeWhile isDigit = padded width n := by
    rw [List.take_append, length_padded]
    obtain rfl | ⟨short, leaves⟩ := ends
    · rw [Nat.sub_self, List.take_zero, List.take_of_length_le (by simp)]
      exact takeWhile_padded (by simp [LeavesDigits])
    · rw [List.take_of_length_le (by simpa using short)]
      refine takeWhile_padded fun c first => leaves c ?_
      cases rest <;> simp_all [List.head?_take]
  rw [number?, digits, if_neg (by simp [shape]), digitsValue_padded fits,
    List.drop_left]

end Text

/-! ## Instants -/

namespace Instant

open Text

theorem component?_padded {n : Nat} {rest : List Char} (fits : n < 100) :
    component? 2 (padded 2 n ++ rest) = some (n, rest) := by
  rw [component?, skipBlanks_padded (by decide)]
  exact number?_padded (by decide) fits (Or.inl rfl)

theorem mark?_cons {mark : Char} {rest : List Char} (solid : isBlank mark = false) :
    mark? mark (mark :: rest) = some rest := by
  rw [mark?, skipBlanks_cons solid]
  exact if_pos rfl

theorem year?_padded {n : Nat} {rest : List Char} (fits : n < 10000) :
    year? (padded 4 n ++ rest) = some ((n : Int), rest) := by
  have read : number? 4 (padded 4 n ++ rest) = some (n, rest) :=
    number?_padded (by decide) fits (Or.inl rfl)
  obtain ⟨c, digits, shape, digit⟩ := exists_padded n (by decide : 0 < 4)
  rw [year?, skipBlanks_padded (by decide)]
  rw [shape, List.cons_append] at read ⊢
  split
  next minus =>
    cases minus
    exact absurd digit (by decide)
  next plus =>
    cases plus
    exact absurd digit (by decide)
  next => rw [read]; rfl

theorem year?_sign {sign : Char} {width n : Nat} {rest : List Char}
    (signs : sign = '-' ∨ sign = '+') (wide : 0 < width) (fits : n < 10 ^ width) :
    year? (sign :: (padded width n ++ '-' :: rest)) =
      some (if sign = '-' then -(n : Int) else n, '-' :: rest) := by
  have read : number? (padded width n ++ '-' :: rest).length (padded width n ++ '-' :: rest) =
      some (n, '-' :: rest) :=
    number?_padded wide fits (Or.inr ⟨by simp, by simp [LeavesDigits, isDigit]⟩)
  obtain rfl | rfl := signs
  · simp only [year?, skipBlanks_cons (by decide : isBlank '-' = false), read]
    rfl
  · simp only [year?, skipBlanks_cons (by decide : isBlank '+' = false), read]
    rfl

theorem year?_yearChars {year : Int} {rest : List Char} (held : hasLocal year = true) :
    year? (yearChars year ++ '-' :: rest) = some (year, '-' :: rest) := by
  simp only [hasLocal, Bool.and_eq_true, decide_eq_true_eq] at held
  unfold yearChars
  split
  next plain =>
    rw [year?_padded (by omega), Int.toNat_of_nonneg plain.1]
  next =>
    dsimp only
    generalize widths : (if year.natAbs < 10000 then 4
      else if year.natAbs < 100000 then 5 else 6) = width
    have enough : 0 < width ∧ year.natAbs < 10 ^ width := by
      rw [← widths]
      split
      · omega
      split <;> omega
    rw [List.cons_append, year?_sign (by split <;> simp) enough.1 enough.2]
    by_cases negative : year < 0
    · rw [if_pos negative, if_pos rfl, show -(year.natAbs : Int) = year by omega]
    · rw [if_neg negative, if_neg (by decide), show (year.natAbs : Int) = year by omega]

theorem fraction?_padded {width n : Nat} {rest : List Char} (wide : 0 < width) (counts : width ≤ 9)
    (fits : n < 10 ^ width) :
    fraction? ('.' :: (padded width n ++ 'Z' :: rest)) =
      some (n * 10 ^ (9 - width), 'Z' :: rest) := by
  obtain ⟨c, others, shape, -⟩ := exists_padded n wide
  have digits : (padded width n ++ 'Z' :: rest).takeWhile isDigit = padded width n :=
    takeWhile_padded (by simp [LeavesDigits, isDigit])
  have counted : (padded width n).take 9 = padded width n := List.take_of_length_le (by simpa)
  simp only [fraction?, digits, counted, digitsValue_padded fits, length_padded]
  rw [if_neg (by simp [shape])]
  simp

theorem fraction?_fractionChars {nanos : Nat} {rest : List Char} (fits : nanos < 1000000000) :
    fraction? (fractionChars nanos ++ 'Z' :: rest) = some (nanos, 'Z' :: rest) := by
  unfold fractionChars
  split
  next none => subst none; rfl
  split
  next whole =>
    rw [List.cons_append, fraction?_padded (by decide) (by decide) (by omega)]
    congr 2
    omega
  split
  next whole =>
    rw [List.cons_append, fraction?_padded (by decide) (by decide) (by omega)]
    congr 2
    omega
  next =>
    rw [List.cons_append, fraction?_padded (by decide) (by decide) (by omega)]
    simp

/-- Every instant is read back from its text. -/
theorem parse?_text (i : Instant) : parse? i.text = some i := by
  have first := i.afterEarliest
  have last := i.beforeLatest
  unfold earliestMinute at first
  unfold latestMinute at last
  obtain ⟨early, late⟩ := CivilDate.year_ofDays (by omega : -96465292 ≤ i.minute / 1440) (by omega)
  have actual := CivilDate.ofDays_exists (i.minute / 1440)
  have back := CivilDate.toDays_ofDays (i.minute / 1440)
  have nanos := i.withinMinute
  rw [parse?, text, String.toList_ofList, chars]
  generalize CivilDate.ofDays (i.minute / 1440) = date at early late actual back
  have held : hasLocal date.year = true := by simp [hasLocal, early, late]
  have days : date.day ≤ 31 := Nat.le_trans actual.2.2.2 (CivilDate.monthLength_le _ _)
  have months : date.month ≤ 12 := actual.2.1
  generalize clock : (i.minute % 1440).toNat = minuteOfDay
  have within : minuteOfDay < 1440 := by omega
  have minute : minuteOf date (minuteOfDay / 60) (minuteOfDay % 60) 0 = i.minute := by
    unfold minuteOf
    omega
  have total : i.nanos / 1000000000 * 1000000000 + i.nanos % 1000000000 = i.nanos := by omega
  have separated (rest : List Char) : separator? ('T' :: rest) = some rest := rfl
  have utc : offset? (skipBlanks ['Z']) = some (0, []) := rfl
  simp only [List.append_assoc, List.cons_append, List.nil_append]
  simp only [ofChars?, Option.bind_eq_bind]
  rw [year?_yearChars held, Option.bind_some, mark?_cons (by decide), Option.bind_some,
    component?_padded (by omega), Option.bind_some, mark?_cons (by decide), Option.bind_some,
    component?_padded (by omega), Option.bind_some, separated, Option.bind_some,
    component?_padded (by omega), Option.bind_some, mark?_cons (by decide), Option.bind_some,
    component?_padded (by omega), Option.bind_some, mark?_cons (by decide), Option.bind_some,
    component?_padded (by omega), Option.bind_some, fraction?_fractionChars (by omega),
    Option.bind_some, utc, Option.bind_some]
  rw [if_pos ⟨rfl, held, actual, by omega, by omega, by omega, by decide, by decide⟩, minute, total]
  exact dif_pos ⟨i.afterEarliest, i.beforeLatest, nanos⟩

end Instant

end HostAccess
