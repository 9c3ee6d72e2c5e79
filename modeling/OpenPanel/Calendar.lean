import Mathlib.Data.List.Lex
import Mathlib.Data.List.TakeWhile
import Mathlib.Tactic.Ring

/-! Instants as nanoseconds since 1970, the proleptic Gregorian calendar, and RFC
3339 text in UTC with the shortest fraction of three, six or nine digits. Texts of the
years 0 to 9999 read back and sort as the instants; other years are refused. -/
namespace Calendar

def leap (year : Int) : Bool := year % 4 == 0 && (year % 100 != 0 || year % 400 == 0)

def monthStart (leap : Bool) (month : Nat) : Nat :=
  [0,0,31,59,90,120,151,181,212,243,273,304,334,365].getD month 0 + if leap ∧ 2 < month then 1 else 0

def yearStart (year : Int) : Int :=
  365 * (year - 1) + (year - 1) / 4 - (year - 1) / 100 + (year - 1) / 400 - 719162

structure Date where
  year : Int
  month : Nat
  day : Nat

structure Date.Valid (date : Date) : Prop where
  months : 1 ≤ date.month ∧ date.month ≤ 12
  first : 1 ≤ date.day
  last : monthStart (leap date.year) date.month + date.day ≤ monthStart (leap date.year) (date.month + 1)

instance (date : Date) : Decidable date.Valid :=
  decidable_of_iff ((1 ≤ date.month ∧ date.month ≤ 12) ∧ 1 ≤ date.day ∧
      monthStart (leap date.year) date.month + date.day ≤ monthStart (leap date.year) (date.month + 1))
    ⟨fun ⟨months,first,last⟩ => ⟨months,first,last⟩,fun ⟨months,first,last⟩ => ⟨months,first,last⟩⟩

def dayNumber (date : Date) : Int :=
  yearStart date.year + monthStart (leap date.year) date.month + date.day - 1

-- Cycles of 400, 100, 4 and 1 years; the last century and the last year of a cycle are a day longer.
def yearOf (day : Int) : Int :=
  let n := day + 719162
  let century := min (n % 146097 / 36524) 3
  let rest := n % 146097 - 36524 * century
  400 * (n / 146097) + 100 * century + 4 * (rest / 1461) + min (rest % 1461 / 365) 3 + 1

def monthOf (leap : Bool) (place : Nat) : Nat :=
  ((List.range 12).find? (fun i => place < monthStart leap (i + 2))).getD 11 + 1

def placeOf (day : Int) : Nat := (day - yearStart (yearOf day)).toNat

def civil (day : Int) : Date :=
  let year := yearOf day
  let month := monthOf (leap year) (placeOf day)
  ⟨year,month,placeOf day - monthStart (leap year) month + 1⟩

theorem leapIff (year) : leap year = true ↔ year % 4 = 0 ∧ (year % 100 ≠ 0 ∨ year % 400 = 0) := by
  simp [leap]

theorem yearLength (year) : yearStart (year + 1) = yearStart year + 365 + (leap year).toNat := by
  have extra : ((leap year).toNat : Int) = if year % 4 = 0 ∧ (year % 100 ≠ 0 ∨ year % 400 = 0) then 1 else 0 := by
    simp only [← leapIff]
    cases leap year <;> rfl
  rw [extra]
  simp only [yearStart]
  split <;> omega

theorem yearStartCycles (cycle) (centuries : 0 ≤ century ∧ century ≤ 3)
    (fours : 0 ≤ four ∧ four ≤ 24) (ones : 0 ≤ one ∧ one ≤ 3) : yearStart (400 * cycle + 100 * century + 4 * four + one + 1) =
      146097 * cycle + 36524 * century + 1461 * four + 365 * one - 719162 := by
  simp only [yearStart]
  omega

theorem yearOfBounds (day) : yearStart (yearOf day) ≤ day ∧ day < yearStart (yearOf day + 1) := by
  have length := yearLength (yearOf day)
  have extra := leapIff (yearOf day)
  simp only [yearOf] at length extra ⊢
  generalize hn : day + 719162 = n at *
  generalize hc : min (n % 146097 / 36524) 3 = century at *
  generalize hr : n % 146097 - 36524 * century = rest at *
  generalize ho : min (rest % 1461 / 365) 3 = one at *
  have start : yearStart (400 * (n / 146097) + 100 * century + 4 * (rest / 1461) + one + 1) = _ :=
    yearStartCycles (n / 146097) (by omega) (by omega) (by omega)
  generalize leap _ = long at *
  rw [length,start]
  -- a day 366 of the year is only met in the last year of a cycle that is a day longer
  cases long with
  | true =>
    simp only [Bool.toNat_true]
    omega
  | false =>
    simp only [Bool.toNat_false,Bool.false_eq_true,false_iff] at extra ⊢
    have four : rest / 1461 = 24 ∨ rest / 1461 < 24 := by omega
    have last : century = 3 ∨ century < 3 := by omega
    rcases four with four | four <;> rcases last with last | last <;> omega

theorem yearStartLe (le : a ≤ b) : yearStart a ≤ yearStart b := by
  simp only [yearStart]
  omega

theorem monthOfBounds (leap) (inside : place < 365 + leap.toNat) :
    (1 ≤ monthOf leap place ∧ monthOf leap place ≤ 12) ∧ monthStart leap (monthOf leap place) ≤ place ∧
      place < monthStart leap (monthOf leap place + 1) := by
  have whole : monthStart leap 13 = 365 + leap.toNat := by cases leap <;> rfl
  have january : monthStart leap 1 = 0 := by cases leap <;> rfl
  simp only [monthOf]
  cases found : (List.range 12).find? (fun i => place < monthStart leap (i + 2)) with
  | none =>
    have past : ¬ decide (place < monthStart leap 13) = true := List.find?_eq_none.mp found 11 (by decide)
    simp only [decide_eq_true_eq] at past
    omega
  | some i =>
    obtain ⟨before,bound,first⟩ := List.find?_range_eq_some.mp found
    simp only [decide_eq_true_eq,List.mem_range,Bool.not_eq_true',decide_eq_false_iff_not] at before bound first
    refine ⟨by simp only [Option.getD_some]; omega,?_,before⟩
    cases i with
    | zero => simp only [Option.getD_some,Nat.zero_add,january,Nat.zero_le]
    | succ i => exact Nat.le_of_not_lt (first i (Nat.lt_succ_self i))

theorem monthStartLe (leap) (le : a ≤ b) (last : b ≤ 13) : monthStart leap a ≤ monthStart leap b := by
  have step : ∀ month < 13, monthStart leap month ≤ monthStart leap (month + 1) := by cases leap <;> decide
  induction b, le using Nat.le_induction with
  | base => exact le_rfl
  | succ b _ ih => exact (ih (by omega)).trans (step b (by omega))

theorem placeBounds (day) : yearStart (yearOf day) + placeOf day = day ∧ placeOf day < 365 + (leap (yearOf day)).toNat := by
  have bounds := yearOfBounds day
  rw [yearLength] at bounds
  simp only [placeOf]
  omega

theorem civilValid (day) : (civil day).Valid := by
  have place := monthOfBounds (leap (yearOf day)) (placeBounds day).2
  refine ⟨place.1,?_,?_⟩ <;> simp only [civil] <;> omega

theorem monthLength : ∀ leap : Bool, ∀ month ≤ 12, monthStart leap (month + 1) ≤ monthStart leap month + 31 := by
  decide

theorem Date.Valid.short {date : Date} (valid : date.Valid) : date.month < 10 ^ 2 ∧ date.day < 10 ^ 2 := by
  have months := valid.months
  have last := valid.last
  have length := monthLength (leap date.year) date.month months.2
  omega

theorem dayNumberCivil (day) : dayNumber (civil day) = day := by
  have place := monthOfBounds (leap (yearOf day)) (placeBounds day).2
  have whole := (placeBounds day).1
  simp only [dayNumber,civil]
  omega

theorem yearOfLe (less : a < b) : yearOf a ≤ yearOf b := by
  by_contra later
  have start := yearStartLe (show yearOf b + 1 ≤ yearOf a by omega)
  have before := (yearOfBounds b).2
  have after := (yearOfBounds a).1
  omega

theorem civilLess (less : a < b) : (civil a).year < (civil b).year ∨ (civil a).year = (civil b).year ∧
      ((civil a).month < (civil b).month ∨ (civil a).month = (civil b).month ∧ (civil a).day < (civil b).day) := by
  obtain earlier | same := lt_or_eq_of_le (yearOfLe less)
  · exact .inl earlier
  · refine .inr ⟨same,?_⟩
    have first := civilValid a
    have second := civilValid b
    have places := (dayNumberCivil a).trans_lt (less.trans_eq (dayNumberCivil b).symm)
    have sameYear : (civil a).year = (civil b).year := same
    simp only [dayNumber,sameYear] at places
    obtain later | month := lt_or_ge (civil a).month (civil b).month
    · exact .inl later
    · obtain back | equal := lt_or_eq_of_le month
      · have starts := monthStartLe (leap (civil b).year) (Nat.add_one_le_iff.mpr back) (first.months.2.trans (by decide))
        have last := second.last
        have day := first.first
        omega
      · refine .inr ⟨equal.symm,?_⟩
        rw [equal] at places
        omega

def digit (n : Nat) : Char := Char.ofNat (48 + n)

def digits : Nat → Nat → List Char
  | 0,_ => []
  | width + 1,n => digit (n / 10 ^ width % 10)::digits width n

def digitValue (c : Char) : Option Nat := if 48 ≤ c.toNat ∧ c.toNat ≤ 57 then some (c.toNat - 48) else none

def readDigits : Nat → Nat → List Char → Option (Nat × List Char)
  | 0,value,rest => some (value,rest)
  | _ + 1,_,[] => none
  | width + 1,value,c::rest => match digitValue c with
    | none => none
    | some n => readDigits width (value * 10 + n) rest

theorem digitValueDigit (small : n < 10) : digitValue (digit n) = some n :=
  (by decide : ∀ k < 10, digitValue (digit k) = some k) n small

theorem digitLess (less : a < b) (small : b < 10) : digit a < digit b :=
  (by decide : ∀ k < 10, ∀ j < k, digit j < digit k) b small a less

theorem readDigitsFrom (width n value) (rest) :
    readDigits width value (digits width n ++ rest) = some (value * 10 ^ width + n % 10 ^ width,rest) := by
  induction width generalizing value with
  | zero => simp [digits,readDigits,Nat.mod_one]
  | succ width ih =>
    simp only [digits,List.cons_append,readDigits,digitValueDigit (Nat.mod_lt _ (by decide : 0 < 10)),ih]
    have split : n % 10 ^ (width + 1) = n % 10 ^ width + 10 ^ width * (n / 10 ^ width % 10) := by
      rw [Nat.pow_succ,Nat.mod_mul]
    rw [split,Nat.pow_succ]
    congr 2
    ring

@[simp] theorem readDigitsText (fits : n < 10 ^ width) (rest) : readDigits width 0 (digits width n ++ rest) = some (n,rest) := by
  rw [readDigitsFrom,Nat.zero_mul,Nat.zero_add,Nat.mod_eq_of_lt fits]

@[simp] theorem digitsLength (width n) : (digits width n).length = width := by
  induction width with
  | zero => rfl
  | succ width ih => simp [digits,ih]

theorem digitsAre (mem : c ∈ digits width n) : ∃ k < 10, c = digit k := by
  induction width with
  | zero => simp [digits] at mem
  | succ width ih =>
    simp only [digits,List.mem_cons] at mem
    rcases mem with same | mem
    · exact ⟨_,Nat.mod_lt _ (by decide),same⟩
    · exact ih mem

theorem digitsLess (less : a < b) (fits : b < 10 ^ width) (x y) : digits width a ++ x < digits width b ++ y := by
  suffices step : ∀ width, a % 10 ^ width < b % 10 ^ width → digits width a ++ x < digits width b ++ y by
    refine step width ?_
    rwa [Nat.mod_eq_of_lt fits,Nat.mod_eq_of_lt (less.trans fits)]
  intro width less
  induction width with
  | zero => simp [Nat.mod_one] at less
  | succ width ih =>
    rw [Nat.pow_succ,Nat.mod_mul,Nat.mod_mul] at less
    simp only [digits,List.cons_append,List.cons_lt_cons_iff]
    obtain head | head | head := Nat.lt_trichotomy (a / 10 ^ width % 10) (b / 10 ^ width % 10)
    · exact .inl (digitLess head (Nat.mod_lt _ (by decide)))
    · refine .inr ⟨by rw [head],ih ?_⟩
      rw [head] at less
      omega
    · -- a smaller leading digit leaves no room below
      have room : a % 10 ^ width < 10 ^ width := Nat.mod_lt _ (Nat.pow_pos (by decide))
      have step := Nat.mul_le_mul_left (10 ^ width) head
      have below : b % 10 ^ width < 10 ^ width := Nat.mod_lt _ (Nat.pow_pos (by decide))
      rw [Nat.succ_eq_add_one,Nat.mul_add] at step
      omega

theorem digitsAppend (width more n) : digits (width + more) n = digits width (n / 10 ^ more) ++ digits more n := by
  induction width with
  | zero => simp [digits]
  | succ width ih =>
    rw [show width + 1 + more = width + more + 1 by omega,digits,ih,digits,Nat.div_div_eq_div_mul,← Nat.pow_add,
      Nat.add_comm more width,List.cons_append]

theorem digitsLonger (less : a / 10 ^ more < b) (fits : b < 10 ^ width) (x y) : digits (width + more) a ++ x < digits width b ++ y := by
  rw [digitsAppend,List.append_assoc]
  exact digitsLess less fits _ _

theorem digitsShorter (le : a ≤ b / 10 ^ more) (further : 0 < more) (fits : b < 10 ^ (width + more)) (x y) :
    digits width a ++ '+'::x < digits (width + more) b ++ y := by
  rw [digitsAppend,List.append_assoc]
  obtain less | same := lt_or_eq_of_le le
  · exact digitsLess less (Nat.div_lt_of_lt_mul (by rwa [← Nat.pow_add,Nat.add_comm])) _ _
  · rw [same]
    refine List.Lex.append_left (· < ·) ?_ _
    obtain ⟨rest,rfl⟩ := Nat.exists_eq_add_one.mpr further
    exact .rel ((by decide : ∀ k < 10, '+' < digit k) _ (Nat.mod_lt _ (by decide)))

def second : Int := 1000000000
def day : Int := 86400 * second

def yearText (year : Int) : List Char :=
  if 0 ≤ year ∧ year ≤ 9999 then digits 4 year.toNat
  else
    let shown := Nat.toDigits 10 year.natAbs
    (if year < 0 then '-' else '+')::(List.replicate (4 - shown.length) '0' ++ shown)

def fractionText (nano : Nat) : List Char :=
  if nano = 0 then []
  else if nano % 1000000 = 0 then '.'::digits 3 (nano / 1000000)
  else if nano % 1000 = 0 then '.'::digits 6 (nano / 1000)
  else '.'::digits 9 nano

def secondOf (t : Int) : Nat := (t % day / second).toNat
def nanoOf (t : Int) : Nat := (t % second).toNat

def utc : List Char := ['+','0','0',':','0','0']

def text (t : Int) : List Char :=
  let date := civil (t / day)
  let clock := secondOf t
  yearText date.year ++ '-'::(digits 2 date.month ++ '-'::(digits 2 date.day ++ 'T'::(digits 2 (clock / 3600) ++
    ':'::(digits 2 (clock / 60 % 60) ++ ':'::(digits 2 (clock % 60) ++ (fractionText (nanoOf t) ++ utc))))))

def skip (allowed : List Char) : List Char → Option (List Char)
  | [] => none
  | c::rest => if c ∈ allowed then some rest else none

def readFraction (chars : List Char) : Option (Nat × List Char) :=
  match skip ['.'] chars with
  | none => some (0,chars)
  | some rest =>
    let shown := (rest.takeWhile (fun c => (digitValue c).isSome)).take 9
    match readDigits shown.length 0 shown with
    | none => none
    | some (value,_) =>
      if shown = [] then none
      else some (value * 10 ^ (9 - shown.length),rest.dropWhile (fun c => (digitValue c).isSome))

-- `Z`, or a sign (also U+2212) with hours and minutes; seconds east of UTC.
def readOffset (chars : List Char) : Option (Int × List Char) :=
  match skip ['Z','z'] chars with
  | some rest => some (0,rest)
  | none => do
    let unsigned ← skip ['+','-',Char.ofNat 0x2212] chars
    let (hours,rest) ← readDigits 2 0 unsigned
    let rest ← skip [':'] rest
    let (minutes,rest) ← readDigits 2 0 rest
    if hours < 24 ∧ minutes < 60 then
      let east : Int := hours * 3600 + minutes * 60
      some (if chars.head? = some '+' then east else -east,rest)
    else none

def readDate (chars : List Char) : Option (Date × List Char) := do
  let (year,rest) ← readDigits 4 0 chars
  let rest ← skip ['-'] rest
  let (month,rest) ← readDigits 2 0 rest
  let rest ← skip ['-'] rest
  let (dayOfMonth,rest) ← readDigits 2 0 rest
  if Date.Valid ⟨year,month,dayOfMonth⟩ then some (⟨year,month,dayOfMonth⟩,rest) else none

-- Seconds of the day; second 60 is read as the first of the next minute.
def readClock (chars : List Char) : Option (Nat × List Char) := do
  let (hours,rest) ← readDigits 2 0 chars
  let rest ← skip [':'] rest
  let (minutes,rest) ← readDigits 2 0 rest
  let rest ← skip [':'] rest
  let (seconds,rest) ← readDigits 2 0 rest
  if hours < 24 ∧ minutes < 60 ∧ seconds ≤ 60 then some (hours * 3600 + minutes * 60 + seconds,rest) else none

def read (chars : List Char) : Option Int := do
  let (date,rest) ← readDate chars
  let rest ← skip ['T','t',' '] rest
  let (clock,rest) ← readClock rest
  let (nano,rest) ← readFraction rest
  let (east,rest) ← readOffset rest
  if rest = [] then some (dayNumber date * day + (clock - east) * second + nano) else none

def Plain (t : Int) : Prop := 0 ≤ (civil (t / day)).year ∧ (civil (t / day)).year ≤ 9999

instance (t : Int) : Decidable (Plain t) := inferInstanceAs (Decidable (_ ∧ _))

example : String.ofList (text 1700000000123000000) = "2023-11-14T22:13:20.123+00:00" := by decide +kernel
example : String.ofList (text (-1)) = "1969-12-31T23:59:59.999999999+00:00" := by decide +kernel
example : String.ofList (text (253402300800 * second)) = "+10000-01-01T00:00:00+00:00" := by decide +kernel

theorem digitsRead (mem : c ∈ digits width n) : (digitValue c).isSome := by
  obtain ⟨k,small,rfl⟩ := digitsAre mem
  rw [digitValueDigit small]
  rfl

theorem readFractionDigits (nonzero : 0 < width) (most : width ≤ 9) (fits : n < 10 ^ width)
    (ended : ∀ c ∈ rest.head?, digitValue c = none) :
    readFraction ('.'::(digits width n ++ rest)) = some (n * 10 ^ (9 - width),rest) := by
  have taken : (digits width n ++ rest).takeWhile (fun c => (digitValue c).isSome) = digits width n := by
    rw [List.takeWhile_append_of_pos (fun c mem => digitsRead mem)]
    cases rest with
    | nil => simp
    | cons c rest => simp [ended c rfl]
  have dropped : (digits width n ++ rest).dropWhile (fun c => (digitValue c).isSome) = rest := by
    rw [List.dropWhile_append_of_pos (fun c mem => digitsRead mem)]
    cases rest with
    | nil => simp
    | cons c rest => simp [ended c rfl]
  have all : (digits width n).take 9 = digits width n := List.take_of_length_le (by simpa using most)
  have nonempty : digits width n ≠ [] := List.ne_nil_of_length_pos (by simpa using nonzero)
  have value : readDigits width 0 (digits width n) = some (n,[]) := by simpa using readDigitsText fits []
  simp only [readFraction,skip,List.mem_singleton,if_pos,taken,dropped,all,digitsLength,value,if_neg nonempty]

theorem readFractionText (small : nano < 10 ^ 9) (ended : ∀ c ∈ rest.head?, digitValue c = none ∧ c ≠ '.') :
    readFraction (fractionText nano ++ rest) = some (nano,rest) := by
  have stops : ∀ c ∈ rest.head?, digitValue c = none := fun c head => (ended c head).1
  simp only [fractionText]
  split_ifs with zero milli micro
  · subst zero
    cases rest with
    | nil => simp [readFraction,skip]
    | cons c rest => simp [readFraction,skip,(ended c rfl).2]
  · rw [List.cons_append,readFractionDigits (by decide) (by decide) (by omega) stops]
    congr 2
    omega
  · rw [List.cons_append,readFractionDigits (by decide) (by decide) (by omega) stops]
    congr 2
    omega
  · rw [List.cons_append,readFractionDigits (by decide) (by decide) small stops]
    simp

theorem secondBound (t) : secondOf t < 86400 := by
  simp only [secondOf,day,second]
  omega

theorem nanoBound (t) : nanoOf t < 10 ^ 9 := by
  simp only [nanoOf,second]
  omega

theorem instantWhole (t) : t = t / day * day + secondOf t * second + nanoOf t := by
  simp only [secondOf,nanoOf,day,second]
  omega

theorem skipFirst (c) (allowed rest) : skip (c::allowed) (c::rest) = some rest := by
  simp [skip]

theorem plainYear (plain : Plain t) : yearText (civil (t / day)).year = digits 4 (civil (t / day)).year.toNat := by
  rw [yearText,if_pos]
  exact plain

theorem readDateText (valid : date.Valid) (plain : 0 ≤ date.year ∧ date.year ≤ 9999) (rest) :
    readDate (digits 4 date.year.toNat ++ '-'::(digits 2 date.month ++ '-'::(digits 2 date.day ++ rest))) = some (date,rest) := by
  have year : (date.year.toNat : Int) = date.year := Int.toNat_of_nonneg plain.1
  simp only [readDate,Option.bind_eq_bind,Option.bind_some,skipFirst,
    readDigitsText (show date.year.toNat < 10 ^ 4 by omega),readDigitsText valid.short.1,readDigitsText valid.short.2,
    year,if_pos valid]

theorem readClockText (small : clock < 86400) (rest) :
    readClock (digits 2 (clock / 3600) ++ ':'::(digits 2 (clock / 60 % 60) ++ ':'::(digits 2 (clock % 60) ++ rest))) =
      some (clock,rest) := by
  have parts : clock / 3600 * 3600 + clock / 60 % 60 * 60 + clock % 60 = clock := by omega
  have valid : clock / 3600 < 24 ∧ clock / 60 % 60 < 60 ∧ clock % 60 ≤ 60 := by omega
  simp only [readClock,Option.bind_eq_bind,Option.bind_some,skipFirst,
    readDigitsText (show clock / 3600 < 10 ^ 2 by omega),readDigitsText (show clock / 60 % 60 < 10 ^ 2 by omega),
    readDigitsText (show clock % 60 < 10 ^ 2 by omega),if_pos valid,parts]

theorem readText (plain : Plain t) : read (text t) = some t := by
  have offset : readOffset utc = some (0,[]) := by decide
  have ended : ∀ c ∈ utc.head?, digitValue c = none ∧ c ≠ '.' := by
    intro c head
    have sign : '+' = c := Option.some.inj head
    subst sign
    decide
  rw [text,plainYear plain,read,readDateText (civilValid (t / day)) plain]
  simp only [Option.bind_eq_bind,Option.bind_some,skipFirst]
  rw [readClockText (secondBound t)]
  simp only [Option.bind_some,readFractionText (nanoBound t) ended]
  rw [offset]
  simp only [Option.bind_some,if_true]
  rw [dayNumberCivil,Int.sub_zero,← instantWhole]

theorem readSigned (signed : ¬ Plain t) : read (text t) = none := by
  have sign : digitValue (if (civil (t / day)).year < 0 then '-' else '+') = none := by split <;> decide
  rw [Plain] at signed
  simp only [text,yearText,if_neg signed]
  simp only [read,readDate,List.cons_append,readDigits,sign,Option.bind_eq_bind,Option.bind_none]

theorem readTextIff (t) : read (text t) = if Plain t then some t else none := by
  split
  case isTrue plain => exact readText plain
  case isFalse signed => exact readSigned signed

theorem fractionShape (pos : nano ≠ 0) :
    ∃ dropped ≤ 9, fractionText nano = '.'::digits (9 - dropped) (nano / 10 ^ dropped) ∧ 10 ^ dropped ∣ nano := by
  simp only [fractionText,if_neg pos]
  split_ifs with milli micro
  · exact ⟨6,by decide,rfl,Nat.dvd_of_mod_eq_zero milli⟩
  · exact ⟨3,by decide,rfl,Nat.dvd_of_mod_eq_zero micro⟩
  · exact ⟨0,by decide,by simp,by simp⟩

theorem dropTwice (n dropped more) : n / 10 ^ dropped / 10 ^ more = n / 10 ^ (dropped + more) := by
  rw [Nat.div_div_eq_div_mul,← Nat.pow_add]

theorem fractionLess (less : a < b) (small : b < 10 ^ 9) (x) : fractionText a ++ '+'::x < fractionText b ++ '+'::x := by
  obtain ⟨right,short,shape,exact⟩ := fractionShape (show b ≠ 0 by omega)
  have fits : b / 10 ^ right < 10 ^ (9 - right) :=
    Nat.div_lt_of_lt_mul (by rwa [← Nat.pow_add,Nat.add_sub_cancel' short])
  rw [shape]
  by_cases zero : a = 0
  · subst zero
    exact List.cons_lt_cons_iff.mpr (.inl (by decide))
  obtain ⟨left,_,shapeLeft,_⟩ := fractionShape zero
  rw [shapeLeft]
  refine List.cons_lt_cons_iff.mpr (.inr ⟨rfl,?_⟩)
  have divided : a / 10 ^ right < b / 10 ^ right := Nat.div_lt_div_of_lt_of_dvd exact less
  obtain le | later := le_or_gt left right
  · have widths : 9 - left = 9 - right + (right - left) := by omega
    rw [widths]
    refine digitsLonger ?_ fits _ _
    rwa [dropTwice,Nat.add_sub_cancel' le]
  · have widths : 9 - right = 9 - left + (left - right) := by omega
    rw [widths] at fits ⊢
    refine digitsShorter ?_ (by omega) fits _ _
    rw [dropTwice,Nat.add_sub_cancel' later.le]
    exact Nat.div_le_div_right less.le

theorem instantLess (less : a < b) :
    a / day < b / day ∨ a / day = b / day ∧ (secondOf a < secondOf b ∨ secondOf a = secondOf b ∧ nanoOf a < nanoOf b) := by
  simp only [secondOf,nanoOf,day,second]
  omega

theorem textLess (first : Plain a) (second : Plain b) (less : a < b) : text a < text b := by
  have separated (c : Char) {x y : List Char} (later : x < y) : c::x < c::y := List.cons_lt_cons_iff.mpr (.inr ⟨rfl,later⟩)
  have shared (field : List Char) {x y : List Char} (later : x < y) : field ++ x < field ++ y :=
    List.Lex.append_left (· < ·) later field
  have clock := secondBound b
  simp only [text,plainYear first,plainYear second]
  obtain days | ⟨sameDay,times⟩ := instantLess less
  · have valid := civilValid (b / day)
    have high := second.2
    obtain years | ⟨sameYear,months | ⟨sameMonth,days⟩⟩ := civilLess days
    · have low := first.1
      exact digitsLess (by omega) (by omega) _ _
    · rw [sameYear]
      exact shared _ (separated _ (digitsLess months valid.short.1 _ _))
    · rw [sameYear,sameMonth]
      exact shared _ (separated _ (shared _ (separated _ (digitsLess days valid.short.2 _ _))))
  · rw [sameDay]
    refine shared _ (separated _ (shared _ (separated _ (shared _ (separated _ ?_)))))
    obtain hours | ⟨sameHour,minutes | ⟨sameMinute,seconds | ⟨sameSecond,nanos⟩⟩⟩ :
        secondOf a / 3600 < secondOf b / 3600 ∨ secondOf a / 3600 = secondOf b / 3600 ∧
          (secondOf a / 60 % 60 < secondOf b / 60 % 60 ∨ secondOf a / 60 % 60 = secondOf b / 60 % 60 ∧
            (secondOf a % 60 < secondOf b % 60 ∨ secondOf a % 60 = secondOf b % 60 ∧ nanoOf a < nanoOf b)) := by
      omega
    · exact digitsLess hours (by omega) _ _
    · rw [sameHour]
      exact shared _ (separated _ (digitsLess minutes (by omega) _ _))
    · rw [sameHour,sameMinute]
      exact shared _ (separated _ (shared _ (separated _ (digitsLess seconds (by omega) _ _))))
    · rw [sameHour,sameMinute,sameSecond]
      exact shared _ (separated _ (shared _ (separated _ (shared _ (fractionLess nanos (nanoBound b) _)))))

theorem textLessIff (first : Plain a) (second : Plain b) : text a < text b ↔ a < b := by
  refine ⟨fun less => ?_,textLess first second⟩
  obtain before | rfl | after := lt_trichotomy a b
  · exact before
  · exact absurd less (List.lt_irrefl _)
  · exact absurd less (List.lt_asymm (textLess second first after))

end Calendar
