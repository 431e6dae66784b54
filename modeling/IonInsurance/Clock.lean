import IonInsurance.Go

/-!
# Clock readings

A `time.Time` in UTC, as a civil date and a time of day.  The containers run in UTC, so the reading of `time.Now()`,
its UTC form and a timestamp read back from the database print alike.
-/

namespace IonInsurance

structure Time where
  year : Nat
  month : Nat
  day : Nat
  hour : Nat
  minute : Nat
  second : Nat
  nano : Nat
  deriving DecidableEq, Inhabited

namespace Time

/-- The zero `time.Time`. -/
def zero : Time := ⟨1, 1, 1, 0, 0, 0, 0⟩

def isLeap (y : Nat) : Bool := (y % 4 = 0 && y % 100 ≠ 0) || y % 400 = 0

/-- Days since 1970-01-01 of a civil date, counting years from the first of March. -/
def days (y m d : Nat) : Int :=
  let y' : Int := if m ≤ 2 then (y : Int) - 1 else y
  let m' : Int := if m ≤ 2 then (m : Int) + 9 else (m : Int) - 3
  365 * y' + y' / 4 - y' / 100 + y' / 400 + (153 * m' + 2) / 5 + d - 1 - 719468

/-- `t.UnixNano()`. -/
def unixNano (t : Time) : Int :=
  (((days t.year t.month t.day * 24 + t.hour) * 60 + t.minute) * 60 + t.second) * 1000000000 + t.nano

/-- `t.UnixMilli()`. -/
def unixMilli (t : Time) : Int := t.unixNano / 1000000

/-- `t.Before(u)`. -/
def Before (t u : Time) : Prop := t.unixNano < u.unixNano

instance (t u : Time) : Decidable (t.Before u) := inferInstanceAs (Decidable (t.unixNano < u.unixNano))

/-- `t.AddDate(1, 0, 0)`: the 29th of February becomes the first of March of a common year. -/
def addYear (t : Time) : Time :=
  if t.month = 2 ∧ t.day = 29 ∧ ¬isLeap (t.year + 1) then { t with year := t.year + 1, month := 3, day := 1 }
  else { t with year := t.year + 1 }

/-- The civil date `n` days after 1970-01-01, counting eras of 400 years from the first of March. -/
def civil (n : Int) : Nat × Nat × Nat :=
  let z := n + 719468
  let era := z / 146097
  let doe := z - era * 146097
  let yoe := (doe - doe / 1460 + doe / 36524 - doe / 146096) / 365
  let doy := doe - (365 * yoe + yoe / 4 - yoe / 100)
  let mp := (5 * doy + 2) / 153
  let m := if mp < 10 then mp + 3 else mp - 9
  ((yoe + era * 400 + if m ≤ 2 then 1 else 0).toNat, m.toNat, (doy - (153 * mp + 2) / 5 + 1).toNat)

/-- `t.Add(n * 24 * time.Hour)`. -/
def addDays (t : Time) (n : Int) : Time :=
  let (y, m, d) := civil (days t.year t.month t.day + n)
  { t with year := y, month := m, day := d }

/-- What a `TIMESTAMPTZ` column keeps of `t`. -/
def toMicro (t : Time) : Time := { t with nano := t.nano / 1000 * 1000 }

/-- `t.Format(time.RFC3339)`. -/
def rfc3339 (t : Time) : String :=
  pad 4 t.year ++ "-" ++ pad 2 t.month ++ "-" ++ pad 2 t.day ++ "T" ++
    pad 2 t.hour ++ ":" ++ pad 2 t.minute ++ ":" ++ pad 2 t.second ++ "Z"

@[simp] theorem rfc3339_toMicro (t : Time) : t.toMicro.rfc3339 = t.rfc3339 := rfl

private theorem days_lt_succ_year (y m d : Nat) : days y m d < days (y + 1) m d := by
  unfold days
  split <;> (push_cast; omega)

private theorem days_feb29_lt (y : Nat) : days y 2 29 < days (y + 1) 3 1 := by
  simp only [days, Nat.le_refl, if_true, show ¬ 3 ≤ 2 by decide, if_false]
  push_cast
  omega

/-- A year of cover ends after it starts. -/
theorem before_addYear (t : Time) : t.Before t.addYear := by
  unfold Before addYear
  split
  · rename_i h
    have hd := days_feb29_lt t.year
    simp only [unixNano, h.1, h.2.1]
    omega
  · have hd := days_lt_succ_year t.year t.month t.day
    simp only [unixNano]
    omega

/-- Dropping the digits below a microsecond keeps the order of a year of cover. -/
theorem toMicro_before_addYear (t : Time) : t.toMicro.Before t.addYear.toMicro := by
  have h : t.addYear.toMicro = t.toMicro.addYear := by
    unfold addYear toMicro
    simp only
    split <;> rfl
  rw [h]
  exact before_addYear _

example : (Time.mk 2028 2 29 10 0 0 0).addYear = ⟨2029, 3, 1, 10, 0, 0, 0⟩ := by decide

example : (Time.mk 2028 2 28 10 0 0 0).addDays 2 = ⟨2028, 3, 1, 10, 0, 0, 0⟩ := by decide

end Time

end IonInsurance
