import AndroidMessenger.Client.Compact
import AndroidMessenger.Library.Decimal
import AndroidMessenger.Msg.Calendar

namespace AndroidMessenger.Client

open Library Msg

/-! The texts of the pattern `yyyy-MM-dd HH:mm:ss.SSSSSS Z`. -/

/-- A date and a time of day that exist, in universal time. -/
structure Timestamp where
  date : ChronoIo.Civil
  inCalendar : date.InCalendar
  year_ge : 1000 ≤ date.year
  year_le : date.year ≤ 9999
  hour : Nat
  hour_lt : hour < 24
  minute : Nat
  minute_lt : minute < 60
  second : Nat
  second_lt : second < 60
  micros : Nat
  micros_lt : micros < 1000000

namespace Timestamp

open Decimal

variable (stamp : Timestamp)

def minuteText : List Char :=
  fixed 4 stamp.date.year.toNat ++ '-' :: fixed 2 stamp.date.month.toNat ++ '-' ::
    fixed 2 stamp.date.day.toNat ++ ' ' :: fixed 2 stamp.hour ++ ':' ::
    fixed 2 stamp.minute ++ [':']

def text : String :=
  String.ofList (stamp.minuteText ++ fixed 2 stamp.second ++ '.' :: fixed 6 stamp.micros ++
    [' ', '+', '0', '0', '0', '0'])

def seconds : Int :=
  ChronoIo.daysOfCivil stamp.date * 86400 + stamp.hour * 3600 + stamp.minute * 60 +
    stamp.second

def time : TimePoint :=
  (stamp.seconds * 1000000000 + stamp.micros * 1000 : Int)

/-- Joda keeps milliseconds, and cuts off what comes after them. -/
def instant : DateTime :=
  (stamp.seconds * 1000 + stamp.micros / 1000 : Int)

end Timestamp

/-- `DATETIME_FORMAT.parseDateTime` on the texts of its pattern. -/
def Platform.ReadsPattern {codecs : Codecs} (platform : Platform codecs) : Prop :=
  ∀ stamp : Timestamp, platform.parseDateTime stamp.text = some stamp.instant

/-! The platform that runs reads the pattern. -/

theorem digitValue_digitChar {digit : Nat} (small : digit < 10) :
    ChronoIo.digitValue (Nat.digitChar digit) = some digit := by
  have value := Nat.toNat_digitChar_of_lt_ten small
  rw [ChronoIo.digitValue, value, if_pos (by omega), Nat.add_sub_cancel_left]

theorem digits_succ (width before : Nat) (input : List Char) :
    ChronoIo.digits (width + 1) before input =
      (ChronoIo.digits width before input).bind fun (value, rest) =>
        ChronoIo.digits 1 value rest := by
  induction width generalizing before input with
  | zero => rfl
  | succ width ih =>
      cases input with
      | nil => rfl
      | cons char rest =>
          rw [ChronoIo.digits, ChronoIo.digits]
          cases ChronoIo.digitValue char with
          | none => rfl
          | some digit => exact ih (before * 10 + digit) rest

theorem append_digit (before width value : Nat) :
    (before * 10 ^ width + value / 10 % 10 ^ width) * 10 + value % 10 =
      before * 10 ^ (width + 1) + value % 10 ^ (width + 1) := by
  have split : value % 10 ^ (width + 1) = value % 10 + 10 * (value / 10 % 10 ^ width) := by
    rw [Nat.pow_succ, Nat.mul_comm]
    exact Nat.mod_mul
  rw [split, Nat.pow_succ, ← Nat.mul_assoc]
  omega

theorem digits_fixed (width value : Nat) (rest : List Char) (before : Nat) :
    ChronoIo.digits width before (Decimal.fixed width value ++ rest) =
      some (before * 10 ^ width + value % 10 ^ width, rest) := by
  induction width generalizing value rest with
  | zero => simp [Decimal.fixed, ChronoIo.digits, Nat.mod_one]
  | succ width ih =>
      have digit : value % 10 < 10 := Nat.mod_lt _ (by decide)
      rw [digits_succ, Decimal.fixed, List.append_assoc, ih, ← append_digit]
      simp [ChronoIo.digits, digitValue_digitChar digit]

theorem natural_fixed (width value : Nat) (rest : List Char) (before length : Nat) :
    ChronoIo.natural (Decimal.fixed width value ++ rest) before length =
      ChronoIo.natural rest (before * 10 ^ width + value % 10 ^ width) (length + width) := by
  induction width generalizing value rest with
  | zero => simp [Decimal.fixed, Nat.mod_one]
  | succ width ih =>
      have digit : value % 10 < 10 := Nat.mod_lt _ (by decide)
      rw [Decimal.fixed, List.append_assoc, ih, List.singleton_append, ChronoIo.natural,
        digitValue_digitChar digit]
      simp only
      rw [append_digit, Nat.add_assoc]

theorem signed_fixed (width value : Nat) (rest : List Char) :
    ChronoIo.signed (Decimal.fixed (width + 1) value ++ rest) =
      (1, Decimal.fixed (width + 1) value ++ rest) := by
  induction width generalizing value rest with
  | zero =>
      rw [Decimal.fixed, Decimal.fixed]
      have digit : value % 10 < 10 := Nat.mod_lt _ (by decide)
      exact Msg.Compact.signed_of_isDigit (by simp [Nat.isDigit_digitChar, digit]) rest
  | succ width ih =>
      rw [Decimal.fixed, List.append_assoc]
      exact ih (value / 10) _

theorem round_exact (value : Int) {denominator : Int} (positive : 0 < denominator) :
    ChronoIo.round (value * denominator) denominator = value := by
  have cut : (value * denominator).tdiv denominator = value :=
    Int.mul_tdiv_cancel value (by omega)
  have next : (value + 1) * denominator - value * denominator = denominator := by
    rw [Int.add_mul, Int.one_mul, Int.add_comm, Int.add_sub_cancel]
  rw [ChronoIo.round, cut, next, Int.sub_self, if_neg (by omega), if_pos positive]

theorem field_fixed {width value low high : Nat} (fits : high < 10 ^ width)
    (above : low ≤ value) (below : value ≤ high) (separator : Char) (rest : List Char) :
    ChronoIo.field width low high separator (Decimal.fixed width value ++ separator :: rest) =
      some (value, rest) := by
  rw [ChronoIo.field, digits_fixed, Nat.mod_eq_of_lt (Nat.lt_of_le_of_lt below fits)]
  simp [above, below]

theorem toList_text (stamp : Timestamp) :
    stamp.text.toList =
      Decimal.fixed 4 stamp.date.year.toNat ++ '-' ::
        (Decimal.fixed 2 stamp.date.month.toNat ++ '-' ::
          (Decimal.fixed 2 stamp.date.day.toNat ++ ' ' ::
            (Decimal.fixed 2 stamp.hour ++ ':' :: (Decimal.fixed 2 stamp.minute ++ ':' ::
              (Decimal.fixed 2 stamp.second ++ '.' :: (Decimal.fixed 6 stamp.micros ++
                [' ', '+', '0', '0', '0', '0'])))))) := by
  simp [Timestamp.text, Timestamp.minuteText]

theorem seconds_fixed {second micros : Nat} (secondFits : second < 100)
    (microsFits : micros < 1000000) (rest : List Char) :
    ChronoIo.seconds (Decimal.fixed 2 second ++ '.' :: (Decimal.fixed 6 micros ++ ' ' :: rest)) =
      some (((second * 1000000 + micros : Nat) : Int), ' ' :: rest) := by
  have point : ChronoIo.digitValue '.' = none := rfl
  have blank : ChronoIo.digitValue ' ' = none := rfl
  have whole (tail : List Char) :
      ChronoIo.natural (Decimal.fixed 2 second ++ '.' :: tail) 0 0 = (second, 2, '.' :: tail) := by
    have fits : second < 10 ^ 2 := secondFits
    rw [natural_fixed, ChronoIo.natural, point, Nat.mod_eq_of_lt fits]
    simp
  have fraction : ChronoIo.natural (Decimal.fixed 6 micros ++ ' ' :: rest) 0 0 =
      (micros, 6, ' ' :: rest) := by
    have fits : micros < 10 ^ 6 := microsFits
    rw [natural_fixed, ChronoIo.natural, blank, Nat.mod_eq_of_lt fits]
    simp
  simp only [ChronoIo.seconds, signed_fixed, whole, ChronoIo.decimals, fraction, Int.one_mul]
  rw [if_neg (by decide)]
  exact congrArg (fun value => some (value, ' ' :: rest)) (round_exact _ (by decide))

theorem scan_text (stamp : Timestamp) :
    ChronoIo.scan stamp.text =
      some (stamp.time, [' ', '+', '0', '0', '0', '0']) := by
  obtain ⟨date, inCalendar, yearGe, yearLe, hour, hourLt, minute, minuteLt, second, secondLt,
    micros, microsLt⟩ := stamp
  have monthPos := inCalendar.month_pos
  have monthLe := inCalendar.month_le
  have dayPos := inCalendar.day_pos
  have dayLe := inCalendar.day_le_31
  have same : ({ year := date.year.toNat, month := date.month.toNat, day := date.day.toNat } :
      ChronoIo.Civil) = date := by
    obtain ⟨year, month, day⟩ := date
    simp only [ChronoIo.Civil.mk.injEq]
    simp only at yearGe monthPos dayPos
    omega
  have fields (separator : Char) (rest : List Char) :
      ChronoIo.field 4 0 9999 separator (Decimal.fixed 4 date.year.toNat ++ separator :: rest) =
        some (date.year.toNat, rest) :=
    field_fixed (by decide) (by omega) (by omega) separator rest
  rw [ChronoIo.scan, toList_text]
  simp only [fields,
    field_fixed (show 12 < 10 ^ 2 by decide) (show 1 ≤ date.month.toNat by omega)
      (show date.month.toNat ≤ 12 by omega),
    field_fixed (show 31 < 10 ^ 2 by decide) (show 1 ≤ date.day.toNat by omega)
      (show date.day.toNat ≤ 31 by omega),
    field_fixed (show 23 < 10 ^ 2 by decide) (show 0 ≤ hour by omega)
      (show hour ≤ 23 by omega),
    field_fixed (show 59 < 10 ^ 2 by decide) (show 0 ≤ minute by omega)
      (show minute ≤ 59 by omega),
    seconds_fixed (show second < 100 by omega) microsLt, bind, Option.bind, pure, same]
  simp only [Timestamp.time, Timestamp.seconds, Option.some.injEq, Prod.mk.injEq, and_true]
  change @Eq Int _ _
  omega

theorem getTime_text (stamp : Timestamp) :
    Codecs.compact.getTime stamp.text = .ok (some stamp.time) := by
  have zone : ChronoIo.zone [' ', '+', '0', '0', '0', '0'] = .ok (some 0) := by decide +kernel
  rw [Codecs.getTime, Codecs.scanTime_compact, scan_text]
  simp only [zone, Except.map, Option.map_some, Int.zero_mul, Int.add_zero]

theorem Platform.readsPattern_compact : Platform.compact.ReadsPattern := by
  intro stamp
  have millis : stamp.time / 1000000 = stamp.instant := by
    rw [Timestamp.time, Timestamp.instant]
    change @Eq Int _ _
    omega
  rw [Platform.parseDateTime_compact, Compact.parseDateTime, getTime_text]
  exact congrArg some millis

end AndroidMessenger.Client
