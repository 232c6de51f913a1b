import AndroidMessenger.Client.DateTimeFormat
import AndroidMessenger.Msg.Instance

namespace AndroidMessenger.Chat

open Library Msg Client

/-! The times that the server prints, read by the client. -/

/-- The text is one of the pattern, and the time that is parsed is less than a
millisecond away. -/
def ReadsBack {codecs : Codecs} (platform : Platform codecs) (time : TimePoint)
    (sender : String) : Prop :=
  ∃ (stamp : Timestamp) (instant : DateTime),
    ((Instance.baseJson codecs time sender).find? Instance.propertyDatetime).map Ptree.data =
        some stamp.text ∧
      platform.parseDateTime stamp.text = some instant ∧
        (instant * 1000000 - time).natAbs < 1000000

def HasFourDigitYear (time : TimePoint) : Prop :=
  1000 ≤ (ChronoIo.civilOfDays (ChronoIo.secondsOf time / 86400)).year ∧
    (ChronoIo.civilOfDays (ChronoIo.secondsOf time / 86400)).year ≤ 9999

instance (time : TimePoint) : Decidable (HasFourDigitYear time) :=
  inferInstanceAs (Decidable (_ ∧ _))

/-- Rounding takes the seconds of the minute neither to 10 nor to 60, and they are not
below the minute. -/
def SecondsFit (exact : Int) : Prop :=
  0 ≤ exact ∧ exact < 9999999500 ∨ 10000000000 ≤ exact ∧ exact < 59999999500

instance (exact : Int) : Decidable (SecondsFit exact) :=
  inferInstanceAs (Decidable (_ ∨ _))

/-! The padded numbers. -/

theorem padded_eq_fixed {width : Nat} {value : Int} (fits : value.toNat < 10 ^ (width + 1)) :
    ChronoIo.padded (width + 1) value = Decimal.fixed (width + 1) value.toNat :=
  Decimal.replicate_append_toDigits fits

theorem zero_cons_padded {value : Nat} (small : value < 10) :
    '0' :: ChronoIo.padded 1 value = Decimal.fixed 2 value := by
  have one : ChronoIo.padded 1 value = Decimal.fixed 1 value := padded_eq_fixed small
  rw [Decimal.fixed_eq_digits (by omega), Nat.div_eq_of_lt small, one]
  rfl

theorem padded_one {value : Nat} (large : 10 ≤ value) (small : value < 100) :
    ChronoIo.padded 1 value = Decimal.fixed 2 value := by
  have digits : Nat.toDigits 10 value =
      [Nat.digitChar (value / 10), Nat.digitChar (value % 10)] := by
    rw [Nat.toDigits_of_base_le (by decide) large, Nat.toDigits_of_lt_base (by omega)]
    rfl
  rw [Decimal.fixed_eq_digits small]
  simp [ChronoIo.padded, digits]

/-! The seconds. -/

theorem exactSeconds_bounds (time : TimePoint) :
    -1000000000 < ChronoIo.exactSeconds time ∧ ChronoIo.exactSeconds time < 60000000000 := by
  have low := Int.lt_tmod_of_pos time (show (0 : Int) < 1000000000 by decide)
  have high := Int.tmod_lt_of_pos time (show (0 : Int) < 1000000000 by decide)
  rw [ChronoIo.exactSeconds]
  omega

theorem time_eq (time : Int) :
    time = (ChronoIo.secondsOf time - ChronoIo.secondsOf time % 60) * 1000000000 +
      ChronoIo.exactSeconds time := by
  have split := Int.mul_tdiv_add_tmod time 1000000000
  rw [ChronoIo.exactSeconds, ChronoIo.secondsOf]
  omega

def micros (exact : Int) : Nat :=
  (exact.toNat + 500) / 1000

theorem putSeconds_of_nonneg {exact : Int} (nonneg : 0 ≤ exact) :
    ChronoIo.putSeconds exact = (if exact < 10000000000 then ['0'] else []) ++
      ChronoIo.padded 1 (micros exact / 1000000 : Nat) ++
        '.' :: ChronoIo.padded 6 (micros exact % 1000000 : Nat) := by
  have rounded : ((exact.natAbs : Int) + 500) / 1000 = (micros exact : Nat) := by
    rw [micros]
    omega
  have positive : ¬ exact < 0 := Int.not_lt.mpr nonneg
  simp only [ChronoIo.putSeconds, rounded, if_neg positive, List.append_nil,
    Int.natCast_ediv, Int.natCast_emod]
  rfl

theorem putSeconds_of_fit {exact : Int} (fit : SecondsFit exact) :
    micros exact / 1000000 < 60 ∧
      ChronoIo.putSeconds exact = Decimal.fixed 2 (micros exact / 1000000) ++
        '.' :: Decimal.fixed 6 (micros exact % 1000000) := by
  have fraction : ChronoIo.padded 6 (micros exact % 1000000 : Nat) =
      Decimal.fixed 6 (micros exact % 1000000) :=
    padded_eq_fixed (Nat.mod_lt _ (by decide))
  rcases fit with ⟨nonneg, below⟩ | ⟨above, below⟩
  · have small : micros exact / 1000000 < 10 := by
      rw [micros]
      omega
    refine ⟨by omega, ?_⟩
    rw [putSeconds_of_nonneg nonneg, if_pos (by omega), fraction, List.singleton_append,
      zero_cons_padded small]
  · have large : 10 ≤ micros exact / 1000000 := by
      rw [micros]
      omega
    have small : micros exact / 1000000 < 60 := by
      rw [micros]
      omega
    refine ⟨small, ?_⟩
    rw [putSeconds_of_nonneg (by omega), if_neg (by omega), fraction, List.nil_append,
      padded_one large (by omega)]

/-- A negative number has its sign after the zero, and a rounded one is 10 behind the
zero, or 60. -/
theorem putSeconds_of_not_fit {exact : Int} (high : exact < 60000000000)
    (unfit : ¬ SecondsFit exact) :
    ∃ rest, ChronoIo.putSeconds exact = '0' :: '-' :: rest ∨
      ChronoIo.putSeconds exact = '0' :: '1' :: '0' :: rest ∨
        ChronoIo.putSeconds exact = '6' :: '0' :: rest := by
  rw [SecondsFit] at unfit
  by_cases negative : exact < 0
  · have low : exact < 10000000000 := by omega
    simp only [ChronoIo.putSeconds, if_pos negative, if_pos low]
    exact ⟨_, Or.inl rfl⟩
  · by_cases low : exact < 10000000000
    · have carried : micros exact = 10000000 := by
        rw [micros]
        omega
      rw [putSeconds_of_nonneg (by omega), if_pos low, carried]
      exact ⟨_, Or.inr (Or.inl rfl)⟩
    · have carried : micros exact = 60000000 := by
        rw [micros]
        omega
      rw [putSeconds_of_nonneg (by omega), if_neg low, carried]
      exact ⟨_, Or.inr (Or.inr rfl)⟩

theorem secondsFit_of_putSeconds {exact : Int} (high : exact < 60000000000) {second : Nat}
    (below : second < 60) {rest other : List Char}
    (same : ChronoIo.putSeconds exact ++ rest = Decimal.fixed 2 second ++ '.' :: other) :
    SecondsFit exact := by
  by_contra unfit
  obtain ⟨tail, starts⟩ := putSeconds_of_not_fit high unfit
  rw [Decimal.fixed_eq_digits (by omega)] at same
  rcases starts with starts | starts | starts
  · rw [starts] at same
    obtain ⟨_, behind⟩ := List.cons.inj same
    exact Nat.digitChar_ne '-' (by decide) (List.cons.inj behind).1.symm
  · rw [starts] at same
    obtain ⟨_, behind⟩ := List.cons.inj same
    obtain ⟨_, third⟩ := List.cons.inj behind
    exact absurd (List.cons.inj third).1 (by decide)
  · rw [starts] at same
    have tens := Nat.digitChar_eq_six.mp (List.cons.inj same).1.symm
    omega

def stampOf (time : TimePoint) (year : HasFourDigitYear time)
    (fit : SecondsFit (ChronoIo.exactSeconds time)) : Timestamp where
  date := ChronoIo.civilOfDays (ChronoIo.secondsOf time / 86400)
  inCalendar := ChronoIo.civilOfDays_inCalendar _
  year_ge := year.1
  year_le := year.2
  hour := (ChronoIo.secondsOf time % 86400 / 3600).toNat
  hour_lt := by omega
  minute := (ChronoIo.secondsOf time % 86400 / 60 % 60).toNat
  minute_lt := by omega
  second := micros (ChronoIo.exactSeconds time) / 1000000
  second_lt := (putSeconds_of_fit fit).1
  micros := micros (ChronoIo.exactSeconds time) % 1000000
  micros_lt := Nat.mod_lt _ (by decide)

theorem putMinute_eq {time : TimePoint} (year : HasFourDigitYear time) :
    ChronoIo.putMinute (ChronoIo.secondsOf time) =
      let date := ChronoIo.civilOfDays (ChronoIo.secondsOf time / 86400)
      Decimal.fixed 4 date.year.toNat ++ '-' :: Decimal.fixed 2 date.month.toNat ++ '-' ::
        Decimal.fixed 2 date.day.toNat ++ ' ' ::
        Decimal.fixed 2 (ChronoIo.secondsOf time % 86400 / 3600).toNat ++ ':' ::
        Decimal.fixed 2 (ChronoIo.secondsOf time % 86400 / 60 % 60).toNat ++ [':'] := by
  have inCalendar := ChronoIo.civilOfDays_inCalendar (ChronoIo.secondsOf time / 86400)
  have yearLe := year.2
  have monthLe := inCalendar.month_le
  have dayLe := inCalendar.day_le_31
  rw [ChronoIo.putMinute]
  simp only
  rw [padded_eq_fixed (by omega), padded_eq_fixed (by omega), padded_eq_fixed (by omega),
    padded_eq_fixed (by omega), padded_eq_fixed (by omega)]

theorem put_stampOf (time : TimePoint) (year : HasFourDigitYear time)
    (fit : SecondsFit (ChronoIo.exactSeconds time)) :
    ChronoIo.put time = (stampOf time year fit).text := by
  rw [ChronoIo.put, putMinute_eq year, (putSeconds_of_fit fit).2, Timestamp.text,
    Timestamp.minuteText]
  simp [stampOf]

theorem minutes_eq (seconds : Int) :
    seconds / 86400 * 86400 + (seconds % 86400 / 3600).toNat * 3600 +
      (seconds % 86400 / 60 % 60).toNat * 60 = seconds - seconds % 60 := by
  omega

theorem instant_eq (time : TimePoint) (year : HasFourDigitYear time)
    (fit : SecondsFit (ChronoIo.exactSeconds time)) :
    (stampOf time year fit).instant =
      ((ChronoIo.secondsOf time - ChronoIo.secondsOf time % 60) * 1000 +
        (micros (ChronoIo.exactSeconds time) / 1000 : Nat) : Int) := by
  have minutes := minutes_eq (ChronoIo.secondsOf time)
  simp only [Timestamp.instant, Timestamp.seconds, stampOf, ChronoIo.daysOfCivil_civilOfDays,
    minutes]
  change @Eq Int _ _
  omega

/-- Rounding moves the time by half a microsecond at most, and the cut by less than a
millisecond. -/
theorem instant_near {minute exact time : Int} (nonneg : 0 ≤ exact)
    (split : time = minute * 1000000000 + exact) :
    ((minute * 1000 + (micros exact / 1000 : Nat)) * 1000000 - time).natAbs < 1000000 := by
  rw [micros, split]
  omega

theorem find?_baseJson (codecs : Codecs) (time : TimePoint) (sender : String) :
    ((Instance.baseJson codecs time sender).find? Instance.propertyDatetime).map Ptree.data =
      some (codecs.putTime time) := by
  rw [Instance.baseJson, Ptree.find?_put_of_ne _ _ (by decide)]
  exact Ptree.find?_put_self ..

theorem secondsFit_of_readsBack {codecs : Codecs} (puts : codecs.putTime = ChronoIo.put)
    {platform : Platform codecs} {time : TimePoint} (year : HasFourDigitYear time)
    {sender : String} (readsBack : ReadsBack platform time sender) :
    SecondsFit (ChronoIo.exactSeconds time) := by
  obtain ⟨stamp, instant, text, _, _⟩ := readsBack
  rw [find?_baseJson, puts] at text
  have same := congrArg String.toList (Option.some.inj text)
  rw [ChronoIo.put, Timestamp.text, String.toList_ofList, String.toList_ofList,
    List.append_assoc, List.append_assoc, List.append_assoc] at same
  have lengths : (ChronoIo.putMinute (ChronoIo.secondsOf time)).length =
      stamp.minuteText.length := by
    rw [putMinute_eq year, Timestamp.minuteText]
    simp
  exact secondsFit_of_putSeconds (exactSeconds_bounds time).2 stamp.second_lt
    (List.append_inj same lengths).2

/-- The client reads the time of the server back unless the seconds are rounded up to 10
or to 60, or are printed with a sign. -/
theorem readsBack_iff {codecs : Codecs} (puts : codecs.putTime = ChronoIo.put)
    {platform : Platform codecs} (reads : platform.ReadsPattern) {time : TimePoint}
    (year : HasFourDigitYear time) (sender : String) :
    ReadsBack platform time sender ↔ SecondsFit (ChronoIo.exactSeconds time) := by
  constructor
  · exact secondsFit_of_readsBack puts year
  · intro fit
    have nonneg : 0 ≤ ChronoIo.exactSeconds time := by
      rcases fit with fit | fit
      · exact fit.1
      · omega
    refine ⟨stampOf time year fit, (stampOf time year fit).instant, ?_, reads _, ?_⟩
    · rw [find?_baseJson, puts, put_stampOf time year fit]
    · rw [instant_eq]
      exact instant_near nonneg (time_eq time)

theorem readsBack_evening :
    ReadsBack Platform.compact 1480287903250000000 "@server" ↔
      SecondsFit (ChronoIo.exactSeconds 1480287903250000000) :=
  @readsBack_iff Codecs.compact rfl Platform.compact Platform.readsPattern_compact
    1480287903250000000 (by decide +kernel) "@server"

theorem not_readsBack_compact {time : TimePoint} (year : HasFourDigitYear time)
    (unfit : ¬ SecondsFit (ChronoIo.exactSeconds time)) (sender : String) :
    ¬ ReadsBack Platform.compact time sender := fun readsBack =>
  unfit (@secondsFit_of_readsBack Codecs.compact rfl _ _ year _ readsBack)

/-- Just less than half a microsecond before the tenth second, half a microsecond before the
minute, and three tenths of a second before the epoch. -/
theorem times_not_read_back :
    (ChronoIo.put 9999999501 = "1970-01-01 00:00:010.000000 +0000" ∧
      ¬ ReadsBack Platform.compact 9999999501 "@server") ∧
    (ChronoIo.put 59999999500 = "1970-01-01 00:00:60.000000 +0000" ∧
      ¬ ReadsBack Platform.compact 59999999500 "@server") ∧
    ChronoIo.put (-300000000) = "1970-01-01 00:00:0-0.300000 +0000" ∧
      ¬ ReadsBack Platform.compact (-300000000) "@server" := by
  refine ⟨⟨by decide +kernel, not_readsBack_compact ?_ ?_ _⟩,
    ⟨by decide +kernel, not_readsBack_compact ?_ ?_ _⟩,
    by decide +kernel, not_readsBack_compact ?_ ?_ _⟩ <;> decide +kernel

end AndroidMessenger.Chat
