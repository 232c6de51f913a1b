import Mathlib.Algebra.GroupWithZero.Nat
import Mathlib.Algebra.Ring.Int.Defs
import AndroidMessenger.Msg.Codecs

namespace AndroidMessenger.Msg.ChronoIo

/-! The stream operators for time points of `chrono_io`, in the format without a
facet. -/

structure Civil where
  year : Int
  month : Int
  day : Int

/-- The proleptic Gregorian date of a day since the epoch, counting years from
the first of March. -/
def civilOfDays (days : Int) : Civil :=
  let shifted := days + 719468
  let era := shifted.fdiv 146097
  let dayOfEra := shifted - era * 146097
  let yearOfEra := (dayOfEra - dayOfEra / 1460 + dayOfEra / 36524 - dayOfEra / 146096) / 365
  let dayOfYear := dayOfEra - (365 * yearOfEra + yearOfEra / 4 - yearOfEra / 100)
  let shiftedMonth := (5 * dayOfYear + 2) / 153
  let month := if shiftedMonth < 10 then shiftedMonth + 3 else shiftedMonth - 9
  { year := yearOfEra + era * 400 + (if month ≤ 2 then 1 else 0)
    month
    day := dayOfYear - (153 * shiftedMonth + 2) / 5 + 1 }

def daysOfCivil (date : Civil) : Int :=
  let year := if date.month ≤ 2 then date.year - 1 else date.year
  let era := year.fdiv 400
  let yearOfEra := year - era * 400
  let shiftedMonth := if date.month > 2 then date.month - 3 else date.month + 9
  let dayOfYear := (153 * shiftedMonth + 2) / 5 + date.day - 1
  let dayOfEra := yearOfEra * 365 + yearOfEra / 4 - yearOfEra / 100 + dayOfYear
  era * 146097 + dayOfEra - 719468

def padded (width : Nat) (value : Int) : List Char :=
  let digits := Nat.toDigits 10 value.toNat
  List.replicate (width - digits.length) '0' ++ digits

/-- `to_time_t`, which cuts the fraction off towards the epoch. -/
def secondsOf (time : TimePoint) : Int :=
  time.tdiv 1000000000

/-- The seconds of the minute in nanoseconds: the whole ones of the calendar, and what
`to_time_t` has cut off. -/
def exactSeconds (time : TimePoint) : Int :=
  secondsOf time % 60 * 1000000000 + time.tmod 1000000000

/-- The leading zero is decided on the exact seconds, before they are rounded. -/
def putSeconds (exact : Int) : List Char :=
  let micros : Int := (exact.natAbs + 500) / 1000
  (if exact < 10000000000 then ['0'] else []) ++ (if exact < 0 then ['-'] else []) ++
    padded 1 (micros / 1000000) ++ '.' :: padded 6 (micros % 1000000)

def putMinute (seconds : Int) : List Char :=
  let date := civilOfDays (seconds / 86400)
  padded 4 date.year ++ '-' :: padded 2 date.month ++ '-' :: padded 2 date.day ++ ' ' ::
    padded 2 (seconds % 86400 / 3600) ++ ':' :: padded 2 (seconds % 86400 / 60 % 60) ++ [':']

def put (time : TimePoint) : String :=
  String.ofList (putMinute (secondsOf time) ++ putSeconds (exactSeconds time) ++
    [' ', '+', '0', '0', '0', '0'])

def digitValue (char : Char) : Option Nat :=
  if 48 ≤ char.toNat ∧ char.toNat ≤ 57 then some (char.toNat - 48) else none

/-- What `operator>>` reads behind the seconds, in minutes.  It goes on to the next
character before it asks whether there is one. -/
def zone : List Char → Except Exn (Option Int)
  | [] => .error .pastTheEnd
  | ' ' :: sign :: first :: second :: third :: fourth :: _ => .ok do
      let factor ← if sign = '+' then some (-1) else if sign = '-' then some 1 else none
      let first ← digitValue first
      let second ← digitValue second
      let third ← digitValue third
      let fourth ← digitValue fourth
      return factor * (first * 600 + second * 60 + third * 10 + fourth : Nat)
  | _ => .ok none

theorem zone_eq_error_iff {rest : List Char} {exn : Exn} :
    zone rest = .error exn ↔ rest = [] ∧ exn = .pastTheEnd := by
  unfold zone
  split
  · simp [eq_comm]
  · simp
  · rename_i more _
    refine ⟨fun thrown => (by cases thrown), fun ended => ?_⟩
    exact absurd ended.1 more

/-! The part before the zone, as far as texts go that have neither blanks before a field
nor an exponent. -/

/-- A field of `time_get`, which takes all its digits. -/
def digits : Nat → Nat → List Char → Option (Nat × List Char)
  | 0, before, rest => some (before, rest)
  | _ + 1, _, [] => none
  | width + 1, before, char :: rest =>
      (digitValue char).bind fun digit => digits width (before * 10 + digit) rest

def field (width low high : Nat) (separator : Char) (input : List Char) :
    Option (Nat × List Char) :=
  (digits width 0 input).bind fun (value, rest) =>
    if low ≤ value ∧ value ≤ high ∧ rest.head? = some separator then some (value, rest.tail)
    else none

/-- A run of digits, its value and its length. -/
def natural : List Char → Nat → Nat → Nat × Nat × List Char
  | [], value, length => (value, length, [])
  | char :: rest, value, length =>
      match digitValue char with
      | some digit => natural rest (value * 10 + digit) (length + 1)
      | none => (value, length, char :: rest)

/-- `round<microseconds>`, which cuts off towards zero before it looks for the nearer
one. -/
def round (numerator denominator : Int) : Int :=
  let t0 := numerator.tdiv denominator
  let diff0 := numerator - t0 * denominator
  let diff1 := (t0 + 1) * denominator - numerator
  if diff0 = diff1 then if t0 % 2 = 0 then t0 else t0 + 1
  else if diff0 < diff1 then t0
  else t0 + 1

def signed : List Char → Int × List Char
  | '-' :: rest => (-1, rest)
  | '+' :: rest => (1, rest)
  | rest => (1, rest)

def decimals : List Char → Nat × Nat × List Char
  | '.' :: rest => natural rest 0 0
  | rest => (0, 0, rest)

def seconds (input : List Char) : Option (Int × List Char) :=
  let (factor, rest) := signed input
  let (whole, length, rest) := natural rest 0 0
  let (fraction, width, rest) := decimals rest
  if length + width = 0 then none
  else some (round (factor * (whole * 10 ^ width + fraction : Nat) * 1000000) (10 ^ width), rest)

def scan (text : String) : Option (TimePoint × List Char) := do
  let (year, rest) ← field 4 0 9999 '-' text.toList
  let (month, rest) ← field 2 1 12 '-' rest
  let (day, rest) ← field 2 1 31 ' ' rest
  let (hour, rest) ← field 2 0 23 ':' rest
  let (minute, rest) ← field 2 0 59 ':' rest
  let (micros, rest) ← seconds rest
  let date : Civil := { year := year, month := month, day := day }
  let minutes : Int := daysOfCivil date * 1440 + hour * 60 + minute
  return (minutes * 60000000000 + micros * 1000, rest)

/-! What `put` writes never breaks off behind the seconds. -/

theorem digits_suffix {width before value : Nat} {input rest : List Char}
    (read : digits width before input = some (value, rest)) : rest <:+ input := by
  induction width generalizing before input with
  | zero =>
      obtain ⟨-, rfl⟩ : before = value ∧ input = rest := by simpa [digits] using read
      exact List.suffix_refl _
  | succ width ih =>
      cases input with
      | nil => cases read
      | cons char tail =>
          obtain ⟨digit, _, read⟩ := Option.bind_eq_some_iff.mp read
          exact (ih read).trans (List.suffix_cons char tail)

theorem field_suffix {width low high value : Nat} {separator : Char} {input rest : List Char}
    (read : field width low high separator input = some (value, rest)) :
    separator :: rest <:+ input := by
  obtain ⟨⟨value', rest'⟩, read, checked⟩ := Option.bind_eq_some_iff.mp read
  have suffix := digits_suffix read
  simp only at checked
  split at checked
  · rename_i good
    obtain ⟨-, rfl⟩ : value' = value ∧ rest'.tail = rest := by simpa using checked
    obtain ⟨tail, rfl⟩ := List.head?_eq_some_iff.mp good.2.2
    exact suffix
  · cases checked

theorem natural_consumes (input : List Char) (value length : Nat) :
    ∃ read, input = read ++ (natural input value length).2.2 ∧ ' ' ∉ read := by
  induction input generalizing value length with
  | nil => exact ⟨[], rfl, by simp⟩
  | cons char rest ih =>
      rw [natural]
      cases digit : digitValue char with
      | none => exact ⟨[], rfl, by simp⟩
      | some digit' =>
          obtain ⟨read, split, unspaced⟩ := ih (value * 10 + digit') (length + 1)
          refine ⟨char :: read, congrArg (char :: ·) split, ?_⟩
          rintro (_ | ⟨_, mem⟩)
          · cases digit
          · exact unspaced mem

theorem signed_consumes (input : List Char) :
    ∃ read, input = read ++ (signed input).2 ∧ ' ' ∉ read := by
  unfold signed
  split
  · exact ⟨['-'], rfl, by decide⟩
  · exact ⟨['+'], rfl, by decide⟩
  · exact ⟨[], rfl, by simp⟩

theorem decimals_consumes (input : List Char) :
    ∃ read, input = read ++ (decimals input).2.2 ∧ ' ' ∉ read := by
  unfold decimals
  split
  · rename_i rest
    obtain ⟨read, split, unspaced⟩ := natural_consumes rest 0 0
    refine ⟨'.' :: read, congrArg ('.' :: ·) split, ?_⟩
    simp [unspaced]
  · exact ⟨[], rfl, by simp⟩

theorem not_mem_of_seconds {input : List Char} {micros : Int}
    (read : seconds input = some (micros, [])) : ' ' ∉ input := by
  obtain ⟨sign, signSplit, signFree⟩ := signed_consumes input
  obtain ⟨whole, wholeSplit, wholeFree⟩ := natural_consumes (signed input).2 0 0
  obtain ⟨fraction, fractionSplit, fractionFree⟩ :=
    decimals_consumes (natural (signed input).2 0 0).2.2
  have ended : (decimals (natural (signed input).2 0 0).2.2).2.2 = [] := by
    simp only [seconds] at read
    split at read
    · cases read
    · exact congrArg Prod.snd (Option.some.inj read)
  rw [signSplit, wholeSplit, fractionSplit, ended]
  simp [signFree, wholeFree, fractionFree]

theorem scan_suffix {text : String} {time : TimePoint}
    (read : scan text = some (time, [])) :
    ∃ rest, ':' :: rest <:+ text.toList ∧ ' ' ∉ rest := by
  simp only [scan, bind, pure, Option.bind_eq_some_iff, Option.some.injEq, Prod.mk.injEq,
    Prod.exists] at read
  obtain ⟨_, _, year, _, _, month, _, _, day, _, _, hour, _, rest, minute, micros, _, seconds,
    _, rfl⟩ := read
  have hours := (List.suffix_cons _ _).trans (field_suffix hour)
  have days := hours.trans ((List.suffix_cons _ _).trans (field_suffix day))
  have months := days.trans ((List.suffix_cons _ _).trans (field_suffix month))
  have years := months.trans ((List.suffix_cons _ _).trans (field_suffix year))
  exact ⟨rest, (field_suffix minute).trans years, not_mem_of_seconds seconds⟩

theorem scan_put_ne (time read : TimePoint) : scan (put time) ≠ some (read, []) := by
  intro ended
  obtain ⟨rest, suffix, unspaced⟩ := scan_suffix ended
  have zone : [' ', '+', '0', '0', '0', '0'] <:+ (put time).toList :=
    ⟨_, (String.toList_ofList).symm⟩
  rcases List.suffix_or_suffix_of_suffix suffix zone with inside | inside
  · have colon := inside.subset (List.mem_cons_self ..)
    exact absurd colon (by decide)
  · have blank := inside.subset (List.mem_cons_self ..)
    rcases List.mem_cons.mp blank with same | mem
    · exact absurd same (by decide)
    · exact unspaced mem

example : put 0 = "1970-01-01 00:00:00.000000 +0000" := by decide +kernel

example : put (-300000000) = "1970-01-01 00:00:0-0.300000 +0000" := by decide +kernel

end AndroidMessenger.Msg.ChronoIo

namespace AndroidMessenger.Msg.Codecs

variable (codecs : Codecs) (text : String)

/-- `time_ss >> *time`.  A stream that fails leaves its target alone. -/
def getTime : Except Exn (Option TimePoint) :=
  match codecs.scanTime text with
  | none => .ok none
  | some (time, rest) =>
      (ChronoIo.zone rest).map fun minutes =>
        minutes.map fun minutes => time + minutes * 60000000000

/-- The text breaks off behind its seconds. -/
def EndsAtSeconds : Prop :=
  ∃ time, codecs.scanTime text = some (time, [])

/-- The time point is read past the end of the texts that break off, and of no others. -/
theorem getTime_eq_error_iff {exn : Exn} :
    codecs.getTime text = .error exn ↔ codecs.EndsAtSeconds text ∧ exn = .pastTheEnd := by
  constructor
  · intro got
    unfold getTime at got
    split at got
    · cases got
    · rename_i time rest scanned
      cases behind : ChronoIo.zone rest with
      | ok minutes => simp [behind, Except.map] at got
      | error thrown =>
          obtain ⟨rfl, rfl⟩ := ChronoIo.zone_eq_error_iff.mp behind
          obtain rfl : .pastTheEnd = exn := by simpa [behind, Except.map] using got
          exact ⟨⟨time, scanned⟩, rfl⟩
  · intro given
    rcases given with ⟨⟨time, scanned⟩, rfl⟩
    rw [getTime, scanned]
    rfl

theorem getTime_isOk_iff :
    (∃ time, codecs.getTime text = .ok time) ↔ ¬ codecs.EndsAtSeconds text := by
  have thrown := @codecs.getTime_eq_error_iff text
  cases got : codecs.getTime text with
  | ok time => simpa [got] using @thrown .pastTheEnd
  | error exn => simpa [got] using ((thrown.mp got).1)

end AndroidMessenger.Msg.Codecs
