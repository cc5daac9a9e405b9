import HomeConfig.Library.Calendar
import HomeConfig.Python.Value

/-! `datetime`: points in time without a zone, spans of time, and their texts. -/
namespace Python

def microsecondsPerMinute : ℤ := 60000000

def microsecondsPerDay : ℤ := 1440 * microsecondsPerMinute

/-- The end of the year 9999. -/
def endOfTime : ℤ := 3652059 * microsecondsPerDay

/-- A `datetime`, in microseconds since the start of year 1. -/
@[ext] structure DateTime where
  microseconds : ℤ
  lower : 0 ≤ microseconds
  upper : microseconds < endOfTime
deriving DecidableEq

/-- The fields that a text gives. -/
structure Fields where
  year : ℕ
  month : ℕ
  day : ℕ
  hour : ℕ
  minute : ℕ
deriving DecidableEq, Repr

namespace Fields

/-- The minutes since the start of year 1. -/
def minutes (f : Fields) : ℤ :=
  ((Calendar.ordinal f.year f.month f.day : ℤ) - 1) * 1440 + f.hour * 60 + f.minute

structure Valid (f : Fields) : Prop where
  date : Calendar.Valid f.year f.month f.day
  hour_lt : f.hour < 24
  minute_lt : f.minute < 60

instance (f : Fields) : Decidable f.Valid :=
  decidable_of_iff (Calendar.Valid f.year f.month f.day ∧ f.hour < 24 ∧ f.minute < 60)
    ⟨fun ⟨a, b, c⟩ => ⟨a, b, c⟩, fun ⟨a, b, c⟩ => ⟨a, b, c⟩⟩

variable {f : Fields}

theorem Valid.bounds (h : f.Valid) : 0 ≤ f.minutes ∧ f.minutes < 3652059 * 1440 := by
  have hpos := Calendar.ordinal_pos h.date
  have hle := Calendar.ordinal_le h.date
  have hhour := h.hour_lt
  have hminute := h.minute_lt
  unfold minutes
  omega

end Fields

/-- `datetime(year, month, day, hour, minute)`. -/
def DateTime.ofFields (f : Fields) : Result DateTime :=
  if h : f.Valid then
    .ok ⟨f.minutes * microsecondsPerMinute, by
        have hbounds := h.bounds
        unfold microsecondsPerMinute
        omega, by
        have hbounds := h.bounds
        unfold endOfTime microsecondsPerDay microsecondsPerMinute
        omega⟩
  else .error .valueError

/-! ### Spans -/

/-- A `timedelta` of so many microseconds. -/
def timedelta (microseconds : ℤ) : Result ℤ :=
  if |microseconds / microsecondsPerDay| ≤ 999999999 then .ok microseconds
  else .error .overflowError

/-- `timedelta(minutes=value)`: the fraction of a float is scaled as a float, and rounded. -/
def timedeltaMinutes : Json → Result ℤ
  | .int n => timedelta (n * microsecondsPerMinute)
  | .bool b => timedelta (if b then microsecondsPerMinute else 0)
  | .float (.finite q) => timedelta (wholePart q * microsecondsPerMinute +
      Binary.roundEven (Binary.roundTo 53 (-1074) ((q - wholePart q) * microsecondsPerMinute)))
  | .float (.infinite _) => .error .overflowError
  | .float .nan => .error .valueError
  | _ => .error .typeError

/-- `t + span`. -/
def DateTime.add (t : DateTime) (span : ℤ) : Result DateTime :=
  if h : 0 ≤ t.microseconds + span ∧ t.microseconds + span < endOfTime then
    .ok ⟨t.microseconds + span, h.1, h.2⟩
  else .error .overflowError

/-! ### Reading a text

Each directive of a format is a regular expression. A matcher gives its matches in the
order in which the expression prefers them, each with the rest of the text. -/

abbrev Matcher (α : Type) := Str → List (α × Str)

namespace Matcher

/-- One character with a digit's value. -/
def one (value : Char → Option ℕ) : Matcher ℕ
  | [] => []
  | c :: rest => ((value c).map fun n => (n, rest)).toList

def andThen {α β : Type} (m : Matcher α) (next : α → Matcher β) : Matcher β :=
  fun s => (m s).flatMap fun r => next r.1 r.2

def done {α : Type} (a : α) : Matcher α := fun s => [(a, s)]

def orElse (m n : Matcher ℕ) : Matcher ℕ := fun s => m s ++ n s

/-- Two digits. -/
def two (tens ones : Char → Option ℕ) : Matcher ℕ :=
  andThen (one tens) fun m => andThen (one ones) fun n => done (10 * m + n)

/-- The digits of a range such as `[0-5]`. -/
def among (low high : Char) (c : Char) : Option ℕ :=
  if low ≤ c ∧ c ≤ high then some (c.toNat - '0'.toNat) else none

/-- A character of the format, in either case. -/
def literal (upper lower : Char) : Matcher Unit
  | [] => []
  | c :: rest => if c = upper ∨ c = lower then [((), rest)] else []

/-- A value and the character behind it. -/
def field (m : Matcher ℕ) (upper lower : Char) : Matcher ℕ :=
  andThen m fun n => andThen (literal upper lower) fun _ => done n

variable (py : Runtime)

def year : Matcher ℕ :=
  andThen (two py.decimal py.decimal) fun m =>
    andThen (two py.decimal py.decimal) fun n => done (100 * m + n)

def month : Matcher ℕ :=
  orElse (two (among '1' '1') (among '0' '2')) <|
    orElse (two (among '0' '0') (among '1' '9')) (one (among '1' '9'))

def day : Matcher ℕ :=
  orElse (two (among '3' '3') (among '0' '1')) <|
    orElse (two (among '1' '2') py.decimal) <|
      orElse (two (among '0' '0') (among '1' '9')) <|
        orElse (one (among '1' '9')) <|
          two (fun c => if c = ' ' then some 0 else none) (among '1' '9')

def hour : Matcher ℕ :=
  orElse (two (among '2' '2') (among '0' '3')) <|
    orElse (two (among '0' '1') py.decimal) (one py.decimal)

def minute : Matcher ℕ := orElse (two (among '0' '5') py.decimal) (one py.decimal)

/-- `%Y-%m-%dT%H:%M` -/
def isoMinutes : Matcher Fields :=
  andThen (field (year py) '-' '-') fun y =>
    andThen (field month '-' '-') fun m =>
      andThen (field (day py) 'T' 't') fun d =>
        andThen (field (hour py) ':' ':') fun h =>
          andThen (minute py) fun min => done ⟨y, m, d, h, min⟩

/-- `%Y%m%d` -/
def basicDate : Matcher Fields :=
  andThen (year py) fun y => andThen month fun m => andThen (day py) fun d =>
    done ⟨y, m, d, 0, 0⟩

end Matcher

/-- `datetime.strptime`: the preferred match must use up the text. -/
def strptime (format : Matcher Fields) : Json → Result DateTime
  | .str s =>
    match (format s).head? with
    | some (f, []) => DateTime.ofFields f
    | _ => .error .valueError
  | _ => .error .typeError

/-! ### Writing a text -/

/-- Two decimal digits. -/
def twoDigits (n : ℕ) : Str := [Nat.digitChar (n / 10), Nat.digitChar (n % 10)]

def weekdays : List Str :=
  [text "Mon", text "Tue", text "Wed", text "Thu", text "Fri", text "Sat", text "Sun"]

/-- `t.strftime("%I:%M%p %a")` -/
def DateTime.strftime (t : DateTime) : Str :=
  let minutes := (t.microseconds / microsecondsPerMinute).toNat
  let hour := minutes / 60 % 24
  twoDigits ((hour + 11) % 12 + 1) ++ text ":" ++ twoDigits (minutes % 60) ++
    (if hour < 12 then text "AM" else text "PM") ++ text " " ++
    weekdays.getD (minutes / 1440 % 7) []

end Python
