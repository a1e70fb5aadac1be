/-! Days of the calendar and times of a day: which of them there are, which of them are the same
moment, and how messages show them. -/
namespace Clearance

structure Day where
  year : Nat
  month : Nat
  day : Nat
deriving DecidableEq, Repr

structure Clock where
  hour : Nat
  minute : Nat
  second : Nat
  microsecond : Nat
deriving DecidableEq, Repr

/-- A whole day, or a time on a day. A time may be given with the minutes by which clocks are ahead
of those on the meridian. -/
inductive Moment
  | day (d : Day)
  | time (d : Day) (c : Clock) (ahead : Option Int)
deriving DecidableEq, Repr

namespace Day

def isLeap (year : Nat) : Bool := year % 4 = 0 && (year % 100 != 0 || year % 400 = 0)

def monthLength (year month : Nat) : Nat :=
  if month = 2 then (if isLeap year then 29 else 28)
  else if month ∈ [4, 6, 9, 11] then 30
  else 31

/-- The days of a year before a month. -/
def daysBefore (year : Nat) : Nat → Nat
  | 0 => 0
  | 1 => 0
  | month + 2 => daysBefore year (month + 1) + monthLength year (month + 1)

/-- Days are counted from the last one of the year zero. -/
def number (d : Day) : Nat :=
  let years := d.year - 1
  365 * years + years / 4 - years / 100 + years / 400 + daysBefore d.year d.month + d.day

example : (⟨2024, 2, 29⟩ : Day).number + 1 = (⟨2024, 3, 1⟩ : Day).number := by decide
example : (⟨2023, 12, 31⟩ : Day).number + 1 = (⟨2024, 1, 1⟩ : Day).number := by decide

end Day

namespace Moment

/-- Why there is no such moment. -/
inductive Fault
  | year (n : Nat)
  | month
  | day
  | hour
  | minute
  | second
  | ahead (minutes : Int)
deriving DecidableEq, Repr

/-- A span of time in days and seconds, of which only the days can be negative. -/
def spanText (minutes : Int) : String :=
  let days := minutes / 1440
  let seconds := minutes % 1440 * 60
  let parts := (if days = 0 then [] else ["days=" ++ toString days]) ++
    (if seconds = 0 then [] else ["seconds=" ++ toString seconds])
  "datetime.timedelta(" ++ (if parts = [] then "0" else ", ".intercalate parts) ++ ")"

def Fault.message : Fault → String
  | year n => "year " ++ toString n ++ " is out of range"
  | month => "month must be in 1..12"
  | day => "day is out of range for month"
  | hour => "hour must be in 0..23"
  | minute => "minute must be in 0..59"
  | second => "second must be in 0..59"
  | ahead minutes =>
    "offset must be a timedelta strictly between -timedelta(hours=24) and timedelta(hours=24)" ++
      ", not " ++ spanText minutes ++ "."

def dayFault? (d : Day) : Option Fault :=
  if d.year = 0 then some (.year d.year)
  else if d.month = 0 || 12 < d.month then some .month
  else if d.day = 0 || Day.monthLength d.year d.month < d.day then some .day
  else none

def clockFault? (c : Clock) : Option Fault :=
  if 23 < c.hour then some .hour
  else if 59 < c.minute then some .minute
  else if 59 < c.second then some .second
  else none

def aheadFault? : Option Int → Option Fault
  | some minutes => if -1440 < minutes && minutes < 1440 then none else some (.ahead minutes)
  | none => none

/-- What is wrong with a moment, if there is none such. -/
def fault? : Moment → Option Fault
  | day d => dayFault? d
  | time d c ahead => aheadFault? ahead <|> dayFault? d <|> clockFault? c

/-- The microsecond at which a moment is on the meridian, for a time with its clocks. -/
def instant? : Moment → Option Int
  | time d c (some ahead) =>
    some (((((d.number * 24 + c.hour : Int) * 60 + c.minute - ahead) * 60 + c.second) * 1000000) +
      c.microsecond)
  | _ => none

/-- Times with different clocks are the same at the same instant. A day is no time. -/
def same (m n : Moment) : Bool :=
  match m.instant?, n.instant? with
  | some i, some j => i == j
  | none, none => m == n
  | _, _ => false

def kindName : Moment → String
  | day _ => "date"
  | time _ _ _ => "datetime"

/-- Of a clock the seconds are left out with the microseconds if they are zero. -/
def clockFields (c : Clock) : List Nat :=
  [c.hour, c.minute] ++
    (if c.microsecond = 0 then (if c.second = 0 then [] else [c.second])
      else [c.second, c.microsecond])

def zoneText (minutes : Int) : String :=
  if minutes = 0 then "datetime.timezone.utc"
  else "datetime.timezone(" ++ spanText minutes ++ ")"

def text (m : Moment) : String :=
  let fields (d : Day) : List String := [d.year, d.month, d.day].map toString
  let all := match m with
    | day d => fields d
    | time d c ahead => fields d ++ (clockFields c).map toString ++
        ahead.toList.map fun minutes => "tzinfo=" ++ zoneText minutes
  "datetime." ++ m.kindName ++ "(" ++ ", ".intercalate all ++ ")"

example : (time ⟨2024, 1, 1⟩ ⟨2, 6, 0, 5⟩ (some (-90))).text =
    "datetime.datetime(2024, 1, 1, 2, 6, 0, 5, " ++
      "tzinfo=datetime.timezone(datetime.timedelta(days=-1, seconds=81000)))" := by decide

end Moment

end Clearance
