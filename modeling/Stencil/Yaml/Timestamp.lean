import Stencil.Fault

/-!
# Dates and times

A date is written `year-month-day`; a time of day may follow behind a `T` or
blanks, with a fraction of the second and a distance from universal time. The
calendar is the Gregorian one, from year 1 to 9999.

Two times with a zone are the same if they are one instant. A time without a
zone is the same as no time with one, and a date as no time.
-/

namespace Stencil.Yaml

/-- The distance of a clock from universal time. -/
inductive Zone where
  | universal
  | offset (negative : Bool) (hours minutes : Nat)
deriving DecidableEq, Repr

/-- A time of day. The fraction counts millionths of a second. -/
structure Clock where
  hour : Nat
  minute : Nat
  second : Nat
  fraction : Nat
  zone : Option Zone
deriving DecidableEq, Repr

/-- A date, with the time of day if one is given. -/
structure Timestamp where
  year : Nat
  month : Nat
  day : Nat
  clock : Option Clock
deriving DecidableEq, Repr

namespace Timestamp

/-- The number that decimal digits write. -/
def number (digits : List Char) : Nat :=
  digits.foldl (fun total c => total * 10 + (c.toNat - 48)) 0

/-- Take a number of at least `least` and at most `most` digits off a text. -/
def take? (least most : Nat) (cs : List Char) : Option (Nat × List Char) :=
  let digits := (cs.takeWhile Char.isDigit).take most
  if digits.length < least then none else some (number digits, cs.drop digits.length)

/-- Take a character off a text. -/
def expect? (c : Char) : List Char → Option (List Char)
  | first :: rest => if first = c then some rest else none
  | [] => none

/-- A blank between the parts of a timestamp. -/
def isBlank (c : Char) : Bool := c == ' ' || c == '\t'

/-- The distance from universal time that a text writes, if it writes one at all. -/
def zone? (cs : List Char) : Option (Option Zone) :=
  if cs.isEmpty then some none
  else match cs.dropWhile isBlank with
    | ['Z'] => some (some .universal)
    | sign :: rest => do
      if sign ≠ '+' ∧ sign ≠ '-' then none
      let (hours, rest) ← take? 1 2 rest
      let minutes ← match rest with
        | [] => some 0
        | rest => do
          let (minutes, rest) ← take? 2 2 (← expect? ':' rest)
          if rest.isEmpty then some minutes else none
      return some (.offset (sign = '-') hours minutes)
    | [] => none

/-- The millionths of a second that the digits behind a point write. -/
def millionths (digits : List Char) : Nat :=
  let kept := digits.take 6
  number (kept ++ List.replicate (6 - kept.length) '0')

/-- The time of day that a text writes. -/
def clock? (cs : List Char) : Option Clock := do
  let (hour, rest) ← take? 1 2 cs
  let (minute, rest) ← take? 2 2 (← expect? ':' rest)
  let (second, rest) ← take? 2 2 (← expect? ':' rest)
  let (fraction, rest) := match rest with
    | '.' :: rest => (millionths (rest.takeWhile Char.isDigit), rest.dropWhile Char.isDigit)
    | rest => (0, rest)
  return ⟨hour, minute, second, fraction, ← zone? rest⟩

/-- Drop a line feed at the end of a text. -/
def chomp (cs : List Char) : List Char :=
  if cs.getLast? = some '\n' then cs.dropLast else cs

/-- The date or time that a text writes. -/
def parse? (text : List Char) : Option Timestamp := do
  let (year, rest) ← take? 4 4 (chomp text)
  let (month, rest) ← take? 1 2 (← expect? '-' rest)
  let (day, rest) ← take? 1 2 (← expect? '-' rest)
  let clock ← match rest with
    | [] => some none
    | c :: others =>
      if c = 'T' ∨ c = 't' then (clock? others).map some
      else if isBlank c then (clock? (others.dropWhile isBlank)).map some
      else none
  return ⟨year, month, day, clock⟩

/-- Whether a plain scalar is a date or a time: a date alone needs both digits of its parts. -/
def isPlain (text : List Char) : Bool :=
  match parse? text with
  | none => false
  | some stamp => stamp.clock.isSome || (chomp text).length == 10

/-- The number of days of a month. -/
def daysIn (year month : Nat) : Nat :=
  let leap := year % 4 = 0 ∧ (year % 100 ≠ 0 ∨ year % 400 = 0)
  match month with
  | 2 => if leap then 29 else 28
  | 4 | 6 | 9 | 11 => 30
  | _ => 31

/-- The seconds of a distance from universal time. -/
def Zone.seconds : Zone → Int
  | .universal => 0
  | .offset negative hours minutes =>
    let size : Int := hours * 3600 + minutes * 60
    if negative then -size else size

/-- A duration as messages show it: whole days, and the seconds from there on. -/
def durationText (seconds : Int) : String :=
  let days := seconds.fdiv 86400
  let rest := seconds.fmod 86400
  let parts := (if days = 0 then [] else ["days=" ++ toString days])
    ++ (if rest = 0 then [] else ["seconds=" ++ toString rest])
  "datetime.timedelta(" ++ (if parts = [] then "0" else ", ".intercalate parts) ++ ")"

/-- A distance from universal time as messages show it. -/
def zoneText (zone : Zone) : String :=
  if Zone.seconds zone = 0 then "datetime.timezone.utc"
  else "datetime.timezone(" ++ durationText (Zone.seconds zone) ++ ")"

/-- What is wrong with a timestamp. A distance of a day or more is met first, then the parts from
the year on. -/
def fault? (stamp : Timestamp) : Option String :=
  let zone := (stamp.clock.bind Clock.zone).bind fun zone =>
    if Zone.seconds zone ≤ -86400 ∨ 86400 ≤ Zone.seconds zone then
      some ("offset must be a timedelta strictly between -timedelta(hours=24) and "
        ++ "timedelta(hours=24), not " ++ durationText (Zone.seconds zone) ++ ".")
    else none
  let date :=
    if stamp.year = 0 then some "year 0 is out of range"
    else if stamp.month = 0 ∨ 12 < stamp.month then some "month must be in 1..12"
    else if stamp.day = 0 ∨ daysIn stamp.year stamp.month < stamp.day then
      some "day is out of range for month"
    else none
  let time := stamp.clock.bind fun clock =>
    if 24 ≤ clock.hour then some "hour must be in 0..23"
    else if 60 ≤ clock.minute then some "minute must be in 0..59"
    else if 60 ≤ clock.second then some "second must be in 0..59"
    else none
  zone <|> date <|> time

/-- The parts of a time of day that are shown: seconds and fraction only if something is there. -/
def clockParts (clock : Clock) : List Nat :=
  [clock.hour, clock.minute] ++
    (if clock.fraction ≠ 0 then [clock.second, clock.fraction]
      else if clock.second ≠ 0 then [clock.second] else [])

/-- A timestamp as messages show it. -/
def shown (stamp : Timestamp) : String :=
  let numbers (parts : List Nat) : List String := parts.map toString
  let date := numbers [stamp.year, stamp.month, stamp.day]
  match stamp.clock with
  | none => "datetime.date(" ++ ", ".intercalate date ++ ")"
  | some clock =>
    let zone := match clock.zone with
      | none => []
      | some zone => ["tzinfo=" ++ zoneText zone]
    "datetime.datetime(" ++ ", ".intercalate (date ++ numbers (clockParts clock) ++ zone) ++ ")"

/-- A number in at least `width` decimal digits. -/
def padded (width number : Nat) : String :=
  let digits := Nat.toDigits 10 number
  String.ofList (List.replicate (width - digits.length) '0' ++ digits)

/-- A distance from universal time as a timestamp's text ends with it. -/
def zoneEnd (zone : Zone) : String :=
  let seconds := Zone.seconds zone
  let minutes := seconds.natAbs / 60
  (if seconds < 0 then "-" else "+") ++ padded 2 (minutes / 60) ++ ":" ++ padded 2 (minutes % 60)

/-- A timestamp's text: date and time with a space between them, and the fraction of the second
only if there is one. -/
def text (stamp : Timestamp) : String :=
  let date := padded 4 stamp.year ++ "-" ++ padded 2 stamp.month ++ "-" ++ padded 2 stamp.day
  match stamp.clock with
  | none => date
  | some clock =>
    let fraction := if clock.fraction = 0 then "" else "." ++ padded 6 clock.fraction
    let zone := match clock.zone with
      | none => ""
      | some zone => zoneEnd zone
    date ++ " " ++ padded 2 clock.hour ++ ":" ++ padded 2 clock.minute ++ ":"
      ++ padded 2 clock.second ++ fraction ++ zone

/-- The number of days before a date, from some day on. -/
def days (stamp : Timestamp) : Nat :=
  let past := stamp.year - 1
  let leapDays := past / 4 - past / 100 + past / 400
  let months := (List.range (stamp.month - 1)).foldl (fun total month =>
    total + daysIn stamp.year (month + 1)) 0
  past * 365 + leapDays + months + stamp.day

/-- The instant that a date and a time of day are, counted in millionths of a second. -/
def instant (stamp : Timestamp) (clock : Clock) : Int :=
  let seconds : Int := ((stamp.days * 24 + clock.hour) * 60 + clock.minute) * 60 + clock.second
  let distance := (clock.zone.map Zone.seconds).getD 0
  (seconds - distance) * 1000000 + clock.fraction

/-- Equality of timestamps. -/
def same (a b : Timestamp) : Bool :=
  match a.clock, b.clock with
  | none, none => a == b
  | some clock, some other =>
    clock.zone.isSome == other.zone.isSome && a.instant clock == b.instant other
  | _, _ => false

/-- The date or time that a text writes. -/
def read (text : List Char) : Except Stencil.Fault Timestamp :=
  match parse? text with
  | none => .error (.noAttribute "NoneType" "groupdict")
  | some stamp => match stamp.fault? with
    | some wording => .error (.outOfRange wording)
    | none => .ok stamp

end Timestamp

end Stencil.Yaml
