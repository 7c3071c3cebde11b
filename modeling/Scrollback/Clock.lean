import Scrollback.Word

/-!
The local time of a message, as `HH:MM`.

Timestamps are unsigned 64-bit seconds since 1970. The upper half of the range
stands for seconds before 1970, as in two's complement. A clock tells the local
time of every second that its calendar reaches, in the zone it is set to; a
timestamp beyond the calendar is shown as the time at which it is printed.
-/

namespace Scrollback

/-- A time of day, to the minute. -/
structure TimeOfDay where
  hour : Fin 24
  minute : Fin 60
  deriving DecidableEq, Repr

namespace TimeOfDay

/-- A number below one hundred with two digits. -/
def twoDigits (n : Nat) : String :=
  if n < 10 then "0" ++ toString n else toString n

/-- Hours and minutes with two digits each. -/
def text (t : TimeOfDay) : String :=
  twoDigits t.hour ++ ":" ++ twoDigits t.minute

/-- The time of day a number of seconds after midnight of some day. -/
def ofSeconds (seconds : Int) : TimeOfDay :=
  let minutes := (seconds / 60 % 1440).toNat
  ⟨Fin.ofNat 24 (minutes / 60), Fin.ofNat 60 minutes⟩

end TimeOfDay

/-- A clock at a moment. -/
structure Clock where
  /-- The local time of a second since 1970, unless the calendar does not reach it. -/
  timeAt? : Int → Option TimeOfDay
  /-- The local time of the moment. -/
  now : TimeOfDay

namespace Clock

/-- The first second that the calendar reaches, in the year -262143. -/
def firstSecond : Int := -8334601228800

/-- The last second that the calendar reaches, in the year 262142. -/
def lastSecond : Int := 8210266876799

/-- A clock at a second since 1970, in a zone that is ahead of UTC by a number of seconds, which
may change with the time of the year. -/
def inZone (ahead : Int → Int) (present : Int) : Clock where
  timeAt? second :=
    if firstSecond ≤ second ∧ second ≤ lastSecond then some (.ofSeconds (second + ahead second))
    else none
  now := .ofSeconds (present + ahead present)

/-- A clock in UTC at the beginning of 1970. -/
def utc : Clock :=
  inZone (fun _ => 0) 0

/-- Seconds since 1970 of a 64-bit timestamp, negative in the upper half. -/
def seconds (stamp : Nat) : Int :=
  (stamp : Int).bmod wordCount

/-- Hours and minutes of a timestamp, or of the moment if the calendar does not reach it. -/
def hourMinute (stamp : Nat) (clock : Clock := .utc) : String :=
  ((clock.timeAt? (seconds stamp)).getD clock.now).text

end Clock

end Scrollback
