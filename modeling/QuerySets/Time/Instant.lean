import QuerySets.Time.Calendar

/-!
Points of universal time with nanoseconds. A leap second is told apart from the
second after it: it belongs to the second before and has its nanoseconds from
one thousand million on.
-/

namespace QuerySets.Time

def secondsPerDay : Int := 86400

def nanosPerSecond : Nat := 1000000000

/-- `nanos` nanoseconds into the second that starts `seconds` after 1970. -/
structure Instant where
  seconds : Int
  nanos : Nat
deriving DecidableEq, Repr

/-- What a watch shows each time it is looked at. -/
structure Watch where
  reading : Nat → Instant

namespace Watch

/-- A watch that has stopped. -/
def stopped (instant : Instant) : Watch := ⟨fun _ => instant⟩

instance : Coe Instant Watch := ⟨stopped⟩

def now (watch : Watch) : Instant := watch.reading 0

/-- The watch after it has been looked at. -/
def later (watch : Watch) : Watch := ⟨fun n => watch.reading (n + 1)⟩

end Watch

/-- The time of day that a clock shows; a leap second shows as second sixty. -/
structure Clock where
  hour : Nat
  minute : Nat
  second : Nat
  nanos : Nat
deriving DecidableEq

/-- The clock time named by its numbers, if a clock can show it. -/
def Clock.of? (hour minute second nanos : Nat) : Option Clock :=
  if hour < 24 ∧ minute < 60 ∧ second ≤ 60 ∧ nanos < nanosPerSecond then
    some ⟨hour, minute, second, nanos⟩
  else none

namespace Instant

def order (a b : Instant) : Ordering :=
  (compare a.seconds b.seconds).then (compare a.nanos b.nanos)

/-- Whether the day of the instant is one that can be stored. -/
def InRange (instant : Instant) : Prop :=
  let days := instant.seconds / secondsPerDay
  Date.leastDays ≤ days ∧ days ≤ Date.greatestDays

instance (instant : Instant) : Decidable instant.InRange :=
  inferInstanceAs (Decidable (_ ∧ _))

/-- The instant at which a clock of universal time shows this day and time. -/
def ofClock (day : Date) (clock : Clock) : Instant :=
  let leap := clock.second = 60
  let second := if leap then 59 else clock.second
  let inDay := 3600 * clock.hour + 60 * clock.minute + second
  { seconds := day.toDays * secondsPerDay + inDay
    nanos := if leap then nanosPerSecond + clock.nanos else clock.nanos }

def date (instant : Instant) : Date := Date.ofDays (instant.seconds / secondsPerDay)

def clock (instant : Instant) : Clock :=
  let inDay := (instant.seconds % secondsPerDay).toNat
  let leap := nanosPerSecond ≤ instant.nanos
  { hour := inDay / 3600
    minute := inDay / 60 % 60
    second := inDay % 60 + (if leap then 1 else 0)
    nanos := if leap then instant.nanos - nanosPerSecond else instant.nanos }

/-- The instant that lies `millis` milliseconds after 1970, if it can be stored. -/
def ofMillis? (millis : Int) : Option Instant :=
  let instant : Instant := ⟨millis / 1000, (millis % 1000).toNat * 1000000⟩
  if instant.InRange then some instant else none

/-- The instant `nanos` nanoseconds later. Inside a leap second the count goes on
until the second is left; from there on it counts as the second before it when
going forward, and as the second after it when going back. -/
def add (instant : Instant) (nanos : Int) : Instant :=
  let seconds := nanos.tdiv nanosPerSecond
  let part := nanos.tmod nanosPerSecond
  let settle (base : Int) (fraction : Int) : Instant :=
    let total := fraction + part
    ⟨base + seconds + total / nanosPerSecond, (total % nanosPerSecond).toNat⟩
  let fraction : Int := instant.nanos
  if nanosPerSecond ≤ instant.nanos then
    if 0 < seconds ∨ (0 < part ∧ 2 * nanosPerSecond - part ≤ fraction) then
      settle instant.seconds (fraction - nanosPerSecond)
    else if seconds < 0 then settle (instant.seconds + 1) (fraction - nanosPerSecond)
    else ⟨instant.seconds, (fraction + part).toNat⟩
  else settle instant.seconds fraction

def add? (instant : Instant) (nanos : Int) : Option Instant :=
  let later := instant.add nanos
  if later.InRange then some later else none

end Instant

end QuerySets.Time
