import DocTable.Number.Digits
import DocTable.Time.Date

/-!
Reading RFC 3339 times: `YYYY-MM-DD`, one separating byte, `HH:MM:SS`, an optional fraction of the
second, and `Z` or an offset from UTC. A second 60 stands only where a leap second may be, at the
end of a month in UTC, and counts as the last nanosecond before it.
-/

namespace DocTable.Rfc3339

def digits? (count : Nat) (s : List Char) : Option (Nat × List Char) :=
  let run := s.take count
  if run.length = count && run.all Digits.isDigit then some (Digits.value run, s.drop count)
  else none

def mark? (c : Char) : List Char → Option (List Char)
  | [] => none
  | d :: rest => if d = c then some rest else none

def separator? : List Char → Option (List Char)
  | [] => none
  | c :: rest => if c.toNat < 128 then some rest else none

/-- Nanoseconds of a fraction; digits beyond the ninth are dropped. -/
def fraction? : List Char → Option (Nat × List Char)
  | '.' :: s =>
    let run := s.takeWhile Digits.isDigit
    if run.isEmpty then none
    else
      let kept := run.take 9
      some (Digits.value kept * Nat.pow 10 (9 - kept.length), s.dropWhile Digits.isDigit)
  | s => some (0, s)

/-- Minutes that the local time is ahead of UTC. -/
def offset? (s : List Char) : Option (Int × List Char) := do
  match s with
  | 'Z' :: rest | 'z' :: rest => some (0, rest)
  | sign :: rest =>
    let (hours, rest) ← digits? 2 rest
    let rest ← mark? ':' rest
    let (minutes, rest) ← digits? 2 rest
    if 23 < hours || 59 < minutes then none
    else if sign = '+' then some ((hours * 60 + minutes : Nat), rest)
    else if sign = '-' then some (-(hours * 60 + minutes : Nat), rest)
    else none
  | [] => none

def nanosPerSecond : Int := 1000000000

def secondsPerDay : Int := 86400

/-- The second before a leap second may be inserted, in seconds since the start of 1970. -/
def precedesLeapSecond (seconds : Int) : Bool :=
  seconds % secondsPerDay = secondsPerDay - 1 && (Date.ofDays (seconds / secondsPerDay)).isMonthEnd

def nanos? (s : List Char) : Option Int := do
  let (year, s) ← digits? 4 s
  let s ← mark? '-' s
  let (month, s) ← digits? 2 s
  let s ← mark? '-' s
  let (day, s) ← digits? 2 s
  let s ← separator? s
  let (hour, s) ← digits? 2 s
  let s ← mark? ':' s
  let (minute, s) ← digits? 2 s
  let s ← mark? ':' s
  let (second, s) ← digits? 2 s
  let (fraction, s) ← fraction? s
  let (offset, s) ← offset? s
  let date : Date := ⟨year, month, day⟩
  if !s.isEmpty || !date.isReal || 23 < hour || 59 < minute || 60 < second then none
  else
    let atSecond (n : Nat) : Int :=
      date.toDays * secondsPerDay + (hour * 3600 + minute * 60 + n : Nat) - offset * 60
    if second = 60 then
      if precedesLeapSecond (atSecond 59) then some (atSecond 59 * nanosPerSecond + 999999999)
      else none
    else some (atSecond second * nanosPerSecond + fraction)

/-- Milliseconds since the start of 1970; what is finer is cut off toward zero. -/
def millis? (s : List Char) : Option Int := (nanos? s).map (Int.tdiv · 1000000)

end DocTable.Rfc3339
