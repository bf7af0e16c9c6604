/-! Instants written as dates and times: `2006-01-02T15:04:05`, an optional fraction of a second, and
`Z` or an offset from it such as `+02:00`. -/
namespace Scriptlet

/-- Nanoseconds since the start of year 0. -/
structure Instant where
  nanoseconds : Int
deriving DecidableEq, Repr

namespace Instant

def isLeap (year : Nat) : Bool :=
  year % 4 == 0 && (year % 100 != 0 || year % 400 == 0)

def daysInMonth (year month : Nat) : Nat :=
  match month with
  | 2 => if isLeap year then 29 else 28
  | 4 | 6 | 9 | 11 => 30
  | _ => 31

def daysBeforeYear (year : Nat) : Nat :=
  365 * year + (year + 3) / 4 - (year + 99) / 100 + (year + 399) / 400

def daysBeforeMonth (year month : Nat) : Nat :=
  (List.range (month - 1)).foldl (fun days before => days + daysInMonth year (before + 1)) 0

def digit? (c : Char) : Option Nat :=
  if '0' ≤ c && c ≤ '9' then some (c.toNat - '0'.toNat) else none

def fixed? : Nat → Nat → List Char → Option (Nat × List Char)
  | 0, value, text => some (value, text)
  | count + 1, value, c :: rest => do
    let figure ← digit? c
    fixed? count (value * 10 + figure) rest
  | _ + 1, _, [] => none

def sign? (expected : Char) : List Char → Option (List Char)
  | c :: rest => if c = expected then some rest else none
  | [] => none

def short? : List Char → Option (Nat × List Char)
  | c :: rest => do
    let first ← digit? c
    match rest with
    | d :: after =>
      match digit? d with
      | some second => pure (first * 10 + second, after)
      | none => pure (first, rest)
    | [] => pure (first, rest)
  | [] => none

/-- A fraction after a point or a comma, in nanoseconds; figures beyond the ninth do not count. -/
def fraction (text : List Char) : Nat × List Char :=
  match text with
  | mark :: rest =>
    let shown := rest.takeWhile fun c => (digit? c).isSome
    if (mark = '.' || mark = ',') && !shown.isEmpty then
      let nine := (shown ++ List.replicate 9 '0').take 9
      (nine.foldl (fun value c => value * 10 + (c.toNat - '0'.toNat)) 0,
        rest.dropWhile fun c => (digit? c).isSome)
    else (0, text)
  | [] => (0, text)

def offset? : List Char → Option Int
  | ['Z'] => some 0
  | sign :: rest => do
    let (hours, rest) ← fixed? 2 0 rest
    let rest ← sign? ':' rest
    let (minutes, rest) ← fixed? 2 0 rest
    let size : Int := (hours * 60 + minutes) * 60
    if !rest.isEmpty || 24 < hours || 60 < minutes then none
    else if sign = '+' then some size
    else if sign = '-' then some (-size)
    else none
  | [] => none

def parse? (text : String) : Option Instant := do
  let (year, rest) ← fixed? 4 0 text.toList
  let rest ← sign? '-' rest
  let (month, rest) ← fixed? 2 0 rest
  let rest ← sign? '-' rest
  let (day, rest) ← fixed? 2 0 rest
  let rest ← sign? 'T' rest
  let (hour, rest) ← short? rest
  let rest ← sign? ':' rest
  let (minute, rest) ← fixed? 2 0 rest
  let rest ← sign? ':' rest
  let (second, rest) ← fixed? 2 0 rest
  let (nanosecond, rest) := fraction rest
  let offset ← offset? rest
  if month < 1 || 12 < month || day < 1 || daysInMonth year month < day || 23 < hour || 59 < minute
      || 59 < second then none
  else
    let days := daysBeforeYear year + daysBeforeMonth year month + (day - 1)
    let seconds : Int := ((days * 24 + hour) * 60 + minute) * 60 + second
    pure ⟨(seconds - offset) * 1000000000 + nanosecond⟩

/-- The year that a day is in, counting days from the start of year 0. Years have 365 or 366 days, which
leaves a few to choose from. -/
def yearOfDay (day : Nat) : Nat :=
  let least := day / 366
  let years := (List.range (day / 365 + 1 - least)).map (least + ·)
  (years.filter (daysBeforeYear · ≤ day)).getLast?.getD 0

def monthOfDay (year day : Nat) : Nat :=
  ((List.range 12).filter fun before => daysBeforeMonth year (before + 1) ≤ day).length

def padded (width value : Nat) : String :=
  let shown := toString value
  "".pushn '0' (width - shown.length) ++ shown

def toText (instant : Instant) : String :=
  let nanoseconds := instant.nanoseconds.toNat
  let seconds := nanoseconds / 1000000000
  let days := seconds / 86400
  let year := yearOfDay days
  let day := days - daysBeforeYear year
  let month := monthOfDay year day
  padded 4 year ++ "-" ++ padded 2 month ++ "-" ++ padded 2 (day - daysBeforeMonth year month + 1)
    ++ "T" ++ padded 2 (seconds / 3600 % 24) ++ ":" ++ padded 2 (seconds / 60 % 60) ++ ":"
    ++ padded 2 (seconds % 60) ++ "." ++ padded 9 (nanoseconds % 1000000000) ++ "Z"

def sinceEpoch (nanoseconds : Int) : Instant :=
  ⟨(daysBeforeYear 1970 : Int) * 86400 * 1000000000 + nanoseconds⟩

def clamp (value : Int) : Int :=
  if value < Int64.minValue.toInt then Int64.minValue.toInt
  else if Int64.maxValue.toInt < value then Int64.maxValue.toInt
  else value

/-- The time from one instant to another in whole microseconds, toward zero. A time of more
nanoseconds than 64 bits hold counts as the longest. -/
def microsecondsTo (start finish : Instant) : Int :=
  (clamp (finish.nanoseconds - start.nanoseconds)).tdiv 1000

end Instant

end Scriptlet
