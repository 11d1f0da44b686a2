import AlarmScheduler.Toml.Number

namespace AlarmScheduler.Toml.Moment

open Reader

def number (width : Nat) : Reader Nat := do
  let ds ← exactly (next Char.isDigit) width
  pure (Number.valueOf 10 ds)

def atMost (n : Nat) : Reader Nat := do
  let k ← number 2
  require (k ≤ n)
  pure k

def isLeap (year : Nat) : Bool := year % 4 == 0 && (year % 100 != 0 || year % 400 == 0)

def daysIn (year month : Nat) : Nat :=
  if month = 2 then if isLeap year then 29 else 28
  else if month ∈ [4, 6, 9, 11] then 30
  else 31

def readDate : Reader Date := do
  let year ← number 4
  char '-'
  let month ← number 2
  require (1 ≤ month && month ≤ 12)
  char '-'
  let day ← number 2
  require (1 ≤ day && day ≤ daysIn year month)
  pure ⟨year, month, day⟩

def readFraction : Reader (List Char) := do
  char '.'
  let first ← next Char.isDigit
  let more ← span Char.isDigit
  pure (first :: more)

def readTime : Reader Time := do
  let hour ← atMost 23
  char ':'
  let minute ← atMost 59
  char ':'
  let second ← atMost 60
  let fraction ← optional readFraction
  pure ⟨hour, minute, second, fraction.getD []⟩

def readOffset : Reader Offset :=
  (do
    let _ ← next fun c => c == 'Z' || c == 'z'
    pure .utc)
  <|> (do
    let mark ← next fun c => c == '+' || c == '-'
    let hour ← atMost 23
    char ':'
    let minute ← atMost 59
    let n : Int := 60 * hour + minute
    pure (.minutes (if mark = '-' then -n else n)))

def readClock : Reader (Time × Option Offset) := do
  let _ ← next fun c => c == 'T' || c == 't' || c == ' '
  let t ← readTime
  let o ← optional readOffset
  pure (t, o)

def read : Reader Moment :=
  (do
    let d ← readDate
    match ← optional readClock with
    | some (t, o) => pure (.dateTime d t o)
    | none => pure (.date d))
  <|> (do
    let t ← readTime
    pure (.time t))

end AlarmScheduler.Toml.Moment
