import AlarmScheduler.Text.Reader
import AlarmScheduler.Toml.Value

namespace AlarmScheduler.Toml.Number

open Reader

def digitValue (c : Char) : Nat :=
  if c.isDigit then c.toNat - 48
  else if 'a' ≤ c then c.toNat - 87
  else c.toNat - 55

def valueOf (base : Nat) (digits : List Char) : Nat :=
  digits.foldl (fun n c => n * base + digitValue c) 0

def isHex (c : Char) : Bool := c.isDigit || 'a' ≤ c && c ≤ 'f' || 'A' ≤ c && c ≤ 'F'

def isOctal (c : Char) : Bool := '0' ≤ c && c ≤ '7'

def isBinary (c : Char) : Bool := c == '0' || c == '1'

def moreDigits (ok : Char → Bool) : Reader (List Char) :=
  many do
    let _ ← optional (char '_')
    next ok

def digits (ok : Char → Bool) : Reader (List Char) := do
  let first ← next ok
  let more ← moreDigits ok
  pure (first :: more)

def sign : Reader Bool := do
  let c ← optional (next fun c => c == '+' || c == '-')
  pure (c == some '-')

def decimalDigits : Reader (List Char) := do
  let first ← next Char.isDigit
  if first = '0' then pure ['0']
  else do
    let more ← moreDigits Char.isDigit
    pure (first :: more)

def based (mark : Char) (base : Nat) (ok : Char → Bool) : Reader Int := do
  word ['0', mark]
  let ds ← digits ok
  pure (valueOf base ds)

def decimal : Reader Int := do
  let negative ← sign
  let ds ← decimalDigits
  let n : Int := valueOf 10 ds
  pure (if negative then -n else n)

def inRange (n : Int) : Bool := -9223372036854775808 ≤ n && n ≤ 9223372036854775807

def integer : Reader Int := do
  let n ← based 'x' 16 isHex <|> based 'o' 8 isOctal <|> based 'b' 2 isBinary <|> decimal
  require (inRange n)
  pure n

def exponent : Reader Int := do
  let _ ← next fun c => c == 'e' || c == 'E'
  let negative ← sign
  let ds ← digits Char.isDigit
  let n : Int := valueOf 10 ds
  pure (if negative then -n else n)

def fraction : Reader (List Char) := do
  char '.'
  digits Char.isDigit

def scale : Reader (List Char × Int) :=
  (do
    let e ← exponent
    pure ([], e))
  <|> (do
    let ds ← fraction
    let e ← optional exponent
    pure (ds, e.getD 0))

def finite : Reader Binary64 := do
  let negative ← sign
  let whole ← decimalDigits
  let (places, e) ← scale
  let x := Binary64.ofDecimal negative (valueOf 10 (whole ++ places)) (e - places.length)
  require (x != .infinite false)
  pure x

def special : Reader Binary64 := do
  let negative ← sign
  (do
    word ['i', 'n', 'f']
    pure (.infinite negative))
  <|> (do
    word ['n', 'a', 'n']
    pure .nan)

def float : Reader Binary64 := finite <|> special

end AlarmScheduler.Toml.Number
