import AlarmScheduler.Toml.Moment
import AlarmScheduler.Toml.Quoted
import AlarmScheduler.Toml.Table

namespace AlarmScheduler.Toml

open Reader

def depthLimit : Nat := 80

def isBare (c : Char) : Bool := c.isAlphanum || c == '_' || c == '-'

def bareKey : Reader String := do
  let first ← next isBare
  let more ← span isBare
  pure (String.ofList (first :: more))

def keyPart : Reader String := do
  blanks
  let k ← Quoted.singleLine <|> bareKey
  blanks
  pure k

def key : Reader (List String × String) := do
  let parts ← separated keyPart (char '.')
  require (parts.length < depthLimit)
  match parts.getLast? with
  | some last => pure (parts.dropLast, last)
  | none => failure

def boolean : Reader Bool :=
  (do
    word ['t', 'r', 'u', 'e']
    pure true)
  <|> (do
    word ['f', 'a', 'l', 's', 'e']
    pure false)

def scalar : Reader Value :=
  Value.text <$> Quoted.read
  <|> Value.moment <$> Moment.read
  <|> Value.float <$> Number.float
  <|> Value.integer <$> Number.integer
  <|> Value.boolean <$> boolean

def array (value : Reader Value) : Reader Value := do
  char '['
  let items ← optional <| separated
    (do
      filler
      let v ← value
      filler
      pure v)
    (char ',')
  let _ ← optional do
    require items.isSome
    char ','
  filler
  char ']'
  pure (.array (items.getD []))

def assignment (value : Reader Value) : Reader Assignment := do
  let (path, k) ← key
  char '='
  blanks
  let v ← value
  pure ⟨path, k, v⟩

def braces (value : Reader Value) : Reader Value := do
  char '\x7b'
  let pairs ← optional <| separated
    (do
      let a ← assignment value
      blanks
      pure a)
    (char ',')
  blanks
  char '\x7d'
  match (TableOf.empty .braces).assignAll (pairs.getD []) with
  | some t => pure (.table t)
  | none => failure

def value : Nat → Reader Value
  | 0 => scalar
  | n + 1 => scalar <|> array (value n) <|> braces (value n)

def lineEnd : Reader Unit := do
  blanks
  let _ ← optional comment
  newline <|> atEnd

def assignmentLine : Reader Assignment := do
  let a ← assignment (value (depthLimit - 1))
  lineEnd
  filler
  pure a

def header : Reader Place := do
  let place ←
    (do
      word ['[', '[']
      let (path, k) ← key
      word [']', ']']
      pure (.row path k))
    <|> (do
      char '['
      let (path, k) ← key
      char ']'
      pure (.table path k))
  lineEnd
  filler
  pure place

def block : Reader Block := do
  let place ← header
  let body ← many assignmentLine
  pure ⟨place, body⟩

def blocks : Reader (List Block) := do
  let _ ← optional (char '\ufeff')
  filler
  let top ← many assignmentLine
  let more ← many block
  pure (⟨.top, top⟩ :: more)

def parse? (s : String) : Option Table := (whole? blocks s).bind TableOf.ofBlocks

end AlarmScheduler.Toml
