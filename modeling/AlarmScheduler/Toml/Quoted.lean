import AlarmScheduler.Text.Reader
import AlarmScheduler.Toml.Number

namespace AlarmScheduler.Toml

open Reader

def isBlank (c : Char) : Bool := c == ' ' || c == '\t'

def isPlain (c : Char) : Bool := c == '\t' || ' ' ≤ c && c != '\x7f'

def blank : Reader Unit := do
  let _ ← next isBlank
  pure ()

def blanks : Reader Unit := do
  let _ ← span isBlank
  pure ()

def newline : Reader Unit := char '\n' <|> word ['\r', '\n']

def comment : Reader Unit := do
  char '#'
  let _ ← span isPlain
  pure ()

def filler : Reader Unit := do
  let _ ← many (blank <|> newline <|> comment)
  pure ()

end AlarmScheduler.Toml

namespace AlarmScheduler.Toml.Quoted

open Reader

def simpleEscape? : Char → Option Char
  | 'b' => some '\x08'
  | 'f' => some '\x0c'
  | 'n' => some '\n'
  | 'r' => some '\r'
  | 't' => some '\t'
  | '\\' => some '\\'
  | '"' => some '"'
  | _ => none

def ofCode? (n : Nat) : Option Char := if n.isValidChar then some (Char.ofNat n) else none

def codeEscape (mark : Char) (width : Nat) : Reader Char := do
  char mark
  let ds ← exactly (next Number.isHex) width
  match ofCode? (Number.valueOf 16 ds) with
  | some c => pure c
  | none => failure

def escape : Reader Char := do
  char '\\'
  (do
    let c ← next fun c => (simpleEscape? c).isSome
    pure ((simpleEscape? c).getD c))
  <|> codeEscape 'u' 4 <|> codeEscape 'U' 8

def basicChar : Reader Char := next (fun c => isPlain c && c != '"' && c != '\\') <|> escape

def literalChar : Reader Char := next fun c => isPlain c && c != '\''

def line (quote : Char) (unit : Reader Char) : Reader String := do
  char quote
  let cs ← many unit
  char quote
  pure (String.ofList cs)

def lineBreak : Reader (List Char) := do
  newline
  pure ['\n']

def continuation : Reader (List Char) := do
  char '\\'
  blanks
  newline
  let _ ← many (newline <|> blank)
  pure []

def fewQuotes (quote : Char) : Reader (List Char) := do
  let qs ← span (· == quote)
  require (1 ≤ qs.length && qs.length ≤ 2)
  pure qs

/-- Three of three to five quotes close the string, and the others belong to it. -/
def closing (quote : Char) : Reader (List Char) := do
  let qs ← span (· == quote)
  require (3 ≤ qs.length && qs.length ≤ 5)
  pure (qs.drop 3)

def lines (quote : Char) (unit : Reader (List Char)) : Reader String := do
  word [quote, quote, quote]
  let _ ← optional newline
  let parts ← many (unit <|> lineBreak <|> fewQuotes quote)
  let last ← closing quote
  pure (String.ofList (parts.flatten ++ last))

def single (unit : Reader Char) : Reader (List Char) := do
  let c ← unit
  pure [c]

def singleLine : Reader String := line '"' basicChar <|> line '\'' literalChar

def read : Reader String :=
  lines '"' (single basicChar <|> continuation) <|> lines '\'' (single literalChar) <|> singleLine

end AlarmScheduler.Toml.Quoted
