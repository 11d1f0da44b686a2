namespace AlarmScheduler

abbrev Reader (α : Type) := StateT (List Char) Option α

namespace Reader

variable {α : Type}

def next (ok : Char → Bool) : Reader Char
  | [] => none
  | c :: cs => if ok c then some (c, cs) else none

def char (c : Char) : Reader Unit := do
  let _ ← next (· == c)
  pure ()

def word : List Char → Reader Unit
  | [] => pure ()
  | c :: cs => do
    char c
    word cs

def span (ok : Char → Bool) : Reader (List Char) := fun cs => some (cs.span ok)

def atEnd : Reader Unit
  | [] => some ((), [])
  | _ :: _ => none

def repeated (p : Reader α) : Nat → List Char → List α × List Char
  | 0, cs => ([], cs)
  | n + 1, cs =>
    match p cs with
    | none => ([], cs)
    | some (a, rest) =>
      let more := repeated p n rest
      (a :: more.1, more.2)

def many (p : Reader α) : Reader (List α) := fun cs => some (repeated p cs.length cs)

def separated (p : Reader α) (separator : Reader Unit) : Reader (List α) := do
  let first ← p
  let more ← many do
    separator
    p
  pure (first :: more)

def exactly (p : Reader α) : Nat → Reader (List α)
  | 0 => pure []
  | n + 1 => do
    let first ← p
    let more ← exactly p n
    pure (first :: more)

def require (b : Bool) : Reader Unit := if b then pure () else failure

def whole? (p : Reader α) (s : String) : Option α :=
  match p s.toList with
  | some (a, []) => some a
  | _ => none

end Reader

end AlarmScheduler
