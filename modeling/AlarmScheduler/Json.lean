import AlarmScheduler.Text.Numeral

namespace AlarmScheduler

inductive Json where
  | int (n : Int)
  | str (s : String)
  | arr (items : List Json)
  | obj (members : List (String × Json))

end AlarmScheduler

namespace AlarmScheduler.Json

def escape (c : Char) : List Char :=
  if c = '"' then ['\\', '"']
  else if c = '\\' then ['\\', '\\']
  else if c = '\x08' then ['\\', 'b']
  else if c = '\x0c' then ['\\', 'f']
  else if c = '\n' then ['\\', 'n']
  else if c = '\r' then ['\\', 'r']
  else if c = '\t' then ['\\', 't']
  else if c.toNat < 32 then
    ['\\', 'u', '0', '0', Nat.digitChar (c.toNat / 16), Nat.digitChar (c.toNat % 16)]
  else [c]

def quote (s : List Char) : List Char := '"' :: s.flatMap escape ++ ['"']

structure Layout where
  lineBreak : Nat → List Char
  gap : List Char

def Layout.compact : Layout := ⟨fun _ => [], []⟩

def Layout.pretty : Layout := ⟨fun depth => '\n' :: List.replicate (2 * depth) ' ', [' ']⟩

def listed (brk : List Char) : List (List Char) → List Char
  | [] => []
  | [x] => brk ++ x
  | x :: y :: xs => brk ++ x ++ ',' :: listed brk (y :: xs)

def enclose (l : Layout) (depth : Nat) (left right : Char) (items : List (List Char)) :
    List Char :=
  if items.isEmpty then [left, right]
  else left :: listed (l.lineBreak (depth + 1)) items ++ l.lineBreak depth ++ [right]

mutual
def render (l : Layout) (depth : Nat) : Json → List Char
  | int n => (Numeral.signed n).toList
  | str s => quote s.toList
  | arr items => enclose l depth '[' ']' (renderItems l (depth + 1) items)
  | obj members => enclose l depth '\x7b' '\x7d' (renderMembers l (depth + 1) members)

def renderItems (l : Layout) (depth : Nat) : List Json → List (List Char)
  | [] => []
  | x :: xs => render l depth x :: renderItems l depth xs

def renderMember (l : Layout) (depth : Nat) : String × Json → List Char
  | (key, value) => quote key.toList ++ ':' :: l.gap ++ render l depth value

def renderMembers (l : Layout) (depth : Nat) : List (String × Json) → List (List Char)
  | [] => []
  | m :: ms => renderMember l depth m :: renderMembers l depth ms
end

def compact (j : Json) : String := String.ofList (render .compact 0 j)

def pretty (j : Json) : String := String.ofList (render .pretty 0 j)

end AlarmScheduler.Json
