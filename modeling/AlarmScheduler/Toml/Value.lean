import AlarmScheduler.Decimal

namespace AlarmScheduler.Toml

structure Date where
  year : Nat
  month : Nat
  day : Nat
  deriving DecidableEq, Repr

structure Time where
  hour : Nat
  minute : Nat
  second : Nat
  fraction : List Char
  deriving DecidableEq, Repr

inductive Offset where
  | utc
  | minutes (n : Int)
  deriving DecidableEq, Repr

inductive Moment where
  | date (d : Date)
  | time (t : Time)
  | dateTime (d : Date) (t : Time) (offset : Option Offset)
  deriving DecidableEq, Repr

inductive Origin where
  | header
  | path
  | dotted
  | braces
  deriving DecidableEq, Repr

structure TableOf (α : Type) where
  origin : Origin
  entries : List (String × α)

inductive Value where
  | boolean (b : Bool)
  | integer (n : Int)
  | float (x : Binary64)
  | text (s : String)
  | moment (m : Moment)
  | array (items : List Value)
  | table (t : TableOf Value)
  | rows (earlier : List (TableOf Value)) (last : TableOf Value)

abbrev Table := TableOf Value

inductive Shape where
  | boolean (b : Bool)
  | integer (n : Int)
  | float (x : Binary64)
  | text (s : String)
  | sequence
  | map
  deriving DecidableEq, Repr

def Value.shape : Value → Shape
  | boolean b => .boolean b
  | integer n => .integer n
  | float x => .float x
  | text s => .text s
  | moment _ => .map
  | array _ => .sequence
  | table _ => .map
  | rows _ _ => .sequence

end AlarmScheduler.Toml
