import AlarmScheduler.Decimal
import AlarmScheduler.Files
import AlarmScheduler.Text.Numeral
import AlarmScheduler.Text.Printable
import AlarmScheduler.Toml.Document

namespace AlarmScheduler

structure Limits where
  perUid : Nat
  total : Nat
  deriving DecidableEq, Repr

def Limits.standard : Limits := ⟨500, 10000⟩

inductive Limit where
  | perUid
  | total
  deriving DecidableEq, Repr

namespace Limit

def all : List Limit := [perUid, total]

def name : Limit → String
  | perUid => "max_alarms_per_uid"
  | total => "max_alarms_total"

def ofName? (s : String) : Option Limit := all.find? fun l => l.name == s

end Limit

inductive Defect where
  | malformed
  | unknownKey (key : String)
  | wrongValue (shape : Toml.Shape)
  deriving DecidableEq, Repr

namespace Defect

def found : Toml.Shape → String
  | .boolean b => "type: boolean `" ++ (if b then "true" else "false") ++ "`"
  | .integer n => "value: integer `" ++ Numeral.signed n ++ "`"
  | .float x => "type: floating point `" ++ x.text ++ "`"
  | .text s => "type: string " ++ Escaped.quote s
  | .sequence => "type: sequence"
  | .map => "type: map"

def message : Defect → String
  | malformed => "<syntax>"
  | unknownKey key =>
    "unknown field `" ++ key ++ "`, expected `" ++ Limit.perUid.name ++ "` or `"
      ++ Limit.total.name ++ "`"
  | wrongValue shape => "invalid " ++ found shape ++ ", expected usize"

end Defect

inductive LimitsError where
  | unreadable (path : String) (e : ReadError)
  | unparsable (path : String) (d : Defect)
  | zero (l : Limit)
  deriving DecidableEq, Repr

def LimitsError.message : LimitsError → String
  | unreadable path e => "failed to read config file " ++ path ++ ": " ++ e.message
  | unparsable path d => "failed to parse config file " ++ path ++ ": " ++ d.message
  | zero l => "invalid config value: " ++ l.name ++ " must be non-zero"

namespace Limits

def get (ls : Limits) : Limit → Nat
  | .perUid => ls.perUid
  | .total => ls.total

def set (ls : Limits) (l : Limit) (n : Nat) : Limits :=
  match l with
  | .perUid => { ls with perUid := n }
  | .total => { ls with total := n }

def natural : Toml.Shape → Except Defect Nat
  | .integer (.ofNat n) => .ok n
  | shape => .error (.wrongValue shape)

def decodeEntry (ls : Limits) (entry : String × Toml.Value) : Except Defect Limits :=
  match Limit.ofName? entry.1 with
  | none => .error (.unknownKey entry.1)
  | some l => (natural entry.2.shape).map fun n => ls.set l n

def decode (t : Toml.Table) : Except Defect Limits := t.entries.foldlM decodeEntry standard

def check (ls : Limits) : Except LimitsError Limits :=
  match Limit.all.find? fun l => ls.get l == 0 with
  | some l => .error (.zero l)
  | none => .ok ls

def parseAt (path : String) (s : String) : Except LimitsError Limits :=
  match Toml.parse? s with
  | none => .error (.unparsable path .malformed)
  | some t =>
    match decode t with
    | .error d => .error (.unparsable path d)
    | .ok ls => ls.check

def parse (s : String) : Except LimitsError Limits := parseAt "<inline>" s

def load (read : String → Except ReadError String) (path : String) : Except LimitsError Limits :=
  match read path with
  | .error e => .error (.unreadable path e)
  | .ok s => parseAt path s

end Limits

end AlarmScheduler
