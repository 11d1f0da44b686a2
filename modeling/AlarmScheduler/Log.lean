import AlarmScheduler.Text.Numeral

namespace AlarmScheduler

inductive Level where
  | error
  | warn
  | info
  | debug
  | trace
  deriving DecidableEq, Repr

def Level.name : Level → String
  | .error => "ERROR"
  | .warn => "WARN"
  | .info => "INFO"
  | .debug => "DEBUG"
  | .trace => "TRACE"

structure LogRecord where
  level : Level
  text : String
  deriving DecidableEq, Repr

def LogRecord.line (r : LogRecord) : String := r.level.name ++ " " ++ r.text

structure AlarmId where
  val : UInt32
  deriving DecidableEq, Repr

inductive Event where
  | scheduled (id : AlarmId) (tag : String) (floor ceiling : UInt64)
  | overLimit (uid : UInt32) (tag : String)
  | full (tag : String)
  | cancelled (count : Nat)
  | packageCancelled (package : String) (count : Nat)
  | moved (id : AlarmId) (tag : String) (floor ceiling : UInt64)
  deriving DecidableEq, Repr

namespace Event

def level : Event → Level
  | scheduled .. => .debug
  | overLimit .. => .warn
  | full .. => .warn
  | cancelled .. => .debug
  | packageCancelled .. => .debug
  | moved .. => .debug

def boundsText (floor ceiling : UInt64) : String :=
  "[" ++ Numeral.decimal floor.toNat ++ ", " ++ Numeral.decimal ceiling.toNat ++ "]"

def text : Event → String
  | scheduled id tag floor ceiling =>
    "alarmd: admit " ++ tag ++ " id=" ++ Numeral.decimal id.val.toNat ++ " window="
      ++ boundsText floor ceiling
  | overLimit uid tag =>
    "alarmd: uid " ++ Numeral.decimal uid.toNat ++ " over limit, rejecting " ++ tag
  | full tag => "alarmd: store full, rejecting " ++ tag
  | cancelled count => "alarmd: cancel by identity removed " ++ Numeral.decimal count
  | packageCancelled package count =>
    "alarmd: cancel package " ++ package ++ " removed " ++ Numeral.decimal count
  | moved id tag floor ceiling =>
    "alarmd: standby moved " ++ tag ++ " id=" ++ Numeral.decimal id.val.toNat ++ " to "
      ++ boundsText floor ceiling

def record (e : Event) : LogRecord := ⟨e.level, e.text⟩

end Event

end AlarmScheduler
