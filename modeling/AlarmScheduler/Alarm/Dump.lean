import AlarmScheduler.Alarm.Basic
import AlarmScheduler.Text.Numeral
import AlarmScheduler.Text.Sink

namespace AlarmScheduler.Alarm

def line (a : Alarm) : String :=
  "Alarm\x7b" ++ a.kind.name ++ " origWhen " ++ Numeral.decimal a.requestedTime.toNat
    ++ " whenElapsed " ++ Numeral.decimal a.floor.toNat ++ " " ++ a.sourcePackage ++ "\x7d"

section Lines

variable {ε σ : Type} (write : Writer ε σ)

def requestedTo (a : Alarm) (now : UInt64) : EStateM ε σ Unit :=
  match a.kind.clock with
  | .wall => write (Numeral.decimal a.requestedTime.toNat)
  | .elapsed => write (Duration.relative a.requestedTime now)

def policiesTo (w : Window) (now : UInt64) : EStateM ε σ Unit :=
  Policy.all.forM fun p => [" ", p.name, "=", Duration.relative (w.slot p) now].forM write

def clockTo (indent : String) : Option AlarmClock → EStateM ε σ Unit
  | none => pure ()
  | some c => do
    [indent, "Alarm clock:\n"].forM write
    [indent, "  triggerTime=", Numeral.decimal c.triggerTime.toNat, "\n"].forM write
    [indent, "  showIntent=", c.showTag, "\n"].forM write

def targetTo (indent : String) : Target → EStateM ε σ Unit
  | .callback c => ([indent, "operation="] ++ c.pieces ++ ["\n"]).forM write
  | .listener l _ => ([indent, "listener="] ++ l.pieces ++ ["\n"]).forM write

def dumpTo (a : Alarm) (indent : String) (now : UInt64) : EStateM ε σ Unit := do
  [indent, "tag=", a.tag, "\n"].forM write
  [indent, "type=", a.kind.name, " origWhen="].forM write
  requestedTo write a now
  ([" window=", Duration.text (Duration.clamp a.window.length.toNat),
    " repeatInterval=", Numeral.decimal a.repeatInterval.toNat,
    " count=", Numeral.decimal a.deliveries.toNat, " flags="]
    ++ Numeral.hexPieces a.flags.bits.toNat ++ ["\n"]).forM write
  [indent, "policyWhenElapsed:"].forM write
  policiesTo write a.window now
  write "\n"
  [indent, "whenElapsed=", Duration.relative a.floor now,
    " maxWhenElapsed=", Duration.relative a.ceiling now, "\n"].forM write
  clockTo write indent a.alarmClock
  targetTo write indent a.target

end Lines

def dump (a : Alarm) (indent : String) (now : UInt64) : String :=
  outcome (a.dumpTo Text.write indent now) ""

def dumpInto (a : Alarm) (indent : String) (now : UInt64) (limit : Nat) : Bool × Sink :=
  match (a.dumpTo Sink.write indent now).run (Sink.ofLimit limit) with
  | .ok _ s => (true, s)
  | .error _ s => (false, s)

end AlarmScheduler.Alarm
