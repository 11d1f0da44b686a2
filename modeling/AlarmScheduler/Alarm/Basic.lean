import AlarmScheduler.Alarm.Flags
import AlarmScheduler.Alarm.Target
import AlarmScheduler.Window.Basic

namespace AlarmScheduler

inductive Clock where
  | wall
  | elapsed
  deriving DecidableEq, Repr

structure Kind where
  clock : Clock
  wakes : Bool
  deriving DecidableEq, Repr

namespace Kind

def all : List Kind :=
  [⟨.wall, true⟩, ⟨.wall, false⟩, ⟨.elapsed, true⟩, ⟨.elapsed, false⟩]

def code : Kind → Nat
  | ⟨.wall, true⟩ => 0
  | ⟨.wall, false⟩ => 1
  | ⟨.elapsed, true⟩ => 2
  | ⟨.elapsed, false⟩ => 3

def ofCode? (n : Nat) : Option Kind := all[n]?

def name : Kind → String
  | ⟨.wall, true⟩ => "RTC_WAKEUP"
  | ⟨.wall, false⟩ => "RTC"
  | ⟨.elapsed, true⟩ => "ELAPSED_WAKEUP"
  | ⟨.elapsed, false⟩ => "ELAPSED"

end Kind

structure AlarmClock where
  triggerTime : UInt64
  showTag : String
  deriving DecidableEq, Repr

structure Priority where
  seq : UInt32
  level : Int32
  deriving DecidableEq

structure Request where
  kind : Kind
  requestedTime : UInt64
  requestedElapsed : UInt64
  windowLength : UInt64
  repeatInterval : UInt64
  target : Target
  workSource : Option (List UInt32)
  flags : Flags
  alarmClock : Option AlarmClock
  uid : UInt32
  package : String
  deriving DecidableEq, Repr

def Request.exact (kind : Kind) (elapsed : UInt64) (target : Target) (uid : UInt32)
    (package : String) : Request where
  kind := kind
  requestedTime := elapsed
  requestedElapsed := elapsed
  windowLength := 0
  repeatInterval := 0
  target := target
  workSource := none
  flags := Flags.none
  alarmClock := none
  uid := uid
  package := package

def Target.statsTag (t : Target) (k : Kind) : String :=
  (if k.wakes then "*walarm*:" else "*alarm*:") ++ t.tag

/-- What an alarm stores. Its owner and its tag are worked out once, when it is made. -/
structure Alarm.Record where
  kind : Kind
  requestedTime : UInt64
  repeatInterval : UInt64
  target : Target
  owner : Owner
  tag : String
  workSource : Option (List UInt32)
  flags : Flags
  alarmClock : Option AlarmClock
  window : Window
  deliveries : UInt32
  priority : Option Priority
  deriving DecidableEq

namespace Alarm.Record

def ofRequest (r : Request) : Record where
  kind := r.kind
  requestedTime := r.requestedTime
  repeatInterval := r.repeatInterval
  target := r.target
  owner := Owner.of r.uid r.package r.target
  tag := r.target.statsTag r.kind
  workSource := r.workSource
  flags := r.flags
  alarmClock := r.alarmClock
  window := Window.anchored r.requestedElapsed r.windowLength
  deliveries := 0
  priority := none

def write (a : Record) (p : Policy) (t : UInt64) : Bool × Record :=
  ((a.window.write p t).1, { a with window := (a.window.write p t).2 })

def Sound (a : Record) : Prop :=
  a.owner = Owner.of a.owner.uid a.owner.package a.target ∧
    a.tag = a.target.statsTag a.kind ∧ a.window.Settled

theorem sound_ofRequest (r : Request) : (ofRequest r).Sound := by
  refine ⟨?_, rfl, Window.settled_anchored _ _⟩
  simp only [ofRequest]
  cases r.target <;> rfl

theorem sound_write {a : Record} (ha : a.Sound) (p : Policy) (t : UInt64) :
    (a.write p t).2.Sound :=
  ⟨ha.1, ha.2.1, a.window.settled_set p t⟩

end Alarm.Record

structure Alarm extends Alarm.Record where
  sound : toRecord.Sound
  deriving DecidableEq

namespace Alarm

def ofRequest (r : Request) : Alarm := ⟨Record.ofRequest r, Record.sound_ofRequest r⟩

def uid (a : Alarm) : UInt32 := a.owner.uid

def sourcePackage (a : Alarm) : String := a.owner.sourcePackage

def floor (a : Alarm) : UInt64 := a.window.floor

def ceiling (a : Alarm) : UInt64 := a.window.ceiling

def bounds (a : Alarm) : UInt64 × UInt64 := a.window.bounds

def isOneOf (a : Alarm) (cs : Candidates) : Bool := a.target.isOneOf cs

def isFrom (a : Alarm) (package : String) : Bool := a.sourcePackage == package

def moves (a : Alarm) (p : Policy) (t : UInt64) : Bool := (a.write p t).1

def set (a : Alarm) (p : Policy) (t : UInt64) : Alarm :=
  ⟨(a.write p t).2, Record.sound_write a.sound p t⟩

def isDue (a : Alarm) (now : UInt64) : Bool := a.floor ≤ now

def delivered (a : Alarm) : Alarm :=
  { a with deliveries := if a.deliveries = 4294967295 then a.deliveries else a.deliveries + 1 }

theorem owned (a : Alarm) : a.owner = Owner.of a.uid a.owner.package a.target := a.sound.1

theorem tagged (a : Alarm) : a.tag = a.target.statsTag a.kind := a.sound.2.1

theorem settled (a : Alarm) : a.window.Settled := a.sound.2.2

end Alarm

end AlarmScheduler
