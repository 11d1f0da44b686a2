import AlarmScheduler.Alarm.Basic
import AlarmScheduler.Limits
import AlarmScheduler.Log

namespace AlarmScheduler

structure Entry where
  id : AlarmId
  alarm : Alarm
  deriving DecidableEq

structure Store where
  limits : Limits
  entries : List Entry
  nextId : UInt32
  deriving DecidableEq

inductive Refusal where
  | overLimit
  | full
  deriving DecidableEq, Repr

def Refusal.message : Refusal → String
  | .overLimit => "per-uid alarm limit reached"
  | .full => "alarm store full"

structure Reply (α : Type) where
  value : α
  store : Store
  events : List Event

def AlarmId.after (n : UInt32) : UInt32 := if n + 1 = 0 then 1 else n + 1

/-- Ids that are found in use are struck off the list, so that the search comes to an end. -/
def AlarmId.firstFree (used : List UInt32) (n : UInt32) : UInt32 :=
  if _ : n ∈ used then AlarmId.firstFree (used.erase n) (AlarmId.after n) else n
termination_by used.length
decreasing_by
  rw [List.length_erase_of_mem ‹n ∈ used›]
  exact Nat.sub_lt (List.length_pos_of_mem ‹n ∈ used›) (by decide)

def Entry.push (package : String) (earliest : UInt64) (e : Entry) : Entry :=
  if e.alarm.isFrom package then { e with alarm := e.alarm.set .standby earliest } else e

def Entry.moves (package : String) (earliest : UInt64) (e : Entry) : Bool :=
  e.alarm.isFrom package && e.alarm.moves .standby earliest

def Entry.movedEvent (e : Entry) : Event := .moved e.id e.alarm.tag e.alarm.floor e.alarm.ceiling

def sortedByFloor (as : List Alarm) : List Alarm := as.mergeSort fun a b => a.floor ≤ b.floor

namespace Store

def ofLimits (l : Limits) : Store := ⟨l, [], 1⟩

def alarms (s : Store) : List Alarm := s.entries.map Entry.alarm

def size (s : Store) : Nat := s.entries.length

def isEmpty (s : Store) : Bool := s.entries.isEmpty

def countFor (s : Store) (uid : UInt32) : Nat := s.alarms.countP fun a => a.uid == uid

def get? (s : Store) (id : AlarmId) : Option Alarm :=
  (s.entries.find? fun e => e.id == id).map Entry.alarm

def freshId (s : Store) : AlarmId :=
  ⟨AlarmId.firstFree (s.entries.map fun e => e.id.val) s.nextId⟩

def refusal? (s : Store) (a : Alarm) : Option Refusal :=
  if s.limits.perUid ≤ s.countFor a.uid then some .overLimit
  else if s.limits.total ≤ s.size then some .full
  else none

def append (s : Store) (id : AlarmId) (a : Alarm) : Store :=
  { s with entries := s.entries ++ [⟨id, a⟩], nextId := AlarmId.after id.val }

def schedule (s : Store) (a : Alarm) : Reply (Except Refusal AlarmId) :=
  match s.refusal? a with
  | some .overLimit => ⟨.error .overLimit, s, [.overLimit a.uid a.tag]⟩
  | some .full => ⟨.error .full, s, [.full a.tag]⟩
  | none =>
    ⟨.ok s.freshId, s.append s.freshId a, [.scheduled s.freshId a.tag a.floor a.ceiling]⟩

def removed (s : Store) (p : Alarm → Bool) : List Alarm := s.alarms.filter p

def without (s : Store) (p : Alarm → Bool) : Store :=
  { s with entries := s.entries.filter fun e => !p e.alarm }

def cancel (s : Store) (cs : Candidates) : Reply (List Alarm) :=
  let gone := s.removed fun a => a.isOneOf cs
  ⟨gone, s.without fun a => a.isOneOf cs, [.cancelled gone.length]⟩

def cancelPackage (s : Store) (package : String) : Reply (List Alarm) :=
  let gone := s.removed fun a => a.isFrom package
  ⟨gone, s.without fun a => a.isFrom package, [.packageCancelled package gone.length]⟩

def setStandby (s : Store) (package : String) (earliest : UInt64) : Reply Bool :=
  ⟨s.entries.any (Entry.moves package earliest),
    { s with entries := s.entries.map (Entry.push package earliest) },
    (s.entries.filter (Entry.moves package earliest)).map
      fun e => (e.push package earliest).movedEvent⟩

def takeDue (s : Store) (now : UInt64) : Reply (List Alarm) :=
  ⟨(sortedByFloor (s.removed fun a => a.isDue now)).map Alarm.delivered,
    s.without fun a => a.isDue now, []⟩

def pending (s : Store) (wakeupOnly : Bool) : List Alarm :=
  s.alarms.filter fun a => !wakeupOnly || a.kind.wakes

def nextWake (s : Store) (wakeupOnly : Bool) : Option UInt64 :=
  ((s.pending wakeupOnly).map Alarm.floor).min?

def nextDeadline (s : Store) (wakeupOnly : Bool) : Option UInt64 :=
  ((s.pending wakeupOnly).map Alarm.ceiling).min?

end Store

end AlarmScheduler
