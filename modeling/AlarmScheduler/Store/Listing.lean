import AlarmScheduler.Alarm.Basic
import AlarmScheduler.Json
import AlarmScheduler.Store.Basic

namespace AlarmScheduler

structure Snapshot where
  tag : String
  kind : Kind
  requestedTime : UInt64
  windowLength : UInt64
  repeatInterval : UInt64
  count : UInt32
  flags : Flags
  uid : UInt32
  creatorUid : UInt32
  package : String
  sourcePackage : String
  slots : List (Policy × UInt64)
  floor : UInt64
  ceiling : UInt64
  priority : Option Int32
  alarmClock : Option AlarmClock
  operation : Option String
  listener : Option String
  deriving DecidableEq

def Alarm.describe (a : Alarm) : Snapshot where
  tag := a.tag
  kind := a.kind
  requestedTime := a.requestedTime
  windowLength := a.window.length
  repeatInterval := a.repeatInterval
  count := a.deliveries
  flags := a.flags
  uid := a.owner.uid
  creatorUid := a.owner.creatorUid
  package := a.owner.package
  sourcePackage := a.owner.sourcePackage
  slots := Policy.all.map fun p => (p, a.window.slot p)
  floor := a.floor
  ceiling := a.ceiling
  priority := a.priority.map Priority.level
  alarmClock := a.alarmClock
  operation := a.target.callback?.map Callback.text
  listener := a.target.listener?.map Listener.text

namespace Snapshot

def time (t : UInt64) : Json := .int t.toNat

def word (n : UInt32) : Json := .int n.toNat

def slotJson (s : Policy × UInt64) : Json :=
  .obj [("policy", .str s.1.name), ("elapsed", time s.2)]

def clockJson (c : AlarmClock) : Json :=
  .obj [("trigger_time", time c.triggerTime), ("show_tag", .str c.showTag)]

def member? (key : String) (value : Option Json) : List (String × Json) :=
  value.toList.map fun v => (key, v)

def toJson (s : Snapshot) : Json :=
  .obj <|
    [("tag", .str s.tag), ("kind", .str s.kind.name), ("requested_time", time s.requestedTime),
      ("window_length", time s.windowLength), ("repeat_interval", time s.repeatInterval),
      ("count", word s.count), ("flags", word s.flags.bits), ("uid", word s.uid),
      ("creator_uid", word s.creatorUid), ("package", .str s.package),
      ("source_package", .str s.sourcePackage), ("policy_elapsed", .arr (s.slots.map slotJson)),
      ("when_elapsed", time s.floor), ("max_when_elapsed", time s.ceiling)]
    ++ member? "priority" (s.priority.map fun p => .int p.toInt)
    ++ member? "alarm_clock" (s.alarmClock.map clockJson)
    ++ member? "operation" (s.operation.map Json.str)
    ++ member? "listener" (s.listener.map Json.str)

def text (s : Snapshot) : String := s.toJson.compact

end Snapshot

end AlarmScheduler

namespace AlarmScheduler.Store

def describeAll (s : Store) : List Snapshot := (sortedByFloor s.alarms).map Alarm.describe

def listing (s : Store) : Json := .arr (s.describeAll.map Snapshot.toJson)

def dumpJson (s : Store) : String := s.listing.pretty

end AlarmScheduler.Store
