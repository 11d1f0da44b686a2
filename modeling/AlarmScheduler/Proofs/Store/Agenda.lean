import AlarmScheduler.Proofs.Store.History
import AlarmScheduler.Proofs.Store.Queries
import AlarmScheduler.Store.Listing

namespace AlarmScheduler

namespace Store

def agenda (s : Store) : List Alarm := sortedByFloor s.alarms

structure AnsweredFrom (s : Store) (ds : List Snapshot) : Prop where
  size : s.size = ds.length
  isEmpty : s.isEmpty = ds.isEmpty
  countFor : ∀ uid, s.countFor uid = ds.countP fun d => d.uid == uid
  nextWake : s.nextWake false = ds.head?.map Snapshot.floor
  nextWakeup : s.nextWake true = (ds.find? fun d => d.kind.wakes).map Snapshot.floor
  nextDeadline : s.nextDeadline false = (ds.map Snapshot.ceiling).min?
  nextWakeupDeadline :
    s.nextDeadline true = ((ds.filter fun d => d.kind.wakes).map Snapshot.ceiling).min?

theorem agenda_perm (s : Store) : s.agenda.Perm s.alarms := sortedByFloor_perm s.alarms

theorem agenda_ascending (s : Store) : s.agenda.Pairwise fun a b => a.floor ≤ b.floor :=
  sortedByFloor_pairwise s.alarms

theorem agenda_due (s : Store) (now : UInt64) :
    s.agenda.Pairwise fun a b => b.isDue now = true → a.isDue now = true := by
  refine s.agenda_ascending.imp ?_
  intro a b hab hb
  exact decide_eq_true (UInt64.le_trans hab (of_decide_eq_true hb))

theorem value_takeDue (s : Store) (now : UInt64) :
    (s.takeDue now).value =
      (s.agenda.takeWhile fun a => a.isDue now).map Alarm.delivered := by
  rw [takeWhile_eq_filter (s.agenda_due now), agenda, ← sortedByFloor_filter]
  rfl

theorem agenda_takeDue (s : Store) (now : UInt64) :
    (s.takeDue now).store.agenda = s.agenda.dropWhile fun a => a.isDue now := by
  rw [dropWhile_eq_filter (s.agenda_due now), agenda, alarms_takeDue, sortedByFloor_filter]
  rfl

theorem filter_agenda_all (s : Store) :
    (s.agenda.filter fun a => !false || a.kind.wakes) = s.agenda :=
  List.filter_eq_self.mpr fun _ _ => rfl

theorem map_pending_perm (s : Store) (wakeupOnly : Bool) (f : Alarm → UInt64) :
    ((s.pending wakeupOnly).map f).Perm
      ((s.agenda.filter fun a => !wakeupOnly || a.kind.wakes).map f) :=
  ((s.agenda_perm.symm).filter _).map f

theorem min?_map_floor {as : List Alarm} (h : as.Pairwise fun a b => a.floor ≤ b.floor) :
    (as.map Alarm.floor).min? = as.head?.map Alarm.floor := by
  rw [← List.head?_map]
  apply List.min?_eq_head?
  rw [List.pairwise_map]
  exact h.imp fun hab => if_pos hab

theorem nextWake_eq_find? (s : Store) (wakeupOnly : Bool) :
    s.nextWake wakeupOnly =
      (s.agenda.find? fun a => !wakeupOnly || a.kind.wakes).map Alarm.floor := by
  rw [nextWake, min?_eq_of_perm (s.map_pending_perm wakeupOnly Alarm.floor),
    min?_map_floor (s.agenda_ascending.filter _), List.head?_filter]

theorem nextDeadline_eq_min? (s : Store) (wakeupOnly : Bool) :
    s.nextDeadline wakeupOnly =
      ((s.agenda.filter fun a => !wakeupOnly || a.kind.wakes).map Alarm.ceiling).min? :=
  min?_eq_of_perm (s.map_pending_perm wakeupOnly Alarm.ceiling)

theorem describeAll_eq (s : Store) : s.describeAll = s.agenda.map Alarm.describe := rfl

theorem describeAll_perm (s : Store) : s.describeAll.Perm (s.alarms.map Alarm.describe) :=
  s.agenda_perm.map _

theorem describeAll_ascending (s : Store) :
    s.describeAll.Pairwise fun d e => d.floor ≤ e.floor :=
  List.pairwise_map.mpr s.agenda_ascending

theorem filter_floor_describeAll (s : Store) (t : UInt64) :
    (s.describeAll.filter fun d => d.floor == t) =
      (s.alarms.map Alarm.describe).filter fun d => d.floor == t := by
  rw [describeAll_eq, List.filter_map, List.filter_map]
  exact congrArg (List.map Alarm.describe) (filter_floor_sortedByFloor s.alarms t)

theorem answeredFrom_describeAll (s : Store) : s.AnsweredFrom s.describeAll where
  size := by
    rw [size_eq, s.describeAll_perm.length_eq, List.length_map]
  isEmpty := by
    rw [s.describeAll_perm.isEmpty_eq, List.isEmpty_map, alarms, List.isEmpty_map, isEmpty]
  countFor uid := by
    rw [s.describeAll_perm.countP_eq, List.countP_map, countFor]
    rfl
  nextWake := by
    rw [nextWake_eq_find?, ← List.head?_filter, filter_agenda_all, describeAll_eq,
      List.head?_map, Option.map_map]
    rfl
  nextWakeup := by
    rw [nextWake_eq_find?, describeAll_eq, List.find?_map, Option.map_map]
    rfl
  nextDeadline := by
    rw [nextDeadline_eq_min?, filter_agenda_all, describeAll_eq, List.map_map]
    rfl
  nextWakeupDeadline := by
    rw [nextDeadline_eq_min?, describeAll_eq, List.filter_map, List.map_map]
    rfl

theorem describeAll_takeDue (s : Store) (now : UInt64) :
    (s.takeDue now).store.describeAll = s.describeAll.dropWhile fun d => d.floor ≤ now := by
  rw [describeAll_eq, agenda_takeDue, describeAll_eq, List.dropWhile_map]
  rfl

theorem listing_agrees (l : Limits) (cs : List Command) :
    let s := (ofLimits l).after cs
    s.describeAll.Pairwise (fun d e => d.floor ≤ e.floor) ∧
      s.describeAll.Perm (s.alarms.map Alarm.describe) ∧
      (∀ t, (s.describeAll.filter fun d => d.floor == t) =
        (((ofLimits l).kept cs).map Alarm.describe).filter fun d => d.floor == t) ∧
      s.AnsweredFrom s.describeAll ∧
      ∀ now, ∃ due : List Alarm,
        due.map Alarm.describe = s.describeAll.takeWhile (fun d => d.floor ≤ now) ∧
          (due ++ (s.takeDue now).store.alarms).Perm s.alarms ∧
          (s.takeDue now).value = due.map (Alarm.deliveredTimes 1) ∧
          (s.takeDue now).store.describeAll =
            s.describeAll.dropWhile fun d => d.floor ≤ now := by
  intro s
  refine ⟨s.describeAll_ascending, s.describeAll_perm, ?_, s.answeredFrom_describeAll, ?_⟩
  · intro t
    rw [← alarms_eq_kept]
    exact s.filter_floor_describeAll t
  · intro now
    have hfront : (s.agenda.takeWhile fun a => a.isDue now) ++ (s.takeDue now).store.agenda =
        s.agenda := by
      rw [agenda_takeDue, List.takeWhile_append_dropWhile]
    refine ⟨s.agenda.takeWhile fun a => a.isDue now, ?_, ?_, ?_, s.describeAll_takeDue now⟩
    · rw [describeAll_eq, List.takeWhile_map]
      rfl
    · have hrest := (s.takeDue now).store.agenda_perm.symm.append_left
        (s.agenda.takeWhile fun a => a.isDue now)
      rw [hfront] at hrest
      exact hrest.trans s.agenda_perm
    · rw [value_takeDue, funext Alarm.deliveredTimes_one]

end Store

end AlarmScheduler
