import AlarmScheduler.Proofs.Store.Occupancy

namespace AlarmScheduler

def Outcome.refusal? : Outcome → Option Refusal
  | .scheduled (.error r) => some r
  | _ => none

namespace Alarm

def returnedBy (a : Alarm) (c : Command) : Alarm := if a.removedBy c then c.counted a else a

theorem uid_counted (c : Command) (a : Alarm) : (c.counted a).uid = a.uid := by
  cases c <;> rfl

theorem uid_returnedBy (a : Alarm) (c : Command) : (a.returnedBy c).uid = a.uid := by
  rw [returnedBy]
  split
  · exact uid_counted c a
  · rfl

end Alarm

namespace Store

variable {s : Store} {c : Command}

theorem returned_perm (s : Store) (hc : c.removes = true) :
    ((s.step c).store.alarms ++ (s.step c).value.alarms).Perm
      (s.alarms.map fun a => a.returnedBy c) := by
  rw [store_step_of_removes s hc, alarms_without, handOut_step]
  exact ((c.handOut_perm _).append_left _).trans (partition_perm _ _ s.alarms)

theorem allow_returned (h : s.limits.Allow s.uids) (hc : c.removes = true) :
    (s.step c).store.limits.Allow
      ((s.step c).store.uids ++ (s.step c).value.alarms.map Alarm.uid) := by
  have hperm := (s.returned_perm hc).map Alarm.uid
  have huids : (s.alarms.map fun a => a.returnedBy c).map Alarm.uid = s.uids := by
    rw [List.map_map, uids]
    exact List.map_congr_left fun a _ => a.uid_returnedBy c
  rw [List.map_append, huids] at hperm
  rw [limits_step]
  exact h.of_subperm hperm.subperm

theorem refusal?_of_allow {a : Alarm} {us : List UInt32}
    (h : s.limits.Allow (s.uids ++ a.uid :: us)) : s.refusal? a = none := by
  have hown : s.limits.Allow s.uids := h.of_subperm (List.sublist_append_left _ _).subperm
  have hfront : s.limits.Allow (a.uid :: (s.uids ++ us)) :=
    h.of_subperm List.perm_middle.symm.subperm
  rw [refusal?_eq_none_iff_allow hown]
  exact hfront.of_subperm ((List.sublist_append_left s.uids us).cons_cons a.uid).subperm

theorem allow_schedule {a : Alarm} {us : List UInt32}
    (h : s.limits.Allow (s.uids ++ a.uid :: us)) :
    (s.step (.schedule a)).store.limits.Allow ((s.step (.schedule a)).store.uids ++ us) := by
  rw [limits_step, uids_schedule, refusal?_of_allow h, Option.isNone_none, if_pos rfl,
    List.append_assoc]
  exact h

theorem none_refused {ds : List Command} (h : s.limits.Allow (s.uids ++ seekers ds)) :
    ∀ e ∈ s.journal ds, e.2.value.refusal? = none := by
  induction ds generalizing s with
  | nil => exact List.forall_mem_nil _
  | cons c ds ih =>
    rw [journal_cons, List.forall_mem_cons]
    cases hs : c.sought? with
    | none =>
      rw [seekers_of_unsought hs] at h
      constructor
      · cases c with
        | schedule a => cases hs
        | _ => rfl
      · apply ih
        rw [limits_step]
        exact h.of_subperm ((s.uids_step_sublist hs).append_right _).subperm
    | some a =>
      obtain rfl := Command.eq_schedule_of_sought? hs
      rw [seekers_schedule] at h
      constructor
      · rw [value_step_schedule, refusal?_of_allow h]
        rfl
      · exact ih (allow_schedule h)

theorem alarms_after_schedules {as : List Alarm}
    (h : s.limits.Allow (s.uids ++ as.map Alarm.uid)) :
    (s.after (as.map .schedule)).alarms = s.alarms ++ as := by
  induction as generalizing s with
  | nil => exact (List.append_nil _).symm
  | cons a as ih =>
    have hstep : (s.step (.schedule a)).store.alarms = _ := alarms_schedule s a
    have hrest : (s.after ((a :: as).map .schedule)).alarms =
        (s.step (.schedule a)).store.alarms ++ as := ih (allow_schedule h)
    rw [hrest, hstep, refusal?_of_allow h, Option.isNone_none, if_pos rfl, List.append_assoc]
    rfl

theorem alarms_after_return (h : s.limits.Allow s.uids) (hc : c.removes = true) {as : List Alarm}
    (has : as.Perm (s.step c).value.alarms) :
    ((s.step c).store.after (as.map .schedule)).alarms = (s.step c).store.alarms ++ as := by
  apply alarms_after_schedules
  exact (allow_returned h hc).of_subperm ((has.map Alarm.uid).append_left _).subperm

def putBack (s : Store) (now : UInt64) : Store :=
  (s.takeDue now).store.after ((s.takeDue now).value.map .schedule)

def cycled (s : Store) (now : UInt64) : Nat → Store
  | 0 => s
  | n + 1 => (s.cycled now n).putBack now

theorem allow_cycled (h : s.limits.Allow s.uids) (now : UInt64) (n : Nat) :
    (s.cycled now n).limits.Allow (s.cycled now n).uids := by
  induction n with
  | zero => exact h
  | succ n ih => exact allow_after (allow_step ih (.takeDue now)) _

theorem takeDue_putBack (h : s.limits.Allow s.uids) (now : UInt64) :
    ((s.putBack now).takeDue now).value = (s.takeDue now).value.map Alarm.delivered := by
  have halarms : (s.putBack now).alarms =
      (s.takeDue now).store.alarms ++ (s.takeDue now).value :=
    alarms_after_return h (c := .takeDue now) rfl (.refl _)
  have hleft : ((s.takeDue now).store.alarms.filter fun a => a.isDue now) = [] := by
    rw [alarms_takeDue, List.filter_filter]
    simp
  have hback : ((s.takeDue now).value.filter fun a => a.isDue now) = (s.takeDue now).value := by
    apply List.filter_eq_self.mpr
    intro a ha
    obtain ⟨b, _, hdue, rfl⟩ := mem_takeDue.mp ha
    exact hdue
  have hdue : (s.putBack now).removed (fun a => a.isDue now) = (s.takeDue now).value := by
    rw [removed, halarms, List.filter_append, hleft, hback, List.nil_append]
  have hsorted : sortedByFloor (s.takeDue now).value = (s.takeDue now).value :=
    sortedByFloor_of_pairwise (List.pairwise_map.mp (s.takeDue_ascending now))
  rw [takeDue, hdue, hsorted]

theorem takeDue_cycled (h : s.limits.Allow s.uids) (now : UInt64) (n : Nat) :
    ((s.cycled now n).takeDue now).value =
      (sortedByFloor (s.alarms.filter fun a => a.isDue now)).map
        (Alarm.deliveredTimes (n + 1)) := by
  induction n with
  | zero =>
    have hone : Alarm.deliveredTimes (0 + 1) = Alarm.delivered := funext Alarm.deliveredTimes_one
    rw [hone]
    rfl
  | succ n ih =>
    have hround := takeDue_putBack (allow_cycled h now n) now
    rw [ih, List.map_map] at hround
    rw [cycled, hround]
    apply List.map_congr_left
    intro a _
    exact a.delivered_deliveredTimes (n + 1)

theorem removed_fit_again (l : Limits) (cs : List Command) (c : Command)
    (hc : c.removes = true) :
    let s := (ofLimits l).after cs
    (∀ ds : List Command, (ds.filterMap Command.sought?).Subperm (s.step c).value.alarms →
        ∀ e ∈ (s.step c).store.journal ds, e.2.value.refusal? = none) ∧
      (∀ as : List Alarm, as.Perm (s.step c).value.alarms →
        ((s.step c).store.after (as.map .schedule)).alarms.Perm
          (s.alarms.map fun a => a.returnedBy c)) ∧
      ∀ now n, ((s.cycled now n).takeDue now).value =
        (sortedByFloor (s.alarms.filter fun a => a.isDue now)).map
          (Alarm.deliveredTimes (n + 1)) := by
  intro s
  have hallow : s.limits.Allow s.uids := allow_after l.allow_nil cs
  refine ⟨?_, ?_, takeDue_cycled hallow⟩
  · intro ds hds
    apply none_refused
    refine (allow_returned hallow hc).of_subperm ?_
    obtain ⟨as, hperm, hsub⟩ := hds
    exact (List.subperm_append_left _).mpr ⟨as.map Alarm.uid, hperm.map _, hsub.map _⟩
  · intro as has
    rw [alarms_after_return hallow hc has]
    exact (has.append_left _).trans (s.returned_perm hc)

def clockAndBell : List Command :=
  let tick (uid : UInt32) (handle elapsed : UInt64) : Command :=
    .schedule (.ofRequest (.exact ⟨.elapsed, true⟩ elapsed (.listener ⟨handle⟩ "tick") uid "clock"))
  [tick 1 1 30, tick 2 2 10, tick 1 3 10, tick 2 4 50, .setStandby "clock" 20]

theorem removed_fit_again_clockAndBell :
    let s := (ofLimits ⟨2, 4⟩).after clockAndBell
    (Command.takeDue 40).removes = true ∧
      (∀ ds : List Command,
        (ds.filterMap Command.sought?).Subperm (s.step (.takeDue 40)).value.alarms →
          ∀ e ∈ (s.step (.takeDue 40)).store.journal ds, e.2.value.refusal? = none) ∧
      (∀ as : List Alarm, as.Perm (s.step (.takeDue 40)).value.alarms →
        ((s.step (.takeDue 40)).store.after (as.map .schedule)).alarms.Perm
          (s.alarms.map fun a => a.returnedBy (.takeDue 40))) ∧
      ∀ now n, ((s.cycled now n).takeDue now).value =
        (sortedByFloor (s.alarms.filter fun a => a.isDue now)).map
          (Alarm.deliveredTimes (n + 1)) :=
  ⟨rfl, removed_fit_again ⟨2, 4⟩ clockAndBell (.takeDue 40) rfl⟩

end Store

end AlarmScheduler
