import AlarmScheduler.Proofs.Store.Agenda

namespace AlarmScheduler

namespace Alarm

def firstDue (a : Alarm) (ts : List UInt64) : Option Nat :=
  ts.findIdx? fun t => a.removedBy (.takeDue t)

theorem firstDue_eq (a : Alarm) (ts : List UInt64) : a.firstDue ts = ts.findIdx? a.isDue := by
  simp only [firstDue, removedBy_takeDue]

theorem isDue_max (a : Alarm) (t u : UInt64) : a.isDue (max t u) = (a.isDue t || a.isDue u) := by
  rw [Bool.eq_iff_iff]
  simp only [isDue, decide_eq_true_eq, Bool.or_eq_true, UInt64.le_iff_toNat_le, Window.toNat_max]
  omega

theorem isDue_of_le {a : Alarm} {t u : UInt64} (htu : t ≤ u) (h : a.isDue t = true) :
    a.isDue u = true :=
  decide_eq_true (UInt64.le_trans (of_decide_eq_true h) htu)

end Alarm

namespace Store

def deliveries (s : Store) (ts : List UInt64) : List (List Alarm) :=
  (s.run (ts.map .takeDue)).map fun r => r.value.alarms

theorem deliveries_cons (s : Store) (t : UInt64) (ts : List UInt64) :
    s.deliveries (t :: ts) = (s.takeDue t).value :: (s.takeDue t).store.deliveries ts := rfl

theorem after_takeDue_cons (s : Store) (t : UInt64) (ts : List UInt64) :
    s.after ((t :: ts).map .takeDue) = (s.takeDue t).store.after (ts.map .takeDue) := rfl

theorem takeDue_takeDue (s : Store) (t u : UInt64) :
    ((s.takeDue t).store.takeDue u).store = (s.takeDue (max t u)).store := by
  simp only [takeDue, without_without, Alarm.isDue_max]

theorem takeDue_append_perm (s : Store) (t u : UInt64) :
    ((s.takeDue t).value ++ ((s.takeDue t).store.takeDue u).value).Perm
      (s.takeDue (max t u)).value := by
  have hdue : (s.removed (fun a => a.isDue t) ++
      (s.takeDue t).store.removed fun a => a.isDue u).Perm
        (s.removed fun a => a.isDue (max t u)) := by
    simp only [removed, alarms_takeDue, Alarm.isDue_max]
    exact filter_or_perm _ _ s.alarms
  refine ((s.takeDue_perm t).append ((s.takeDue t).store.takeDue_perm u)).trans ?_
  rw [← List.map_append]
  exact (hdue.map _).trans (s.takeDue_perm (max t u)).symm

theorem takeDue_append_of_le (s : Store) {t u : UInt64} (h : t ≤ u) :
    (s.takeDue t).value ++ ((s.takeDue t).store.takeDue u).value = (s.takeDue u).value := by
  simp only [value_takeDue, agenda_takeDue, ← List.map_append]
  rw [takeWhile_append_takeWhile fun _ => Alarm.isDue_of_le h]

theorem after_takeDues (s : Store) (t : UInt64) (ts : List UInt64) :
    s.after ((t :: ts).map .takeDue) =
      (s.takeDue ((t :: ts).max (List.cons_ne_nil t ts))).store := by
  induction ts generalizing t with
  | nil => rfl
  | cons u ts ih =>
    rw [List.max_cons_cons, ← ih, after_takeDue_cons, after_takeDue_cons, takeDue_takeDue]
    rfl

theorem deliveries_perm (s : Store) (t : UInt64) (ts : List UInt64) :
    (s.deliveries (t :: ts)).flatten.Perm
      (s.takeDue ((t :: ts).max (List.cons_ne_nil t ts))).value := by
  induction ts generalizing t with
  | nil => exact .of_eq (List.append_nil _)
  | cons u ts ih =>
    have hmerge := ih (max t u)
    rw [List.max_cons_cons]
    refine .trans ?_ hmerge
    rw [deliveries_cons, deliveries_cons, deliveries_cons, takeDue_takeDue, List.flatten_cons,
      List.flatten_cons, List.flatten_cons, ← List.append_assoc]
    exact (s.takeDue_append_perm t u).append_right _

theorem deliveries_flatten (s : Store) (t : UInt64) (ts : List UInt64)
    (h : (t :: ts).Pairwise (· ≤ ·)) :
    (s.deliveries (t :: ts)).flatten =
      (s.takeDue ((t :: ts).getLast (List.cons_ne_nil t ts))).value := by
  induction ts generalizing t with
  | nil => exact List.append_nil _
  | cons u ts ih =>
    have htu := List.rel_of_pairwise_cons h List.mem_cons_self
    have hstore : ((s.takeDue t).store.takeDue u).store = (s.takeDue u).store := by
      rw [takeDue_takeDue]
      exact congrArg (fun v => (s.takeDue v).store) (if_pos htu)
    rw [List.getLast_cons (List.cons_ne_nil u ts), ← ih u h.of_cons, deliveries_cons,
      deliveries_cons, deliveries_cons, hstore, List.flatten_cons, List.flatten_cons,
      List.flatten_cons, ← List.append_assoc, s.takeDue_append_of_le htu]

theorem deliveries_eq_map_range (s : Store) (ts : List UInt64) :
    s.deliveries ts = (List.range ts.length).map fun n =>
      (sortedByFloor (s.alarms.filter fun a => a.firstDue ts == some n)).map Alarm.delivered := by
  simp only [Alarm.firstDue_eq]
  induction ts generalizing s with
  | nil => rfl
  | cons t ts ih =>
    rw [deliveries_cons, List.length_cons, List.range_succ_eq_map, List.map_cons, List.map_map, ih]
    congr 1
    · simp only [findIdx?_cons_eq_zero]
      rfl
    · apply List.map_congr_left
      intro n _
      rw [alarms_takeDue, List.filter_filter]
      simp only [Function.comp_apply, findIdx?_cons_eq_succ, Bool.and_comm]

theorem deliveries_in_order (s : Store) (ts : List UInt64) :
    List.Forall₂
      (fun n out => DeliveredInOrder (s.alarms.filter fun a => a.firstDue ts == some n) out)
      (List.range ts.length) (s.deliveries ts) := by
  rw [deliveries_eq_map_range, List.forall₂_map_right_iff, List.forall₂_same]
  intro n _
  rw [← funext Alarm.deliveredTimes_one]
  exact deliveredInOrder_sortedByFloor _

theorem value_takeDue_perm (s : Store) (now : UInt64) :
    (s.takeDue now).value.Perm
      ((s.alarms.filter fun a => a.removedBy (.takeDue now)).map (Alarm.deliveredTimes 1)) := by
  simp only [Alarm.removedBy_takeDue, funext Alarm.deliveredTimes_one]
  exact s.takeDue_perm now

theorem takeDue_composes (s : Store) (ts : List UInt64) (hts : ts ≠ []) :
    s.after (ts.map .takeDue) = (s.takeDue (ts.max hts)).store ∧
      (s.deliveries ts).flatten.Perm
        ((s.alarms.filter fun a => a.removedBy (.takeDue (ts.max hts))).map
          (Alarm.deliveredTimes 1)) ∧
      List.Forall₂
        (fun n out => DeliveredInOrder (s.alarms.filter fun a => a.firstDue ts == some n) out)
        (List.range ts.length) (s.deliveries ts) ∧
      (s.deliveries ts).flatten.Perm (s.takeDue (ts.max hts)).value ∧
      (ts.Pairwise (· ≤ ·) → (s.deliveries ts).flatten = (s.takeDue (ts.getLast hts)).value) := by
  obtain ⟨t, ts, rfl⟩ := List.exists_cons_of_ne_nil hts
  have hperm := s.deliveries_perm t ts
  exact ⟨s.after_takeDues t ts, hperm.trans (s.value_takeDue_perm _),
    s.deliveries_in_order (t :: ts), hperm, s.deliveries_flatten t ts⟩

def bellTower : Store :=
  let bell (handle elapsed : UInt64) : Command :=
    .schedule (.ofRequest (.exact ⟨.elapsed, true⟩ elapsed (.listener ⟨handle⟩ "bell") 1 "tower"))
  (ofLimits Limits.standard).after
    [bell 1 30, bell 2 10, bell 3 30, bell 4 20, bell 5 90, bell 6 10]

def chimes : List UInt64 := [10, 30, 30, 40]

theorem takeDue_composes_chimes :
    chimes ≠ [] ∧ chimes.Pairwise (· ≤ ·) ∧
      bellTower.after (chimes.map .takeDue) = (bellTower.takeDue 40).store ∧
      (bellTower.deliveries chimes).flatten.Perm
        ((bellTower.alarms.filter fun a => a.window.requester ≤ 40).map
          (Alarm.deliveredTimes 1)) ∧
      List.Forall₂
        (fun n out =>
          DeliveredInOrder (bellTower.alarms.filter fun a => a.firstDue chimes == some n) out)
        (List.range 4) (bellTower.deliveries chimes) ∧
      (bellTower.alarms.map fun a => a.firstDue chimes) =
        [some 1, some 0, some 1, some 1, none, some 0] ∧
      (bellTower.deliveries chimes).flatten.Perm (bellTower.takeDue 40).value ∧
      (bellTower.deliveries chimes).flatten = (bellTower.takeDue 40).value := by
  have hne : chimes ≠ [] := List.cons_ne_nil _ _
  have hascending : chimes.Pairwise (· ≤ ·) := by decide
  have hdue : (bellTower.alarms.filter fun a => a.removedBy (.takeDue 40)) =
      bellTower.alarms.filter fun a => a.window.requester ≤ 40 := by
    decide +kernel
  obtain ⟨hstore, hgone, hturns, hperm, hflatten⟩ := takeDue_composes bellTower chimes hne
  exact ⟨hne, hascending, hstore, hgone.trans (.of_eq (congrArg _ hdue)), hturns,
    by decide +kernel, hperm, hflatten hascending⟩

end Store

end AlarmScheduler
