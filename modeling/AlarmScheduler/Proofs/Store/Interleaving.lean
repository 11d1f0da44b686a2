import AlarmScheduler.Proofs.Store.History
import AlarmScheduler.Proofs.Store.Occupancy
import Mathlib.Algebra.BigOperators.Group.Finset.Piecewise

namespace AlarmScheduler

def Admission.isOf (u : UInt32) (p : Admission) : Bool := p.alarm.uid == u

def soughtFrom (k : Nat) (cs : List Command) : List Admission :=
  (cs.zipIdx k).filterMap fun e => e.1.sought?.map (Admission.mk e.2)

def wanted (room : UInt32 → Nat) (us : List UInt32) : Nat :=
  ∑ u ∈ us.toFinset, min (us.count u) (room u)

section Wanted

variable {room : UInt32 → Nat} {u : UInt32} {us : List UInt32}

theorem wanted_eq_sum_insert (room : UInt32 → Nat) (u : UInt32) (us : List UInt32) :
    wanted room us = ∑ v ∈ (u :: us).toFinset, min (us.count v) (room v) := by
  refine Finset.sum_subset ?_ ?_
  · rw [List.toFinset_cons]
    exact Finset.subset_insert u us.toFinset
  · intro v _ hv
    rw [List.mem_toFinset] at hv
    rw [List.count_eq_zero_of_not_mem hv, Nat.zero_min]

theorem wanted_cons_of_no_room (h : room u = 0) : wanted room (u :: us) = wanted room us := by
  rw [wanted_eq_sum_insert room u us, wanted]
  apply Finset.sum_congr rfl
  intro v _
  by_cases hv : u = v
  · subst hv
    rw [h, Nat.min_zero, Nat.min_zero]
  · rw [List.count_cons_of_ne hv]

theorem wanted_cons_of_room (h : 0 < room u) :
    wanted room (u :: us) = wanted (Function.update room u (room u - 1)) us + 1 := by
  have hone : (∑ v ∈ (u :: us).toFinset, if u = v then 1 else 0) = 1 := by
    rw [Finset.sum_ite_eq, if_pos (List.mem_toFinset.mpr List.mem_cons_self)]
  rw [wanted_eq_sum_insert _ u us, wanted, ← hone, ← Finset.sum_add_distrib]
  apply Finset.sum_congr rfl
  intro v _
  by_cases hv : u = v
  · subst hv
    rw [List.count_cons_self, Function.update_self, if_pos rfl]
    omega
  · rw [List.count_cons_of_ne hv, Function.update_of_ne (Ne.symm hv), if_neg hv, Nat.add_zero]

theorem wanted_perm (room : UInt32 → Nat) {vs : List UInt32} (h : us.Perm vs) :
    wanted room us = wanted room vs := by
  rw [wanted, wanted, List.toFinset_eq_of_perm us vs h]
  apply Finset.sum_congr rfl
  intro v _
  rw [h.count_eq]

end Wanted

namespace Store

def free (s : Store) : Nat := s.limits.total - s.size

def roomFor (s : Store) (u : UInt32) : Nat := s.limits.perUid - s.countFor u

def TurnsAway (s : Store) (u : UInt32) : Prop := s.roomFor u = 0 ∨ s.free = 0

variable {s : Store} {a : Alarm} {u : UInt32}

theorem free_eq (s : Store) : s.free = s.limits.total - s.uids.length := by
  rw [free, size_eq_length_uids]

theorem roomFor_eq (s : Store) (u : UInt32) :
    s.roomFor u = s.limits.perUid - s.uids.count u := by
  rw [roomFor, countFor_eq_count_uids]

theorem refusal?_eq_none_iff_not_turnsAway : s.refusal? a = none ↔ ¬s.TurnsAway a.uid := by
  rw [refusal?_eq_none_iff, TurnsAway, roomFor, free]
  omega

theorem refused_of_turnsAway (h : s.TurnsAway a.uid) : ∃ r, s.refusal? a = some r := by
  apply Option.ne_none_iff_exists'.mp
  exact mt refusal?_eq_none_iff_not_turnsAway.mp (not_not_intro h)

theorem store_schedule_of_turnsAway (h : s.TurnsAway a.uid) :
    (s.step (.schedule a)).store = s := by
  obtain ⟨r, hr⟩ := refused_of_turnsAway h
  exact store_schedule_of_refused (value_schedule_eq_error_iff.mpr hr)

theorem uids_schedule_of_accepted (h : ¬s.TurnsAway a.uid) :
    (s.step (.schedule a)).store.uids = s.uids ++ [a.uid] := by
  rw [uids_schedule, refusal?_eq_none_iff_not_turnsAway.mpr h, Option.isNone_none, if_pos rfl]

theorem uids_setStandby (s : Store) (package : String) (earliest : UInt64) :
    (s.step (.setStandby package earliest)).store.uids = s.uids := by
  have hkept : (s.alarms.filter fun a => !a.removedBy (.setStandby package earliest)) = s.alarms :=
    List.filter_eq_self.mpr fun _ _ => rfl
  rw [uids_step, hkept]
  exact List.append_nil _

theorem uids_sublist_step (s : Store) {c : Command} (h : c.removes = false) :
    s.uids.Sublist (s.step c).store.uids := by
  cases c with
  | schedule a =>
    rw [uids_schedule]
    split
    · exact List.sublist_append_left _ _
    · exact List.Sublist.refl _
  | setStandby package earliest =>
    rw [uids_setStandby]
  | _ => cases h

theorem TurnsAway.step (hu : s.TurnsAway u) {c : Command} (h : c.removes = false) :
    (s.step c).store.TurnsAway u := by
  have hcount := (s.uids_sublist_step h).count_le u
  have hlength := (s.uids_sublist_step h).length_le
  simp only [TurnsAway, roomFor_eq, free_eq, limits_step] at hu ⊢
  omega

theorem admissionsFrom_cons (s : Store) (k : Nat) (c : Command) (cs : List Command) :
    s.admissionsFrom k (c :: cs) =
      ((c.admitted? (s.step c).value).map (Admission.mk k)).toList
        ++ (s.step c).store.admissionsFrom (k + 1) cs := by
  have h : s.admissionsFrom k (c :: cs) = List.filterMap Admission.ofEntry?
      (((c, s.step c), k) :: ((s.step c).store.journal cs).zipIdx (k + 1)) := rfl
  rw [h, List.filterMap_cons, Admission.ofEntry?]
  cases c.admitted? (s.step c).value <;> rfl

theorem admissionsFrom_of_turnsAway (h : s.TurnsAway a.uid) (k : Nat) (cs : List Command) :
    s.admissionsFrom k (.schedule a :: cs) = s.admissionsFrom (k + 1) cs := by
  obtain ⟨r, hr⟩ := refused_of_turnsAway h
  rw [admissionsFrom_cons, store_schedule_of_turnsAway h, value_step_schedule, hr]
  rfl

theorem admissionsFrom_of_accepted (h : ¬s.TurnsAway a.uid) (k : Nat) (cs : List Command) :
    s.admissionsFrom k (.schedule a :: cs) =
      ⟨k, a⟩ :: (s.step (.schedule a)).store.admissionsFrom (k + 1) cs := by
  have hr := refusal?_eq_none_iff_not_turnsAway.mpr h
  rw [admissionsFrom_cons, value_step_schedule, hr]
  rfl

theorem free_schedule (h : ¬s.TurnsAway a.uid) :
    (s.step (.schedule a)).store.free = s.free - 1 := by
  rw [free_eq, free_eq, limits_step, uids_schedule_of_accepted h, List.length_append,
    List.length_singleton, Nat.sub_add_eq]

theorem roomFor_schedule (h : ¬s.TurnsAway a.uid) :
    (s.step (.schedule a)).store.roomFor =
      Function.update s.roomFor a.uid (s.roomFor a.uid - 1) := by
  funext u
  rw [roomFor_eq, limits_step, uids_schedule_of_accepted h, List.count_append]
  by_cases hu : a.uid = u
  · subst hu
    rw [Function.update_self, List.count_singleton_self, Nat.sub_add_eq, ← roomFor_eq]
  · rw [Function.update_of_ne (Ne.symm hu), List.count_singleton, beq_false_of_ne hu,
      if_neg Bool.false_ne_true, Nat.add_zero, ← roomFor_eq]

theorem min_wanted_cons_of_turnsAway (h : s.TurnsAway u) (us : List UInt32) :
    min s.free (wanted s.roomFor (u :: us)) = min s.free (wanted s.roomFor us) := by
  rcases h with h | h
  · rw [wanted_cons_of_no_room h]
  · rw [h, Nat.zero_min, Nat.zero_min]

theorem length_admissionsFrom (s : Store) (k : Nat) {cs : List Command}
    (h : ∀ c ∈ cs, c.removes = false) :
    (s.admissionsFrom k cs).length = min s.free (wanted s.roomFor (seekers cs)) := by
  induction cs generalizing s k with
  | nil => exact (Nat.min_zero _).symm
  | cons c cs ih =>
    obtain ⟨hc, hcs⟩ := List.forall_mem_cons.mp h
    cases c with
    | schedule a =>
      rw [seekers_schedule]
      by_cases haway : s.TurnsAway a.uid
      · rw [admissionsFrom_of_turnsAway haway, min_wanted_cons_of_turnsAway haway]
        exact ih s (k + 1) hcs
      · have hopen : 0 < s.roomFor a.uid ∧ 0 < s.free := by
          rw [TurnsAway] at haway
          omega
        rw [admissionsFrom_of_accepted haway, List.length_cons, ih _ _ hcs, free_schedule haway,
          roomFor_schedule haway, wanted_cons_of_room hopen.1]
        omega
    | setStandby package earliest =>
      have hfree : (s.step (.setStandby package earliest)).store.free = s.free := by
        rw [free_eq, free_eq, limits_step, uids_setStandby]
      have hroom : (s.step (.setStandby package earliest)).store.roomFor = s.roomFor := by
        funext u
        rw [roomFor_eq, roomFor_eq, limits_step, uids_setStandby]
      have hrest := ih (s.step (.setStandby package earliest)).store (k + 1) hcs
      rw [hfree, hroom] at hrest
      exact hrest
    | _ => cases hc

theorem admissionsFrom_of_other (s : Store) (k : Nat) (cs : List Command) (h : a.uid ≠ u) :
    (s.admissionsFrom k (.schedule a :: cs)).filter (Admission.isOf u) =
      ((s.step (.schedule a)).store.admissionsFrom (k + 1) cs).filter (Admission.isOf u) := by
  have hskip : ¬(Admission.mk k a).isOf u = true := fun hau => h (eq_of_beq hau)
  by_cases haway : s.TurnsAway a.uid
  · rw [admissionsFrom_of_turnsAway haway, store_schedule_of_turnsAway haway]
  · rw [admissionsFrom_of_accepted haway, List.filter_cons_of_neg hskip]

theorem admissionsFrom_of_closed (hu : s.TurnsAway u) (k : Nat) {cs : List Command}
    (h : ∀ c ∈ cs, c.removes = false) :
    (s.admissionsFrom k cs).filter (Admission.isOf u) = [] := by
  induction cs generalizing s k with
  | nil => rfl
  | cons c cs ih =>
    obtain ⟨hc, hcs⟩ := List.forall_mem_cons.mp h
    have hrest := ih (hu.step hc) (k + 1) hcs
    cases c with
    | schedule a =>
      by_cases hau : a.uid = u
      · subst hau
        rw [admissionsFrom_of_turnsAway hu]
        exact ih hu (k + 1) hcs
      · rw [admissionsFrom_of_other s k cs hau]
        exact hrest
    | setStandby package earliest => exact hrest
    | _ => cases hc

theorem admissionsFrom_prefix (s : Store) (k : Nat) {cs : List Command}
    (h : ∀ c ∈ cs, c.removes = false) (u : UInt32) :
    (s.admissionsFrom k cs).filter (Admission.isOf u) <+:
      (soughtFrom k cs).filter (Admission.isOf u) := by
  induction cs generalizing s k with
  | nil => exact List.prefix_rfl
  | cons c cs ih =>
    obtain ⟨hc, hcs⟩ := List.forall_mem_cons.mp h
    cases c with
    | schedule a =>
      have hsought : soughtFrom k (.schedule a :: cs) = ⟨k, a⟩ :: soughtFrom (k + 1) cs := rfl
      by_cases hau : a.uid = u
      · have hkeep : (Admission.mk k a).isOf u = true := beq_iff_eq.mpr hau
        by_cases haway : s.TurnsAway u
        · rw [admissionsFrom_of_closed haway k h]
          exact List.nil_prefix
        · rw [← hau] at haway
          rw [hsought, admissionsFrom_of_accepted haway, List.filter_cons_of_pos hkeep,
            List.filter_cons_of_pos hkeep]
          exact List.cons_prefix_cons.mpr ⟨rfl, ih _ _ hcs⟩
      · have hskip : ¬(Admission.mk k a).isOf u = true := fun hau' => hau (eq_of_beq hau')
        rw [hsought, admissionsFrom_of_other s k cs hau, List.filter_cons_of_neg hskip]
        exact ih _ _ hcs
    | setStandby package earliest => exact ih _ _ hcs
    | _ => cases hc

theorem admitted_in_any_order (s : Store) (cs : List Command) (h : ∀ c ∈ cs, c.removes = false) :
    (s.admissions cs).length =
        min (s.limits.total - s.size)
          (∑ u ∈ (seekers cs).toFinset,
            min ((seekers cs).count u) (s.limits.perUid - s.countFor u)) ∧
      (∀ u, (s.admissions cs).filter (Admission.isOf u) <+:
        (soughtFrom 0 cs).filter (Admission.isOf u)) ∧
      ∀ ds : List Command, (∀ c ∈ ds, c.removes = false) → (seekers ds).Perm (seekers cs) →
        (s.admissions ds).length = (s.admissions cs).length := by
  refine ⟨s.length_admissionsFrom 0 h, s.admissionsFrom_prefix 0 h, ?_⟩
  intro ds hds hperm
  have hwanted : wanted s.roomFor (seekers ds) = wanted s.roomFor (seekers cs) :=
    wanted_perm s.roomFor hperm
  rw [admissions, admissions, s.length_admissionsFrom 0 hds, s.length_admissionsFrom 0 h, hwanted]

def threeCallers : List Command :=
  let tick (uid : UInt32) (handle : UInt64) : Command :=
    .schedule (.ofRequest (.exact ⟨.elapsed, true⟩ 10 (.listener ⟨handle⟩ "tick") uid "clock"))
  [tick 1 1, tick 2 2, tick 1 3, .setStandby "clock" 20, tick 3 4, tick 2 5, tick 3 6, tick 3 7]

theorem admitted_in_any_order_threeCallers :
    let s := (ofLimits ⟨2, 5⟩).after (threeCallers.take 1)
    (∀ c ∈ threeCallers, c.removes = false) ∧
      (s.admissions threeCallers).length =
        min (s.limits.total - s.size)
          (∑ u ∈ (seekers threeCallers).toFinset,
            min ((seekers threeCallers).count u) (s.limits.perUid - s.countFor u)) ∧
      (∀ u, (s.admissions threeCallers).filter (Admission.isOf u) <+:
        (soughtFrom 0 threeCallers).filter (Admission.isOf u)) ∧
      ∀ ds : List Command, (∀ c ∈ ds, c.removes = false) →
        (seekers ds).Perm (seekers threeCallers) →
          (s.admissions ds).length = (s.admissions threeCallers).length := by
  have hkeep : ∀ c ∈ threeCallers, c.removes = false := by decide
  exact ⟨hkeep, admitted_in_any_order _ threeCallers hkeep⟩

end Store

end AlarmScheduler
