import AlarmScheduler.Proofs.Store.Step
import Mathlib.Algebra.BigOperators.Group.Finset.Basic

namespace AlarmScheduler

def seekers (cs : List Command) : List UInt32 := (cs.filterMap Command.sought?).map Alarm.uid

structure Limits.Allow (l : Limits) (us : List UInt32) : Prop where
  perUid : ∀ u, us.count u ≤ l.perUid
  total : us.length ≤ l.total

theorem seekers_schedule (a : Alarm) (cs : List Command) :
    seekers (.schedule a :: cs) = a.uid :: seekers cs := rfl

theorem seekers_of_unsought {c : Command} (h : c.sought? = none) (cs : List Command) :
    seekers (c :: cs) = seekers cs := by
  rw [seekers, List.filterMap_cons_none h, seekers]

namespace Limits

variable {l : Limits} {us vs : List UInt32}

theorem allow_nil (l : Limits) : l.Allow [] where
  perUid _ := Nat.zero_le _
  total := Nat.zero_le _

theorem Allow.of_subperm (h : l.Allow us) (hsub : vs.Subperm us) : l.Allow vs where
  perUid u := Nat.le_trans (hsub.count_le u) (h.perUid u)
  total := Nat.le_trans hsub.length_le h.total

theorem allow_cons_iff (h : l.Allow us) {u : UInt32} :
    l.Allow (u :: us) ↔ us.count u < l.perUid ∧ us.length < l.total := by
  constructor
  · intro hcons
    have hper := hcons.perUid u
    rw [List.count_cons_self] at hper
    exact ⟨hper, hcons.total⟩
  · rintro ⟨hper, htotal⟩
    refine ⟨?_, htotal⟩
    intro v
    by_cases hv : u = v
    · subst hv
      rw [List.count_cons_self]
      exact hper
    · rw [List.count_cons_of_ne hv]
      exact h.perUid v

end Limits

namespace Store

variable {s : Store} {a : Alarm}

def uids (s : Store) : List UInt32 := s.alarms.map Alarm.uid

theorem size_eq_length_uids (s : Store) : s.size = s.uids.length := by
  rw [size_eq, uids, List.length_map]

theorem countFor_eq_count_uids (s : Store) (u : UInt32) : s.countFor u = s.uids.count u := by
  rw [countFor, uids, List.count, List.countP_map]
  rfl

theorem uids_step (s : Store) (c : Command) :
    (s.step c).store.uids =
      (s.alarms.filter fun a => !a.removedBy c).map Alarm.uid
        ++ ((c.admitted? (s.step c).value).map Alarm.uid).toList := by
  rw [uids, alarms_step, List.map_append, List.map_map, Option.toList_map]
  simp only [Function.comp_def, Alarm.uid_pushed]

theorem refusal?_eq_none_iff :
    s.refusal? a = none ↔ s.countFor a.uid < s.limits.perUid ∧ s.size < s.limits.total := by
  rw [refusal?]
  split
  · simp_all
  · split <;> simp_all

theorem refusal?_eq_none_iff_allow (h : s.limits.Allow s.uids) :
    s.refusal? a = none ↔ s.limits.Allow (a.uid :: s.uids) := by
  rw [refusal?_eq_none_iff, Limits.allow_cons_iff h, size_eq_length_uids, countFor_eq_count_uids]

theorem uids_schedule (s : Store) (a : Alarm) :
    (s.step (.schedule a)).store.uids =
      if (s.refusal? a).isNone then s.uids ++ [a.uid] else s.uids := by
  have h : (s.step (.schedule a)).store.alarms = _ := alarms_schedule s a
  rw [uids, h]
  split
  · rw [List.map_append]
    rfl
  · rfl

theorem uids_step_sublist (s : Store) {c : Command} (hc : c.sought? = none) :
    (s.step c).store.uids.Sublist s.uids := by
  rw [uids_step, Command.admitted?_of_sought? hc, Option.map_none, Option.toList_none,
    List.append_nil]
  exact List.filter_sublist.map _

theorem allow_step (h : s.limits.Allow s.uids) (c : Command) :
    (s.step c).store.limits.Allow (s.step c).store.uids := by
  rw [limits_step]
  cases hc : c.sought? with
  | none => exact h.of_subperm (s.uids_step_sublist hc).subperm
  | some a =>
    obtain rfl := Command.eq_schedule_of_sought? hc
    rw [uids_schedule]
    split
    · rename_i hr
      have hcons := (refusal?_eq_none_iff_allow h).mp (Option.isNone_iff_eq_none.mp hr)
      exact hcons.of_subperm (List.perm_append_singleton _ _).subperm
    · exact h

theorem allow_after (h : s.limits.Allow s.uids) (cs : List Command) :
    (s.after cs).limits.Allow (s.after cs).uids := by
  induction cs generalizing s with
  | nil => exact h
  | cons c cs ih => exact ih (allow_step h c)

theorem value_schedule_eq_error_iff {r : Refusal} :
    (s.schedule a).value = .error r ↔ s.refusal? a = some r := by
  rw [value_schedule]
  cases s.refusal? a <;> simp

theorem store_schedule_of_refused {r : Refusal} (h : (s.schedule a).value = .error r) :
    (s.schedule a).store = s := by
  rw [value_schedule_eq_error_iff] at h
  rw [schedule, h]
  cases r <;> rfl

example :
    let bell (uid : UInt32) : Alarm :=
      .ofRequest (.exact ⟨.elapsed, true⟩ 10 (.callback ⟨1, 2, "clock", "bell"⟩) uid "clock")
    let s := ((ofLimits ⟨1, 1⟩).schedule (bell 1)).store
    s.refusal? (bell 1) = some .overLimit ∧ s.refusal? (bell 2) = some .full := by
  decide

end Store

end AlarmScheduler
