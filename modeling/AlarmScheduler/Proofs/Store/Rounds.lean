import AlarmScheduler.Store.Lemmas
import Mathlib.Data.Finset.Card
import Mathlib.Data.List.Perm.Basic

namespace AlarmScheduler

def Alarm.isRelevant (wakeupOnly : Bool) (a : Alarm) : Bool := !wakeupOnly || a.kind.wakes

structure Round where
  time : UInt64
  reply : Reply (List Alarm)

namespace Alarm

theorem floor_le_ceiling (a : Alarm) : a.floor ≤ a.ceiling := a.settled.floor_le_ceiling

theorem isDue_ceiling (a : Alarm) : a.isDue a.ceiling = true := decide_eq_true a.floor_le_ceiling

theorem lt_floor_of_not_isDue {a : Alarm} {now : UInt64} (h : (!a.isDue now) = true) :
    now < a.floor := by
  rw [Bool.not_eq_true', isDue, decide_eq_false_iff_not] at h
  exact UInt64.not_le.mp h

end Alarm

namespace Store

variable {s : Store} {b : Bool} {d : UInt64}

theorem mem_pending {a : Alarm} : a ∈ s.pending b ↔ a ∈ s.alarms ∧ a.isRelevant b = true :=
  List.mem_filter

theorem nextDeadline_eq_none_iff : s.nextDeadline b = none ↔ s.pending b = [] := by
  rw [nextDeadline, List.min?_eq_none_iff, List.map_eq_nil_iff]

theorem nextDeadline_eq_some_iff :
    s.nextDeadline b = some d ↔
      (∃ a ∈ s.pending b, a.ceiling = d) ∧ ∀ a ∈ s.pending b, d ≤ a.ceiling := by
  rw [nextDeadline, List.min?_eq_some_iff, List.mem_map, List.forall_mem_map]

theorem pending_takeDue (s : Store) (b : Bool) (now : UInt64) :
    (s.takeDue now).store.pending b = (s.pending b).filter fun a => !a.isDue now := by
  rw [pending, pending, alarms_takeDue, List.filter_filter, List.filter_filter]
  simp only [Bool.and_comm]

theorem length_pending_takeDue_lt (h : s.nextDeadline b = some d) :
    ((s.takeDue d).store.pending b).length < (s.pending b).length := by
  obtain ⟨⟨a, ha, rfl⟩, -⟩ := nextDeadline_eq_some_iff.mp h
  rw [pending_takeDue]
  apply List.length_filter_lt_length_iff_exists.mpr
  refine ⟨a, ha, ?_⟩
  rw [a.isDue_ceiling]
  exact Bool.false_ne_true

def rounds (s : Store) (b : Bool) : List Round :=
  match _ : s.nextDeadline b with
  | none => []
  | some d => ⟨d, s.takeDue d⟩ :: (s.takeDue d).store.rounds b
termination_by (s.pending b).length
decreasing_by exact length_pending_takeDue_lt ‹_›

def settled (s : Store) (b : Bool) : Store :=
  ((s.rounds b).map fun r => r.reply.store).getLastD s

theorem rounds_of_none (h : s.nextDeadline b = none) : s.rounds b = [] := by
  rw [rounds]
  split
  · rfl
  · rename_i hd
    rw [h] at hd
    cases hd

theorem rounds_of_some (h : s.nextDeadline b = some d) :
    s.rounds b = ⟨d, s.takeDue d⟩ :: (s.takeDue d).store.rounds b := by
  rw [rounds]
  split
  · rename_i hd
    rw [h] at hd
    cases hd
  · rename_i hd
    rw [h, Option.some.injEq] at hd
    rw [hd]

theorem settled_of_none (h : s.nextDeadline b = none) : s.settled b = s := by
  rw [settled, rounds_of_none h]
  rfl

theorem settled_of_some (h : s.nextDeadline b = some d) :
    s.settled b = (s.takeDue d).store.settled b := by
  rw [settled, rounds_of_some h, List.map_cons, List.getLastD_cons]
  rfl

-- each round leaves fewer relevant alarms, so it is enough to go back over one round
theorem rounds_induction {motive : Store → Prop} (b : Bool)
    (done : ∀ s, s.nextDeadline b = none → motive s)
    (round : ∀ s d, s.nextDeadline b = some d → motive (s.takeDue d).store → motive s)
    (s : Store) : motive s := by
  fun_induction rounds s b with
  | case1 s h => exact done s h
  | case2 s d h ih => exact round s d h ih

theorem takeDue_in_window (h : s.nextDeadline b = some d) {a : Alarm}
    (ha : a ∈ (s.takeDue d).value) (hb : a.isRelevant b = true) :
    a.floor ≤ d ∧ d ≤ a.ceiling := by
  obtain ⟨c, hc, hdue, rfl⟩ := mem_takeDue.mp ha
  have hleast := (nextDeadline_eq_some_iff.mp h).2 c (mem_pending.mpr ⟨hc, hb⟩)
  exact ⟨of_decide_eq_true hdue, hleast⟩

theorem takeDue_relevant (h : s.nextDeadline b = some d) :
    ∃ a ∈ (s.takeDue d).value, a.isRelevant b = true := by
  obtain ⟨⟨a, ha, rfl⟩, -⟩ := nextDeadline_eq_some_iff.mp h
  obtain ⟨hm, hb⟩ := mem_pending.mp ha
  exact ⟨a.delivered, mem_takeDue.mpr ⟨a, hm, a.isDue_ceiling, rfl⟩, hb⟩

theorem lt_floor_of_mem_takeDue {now : UInt64} {a : Alarm}
    (ha : a ∈ (s.takeDue now).store.alarms) : now < a.floor := by
  rw [alarms_takeDue] at ha
  exact Alarm.lt_floor_of_not_isDue (List.mem_filter.mp ha).2

theorem lt_nextDeadline_takeDue {now e : UInt64}
    (h : (s.takeDue now).store.nextDeadline b = some e) : now < e := by
  obtain ⟨⟨a, ha, rfl⟩, -⟩ := nextDeadline_eq_some_iff.mp h
  have hlt := lt_floor_of_mem_takeDue (mem_pending.mp ha).1
  exact UInt64.lt_of_lt_of_le hlt a.floor_le_ceiling

theorem length_rounds_le (s : Store) (b : Bool) : (s.rounds b).length ≤ (s.pending b).length := by
  induction s using rounds_induction b with
  | done s h =>
    rw [rounds_of_none h]
    exact Nat.zero_le _
  | round s d h ih =>
    have hlt := length_pending_takeDue_lt h
    rw [rounds_of_some h, List.length_cons]
    omega

theorem lt_time_of_mem_rounds {t : UInt64} (ht : ∀ a ∈ s.pending b, t < a.ceiling) {r : Round}
    (hr : r ∈ s.rounds b) : t < r.time := by
  induction s using rounds_induction b with
  | done s h =>
    rw [rounds_of_none h] at hr
    cases hr
  | round s d h ih =>
    rw [rounds_of_some h] at hr
    rcases List.mem_cons.mp hr with rfl | hr
    · obtain ⟨⟨a, ha, rfl⟩, -⟩ := nextDeadline_eq_some_iff.mp h
      exact ht a ha
    · refine ih ?_ hr
      intro a ha
      rw [pending_takeDue] at ha
      exact ht a (List.mem_filter.mp ha).1

theorem rounds_pairwise_lt (s : Store) (b : Bool) :
    (s.rounds b).Pairwise fun q r => q.time < r.time := by
  induction s using rounds_induction b with
  | done s h =>
    rw [rounds_of_none h]
    exact .nil
  | round s d h ih =>
    rw [rounds_of_some h]
    refine .cons ?_ ih
    intro r hr
    refine lt_time_of_mem_rounds ?_ hr
    intro a ha
    have hlt := lt_floor_of_mem_takeDue (mem_pending.mp ha).1
    exact UInt64.lt_of_lt_of_le hlt a.floor_le_ceiling

theorem nextDeadline_settled (s : Store) (b : Bool) : (s.settled b).nextDeadline b = none := by
  induction s using rounds_induction b with
  | done s h => rwa [settled_of_none h]
  | round s d h ih => rwa [settled_of_some h]

theorem mem_rounds_in_window {r : Round} (hr : r ∈ s.rounds b) {a : Alarm}
    (ha : a ∈ r.reply.value) (hb : a.isRelevant b = true) :
    a.floor ≤ r.time ∧ r.time ≤ a.ceiling := by
  induction s using rounds_induction b with
  | done s h =>
    rw [rounds_of_none h] at hr
    cases hr
  | round s d h ih =>
    rw [rounds_of_some h] at hr
    rcases List.mem_cons.mp hr with rfl | hr
    · exact takeDue_in_window h ha hb
    · exact ih hr

theorem takeDue_filter_perm (s : Store) (b : Bool) (now : UInt64) :
    ((s.takeDue now).value.filter fun a => a.isRelevant b).Perm
      (((s.pending b).filter fun a => a.isDue now).map Alarm.delivered) := by
  have hperm := (s.takeDue_perm now).filter fun a => a.isRelevant b
  have hswap : ((s.removed fun a => a.isDue now).filter fun a => a.isRelevant b) =
      (s.pending b).filter fun a => a.isDue now := by
    rw [removed, pending, List.filter_filter, List.filter_filter]
    simp only [Bool.and_comm, Alarm.isRelevant]
  rw [List.filter_map] at hperm
  rw [← hswap]
  exact hperm

theorem rounds_perm (s : Store) (b : Bool) :
    ((s.rounds b).flatMap fun r => r.reply.value.filter fun a => a.isRelevant b).Perm
      ((s.pending b).map Alarm.delivered) := by
  induction s using rounds_induction b with
  | done s h =>
    rw [rounds_of_none h, nextDeadline_eq_none_iff.mp h]
    exact .nil
  | round s d h ih =>
    rw [pending_takeDue] at ih
    rw [rounds_of_some h, List.flatMap_cons]
    refine ((takeDue_filter_perm s b d).append ih).trans ?_
    rw [← List.map_append]
    exact (List.filter_append_perm (fun a : Alarm => a.isDue d) (s.pending b)).map _

theorem deadline_rounds (s : Store) (b : Bool) :
    (∀ d, s.nextDeadline b = some d →
      (∃ a ∈ (s.takeDue d).value, a.isRelevant b = true) ∧
        (∀ a ∈ (s.takeDue d).value, a.isRelevant b = true → a.floor ≤ d ∧ d ≤ a.ceiling) ∧
        (∀ a ∈ (s.takeDue d).store.alarms, d < a.floor) ∧
        ∀ e, (s.takeDue d).store.nextDeadline b = some e → d < e) ∧
      (s.rounds b).length ≤ (s.alarms.filter fun a => a.isRelevant b).length ∧
      (s.rounds b).Pairwise (fun q r => q.time < r.time) ∧
      (s.settled b).nextDeadline b = none ∧
      ((s.rounds b).flatMap fun r => r.reply.value.filter fun a => a.isRelevant b).Perm
        ((s.alarms.filter fun a => a.isRelevant b).map Alarm.delivered) ∧
      (∀ r ∈ s.rounds b, ∀ a ∈ r.reply.value, a.isRelevant b = true →
        a.floor ≤ r.time ∧ r.time ≤ a.ceiling) ∧
      (b = false → (s.settled b).entries = []) := by
  refine ⟨?_, length_rounds_le s b, rounds_pairwise_lt s b, nextDeadline_settled s b,
    rounds_perm s b, ?_, ?_⟩
  · intro d h
    refine ⟨takeDue_relevant h, ?_, ?_, ?_⟩
    · intro a ha hb
      exact takeDue_in_window h ha hb
    · intro a ha
      exact lt_floor_of_mem_takeDue ha
    · intro e he
      exact lt_nextDeadline_takeDue he
  · intro r hr a ha hb
    exact mem_rounds_in_window hr ha hb
  · rintro rfl
    have hnone := nextDeadline_eq_none_iff.mp (nextDeadline_settled s false)
    have hall : (s.settled false).pending false = (s.settled false).alarms :=
      List.filter_eq_self.mpr fun _ _ => rfl
    rw [hall] at hnone
    exact List.map_eq_nil_iff.mp hnone

theorem rounds_minimal (s : Store) (b : Bool) (T : Finset UInt64)
    (hT : ∀ a ∈ s.alarms, a.isRelevant b = true → ∃ t ∈ T, a.floor ≤ t ∧ t ≤ a.ceiling) :
    (s.rounds b).length ≤ T.card := by
  induction s using rounds_induction b generalizing T with
  | done s h =>
    rw [rounds_of_none h]
    exact Nat.zero_le _
  | round s d h ih =>
    -- what is left after the round opens after `d`, so only the later times can meet it, and the
    -- alarm whose ceiling is `d` needs one that is not later
    have hrest : ((s.takeDue d).store.rounds b).length ≤ (T.filter fun t => d < t).card := by
      apply ih
      intro a ha hb
      have hlt := lt_floor_of_mem_takeDue ha
      rw [alarms_takeDue] at ha
      obtain ⟨t, ht, hfloor, hceiling⟩ := hT a (List.mem_filter.mp ha).1 hb
      have hdt := UInt64.lt_of_lt_of_le hlt hfloor
      exact ⟨t, Finset.mem_filter.mpr ⟨ht, hdt⟩, hfloor, hceiling⟩
    have hfewer : (T.filter fun t => d < t).card < T.card := by
      obtain ⟨⟨a, ha, rfl⟩, -⟩ := nextDeadline_eq_some_iff.mp h
      obtain ⟨hm, hb⟩ := mem_pending.mp ha
      obtain ⟨t, ht, -, hceiling⟩ := hT a hm hb
      apply Finset.card_lt_card
      refine Finset.filter_ssubset.mpr ⟨t, ht, ?_⟩
      exact UInt64.not_lt.mpr hceiling
    rw [rounds_of_some h, List.length_cons]
    omega

def overlapping : Store where
  limits := Limits.standard
  entries :=
    let waking (handle elapsed length : UInt64) : Alarm :=
      .ofRequest { Request.exact ⟨.elapsed, true⟩ elapsed (.listener ⟨handle⟩ "tick") 1 "clock" with
        windowLength := length }
    [⟨⟨1⟩, waking 1 10 10⟩, ⟨⟨2⟩, waking 2 15 15⟩, ⟨⟨3⟩, waking 3 40 0⟩]
  nextId := 4

theorem rounds_minimal_overlapping :
    (∀ a ∈ overlapping.alarms, a.isRelevant true = true →
        ∃ t ∈ ({18, 40} : Finset UInt64), a.floor ≤ t ∧ t ≤ a.ceiling) ∧
      (overlapping.rounds true).length ≤ ({18, 40} : Finset UInt64).card := by
  have hmeet : ∀ a ∈ overlapping.alarms, a.isRelevant true = true →
      ∃ t ∈ ({18, 40} : Finset UInt64), a.floor ≤ t ∧ t ≤ a.ceiling := by decide
  exact ⟨hmeet, rounds_minimal overlapping true {18, 40} hmeet⟩

end Store

end AlarmScheduler
