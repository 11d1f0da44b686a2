import AlarmScheduler.Proofs.Store.Step
import Mathlib.Data.List.Induction

namespace AlarmScheduler

def Alarm.heldBack (a : Alarm) (cs : List Command) : Alarm :=
  match (cs.filterMap (Command.push? a.sourcePackage)).getLast? with
  | some earliest => a.withStandby earliest
  | none => a

def Alarm.removal? (a : Alarm) (cs : List Command) : Option Nat :=
  (List.range cs.length).find? fun n => cs[n]?.any (a.heldBack (cs.take n)).removedBy

structure Admission where
  index : Nat
  alarm : Alarm

namespace Admission

def ofEntry? (e : (Command × Reply Outcome) × Nat) : Option Admission :=
  (e.1.1.admitted? e.1.2.value).map (Admission.mk e.2)

def before (p : Admission) (cs : List Command) (n : Nat) : Alarm :=
  p.alarm.heldBack ((cs.take n).drop (p.index + 1))

def removal? (p : Admission) (cs : List Command) : Option Nat :=
  (p.alarm.removal? (cs.drop (p.index + 1))).map fun n => p.index + 1 + n

end Admission

def Store.admissionsFrom (s : Store) (k : Nat) (cs : List Command) : List Admission :=
  ((s.journal cs).zipIdx k).filterMap Admission.ofEntry?

def Store.admissions (s : Store) (cs : List Command) : List Admission := s.admissionsFrom 0 cs

namespace Alarm

theorem sourcePackage_heldBack (a : Alarm) (cs : List Command) :
    (a.heldBack cs).sourcePackage = a.sourcePackage := by
  rw [heldBack]
  split <;> rfl

theorem heldBack_nil (a : Alarm) : a.heldBack [] = a := rfl

theorem heldBack_append (a : Alarm) (cs ds : List Command) :
    a.heldBack (cs ++ ds) = (a.heldBack cs).heldBack ds := by
  have hp := a.sourcePackage_heldBack cs
  simp only [heldBack] at hp ⊢
  rw [hp, List.filterMap_append, List.getLast?_append]
  cases (ds.filterMap (Command.push? a.sourcePackage)).getLast? with
  | none => rfl
  | some t =>
    cases (cs.filterMap (Command.push? a.sourcePackage)).getLast? with
    | none => rfl
    | some u => rfl

theorem heldBack_singleton (a : Alarm) (c : Command) : a.heldBack [c] = a.pushed c := by
  cases h : c.push? a.sourcePackage <;> simp [heldBack, pushed, h]

theorem removal?_append (a : Alarm) (cs ds : List Command) :
    a.removal? (cs ++ ds) =
      (a.removal? cs).or (((a.heldBack cs).removal? ds).map fun n => cs.length + n) := by
  simp only [removal?]
  rw [List.length_append, List.range_add, List.find?_append, List.find?_map]
  congr 1
  · apply find?_congr_of_mem
    intro n hn
    have hlt := List.mem_range.mp hn
    rw [List.getElem?_append_left hlt, List.take_append_of_le_length (Nat.le_of_lt hlt)]
  · congr 1
    apply find?_congr_of_mem
    intro n hn
    simp only [Function.comp_apply]
    rw [List.getElem?_append_right (Nat.le_add_right _ _), Nat.add_sub_cancel_left,
      List.take_length_add_append, heldBack_append]

theorem removal?_singleton (a : Alarm) (c : Command) :
    a.removal? [c] = if a.removedBy c then some 0 else none := by
  simp [removal?, List.range_succ, heldBack_nil]

end Alarm

namespace Admission

theorem before_append_left (p : Admission) (cs ds : List Command) {n : Nat} (hn : n ≤ cs.length) :
    p.before (cs ++ ds) n = p.before cs n := by
  rw [before, before, List.take_append_of_le_length hn]

theorem before_length (p : Admission) (cs : List Command) :
    p.before cs cs.length = p.alarm.heldBack (cs.drop (p.index + 1)) := by
  rw [before, List.take_length]

theorem before_concat (p : Admission) (cs : List Command) (c : Command) (hp : p.index < cs.length) :
    p.before (cs ++ [c]) (cs.length + 1) = (p.before cs cs.length).pushed c := by
  have hl : (cs ++ [c]).length = cs.length + 1 := List.length_append
  rw [← hl, before_length, before_length, List.drop_append_of_le_length hp,
    Alarm.heldBack_append, Alarm.heldBack_singleton]

theorem removal?_append (p : Admission) (cs ds : List Command) (hp : p.index < cs.length) :
    p.removal? (cs ++ ds) =
      (p.removal? cs).or
        (((p.before cs cs.length).removal? ds).map fun n => cs.length + n) := by
  have hd : p.index + 1 ≤ cs.length := hp
  have hl : p.index + 1 + (cs.drop (p.index + 1)).length = cs.length := by
    rw [List.length_drop]
    omega
  rw [removal?, removal?, List.drop_append_of_le_length hd, Alarm.removal?_append, before_length,
    Option.map_or, Option.map_map]
  congr 2
  funext n
  simp only [Function.comp_apply]
  omega

theorem removal?_concat (p : Admission) (cs : List Command) (c : Command)
    (hp : p.index < cs.length) :
    p.removal? (cs ++ [c]) =
      (p.removal? cs).or
        (if (p.before cs cs.length).removedBy c then some cs.length else none) := by
  rw [removal?_append p cs [c] hp, Alarm.removal?_singleton]
  congr 1
  split <;> rfl

theorem removal?_lt {p : Admission} {cs : List Command} {n : Nat} (h : p.removal? cs = some n) :
    p.index < n ∧ n < cs.length := by
  obtain ⟨k, hk, rfl⟩ := Option.map_eq_some_iff.mp h
  have hm := List.mem_range.mp (List.mem_of_find?_eq_some hk)
  rw [List.length_drop] at hm
  omega

theorem removal?_eq_length_iff (p : Admission) (cs ds : List Command) (c : Command)
    (hp : p.index < cs.length) :
    p.removal? (cs ++ c :: ds) = some cs.length ↔
      p.removal? cs = none ∧ (p.before cs cs.length).removedBy c = true := by
  have hl : (cs ++ [c]).length = cs.length + 1 := List.length_append
  rw [List.append_cons, removal?_append p (cs ++ [c]) ds (by omega), removal?_concat p cs c hp, hl]
  cases hr : p.removal? cs with
  | some m =>
    have hm := (removal?_lt hr).2
    simp only [Option.some_or, Option.some.injEq, reduceCtorEq, false_and, iff_false]
    omega
  | none =>
    cases (p.before cs cs.length).removedBy c with
    | true => simp
    | false =>
      simp only [Bool.false_eq_true, if_false, Option.or_none, Option.none_or, and_false, iff_false]
      intro h
      obtain ⟨k, _, hk⟩ := Option.map_eq_some_iff.mp h
      omega

end Admission

namespace Store

theorem admissionsFrom_append (s : Store) (k : Nat) (cs ds : List Command) :
    s.admissionsFrom k (cs ++ ds) =
      s.admissionsFrom k cs ++ (s.after cs).admissionsFrom (k + cs.length) ds := by
  rw [admissionsFrom, journal_append, List.zipIdx_append, List.filterMap_append, length_journal]
  rfl

theorem index_of_mem_admissionsFrom {s : Store} {k : Nat} {cs : List Command} {p : Admission}
    (h : p ∈ s.admissionsFrom k cs) : k ≤ p.index ∧ p.index < k + cs.length := by
  obtain ⟨⟨e, n⟩, hm, he⟩ := List.mem_filterMap.mp h
  obtain ⟨a, _, rfl⟩ := Option.map_eq_some_iff.mp he
  obtain ⟨hk, hn, _⟩ := List.mem_zipIdx hm
  rw [length_journal] at hn
  exact ⟨hk, hn⟩

theorem index_lt_of_mem_admissions {s : Store} {cs : List Command} {p : Admission}
    (h : p ∈ s.admissions cs) : p.index < cs.length := by
  have hi := (index_of_mem_admissionsFrom h).2
  rwa [Nat.zero_add] at hi

theorem admissions_concat (s : Store) (cs : List Command) (c : Command) :
    s.admissions (cs ++ [c]) =
      s.admissions cs
        ++ ((c.admitted? ((s.after cs).step c).value).map (Admission.mk cs.length)).toList := by
  have hc : (s.after cs).admissionsFrom cs.length [c] =
      ((c.admitted? ((s.after cs).step c).value).map (Admission.mk cs.length)).toList := by
    change [((c, (s.after cs).step c), cs.length)].filterMap Admission.ofEntry? = _
    cases h : c.admitted? ((s.after cs).step c).value <;> simp [Admission.ofEntry?, h]
  rw [← hc, admissions, admissionsFrom_append, Nat.zero_add]
  rfl

def kept (s : Store) (cs : List Command) : List Alarm :=
  ((s.admissions cs).filter fun p => p.removal? cs == none).map fun p => p.before cs cs.length

def lostAt (s : Store) (cs : List Command) (n : Nat) : List Alarm :=
  ((s.admissions cs).filter fun p => p.removal? cs == some n).map fun p => p.before cs n

theorem kept_concat (s : Store) (cs : List Command) (c : Command) :
    s.kept (cs ++ [c]) =
      ((s.kept cs).filter fun a => !a.removedBy c).map (fun a => a.pushed c)
        ++ (c.admitted? ((s.after cs).step c).value).toList := by
  rw [kept, kept, admissions_concat, List.filter_append, List.map_append, List.filter_map,
    List.map_map, List.filter_filter]
  congr 1
  · have hf : ∀ p ∈ s.admissions cs, (p.removal? (cs ++ [c]) == none) =
        (((fun a : Alarm => !a.removedBy c) ∘ fun p => p.before cs cs.length) p
          && p.removal? cs == none) := by
      intro p hp
      rw [p.removal?_concat cs c (index_lt_of_mem_admissions hp)]
      cases p.removal? cs <;> cases h : (p.before cs cs.length).removedBy c <;> simp [h]
    rw [List.filter_congr hf]
    apply List.map_congr_left
    intro p hp
    rw [List.length_append]
    exact p.before_concat cs c (index_lt_of_mem_admissions (List.mem_filter.mp hp).1)
  · cases c.admitted? ((s.after cs).step c).value with
    | none => rfl
    | some a =>
      have hd : (cs ++ [c]).drop (cs.length + 1) = [] := List.drop_of_length_le (by simp)
      have hr : (Admission.mk cs.length a).removal? (cs ++ [c]) = none := by
        simp [Admission.removal?, hd, Alarm.removal?]
      have hb : (Admission.mk cs.length a).before (cs ++ [c]) (cs ++ [c]).length = a := by
        rw [Admission.before_length, hd, Alarm.heldBack_nil]
      rw [Option.map_some, Option.toList_some, Option.toList_some, List.filter_cons_of_pos,
        List.filter_nil, List.map_cons, List.map_nil, hb]
      rw [hr]
      rfl

theorem alarms_eq_kept (l : Limits) (cs : List Command) :
    ((ofLimits l).after cs).alarms = (ofLimits l).kept cs := by
  induction cs using List.reverseRecOn with
  | nil => rfl
  | append_singleton cs c ih =>
    rw [kept_concat, ← ih, after_append]
    exact alarms_step _ c

theorem lostAt_append (s : Store) (cs ds : List Command) (c : Command) :
    s.lostAt (cs ++ c :: ds) cs.length = (s.kept cs).filter fun a => a.removedBy c := by
  have hold : ∀ p ∈ s.admissions cs, (p.removal? (cs ++ c :: ds) == some cs.length) =
      (((fun a : Alarm => a.removedBy c) ∘ fun p => p.before cs cs.length) p
        && p.removal? cs == none) := by
    intro p hp
    rw [Bool.eq_iff_iff, beq_iff_eq, Bool.and_eq_true, beq_iff_eq,
      p.removal?_eq_length_iff cs ds c (index_lt_of_mem_admissions hp)]
    exact And.comm
  -- an alarm that is let in by `c` or later cannot leave before it came
  have hnew : ∀ p ∈ (s.after cs).admissionsFrom (0 + cs.length) (c :: ds),
      ¬(p.removal? (cs ++ c :: ds) == some cs.length) = true := by
    intro p hp h
    have hi := (index_of_mem_admissionsFrom hp).1
    have hr := (Admission.removal?_lt (beq_iff_eq.mp h)).1
    omega
  have hsplit : s.admissions (cs ++ c :: ds) =
      s.admissions cs ++ (s.after cs).admissionsFrom (0 + cs.length) (c :: ds) :=
    s.admissionsFrom_append 0 cs (c :: ds)
  rw [lostAt, kept, hsplit, List.filter_append, List.filter_eq_nil_iff.mpr hnew, List.append_nil,
    List.filter_map, List.filter_filter, List.filter_congr hold]
  apply List.map_congr_left
  intro p _
  exact p.before_append_left cs (c :: ds) (Nat.le_refl _)

theorem history_exact (l : Limits) (cs : List Command) :
    ((ofLimits l).after cs).alarms = (ofLimits l).kept cs ∧
      (∀ (n : Nat) (c : Command) (r : Reply Outcome),
        ((ofLimits l).journal cs)[n]? = some (c, r) →
          c.HandsOut ((ofLimits l).lostAt cs n) r.value.alarms) ∧
      ∀ a ∈ ((ofLimits l).after cs).alarms,
        a.floor.toNat = max a.window.requester.toNat a.window.standby.toNat ∧
          a.ceiling.toNat =
            max (min (a.window.requester.toNat + a.window.length.toNat) (UInt64.size - 1))
              a.floor.toNat := by
  refine ⟨alarms_eq_kept l cs, ?_, ?_⟩
  · intro n c r h
    obtain ⟨hs, hn, rfl⟩ := split_of_journal h
    have hl : (cs.take n).length = n := List.length_take_of_le (Nat.le_of_lt hn)
    have hlost := lostAt_append (ofLimits l) (cs.take n) (cs.drop (n + 1)) c
    rw [← hs, hl] at hlost
    rw [hlost, ← alarms_eq_kept, handOut_step]
    exact c.handsOut_handOut _
  · intro a _
    refine ⟨a.settled.toNat_floor, ?_⟩
    rw [Nat.max_comm]
    exact a.settled.toNat_ceiling_eq

end Store

end AlarmScheduler
