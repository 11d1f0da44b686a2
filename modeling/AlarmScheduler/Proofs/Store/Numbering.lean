import AlarmScheduler.Proofs.Store.History
import Mathlib.Data.List.Nodup

namespace AlarmScheduler

namespace AlarmId

def count : Nat := 4294967295

theorem firstFree_of_not_mem {used : List UInt32} {n : UInt32} (h : n ∉ used) :
    firstFree used n = n := by
  rw [firstFree, dif_neg h]

theorem toNat_after {n : UInt32} (h : n.toNat < count) : (after n).toNat = n.toNat + 1 := by
  have hc : count = 4294967295 := rfl
  have hone : (1 : UInt32).toNat = 1 := rfl
  have hsucc : (n + 1).toNat = n.toNat + 1 := by
    rw [UInt32.toNat_add, hone]
    omega
  have hne : n + 1 ≠ 0 := by
    intro hz
    rw [hz] at hsucc
    have hzero : (0 : UInt32).toNat = 0 := rfl
    omega
  rw [after, if_neg hne, hsucc]

end AlarmId

namespace Store

structure Numbered (s : Store) (k : Nat) : Prop where
  next : k < AlarmId.count → s.nextId.toNat = k + 1
  ids_le : ∀ id ∈ s.ids, id.val.toNat ≤ k
  rising : s.ids.Pairwise fun i j => i.val.toNat < j.val.toNat

theorem numbered_ofLimits (l : Limits) : (ofLimits l).Numbered 0 where
  next _ := rfl
  ids_le _ h := by cases h
  rising := .nil

theorem ids_step (s : Store) (c : Command) :
    ∃ kept, kept.Sublist s.ids ∧
      (s.step c).store.ids = kept ++ ((c.newcomer? (s.step c).value).map Entry.id).toList := by
  refine ⟨(s.entries.filter fun e => !e.alarm.removedBy c).map Entry.id,
    List.filter_sublist.map _, ?_⟩
  rw [ids, entries_step, List.map_append, List.map_map, Option.toList_map]
  rfl

theorem eq_of_id_eq {s : Store} (hnodup : s.ids.Nodup) {e f : Entry} (he : e ∈ s.entries)
    (hf : f ∈ s.entries) (hid : e.id = f.id) : e = f :=
  List.inj_on_of_nodup_map hnodup he hf hid

theorem newcomer?_id {s : Store} {c : Command} {e : Entry}
    (h : c.newcomer? (s.step c).value = some e) : e.id = s.freshId := by
  cases c with
  | schedule a =>
    rw [value_step_schedule] at h
    cases hr : s.refusal? a with
    | none =>
      rw [hr] at h
      obtain rfl : ⟨s.freshId, a⟩ = e := Option.some.inj h
      rfl
    | some r =>
      rw [hr] at h
      cases h
  | _ => cases h

namespace Numbered

variable {s : Store} {k : Nat}

theorem freshId (h : s.Numbered k) (hk : k < AlarmId.count) : s.freshId.val = s.nextId := by
  rw [freshId_val]
  apply AlarmId.firstFree_of_not_mem
  intro hm
  obtain ⟨i, hi, hid⟩ := List.mem_map.mp hm
  have hle := h.ids_le i hi
  rw [hid, h.next hk] at hle
  omega

theorem nodup (h : s.Numbered k) : s.ids.Nodup := by
  refine h.rising.imp ?_
  rintro i j hlt rfl
  exact Nat.lt_irrefl _ hlt

theorem freshId_not_mem (h : s.Numbered k) (hk : k < AlarmId.count) : s.freshId ∉ s.ids := by
  intro hm
  have hle := h.ids_le _ hm
  rw [h.freshId hk, h.next hk] at hle
  omega

theorem newcomer (h : s.Numbered k) (hk : k < AlarmId.count) {c : Command} {e : Entry}
    (hc : c.newcomer? (s.step c).value = some e) : e.id.val.toNat = k + 1 := by
  rw [newcomer?_id hc, h.freshId hk, h.next hk]

theorem step_of_none (h : s.Numbered k) {c : Command}
    (hc : c.newcomer? (s.step c).value = none) : (s.step c).store.Numbered k := by
  obtain ⟨kept, hsub, hids⟩ := s.ids_step c
  rw [hc, Option.map_none, Option.toList_none, List.append_nil] at hids
  constructor
  · intro hk
    rw [nextId_step, hc]
    exact h.next hk
  · rw [hids]
    intro i hi
    exact h.ids_le i (hsub.subset hi)
  · rw [hids]
    exact h.rising.sublist hsub

theorem step_of_some (h : s.Numbered k) (hk : k < AlarmId.count) {c : Command} {e : Entry}
    (hc : c.newcomer? (s.step c).value = some e) : (s.step c).store.Numbered (k + 1) := by
  obtain ⟨kept, hsub, hids⟩ := s.ids_step c
  rw [hc, Option.map_some, Option.toList_some] at hids
  have hid : e.id.val.toNat = k + 1 := h.newcomer hk hc
  have hkept : ∀ i ∈ kept, i.val.toNat ≤ k := fun i hi => h.ids_le i (hsub.subset hi)
  constructor
  · intro hk'
    have hlt : e.id.val.toNat < AlarmId.count := by omega
    rw [nextId_step, hc, Option.elim_some, AlarmId.toNat_after hlt, hid]
  · rw [hids]
    intro i hi
    rcases List.mem_append.mp hi with hi | hi
    · exact Nat.le_succ_of_le (hkept i hi)
    · exact Nat.le_of_eq (List.mem_singleton.mp hi ▸ hid)
  · rw [hids, List.pairwise_append]
    refine ⟨h.rising.sublist hsub, List.pairwise_singleton _ _, ?_⟩
    intro i hi j hj
    rw [List.mem_singleton.mp hj, hid]
    exact Nat.lt_succ_of_le (hkept i hi)

end Numbered

theorem length_admissions_concat (s : Store) (cs : List Command) (c : Command) :
    (s.admissions (cs ++ [c])).length =
      (s.admissions cs).length
        + (c.newcomer? ((s.after cs).step c).value).toList.length := by
  rw [admissions_concat, ← Command.map_alarm_newcomer?, List.length_append]
  cases c.newcomer? ((s.after cs).step c).value <;> rfl

theorem numbered_after (l : Limits) (cs : List Command)
    (h : ((ofLimits l).admissions cs).length ≤ AlarmId.count) :
    ((ofLimits l).after cs).Numbered ((ofLimits l).admissions cs).length := by
  induction cs using List.reverseRecOn with
  | nil => exact numbered_ofLimits l
  | append_singleton cs c ih =>
    rw [length_admissions_concat] at h ⊢
    have hcs := ih (by omega)
    rw [after_append]
    cases hc : c.newcomer? (((ofLimits l).after cs).step c).value with
    | none => exact hcs.step_of_none hc
    | some e =>
      rw [hc] at h
      exact hcs.step_of_some h hc

-- over runs that do not use up the ids: while alarms are let in, there is a next id
theorem numbered_induction (l : Limits)
    {motive : (cs : List Command) → ((ofLimits l).admissions cs).length ≤ AlarmId.count → Prop}
    (nil : motive [] (Nat.zero_le _))
    (concat : ∀ cs c h hcs, ((ofLimits l).after cs).Numbered ((ofLimits l).admissions cs).length →
      (∀ e, c.newcomer? (((ofLimits l).after cs).step c).value = some e →
        ((ofLimits l).admissions cs).length < AlarmId.count) →
      motive cs hcs → motive (cs ++ [c]) h)
    (cs : List Command) (h : ((ofLimits l).admissions cs).length ≤ AlarmId.count) :
    motive cs h := by
  induction cs using List.reverseRecOn with
  | nil => exact nil
  | append_singleton cs c ih =>
    have hlength := length_admissions_concat (ofLimits l) cs c
    have hcs : ((ofLimits l).admissions cs).length ≤ AlarmId.count := by omega
    refine concat cs c h hcs (numbered_after l cs hcs) ?_ (ih hcs)
    intro e he
    rw [he, Option.toList_some, List.length_singleton] at hlength
    omega

end Store

end AlarmScheduler
