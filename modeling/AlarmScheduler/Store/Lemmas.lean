import AlarmScheduler.Store.Command
import AlarmScheduler.Window.Lemmas

namespace AlarmScheduler

namespace Alarm

theorem eq_of_record {a b : Alarm} (h : a.toRecord = b.toRecord) : a = b := by
  rwa [← mk.injEq] at h

theorem isDue_iff (a : Alarm) (now : UInt64) :
    a.isDue now = true ↔ a.window.requester ≤ now ∧ a.window.standby ≤ now := by
  rw [isDue, decide_eq_true_eq]
  exact a.settled.floor_le_iff now

def deliveredTimes (n : Nat) (a : Alarm) : Alarm :=
  { a with deliveries := UInt32.ofNat (min (a.deliveries.toNat + n) (UInt32.size - 1)) }

theorem toNat_deliveries_delivered (a : Alarm) :
    a.delivered.deliveries.toNat = min (a.deliveries.toNat + 1) (UInt32.size - 1) := by
  have hlt := a.deliveries.toNat_lt
  have hsize : UInt32.size = 4294967296 := rfl
  by_cases hlast : a.deliveries = 4294967295
  · have hfull : a.delivered.deliveries = a.deliveries := if_pos hlast
    have htop : a.deliveries.toNat = 4294967295 := congrArg UInt32.toNat hlast
    rw [hfull]
    omega
  · have hmore : a.delivered.deliveries = a.deliveries + 1 := if_neg hlast
    have hone : (1 : UInt32).toNat = 1 := rfl
    have hne : a.deliveries.toNat ≠ 4294967295 := fun h => hlast (UInt32.toNat_inj.mp h)
    rw [hmore, UInt32.toNat_add, hone]
    omega

theorem toNat_deliveries_deliveredTimes (n : Nat) (a : Alarm) :
    (a.deliveredTimes n).deliveries.toNat = min (a.deliveries.toNat + n) (UInt32.size - 1) := by
  have hsize : UInt32.size = 4294967296 := rfl
  apply UInt32.toNat_ofNat_of_lt'
  omega

theorem eq_of_deliveries {a b : Alarm} (hrest : { a with deliveries := b.deliveries } = b)
    (h : a.deliveries.toNat = b.deliveries.toNat) : a = b := by
  rw [← hrest, ← UInt32.toNat_inj.mp h]

theorem delivered_deliveredTimes (n : Nat) (a : Alarm) :
    (a.deliveredTimes n).delivered = a.deliveredTimes (n + 1) := by
  apply eq_of_deliveries rfl
  rw [toNat_deliveries_delivered, toNat_deliveries_deliveredTimes, toNat_deliveries_deliveredTimes]
  omega

theorem deliveredTimes_one (a : Alarm) : a.deliveredTimes 1 = a.delivered := by
  apply eq_of_deliveries rfl
  rw [toNat_deliveries_delivered, toNat_deliveries_deliveredTimes]

end Alarm

theorem alarm_push (package : String) (earliest : UInt64) (e : Entry) :
    (e.push package earliest).alarm =
      if e.alarm.isFrom package then e.alarm.set .standby earliest else e.alarm := by
  unfold Entry.push
  split <;> rfl

theorem sortedByFloor_perm (as : List Alarm) : (sortedByFloor as).Perm as :=
  List.mergeSort_perm as _

theorem floor_order_trans (a b c : Alarm) (hab : decide (a.floor ≤ b.floor) = true)
    (hbc : decide (b.floor ≤ c.floor) = true) : decide (a.floor ≤ c.floor) = true := by
  simp only [decide_eq_true_eq] at hab hbc ⊢
  exact UInt64.le_trans hab hbc

theorem floor_order_total (a b : Alarm) :
    (decide (a.floor ≤ b.floor) || decide (b.floor ≤ a.floor)) = true := by
  simp only [Bool.or_eq_true, decide_eq_true_eq]
  exact UInt64.le_total a.floor b.floor

theorem sortedByFloor_pairwise (as : List Alarm) :
    (sortedByFloor as).Pairwise fun a b => a.floor ≤ b.floor := by
  have h := List.pairwise_mergeSort floor_order_trans floor_order_total as
  exact h.imp fun hab => of_decide_eq_true hab

theorem sortedByFloor_of_pairwise {as : List Alarm}
    (h : as.Pairwise fun a b => a.floor ≤ b.floor) : sortedByFloor as = as :=
  List.mergeSort_of_pairwise (h.imp fun hab => decide_eq_true hab)

theorem filter_floor_sortedByFloor (as : List Alarm) (t : UInt64) :
    ((sortedByFloor as).filter fun a => a.floor == t) = as.filter fun a => a.floor == t := by
  induction as with
  | nil => simp [sortedByFloor]
  | cons a as ih =>
    obtain ⟨xs, ys, hcons, hrest, hbefore⟩ :=
      List.mergeSort_cons floor_order_trans floor_order_total a as
    change sortedByFloor (a :: as) = xs ++ a :: ys at hcons
    change sortedByFloor as = xs ++ ys at hrest
    rw [hrest, List.filter_append] at ih
    rw [hcons, List.filter_append]
    by_cases ht : a.floor = t
    · have hxs : (xs.filter fun b => b.floor == t) = [] := by
        apply List.filter_eq_nil_iff.mpr
        intro b hb hbt
        have hlt := hbefore b hb
        rw [beq_iff_eq] at hbt
        rw [ht, hbt] at hlt
        simp at hlt
      rw [hxs, List.nil_append] at ih
      simp [hxs, ht, ih]
    · simp [ht, ih]

theorem floor_le_of_mem_cons {a b : Alarm} {bs : List Alarm}
    (hs : (b :: bs).Pairwise fun x y => x.floor ≤ y.floor) (h : a ∈ b :: bs) :
    b.floor ≤ a.floor := by
  rcases List.mem_cons.mp h with rfl | h
  · exact UInt64.le_refl _
  · exact List.rel_of_pairwise_cons hs h

theorem mem_iff_of_floor_classes {as bs : List Alarm}
    (h : ∀ t, (as.filter fun a => a.floor == t) = bs.filter fun a => a.floor == t) (a : Alarm) :
    a ∈ as ↔ a ∈ bs := by
  have ht := congrArg (fun xs => a ∈ xs) (h a.floor)
  simpa only [List.mem_filter, beq_self_eq_true, and_true, eq_iff_iff] using ht

theorem eq_of_floor_classes {as bs : List Alarm}
    (ha : as.Pairwise fun x y => x.floor ≤ y.floor) (hb : bs.Pairwise fun x y => x.floor ≤ y.floor)
    (h : ∀ t, (as.filter fun a => a.floor == t) = bs.filter fun a => a.floor == t) : as = bs := by
  induction as generalizing bs with
  | nil =>
    refine (List.eq_nil_iff_forall_not_mem.mpr ?_).symm
    intro b hbm
    exact List.not_mem_nil ((mem_iff_of_floor_classes h b).mpr hbm)
  | cons a as ih =>
    have hmem := mem_iff_of_floor_classes h
    cases bs with
    | nil => exact absurd ((hmem a).mp List.mem_cons_self) List.not_mem_nil
    | cons b bs =>
      have hab : a.floor = b.floor := UInt64.le_antisymm
        (floor_le_of_mem_cons ha ((hmem b).mpr List.mem_cons_self))
        (floor_le_of_mem_cons hb ((hmem a).mp List.mem_cons_self))
      have hhead := h b.floor
      simp only [List.filter_cons, hab, beq_self_eq_true, if_true, List.cons.injEq] at hhead
      obtain ⟨rfl, _⟩ := hhead
      refine congrArg (List.cons a) (ih ha.of_cons hb.of_cons ?_)
      intro t
      have hc := h t
      by_cases ht : a.floor = t
      · simpa [List.filter_cons, ht] using hc
      · simpa [List.filter_cons, ht] using hc

theorem sortedByFloor_filter (as : List Alarm) (p : Alarm → Bool) :
    sortedByFloor (as.filter p) = (sortedByFloor as).filter p := by
  apply eq_of_floor_classes (sortedByFloor_pairwise _) ((sortedByFloor_pairwise as).filter p)
  intro t
  have hswap (xs : List Alarm) : ((xs.filter p).filter fun a => a.floor == t) =
      (xs.filter fun a => a.floor == t).filter p := by
    simp only [List.filter_filter, Bool.and_comm]
  rw [filter_floor_sortedByFloor, hswap, hswap, filter_floor_sortedByFloor]

theorem sortedByFloor_map {f : Alarm → Alarm} {as : List Alarm}
    (h : ∀ a ∈ as, (f a).floor = a.floor) :
    sortedByFloor (as.map f) = (sortedByFloor as).map f := by
  refine (List.map_mergeSort ?_).symm
  intro a ha b hb
  rw [h a ha, h b hb]

namespace Store

theorem size_eq (s : Store) : s.size = s.alarms.length := by
  simp [size, alarms]

theorem alarms_append (s : Store) (id : AlarmId) (a : Alarm) :
    (s.append id a).alarms = s.alarms ++ [a] := by
  simp [alarms, append]

theorem alarms_without (s : Store) (p : Alarm → Bool) :
    (s.without p).alarms = s.alarms.filter fun a => !p a := by
  simp [alarms, without, List.filter_map, Function.comp_def]

theorem without_without (s : Store) (p q : Alarm → Bool) :
    (s.without p).without q = s.without fun a => p a || q a := by
  simp [without, List.filter_filter, Bool.and_comm]

theorem without_false (s : Store) : (s.without fun _ => false) = s := by
  have hall : (s.entries.filter fun _ => true) = s.entries :=
    List.filter_eq_self.mpr fun _ _ => rfl
  simp only [without, Bool.not_false, hall]

theorem alarms_schedule (s : Store) (a : Alarm) :
    (s.schedule a).store.alarms =
      if (s.refusal? a).isNone then s.alarms ++ [a] else s.alarms := by
  unfold schedule
  split <;> rename_i h <;> simp [h, alarms_append]

theorem value_schedule (s : Store) (a : Alarm) :
    (s.schedule a).value =
      match s.refusal? a with
      | some r => .error r
      | none => .ok s.freshId := by
  rw [schedule]
  cases s.refusal? a with
  | none => rfl
  | some r => cases r <;> rfl

theorem alarms_setStandby (s : Store) (package : String) (earliest : UInt64) :
    (s.setStandby package earliest).store.alarms =
      s.alarms.map fun a => if a.isFrom package then a.set .standby earliest else a := by
  simp [alarms, setStandby, alarm_push]

theorem alarms_takeDue (s : Store) (now : UInt64) :
    (s.takeDue now).store.alarms = s.alarms.filter fun a => !a.isDue now :=
  alarms_without s _

theorem takeDue_perm (s : Store) (now : UInt64) :
    (s.takeDue now).value.Perm ((s.removed fun a => a.isDue now).map Alarm.delivered) :=
  (sortedByFloor_perm _).map _

theorem takeDue_ascending (s : Store) (now : UInt64) :
    ((s.takeDue now).value.map Alarm.floor).Pairwise (· ≤ ·) := by
  have hfloor : Alarm.floor ∘ Alarm.delivered = Alarm.floor := rfl
  rw [takeDue, List.map_map, hfloor, List.pairwise_map]
  exact sortedByFloor_pairwise _

theorem mem_takeDue {s : Store} {now : UInt64} {a : Alarm} :
    a ∈ (s.takeDue now).value ↔ ∃ c ∈ s.alarms, c.isDue now = true ∧ c.delivered = a := by
  rw [(s.takeDue_perm now).mem_iff, List.mem_map]
  constructor
  · rintro ⟨c, hc, rfl⟩
    obtain ⟨hm, hdue⟩ := List.mem_filter.mp hc
    exact ⟨c, hm, hdue, rfl⟩
  · rintro ⟨c, hm, hdue, rfl⟩
    exact ⟨c, List.mem_filter.mpr ⟨hm, hdue⟩, rfl⟩

theorem limits_step (s : Store) (c : Command) : (s.step c).store.limits = s.limits := by
  cases c with
  | schedule a =>
    simp only [step, Reply.map, schedule]
    split <;> rfl
  | cancel cs => rfl
  | cancelPackage package => rfl
  | setStandby package earliest => rfl
  | takeDue now => rfl

end Store

end AlarmScheduler
