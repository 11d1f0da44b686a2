import AlarmScheduler.Proofs.Store.Signal

namespace AlarmScheduler

def Alarm.unthrottled (a : Alarm) : Alarm := a.withStandby 0

/-- What pushing a standby time to a package keeps of an alarm: it was `a` and is `b` now. -/
structure Alarm.KeepsRequest (package : String) (earliest : UInt64) (a b : Alarm) : Prop where
  requester : b.window.requester = a.window.requester
  length : b.window.length = a.window.length
  requester_le : b.window.requester ≤ b.floor
  floor_le : b.floor ≤ b.ceiling
  slack : b.ceiling.toNat - b.floor.toNat ≤ b.window.length.toNat
  exact : b.window.length = 0 → b.floor = b.ceiling
  lifted : a.sourcePackage = package → earliest ≤ a.window.requester →
    b.bounds = (Window.anchored a.window.requester a.window.length).bounds

namespace Window

section Throttled

variable (requester length : UInt64) {t u : UInt64}

theorem floor_ofSlots_le (h : t ≤ u) :
    (ofSlots requester t length).floor ≤ (ofSlots requester u length).floor := by
  rw [UInt64.le_iff_toNat_le] at h ⊢
  rw [(settled_ofSlots _ _ _).toNat_floor, (settled_ofSlots _ _ _).toNat_floor]
  simp only [ofSlots]
  omega

theorem ceiling_ofSlots_le (h : t ≤ u) :
    (ofSlots requester t length).ceiling ≤ (ofSlots requester u length).ceiling := by
  have hfloor := UInt64.le_iff_toNat_le.mp (floor_ofSlots_le requester length h)
  rw [UInt64.le_iff_toNat_le, (settled_ofSlots _ _ _).toNat_ceiling,
    (settled_ofSlots _ _ _).toNat_ceiling]
  simp only [ofSlots] at hfloor ⊢
  omega

theorem bounds_ofSlots (h : t ≤ requester) :
    (ofSlots requester t length).bounds = (anchored requester length).bounds := by
  have hslots := settled_ofSlots requester t length
  have hnew := settled_anchored requester length
  have hfloor : (ofSlots requester t length).floor = (anchored requester length).floor := by
    apply UInt64.toNat_inj.mp
    rw [UInt64.le_iff_toNat_le] at h
    rw [hslots.toNat_floor, hnew.toNat_floor]
    show max requester.toNat t.toNat = max requester.toNat 0
    omega
  rw [bounds, bounds, hslots.ceiling, hnew.ceiling, hfloor]
  rfl

end Throttled

namespace Settled

variable {w : Window} (hw : w.Settled)

include hw

theorem ceiling_sub_floor_le : w.ceiling.toNat - w.floor.toNat ≤ w.length.toNat := by
  rw [hw.toNat_ceiling, toNat_endOf, hw.toNat_floor]
  omega

theorem floor_eq_ceiling (h : w.length = 0) : w.floor = w.ceiling := by
  have hle := UInt64.le_iff_toNat_le.mp hw.floor_le_ceiling
  have hsub := hw.ceiling_sub_floor_le
  rw [h, UInt64.toNat_zero] at hsub
  exact UInt64.toNat_inj.mp (by omega)

end Settled

end Window

namespace Alarm

variable (a : Alarm) (package : String)

theorem unthrottled_pushed (c : Command) : (a.pushed c).unthrottled = a.unthrottled :=
  apply_pushed unthrottled (fun _ => rfl) c

theorem unthrottled_delivered : a.delivered.unthrottled = a.unthrottled.delivered := rfl

theorem requester_pushed (c : Command) :
    (a.pushed c).window.requester = a.window.requester :=
  apply_pushed (fun b => b.window.requester) (fun _ => rfl) c

theorem length_pushed (c : Command) : (a.pushed c).window.length = a.window.length :=
  apply_pushed (fun b => b.window.length) (fun _ => rfl) c

theorem keepsRequest_pushed (earliest : UInt64) :
    a.KeepsRequest package earliest (a.pushed (.setStandby package earliest)) where
  requester := a.requester_pushed _
  length := a.length_pushed _
  requester_le := (settled _).slot_le_floor .requester
  floor_le := (settled _).floor_le_ceiling
  slack := (settled _).ceiling_sub_floor_le
  exact := (settled _).floor_eq_ceiling
  lifted hpackage hle := by
    rw [pushed_setStandby_eq_ite, if_pos hpackage]
    exact Window.bounds_ofSlots _ _ hle

variable {earliest later : UInt64}

theorem floor_pushed_le (h : earliest ≤ later) :
    (a.pushed (.setStandby package earliest)).floor ≤
      (a.pushed (.setStandby package later)).floor := by
  rw [pushed_setStandby_eq_ite, pushed_setStandby_eq_ite]
  split
  · exact Window.floor_ofSlots_le _ _ h
  · exact UInt64.le_refl _

theorem ceiling_pushed_le (h : earliest ≤ later) :
    (a.pushed (.setStandby package earliest)).ceiling ≤
      (a.pushed (.setStandby package later)).ceiling := by
  rw [pushed_setStandby_eq_ite, pushed_setStandby_eq_ite]
  split
  · exact Window.ceiling_ofSlots_le _ _ h
  · exact UInt64.le_refl _

theorem isDue_pushed_of_later (h : earliest ≤ later) (now : UInt64)
    (hdue : (a.pushed (.setStandby package later)).isDue now = true) :
    (a.pushed (.setStandby package earliest)).isDue now = true :=
  decide_eq_true (UInt64.le_trans (a.floor_pushed_le package h) (of_decide_eq_true hdue))

end Alarm

theorem min?_map_le {as : List Alarm} {f g : Alarm → UInt64} (h : ∀ a ∈ as, f a ≤ g a) :
    Option.Rel (· ≤ ·) (as.map f).min? (as.map g).min? := by
  cases hf : (as.map f).min? with
  | none =>
    obtain rfl : as = [] := by simpa using hf
    exact .none
  | some t =>
    cases hg : (as.map g).min? with
    | none =>
      obtain rfl : as = [] := by simpa using hg
      cases hf
    | some u =>
      obtain ⟨-, hleast⟩ := List.min?_eq_some_iff.mp hf
      obtain ⟨a, ha, rfl⟩ := List.mem_map.mp (List.min?_eq_some_iff.mp hg).1
      exact .some (UInt64.le_trans (hleast (f a) (List.mem_map_of_mem ha)) (h a ha))

namespace Store

variable (s : Store) (package : String)

theorem pending_setStandby (earliest : UInt64) (wakeupOnly : Bool) :
    (s.setStandby package earliest).store.pending wakeupOnly =
      (s.pending wakeupOnly).map fun a => a.pushed (.setStandby package earliest) := by
  rw [pending, alarms_setStandby_eq_map_pushed, List.filter_map, pending]
  simp only [Function.comp_def, Alarm.wakes_pushed]

theorem takeDue_setStandby_perm (earliest now : UInt64) :
    (((s.setStandby package earliest).store.takeDue now).value.map Alarm.unthrottled).Perm
      ((s.alarms.filter fun a => (a.pushed (.setStandby package earliest)).isDue now).map
        fun a => a.unthrottled.delivered) := by
  refine ((takeDue_perm _ now).map _).trans (.of_eq ?_)
  rw [removed, alarms_setStandby_eq_map_pushed, List.filter_map, List.map_map, List.map_map]
  simp only [Function.comp_def, Alarm.unthrottled_delivered, Alarm.unthrottled_pushed]

theorem ids_takeDue_setStandby (earliest now : UInt64) :
    ((s.setStandby package earliest).store.takeDue now).store.ids =
      (s.entries.filter fun e =>
        !(e.alarm.pushed (.setStandby package earliest)).isDue now).map Entry.id := by
  rw [ids, takeDue, without, entries_setStandby, List.filter_map, List.map_map]
  rfl

variable {earliest later : UInt64}

theorem takeDue_later_subperm (h : earliest ≤ later) (now : UInt64) :
    (((s.setStandby package later).store.takeDue now).value.map Alarm.unthrottled).Subperm
      (((s.setStandby package earliest).store.takeDue now).value.map Alarm.unthrottled) := by
  have hdue (a : Alarm) := a.isDue_pushed_of_later package h now
  have hsub := ((List.monotone_filter_right s.alarms hdue).map fun a =>
    a.unthrottled.delivered).subperm
  exact (s.takeDue_setStandby_perm package later now).subperm.trans
    (hsub.trans (s.takeDue_setStandby_perm package earliest now).symm.subperm)

theorem ids_takeDue_earlier_sublist (h : earliest ≤ later) (now : UInt64) :
    ((s.setStandby package earliest).store.takeDue now).store.ids.Sublist
      ((s.setStandby package later).store.takeDue now).store.ids := by
  rw [ids_takeDue_setStandby, ids_takeDue_setStandby]
  refine (List.monotone_filter_right s.entries ?_).map Entry.id
  intro e hkept
  rw [Bool.not_eq_true', ← Bool.not_eq_true] at hkept ⊢
  exact fun hdue => hkept (e.alarm.isDue_pushed_of_later package h now hdue)

theorem throttling_delays (s : Store) (package : String) {earliest later : UInt64}
    (h : earliest ≤ later) :
    let mild := (s.setStandby package earliest).store
    let hard := (s.setStandby package later).store
    List.Forall₂ (fun d e : Entry => d.id = e.id ∧ d.alarm.floor ≤ e.alarm.floor ∧
        d.alarm.ceiling ≤ e.alarm.ceiling) mild.entries hard.entries ∧
      (∀ wakeupOnly,
        Option.Rel (· ≤ ·) (mild.nextWake wakeupOnly) (hard.nextWake wakeupOnly) ∧
          Option.Rel (· ≤ ·) (mild.nextDeadline wakeupOnly) (hard.nextDeadline wakeupOnly)) ∧
      (∀ now,
        ((hard.takeDue now).value.map Alarm.unthrottled).Subperm
            ((mild.takeDue now).value.map Alarm.unthrottled) ∧
          (mild.takeDue now).store.ids.Sublist (hard.takeDue now).store.ids) ∧
      ∀ t, List.Forall₂ (fun d e : Entry => d.id = e.id ∧ d.alarm.KeepsRequest package t e.alarm)
        s.entries (s.setStandby package t).store.entries := by
  intro mild hard
  refine ⟨?_, ?_, ?_, ?_⟩
  · rw [entries_setStandby, entries_setStandby, List.forall₂_map_left_iff,
      List.forall₂_map_right_iff, List.forall₂_same]
    intro e _
    exact ⟨rfl, e.alarm.floor_pushed_le package h, e.alarm.ceiling_pushed_le package h⟩
  · intro wakeupOnly
    simp only [mild, hard, nextWake, nextDeadline, pending_setStandby, List.map_map]
    exact ⟨min?_map_le fun a _ => a.floor_pushed_le package h,
      min?_map_le fun a _ => a.ceiling_pushed_le package h⟩
  · intro now
    exact ⟨s.takeDue_later_subperm package h now, s.ids_takeDue_earlier_sublist package h now⟩
  · intro t
    rw [entries_setStandby, List.forall₂_map_right_iff, List.forall₂_same]
    intro e _
    exact ⟨rfl, e.alarm.keepsRequest_pushed package t⟩

def nightShift : Store :=
  let call (handle elapsed length : UInt64) (package : String) : Command :=
    .schedule (.ofRequest { Request.exact ⟨.elapsed, true⟩ elapsed (.listener ⟨handle⟩ "call") 1
      package with windowLength := length })
  (ofLimits Limits.standard).after
    [call 1 10 5 "nurse", call 2 30 0 "nurse", call 3 20 100 "porter",
      call 4 12 18446744073709551615 "nurse", .setStandby "nurse" 25]

theorem throttling_delays_nightShift :
    let mild := (nightShift.setStandby "nurse" 11).store
    let hard := (nightShift.setStandby "nurse" 40).store
    (11 : UInt64) ≤ 40 ∧ mild.nextWake true = some 11 ∧ hard.nextWake true = some 20 ∧
      (mild.takeDue 12).value.length = 2 ∧ (hard.takeDue 12).value.length = 0 ∧
      Option.Rel (· ≤ ·) (mild.nextDeadline true) (hard.nextDeadline true) ∧
      ((hard.takeDue 30).value.map Alarm.unthrottled).Subperm
        ((mild.takeDue 30).value.map Alarm.unthrottled) ∧
      List.Forall₂ (fun d e : Entry => d.id = e.id ∧ d.alarm.KeepsRequest "nurse" 40 e.alarm)
        nightShift.entries hard.entries := by
  intro mild hard
  have hle : (11 : UInt64) ≤ 40 := by decide
  obtain ⟨-, hnext, hdue, hkeeps⟩ := throttling_delays nightShift "nurse" hle
  exact ⟨hle, by decide +kernel, by decide +kernel,
    (mild.takeDue_perm 12).length_eq.trans (by decide +kernel),
    (hard.takeDue_perm 12).length_eq.trans (by decide +kernel), (hnext true).2, (hdue 30).1,
    hkeeps 40⟩

end Store

end AlarmScheduler
