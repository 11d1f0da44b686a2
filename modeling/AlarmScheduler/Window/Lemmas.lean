import AlarmScheduler.Window.Basic

namespace AlarmScheduler.Window

theorem slot_set (w : Window) (p q : Policy) (t : UInt64) :
    (w.set p t).slot q = if q = p then t else w.slot q := by
  cases p <;> cases q <;> rfl

theorem length_set (w : Window) (p : Policy) (t : UInt64) : (w.set p t).length = w.length := by
  cases p <;> rfl

theorem bounds_withSlot (w : Window) (p : Policy) (t : UInt64) :
    (w.withSlot p t).bounds = w.bounds := by
  cases p <;> rfl

theorem moves_eq (w : Window) (p : Policy) (t : UInt64) :
    w.moves p t = ((w.set p t).bounds != w.bounds) := by
  have hmoves : w.moves p t = ((w.withSlot p t).bounds != (w.set p t).bounds) := rfl
  rw [hmoves, bounds_withSlot, bne_comm]

theorem eq_of_fields {v w : Window} (hs : ∀ p, v.slot p = w.slot p) (hl : v.length = w.length)
    (hfloor : v.floor = w.floor) (hceiling : v.ceiling = w.ceiling) : v = w := by
  have hrequester : v.requester = w.requester := hs .requester
  have hstandby : v.standby = w.standby := hs .standby
  cases v
  cases w
  rw [mk.injEq]
  exact ⟨hrequester, hstandby, hl, hfloor, hceiling⟩

theorem toNat_max (s t : UInt64) : (max s t).toNat = max s.toNat t.toNat := by
  have h : max s t = if s ≤ t then t else s := rfl
  rw [h]
  split
  · rename_i hst
    have := UInt64.le_iff_toNat_le.mp hst
    omega
  · rename_i hst
    have := mt UInt64.le_iff_toNat_le.mpr hst
    omega

theorem toNat_endOf (s l : UInt64) :
    (endOf s l).toNat = min (s.toNat + l.toNat) lastTime.toNat := by
  have hs := s.toNat_lt
  have hl := l.toNat_lt
  have ht : lastTime.toNat = 18446744073709551615 := rfl
  have hz : UInt64.size = 18446744073709551616 := rfl
  unfold endOf
  split
  · rw [UInt64.toNat_add]
    omega
  · omega

namespace Settled

variable {w : Window} (hw : w.Settled)

include hw

theorem toNat_floor : w.floor.toNat = max w.requester.toNat w.standby.toNat := by
  have h : w.floor = max w.requester (max w.standby 0) := hw.floor
  have hz : (0 : UInt64).toNat = 0 := rfl
  rw [h, toNat_max, toNat_max, hz]
  omega

theorem toNat_ceiling :
    w.ceiling.toNat = max (endOf w.requester w.length).toNat w.floor.toNat := by
  rw [hw.ceiling, toNat_max]

theorem toNat_ceiling_eq :
    w.ceiling.toNat =
      max w.floor.toNat (min ((w.slot .requester).toNat + w.length.toNat) (UInt64.size - 1)) := by
  rw [hw.toNat_ceiling, toNat_endOf, Nat.max_comm]
  rfl

theorem slot_le_floor (p : Policy) : w.slot p ≤ w.floor := by
  rw [UInt64.le_iff_toNat_le, hw.toNat_floor]
  cases p <;> simp only [slot] <;> omega

theorem floor_le_iff (t : UInt64) : w.floor ≤ t ↔ w.requester ≤ t ∧ w.standby ≤ t := by
  simp only [UInt64.le_iff_toNat_le, hw.toNat_floor]
  omega

theorem floor_le_ceiling : w.floor ≤ w.ceiling := by
  rw [UInt64.le_iff_toNat_le, hw.toNat_ceiling]
  omega

theorem eq_of_slots {v : Window} (hv : v.Settled) (hl : v.length = w.length)
    (hs : ∀ p, v.slot p = w.slot p) : v = w := by
  have hrequester : v.requester = w.requester := hs .requester
  have hfloor : v.floor = w.floor := by
    rw [hv.floor, hw.floor, funext hs]
  have hceiling : v.ceiling = w.ceiling := by
    rw [hv.ceiling, hw.ceiling, hrequester, hl, hfloor]
  exact eq_of_fields hs hl hfloor hceiling

end Settled

def ofSlots (requester standby length : UInt64) : Window where
  requester := requester
  standby := standby
  length := length
  floor := max requester standby
  ceiling := max (endOf requester length) (max requester standby)

theorem settled_ofSlots (requester standby length : UInt64) :
    (ofSlots requester standby length).Settled := by
  have hzero : max standby 0 = standby := by
    apply UInt64.toNat_inj.mp
    rw [toNat_max]
    exact Nat.max_zero _
  constructor
  · show max requester standby = max requester (max standby 0)
    rw [hzero]
  · rfl

theorem set_standby (w : Window) (t : UInt64) :
    w.set .standby t = ofSlots w.requester t w.length := by
  apply (settled_ofSlots _ _ _).eq_of_slots (settled_set w .standby t) rfl
  intro p
  cases p <;> rfl

end AlarmScheduler.Window
