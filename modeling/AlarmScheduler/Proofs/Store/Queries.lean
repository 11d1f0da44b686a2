import AlarmScheduler.Proofs.Store.Step

namespace AlarmScheduler

structure Profile where
  uid : UInt32
  wakes : Bool
  floor : UInt64
  ceiling : UInt64

def Alarm.profile (a : Alarm) : Profile := ⟨a.uid, a.kind.wakes, a.floor, a.ceiling⟩

namespace Store

structure AnswersLike (s t : Store) : Prop where
  size : s.size = t.size
  isEmpty : s.isEmpty = t.isEmpty
  countFor : ∀ uid, s.countFor uid = t.countFor uid
  nextWake : ∀ wakeupOnly, s.nextWake wakeupOnly = t.nextWake wakeupOnly
  nextDeadline : ∀ wakeupOnly, s.nextDeadline wakeupOnly = t.nextDeadline wakeupOnly

def profiles (s : Store) : List Profile := s.alarms.map Alarm.profile

theorem size_eq_length_profiles (s : Store) : s.size = s.profiles.length := by
  rw [size_eq, profiles, List.length_map]

theorem isEmpty_eq_isEmpty_profiles (s : Store) : s.isEmpty = s.profiles.isEmpty := by
  rw [isEmpty, profiles, alarms, List.isEmpty_map, List.isEmpty_map]

theorem countFor_eq_countP_profiles (s : Store) (uid : UInt32) :
    s.countFor uid = s.profiles.countP fun p => p.uid == uid := by
  rw [countFor, profiles, List.countP_map]
  rfl

theorem map_pending (s : Store) (wakeupOnly : Bool) (f : Profile → UInt64) :
    (s.pending wakeupOnly).map (fun a => f a.profile) =
      (s.profiles.filter fun p => !wakeupOnly || p.wakes).map f := by
  rw [pending, profiles, List.filter_map, List.map_map]
  rfl

theorem answersLike_of_perm {s t : Store} (h : s.profiles.Perm t.profiles) : s.AnswersLike t where
  size := by
    rw [size_eq_length_profiles, size_eq_length_profiles, h.length_eq]
  isEmpty := by
    rw [isEmpty_eq_isEmpty_profiles, isEmpty_eq_isEmpty_profiles, h.isEmpty_eq]
  countFor uid := by
    rw [countFor_eq_countP_profiles, countFor_eq_countP_profiles, h.countP_eq]
  nextWake wakeupOnly := by
    have hp := ((h.filter fun p => !wakeupOnly || p.wakes).map Profile.floor)
    rw [← map_pending, ← map_pending] at hp
    exact min?_eq_of_perm hp
  nextDeadline wakeupOnly := by
    have hp := ((h.filter fun p => !wakeupOnly || p.wakes).map Profile.ceiling)
    rw [← map_pending, ← map_pending] at hp
    exact min?_eq_of_perm hp

theorem AnswersLike.refusal? {s t : Store} (h : s.AnswersLike t) (hl : s.limits = t.limits)
    {a b : Alarm} (hu : a.uid = b.uid) : s.refusal? a = t.refusal? b := by
  rw [Store.refusal?, Store.refusal?, hl, hu, h.countFor, h.size]

end Store

end AlarmScheduler
