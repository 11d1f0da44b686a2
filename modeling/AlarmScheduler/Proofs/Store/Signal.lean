import AlarmScheduler.Proofs.Store.Queries

namespace AlarmScheduler

namespace Alarm

theorem pushed_pushed (a : Alarm) (c : Command) : (a.pushed c).pushed c = a.pushed c := by
  have hp := a.sourcePackage_pushed c
  cases h : c.push? a.sourcePackage with
  | none =>
    have ha : a.pushed c = a := by rw [pushed, h]
    rw [ha, ha]
  | some earliest =>
    rw [pushed, hp, h, pushed, h]
    rfl

theorem delivered_pushed (a : Alarm) (c : Command) :
    (a.pushed c).delivered = a.delivered.pushed c := by
  have hp : a.delivered.sourcePackage = a.sourcePackage := rfl
  rw [pushed, pushed, hp]
  cases c.push? a.sourcePackage <;> rfl

theorem profile_pushed {a : Alarm} {c : Command} (h : (a.pushed c).bounds = a.bounds) :
    (a.pushed c).profile = a.profile := by
  obtain ⟨hf, hc⟩ := Prod.mk.inj h
  rw [profile, uid_pushed, wakes_pushed]
  exact congrArg₂ (Profile.mk a.uid a.kind.wakes) hf hc

theorem pushed_setStandby_eq_ite (a : Alarm) (package : String) (earliest : UInt64) :
    a.pushed (.setStandby package earliest) =
      if a.sourcePackage = package then a.withStandby earliest else a := by
  simp only [pushed_setStandby, isFrom, beq_iff_eq, set_standby]

end Alarm

namespace Store

variable (s : Store) (package : String) (earliest : UInt64)

theorem alarms_setStandby_eq_map_pushed :
    (s.setStandby package earliest).store.alarms =
      s.alarms.map fun a => a.pushed (.setStandby package earliest) := by
  rw [alarms_setStandby]
  simp only [Alarm.pushed_setStandby]

theorem value_setStandby_eq_false_iff :
    (s.setStandby package earliest).value = false ↔
      ∀ a ∈ s.alarms, (a.pushed (.setStandby package earliest)).bounds = a.bounds := by
  simp only [value_setStandby, List.any_eq_false, bne_iff_ne, ne_eq, not_not]

theorem value_setStandby_eq_true_iff :
    (s.setStandby package earliest).value = true ↔
      ∃ (n : Nat) (a b : Alarm), s.alarms[n]? = some a ∧
        (s.setStandby package earliest).store.alarms[n]? = some b ∧
        (b.floor, b.ceiling) ≠ (a.floor, a.ceiling) := by
  rw [value_setStandby, List.any_eq_true, alarms_setStandby_eq_map_pushed]
  constructor
  · rintro ⟨a, ha, hmoved⟩
    obtain ⟨n, hn⟩ := List.mem_iff_getElem?.mp ha
    refine ⟨n, a, a.pushed (.setStandby package earliest), hn, ?_, bne_iff_ne.mp hmoved⟩
    rw [List.getElem?_map, hn, Option.map_some]
  · rintro ⟨n, a, b, hn, hb, hmoved⟩
    rw [List.getElem?_map, hn, Option.map_some, Option.some.injEq] at hb
    subst hb
    exact ⟨a, List.mem_of_getElem? hn, bne_iff_ne.mpr hmoved⟩

variable {s package earliest}

theorem answersLike_setStandby (h : (s.setStandby package earliest).value = false) :
    (s.setStandby package earliest).store.AnswersLike s := by
  have hb := (value_setStandby_eq_false_iff s package earliest).mp h
  have hp : (s.setStandby package earliest).store.profiles = s.profiles := by
    rw [profiles, alarms_setStandby_eq_map_pushed, List.map_map]
    apply List.map_congr_left
    intro a ha
    exact Alarm.profile_pushed (hb a ha)
  apply answersLike_of_perm
  rw [hp]

theorem takeDue_setStandby (h : (s.setStandby package earliest).value = false) (now : UInt64) :
    ((s.setStandby package earliest).store.takeDue now).value =
      (s.takeDue now).value.map fun a => a.pushed (.setStandby package earliest) := by
  have hb := (value_setStandby_eq_false_iff s package earliest).mp h
  have hfloor (a : Alarm) (ha : a ∈ s.alarms) :
      (a.pushed (.setStandby package earliest)).floor = a.floor := congrArg Prod.fst (hb a ha)
  -- no floor has moved, so the same alarms are due and sorting finds the same order
  have hdue : (s.setStandby package earliest).store.removed (fun a => a.isDue now) =
      (s.removed fun a => a.isDue now).map fun a => a.pushed (.setStandby package earliest) := by
    rw [removed, alarms_setStandby_eq_map_pushed, List.filter_map, removed]
    congr 1
    apply List.filter_congr
    intro a ha
    simp only [Function.comp_apply, Alarm.isDue, hfloor a ha]
  have hsort := sortedByFloor_map fun a (ha : a ∈ s.removed fun a => a.isDue now) =>
    hfloor a (List.mem_filter.mp ha).1
  simp only [takeDue]
  rw [hdue, hsort, List.map_map, List.map_map]
  simp only [Function.comp_def, Alarm.delivered_pushed]

theorem setStandby_of_fixed
    (h : ∀ e ∈ s.entries, e.pushed (.setStandby package earliest) = e) :
    s.setStandby package earliest = ⟨false, s, []⟩ := by
  have hmoves : ∀ e ∈ s.entries, ¬e.moves package earliest = true := by
    intro e he
    have ha : e.alarm.pushed (.setStandby package earliest) = e.alarm :=
      congrArg Entry.alarm (h e he)
    rw [Entry.moves_eq, ha, bne_self_eq_false]
    exact Bool.false_ne_true
  have hany : s.entries.any (Entry.moves package earliest) = false := List.any_eq_false.mpr hmoves
  have hfilter : s.entries.filter (Entry.moves package earliest) = [] :=
    List.filter_eq_nil_iff.mpr hmoves
  have hmap : s.entries.map (Entry.push package earliest) = s.entries := by
    refine (List.map_congr_left ?_).trans (List.map_id _)
    intro e he
    rw [Entry.push_eq_pushed, h e he]
    rfl
  rw [setStandby, hany, hfilter, hmap]
  rfl

theorem setStandby_again (s : Store) (package : String) (earliest : UInt64) :
    (s.setStandby package earliest).store.setStandby package earliest =
      ⟨false, (s.setStandby package earliest).store, []⟩ := by
  apply setStandby_of_fixed
  intro e he
  rw [entries_setStandby] at he
  obtain ⟨e, _, rfl⟩ := List.mem_map.mp he
  rw [Entry.pushed, Entry.pushed, Alarm.pushed_pushed]

theorem getElem?_entries_setStandby {n : Nat} {e : Entry} (h : s.entries[n]? = some e) :
    (s.setStandby package earliest).store.entries[n]? =
      some { e with alarm :=
        if e.alarm.sourcePackage = package then e.alarm.withStandby earliest else e.alarm } := by
  rw [entries_setStandby, List.getElem?_map, h, Option.map_some, Entry.pushed,
    Alarm.pushed_setStandby_eq_ite]

theorem standby_signal (s : Store) (package : String) (earliest : UInt64) :
    ((s.setStandby package earliest).value = true ↔
        ∃ (n : Nat) (a b : Alarm), s.alarms[n]? = some a ∧
          (s.setStandby package earliest).store.alarms[n]? = some b ∧
          (b.floor, b.ceiling) ≠ (a.floor, a.ceiling)) ∧
      ((s.setStandby package earliest).value = false →
        (s.setStandby package earliest).store.AnswersLike s ∧
          ∀ now, ((s.setStandby package earliest).store.takeDue now).value =
            (s.takeDue now).value.map fun a =>
              if a.sourcePackage = package then a.withStandby earliest else a) ∧
      (s.setStandby package earliest).store.setStandby package earliest =
        ⟨false, (s.setStandby package earliest).store, []⟩ ∧
      (s.setStandby package earliest).store.entries.length = s.entries.length ∧
      ∀ (n : Nat) (e : Entry), s.entries[n]? = some e →
        (s.setStandby package earliest).store.entries[n]? =
          some
            { e with alarm :=
              if e.alarm.sourcePackage = package then e.alarm.withStandby earliest
              else e.alarm } := by
  refine ⟨value_setStandby_eq_true_iff s package earliest, ?_, setStandby_again s package earliest,
    ?_, ?_⟩
  · intro h
    refine ⟨answersLike_setStandby h, ?_⟩
    intro now
    simp only [takeDue_setStandby h now, Alarm.pushed_setStandby_eq_ite]
  · rw [entries_setStandby, List.length_map]
  · intro n e h
    exact getElem?_entries_setStandby h

example :
    let s := (ofLimits Limits.standard).append ⟨1⟩
      (.ofRequest (.exact ⟨.elapsed, true⟩ 5000 (.listener ⟨1⟩ "tick") 1 "clock"))
    (s.setStandby "clock" 4999).value = false ∧ (s.setStandby "clock" 4999).store ≠ s := by
  decide

end Store

end AlarmScheduler
