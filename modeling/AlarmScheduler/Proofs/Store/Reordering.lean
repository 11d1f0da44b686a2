import AlarmScheduler.Proofs.Store.Queries

namespace AlarmScheduler

inductive Outcome.Reorders : Outcome → Outcome → Prop
  | accepted (i j : AlarmId) : Reorders (.scheduled (.ok i)) (.scheduled (.ok j))
  | refused (r : Refusal) : Reorders (.scheduled (.error r)) (.scheduled (.error r))
  | removed {as bs : List Alarm} (h : as.Perm bs) : Reorders (.removed as) (.removed bs)
  | moved (changed : Bool) : Reorders (.moved changed) (.moved changed)

theorem Outcome.Reorders.admitted? {o p : Outcome} (h : Reorders o p) (c : Command) :
    c.admitted? o = c.admitted? p := by
  cases h <;> cases c <;> rfl

theorem eq_of_perm_of_ascending {ts us : List UInt64} (ht : ts.Pairwise (· ≤ ·))
    (hu : us.Pairwise (· ≤ ·)) (h : ts.Perm us) : ts = us :=
  h.eq_of_pairwise (fun _ _ _ _ htu hut => UInt64.le_antisymm htu hut) ht hu

namespace Store

structure Reorders (s t : Store) : Prop where
  limits : s.limits = t.limits
  alarms : s.alarms.Perm t.alarms

structure Agrees (e f : Command × Reply Outcome) : Prop where
  command : e.1 = f.1
  outcome : e.2.value.Reorders f.2.value
  floors : ∀ now, e.1 = .takeDue now →
    e.2.value.alarms.map Alarm.floor = f.2.value.alarms.map Alarm.floor
  answers : e.2.store.AnswersLike f.2.store
  alarms : e.2.store.alarms.Perm f.2.store.alarms

variable {s t : Store}

theorem Reorders.answersLike (h : s.Reorders t) : s.AnswersLike t :=
  answersLike_of_perm (h.alarms.map _)

theorem Reorders.takeDue_perm (h : s.Reorders t) (now : UInt64) :
    (s.takeDue now).value.Perm (t.takeDue now).value := by
  have hdue : (s.removed fun a => a.isDue now).Perm (t.removed fun a => a.isDue now) :=
    h.alarms.filter _
  calc
    (s.takeDue now).value.Perm _ := Store.takeDue_perm s now
    List.Perm _ ((t.removed fun a => a.isDue now).map Alarm.delivered) := hdue.map _
    List.Perm _ (t.takeDue now).value := (Store.takeDue_perm t now).symm

theorem Reorders.floors_takeDue (h : s.Reorders t) (now : UInt64) :
    (s.takeDue now).value.map Alarm.floor = (t.takeDue now).value.map Alarm.floor :=
  eq_of_perm_of_ascending (s.takeDue_ascending now) (t.takeDue_ascending now)
    ((h.takeDue_perm now).map _)

theorem Reorders.outcome_step (h : s.Reorders t) (c : Command) :
    (s.step c).value.Reorders (t.step c).value := by
  cases c with
  | schedule a =>
    have hr := h.answersLike.refusal? h.limits (rfl : a.uid = a.uid)
    rw [value_step_schedule, value_step_schedule, hr]
    cases t.refusal? a with
    | none => exact .accepted _ _
    | some r => exact .refused r
  | cancel cs => exact .removed (h.alarms.filter _)
  | cancelPackage package => exact .removed (h.alarms.filter _)
  | setStandby package earliest =>
    have hv : (s.setStandby package earliest).value = (t.setStandby package earliest).value := by
      rw [value_setStandby, value_setStandby, h.alarms.any_eq]
    simp only [step, Reply.map, hv]
    exact .moved _
  | takeDue now => exact .removed (h.takeDue_perm now)

theorem Reorders.step (h : s.Reorders t) (c : Command) :
    (s.step c).store.Reorders (t.step c).store := by
  constructor
  · rw [limits_step, limits_step, h.limits]
  · rw [alarms_step, alarms_step, (h.outcome_step c).admitted? c]
    exact ((h.alarms.filter _).map _).append_right _

theorem Reorders.agrees (h : s.Reorders t) (c : Command) : Agrees (c, s.step c) (c, t.step c) where
  command := rfl
  outcome := h.outcome_step c
  floors now hc := by
    subst hc
    exact h.floors_takeDue now
  answers := (h.step c).answersLike
  alarms := (h.step c).alarms

theorem order_unobservable (s t : Store) (hl : s.limits = t.limits) (ha : s.alarms.Perm t.alarms)
    (cs : List Command) : List.Forall₂ Agrees (s.journal cs) (t.journal cs) := by
  have hstep {s t : Store} {c d : Command} (h : s.Reorders t) (hcd : c = d) :
      Agrees (c, s.step c) (d, t.step d) ∧ (s.step c).store.Reorders (t.step d).store := by
    subst hcd
    exact ⟨h.agrees c, h.step c⟩
  exact (lockstep hstep ⟨hl, ha⟩ (List.forall₂_refl cs)).1

def ticking (handles : List UInt64) : Store :=
  (ofLimits ⟨3, 4⟩).after <| handles.map fun handle =>
    .schedule (.ofRequest (.exact ⟨.elapsed, true⟩ (10 + handle % 2) (.listener ⟨handle⟩ "tick") 1
      "clock"))

def tickingCommands : List Command :=
  [.schedule (.ofRequest (.exact ⟨.elapsed, true⟩ 5 (.listener ⟨4⟩ "tick") 1 "clock")),
    .setStandby "clock" 11, .cancel ⟨none, some ⟨1⟩⟩, .takeDue 11]

theorem order_unobservable_ticking :
    (ticking [1, 2, 3]).limits = (ticking [3, 1, 2]).limits ∧
      (ticking [1, 2, 3]).alarms.Perm (ticking [3, 1, 2]).alarms ∧
      List.Forall₂ Agrees ((ticking [1, 2, 3]).journal tickingCommands)
        ((ticking [3, 1, 2]).journal tickingCommands) := by
  have hlimits : (ticking [1, 2, 3]).limits = (ticking [3, 1, 2]).limits := by decide +kernel
  have hperm : (ticking [1, 2, 3]).alarms.Perm (ticking [3, 1, 2]).alarms := by decide +kernel
  exact ⟨hlimits, hperm, order_unobservable _ _ hlimits hperm tickingCommands⟩

end Store

end AlarmScheduler
