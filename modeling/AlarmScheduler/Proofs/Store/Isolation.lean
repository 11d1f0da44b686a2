import AlarmScheduler.Proofs.Store.Step

namespace AlarmScheduler

def Command.admits (u : UInt32) : Command → Bool
  | .schedule a => a.uid == u
  | _ => false

def Command.concerns (u : UInt32) : Command → Bool
  | .schedule a => a.uid == u
  | _ => true

def Outcome.isFull : Outcome → Bool
  | .scheduled (.error .full) => true
  | _ => false

inductive Outcome.Shows (u : UInt32) : Outcome → Outcome → Prop
  | accepted (i j : AlarmId) : Shows u (.scheduled (.ok i)) (.scheduled (.ok j))
  | refused (r : Refusal) : Shows u (.scheduled (.error r)) (.scheduled (.error r))
  | removed (as : List Alarm) : Shows u (.removed (as.filter fun a => a.uid == u)) (.removed as)
  | moved {b c : Bool} (h : b = true → c = true) : Shows u (.moved b) (.moved c)

namespace Store

def only (s : Store) (u : UInt32) : List Alarm := s.alarms.filter fun a => a.uid == u

structure Shadows (u : UInt32) (t s : Store) : Prop where
  limits : t.limits = s.limits
  alarms : t.alarms = s.only u

def Mirrors (u : UInt32) (e f : Command × Reply Outcome) : Prop :=
  e.1 = f.1 ∧ Outcome.Shows u e.2.value f.2.value ∧ e.2.store.alarms = f.2.store.only u

end Store

theorem Outcome.Shows.admitted? {u : UInt32} {o p : Outcome} (h : Shows u o p) (c : Command) :
    c.admitted? o = c.admitted? p := by
  cases h <;> cases c <;> rfl

theorem Command.admitted?_uid {u : UInt32} {c : Command} {o : Outcome} {a : Alarm}
    (h : c.admitted? o = some a) (hc : c.concerns u = true) : a.uid = u := by
  cases c with
  | schedule b =>
    cases o with
    | scheduled r =>
      cases r with
      | error _ => cases h
      | ok _ =>
        obtain rfl : b = a := Option.some.inj h
        exact eq_of_beq hc
    | removed _ => cases h
    | moved _ => cases h
  | _ => cases h

theorem filter_uid_map_pushed (u : UInt32) (c : Command) (as : List Alarm) :
    ((as.map fun a => a.pushed c).filter fun a => a.uid == u) =
      (as.filter fun a => a.uid == u).map fun a => a.pushed c := by
  rw [List.filter_map]
  simp only [Function.comp_def, Alarm.uid_pushed]

theorem filter_uid_map_delivered (u : UInt32) (as : List Alarm) :
    ((as.map Alarm.delivered).filter fun a => a.uid == u) =
      (as.filter fun a => a.uid == u).map Alarm.delivered := by
  rw [List.filter_map]
  rfl

namespace Store

variable {u : UInt32} {s t : Store}

theorem only_filter (u : UInt32) (s : Store) (p : Alarm → Bool) :
    (s.only u).filter p = (s.alarms.filter p).filter fun a => a.uid == u := by
  simp only [only, List.filter_filter, Bool.and_comm]

theorem Shadows.removed (h : Shadows u t s) (p : Alarm → Bool) :
    t.removed p = (s.removed p).filter fun a => a.uid == u := by
  rw [Store.removed, h.alarms]
  exact only_filter u s p

theorem Shadows.shows_removed (h : Shadows u t s) (p : Alarm → Bool) :
    Outcome.Shows u (.removed (t.removed p)) (.removed (s.removed p)) := by
  rw [h.removed p]
  exact .removed _

theorem Shadows.refusal? (h : Shadows u t s) {a : Alarm} (ha : a.uid = u)
    (hroom : s.refusal? a ≠ some .full) : t.refusal? a = s.refusal? a := by
  have hcount : t.countFor a.uid = s.countFor a.uid := by
    rw [countFor, countFor, h.alarms, only, ha, List.countP_filter]
    simp only [Bool.and_self]
  have hsize : t.size ≤ s.size := by
    rw [size_eq, size_eq, h.alarms]
    exact List.length_filter_le _ _
  rw [Store.refusal?] at hroom
  rw [Store.refusal?, Store.refusal?, hcount, h.limits]
  split
  · rfl
  · rename_i hper
    rw [if_neg hper] at hroom
    have hspace : ¬s.limits.total ≤ s.size := by
      intro hfull
      exact hroom (if_pos hfull)
    rw [if_neg hspace, if_neg (by omega)]

theorem Shadows.value_step (h : Shadows u t s) {c : Command} (hc : c.concerns u = true)
    (hroom : c.admits u = true → (s.step c).value.isFull = false) :
    Outcome.Shows u (t.step c).value (s.step c).value := by
  cases c with
  | schedule a =>
    have hr := hroom hc
    simp only [step, Reply.map, value_schedule] at hr ⊢
    have hfull : s.refusal? a ≠ some .full := by
      intro hf
      rw [hf] at hr
      cases hr
    rw [h.refusal? (eq_of_beq hc) hfull]
    cases s.refusal? a with
    | none => exact .accepted _ _
    | some r => exact .refused r
  | cancel cs => exact h.shows_removed fun a => a.isOneOf cs
  | cancelPackage package => exact h.shows_removed fun a => a.isFrom package
  | setStandby package earliest =>
    refine .moved ?_
    have hany (r : Store) : r.entries.any (Entry.moves package earliest) =
        r.alarms.any fun a => a.isFrom package && a.moves .standby earliest := by
      rw [Store.alarms, List.any_map]
      rfl
    change t.entries.any _ = true → s.entries.any _ = true
    rw [hany, hany, h.alarms, List.any_eq_true, List.any_eq_true]
    rintro ⟨a, ha, hm⟩
    exact ⟨a, (List.mem_filter.mp ha).1, hm⟩
  | takeDue now =>
    have hv := h.removed fun a => a.isDue now
    change Outcome.Shows u (.removed ((sortedByFloor (t.removed _)).map Alarm.delivered)) _
    rw [hv, sortedByFloor_filter, ← filter_uid_map_delivered]
    exact .removed _

theorem Shadows.step (h : Shadows u t s) {c : Command} (hc : c.concerns u = true)
    (hv : Outcome.Shows u (t.step c).value (s.step c).value) :
    Shadows u (t.step c).store (s.step c).store := by
  constructor
  · rw [limits_step, limits_step]
    exact h.limits
  · rw [only, alarms_step, alarms_step, hv.admitted? c, List.filter_append, filter_uid_map_pushed,
      h.alarms, only_filter]
    congr 1
    refine (List.filter_eq_self.mpr ?_).symm
    intro a ha
    exact beq_iff_eq.mpr (Command.admitted?_uid (Option.mem_toList.mp ha) hc)

theorem Shadows.skip (h : Shadows u t s) {c : Command} (hc : c.concerns u = false) :
    Shadows u t (s.step c).store := by
  constructor
  · rw [limits_step]
    exact h.limits
  · cases c with
    | schedule a =>
      have hu : (a.uid == u) = false := hc
      rw [h.alarms, only, only, Store.step, Reply.map, alarms_schedule]
      split
      · simp only [List.filter_append, List.filter_cons, hu, Bool.false_eq_true, if_false,
          List.filter_nil, List.append_nil]
      · rfl
    | _ => cases hc

theorem Shadows.journal (h : Shadows u t s) (cs : List Command)
    (hroom : ∀ e ∈ s.journal cs, e.1.admits u = true → e.2.value.isFull = false) :
    List.Forall₂ (Mirrors u) (t.journal (cs.filter fun c => c.concerns u))
        ((s.journal cs).filter fun e => e.1.concerns u) ∧
      Shadows u (t.after (cs.filter fun c => c.concerns u)) (s.after cs) := by
  induction cs generalizing s t with
  | nil => exact ⟨.nil, h⟩
  | cons c cs ih =>
    rw [journal_cons] at hroom ⊢
    have hrest := fun e he => hroom e (List.mem_cons_of_mem _ he)
    cases hc : c.concerns u with
    | true =>
      have hv := h.value_step hc (hroom _ List.mem_cons_self)
      have hs := h.step hc hv
      obtain ⟨hj, ha⟩ := ih hs hrest
      simp only [List.filter_cons, hc, if_true]
      exact ⟨.cons ⟨rfl, hv, hs.alarms⟩ hj, ha⟩
    | false =>
      obtain ⟨hj, ha⟩ := ih (h.skip hc) hrest
      simp only [List.filter_cons, hc, Bool.false_eq_true, if_false]
      exact ⟨hj, ha⟩

theorem replay_isolated (l : Limits) (u : UInt32) (cs : List Command)
    (hroom : ∀ e ∈ (ofLimits l).journal cs, e.1.admits u = true → e.2.value.isFull = false) :
    List.Forall₂ (Mirrors u) ((ofLimits l).journal (cs.filter fun c => c.concerns u))
        (((ofLimits l).journal cs).filter fun e => e.1.concerns u) ∧
      ∀ n, ((ofLimits l).after ((cs.take n).filter fun c => c.concerns u)).alarms =
        ((ofLimits l).after (cs.take n)).only u := by
  have hstart : Shadows u (ofLimits l) (ofLimits l) := ⟨rfl, rfl⟩
  refine ⟨(hstart.journal cs hroom).1, ?_⟩
  intro n
  refine ((hstart.journal (cs.take n)) ?_).2.alarms
  intro e he
  apply hroom e
  rw [← List.take_append_drop n cs, journal_append]
  exact List.mem_append_left _ he

def sharedPackage : List Command :=
  let tick (uid : UInt32) (handle elapsed : UInt64) : Command :=
    .schedule (.ofRequest (.exact ⟨.elapsed, true⟩ elapsed (.listener ⟨handle⟩ "tick") uid "clock"))
  [tick 1 1 10, tick 2 2 5, tick 1 3 30, tick 1 4 7, .setStandby "clock" 20, .takeDue 25, tick 1 4 7,
    .cancelPackage "clock"]

theorem replay_isolated_sharedPackage :
    (∀ e ∈ (ofLimits ⟨2, 3⟩).journal sharedPackage,
        e.1.admits 1 = true → e.2.value.isFull = false) ∧
      List.Forall₂ (Mirrors 1)
        ((ofLimits ⟨2, 3⟩).journal (sharedPackage.filter fun c => c.concerns 1))
        (((ofLimits ⟨2, 3⟩).journal sharedPackage).filter fun e => e.1.concerns 1) ∧
      ∀ n, ((ofLimits ⟨2, 3⟩).after ((sharedPackage.take n).filter fun c => c.concerns 1)).alarms =
        ((ofLimits ⟨2, 3⟩).after (sharedPackage.take n)).only 1 := by
  have hroom : ∀ e ∈ (ofLimits ⟨2, 3⟩).journal sharedPackage,
      e.1.admits 1 = true → e.2.value.isFull = false := by decide +kernel
  exact ⟨hroom, replay_isolated ⟨2, 3⟩ 1 sharedPackage hroom⟩

end Store

end AlarmScheduler
