import AlarmScheduler.Proofs.Store.Step

namespace AlarmScheduler

def Alarm.uncounted (a : Alarm) : Alarm := { a with deliveries := 0 }

def Candidates.callbackOnly (k : Candidates) : Candidates := ⟨k.callback, none⟩

def Candidates.listenerOnly (k : Candidates) : Candidates := ⟨none, k.listener⟩

namespace Store

def handOuts (s : Store) (cs : List Command) : List (List Alarm) :=
  (s.run cs).map fun r => r.value.alarms

def inOrder (s : Store) (as : List Alarm) : List Alarm := s.alarms.filter fun a => a ∈ as

structure CancelsTargets (s : Store) : Prop where
  removed : ∀ k : Candidates,
    (s.cancel k).value = s.alarms.filter fun a => a.target.isNamedBy k
  kept : ∀ k : Candidates, (s.cancel k).store =
    { s with entries := s.entries.filter fun e => !e.alarm.target.isNamedBy k }
  byHandle : ∀ k l : Candidates, k.callback.map Callback.handle = l.callback.map Callback.handle →
    k.listener = l.listener → s.cancel k = s.cancel l
  noListener : ∀ k : Candidates,
    ∀ a ∈ (s.cancel k.callbackOnly).value, a.target.listener? = none
  noCallback : ∀ k : Candidates,
    ∀ a ∈ (s.cancel k.listenerOnly).value, a.target.callback? = none
  both : ∀ k : Candidates,
    let first := s.cancel k.callbackOnly
    let second := first.store.cancel k.listenerOnly
    second.value = (s.cancel k.listenerOnly).value ∧ (s.cancel k).store = second.store ∧
      (s.cancel k).value.Perm (first.value ++ second.value) ∧
      (s.cancel k).value = s.inOrder (first.value ++ second.value)
  neither : s.cancel ⟨none, none⟩ = ⟨[], s, [.cancelled 0]⟩

end Store

namespace Target

variable (t : Target) (k : Candidates)

theorem isNamedBy_eq_or :
    t.isNamedBy k = (t.isNamedBy k.callbackOnly || t.isNamedBy k.listenerOnly) := by
  cases t with
  | callback c => simp [isNamedBy, Candidates.callbackOnly, Candidates.listenerOnly]
  | listener l tag => simp [isNamedBy, Candidates.callbackOnly, Candidates.listenerOnly]

variable {t k}

theorem listener?_of_isNamedBy (h : t.isNamedBy k.callbackOnly = true) : t.listener? = none := by
  cases t with
  | callback c => rfl
  | listener l tag => simp [isNamedBy, Candidates.callbackOnly] at h

theorem callback?_of_isNamedBy (h : t.isNamedBy k.listenerOnly = true) : t.callback? = none := by
  cases t with
  | callback c => simp [isNamedBy, Candidates.listenerOnly] at h
  | listener l tag => rfl

theorem not_isNamedBy_callbackOnly (h : t.isNamedBy k.listenerOnly = true) :
    t.isNamedBy k.callbackOnly = false := by
  cases t with
  | callback c => simp [isNamedBy, Candidates.listenerOnly] at h
  | listener l tag => rfl

theorem isNamedBy_congr {l : Candidates}
    (hc : k.callback.map Callback.handle = l.callback.map Callback.handle)
    (hl : k.listener = l.listener) : t.isNamedBy k = t.isNamedBy l := by
  have hany (j : Candidates) (c : Callback) :
      (j.callback.any fun d => d.handle == c.handle) =
        (j.callback.map Callback.handle).any fun n => n == c.handle := by
    rw [Option.any_map]
  cases t with
  | callback c => rw [isNamedBy, isNamedBy, hany, hany, hc]
  | listener m tag => rw [isNamedBy, isNamedBy, hl]

end Target

namespace Alarm

theorem uncounted_counted (a : Alarm) (c : Command) : (c.counted a).uncounted = a.uncounted := by
  cases c <;> rfl

end Alarm

theorem Command.handOut_uncounted_perm (c : Command) (as : List Alarm) :
    ((c.handOut as).map Alarm.uncounted).Perm (as.map Alarm.uncounted) := by
  have h := (c.handOut_perm as).map Alarm.uncounted
  simpa [Function.comp_def, Alarm.uncounted_counted] using h

namespace Store

variable (s : Store)

theorem handOuts_cons (c : Command) (cs : List Command) :
    s.handOuts (c :: cs) = (s.step c).value.alarms :: (s.step c).store.handOuts cs := rfl

theorem after_of_removes {cs : List Command} (hcs : ∀ c ∈ cs, c.removes = true) :
    s.after cs = s.without fun a => cs.any a.removedBy := by
  induction cs generalizing s with
  | nil => exact s.without_false.symm
  | cons c cs ih =>
    obtain ⟨hc, hcs⟩ := List.forall_mem_cons.mp hcs
    rw [after_cons, store_step_of_removes s hc, ih _ hcs, without_without]
    simp only [List.any_cons]

theorem handOuts_getElem? {cs : List Command} (hcs : ∀ c ∈ cs, c.removes = true) {n : Nat}
    {c : Command} (hn : cs[n]? = some c) :
    (s.handOuts cs)[n]? =
      some (c.handOut (s.alarms.filter fun a => cs.findIdx? a.removedBy == some n)) := by
  induction cs generalizing s n with
  | nil => simp at hn
  | cons d cs ih =>
    obtain ⟨hd, hcs⟩ := List.forall_mem_cons.mp hcs
    cases n with
    | zero =>
      obtain rfl : d = c := by simpa using hn
      simp [handOuts_cons, handOut_step, findIdx?_cons_eq_zero]
    | succ n =>
      have hrest := ih (s.step d).store hcs (by simpa using hn)
      rw [store_step_of_removes s hd, alarms_without, List.filter_filter] at hrest
      simpa [handOuts_cons, findIdx?_cons_eq_succ, store_step_of_removes s hd, Bool.and_comm]
        using hrest

theorem handOuts_perm {cs : List Command} (hcs : ∀ c ∈ cs, c.removes = true) :
    ((s.handOuts cs).flatten.map Alarm.uncounted).Perm
      ((s.alarms.filter fun a => cs.any a.removedBy).map Alarm.uncounted) := by
  induction cs generalizing s with
  | nil => simp [handOuts, run]
  | cons c cs ih =>
    obtain ⟨hc, hcs⟩ := List.forall_mem_cons.mp hcs
    have hrest := ih (s.step c).store hcs
    have hfirst := c.handOut_uncounted_perm (s.alarms.filter fun a => a.removedBy c)
    rw [store_step_of_removes s hc, alarms_without] at hrest
    rw [handOuts_cons, List.flatten_cons, List.map_append, handOut_step,
      store_step_of_removes s hc]
    refine (hfirst.append hrest).trans ?_
    rw [← List.map_append]
    simpa only [List.any_cons] using (filter_or_perm _ _ s.alarms).map Alarm.uncounted

theorem handOuts_append_alarms_perm {cs : List Command} (hcs : ∀ c ∈ cs, c.removes = true) :
    (((s.handOuts cs).flatten ++ (s.after cs).alarms).map Alarm.uncounted).Perm
      (s.alarms.map Alarm.uncounted) := by
  rw [after_of_removes s hcs, alarms_without, List.map_append]
  refine ((s.handOuts_perm hcs).append_right _).trans ?_
  rw [← List.map_append]
  exact (List.filter_append_perm _ s.alarms).map Alarm.uncounted

theorem value_cancel (k : Candidates) :
    (s.cancel k).value = s.alarms.filter fun a => a.target.isNamedBy k := by
  simp only [Target.isNamedBy_eq]
  rfl

theorem store_cancel (k : Candidates) :
    (s.cancel k).store = s.without fun a => a.target.isNamedBy k := by
  simp only [Target.isNamedBy_eq]
  rfl

theorem value_cancel_listenerOnly (k : Candidates) :
    ((s.cancel k.callbackOnly).store.cancel k.listenerOnly).value =
      (s.cancel k.listenerOnly).value := by
  rw [value_cancel, store_cancel, alarms_without, List.filter_filter, value_cancel]
  apply List.filter_congr
  intro a _
  cases h : a.target.isNamedBy k.listenerOnly with
  | true => simp [Target.not_isNamedBy_callbackOnly h]
  | false => rfl

theorem store_cancel_both (k : Candidates) :
    (s.cancel k).store = ((s.cancel k.callbackOnly).store.cancel k.listenerOnly).store := by
  simp only [store_cancel, without_without, ← Target.isNamedBy_eq_or]

theorem value_cancel_perm (k : Candidates) :
    (s.cancel k).value.Perm
      ((s.cancel k.callbackOnly).value ++
        ((s.cancel k.callbackOnly).store.cancel k.listenerOnly).value) := by
  have h := filter_or_perm (fun a : Alarm => a.target.isNamedBy k.callbackOnly)
    (fun a => a.target.isNamedBy k.listenerOnly) s.alarms
  simp only [← Target.isNamedBy_eq_or] at h
  simpa only [value_cancel, store_cancel, alarms_without] using h.symm

theorem value_cancel_eq_inOrder (k : Candidates) :
    (s.cancel k).value =
      s.inOrder ((s.cancel k.callbackOnly).value ++
        ((s.cancel k.callbackOnly).store.cancel k.listenerOnly).value) := by
  rw [value_cancel_listenerOnly, inOrder, value_cancel]
  apply List.filter_congr
  intro a ha
  simp [value_cancel, ha, Target.isNamedBy_eq_or a.target k]

theorem cancelsTargets : s.CancelsTargets where
  removed := s.value_cancel
  kept := s.store_cancel
  byHandle k l hc hl := by
    have hnamed (a : Alarm) : a.isOneOf k = a.isOneOf l := by
      rw [← Alarm.removedBy_cancel, ← Alarm.removedBy_cancel]
      exact Target.isNamedBy_congr hc hl
    simp only [cancel, hnamed]
  noListener k a ha := by
    rw [value_cancel] at ha
    exact Target.listener?_of_isNamedBy (List.mem_filter.mp ha).2
  noCallback k a ha := by
    rw [value_cancel] at ha
    exact Target.callback?_of_isNamedBy (List.mem_filter.mp ha).2
  both k := ⟨s.value_cancel_listenerOnly k, s.store_cancel_both k, s.value_cancel_perm k,
    s.value_cancel_eq_inOrder k⟩
  neither := by
    have hnone (a : Alarm) : a.isOneOf ⟨none, none⟩ = false := by
      rw [← Alarm.removedBy_cancel, Alarm.removedBy]
      cases a.target <;> rfl
    simp [cancel, removed, hnone, without_false]

theorem removals_commute (s : Store) {cs ds : List Command}
    (hcs : ∀ c ∈ cs, c.removes = true) (h : cs.Perm ds) :
    s.after cs = s.after ds ∧
      ((s.handOuts cs).flatten.map Alarm.uncounted).Perm
        ((s.handOuts ds).flatten.map Alarm.uncounted) ∧
      (((s.handOuts cs).flatten ++ (s.after cs).alarms).map Alarm.uncounted).Perm
        (s.alarms.map Alarm.uncounted) ∧
      (∀ (n : Nat) (c : Command), cs[n]? = some c → (s.handOuts cs)[n]? =
        some (c.handOut (s.alarms.filter fun a => cs.findIdx? a.removedBy == some n))) ∧
      s.CancelsTargets := by
  have hds : ∀ d ∈ ds, d.removes = true := fun d hd => hcs d (h.mem_iff.mpr hd)
  have hany (a : Alarm) : cs.any a.removedBy = ds.any a.removedBy := h.any_eq
  refine ⟨?_, ?_, s.handOuts_append_alarms_perm hcs, fun n c hn => s.handOuts_getElem? hcs hn,
    s.cancelsTargets⟩
  · rw [after_of_removes s hcs, after_of_removes s hds]
    simp only [hany]
  · have hgone := s.handOuts_perm hcs
    simp only [hany] at hgone
    exact hgone.trans (s.handOuts_perm hds).symm

def sevens : Store :=
  let call (handle elapsed : UInt64) (target : Target) : Command :=
    .schedule (.ofRequest (.exact ⟨.elapsed, true⟩ (elapsed + handle) target 1 "clock"))
  (ofLimits Limits.standard).after
    [call 7 10 (.callback ⟨7, 2, "bell", "ring"⟩), call 7 20 (.listener ⟨7⟩ "ring"),
      call 8 30 (.callback ⟨8, 2, "bell", "ring"⟩), call 9 40 (.listener ⟨9⟩ "ring"),
      call 9 90 (.callback ⟨9, 2, "door", "knock"⟩)]

def sevensRemovals : List Command :=
  [.takeDue 27, .cancel ⟨some ⟨7, 0, "", ""⟩, some ⟨7⟩⟩, .cancelPackage "bell",
    .cancel ⟨none, some ⟨9⟩⟩]

theorem removals_commute_sevens :
    (∀ c ∈ sevensRemovals, c.removes = true) ∧ sevensRemovals.Perm sevensRemovals.reverse ∧
      sevens.after sevensRemovals = sevens.after sevensRemovals.reverse ∧
      ((sevens.handOuts sevensRemovals).flatten.map Alarm.uncounted).Perm
        ((sevens.handOuts sevensRemovals.reverse).flatten.map Alarm.uncounted) ∧
      (((sevens.handOuts sevensRemovals).flatten ++ (sevens.after sevensRemovals).alarms).map
        Alarm.uncounted).Perm (sevens.alarms.map Alarm.uncounted) ∧
      (sevens.handOuts sevensRemovals)[1]? = some [] ∧
      (sevens.handOuts sevensRemovals.reverse)[2]? =
        some (sevens.alarms.filter fun a => a.target.listener? == some ⟨7⟩) ∧
      sevens.CancelsTargets := by
  have hremoves : ∀ c ∈ sevensRemovals, c.removes = true := by decide
  have hback : ∀ c ∈ sevensRemovals.reverse, c.removes = true := by decide
  have hperm : sevensRemovals.Perm sevensRemovals.reverse := (List.reverse_perm _).symm
  obtain ⟨hafter, hgone, hall, hturn, hcancel⟩ := removals_commute sevens hremoves hperm
  obtain ⟨-, -, -, hturn', -⟩ := removals_commute sevens hback hperm.symm
  exact ⟨hremoves, hperm, hafter, hgone, hall, (hturn 1 _ rfl).trans (by decide +kernel),
    (hturn' 2 _ rfl).trans (by decide +kernel), hcancel⟩

end Store

end AlarmScheduler
