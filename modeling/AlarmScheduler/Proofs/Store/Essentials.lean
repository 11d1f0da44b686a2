import AlarmScheduler.Proofs.Store.Queries

namespace AlarmScheduler

inductive Callee where
  | callback (handle : UInt64)
  | listener (handle : UInt64)
  deriving DecidableEq

def Target.callee : Target → Callee
  | .callback c => .callback c.handle
  | .listener l _ => .listener l.handle

structure Essentials where
  uid : UInt32
  sourcePackage : String
  callee : Callee
  wakes : Bool
  window : Window
  deriving DecidableEq

def Alarm.essentials (a : Alarm) : Essentials :=
  ⟨a.uid, a.sourcePackage, a.target.callee, a.kind.wakes, a.window⟩

inductive Command.Alike : Command → Command → Prop
  | schedule {a b : Alarm} (h : a.essentials = b.essentials) : Alike (.schedule a) (.schedule b)
  | cancel (cs : Candidates) : Alike (.cancel cs) (.cancel cs)
  | cancelPackage (package : String) : Alike (.cancelPackage package) (.cancelPackage package)
  | setStandby (package : String) (earliest : UInt64) :
      Alike (.setStandby package earliest) (.setStandby package earliest)
  | takeDue (now : UInt64) : Alike (.takeDue now) (.takeDue now)

inductive Outcome.Alike : Outcome → Outcome → Prop
  | scheduled (answer : Except Refusal AlarmId) : Alike (.scheduled answer) (.scheduled answer)
  | removed {as bs : List Alarm} (h : as.map Alarm.essentials = bs.map Alarm.essentials) :
      Alike (.removed as) (.removed bs)
  | moved (changed : Bool) : Alike (.moved changed) (.moved changed)

def Entry.Twin (e f : Entry) : Prop := e.id = f.id ∧ e.alarm.essentials = f.alarm.essentials

structure Store.Twins (s t : Store) : Prop where
  limits : s.limits = t.limits
  nextId : s.nextId = t.nextId
  entries : List.Forall₂ Entry.Twin s.entries t.entries

theorem Target.isNamedBy_eq_of_callee {t u : Target} (h : t.callee = u.callee) (cs : Candidates) :
    t.isNamedBy cs = u.isNamedBy cs := by
  cases t with
  | callback c =>
    cases u with
    | callback d =>
      have hh : c.handle = d.handle := Callee.callback.inj h
      simp only [isNamedBy, hh]
    | listener m tag => cases h
  | listener l tag =>
    cases u with
    | callback d => cases h
    | listener m tag =>
      have hh : l.handle = m.handle := Callee.listener.inj h
      simp only [isNamedBy, hh]

namespace Command.Alike

theorem push?_eq {c d : Command} (h : c.Alike d) (package : String) :
    c.push? package = d.push? package := by
  cases h <;> rfl

end Command.Alike

namespace Alarm

variable {a b : Alarm} {c d : Command}

theorem uid_eq_of_essentials (h : a.essentials = b.essentials) : a.uid = b.uid :=
  congrArg Essentials.uid h

theorem sourcePackage_eq_of_essentials (h : a.essentials = b.essentials) :
    a.sourcePackage = b.sourcePackage :=
  congrArg Essentials.sourcePackage h

theorem window_eq_of_essentials (h : a.essentials = b.essentials) : a.window = b.window :=
  congrArg Essentials.window h

theorem floor_eq_of_essentials (h : a.essentials = b.essentials) : a.floor = b.floor := by
  rw [floor, floor, window_eq_of_essentials h]

theorem bounds_eq_of_essentials (h : a.essentials = b.essentials) : a.bounds = b.bounds := by
  rw [bounds, bounds, window_eq_of_essentials h]

theorem profile_eq_of_essentials (h : a.essentials = b.essentials) : a.profile = b.profile := by
  have hw : a.kind.wakes = b.kind.wakes := congrArg Essentials.wakes h
  rw [profile, profile, uid_eq_of_essentials h, hw, floor_eq_of_essentials h, ceiling, ceiling,
    window_eq_of_essentials h]

theorem removedBy_alike (h : a.essentials = b.essentials) (hc : c.Alike d) :
    a.removedBy c = b.removedBy d := by
  cases hc with
  | schedule _ => rfl
  | cancel cs => exact Target.isNamedBy_eq_of_callee (congrArg Essentials.callee h) cs
  | cancelPackage package => rw [removedBy, removedBy, sourcePackage_eq_of_essentials h]
  | setStandby package earliest => rfl
  | takeDue now => rw [removedBy, removedBy, window_eq_of_essentials h]

theorem withStandby_alike (h : a.essentials = b.essentials) (earliest : UInt64) :
    (a.withStandby earliest).essentials = (b.withStandby earliest).essentials :=
  congrArg (fun x : Essentials =>
    { x with window := .ofSlots x.window.requester earliest x.window.length }) h

theorem pushed_alike (h : a.essentials = b.essentials) (hc : c.Alike d) :
    (a.pushed c).essentials = (b.pushed d).essentials := by
  rw [pushed, pushed, sourcePackage_eq_of_essentials h, hc.push?_eq]
  cases d.push? b.sourcePackage with
  | none => exact h
  | some earliest => exact withStandby_alike h earliest

theorem moved_alike (h : a.essentials = b.essentials) (hc : c.Alike d) :
    ((a.pushed c).bounds != a.bounds) = ((b.pushed d).bounds != b.bounds) := by
  rw [bounds_eq_of_essentials h, bounds_eq_of_essentials (pushed_alike h hc)]

end Alarm

theorem sortedByFloor_alike {as bs : List Alarm}
    (h : as.map Alarm.essentials = bs.map Alarm.essentials) :
    (sortedByFloor as).map Alarm.essentials = (sortedByFloor bs).map Alarm.essentials := by
  have hkey (cs : List Alarm) : (sortedByFloor cs).map Alarm.essentials =
      (cs.map Alarm.essentials).mergeSort fun x y => x.window.floor ≤ y.window.floor :=
    List.map_mergeSort fun _ _ _ _ => rfl
  rw [hkey, hkey, h]

theorem Command.Alike.handOut {c d : Command} (hc : c.Alike d) {as bs : List Alarm}
    (h : as.map Alarm.essentials = bs.map Alarm.essentials) :
    (c.handOut as).map Alarm.essentials = (d.handOut bs).map Alarm.essentials := by
  cases hc with
  | takeDue now =>
    have hcount : Alarm.essentials ∘ Alarm.deliveredTimes 1 = Alarm.essentials := rfl
    simp only [Command.handOut, List.map_map, hcount]
    exact sortedByFloor_alike h
  | _ => exact h

theorem Outcome.Alike.newcomer? {o p : Outcome} (ho : o.Alike p) {c d : Command}
    (hc : c.Alike d) : Option.Rel Entry.Twin (c.newcomer? o) (d.newcomer? p) := by
  cases hc with
  | schedule hab =>
    cases ho with
    | scheduled answer =>
      cases answer with
      | error r => exact .none
      | ok id => exact .some ⟨rfl, hab⟩
    | removed _ => exact .none
    | moved _ => exact .none
  | _ => exact .none

theorem elim_after_eq {n m : UInt32} (hn : n = m) {x y : Option Entry}
    (h : Option.Rel Entry.Twin x y) :
    (x.elim n fun e => AlarmId.after e.id.val) = y.elim m fun e => AlarmId.after e.id.val := by
  cases h with
  | none => exact hn
  | some h => exact congrArg (fun id => AlarmId.after id.val) h.1

namespace Store.Twins

variable {s t : Store} {c d : Command}

theorem alarms (h : s.Twins t) : s.alarms.map Alarm.essentials = t.alarms.map Alarm.essentials := by
  rw [Store.alarms, Store.alarms, List.map_map, List.map_map]
  exact forall₂_iff_map_eq.mp (h.entries.imp fun _ _ he => he.2)

theorem ids (h : s.Twins t) : s.ids = t.ids :=
  forall₂_iff_map_eq.mp (h.entries.imp fun _ _ he => he.1)

theorem freshId (h : s.Twins t) : s.freshId = t.freshId := by
  have hval : s.freshId.val = t.freshId.val := by
    rw [freshId_val, freshId_val, h.ids, h.nextId]
  exact congrArg AlarmId.mk hval

theorem answersLike (h : s.Twins t) : s.AnswersLike t := by
  have hp : s.profiles = t.profiles := by
    apply forall₂_iff_map_eq.mp
    exact (forall₂_iff_map_eq.mpr h.alarms).imp fun _ _ => Alarm.profile_eq_of_essentials
  apply answersLike_of_perm
  rw [hp]

theorem handOut_step (h : s.Twins t) (hc : c.Alike d) :
    (s.step c).value.alarms.map Alarm.essentials =
      (t.step d).value.alarms.map Alarm.essentials := by
  rw [Store.handOut_step, Store.handOut_step]
  apply hc.handOut
  apply forall₂_iff_map_eq.mp
  refine List.rel_filter ?_ (forall₂_iff_map_eq.mpr h.alarms)
  intro a b hab
  exact Bool.eq_iff_iff.mp (Alarm.removedBy_alike hab hc)

theorem value_setStandby (h : s.Twins t) (package : String) (earliest : UInt64) :
    (s.setStandby package earliest).value = (t.setStandby package earliest).value := by
  have hmoved :
      (s.alarms.map fun a => (a.pushed (.setStandby package earliest)).bounds != a.bounds) =
        t.alarms.map fun a => (a.pushed (.setStandby package earliest)).bounds != a.bounds := by
    apply forall₂_iff_map_eq.mp
    refine (forall₂_iff_map_eq.mpr h.alarms).imp ?_
    intro a b hab
    exact Alarm.moved_alike hab (.setStandby package earliest)
  have hany := congrArg (fun bs => bs.any id) hmoved
  simp only [List.any_map] at hany
  rw [Store.value_setStandby, Store.value_setStandby]
  exact hany

theorem outcome_step (h : s.Twins t) (hc : c.Alike d) :
    (s.step c).value.Alike (t.step d).value := by
  have hgone := h.handOut_step hc
  cases hc with
  | schedule hab =>
    have hr := h.answersLike.refusal? h.limits (Alarm.uid_eq_of_essentials hab)
    rw [value_step_schedule, value_step_schedule, hr, h.freshId]
    exact .scheduled _
  | cancel cs => exact .removed hgone
  | cancelPackage package => exact .removed hgone
  | setStandby package earliest =>
    simp only [step, Reply.map, h.value_setStandby package earliest]
    exact .moved _
  | takeDue now => exact .removed hgone

theorem step (h : s.Twins t) (hc : c.Alike d) : (s.step c).store.Twins (t.step d).store := by
  have hentry := (h.outcome_step hc).newcomer? hc
  constructor
  · rw [limits_step, limits_step, h.limits]
  · rw [nextId_step, nextId_step]
    exact elim_after_eq h.nextId hentry
  · rw [entries_step, entries_step]
    refine List.rel_append (List.rel_map ?_ (List.rel_filter ?_ h.entries)) (forall₂_toList hentry)
    · intro e f hef
      exact ⟨hef.1, Alarm.pushed_alike hef.2 hc⟩
    · intro e f hef
      exact Bool.eq_iff_iff.mp (congrArg not (Alarm.removedBy_alike hef.2 hc))

end Store.Twins

end AlarmScheduler
