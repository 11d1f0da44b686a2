import AlarmScheduler.Proofs.Store.Essentials
import AlarmScheduler.Proofs.Store.History

namespace AlarmScheduler

def Command.queue (c : Command) (floor : Admission → UInt64) (ps : List Admission) :
    List Admission :=
  match c with
  | .takeDue _ => ps.mergeSort fun p q => floor p ≤ floor q
  | _ => ps

def Admission.Twin (p q : Admission) : Prop :=
  p.index = q.index ∧ p.alarm.essentials = q.alarm.essentials

namespace Store

def leaving (s : Store) (cs : List Command) (n : Nat) : List Admission :=
  match cs[n]? with
  | some c =>
    c.queue (fun p => (p.before cs n).floor)
      ((s.admissions cs).filter fun p => p.removal? cs == some n)
  | none => []

structure Concurs (e f : Command × Reply Outcome) : Prop where
  command : e.1.Alike f.1
  outcome : e.2.value.Alike f.2.value
  answers : e.2.store.AnswersLike f.2.store

end Store

theorem Alarm.any_removedBy_alike {a b : Alarm} (h : a.essentials = b.essentials)
    {x y : Option Command} (hxy : Option.Rel Command.Alike x y) :
    x.any a.removedBy = y.any b.removedBy := by
  cases hxy with
  | none => rfl
  | some hc => exact removedBy_alike h hc

section Alike

variable {cs ds : List Command} (hcs : List.Forall₂ Command.Alike cs ds)

include hcs

theorem filterMap_push?_alike (package : String) :
    cs.filterMap (Command.push? package) = ds.filterMap (Command.push? package) := by
  induction hcs with
  | nil => rfl
  | cons hc _ ih => rw [List.filterMap_cons, List.filterMap_cons, hc.push?_eq, ih]

theorem Alarm.heldBack_alike {a b : Alarm} (h : a.essentials = b.essentials) :
    (a.heldBack cs).essentials = (b.heldBack ds).essentials := by
  rw [heldBack, heldBack, sourcePackage_eq_of_essentials h, filterMap_push?_alike hcs]
  cases (ds.filterMap (Command.push? b.sourcePackage)).getLast? with
  | none => exact h
  | some earliest => exact withStandby_alike h earliest

theorem Alarm.removal?_alike {a b : Alarm} (h : a.essentials = b.essentials) :
    a.removal? cs = b.removal? ds := by
  rw [removal?, removal?, hcs.length_eq]
  congr 1
  funext n
  have hheld := heldBack_alike (List.forall₂_take n hcs) h
  exact any_removedBy_alike hheld (forall₂_getElem? hcs n)

theorem Admission.before_alike {p q : Admission} (h : p.Twin q) (n : Nat) :
    (p.before cs n).essentials = (q.before ds n).essentials := by
  rw [before, before, h.1]
  exact Alarm.heldBack_alike (List.forall₂_drop _ (List.forall₂_take n hcs)) h.2

theorem Admission.removal?_alike {p q : Admission} (h : p.Twin q) :
    p.removal? cs = q.removal? ds := by
  rw [removal?, removal?, h.1, Alarm.removal?_alike (List.forall₂_drop _ hcs) h.2]

end Alike

theorem Store.Concurs.admission {e f : Command × Reply Outcome} (h : Store.Concurs e f) (n : Nat) :
    Option.Rel Admission.Twin ((e.1.admitted? e.2.value).map (Admission.mk n))
      ((f.1.admitted? f.2.value).map (Admission.mk n)) := by
  have hnew := h.outcome.newcomer? h.command
  rw [← Command.map_alarm_newcomer?, ← Command.map_alarm_newcomer?]
  generalize e.1.newcomer? e.2.value = x at hnew ⊢
  generalize f.1.newcomer? f.2.value = y at hnew ⊢
  cases hnew with
  | none => exact .none
  | some hef => exact .some ⟨rfl, hef.2⟩

namespace Command

theorem handOut_map (c : Command) (f : Admission → Alarm) (ps : List Admission) :
    c.handOut (ps.map f) = (c.queue (fun p => (f p).floor) ps).map fun p => c.counted (f p) := by
  cases c with
  | takeDue now =>
    have hsort : (ps.mergeSort fun p q => (f p).floor ≤ (f q).floor).map f =
        (ps.map f).mergeSort fun a b => a.floor ≤ b.floor := List.map_mergeSort fun _ _ _ _ => rfl
    rw [handOut, ← hsort, List.map_map]
    rfl
  | _ => rfl

theorem map_index_queue_takeDue (now : UInt64) (floor : Admission → UInt64) (ps : List Admission) :
    ((Command.takeDue now).queue floor ps).map Admission.index =
      ((ps.map fun p => (p.index, floor p)).mergeSort fun x y => x.2 ≤ y.2).map Prod.fst := by
  rw [← List.map_mergeSort (r := fun p q => floor p ≤ floor q) fun _ _ _ _ => rfl, List.map_map]
  rfl

theorem Alike.queue {c d : Command} (hc : c.Alike d) {f g : Admission → UInt64}
    (hfg : ∀ p q : Admission, p.Twin q → f p = g q) {ps qs : List Admission}
    (h : List.Forall₂ Admission.Twin ps qs) :
    (c.queue f ps).map Admission.index = (d.queue g qs).map Admission.index := by
  cases hc with
  | takeDue now =>
    have hkey : (ps.map fun p => (p.index, f p)) = qs.map fun q => (q.index, g q) := by
      rw [← List.forall₂_eq_eq_eq, List.forall₂_map_left_iff, List.forall₂_map_right_iff]
      exact h.imp fun p q hpq => Prod.ext hpq.1 (hfg p q hpq)
    rw [map_index_queue_takeDue, map_index_queue_takeDue, hkey]
  | _ => exact forall₂_iff_map_eq.mp (h.imp fun _ _ hpq => hpq.1)

end Command

namespace Store

variable {s t : Store} {cs ds : List Command}

theorem Twins.journal (h : s.Twins t) (hcs : List.Forall₂ Command.Alike cs ds) :
    List.Forall₂ Concurs (s.journal cs) (t.journal ds) := by
  have hstep {s t : Store} {c d : Command} (h : s.Twins t) (hc : c.Alike d) :
      Concurs (c, s.step c) (d, t.step d) ∧ (s.step c).store.Twins (t.step d).store :=
    ⟨⟨hc, h.outcome_step hc, (h.step hc).answersLike⟩, h.step hc⟩
  exact (lockstep hstep h hcs).1

theorem Twins.admissions (h : s.Twins t) (hcs : List.Forall₂ Command.Alike cs ds) :
    List.Forall₂ Admission.Twin (s.admissions cs) (t.admissions ds) := by
  refine List.rel_filterMap ?_ (forall₂_zipIdx (h.journal hcs) 0)
  rintro ⟨e, n⟩ ⟨f, m⟩ ⟨hef, rfl⟩
  exact hef.admission n

theorem Twins.leaving (h : s.Twins t) (hcs : List.Forall₂ Command.Alike cs ds) (n : Nat) :
    (s.leaving cs n).map Admission.index = (t.leaving ds n).map Admission.index := by
  have hgone : List.Forall₂ Admission.Twin
      ((s.admissions cs).filter fun p => p.removal? cs == some n)
      ((t.admissions ds).filter fun q => q.removal? ds == some n) := by
    refine List.rel_filter ?_ (h.admissions hcs)
    intro p q hpq
    simp only [Admission.removal?_alike hcs hpq]
  have hfloor (p q : Admission) (hpq : p.Twin q) :
      (p.before cs n).floor = (q.before ds n).floor :=
    Alarm.floor_eq_of_essentials (Admission.before_alike hcs hpq n)
  rw [Store.leaving, Store.leaving]
  have hc := forall₂_getElem? hcs n
  generalize cs[n]? = x at hc ⊢
  generalize ds[n]? = y at hc ⊢
  cases hc with
  | none => rfl
  | some hc => exact hc.queue hfloor hgone

theorem handOut_journal {l : Limits} {n : Nat} {e : Command × Reply Outcome}
    (h : ((ofLimits l).journal cs)[n]? = some e) :
    e.2.value.alarms = ((ofLimits l).leaving cs n).map fun p => e.1.counted (p.before cs n) := by
  obtain ⟨c, r⟩ := e
  obtain ⟨hs, hn, rfl⟩ := split_of_journal h
  have hl : (cs.take n).length = n := List.length_take_of_le (Nat.le_of_lt hn)
  have hlost := lostAt_append (ofLimits l) (cs.take n) (cs.drop (n + 1)) c
  rw [← hs, hl] at hlost
  have hc : cs[n]? = some c := by
    rw [hs, List.getElem?_append_right (Nat.le_of_eq hl), hl, Nat.sub_self,
      List.getElem?_cons_zero]
  rw [handOut_step, alarms_eq_kept, ← hlost, Store.leaving, hc]
  exact c.handOut_map _ _

theorem metadata_opaque (l : Limits) (cs ds : List Command)
    (h : List.Forall₂ Command.Alike cs ds) :
    List.Forall₂ Concurs ((ofLimits l).journal cs) ((ofLimits l).journal ds) ∧
      ((ofLimits l).admissions cs).map Admission.index =
        ((ofLimits l).admissions ds).map Admission.index ∧
      ∀ (n : Nat) (e f : Command × Reply Outcome),
        ((ofLimits l).journal cs)[n]? = some e → ((ofLimits l).journal ds)[n]? = some f →
          e.2.value.alarms =
              ((ofLimits l).leaving cs n).map (fun p => e.1.counted (p.before cs n)) ∧
            f.2.value.alarms =
              ((ofLimits l).leaving ds n).map (fun p => f.1.counted (p.before ds n)) ∧
            ((ofLimits l).leaving cs n).map Admission.index =
              ((ofLimits l).leaving ds n).map Admission.index := by
  have hstart : (ofLimits l).Twins (ofLimits l) := ⟨rfl, rfl, .nil⟩
  refine ⟨hstart.journal h, ?_, ?_⟩
  · exact forall₂_iff_map_eq.mp ((hstart.admissions h).imp fun _ _ hpq => hpq.1)
  · intro n e f he hf
    exact ⟨handOut_journal he, handOut_journal hf, hstart.leaving h n⟩

def plainBell (handle elapsed : UInt64) : Alarm :=
  .ofRequest (.exact ⟨.elapsed, true⟩ elapsed (.callback ⟨handle, 1, "clock", "bell"⟩) 1 "clock")

def adornedBell (handle elapsed : UInt64) : Alarm :=
  let r := Request.exact ⟨.wall, true⟩ elapsed (.callback ⟨handle, 77, "clock", "chime"⟩) 1 "agent"
  { Alarm.ofRequest
      { r with
        requestedTime := 1700000000000
        repeatInterval := 60000
        workSource := some [3, 4]
        flags := ⟨5⟩
        alarmClock := some ⟨9, "seven o'clock"⟩ } with
    deliveries := 4294967295
    priority := some ⟨2, -1⟩ }

def bellCommands (bell : UInt64 → UInt64 → Alarm) : List Command :=
  [.schedule (bell 1 10), .schedule (bell 2 5), .schedule (bell 3 7), .setStandby "clock" 8,
    .takeDue 8, .schedule (bell 2 20), .cancelPackage "clock"]

theorem metadata_opaque_bells :
    List.Forall₂ Command.Alike (bellCommands plainBell) (bellCommands adornedBell) ∧
      List.Forall₂ Concurs ((ofLimits ⟨2, 3⟩).journal (bellCommands plainBell))
        ((ofLimits ⟨2, 3⟩).journal (bellCommands adornedBell)) ∧
      ((ofLimits ⟨2, 3⟩).admissions (bellCommands plainBell)).map Admission.index =
        ((ofLimits ⟨2, 3⟩).admissions (bellCommands adornedBell)).map Admission.index ∧
      ∀ (n : Nat) (e f : Command × Reply Outcome),
        ((ofLimits ⟨2, 3⟩).journal (bellCommands plainBell))[n]? = some e →
          ((ofLimits ⟨2, 3⟩).journal (bellCommands adornedBell))[n]? = some f →
            e.2.value.alarms = ((ofLimits ⟨2, 3⟩).leaving (bellCommands plainBell) n).map
                (fun p => e.1.counted (p.before (bellCommands plainBell) n)) ∧
              f.2.value.alarms = ((ofLimits ⟨2, 3⟩).leaving (bellCommands adornedBell) n).map
                (fun p => f.1.counted (p.before (bellCommands adornedBell) n)) ∧
              ((ofLimits ⟨2, 3⟩).leaving (bellCommands plainBell) n).map Admission.index =
                ((ofLimits ⟨2, 3⟩).leaving (bellCommands adornedBell) n).map Admission.index := by
  have halike : List.Forall₂ Command.Alike (bellCommands plainBell) (bellCommands adornedBell) :=
    .cons (.schedule rfl) <| .cons (.schedule rfl) <| .cons (.schedule rfl) <|
      .cons (.setStandby _ _) <| .cons (.takeDue _) <| .cons (.schedule rfl) <|
        .cons (.cancelPackage _) .nil
  exact ⟨halike, metadata_opaque ⟨2, 3⟩ _ _ halike⟩

end Store

end AlarmScheduler
