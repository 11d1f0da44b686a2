import AlarmScheduler.Proofs.Lists
import AlarmScheduler.Store.Lemmas

namespace AlarmScheduler

def Target.isNamedBy (t : Target) (cs : Candidates) : Bool :=
  match t with
  | .callback c => cs.callback.any fun d => d.handle == c.handle
  | .listener l _ => cs.listener.any fun m => m.handle == l.handle

def Alarm.removedBy (a : Alarm) : Command → Bool
  | .schedule _ => false
  | .cancel cs => a.target.isNamedBy cs
  | .cancelPackage package => a.sourcePackage == package
  | .setStandby _ _ => false
  | .takeDue now => a.window.requester ≤ now && a.window.standby ≤ now

def Command.push? (package : String) : Command → Option UInt64
  | .setStandby p earliest => if p = package then some earliest else none
  | _ => none

def Alarm.withStandby (a : Alarm) (earliest : UInt64) : Alarm where
  toRecord := { a.toRecord with window := .ofSlots a.window.requester earliest a.window.length }
  sound := ⟨a.owned, a.tagged, Window.settled_ofSlots _ _ _⟩

def Alarm.pushed (a : Alarm) (c : Command) : Alarm :=
  match c.push? a.sourcePackage with
  | some earliest => a.withStandby earliest
  | none => a

def Entry.pushed (e : Entry) (c : Command) : Entry := { e with alarm := e.alarm.pushed c }

def Command.counted : Command → Alarm → Alarm
  | .takeDue _, a => a.deliveredTimes 1
  | _, a => a

def Command.handOut : Command → List Alarm → List Alarm
  | .takeDue _, as => (as.mergeSort fun a b => a.floor ≤ b.floor).map (Alarm.deliveredTimes 1)
  | _, as => as

/-- Each alarm of `as` counted once more, the earlier ones first and those of one floor as they
stood. -/
structure DeliveredInOrder (as out : List Alarm) : Prop where
  counted : out.Perm (as.map (Alarm.deliveredTimes 1))
  ascending : out.Pairwise fun a b => a.floor ≤ b.floor
  stable : ∀ t, (out.filter fun a => a.floor == t) =
    (as.map (Alarm.deliveredTimes 1)).filter fun a => a.floor == t

def Command.HandsOut : Command → List Alarm → List Alarm → Prop
  | .takeDue _, as, out => DeliveredInOrder as out
  | _, as, out => out = as

def Command.removes : Command → Bool
  | .schedule _ => false
  | .cancel _ => true
  | .cancelPackage _ => true
  | .setStandby _ _ => false
  | .takeDue _ => true

def Command.sought? : Command → Option Alarm
  | .schedule a => some a
  | _ => none

def Command.admitted? : Command → Outcome → Option Alarm
  | .schedule a, .scheduled (.ok _) => some a
  | _, _ => none

def Command.newcomer? : Command → Outcome → Option Entry
  | .schedule a, .scheduled (.ok id) => some ⟨id, a⟩
  | _, _ => none

def Outcome.alarms : Outcome → List Alarm
  | .removed as => as
  | _ => []

theorem Target.isNamedBy_eq (t : Target) (cs : Candidates) : t.isNamedBy cs = t.isOneOf cs := by
  cases t with
  | callback c =>
    cases h : cs.callback with
    | none => simp [isNamedBy, isOneOf, h]
    | some d => simp [isNamedBy, isOneOf, h, Callback.same, Bool.beq_comm]
  | listener l tag =>
    cases h : cs.listener with
    | none => simp [isNamedBy, isOneOf, h]
    | some m =>
      obtain ⟨i⟩ := l
      obtain ⟨j⟩ := m
      have hb : ((⟨j⟩ : Listener) == ⟨i⟩) = (j == i) := by
        rw [Bool.eq_iff_iff]
        simp only [beq_iff_eq, Listener.mk.injEq]
      simp [isNamedBy, isOneOf, h, hb]

namespace Alarm

theorem removedBy_cancel (a : Alarm) (cs : Candidates) :
    a.removedBy (.cancel cs) = a.isOneOf cs :=
  a.target.isNamedBy_eq cs

theorem removedBy_takeDue (a : Alarm) (now : UInt64) :
    a.removedBy (.takeDue now) = a.isDue now := by
  rw [Bool.eq_iff_iff, isDue_iff]
  simp only [removedBy, Bool.and_eq_true, decide_eq_true_eq]

theorem set_standby (a : Alarm) (earliest : UInt64) :
    a.set .standby earliest = a.withStandby earliest := by
  apply eq_of_record
  show { a.toRecord with window := a.window.set .standby earliest } = _
  rw [Window.set_standby]
  rfl

theorem apply_pushed {β : Type} (f : Alarm → β) {a : Alarm}
    (hf : ∀ earliest, f (a.withStandby earliest) = f a) (c : Command) : f (a.pushed c) = f a := by
  rw [pushed]
  split
  · exact hf _
  · rfl

theorem sourcePackage_pushed (a : Alarm) (c : Command) :
    (a.pushed c).sourcePackage = a.sourcePackage :=
  apply_pushed sourcePackage (fun _ => rfl) c

theorem uid_pushed (a : Alarm) (c : Command) : (a.pushed c).uid = a.uid :=
  apply_pushed uid (fun _ => rfl) c

theorem wakes_pushed (a : Alarm) (c : Command) : (a.pushed c).kind.wakes = a.kind.wakes :=
  apply_pushed (fun b => b.kind.wakes) (fun _ => rfl) c

theorem tag_pushed (a : Alarm) (c : Command) : (a.pushed c).tag = a.tag :=
  apply_pushed (fun b => b.tag) (fun _ => rfl) c

theorem pushed_setStandby (a : Alarm) (package : String) (earliest : UInt64) :
    a.pushed (.setStandby package earliest) =
      if a.isFrom package then a.set .standby earliest else a := by
  rw [set_standby]
  by_cases h : package = a.sourcePackage
  · simp [pushed, Command.push?, isFrom, h]
  · simp [pushed, Command.push?, isFrom, h, Ne.symm h]

end Alarm

theorem Entry.push_eq_pushed (package : String) (earliest : UInt64) (e : Entry) :
    e.push package earliest = e.pushed (.setStandby package earliest) := by
  rw [push, pushed, Alarm.pushed_setStandby]
  split <;> rfl

theorem Entry.pushed_of_removes {c : Command} (hc : c.removes = true) (e : Entry) :
    e.pushed c = e := by
  cases c with
  | schedule a => cases hc
  | setStandby package earliest => cases hc
  | _ => rfl

theorem Entry.moves_eq (package : String) (earliest : UInt64) (e : Entry) :
    e.moves package earliest =
      ((e.alarm.pushed (.setStandby package earliest)).bounds != e.alarm.bounds) := by
  rw [moves, Alarm.pushed_setStandby]
  cases h : e.alarm.isFrom package with
  | true => exact e.alarm.window.moves_eq .standby earliest
  | false => simp

theorem deliveredInOrder_sortedByFloor (as : List Alarm) :
    DeliveredInOrder as ((sortedByFloor as).map (Alarm.deliveredTimes 1)) where
  counted := (sortedByFloor_perm as).map _
  ascending := List.pairwise_map.mpr (sortedByFloor_pairwise as)
  stable t := by
    rw [List.filter_map, List.filter_map]
    exact congrArg (List.map (Alarm.deliveredTimes 1)) (filter_floor_sortedByFloor as t)

namespace Command

theorem eq_schedule_of_sought? {c : Command} {a : Alarm} (h : c.sought? = some a) :
    c = .schedule a := by
  cases c with
  | schedule b => rw [Option.some.inj h]
  | _ => cases h

theorem admitted?_of_sought? {c : Command} (h : c.sought? = none) (o : Outcome) :
    c.admitted? o = none := by
  cases c with
  | schedule a => cases h
  | _ => rfl

theorem handOut_perm (c : Command) (as : List Alarm) : (c.handOut as).Perm (as.map c.counted) := by
  cases c with
  | takeDue now => exact (sortedByFloor_perm as).map _
  | _ => exact .of_eq (List.map_id as).symm

theorem handsOut_handOut (c : Command) (as : List Alarm) : c.HandsOut as (c.handOut as) := by
  cases c with
  | takeDue now => exact deliveredInOrder_sortedByFloor as
  | _ => exact rfl

end Command

theorem Command.map_alarm_newcomer? (c : Command) (o : Outcome) :
    (c.newcomer? o).map Entry.alarm = c.admitted? o := by
  cases c with
  | schedule a =>
    cases o with
    | scheduled answer => cases answer <;> rfl
    | removed as => rfl
    | moved changed => rfl
  | _ => rfl

namespace Store

def ids (s : Store) : List AlarmId := s.entries.map Entry.id

theorem freshId_val (s : Store) :
    s.freshId.val = AlarmId.firstFree (s.ids.map AlarmId.val) s.nextId := by
  rw [freshId, ids, List.map_map]
  rfl

def journal (s : Store) (cs : List Command) : List (Command × Reply Outcome) := cs.zip (s.run cs)

theorem journal_cons (s : Store) (c : Command) (cs : List Command) :
    s.journal (c :: cs) = (c, s.step c) :: (s.step c).store.journal cs := rfl

theorem after_cons (s : Store) (c : Command) (cs : List Command) :
    s.after (c :: cs) = (s.step c).store.after cs := rfl

theorem after_append (s : Store) (cs ds : List Command) :
    s.after (cs ++ ds) = (s.after cs).after ds :=
  List.foldl_append

theorem journal_append (s : Store) (cs ds : List Command) :
    s.journal (cs ++ ds) = s.journal cs ++ (s.after cs).journal ds := by
  induction cs generalizing s with
  | nil => rfl
  | cons c cs ih =>
    rw [List.cons_append, journal_cons, journal_cons, ih]
    rfl

theorem length_journal (s : Store) (cs : List Command) : (s.journal cs).length = cs.length := by
  induction cs generalizing s with
  | nil => rfl
  | cons c cs ih => rw [journal_cons, List.length_cons, List.length_cons, ih]

theorem lockstep {Same : Store → Store → Prop} {Twin : Command → Command → Prop}
    {Match : Command × Reply Outcome → Command × Reply Outcome → Prop}
    (hstep : ∀ {s t c d}, Same s t → Twin c d →
      Match (c, s.step c) (d, t.step d) ∧ Same (s.step c).store (t.step d).store)
    {s t : Store} (h : Same s t) {cs ds : List Command} (hcs : List.Forall₂ Twin cs ds) :
    List.Forall₂ Match (s.journal cs) (t.journal ds) ∧ Same (s.after cs) (t.after ds) := by
  induction hcs generalizing s t with
  | nil => exact ⟨.nil, h⟩
  | cons hc _ ih =>
    obtain ⟨hmatch, hnext⟩ := hstep h hc
    obtain ⟨hrest, hlast⟩ := ih hnext
    exact ⟨.cons hmatch hrest, hlast⟩

theorem split_of_journal {s : Store} {cs : List Command} {n : Nat} {c : Command}
    {r : Reply Outcome} (h : (s.journal cs)[n]? = some (c, r)) :
    cs = cs.take n ++ c :: cs.drop (n + 1) ∧ n < cs.length ∧ r = (s.after (cs.take n)).step c := by
  have hn : n < cs.length := by
    rw [← length_journal s cs]
    exact (List.getElem?_eq_some_iff.mp h).1
  have hs : cs = cs.take n ++ cs[n] :: cs.drop (n + 1) := by
    rw [← List.drop_eq_getElem_cons hn, List.take_append_drop]
  have hl : ((s.journal (cs.take n)).length) = n := by
    rw [length_journal, List.length_take, Nat.min_eq_left (Nat.le_of_lt hn)]
  rw [hs, journal_append, List.getElem?_append_right (Nat.le_of_eq hl), hl, Nat.sub_self,
    journal_cons, List.getElem?_cons_zero, Option.some.injEq, Prod.mk.injEq] at h
  obtain ⟨rfl, rfl⟩ := h
  exact ⟨hs, hn, rfl⟩

theorem store_step_of_removes (s : Store) {c : Command} (hc : c.removes = true) :
    (s.step c).store = s.without fun a => a.removedBy c := by
  cases c with
  | schedule a => cases hc
  | cancel k =>
    simp only [Alarm.removedBy_cancel]
    rfl
  | cancelPackage package => rfl
  | setStandby package earliest => cases hc
  | takeDue now =>
    simp only [Alarm.removedBy_takeDue]
    rfl

theorem entries_step_of_removes (s : Store) {c : Command} (hc : c.removes = true) :
    (s.step c).store.entries =
      (s.entries.filter fun e => !e.alarm.removedBy c).map fun e => e.pushed c := by
  rw [store_step_of_removes s hc]
  simp only [without, Entry.pushed_of_removes hc, List.map_id']

theorem entries_step (s : Store) (c : Command) :
    (s.step c).store.entries =
      (s.entries.filter fun e => !e.alarm.removedBy c).map (fun e => e.pushed c)
        ++ (c.newcomer? (s.step c).value).toList := by
  cases c with
  | schedule a =>
    have hkept : (s.entries.filter fun e => !e.alarm.removedBy (.schedule a)) = s.entries :=
      List.filter_eq_self.mpr fun _ _ => rfl
    have hid : (fun e : Entry => e.pushed (.schedule a)) = id := rfl
    rw [hkept, hid, List.map_id]
    simp only [step, Reply.map, schedule]
    cases s.refusal? a with
    | none => rfl
    | some r => cases r <;> exact (List.append_nil _).symm
  | cancel cs => exact (s.entries_step_of_removes rfl).trans (List.append_nil _).symm
  | cancelPackage package => exact (s.entries_step_of_removes rfl).trans (List.append_nil _).symm
  | setStandby package earliest =>
    have hkept : (s.entries.filter fun e => !e.alarm.removedBy (.setStandby package earliest)) =
        s.entries := List.filter_eq_self.mpr fun _ _ => rfl
    simp only [hkept, ← Entry.push_eq_pushed]
    exact (List.append_nil _).symm
  | takeDue now => exact (s.entries_step_of_removes rfl).trans (List.append_nil _).symm

theorem nextId_step (s : Store) (c : Command) :
    (s.step c).store.nextId =
      (c.newcomer? (s.step c).value).elim s.nextId fun e => AlarmId.after e.id.val := by
  cases c with
  | schedule a =>
    simp only [step, Reply.map, schedule]
    cases s.refusal? a with
    | none => rfl
    | some r => cases r <;> rfl
  | _ => rfl

theorem alarms_step (s : Store) (c : Command) :
    (s.step c).store.alarms =
      (s.alarms.filter fun a => !a.removedBy c).map (fun a => a.pushed c)
        ++ (c.admitted? (s.step c).value).toList := by
  rw [alarms, entries_step, List.map_append, ← Option.toList_map, Command.map_alarm_newcomer?,
    alarms, List.filter_map, List.map_map, List.map_map]
  rfl

theorem entries_setStandby (s : Store) (package : String) (earliest : UInt64) :
    (s.setStandby package earliest).store.entries =
      s.entries.map fun e => e.pushed (.setStandby package earliest) := by
  rw [← funext (Entry.push_eq_pushed package earliest)]
  rfl

theorem value_setStandby (s : Store) (package : String) (earliest : UInt64) :
    (s.setStandby package earliest).value =
      s.alarms.any fun a => (a.pushed (.setStandby package earliest)).bounds != a.bounds := by
  rw [alarms, List.any_map]
  exact congrArg s.entries.any (funext (Entry.moves_eq package earliest))

theorem value_step_schedule (s : Store) (a : Alarm) :
    (s.step (.schedule a)).value =
      .scheduled (match s.refusal? a with
        | some r => .error r
        | none => .ok s.freshId) :=
  congrArg Outcome.scheduled (value_schedule s a)

theorem handOut_step (s : Store) (c : Command) :
    (s.step c).value.alarms = c.handOut (s.alarms.filter fun a => a.removedBy c) := by
  cases c with
  | schedule a => simp [step, Reply.map, Outcome.alarms, Alarm.removedBy, Command.handOut]
  | cancel cs =>
    simp only [Alarm.removedBy_cancel]
    rfl
  | cancelPackage package => rfl
  | setStandby package earliest =>
    simp [step, Reply.map, Outcome.alarms, Alarm.removedBy, Command.handOut]
  | takeDue now =>
    simp only [Alarm.removedBy_takeDue, Command.handOut, funext Alarm.deliveredTimes_one]
    rfl

end Store

end AlarmScheduler
