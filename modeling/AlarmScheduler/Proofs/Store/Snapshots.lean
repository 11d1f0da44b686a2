import AlarmScheduler.Proofs.Store.Agenda

namespace AlarmScheduler

inductive Alarm.Change where
  | slot (p : Policy) (earliest : UInt64)
  | count (deliveries : UInt32)
  | rank (priority : Option Priority)

namespace Alarm.Record

def change (a : Record) : Change → Record
  | .slot p earliest => (a.write p earliest).2
  | .count deliveries => { a with deliveries := deliveries }
  | .rank priority => { a with priority := priority }

def changed (a : Record) (xs : List Change) : Record := xs.foldl change a

def made (r : Request) (xs : List Change) : Record := (ofRequest r).changed xs

structure AgreesWith (a : Record) (r : Request) : Prop where
  kind : a.kind = r.kind
  target : a.target = r.target
  owner : a.owner = Owner.of r.uid r.package r.target
  tag : a.tag = r.target.statsTag r.kind
  window : a.window.Settled

theorem agreesWith_ofRequest (r : Request) : (ofRequest r).AgreesWith r :=
  ⟨rfl, rfl, rfl, rfl, Window.settled_anchored _ _⟩

theorem AgreesWith.change {a : Record} {r : Request} (h : a.AgreesWith r) (x : Change) :
    (a.change x).AgreesWith r := by
  cases x with
  | slot p earliest =>
    exact ⟨h.kind, h.target, h.owner, h.tag, a.window.settled_set p earliest⟩
  | count deliveries => exact ⟨h.kind, h.target, h.owner, h.tag, h.window⟩
  | rank priority => exact ⟨h.kind, h.target, h.owner, h.tag, h.window⟩

theorem AgreesWith.changed {a : Record} {r : Request} (h : a.AgreesWith r) (xs : List Change) :
    (a.changed xs).AgreesWith r := by
  induction xs generalizing a with
  | nil => exact h
  | cons x xs ih => exact ih (h.change x)

theorem AgreesWith.sound {a : Record} {r : Request} (h : a.AgreesWith r) : a.Sound := by
  refine ⟨?_, ?_, h.window⟩
  · rw [h.owner, h.target]
    cases r.target <;> rfl
  · rw [h.tag, h.target, h.kind]

theorem changed_append (a : Record) (xs ys : List Change) :
    a.changed (xs ++ ys) = (a.changed xs).changed ys :=
  List.foldl_append

theorem made_append (r : Request) (xs ys : List Change) :
    made r (xs ++ ys) = (made r xs).changed ys :=
  changed_append _ xs ys

theorem agreesWith_made (r : Request) (xs : List Change) : (made r xs).AgreesWith r :=
  (agreesWith_ofRequest r).changed xs

def request (a : Record) : Request where
  kind := a.kind
  requestedTime := a.requestedTime
  requestedElapsed := a.window.requester
  windowLength := a.window.length
  repeatInterval := a.repeatInterval
  target := a.target
  workSource := a.workSource
  flags := a.flags
  alarmClock := a.alarmClock
  uid := a.owner.uid
  package := a.owner.package

def changes (a : Record) : List Change :=
  [.slot .standby a.window.standby, .count a.deliveries, .rank a.priority]

theorem made_request {a : Record} (ha : a.Sound) : made a.request a.changes = a := by
  obtain ⟨howner, htag, hwindow⟩ := ha
  have hset : (Window.anchored a.window.requester a.window.length).set .standby a.window.standby =
      a.window := by
    apply hwindow.eq_of_slots (Window.settled_set _ _ _) rfl
    intro p
    cases p <;> rfl
  show { a with
    owner := Owner.of a.owner.uid a.owner.package a.target
    tag := a.target.statsTag a.kind
    window := (Window.anchored a.window.requester a.window.length).set .standby
      a.window.standby } = a
  rw [← howner, ← htag, hset]

/-- Being sound is no more than being made from a request and changed. -/
theorem sound_iff_made {a : Record} : a.Sound ↔ ∃ r xs, made r xs = a := by
  constructor
  · intro h
    exact ⟨_, _, made_request h⟩
  · rintro ⟨r, xs, rfl⟩
    exact (agreesWith_made r xs).sound

end Alarm.Record

def Alarm.prepared (r : Request) (xs : List Change) : Alarm :=
  ⟨Record.made r xs, Record.sound_iff_made.mpr ⟨r, xs, rfl⟩⟩

namespace Snapshot

def mark (d : Snapshot) : String := if d.kind.wakes then "*walarm*:" else "*alarm*:"

def bareTag (d : Snapshot) : String := String.ofList (d.tag.toList.drop d.mark.length)

structure Consistent (d : Snapshot) (r : Request) : Prop where
  request : d.kind = r.kind ∧ d.uid = r.uid ∧ d.package = r.package
  target : d.operation.isSome = !d.listener.isSome
  operation : ∀ text, d.operation = some text → ∃ c, r.target = .callback c ∧
    text = "Operation\x7b" ++ ("0x" ++ String.ofList (Nat.toDigits 16 c.handle.toNat)) ++ " "
      ++ d.sourcePackage ++ ": " ++ d.bareTag ++ "\x7d"
  listener : ∀ text, d.listener = some text → (∃ l tag, r.target = .listener l tag ∧
    text = "Listener\x7b" ++ ("0x" ++ String.ofList (Nat.toDigits 16 l.handle.toNat)) ++ "\x7d") ∧
      d.creatorUid = d.uid ∧ d.sourcePackage = d.package
  wakeupTag : "*walarm*:".toList <+: d.tag.toList ↔ d.kind.wakes = true
  quietTag : "*alarm*:".toList <+: d.tag.toList ↔ d.kind.wakes = false
  window : ∃ requester standby : UInt64,
    d.slots = [(.requester, requester), (.standby, standby)] ∧
      d.floor.toNat = max requester.toNat standby.toNat ∧
      d.ceiling.toNat =
        max d.floor.toNat (min (requester.toNat + d.windowLength.toNat) (UInt64.size - 1))

end Snapshot

namespace Alarm

variable {a : Alarm} {r : Request}

theorem exists_changed_eq_pushed (a : Alarm) (c : Command) :
    ∃ xs, (a.pushed c).toRecord = a.toRecord.changed xs := by
  cases h : c.push? a.sourcePackage with
  | none =>
    refine ⟨[], ?_⟩
    rw [pushed, h]
    rfl
  | some earliest =>
    have hset : a.pushed c = a.set .standby earliest := by
      rw [pushed, h, set_standby]
    refine ⟨[.slot .standby earliest], ?_⟩
    rw [hset]
    rfl

theorem tag_describe (h : a.tag = a.target.statsTag a.kind) :
    a.describe.tag = a.describe.mark ++ a.target.tag := h

theorem bareTag_describe (h : a.tag = a.target.statsTag a.kind) :
    a.describe.bareTag = a.target.tag := by
  rw [Snapshot.bareTag, tag_describe h, String.toList_append, ← String.length_toList,
    List.drop_left, String.ofList_toList]

theorem describe_consistent (h : a.toRecord.AgreesWith r) : a.describe.Consistent r := by
  have htag : a.tag = a.target.statsTag a.kind := by
    rw [h.tag, h.target, h.kind]
  have howner : a.owner = Owner.of r.uid r.package r.target := h.owner
  have htarget : a.target = r.target := h.target
  constructor
  case request =>
    simp only [describe, howner]
    cases r.target <;> exact ⟨h.kind, rfl, rfl⟩
  case target =>
    simp only [describe]
    cases a.target <;> rfl
  case operation =>
    intro text htext
    rw [bareTag_describe htag]
    simp only [describe, howner, htarget] at htext ⊢
    cases hr : r.target with
    | callback c =>
      rw [hr] at htext
      exact ⟨c, rfl, (Option.some.inj htext).symm⟩
    | listener l tag =>
      rw [hr] at htext
      cases htext
  case listener =>
    intro text htext
    simp only [describe, howner, htarget] at htext ⊢
    cases hr : r.target with
    | callback c =>
      rw [hr] at htext
      cases htext
    | listener l tag =>
      rw [hr] at htext
      exact ⟨⟨l, tag, rfl, (Option.some.inj htext).symm⟩, rfl, rfl⟩
  case wakeupTag =>
    rw [tag_describe htag, String.toList_append, Snapshot.mark]
    cases a.describe.kind.wakes <;> simp
  case quietTag =>
    rw [tag_describe htag, String.toList_append, Snapshot.mark]
    cases a.describe.kind.wakes <;> simp
  case window =>
    exact ⟨a.window.requester, a.window.standby, rfl, h.window.toNat_floor,
      h.window.toNat_ceiling_eq⟩

end Alarm

theorem Command.eq_schedule_of_admitted? {c : Command} {o : Outcome} {a : Alarm}
    (h : c.admitted? o = some a) : c = .schedule a := by
  cases c with
  | schedule b =>
    cases o with
    | scheduled answer =>
      cases answer with
      | error r => cases h
      | ok id => rw [Option.some.inj h]
    | removed as => cases h
    | moved changed => cases h
  | _ => cases h

namespace Store

theorem mem_alarms_step {s : Store} {c : Command} {a : Alarm} (ha : a ∈ (s.step c).store.alarms) :
    (∃ b ∈ s.alarms, a = b.pushed c) ∨ c = .schedule a := by
  rw [alarms_step, List.mem_append, List.mem_map] at ha
  rcases ha with ⟨b, hb, rfl⟩ | ha
  · exact .inl ⟨b, (List.mem_filter.mp hb).1, rfl⟩
  · exact .inr (Command.eq_schedule_of_admitted? (Option.mem_toList.mp ha))

theorem mem_alarms_after {s : Store} {cs : List Command} {a : Alarm}
    (ha : a ∈ (s.after cs).alarms) :
    ∃ b xs, (b ∈ s.alarms ∨ Command.schedule b ∈ cs) ∧ a.toRecord = b.toRecord.changed xs := by
  induction cs generalizing s with
  | nil => exact ⟨a, [], .inl ha, rfl⟩
  | cons c cs ih =>
    obtain ⟨b, xs, hb, hab⟩ := ih ha
    rcases hb with hb | hb
    · rcases mem_alarms_step hb with ⟨e, he, rfl⟩ | rfl
      · obtain ⟨ys, hys⟩ := e.exists_changed_eq_pushed c
        refine ⟨e, ys ++ xs, .inl he, ?_⟩
        rw [hab, hys, Alarm.Record.changed_append]
      · exact ⟨b, xs, .inr List.mem_cons_self, hab⟩
    · exact ⟨b, xs, .inr (List.mem_cons_of_mem c hb), hab⟩

theorem snapshots_consistent (l : Limits) (cs : List Command)
    (h : ∀ a, Command.schedule a ∈ cs → ∃ r xs, a = Alarm.prepared r xs) :
    ∀ d ∈ ((ofLimits l).after cs).describeAll,
      ∃ r xs ys, Command.schedule (Alarm.prepared r xs) ∈ cs ∧
        d = (Alarm.prepared r (xs ++ ys)).describe ∧ d.Consistent r := by
  intro d hd
  rw [(describeAll_perm _).mem_iff, List.mem_map] at hd
  obtain ⟨a, ha, rfl⟩ := hd
  obtain ⟨b, ys, hb | hb, hab⟩ := mem_alarms_after ha
  · cases hb
  · obtain ⟨r, xs, rfl⟩ := h b hb
    have hmade : a.toRecord = .made r (xs ++ ys) := by
      rw [hab, Alarm.Record.made_append]
      rfl
    refine ⟨r, xs, ys, hb, congrArg Alarm.describe (Alarm.eq_of_record hmade), ?_⟩
    apply Alarm.describe_consistent
    rw [hmade]
    exact Alarm.Record.agreesWith_made r (xs ++ ys)

def wakeUpCall : Request :=
  { Request.exact ⟨.wall, true⟩ 100 (.callback ⟨7, 40, "clock", "ring"⟩) 1 "caller" with
    windowLength := 50 }

def nightly : Request := .exact ⟨.elapsed, false⟩ 80 (.listener ⟨9⟩ "sync") 2 "mail"

def throttled : List Command :=
  [.schedule (.prepared wakeUpCall [.slot .standby 120, .count 3]),
    .schedule (.prepared nightly []), .setStandby "mail" 90, .takeDue 95,
    .schedule (.prepared nightly [.slot .standby 90, .count 1]), .setStandby "clock" 200]

theorem snapshots_consistent_throttled :
    (∀ a, Command.schedule a ∈ throttled → ∃ r xs, a = Alarm.prepared r xs) ∧
      ((ofLimits Limits.standard).after throttled).size = 2 ∧
      ∀ d ∈ ((ofLimits Limits.standard).after throttled).describeAll,
        ∃ r xs ys, Command.schedule (Alarm.prepared r xs) ∈ throttled ∧
          d = (Alarm.prepared r (xs ++ ys)).describe ∧ d.Consistent r := by
  have hmade : ∀ a, Command.schedule a ∈ throttled → ∃ r xs, a = Alarm.prepared r xs := by
    intro a ha
    simp only [throttled, List.mem_cons, Command.schedule.injEq, reduceCtorEq, false_or,
      List.not_mem_nil, or_false] at ha
    rcases ha with rfl | rfl | rfl
    · exact ⟨_, _, rfl⟩
    · exact ⟨_, _, rfl⟩
    · exact ⟨_, _, rfl⟩
  have htwo : ((ofLimits Limits.standard).after throttled).size = 2 := by
    decide +kernel
  exact ⟨hmade, htwo, snapshots_consistent Limits.standard throttled hmade⟩

end Store

end AlarmScheduler
