import AlarmScheduler.Alarm.Dump
import AlarmScheduler.Proofs.Store.Snapshots
import AlarmScheduler.Proofs.Text.Numerals

namespace AlarmScheduler

theorem Callback.eq_of_text {c d : Callback} (huid : c.creatorUid = d.creatorUid)
    (hpackage : c.creatorPackage = d.creatorPackage) (htag : c.tag = d.tag)
    (h : c.text = d.text) : c = d := by
  obtain ⟨handle, uid, package, tag⟩ := c
  obtain ⟨handle', uid', package', tag'⟩ := d
  obtain rfl : uid = uid' := huid
  obtain rfl : package = package' := hpackage
  obtain rfl : tag = tag' := htag
  simp only [text, String.append_left_inj, String.append_right_inj] at h
  obtain rfl : handle = handle' := UInt64.toNat_inj.mp (Numeral.hex_injective h)
  rfl

/-- Where the package ends and the tag begins cannot be told from the text alone. -/
example : (Callback.mk 7 1 "a: b" "c").text = (Callback.mk 7 1 "a" "b: c").text := by decide

theorem Listener.text_injective : Function.Injective text := by
  rintro ⟨handle⟩ ⟨handle'⟩ h
  simp only [text, String.append_left_inj, String.append_right_inj] at h
  obtain rfl : handle = handle' := UInt64.toNat_inj.mp (Numeral.hex_injective h)
  rfl

namespace Alarm

def shown (a : Alarm) : Alarm :=
  { a with workSource := none, priority := a.priority.map fun p => { p with seq := 0 } }

variable {a b : Alarm}

theorem describe_shown (a : Alarm) : a.shown.describe = a.describe := by
  have hlevel : a.shown.priority.map Priority.level = a.priority.map Priority.level :=
    Option.map_map ..
  exact congrArg (fun level => { a.describe with priority := level }) hlevel

theorem dump_shown (a : Alarm) (indent : String) (now : UInt64) :
    a.shown.dump indent now = a.dump indent now := rfl

theorem line_shown (a : Alarm) : a.shown.line = a.line := rfl

theorem targetTag_eq_of_describe (h : a.describe = b.describe) : a.target.tag = b.target.tag := by
  rw [← bareTag_describe a.tagged, h, bareTag_describe b.tagged]

theorem owner_eq_of_describe (h : a.describe = b.describe) : a.owner = b.owner :=
  congrArg (fun d : Snapshot => Owner.mk d.uid d.creatorUid d.package d.sourcePackage) h

theorem target_eq_of_describe (h : a.describe = b.describe) : a.target = b.target := by
  have htag := targetTag_eq_of_describe h
  have howner := owner_eq_of_describe h
  rw [a.owned, b.owned] at howner
  have hcreator := congrArg Owner.creatorUid howner
  have hsource := congrArg Owner.sourcePackage howner
  have hoperation : a.target.callback?.map Callback.text = b.target.callback?.map Callback.text :=
    congrArg Snapshot.operation h
  have hlistener : a.target.listener?.map Listener.text = b.target.listener?.map Listener.text :=
    congrArg Snapshot.listener h
  cases ha : a.target with
  | callback c =>
    cases hb : b.target with
    | callback d =>
      rw [ha, hb] at htag hcreator hsource hoperation
      rw [Callback.eq_of_text hcreator hsource htag (Option.some.inj hoperation)]
    | listener l tag =>
      rw [ha, hb] at hlistener
      cases hlistener
  | listener l tag =>
    cases hb : b.target with
    | callback d =>
      rw [ha, hb] at hlistener
      cases hlistener
    | listener m tag' =>
      rw [ha, hb] at htag hlistener
      rw [Listener.text_injective (Option.some.inj hlistener)]
      exact congrArg (Target.listener m) htag

theorem window_eq_of_describe (h : a.describe = b.describe) : a.window = b.window := by
  have hslots : (Policy.all.map fun p => (p, a.window.slot p)) =
      Policy.all.map fun p => (p, b.window.slot p) := congrArg Snapshot.slots h
  refine b.settled.eq_of_slots a.settled (congrArg Snapshot.windowLength h) ?_
  intro p
  exact congrArg Prod.snd (List.map_inj_left.mp hslots p (Policy.mem_all p))

theorem shownPriority_eq_of_describe (h : a.describe = b.describe) :
    a.shown.priority = b.shown.priority := by
  have hlevel : a.priority.map Priority.level = b.priority.map Priority.level :=
    congrArg Snapshot.priority h
  have hshown := congrArg (Option.map fun level => Priority.mk 0 level) hlevel
  rwa [Option.map_map, Option.map_map] at hshown

theorem shown_eq_of_describe (h : a.describe = b.describe) : a.shown = b.shown := by
  have hpriority := shownPriority_eq_of_describe h
  apply eq_of_record
  simp only [shown, Record.mk.injEq, true_and] at hpriority ⊢
  exact ⟨congrArg Snapshot.kind h, congrArg Snapshot.requestedTime h,
    congrArg Snapshot.repeatInterval h, target_eq_of_describe h, owner_eq_of_describe h,
    congrArg Snapshot.tag h, congrArg Snapshot.flags h, congrArg Snapshot.alarmClock h,
    window_eq_of_describe h, congrArg Snapshot.count h, hpriority⟩

theorem describe_eq_iff : a.describe = b.describe ↔ a.shown = b.shown := by
  constructor
  · exact shown_eq_of_describe
  · intro h
    rw [← a.describe_shown, h, b.describe_shown]

theorem describe_determines (a b : Alarm) :
    (a.describe = b.describe ↔ a.shown = b.shown) ∧
      (a.describe = b.describe →
        a.owner = b.owner ∧ a.tag = b.tag ∧ (∀ p, a.window.slot p = b.window.slot p) ∧
          a.bounds = b.bounds ∧ (∀ indent now, a.dump indent now = b.dump indent now) ∧
          a.line = b.line) := by
  refine ⟨describe_eq_iff, ?_⟩
  intro h
  have hshown := shown_eq_of_describe h
  have hwindow := window_eq_of_describe h
  refine ⟨owner_eq_of_describe h, congrArg Snapshot.tag h, ?_, ?_, ?_, ?_⟩
  · intro p
    rw [hwindow]
  · rw [bounds, bounds, hwindow]
  · intro indent now
    rw [← a.dump_shown, hshown, b.dump_shown]
  · rw [← a.line_shown, hshown, b.line_shown]

def doorbell : Request :=
  { Request.exact ⟨.elapsed, true⟩ 100 (.callback ⟨7, 40, "home: door", "ring\x7d"⟩) 1 "caller" with
    windowLength := 50, alarmClock := some ⟨90, "bell"⟩ }

theorem describe_determines_doorbell :
    let a := prepared doorbell [.slot .standby 120, .count 3, .rank (some ⟨1, -4⟩)]
    let b := prepared { doorbell with workSource := some [5, 6] }
      [.rank (some ⟨2, -4⟩), .count 3, .slot .standby 300, .slot .standby 120]
    a ≠ b ∧ a.describe = b.describe ∧ a.shown = b.shown ∧ a.owner = b.owner ∧ a.tag = b.tag ∧
      (∀ p, a.window.slot p = b.window.slot p) ∧ a.bounds = b.bounds ∧
      (∀ indent now, a.dump indent now = b.dump indent now) ∧ a.line = b.line := by
  intro a b
  have hne : a ≠ b := by decide
  have hdescribe : a.describe = b.describe := rfl
  obtain ⟨hiff, hsame⟩ := describe_determines a b
  exact ⟨hne, hdescribe, hiff.mp hdescribe, hsame hdescribe⟩

end Alarm

end AlarmScheduler
