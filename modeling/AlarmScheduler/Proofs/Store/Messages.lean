import AlarmScheduler.Proofs.Store.Numbering

namespace AlarmScheduler

def Event.about? : Event → Option AlarmId
  | .scheduled id _ _ _ => some id
  | .moved id _ _ _ => some id
  | _ => none

def lastAbout (log : List Event) (id : AlarmId) : Option Event :=
  (log.filter fun m => m.about? == some id).getLast?

inductive Entry.ShownBy (e : Entry) : Event → Prop
  | scheduled : ShownBy e (.scheduled e.id e.alarm.tag e.alarm.floor e.alarm.ceiling)
  | moved : ShownBy e (.moved e.id e.alarm.tag e.alarm.floor e.alarm.ceiling)

namespace Entry

def boundsText (e : Entry) : String :=
  "[" ++ Numeral.decimal e.alarm.floor.toNat ++ ", " ++ Numeral.decimal e.alarm.ceiling.toNat ++ "]"

def scheduledText (e : Entry) : String :=
  "alarmd: admit " ++ e.alarm.tag ++ " id=" ++ Numeral.decimal e.id.val.toNat ++ " window="
    ++ e.boundsText

def movedText (e : Entry) : String :=
  "alarmd: standby moved " ++ e.alarm.tag ++ " id=" ++ Numeral.decimal e.id.val.toNat ++ " to "
    ++ e.boundsText

end Entry

def movedBetween (before after : List Entry) : List LogRecord :=
  ((before.zip after).filter fun p => p.2.alarm.bounds != p.1.alarm.bounds).map fun p =>
    ⟨.debug, p.2.movedText⟩

def Reply.records {α : Type} (r : Reply α) : List LogRecord := r.events.map Event.record

namespace Store

def log (s : Store) (cs : List Command) : List Event := (s.journal cs).flatMap fun e => e.2.events

def Tells (s : Store) (c : Command) (r : Reply Outcome) : Prop :=
  match c, r.value with
  | .schedule a, .scheduled (.ok id) => r.records = [⟨.debug, (Entry.mk id a).scheduledText⟩]
  | .schedule a, .scheduled (.error .overLimit) =>
    r.records =
      [⟨.warn, "alarmd: uid " ++ Numeral.decimal a.uid.toNat ++ " over limit, rejecting " ++ a.tag⟩]
  | .schedule a, .scheduled (.error .full) =>
    r.records = [⟨.warn, "alarmd: store full, rejecting " ++ a.tag⟩]
  | .cancel _, .removed as =>
    r.records = [⟨.debug, "alarmd: cancel by identity removed " ++ Numeral.decimal as.length⟩]
  | .cancelPackage package, .removed as =>
    r.records =
      [⟨.debug, "alarmd: cancel package " ++ package ++ " removed " ++ Numeral.decimal as.length⟩]
  | .setStandby _ _, .moved changed =>
    r.records = movedBetween s.entries r.store.entries ∧ (changed = true ↔ r.records ≠ [])
  | .takeDue _, .removed _ => r.records = []
  | _, _ => False

theorem log_concat (s : Store) (cs : List Command) (c : Command) :
    s.log (cs ++ [c]) = s.log cs ++ ((s.after cs).step c).events := by
  rw [log, journal_append, List.flatMap_append, journal_cons, List.flatMap_cons]
  exact congrArg (s.log cs ++ ·) (List.append_nil _)

theorem events_setStandby (s : Store) (package : String) (earliest : UInt64) :
    (s.setStandby package earliest).events =
      (s.entries.filter fun e =>
        (e.pushed (.setStandby package earliest)).alarm.bounds != e.alarm.bounds).map fun e =>
          (e.pushed (.setStandby package earliest)).movedEvent := by
  have hmoves : Entry.moves package earliest = fun e : Entry =>
      (e.pushed (.setStandby package earliest)).alarm.bounds != e.alarm.bounds :=
    funext (Entry.moves_eq package earliest)
  rw [setStandby, hmoves]
  simp only [Entry.push_eq_pushed]

end Store

section LastAbout

variable {log es : List Event} {id : AlarmId} {m : Event}

theorem lastAbout_append (log es : List Event) (id : AlarmId) :
    lastAbout (log ++ es) id = (lastAbout es id).or (lastAbout log id) := by
  rw [lastAbout, List.filter_append, List.getLast?_append]
  rfl

theorem lastAbout_append_of_silent (h : ∀ m ∈ es, m.about? ≠ some id) :
    lastAbout (log ++ es) id = lastAbout log id := by
  have hnil : (es.filter fun m => m.about? == some id) = [] := by
    apply List.filter_eq_nil_iff.mpr
    intro m hm habout
    exact h m hm (beq_iff_eq.mp habout)
  rw [lastAbout_append, lastAbout, hnil]
  rfl

theorem lastAbout_append_of_unique (hm : m ∈ es) (habout : m.about? = some id)
    (honly : ∀ n ∈ es, n.about? = some id → n = m) : lastAbout (log ++ es) id = some m := by
  have hmem : m ∈ es.filter fun n => n.about? == some id :=
    List.mem_filter.mpr ⟨hm, beq_iff_eq.mpr habout⟩
  have hlast := List.getLast?_eq_some_getLast (List.ne_nil_of_mem hmem)
  obtain ⟨hin, hid⟩ := List.mem_filter.mp (List.getLast_mem (List.ne_nil_of_mem hmem))
  rw [lastAbout_append, lastAbout, hlast, honly _ hin (beq_iff_eq.mp hid)]
  rfl

end LastAbout

namespace Entry

theorem shownBy_movedEvent (e : Entry) : e.ShownBy e.movedEvent := .moved

theorem ShownBy.record {e : Entry} {m : Event} (h : e.ShownBy m) :
    m.record = ⟨.debug, e.scheduledText⟩ ∨ m.record = ⟨.debug, e.movedText⟩ := by
  cases h with
  | scheduled => exact .inl rfl
  | moved => exact .inr rfl

theorem ShownBy.pushed {e : Entry} {m : Event} (h : e.ShownBy m) {c : Command}
    (hb : (e.pushed c).alarm.bounds = e.alarm.bounds) : (e.pushed c).ShownBy m := by
  have htag : (e.pushed c).alarm.tag = e.alarm.tag := e.alarm.tag_pushed c
  have hfloor : (e.pushed c).alarm.floor = e.alarm.floor := congrArg Prod.fst hb
  have hceiling : (e.pushed c).alarm.ceiling = e.alarm.ceiling := congrArg Prod.snd hb
  cases h with
  | scheduled =>
    rw [← htag, ← hfloor, ← hceiling]
    exact .scheduled
  | moved =>
    rw [← htag, ← hfloor, ← hceiling]
    exact .moved

end Entry

namespace Store

def ToldBy (s : Store) (log : List Event) : Prop :=
  ∀ e ∈ s.entries, ∃ m, lastAbout log e.id = some m ∧ e.ShownBy m

variable {s : Store} {log : List Event}

theorem ToldBy.silent (h : s.ToldBy log) {t : Store} (hsub : ∀ e ∈ t.entries, e ∈ s.entries)
    {ms : List Event} (hms : ∀ m ∈ ms, m.about? = none) : t.ToldBy (log ++ ms) := by
  intro e he
  obtain ⟨m, hlast, hshown⟩ := h e (hsub e he)
  refine ⟨m, (lastAbout_append_of_silent ?_).trans hlast, hshown⟩
  intro n hn habout
  rw [hms n hn] at habout
  cases habout

theorem ToldBy.without (h : s.ToldBy log) (p : Alarm → Bool) {ms : List Event}
    (hms : ∀ m ∈ ms, m.about? = none) : (s.without p).ToldBy (log ++ ms) :=
  h.silent (fun _ he => (List.mem_filter.mp he).1) hms

theorem ToldBy.setStandby (h : s.ToldBy log) (hnodup : s.ids.Nodup) (package : String)
    (earliest : UInt64) :
    (s.setStandby package earliest).store.ToldBy
      (log ++ (s.setStandby package earliest).events) := by
  intro f hf
  rw [entries_setStandby] at hf
  obtain ⟨e, he, rfl⟩ := List.mem_map.mp hf
  -- no other live alarm has the id of `e`, so a message about it tells of the move of `e`
  have honly : ∀ n ∈ (s.setStandby package earliest).events, n.about? = some e.id →
      (e.pushed (.setStandby package earliest)).alarm.bounds ≠ e.alarm.bounds ∧
        n = (e.pushed (.setStandby package earliest)).movedEvent := by
    intro n hn habout
    rw [events_setStandby] at hn
    obtain ⟨g, hg, rfl⟩ := List.mem_map.mp hn
    obtain ⟨hg, hmoved⟩ := List.mem_filter.mp hg
    obtain rfl : g = e := eq_of_id_eq hnodup hg he (Option.some.inj habout)
    exact ⟨bne_iff_ne.mp hmoved, rfl⟩
  by_cases hb : (e.pushed (.setStandby package earliest)).alarm.bounds = e.alarm.bounds
  · obtain ⟨m, hlast, hshown⟩ := h e he
    refine ⟨m, ?_, hshown.pushed hb⟩
    refine (lastAbout_append_of_silent ?_).trans hlast
    intro n hn habout
    exact (honly n hn habout).1 hb
  · have hmem : (e.pushed (.setStandby package earliest)).movedEvent ∈
        (s.setStandby package earliest).events := by
      rw [events_setStandby]
      exact List.mem_map_of_mem (List.mem_filter.mpr ⟨he, bne_iff_ne.mpr hb⟩)
    refine ⟨_, ?_, Entry.shownBy_movedEvent _⟩
    exact lastAbout_append_of_unique hmem rfl fun n hn habout => (honly n hn habout).2

theorem ToldBy.append (h : s.ToldBy log) {a : Alarm} {id : AlarmId} (hid : id ∉ s.ids) :
    (s.append id a).ToldBy (log ++ [.scheduled id a.tag a.floor a.ceiling]) := by
  intro e he
  rcases List.mem_append.mp he with he | he
  · obtain ⟨m, hlast, hshown⟩ := h e he
    refine ⟨m, ?_, hshown⟩
    refine (lastAbout_append_of_silent ?_).trans hlast
    intro n hn habout
    rw [List.mem_singleton.mp hn] at habout
    exact hid (Option.some.inj habout ▸ List.mem_map_of_mem he)
  · obtain rfl := List.mem_singleton.mp he
    refine ⟨_, ?_, .scheduled⟩
    exact lastAbout_append_of_unique List.mem_cons_self rfl fun n hn _ => List.mem_singleton.mp hn

theorem ToldBy.schedule (h : s.ToldBy log) (a : Alarm)
    (hfresh : s.refusal? a = none → s.freshId ∉ s.ids) :
    (s.schedule a).store.ToldBy (log ++ (s.schedule a).events) := by
  rw [Store.schedule]
  cases hr : s.refusal? a with
  | none => exact h.append (hfresh hr)
  | some r =>
    cases r with
    | overLimit => exact h.silent (fun _ he => he) (List.forall_mem_singleton.mpr rfl)
    | full => exact h.silent (fun _ he => he) (List.forall_mem_singleton.mpr rfl)

theorem ToldBy.step (h : s.ToldBy log) (hnodup : s.ids.Nodup) (c : Command)
    (hfresh : c.newcomer? (s.step c).value ≠ none → s.freshId ∉ s.ids) :
    (s.step c).store.ToldBy (log ++ (s.step c).events) := by
  cases c with
  | schedule a =>
    refine h.schedule a ?_
    intro hr
    apply hfresh
    rw [value_step_schedule, hr]
    exact Option.some_ne_none _
  | cancel cs => exact h.without _ (List.forall_mem_singleton.mpr rfl)
  | cancelPackage package => exact h.without _ (List.forall_mem_singleton.mpr rfl)
  | setStandby package earliest => exact h.setStandby hnodup package earliest
  | takeDue now => exact h.without _ (List.forall_mem_nil _)

theorem toldBy_log (l : Limits) (cs : List Command)
    (h : ((ofLimits l).admissions cs).length ≤ AlarmId.count) :
    ((ofLimits l).after cs).ToldBy ((ofLimits l).log cs) := by
  induction cs, h using numbered_induction l with
  | nil =>
    intro e he
    cases he
  | concat cs c h hcs hnumbered hroom ih =>
    rw [log_concat, after_append]
    refine ih.step hnumbered.nodup c ?_
    intro hnew
    obtain ⟨e, he⟩ := Option.ne_none_iff_exists'.mp hnew
    exact hnumbered.freshId_not_mem (hroom e he)

theorem records_setStandby (s : Store) (package : String) (earliest : UInt64) :
    (s.setStandby package earliest).records =
      movedBetween s.entries (s.setStandby package earliest).store.entries := by
  rw [movedBetween, entries_setStandby, ← List.map_prod_left_eq_zip, List.filter_map, List.map_map,
    Reply.records, events_setStandby, List.map_map]
  rfl

theorem value_setStandby_iff_records (s : Store) (package : String) (earliest : UInt64) :
    (s.setStandby package earliest).value = true ↔
      (s.setStandby package earliest).records ≠ [] := by
  rw [Reply.records, setStandby, List.any_eq_true, ne_eq, List.map_eq_nil_iff, List.map_eq_nil_iff,
    List.filter_eq_nil_iff]
  simp only [not_forall, not_not, exists_prop]

theorem tells_step (s : Store) (c : Command) : s.Tells c (s.step c) := by
  cases c with
  | schedule a =>
    simp only [step, Reply.map, schedule]
    cases s.refusal? a with
    | none => rfl
    | some r => cases r <;> rfl
  | cancel cs => rfl
  | cancelPackage package => rfl
  | setStandby package earliest =>
    exact ⟨s.records_setStandby package earliest, s.value_setStandby_iff_records package earliest⟩
  | takeDue now => rfl

theorem log_shows_windows (l : Limits) (cs : List Command)
    (h : ((ofLimits l).admissions cs).length ≤ AlarmId.count) :
    (∀ e ∈ ((ofLimits l).after cs).entries, ∃ m,
        lastAbout ((ofLimits l).log cs) e.id = some m ∧
          (m.record = ⟨.debug, e.scheduledText⟩ ∨ m.record = ⟨.debug, e.movedText⟩)) ∧
      ∀ (n : Nat) (c : Command) (r : Reply Outcome),
        ((ofLimits l).journal cs)[n]? = some (c, r) →
          ((ofLimits l).after (cs.take n)).Tells c r := by
  constructor
  · intro e he
    obtain ⟨m, hlast, hshown⟩ := toldBy_log l cs h e he
    exact ⟨m, hlast, hshown.record⟩
  · intro n c r hr
    obtain ⟨-, -, rfl⟩ := split_of_journal hr
    exact tells_step _ c

def heldBackTwice : List Command :=
  let tick (handle elapsed : UInt64) : Command :=
    .schedule (.ofRequest (.exact ⟨.elapsed, true⟩ elapsed (.listener ⟨handle⟩ "tick") 1 "clock"))
  [tick 1 10, tick 2 40, tick 3 10, .setStandby "clock" 20, .takeDue 25, .setStandby "clock" 50]

theorem log_shows_windows_heldBackTwice :
    ((ofLimits ⟨2, 3⟩).admissions heldBackTwice).length ≤ AlarmId.count ∧
      (∀ e ∈ ((ofLimits ⟨2, 3⟩).after heldBackTwice).entries, ∃ m,
        lastAbout ((ofLimits ⟨2, 3⟩).log heldBackTwice) e.id = some m ∧
          (m.record = ⟨.debug, e.scheduledText⟩ ∨ m.record = ⟨.debug, e.movedText⟩)) ∧
      ∀ (n : Nat) (c : Command) (r : Reply Outcome),
        ((ofLimits ⟨2, 3⟩).journal heldBackTwice)[n]? = some (c, r) →
          ((ofLimits ⟨2, 3⟩).after (heldBackTwice.take n)).Tells c r := by
  have hfew : ((ofLimits ⟨2, 3⟩).admissions heldBackTwice).length ≤ AlarmId.count := by
    decide +kernel
  exact ⟨hfew, log_shows_windows ⟨2, 3⟩ heldBackTwice hfew⟩

end Store

end AlarmScheduler
