import AlarmScheduler.Proofs.Store.History
import AlarmScheduler.Proofs.Store.Signal
import Mathlib.Data.List.Pairwise

namespace AlarmScheduler

structure Push where
  package : String
  earliest : UInt64
  deriving DecidableEq, Repr

namespace Push

def command (p : Push) : Command := .setStandby p.package p.earliest

def lastFor (package : String) (ps : List Push) : Option UInt64 :=
  ((ps.map command).filterMap (Command.push? package)).getLast?

/-- A push is kept unless a later one is for the same package. -/
def lastOfEach (ps : List Push) : List Push := ps.pwFilter fun p q => p.package ≠ q.package

theorem lastFor_cons (package : String) (p : Push) (ps : List Push) :
    lastFor package (p :: ps) =
      (lastFor package ps).or (if p.package = package then some p.earliest else none) := by
  by_cases h : p.package = package
  · simp [lastFor, command, Command.push?, h, List.getLast?_cons]
  · simp [lastFor, command, Command.push?, h]

theorem mem_lastOfEach {package : String} {earliest : UInt64} {ps : List Push} :
    ⟨package, earliest⟩ ∈ lastOfEach ps ↔ lastFor package ps = some earliest := by
  induction ps generalizing package earliest with
  | nil => simp [lastOfEach, lastFor]
  | cons p ps ih =>
    obtain ⟨other, t⟩ := p
    rw [lastFor_cons]
    cases hlast : lastFor other ps with
    | none =>
      have hkept : ∀ q ∈ lastOfEach ps, other ≠ q.package := by
        rintro ⟨_, u⟩ hq rfl
        rw [ih, hlast] at hq
        cases hq
      rw [lastOfEach, List.pwFilter_cons_of_pos hkept, List.mem_cons, ← lastOfEach, ih]
      by_cases hother : other = package
      · subst hother
        simp [hlast, eq_comm]
      · simp [hother, Ne.symm hother]
    | some u =>
      have hdropped : ¬∀ q ∈ lastOfEach ps, other ≠ q.package :=
        fun hkept => hkept ⟨other, u⟩ (ih.mpr hlast) rfl
      rw [lastOfEach, List.pwFilter_cons_of_neg hdropped, ← lastOfEach, ih]
      by_cases hother : other = package
      · subst hother
        simp [hlast]
      · simp [hother]

theorem lastFor_of_perm {ps qs : List Push} (h : qs.Perm (lastOfEach ps)) (package : String) :
    lastFor package qs = lastFor package ps := by
  have hdistinct : qs.Pairwise fun p q => p.package ≠ q.package :=
    h.symm.pairwise (List.pairwise_pwFilter ps) fun hne => hne.symm
  have hself : lastOfEach qs = qs := List.pwFilter_eq_self.mpr hdistinct
  apply Option.ext
  intro t
  rw [← mem_lastOfEach, hself, h.mem_iff, mem_lastOfEach]

end Push

namespace Alarm

variable (a : Alarm) {p q : Push}

theorem heldBack_cons (c : Command) (cs : List Command) :
    a.heldBack (c :: cs) = (a.pushed c).heldBack cs := by
  rw [← a.heldBack_singleton c, ← heldBack_append, List.singleton_append]

theorem heldBack_congr {ps qs : List Push}
    (h : ∀ package, Push.lastFor package ps = Push.lastFor package qs) :
    a.heldBack (ps.map Push.command) = a.heldBack (qs.map Push.command) := by
  have hlast := h a.sourcePackage
  simp only [Push.lastFor] at hlast
  rw [heldBack, heldBack, hlast]

theorem pushed_of_ne (h : a.sourcePackage ≠ p.package) : a.pushed p.command = a := by
  rw [Push.command, pushed_setStandby_eq_ite, if_neg h]

theorem pushed_comm (hne : p.package ≠ q.package) :
    (a.pushed p.command).pushed q.command = (a.pushed q.command).pushed p.command := by
  by_cases hq : a.sourcePackage = q.package
  · have hp : a.sourcePackage ≠ p.package := fun h => hne (h.symm.trans hq)
    have hp' : (a.pushed q.command).sourcePackage ≠ p.package := by rwa [sourcePackage_pushed]
    rw [a.pushed_of_ne hp, pushed_of_ne _ hp']
  · have hq' : (a.pushed p.command).sourcePackage ≠ q.package := by rwa [sourcePackage_pushed]
    rw [a.pushed_of_ne hq, pushed_of_ne _ hq']

theorem moved_pushed (hne : p.package ≠ q.package) :
    (((a.pushed p.command).pushed q.command).bounds != (a.pushed p.command).bounds) =
      ((a.pushed q.command).bounds != a.bounds) := by
  by_cases hq : a.sourcePackage = q.package
  · rw [a.pushed_of_ne fun h => hne (h.symm.trans hq)]
  · have hq' : (a.pushed p.command).sourcePackage ≠ q.package := by rwa [sourcePackage_pushed]
    rw [a.pushed_of_ne hq, pushed_of_ne _ hq', bne_self_eq_false, bne_self_eq_false]

theorem isOneOf_pushed (c : Command) (k : Candidates) : (a.pushed c).isOneOf k = a.isOneOf k :=
  apply_pushed (fun b => b.isOneOf k) (fun _ => rfl) c

theorem isFrom_pushed (c : Command) (package : String) :
    (a.pushed c).isFrom package = a.isFrom package :=
  apply_pushed (fun b => b.isFrom package) (fun _ => rfl) c

end Alarm

namespace Store

variable (s : Store)

def push (p : Push) : Reply Bool := s.setStandby p.package p.earliest

theorem store_push (p : Push) :
    (s.push p).store = { s with entries := s.entries.map fun e => e.pushed p.command } := by
  rw [push, setStandby, funext (Entry.push_eq_pushed p.package p.earliest)]
  rfl

theorem after_pushes (ps : List Push) :
    s.after (ps.map Push.command) =
      { s with entries := s.entries.map fun e =>
          { e with alarm := e.alarm.heldBack (ps.map Push.command) } } := by
  induction ps generalizing s with
  | nil => simp [after, Alarm.heldBack_nil]
  | cons p ps ih =>
    have hstep : (s.step p.command).store = (s.push p).store := rfl
    rw [List.map_cons, after_cons, hstep, ih, store_push, List.map_map]
    simp only [Function.comp_def, Entry.pushed, Alarm.heldBack_cons]

theorem push_comm {p q : Push} (hne : p.package ≠ q.package) :
    ((s.push p).store.push q).store = ((s.push q).store.push p).store := by
  simp only [store_push, List.map_map, Function.comp_def, Entry.pushed, Alarm.pushed_comm _ hne]

theorem value_push_push {p q : Push} (hne : p.package ≠ q.package) :
    ((s.push p).store.push q).value = (s.push q).value := by
  rw [push, push, push, value_setStandby, value_setStandby, alarms_setStandby_eq_map_pushed,
    List.any_map]
  exact congrArg s.alarms.any (funext fun a => a.moved_pushed hne)

theorem without_push (p : Push) (f : Alarm → Bool) (hf : ∀ a, f (a.pushed p.command) = f a) :
    (s.push p).store.without f = ((s.without f).push p).store := by
  simp only [store_push, without, List.filter_map, Function.comp_def, Entry.pushed, hf]

theorem removed_push (p : Push) (f : Alarm → Bool) (hf : ∀ a, f (a.pushed p.command) = f a) :
    (s.push p).store.removed f = (s.removed f).map fun a => a.pushed p.command := by
  rw [push, removed, alarms_setStandby_eq_map_pushed, List.filter_map, removed]
  simp only [Push.command] at hf
  simp only [Function.comp_def, hf]
  rfl

theorem pushes_independent (s : Store) :
    (∀ ps qs : List Push, qs.Perm (Push.lastOfEach ps) →
        s.after (ps.map Push.command) = s.after (qs.map Push.command)) ∧
      (∀ p q : Push, p.package ≠ q.package →
        ((s.push p).store.push q).store = ((s.push q).store.push p).store ∧
          ((s.push p).store.push q).value = (s.push q).value ∧
          ((s.push q).store.push p).value = (s.push p).value) ∧
      ∀ p : Push,
        let held (a : Alarm) := if a.sourcePackage = p.package then a.withStandby p.earliest else a
        (∀ k : Candidates, ((s.push p).store.cancel k).store = ((s.cancel k).store.push p).store ∧
            ((s.push p).store.cancel k).value = (s.cancel k).value.map held) ∧
          ∀ package : String,
            ((s.push p).store.cancelPackage package).store =
                ((s.cancelPackage package).store.push p).store ∧
              ((s.push p).store.cancelPackage package).value =
                (s.cancelPackage package).value.map held := by
  refine ⟨?_, ?_, ?_⟩
  · intro ps qs h
    rw [after_pushes, after_pushes]
    simp only [Alarm.heldBack_congr _ fun package => (Push.lastFor_of_perm h package).symm]
  · intro p q hne
    exact ⟨s.push_comm hne, s.value_push_push hne, s.value_push_push hne.symm⟩
  · intro p held
    have hheld : (fun a : Alarm => a.pushed p.command) = held :=
      funext fun a => a.pushed_setStandby_eq_ite p.package p.earliest
    rw [← hheld]
    constructor
    · intro k
      have hk (a : Alarm) := a.isOneOf_pushed p.command k
      exact ⟨s.without_push p (fun a => a.isOneOf k) hk,
        s.removed_push p (fun a => a.isOneOf k) hk⟩
    · intro package
      have hpackage (a : Alarm) := a.isFrom_pushed p.command package
      exact ⟨s.without_push p (fun a => a.isFrom package) hpackage,
        s.removed_push p (fun a => a.isFrom package) hpackage⟩

def newsroom : Store :=
  let call (handle elapsed : UInt64) (package : String) : Command :=
    .schedule (.ofRequest (.exact ⟨.elapsed, true⟩ elapsed
      (.callback ⟨handle, 1, package, "press"⟩) 2 "desk"))
  (ofLimits Limits.standard).after [call 1 10 "morning", call 2 20 "evening", call 3 30 "morning"]

def editions : List Push :=
  [⟨"morning", 90⟩, ⟨"evening", 15⟩, ⟨"night", 70⟩, ⟨"morning", 5⟩, ⟨"evening", 40⟩,
    ⟨"morning", 25⟩]

theorem pushes_independent_newsroom :
    let last : List Push := [⟨"morning", 25⟩, ⟨"night", 70⟩, ⟨"evening", 40⟩]
    last.Perm (Push.lastOfEach editions) ∧ "morning" ≠ "evening" ∧
      newsroom.after (editions.map Push.command) = newsroom.after (last.map Push.command) ∧
      ((newsroom.push ⟨"morning", 25⟩).store.push ⟨"evening", 15⟩).value = false ∧
      ((newsroom.push ⟨"evening", 15⟩).store.push ⟨"morning", 25⟩).value = true ∧
      ((newsroom.push ⟨"morning", 25⟩).store.cancelPackage "morning").store =
        ((newsroom.cancelPackage "morning").store.push ⟨"morning", 25⟩).store := by
  intro last
  have hlast : last.Perm (Push.lastOfEach editions) := by decide
  have hne : "morning" ≠ "evening" := by decide
  obtain ⟨hwins, hcomm, hcancel⟩ := pushes_independent newsroom
  obtain ⟨-, hevening, hmorning⟩ := hcomm ⟨"morning", 25⟩ ⟨"evening", 15⟩ hne
  exact ⟨hlast, hne, hwins editions last hlast, hevening.trans (by decide +kernel),
    hmorning.trans (by decide +kernel), ((hcancel ⟨"morning", 25⟩).2 "morning").1⟩

end Store

end AlarmScheduler
