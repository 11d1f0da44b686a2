import AlarmScheduler.Store.Basic

namespace AlarmScheduler

inductive Command where
  | schedule (a : Alarm)
  | cancel (cs : Candidates)
  | cancelPackage (package : String)
  | setStandby (package : String) (earliest : UInt64)
  | takeDue (now : UInt64)
  deriving DecidableEq

inductive Outcome where
  | scheduled (answer : Except Refusal AlarmId)
  | removed (alarms : List Alarm)
  | moved (changed : Bool)

def Reply.map {α β : Type} (f : α → β) (r : Reply α) : Reply β := ⟨f r.value, r.store, r.events⟩

namespace Store

def step (s : Store) : Command → Reply Outcome
  | .schedule a => (s.schedule a).map .scheduled
  | .cancel cs => (s.cancel cs).map .removed
  | .cancelPackage package => (s.cancelPackage package).map .removed
  | .setStandby package earliest => (s.setStandby package earliest).map .moved
  | .takeDue now => (s.takeDue now).map .removed

def run (s : Store) : List Command → List (Reply Outcome)
  | [] => []
  | c :: cs => s.step c :: (s.step c).store.run cs

def after (s : Store) (cs : List Command) : Store := cs.foldl (fun s c => (s.step c).store) s

end Store

end AlarmScheduler
