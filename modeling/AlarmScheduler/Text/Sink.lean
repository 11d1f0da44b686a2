namespace AlarmScheduler

abbrev Writer (ε σ : Type) := String → EStateM ε σ Unit

def outcome {σ : Type} (x : EStateM Empty σ Unit) (s : σ) : σ :=
  match x.run s with
  | .ok _ t => t
  | .error e _ => nomatch e

theorem outcome_of_ok {σ : Type} {x : EStateM Empty σ Unit} {s t : σ} (h : x s = .ok () t) :
    outcome x s = t := by
  rw [outcome, EStateM.run, h]

def Text.write : Writer Empty String := fun piece => modify fun text => text ++ piece

structure Sink where
  limit : Nat
  held : String
  deriving DecidableEq, Repr

namespace Sink

inductive Fault where
  | full
  deriving DecidableEq, Repr

def ofLimit (limit : Nat) : Sink := ⟨limit, ""⟩

def write : Writer Fault Sink := fun piece s =>
  if s.held.utf8ByteSize + piece.utf8ByteSize ≤ s.limit then
    .ok () { s with held := s.held ++ piece }
  else .error .full s

end Sink

end AlarmScheduler
