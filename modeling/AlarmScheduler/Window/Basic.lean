import AlarmScheduler.Text.Numeral

namespace AlarmScheduler

inductive Policy where
  | requester
  | standby
  deriving DecidableEq, Repr

namespace Policy

def all : List Policy := [requester, standby]

def index : Policy → Nat
  | requester => 0
  | standby => 1

def name : Policy → String
  | requester => "requester"
  | standby => "app_standby"

structure OutOfRange where
  index : Nat
  deriving DecidableEq, Repr

def OutOfRange.message (e : OutOfRange) : String :=
  "policy index " ++ Numeral.decimal e.index ++ " out of range"

def ofIndex (n : Nat) : Except OutOfRange Policy :=
  match all[n]? with
  | some p => .ok p
  | none => .error ⟨n⟩

theorem ofIndex_index (p : Policy) : ofIndex p.index = .ok p := by
  cases p <;> rfl

theorem mem_all (p : Policy) : p ∈ all := by
  cases p <;> simp [all]

end Policy

/-- Times are milliseconds of the elapsed clock. The two bounds are kept beside the slots that they
follow from. -/
structure Window where
  requester : UInt64
  standby : UInt64
  length : UInt64
  floor : UInt64
  ceiling : UInt64
  deriving DecidableEq, Repr

namespace Window

def lastTime : UInt64 := 18446744073709551615

def endOf (start length : UInt64) : UInt64 :=
  if start.toNat + length.toNat < UInt64.size then start + length else lastTime

def slot (w : Window) : Policy → UInt64
  | .requester => w.requester
  | .standby => w.standby

def bounds (w : Window) : UInt64 × UInt64 := (w.floor, w.ceiling)

def latest : List UInt64 → UInt64
  | [] => 0
  | t :: ts => max t (latest ts)

/-- Whether the bounds have changed, and the window with the bounds that its slots call for. -/
def reconcile (w : Window) : Bool × Window :=
  let floor := latest (Policy.all.map w.slot)
  let new := { w with floor := floor, ceiling := max (endOf w.requester w.length) floor }
  (w.bounds != new.bounds, new)

def anchored (requested length : UInt64) : Window := (reconcile ⟨requested, 0, length, 0, 0⟩).2

def withSlot (w : Window) (p : Policy) (t : UInt64) : Window :=
  match p with
  | .requester => { w with requester := t }
  | .standby => { w with standby := t }

def write (w : Window) (p : Policy) (t : UInt64) : Bool × Window := (w.withSlot p t).reconcile

def moves (w : Window) (p : Policy) (t : UInt64) : Bool := (w.write p t).1

def set (w : Window) (p : Policy) (t : UInt64) : Window := (w.write p t).2

structure Update where
  policy : Nat
  elapsed : UInt64
  deriving DecidableEq, Repr

def answer (w : Window) (u : Update) : Except Policy.OutOfRange Bool :=
  (Policy.ofIndex u.policy).map fun p => w.moves p u.elapsed

def update (w : Window) (u : Update) : Window :=
  match Policy.ofIndex u.policy with
  | .ok p => w.set p u.elapsed
  | .error _ => w

def replay (w : Window) (us : List Update) : Window := us.foldl update w

structure Settled (w : Window) : Prop where
  floor : w.floor = latest (Policy.all.map w.slot)
  ceiling : w.ceiling = max (endOf w.requester w.length) w.floor

theorem settled_reconcile (w : Window) : w.reconcile.2.Settled := ⟨rfl, rfl⟩

theorem settled_anchored (requested length : UInt64) : (anchored requested length).Settled :=
  settled_reconcile _

theorem settled_set (w : Window) (p : Policy) (t : UInt64) : (w.set p t).Settled :=
  settled_reconcile _

end Window

end AlarmScheduler
