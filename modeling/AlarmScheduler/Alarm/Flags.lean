import AlarmScheduler.Text.Numeral

namespace AlarmScheduler

inductive Flag where
  | standalone
  | wakeFromIdle
  | allowWhileIdle
  | allowWhileIdleUnrestricted
  | idleUntil
  | allowWhileIdleCompat
  deriving DecidableEq, Repr

namespace Flag

def all : List Flag :=
  [standalone, wakeFromIdle, allowWhileIdle, allowWhileIdleUnrestricted, idleUntil,
    allowWhileIdleCompat]

def bit : Flag → UInt32
  | standalone => 1
  | wakeFromIdle => 2
  | allowWhileIdle => 4
  | allowWhileIdleUnrestricted => 8
  | idleUntil => 16
  | allowWhileIdleCompat => 32

def name : Flag → String
  | standalone => "STANDALONE"
  | wakeFromIdle => "WAKE_FROM_IDLE"
  | allowWhileIdle => "ALLOW_WHILE_IDLE"
  | allowWhileIdleUnrestricted => "ALLOW_WHILE_IDLE_UNRESTRICTED"
  | idleUntil => "IDLE_UNTIL"
  | allowWhileIdleCompat => "ALLOW_WHILE_IDLE_COMPAT"

end Flag

structure Flags where
  bits : UInt32
  deriving DecidableEq, Repr

namespace Flags

def none : Flags := ⟨0⟩

def named : UInt32 := Flag.all.foldl (fun m f => m ||| f.bit) 0

def known (f : Flags) : Flags := ⟨f.bits &&& named⟩

def unknown (f : Flags) : Flags := ⟨f.bits &&& ~~~named⟩

def ofKnown? (bits : UInt32) : Option Flags :=
  if bits &&& ~~~named = 0 then some ⟨bits⟩ else .none

def contains (f g : Flags) : Bool := f.bits &&& g.bits == g.bits

def intersects (f g : Flags) : Bool := f.bits &&& g.bits != 0

def isEmpty (f : Flags) : Bool := f.bits == 0

def isAll (f : Flags) : Bool := f.bits ||| named == f.bits

def union (f g : Flags) : Flags := ⟨f.bits ||| g.bits⟩

def intersection (f g : Flags) : Flags := ⟨f.bits &&& g.bits⟩

def difference (f g : Flags) : Flags := ⟨f.bits &&& ~~~g.bits⟩

def symmetricDifference (f g : Flags) : Flags := ⟨f.bits ^^^ g.bits⟩

def complement (f : Flags) : Flags := ⟨~~~f.bits &&& named⟩

def names (f : Flags) : List Flag := Flag.all.filter fun x => f.contains ⟨x.bit⟩

def parts (f : Flags) : List Flags :=
  f.names.map (fun x => ⟨x.bit⟩) ++ if f.unknown.isEmpty then [] else [f.unknown]

def text (f : Flags) : String :=
  let named := f.names.map Flag.name
  let rest := if f.unknown.isEmpty then [] else [Numeral.hex f.unknown.bits.toNat]
  let parts := named ++ rest
  "AlarmFlags(" ++ (if parts.isEmpty then "0x0" else " | ".intercalate parts) ++ ")"

end Flags

end AlarmScheduler
