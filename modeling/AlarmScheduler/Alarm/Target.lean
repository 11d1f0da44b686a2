import AlarmScheduler.Text.Numeral

namespace AlarmScheduler

structure Callback where
  handle : UInt64
  creatorUid : UInt32
  creatorPackage : String
  tag : String
  deriving DecidableEq, Repr

def Callback.same (a b : Callback) : Bool := a.handle == b.handle

def Callback.text (c : Callback) : String :=
  "Operation\x7b" ++ Numeral.hex c.handle.toNat ++ " " ++ c.creatorPackage ++ ": " ++ c.tag
    ++ "\x7d"

def Callback.pieces (c : Callback) : List String :=
  "Operation\x7b" :: Numeral.hexPieces c.handle.toNat
    ++ [" ", c.creatorPackage, ": ", c.tag, "\x7d"]

theorem Callback.join_pieces (c : Callback) : String.join c.pieces = c.text := by
  simp only [pieces, text, String.join_append, String.join_cons, String.join_nil,
    Numeral.join_hexPieces, String.append_empty, String.append_assoc]

structure Listener where
  handle : UInt64
  deriving DecidableEq, Repr

def Listener.text (l : Listener) : String :=
  "Listener\x7b" ++ Numeral.hex l.handle.toNat ++ "\x7d"

def Listener.pieces (l : Listener) : List String :=
  "Listener\x7b" :: Numeral.hexPieces l.handle.toNat ++ ["\x7d"]

theorem Listener.join_pieces (l : Listener) : String.join l.pieces = l.text := by
  simp only [pieces, text, String.join_append, String.join_cons, String.join_nil,
    Numeral.join_hexPieces, String.append_empty, String.append_assoc]

inductive Target where
  | callback (c : Callback)
  | listener (l : Listener) (tag : String)
  deriving DecidableEq, Repr

structure Candidates where
  callback : Option Callback
  listener : Option Listener
  deriving DecidableEq, Repr

namespace Target

def callback? : Target → Option Callback
  | callback c => some c
  | listener _ _ => none

def listener? : Target → Option Listener
  | callback _ => none
  | listener l _ => some l

def tag : Target → String
  | callback c => c.tag
  | listener _ tag => tag

def isOneOf (t : Target) (cs : Candidates) : Bool :=
  match t with
  | callback c => cs.callback.any c.same
  | listener l _ => cs.listener == some l

end Target

structure Owner where
  uid : UInt32
  creatorUid : UInt32
  package : String
  sourcePackage : String
  deriving DecidableEq, Repr

def Owner.of (uid : UInt32) (package : String) : Target → Owner
  | .callback c => ⟨uid, c.creatorUid, package, c.creatorPackage⟩
  | .listener _ _ => ⟨uid, uid, package, package⟩

end AlarmScheduler
