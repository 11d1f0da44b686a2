namespace AlarmScheduler.Numeral

def decimal (n : Nat) : String := String.ofList (Nat.toDigits 10 n)

def signed : Int → String
  | .ofNat n => decimal n
  | .negSucc n => "-" ++ decimal (n + 1)

def hex (n : Nat) : String := "0x" ++ String.ofList (Nat.toDigits 16 n)

def hexPieces (n : Nat) : List String := ["0x", String.ofList (Nat.toDigits 16 n)]

theorem join_hexPieces (n : Nat) : String.join (hexPieces n) = hex n := by
  simp only [hexPieces, hex, String.join_cons, String.join_nil, String.append_empty]

end AlarmScheduler.Numeral

namespace AlarmScheduler.Duration

def fields (t : Nat) : List (Nat × String) :=
  [(t / 86400000, "d"), (t / 3600000 % 24, "h"), (t / 60000 % 60, "m"), (t / 1000 % 60, "s")]

def magnitude (t : Nat) : List (Nat × String) :=
  (fields t).dropWhile (fun f => f.1 == 0) ++ [(t % 1000, "ms")]

def spell : List (Nat × String) → String
  | [] => ""
  | (n, unit) :: rest => Numeral.decimal n ++ unit ++ spell rest

def text (d : Int) : String :=
  if d = 0 then "0"
  else (if 0 < d then "+" else "-") ++ spell (magnitude d.natAbs)

def limit : Int := 9223372036854775807

def clamp (d : Int) : Int := max (-limit) (min limit d)

def relative (time now : UInt64) : String :=
  if time = 0 then "--" else text (clamp ((time.toNat : Int) - now.toNat))

end AlarmScheduler.Duration
