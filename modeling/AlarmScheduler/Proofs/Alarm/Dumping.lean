import AlarmScheduler.Alarm.Dump
import AlarmScheduler.Proofs.Text.Writing

namespace AlarmScheduler.Alarm

variable (a : Alarm) (indent : String) (now : UInt64) (limit : Nat)

def dumping : Program := fun _ _ write => a.dumpTo write indent now

def dumpPieces : List String := (a.dumping indent now).pieces

theorem sequential_requestedTo :
    Program.Sequential fun _ _ write => a.requestedTo write now := by
  simp only [requestedTo]
  cases a.kind.clock with
  | wall => exact .piece _
  | elapsed => exact .piece _

theorem sequential_policiesTo (w : Window) :
    Program.Sequential fun _ _ write => policiesTo write w now := by
  refine .forM ?_ Policy.all
  intro p
  exact .list _

theorem sequential_clockTo (c : Option AlarmClock) :
    Program.Sequential fun _ _ write => clockTo write indent c := by
  cases c with
  | none => exact .nothing
  | some c => exact .bind (.list _) (.bind (.list _) (.list _))

theorem sequential_targetTo (t : Target) :
    Program.Sequential fun _ _ write => targetTo write indent t := by
  cases t with
  | callback c => exact .list _
  | listener l tag => exact .list _

theorem sequential_dumping : (a.dumping indent now).Sequential :=
  .bind (.list _) <| .bind (.list _) <| .bind (sequential_requestedTo a now) <| .bind (.list _) <|
    .bind (.list _) <| .bind (sequential_policiesTo now a.window) <| .bind (.piece _) <|
    .bind (.list _) <| .bind (sequential_clockTo indent a.alarmClock) <|
    sequential_targetTo indent a.target

theorem dumpTo_eq_forM {ε σ : Type} (write : Writer ε σ) :
    a.dumpTo write indent now = (a.dumpPieces indent now).forM write :=
  (sequential_dumping a indent now).eq_forM_pieces write

theorem dump_eq_join : a.dump indent now = String.join (a.dumpPieces indent now) := by
  rw [dump, dumpTo_eq_forM, outcome_of_ok (Text.forM_write _ ""), String.empty_append]

theorem dumpTo_text : a.dumpTo Text.write indent now "" = .ok () (a.dump indent now) := by
  rw [dump_eq_join, dumpTo_eq_forM, Text.forM_write, String.empty_append]

theorem dumpInto_cases :
    ((a.dump indent now).utf8ByteSize ≤ limit ∧
      a.dumpInto indent now limit = (true, ⟨limit, a.dump indent now⟩)) ∨
    ∃ taken refused, Sink.Overflow limit (a.dumpPieces indent now) taken refused ∧
      a.dumpInto indent now limit = (false, ⟨limit, String.join taken⟩) := by
  rw [dump_eq_join, dumpInto, dumpTo_eq_forM, EStateM.run]
  cases hrun : (a.dumpPieces indent now).forM Sink.write (Sink.ofLimit limit) with
  | ok _ t =>
    obtain ⟨hfits, rfl⟩ := Sink.forM_write_ofLimit_eq_ok_iff.mp hrun
    exact .inl ⟨hfits, rfl⟩
  | error e t =>
    obtain ⟨taken, refused, hover, rfl⟩ := Sink.overflow_of_forM_write_eq_error hrun
    exact .inr ⟨taken, refused, hover, rfl⟩

theorem dump_stops_at_refusal (a : Alarm) (indent : String) (now : UInt64) :
    a.dumpTo Text.write indent now "" = .ok () (a.dump indent now) ∧
    String.join (a.dumpPieces indent now) = a.dump indent now ∧
    (∀ limit,
      ((a.dumpInto indent now limit).1 = true ↔ (a.dump indent now).utf8ByteSize ≤ limit) ∧
      ((a.dumpInto indent now limit).1 = true →
        (a.dumpInto indent now limit).2.held = a.dump indent now) ∧
      ((a.dumpInto indent now limit).1 = false →
        ∃ taken refused, Sink.Overflow limit (a.dumpPieces indent now) taken refused ∧
          (a.dumpInto indent now limit).2.held = String.join taken ∧
          ∃ cut, cut ≠ "" ∧ a.dump indent now = (a.dumpInto indent now limit).2.held ++ cut)) ∧
    ∀ {ε σ : Type} (write : Writer ε σ) (s t : σ) (e : ε),
      a.dumpTo write indent now s = .error e t ↔
        ∃ taken refused u, taken ++ [refused] <+: a.dumpPieces indent now ∧
          taken.forM write s = .ok () u ∧ write refused u = .error e t := by
  refine ⟨dumpTo_text a indent now, (dump_eq_join a indent now).symm, ?_, ?_⟩
  · intro limit
    rcases dumpInto_cases a indent now limit with ⟨hfits, hdump⟩ | ⟨taken, refused, hover, hdump⟩
    · rw [hdump]
      exact ⟨iff_of_true rfl hfits, fun _ => rfl, nofun⟩
    · rw [hdump, dump_eq_join]
      exact ⟨iff_of_false nofun (Nat.not_le.mpr hover.lt), nofun,
        fun _ => ⟨taken, refused, hover, rfl, hover.cut⟩⟩
  · intro ε σ write s t e
    rw [dumpTo_eq_forM, forM_eq_error_iff]

def gong : Alarm :=
  ofRequest { Request.exact ⟨.wall, true⟩ 90 (.callback ⟨31, 40, "förderer", "ring"⟩) 1 "caller" with
    alarmClock := some ⟨90, "»ring«"⟩ }

theorem dump_stops_at_refusal_gong :
    (gong.dumpInto "» " 60 297).1 = true ∧
      (gong.dumpInto "» " 60 297).2.held = gong.dump "» " 60 ∧
      (gong.dumpInto "» " 60 285).1 = false ∧
      ∃ taken refused, Sink.Overflow 285 (gong.dumpPieces "» " 60) taken refused ∧
        (gong.dumpInto "» " 60 285).2.held = String.join taken ∧
        ∃ cut, cut ≠ "" ∧ gong.dump "» " 60 = (gong.dumpInto "» " 60 285).2.held ++ cut := by
  have hsize : (gong.dump "» " 60).utf8ByteSize = 297 := by decide +kernel
  obtain ⟨-, -, hsink, -⟩ := dump_stops_at_refusal gong "» " 60
  obtain ⟨hfits, hwhole, -⟩ := hsink 297
  obtain ⟨hfits', -, hcut⟩ := hsink 285
  have hok : (gong.dumpInto "» " 60 297).1 = true := hfits.mpr (Nat.le_of_eq hsize)
  have hfailed : (gong.dumpInto "» " 60 285).1 = false := by
    rw [← Bool.not_eq_true, hfits', hsize]
    decide
  exact ⟨hok, hwhole hok, hfailed, hcut hfailed⟩

end AlarmScheduler.Alarm
