import AlarmScheduler.Proofs.Json.Squeeze
import AlarmScheduler.Store.Listing
import Mathlib.Data.List.Basic

namespace AlarmScheduler

theorem Kind.name_injective : Function.Injective Kind.name := by
  rintro ⟨c, w⟩ ⟨c', w'⟩ h
  revert h
  cases c <;> cases w <;> cases c' <;> cases w' <;> decide

theorem Policy.name_injective : Function.Injective Policy.name := by
  intro p q h
  revert h
  cases p <;> cases q <;> decide

namespace Snapshot

def fields (d : Snapshot) : List (String × Option Json) :=
  [("tag", some (.str d.tag)), ("kind", some (.str d.kind.name)),
    ("requested_time", some (time d.requestedTime)),
    ("window_length", some (time d.windowLength)),
    ("repeat_interval", some (time d.repeatInterval)), ("count", some (word d.count)),
    ("flags", some (word d.flags.bits)), ("uid", some (word d.uid)),
    ("creator_uid", some (word d.creatorUid)), ("package", some (.str d.package)),
    ("source_package", some (.str d.sourcePackage)),
    ("policy_elapsed", some (.arr (d.slots.map slotJson))), ("when_elapsed", some (time d.floor)),
    ("max_when_elapsed", some (time d.ceiling)),
    ("priority", d.priority.map fun p => .int p.toInt), ("alarm_clock", d.alarmClock.map clockJson),
    ("operation", d.operation.map Json.str), ("listener", d.listener.map Json.str)]

def members (fs : List (String × Option Json)) : List (String × Json) :=
  fs.flatMap fun f => member? f.1 f.2

theorem toJson_eq_members (d : Snapshot) : d.toJson = .obj (members d.fields) := by
  simp [toJson, members, fields, member?]

theorem mem_members {fs : List (String × Option Json)} {key : String} {v : Json}
    (h : (key, v) ∈ members fs) : key ∈ fs.map Prod.fst := by
  obtain ⟨f, hf, hv⟩ := List.mem_flatMap.mp h
  obtain ⟨w, -, hw⟩ := List.mem_map.mp hv
  cases hw
  exact List.mem_map_of_mem hf

theorem members_inj {fs gs : List (String × Option Json)}
    (hkeys : fs.map Prod.fst = gs.map Prod.fst) (hnodup : (fs.map Prod.fst).Nodup)
    (h : members fs = members gs) : fs = gs := by
  induction fs generalizing gs with
  | nil => exact (List.map_eq_nil_iff.mp hkeys.symm).symm
  | cons f fs ih =>
    obtain ⟨key, v⟩ := f
    rw [List.map_cons, List.nodup_cons] at hnodup
    obtain ⟨hkey, hnodup⟩ := hnodup
    cases gs with
    | nil => cases hkeys
    | cons g gs =>
      obtain ⟨key', w⟩ := g
      rw [List.map_cons, List.map_cons, List.cons.injEq] at hkeys
      obtain ⟨rfl, htail⟩ := hkeys
      -- A member that only one list begins with would come later in the other, under a key that
      -- is not used again.
      cases v with
      | none =>
        cases w with
        | none => rw [ih htail hnodup h]
        | some y =>
          have hy : (key, y) ∈ members fs := h ▸ List.mem_cons_self
          exact absurd (mem_members hy) hkey
      | some x =>
        cases w with
        | none =>
          have hx : (key, x) ∈ members gs := h ▸ List.mem_cons_self
          exact absurd (htail ▸ mem_members hx) hkey
        | some y =>
          obtain ⟨hxy, hrest⟩ := List.cons.inj h
          rw [ih htail hnodup hrest, (Prod.mk.inj hxy).2]

theorem time_inj {s t : UInt64} : time s = time t ↔ s = t := by
  rw [time, time, Json.int.injEq, Int.ofNat_inj, UInt64.toNat_inj]

theorem word_inj {m n : UInt32} : word m = word n ↔ m = n := by
  rw [word, word, Json.int.injEq, Int.ofNat_inj, UInt32.toNat_inj]

theorem slotJson_injective : Function.Injective slotJson := by
  rintro ⟨p, s⟩ ⟨q, t⟩ h
  simpa [slotJson, time_inj, Policy.name_injective.eq_iff] using h

theorem clockJson_injective : Function.Injective clockJson := by
  rintro ⟨s, tag⟩ ⟨t, tag'⟩ h
  simpa [clockJson, time_inj] using h

theorem fields_injective : Function.Injective fields := by
  intro d e h
  have hflags : Function.Injective Flags.bits := fun f g => congrArg Flags.mk
  have hlevels : Function.Injective fun p : Int32 => Json.int p.toInt :=
    fun p q hpq => Int32.toInt_inj.mp (Json.int.inj hpq)
  have hstrings : Function.Injective Json.str := fun _ _ => Json.str.inj
  cases d
  cases e
  simpa only [fields, List.cons.injEq, Prod.mk.injEq, Option.some.injEq, Json.str.injEq,
    Json.arr.injEq, time_inj, word_inj, Kind.name_injective.eq_iff, hflags.eq_iff,
    (List.map_injective_iff.mpr slotJson_injective).eq_iff,
    (Option.map_injective hlevels).eq_iff, (Option.map_injective clockJson_injective).eq_iff,
    (Option.map_injective hstrings).eq_iff, true_and, and_true, Snapshot.mk.injEq] using h

theorem toJson_injective : Function.Injective toJson := by
  intro d e h
  rw [toJson_eq_members, toJson_eq_members, Json.obj.injEq] at h
  have hnodup : (d.fields.map Prod.fst).Nodup := by
    simp only [fields, List.map_cons, List.map_nil]
    decide
  exact fields_injective (members_inj rfl hnodup h)

theorem text_injective : Function.Injective text := Json.compact_injective.comp toJson_injective

end Snapshot

namespace Store

theorem squeeze_dumpJson (s : Store) :
    Json.squeeze s.dumpJson = "[" ++ ",".intercalate (s.describeAll.map Snapshot.text) ++ "]" := by
  rw [dumpJson, Json.squeeze_pretty, listing, Json.compact_arr, List.map_map]
  rfl

theorem dump_faithful :
    (∀ s t : Store, s.dumpJson = t.dumpJson → s.describeAll = t.describeAll) ∧
      (∀ d e : Snapshot, d.text = e.text → d = e) ∧
      ∀ s : Store, Json.squeeze s.dumpJson =
        "[" ++ ",".intercalate (s.describeAll.map Snapshot.text) ++ "]" := by
  refine ⟨?_, fun d e h => Snapshot.text_injective h, squeeze_dumpJson⟩
  intro s t h
  have hlisting : s.describeAll.map Snapshot.toJson = t.describeAll.map Snapshot.toJson :=
    Json.arr.inj (Json.pretty_injective h)
  exact List.map_injective_iff.mpr Snapshot.toJson_injective hlisting

end Store

end AlarmScheduler
