import AlarmScheduler.Proofs.Store.Numbering

namespace AlarmScheduler

def Outcome.id? : Outcome → Option AlarmId
  | .scheduled (.ok id) => some id
  | _ => none

theorem AlarmId.eq_of_toNat_eq {i j : AlarmId} (h : i.val.toNat = j.val.toNat) : i = j :=
  congrArg AlarmId.mk (UInt32.toNat_inj.mp h)

theorem Command.eq_of_newcomer? {c : Command} {o : Outcome} {e : Entry}
    (h : c.newcomer? o = some e) : c = .schedule e.alarm ∧ o = .scheduled (.ok e.id) := by
  cases c with
  | schedule a =>
    cases o with
    | scheduled answer =>
      cases answer with
      | error r => cases h
      | ok id =>
        obtain rfl : ⟨id, a⟩ = e := Option.some.inj h
        exact ⟨rfl, rfl⟩
    | removed as => cases h
    | moved changed => cases h
  | _ => cases h

namespace Admission

def left? (p : Admission) (cs : List Command) : Option Alarm :=
  if p.removal? cs = none then some (p.before cs cs.length) else none

theorem left?_concat (p : Admission) (cs : List Command) (c : Command) (hp : p.index < cs.length) :
    p.left? (cs ++ [c]) =
      ((p.left? cs).filter fun a => !a.removedBy c).map fun a => a.pushed c := by
  have hbefore : p.before (cs ++ [c]) (cs ++ [c]).length = (p.before cs cs.length).pushed c := by
    rw [List.length_append]
    exact p.before_concat cs c hp
  rw [left?, left?, hbefore, p.removal?_concat cs c hp]
  cases p.removal? cs with
  | some m => rfl
  | none =>
    cases h : (p.before cs cs.length).removedBy c with
    | true => simp [Option.filter, h]
    | false => simp [Option.filter, h]

theorem left?_new (a : Alarm) (cs : List Command) (c : Command) :
    (mk cs.length a).left? (cs ++ [c]) = some a := by
  have hrest : (cs ++ [c]).drop (cs.length + 1) = [] :=
    List.drop_of_length_le (Nat.le_of_eq List.length_append)
  rw [left?, before_length, removal?, hrest]
  rfl

theorem removal?_take (p : Admission) {cs : List Command} {n : Nat} (hp : p.index < n)
    (hn : n ≤ cs.length) :
    p.removal? (cs.take n) = none ↔ ∀ m, p.removal? cs = some m → n ≤ m := by
  have hlength : (cs.take n).length = n := List.length_take_of_le hn
  have hsplit := p.removal?_append (cs.take n) (cs.drop n) (hlength.symm ▸ hp)
  rw [List.take_append_drop, hlength] at hsplit
  rw [hsplit]
  constructor
  · intro hnone m hm
    rw [hnone, Option.none_or] at hm
    obtain ⟨i, _, rfl⟩ := Option.map_eq_some_iff.mp hm
    exact Nat.le_add_right n i
  · intro hlater
    cases hr : p.removal? (cs.take n) with
    | none => rfl
    | some m =>
      have hm := (removal?_lt hr).2
      have hle := hlater m (by rw [hr, Option.some_or])
      omega

theorem left?_take (p : Admission) {cs : List Command} {n : Nat} (hn : n ≤ cs.length) :
    p.left? (cs.take n) =
      if p.removal? (cs.take n) = none then some (p.before cs n) else none := by
  have hlength : (cs.take n).length = n := List.length_take_of_le hn
  have hbefore := p.before_append_left (cs.take n) (cs.drop n) (Nat.le_of_eq hlength.symm)
  rw [List.take_append_drop] at hbefore
  rw [left?, hlength, hbefore]

end Admission

namespace Store

def handedOut (s : Store) (cs : List Command) : List AlarmId :=
  (s.journal cs).filterMap fun e => e.2.value.id?

variable {s : Store} {k : Nat} {id : AlarmId} {c : Command}

theorem mem_of_find?_id {e : Entry} (h : (s.entries.find? fun e => e.id == id) = some e) :
    e ∈ s.entries ∧ e.id = id := by
  have hid := List.find?_some h
  exact ⟨List.mem_of_find?_eq_some h, eq_of_beq hid⟩

theorem get?_eq_some_iff (hnodup : s.ids.Nodup) {a : Alarm} :
    s.get? id = some a ↔ ⟨id, a⟩ ∈ s.entries := by
  rw [get?, Option.map_eq_some_iff]
  constructor
  · rintro ⟨e, he, rfl⟩
    obtain ⟨hm, rfl⟩ := mem_of_find?_id he
    exact hm
  · intro hm
    have hfound : (s.entries.find? fun e => e.id == id).isSome = true :=
      List.find?_isSome.mpr ⟨_, hm, beq_self_eq_true id⟩
    obtain ⟨e, he⟩ := Option.isSome_iff_exists.mp hfound
    obtain ⟨hme, hid⟩ := mem_of_find?_id he
    exact ⟨e, he, congrArg Entry.alarm (eq_of_id_eq hnodup hme hm hid)⟩

theorem id?_step (s : Store) (c : Command) :
    (s.step c).value.id? = (c.newcomer? (s.step c).value).map Entry.id := by
  cases c with
  | schedule a =>
    rw [value_step_schedule]
    cases s.refusal? a <;> rfl
  | _ => rfl

theorem handedOut_concat (s : Store) (cs : List Command) (c : Command) :
    s.handedOut (cs ++ [c]) =
      s.handedOut cs ++ ((c.newcomer? ((s.after cs).step c).value).map Entry.id).toList := by
  rw [handedOut, journal_append, List.filterMap_append, ← id?_step]
  have hlast : (s.after cs).journal [c] = [(c, (s.after cs).step c)] := rfl
  rw [hlast, handedOut]
  cases h : ((s.after cs).step c).value.id? <;> simp [h]

theorem get?_step_newcomer (hnodup : (s.step c).store.ids.Nodup) {e : Entry}
    (he : c.newcomer? (s.step c).value = some e) : (s.step c).store.get? e.id = some e.alarm := by
  rw [get?_eq_some_iff hnodup, entries_step, he]
  exact List.mem_append_right _ List.mem_cons_self

theorem get?_step (hnodup : s.ids.Nodup) (hnext : (s.step c).store.ids.Nodup)
    (hid : ∀ e, c.newcomer? (s.step c).value = some e → e.id ≠ id) :
    (s.step c).store.get? id =
      ((s.get? id).filter fun a => !a.removedBy c).map fun a => a.pushed c := by
  apply Option.ext
  intro b
  rw [get?_eq_some_iff hnext, entries_step, List.mem_append, Option.map_eq_some_iff]
  constructor
  · rintro (hm | hnew)
    · obtain ⟨e, he, heq⟩ := List.mem_map.mp hm
      obtain ⟨hlive, hkept⟩ := List.mem_filter.mp he
      obtain ⟨rfl, rfl⟩ := Entry.mk.inj heq
      refine ⟨e.alarm, ?_, rfl⟩
      exact Option.filter_eq_some_iff.mpr ⟨(get?_eq_some_iff hnodup).mpr hlive, hkept⟩
    · exact absurd rfl (hid _ (Option.mem_toList.mp hnew))
  · rintro ⟨a, ha, rfl⟩
    obtain ⟨hlive, hkept⟩ := Option.filter_eq_some_iff.mp ha
    have hm := (get?_eq_some_iff hnodup).mp hlive
    exact .inl (List.mem_map.mpr ⟨_, List.mem_filter.mpr ⟨hm, hkept⟩, rfl⟩)

theorem map_val_handedOut (l : Limits) (cs : List Command)
    (h : ((ofLimits l).admissions cs).length ≤ AlarmId.count) :
    ((ofLimits l).handedOut cs).map (fun id => id.val.toNat) =
      List.range' 1 ((ofLimits l).admissions cs).length := by
  induction cs, h using numbered_induction l with
  | nil => rfl
  | concat cs c h hcs hnumbered hroom ih =>
    rw [handedOut_concat, List.map_append, ih, length_admissions_concat]
    cases hc : c.newcomer? (((ofLimits l).after cs).step c).value with
    | none => exact List.append_nil _
    | some e =>
      rw [Option.map_some, Option.toList_some, Option.toList_some, List.map_cons, List.map_nil,
        hnumbered.newcomer (hroom e hc) hc, List.length_singleton, List.range'_1_concat,
        Nat.add_comm]

theorem of_getElem?_admissions_concat {cs : List Command} {p : Admission}
    (h : (s.admissions (cs ++ [c]))[k]? = some p) :
    (s.admissions cs)[k]? = some p ∨
      k = (s.admissions cs).length ∧
        ∃ e, c.newcomer? ((s.after cs).step c).value = some e ∧ p = ⟨cs.length, e.alarm⟩ := by
  rw [admissions_concat, ← Command.map_alarm_newcomer?] at h
  by_cases hk : k < (s.admissions cs).length
  · rw [List.getElem?_append_left hk] at h
    exact .inl h
  · rw [List.getElem?_append_right (Nat.le_of_not_lt hk)] at h
    right
    cases hc : c.newcomer? ((s.after cs).step c).value with
    | none =>
      rw [hc] at h
      cases h
    | some e =>
      rw [hc, Option.map_some, Option.map_some, Option.toList_some,
        List.getElem?_singleton] at h
      obtain ⟨hz, hp⟩ := Option.ite_none_right_eq_some.mp h
      exact ⟨by omega, e, rfl, (Option.some.inj hp).symm⟩

theorem answer_of_admission (l : Limits) (cs : List Command)
    (h : ((ofLimits l).admissions cs).length ≤ AlarmId.count) {p : Admission}
    (hp : ((ofLimits l).admissions cs)[k]? = some p) (hid : id.val.toNat = k + 1) :
    ∃ r, ((ofLimits l).journal cs)[p.index]? = some (.schedule p.alarm, r) ∧
      r.value = .scheduled (.ok id) := by
  induction cs, h using numbered_induction l with
  | nil => cases hp
  | concat cs c h hcs hnumbered hroom ih =>
    rw [journal_append]
    rcases of_getElem?_admissions_concat hp with hold | ⟨rfl, e, he, rfl⟩
    · obtain ⟨r, hr, hv⟩ := ih hold
      have hlt := (List.getElem?_eq_some_iff.mp hr).1
      exact ⟨r, (List.getElem?_append_left hlt).trans hr, hv⟩
    · obtain ⟨hc, hv⟩ := Command.eq_of_newcomer? he
      have hval := hnumbered.newcomer (hroom e he) he
      obtain rfl : e.id = id := AlarmId.eq_of_toNat_eq (hval.trans hid.symm)
      refine ⟨((ofLimits l).after cs).step c, ?_, hv⟩
      rw [List.getElem?_append_right (Nat.le_of_eq (length_journal _ cs)), length_journal,
        Nat.sub_self, journal_cons, List.getElem?_cons_zero, ← hc]

theorem get?_after (l : Limits) (cs : List Command)
    (h : ((ofLimits l).admissions cs).length ≤ AlarmId.count) {p : Admission}
    (hp : ((ofLimits l).admissions cs)[k]? = some p) (hid : id.val.toNat = k + 1) :
    ((ofLimits l).after cs).get? id = p.left? cs := by
  induction cs, h using numbered_induction l with
  | nil => cases hp
  | concat cs c h hcs hnumbered hroom ih =>
    have hnext := (numbered_after l _ h).nodup
    rw [after_append] at hnext ⊢
    rcases of_getElem?_admissions_concat hp with hold | ⟨rfl, e, he, rfl⟩
    · rw [p.left?_concat cs c (index_lt_of_mem_admissions (List.mem_of_getElem? hold)), ← ih hold]
      refine get?_step hnumbered.nodup hnext ?_
      -- the id of a newcomer is later than those of all earlier admissions
      rintro e he rfl
      have hval := hnumbered.newcomer (hroom e he) he
      have hlt := (List.getElem?_eq_some_iff.mp hold).1
      omega
    · have hval := hnumbered.newcomer (hroom e he) he
      obtain rfl : e.id = id := AlarmId.eq_of_toNat_eq (hval.trans hid.symm)
      rw [Admission.left?_new]
      exact get?_step_newcomer hnext he

theorem admissions_take (s : Store) (cs : List Command) (n : Nat) :
    s.admissions cs =
      s.admissions (cs.take n) ++
        (s.after (cs.take n)).admissionsFrom (cs.take n).length (cs.drop n) := by
  have h := s.admissionsFrom_append 0 (cs.take n) (cs.drop n)
  rw [List.take_append_drop, Nat.zero_add] at h
  exact h

theorem getElem?_admissions_take {cs : List Command} {p : Admission} {n : Nat}
    (hp : (s.admissions cs)[k]? = some p) (hlt : p.index < n) :
    (s.admissions (cs.take n))[k]? = some p := by
  have hmem := index_lt_of_mem_admissions (List.mem_of_getElem? hp)
  rw [s.admissions_take cs n] at hp
  by_cases hk : k < (s.admissions (cs.take n)).length
  · rw [List.getElem?_append_left hk] at hp
    exact hp
  · rw [List.getElem?_append_right (Nat.le_of_not_lt hk)] at hp
    have hlate := (index_of_mem_admissionsFrom (List.mem_of_getElem? hp)).1
    rw [List.length_take] at hlate
    omega

theorem length_admissions_take_le (s : Store) (cs : List Command) (n : Nat) :
    (s.admissions (cs.take n)).length ≤ (s.admissions cs).length := by
  rw [s.admissions_take cs n, List.length_append]
  exact Nat.le_add_right _ _

theorem id_names_one_alarm (l : Limits) (cs : List Command)
    (h : ((ofLimits l).admissions cs).length ≤ AlarmId.count) :
    ((ofLimits l).handedOut cs).map (fun id => id.val.toNat) =
        List.range' 1 ((ofLimits l).admissions cs).length ∧
      (∀ n, ((ofLimits l).after (cs.take n)).ids.Nodup) ∧
      ∀ (k : Nat) (p : Admission), ((ofLimits l).admissions cs)[k]? = some p →
        ∃ (id : AlarmId) (r : Reply Outcome), id.val.toNat = k + 1 ∧
          ((ofLimits l).journal cs)[p.index]? = some (.schedule p.alarm, r) ∧
          r.value = .scheduled (.ok id) ∧
          ∀ n, p.index < n → n ≤ cs.length →
            ((∀ m, p.removal? cs = some m → n ≤ m) →
              ((ofLimits l).after (cs.take n)).get? id = some (p.before cs n)) ∧
            ∀ m, p.removal? cs = some m → m < n →
              ((ofLimits l).after (cs.take n)).get? id = none := by
  have htake (n : Nat) : ((ofLimits l).admissions (cs.take n)).length ≤ AlarmId.count :=
    Nat.le_trans (length_admissions_take_le _ cs n) h
  refine ⟨map_val_handedOut l cs h, fun n => (numbered_after l _ (htake n)).nodup, ?_⟩
  intro k p hp
  have hk := (List.getElem?_eq_some_iff.mp hp).1
  obtain ⟨id, hid⟩ : ∃ id : AlarmId, id.val.toNat = k + 1 := by
    refine ⟨⟨UInt32.ofNat (k + 1)⟩, UInt32.toNat_ofNat_of_lt' ?_⟩
    have hcount : AlarmId.count = 4294967295 := rfl
    have hsize : UInt32.size = 4294967296 := rfl
    omega
  obtain ⟨r, hr, hv⟩ := answer_of_admission l cs h hp hid
  refine ⟨id, r, hid, hr, hv, ?_⟩
  intro n hlt hn
  rw [get?_after l _ (htake n) (getElem?_admissions_take hp hlt) hid, p.left?_take hn]
  constructor
  · intro hlive
    exact if_pos ((p.removal?_take hlt hn).mpr hlive)
  · intro m hm hmn
    apply if_neg
    rw [p.removal?_take hlt hn]
    intro hlater
    have := hlater m hm
    omega

def bellsAgain : List Command :=
  let bell (handle elapsed : UInt64) : Command :=
    .schedule (.ofRequest (.exact ⟨.elapsed, true⟩ elapsed (.listener ⟨handle⟩ "bell") 1 "clock"))
  [bell 1 10, bell 2 40, bell 3 10, .setStandby "clock" 20, .takeDue 25, bell 1 10,
    .cancel ⟨none, some ⟨2⟩⟩, bell 2 40]

theorem id_names_one_alarm_bellsAgain :
    ((ofLimits ⟨2, 3⟩).admissions bellsAgain).length ≤ AlarmId.count ∧
      ((ofLimits ⟨2, 3⟩).handedOut bellsAgain).map (fun id => id.val.toNat) =
        List.range' 1 ((ofLimits ⟨2, 3⟩).admissions bellsAgain).length ∧
      (∀ n, ((ofLimits ⟨2, 3⟩).after (bellsAgain.take n)).ids.Nodup) ∧
      ∀ (k : Nat) (p : Admission), ((ofLimits ⟨2, 3⟩).admissions bellsAgain)[k]? = some p →
        ∃ (id : AlarmId) (r : Reply Outcome), id.val.toNat = k + 1 ∧
          ((ofLimits ⟨2, 3⟩).journal bellsAgain)[p.index]? = some (.schedule p.alarm, r) ∧
          r.value = .scheduled (.ok id) ∧
          ∀ n, p.index < n → n ≤ bellsAgain.length →
            ((∀ m, p.removal? bellsAgain = some m → n ≤ m) →
              ((ofLimits ⟨2, 3⟩).after (bellsAgain.take n)).get? id =
                some (p.before bellsAgain n)) ∧
            ∀ m, p.removal? bellsAgain = some m → m < n →
              ((ofLimits ⟨2, 3⟩).after (bellsAgain.take n)).get? id = none := by
  have hfew : ((ofLimits ⟨2, 3⟩).admissions bellsAgain).length ≤ AlarmId.count := by
    decide +kernel
  exact ⟨hfew, id_names_one_alarm ⟨2, 3⟩ bellsAgain hfew⟩

end Store

end AlarmScheduler
