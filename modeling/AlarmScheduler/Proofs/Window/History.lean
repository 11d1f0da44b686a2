import AlarmScheduler.Window.Lemmas
import Mathlib.Data.List.Induction

namespace AlarmScheduler

namespace Policy

theorem index_injective {p q : Policy} (h : p.index = q.index) : p = q := by
  have hok := ofIndex_index p
  rw [h, ofIndex_index] at hok
  exact (Except.ok.inj hok).symm

theorem ofIndex_cases (n : Nat) :
    (∃ p : Policy, n = p.index ∧ ofIndex n = .ok p) ∨
      (all.length ≤ n ∧ ofIndex n = .error ⟨n⟩) := by
  match n with
  | 0 => exact .inl ⟨requester, rfl, rfl⟩
  | 1 => exact .inl ⟨standby, rfl, rfl⟩
  | n + 2 => exact .inr ⟨Nat.le_add_left _ _, rfl⟩

theorem index_lt_length (p : Policy) : p.index < all.length := by
  cases p <;> decide

end Policy

namespace Window

def lastWritten (us : List Update) (p : Policy) : Option UInt64 :=
  (us.filter fun u => u.policy == p.index).getLast?.map Update.elapsed

def written (requested : UInt64) (us : List Update) (p : Policy) : UInt64 :=
  (lastWritten us p).getD
    (match p with
      | .requester => requested
      | .standby => 0)

def fields (w : Window) : List UInt64 × UInt64 × UInt64 × UInt64 :=
  (Policy.all.map w.slot, w.length, w.floor, w.ceiling)

section Updates

variable (w : Window) (u : Update)

theorem update_cases :
    (∃ p : Policy, u.policy = p.index ∧ w.update u = w.set p u.elapsed ∧
        w.answer u = .ok (w.moves p u.elapsed)) ∨
      (Policy.all.length ≤ u.policy ∧ w.update u = w ∧ w.answer u = .error ⟨u.policy⟩) := by
  rcases Policy.ofIndex_cases u.policy with ⟨p, hp, hok⟩ | ⟨hle, herror⟩
  · exact .inl ⟨p, hp, by rw [update, hok], by rw [answer, hok]; rfl⟩
  · exact .inr ⟨hle, by rw [update, herror], by rw [answer, herror]; rfl⟩

theorem slot_update (p : Policy) :
    (w.update u).slot p = if u.policy = p.index then u.elapsed else w.slot p := by
  rcases w.update_cases u with ⟨q, hq, hset, -⟩ | ⟨hle, hsame, -⟩
  · rw [hset, slot_set, hq]
    by_cases hpq : p = q
    · simp [hpq]
    · have hne : q.index ≠ p.index := fun h => hpq (Policy.index_injective h).symm
      simp [hpq, hne]
  · have hne : u.policy ≠ p.index := by
      have := p.index_lt_length
      omega
    rw [hsame, if_neg hne]

theorem length_update : (w.update u).length = w.length := by
  rcases w.update_cases u with ⟨p, -, hset, -⟩ | ⟨-, hsame, -⟩
  · rw [hset, length_set]
  · rw [hsame]

theorem answer_of_lt (h : u.policy < Policy.all.length) :
    ∃ changed, w.answer u = .ok changed ∧
      (changed = true ↔
        ((w.update u).floor, (w.update u).ceiling) ≠ (w.floor, w.ceiling)) := by
  rcases w.update_cases u with ⟨p, -, hset, hanswer⟩ | ⟨hle, -, -⟩
  · refine ⟨_, hanswer, ?_⟩
    rw [hset, moves_eq, bne_iff_ne]
    rfl
  · omega

theorem update_of_le (h : Policy.all.length ≤ u.policy) :
    w.answer u = .error ⟨u.policy⟩ ∧ w.update u = w := by
  rcases w.update_cases u with ⟨p, hp, -, -⟩ | ⟨-, hsame, hanswer⟩
  · have := p.index_lt_length
    omega
  · exact ⟨hanswer, hsame⟩

theorem replay_concat (us : List Update) : w.replay (us ++ [u]) = (w.replay us).update u := by
  simp [replay]

theorem replay_take_succ {us : List Update} {n : Nat} {u : Update} (h : us[n]? = some u) :
    w.replay (us.take (n + 1)) = (w.replay (us.take n)).update u := by
  rw [List.take_add_one, h, Option.toList_some, replay_concat]

theorem lastWritten_concat (us : List Update) (p : Policy) :
    lastWritten (us ++ [u]) p =
      if u.policy = p.index then some u.elapsed else lastWritten us p := by
  by_cases h : u.policy = p.index <;> simp [lastWritten, h]

theorem slot_replay (us : List Update) (p : Policy) :
    (w.replay us).slot p = (lastWritten us p).getD (w.slot p) := by
  induction us using List.reverseRecOn with
  | nil => rfl
  | append_singleton us u ih =>
    rw [replay_concat, slot_update, lastWritten_concat, ih]
    split <;> rfl

theorem length_replay (us : List Update) : (w.replay us).length = w.length := by
  induction us using List.reverseRecOn with
  | nil => rfl
  | append_singleton us u ih => rw [replay_concat, length_update, ih]

theorem slot_replay_anchored (requested length : UInt64) (us : List Update) (p : Policy) :
    ((anchored requested length).replay us).slot p = written requested us p := by
  rw [slot_replay]
  cases p <;> rfl

end Updates

theorem settled_update {w : Window} (hw : w.Settled) (u : Update) : (w.update u).Settled := by
  rcases w.update_cases u with ⟨p, -, hset, -⟩ | ⟨-, hsame, -⟩
  · rw [hset]
    exact w.settled_set p u.elapsed
  · rw [hsame]
    exact hw

theorem settled_replay {w : Window} (hw : w.Settled) (us : List Update) :
    (w.replay us).Settled := by
  induction us using List.reverseRecOn with
  | nil => exact hw
  | append_singleton us u ih =>
    rw [replay_concat]
    exact settled_update ih u

namespace Settled

variable {v w : Window} (hw : w.Settled)

include hw

theorem exists_slot_eq_floor : ∃ p, w.slot p = w.floor := by
  by_cases h : w.standby.toNat ≤ w.requester.toNat
  · refine ⟨.requester, UInt64.toNat_inj.mp ?_⟩
    rw [hw.toNat_floor, slot]
    omega
  · refine ⟨.standby, UInt64.toNat_inj.mp ?_⟩
    rw [hw.toNat_floor, slot]
    omega

theorem eq_iff_slots (hv : v.Settled) :
    v = w ↔ v.length = w.length ∧ ∀ p, v.slot p = w.slot p := by
  constructor
  · rintro rfl
    exact ⟨rfl, fun _ => rfl⟩
  · rintro ⟨hlength, hslots⟩
    exact hw.eq_of_slots hv hlength hslots

end Settled

theorem fields_injective : Function.Injective fields := by
  intro v w h
  obtain ⟨hslots, hlength, hfloor, hceiling⟩ := by simpa only [fields, Prod.mk.injEq] using h
  have hslot (p : Policy) : v.slot p = w.slot p := List.map_inj_left.mp hslots p (Policy.mem_all p)
  exact eq_of_fields hslot hlength hfloor hceiling

theorem history_reconciled (requested length : UInt64) (us : List Update) :
    let w := (anchored requested length).replay us
    (∀ p, w.slot p = written requested us p) ∧ w.length = length ∧
      ((∃ p, w.slot p = w.floor) ∧ ∀ p, w.slot p ≤ w.floor) ∧
      w.ceiling.toNat =
        max w.floor.toNat (min ((w.slot .requester).toNat + length.toNat) (UInt64.size - 1)) ∧
      (∀ (n : Nat) (u : Update), us[n]? = some u →
        let before := (anchored requested length).replay (us.take n)
        let after := (anchored requested length).replay (us.take (n + 1))
        (u.policy < Policy.all.length → ∃ changed, before.answer u = .ok changed ∧
            (changed = true ↔ (after.floor, after.ceiling) ≠ (before.floor, before.ceiling))) ∧
          (Policy.all.length ≤ u.policy →
            before.answer u = .error ⟨u.policy⟩ ∧ after = before)) ∧
      ∀ (requested' length' : UInt64) (vs : List Update),
        let v := (anchored requested' length').replay vs
        (w.fields = v.fields ↔ w = v) ∧
          (w = v ↔ length = length' ∧ ∀ p, written requested us p = written requested' vs p) := by
  intro w
  have hw : w.Settled := settled_replay (settled_anchored requested length) us
  have hlength : w.length = length := length_replay _ us
  refine ⟨slot_replay_anchored requested length us, hlength,
    ⟨hw.exists_slot_eq_floor, hw.slot_le_floor⟩, hlength ▸ hw.toNat_ceiling_eq, ?_, ?_⟩
  · intro n u hn before after
    have hafter : after = before.update u := replay_take_succ _ hn
    rw [hafter]
    exact ⟨before.answer_of_lt u, before.update_of_le u⟩
  · intro requested' length' vs v
    have hv : v.Settled := settled_replay (settled_anchored requested' length') vs
    have hlength' : v.length = length' := length_replay _ vs
    refine ⟨fields_injective.eq_iff, (hv.eq_iff_slots hw).trans ?_⟩
    simp only [hlength, hlength', w, v, slot_replay_anchored]

def liftedAgain : List Update := [⟨1, lastTime⟩, ⟨2, 5⟩, ⟨1, 0⟩]

theorem history_reconciled_liftedAgain :
    let w := anchored 18446744073709551515 1000
    liftedAgain[1]? = some ⟨2, 5⟩ ∧ Policy.all.length ≤ 2 ∧
      (w.replay (liftedAgain.take 1)).answer ⟨2, 5⟩ = .error ⟨2⟩ ∧
      w.replay (liftedAgain.take 2) = w.replay (liftedAgain.take 1) ∧
      (w.replay (liftedAgain.take 1)).floor = lastTime ∧
      (w.replay liftedAgain).ceiling.toNat = UInt64.size - 1 ∧
      w.replay liftedAgain = w.replay [] := by
  intro w
  have hn : liftedAgain[1]? = some ⟨2, 5⟩ := rfl
  have hle : Policy.all.length ≤ 2 := Nat.le_refl 2
  obtain ⟨-, -, -, hceiling, hupdates, hequal⟩ :=
    history_reconciled 18446744073709551515 1000 liftedAgain
  obtain ⟨hanswer, hsame⟩ := (hupdates 1 ⟨2, 5⟩ hn).2 hle
  have hwritten : ∀ p, written 18446744073709551515 liftedAgain p =
      written 18446744073709551515 [] p := by
    intro p
    cases p <;> decide
  exact ⟨hn, hle, hanswer, hsame, by decide, hceiling.trans (by decide),
    (hequal 18446744073709551515 1000 []).2.mpr ⟨rfl, hwritten⟩⟩

end Window

end AlarmScheduler
