import AlarmScheduler.Text.Reader
import Mathlib.Data.List.TakeDrop

namespace AlarmScheduler.Reader

variable {α β : Type}

def Ensures (P : List Char → Prop) (p : Reader α) (Q : α → List Char → Prop) : Prop :=
  ∀ cs a r, P cs → p cs = some (a, r) → Q a r

def Yields (p : Reader α) (Q : α → Prop) : Prop := Ensures (fun _ => True) p fun a _ => Q a

def Refuses (P : List Char → Prop) (p : Reader α) : Prop := Ensures P p fun _ _ => False

def Stops (ok : Char → Bool) (cs : List Char) : Prop := ∀ c, cs.head? = some c → ok c = false

inductive Run (p : Reader α) : List Char → List α → List Char → Prop where
  | stop {cs : List Char} : p cs = none → Run p cs [] cs
  | step {cs r rest : List Char} {a : α} {as : List α} :
      p cs = some (a, r) → r.length < cs.length → Run p r as rest → Run p cs (a :: as) rest

section Equations

variable {p q : Reader α} {f : α → Reader β} {cs r : List Char} {a : α}

theorem bind_of_some (h : p cs = some (a, r)) : (p >>= f) cs = f a r := by
  show (p cs).bind _ = _
  rw [h]
  rfl

theorem bind_of_none (h : p cs = none) : (p >>= f) cs = none := by
  show (p cs).bind _ = _
  rw [h]
  rfl

theorem map_of_some (g : α → β) (h : p cs = some (a, r)) : (g <$> p) cs = some (g a, r) := by
  show (p cs).bind _ = _
  rw [h]
  rfl

theorem map_of_none (g : α → β) (h : p cs = none) : (g <$> p) cs = none := by
  show (p cs).bind _ = _
  rw [h]
  rfl

theorem orElse_of_some (h : p cs = some (a, r)) : (p <|> q) cs = some (a, r) := by
  show (p cs <|> q cs) = _
  rw [h]
  rfl

theorem orElse_of_none (h : p cs = none) : (p <|> q) cs = q cs := by
  show (p cs <|> q cs) = _
  rw [h]
  rfl

theorem optional_of_none (h : p cs = none) : optional p cs = some (none, cs) :=
  orElse_of_none (map_of_none some h)

theorem stops_nil (ok : Char → Bool) : Stops ok [] := fun _ h => nomatch h

theorem stops_cons {ok : Char → Bool} {c : Char} (h : ok c = false) (cs : List Char) :
    Stops ok (c :: cs) := by
  intro d hd
  rw [← Option.some.inj hd]
  exact h

theorem next_of_stops {ok : Char → Bool} (h : Stops ok cs) : next ok cs = none := by
  cases cs with
  | nil => rfl
  | cons c cs => rw [next, h c rfl]; rfl

theorem next_cons {ok : Char → Bool} {c : Char} (h : ok c = true) :
    next ok (c :: cs) = some (c, cs) := by
  rw [next, if_pos h]

theorem char_cons (c : Char) (cs : List Char) : char c (c :: cs) = some ((), cs) :=
  bind_of_some (next_cons (beq_self_eq_true c))

theorem char_of_stops {c : Char} (h : Stops (· == c) cs) : char c cs = none :=
  bind_of_none (next_of_stops h)

theorem span_append {ok : Char → Bool} {ds : List Char} (hds : ∀ c ∈ ds, ok c = true)
    (hr : Stops ok r) : span ok (ds ++ r) = some (ds, r) := by
  have hstop : r.takeWhile ok = [] ∧ r.dropWhile ok = r := by
    cases r with
    | nil => exact ⟨rfl, rfl⟩
    | cons c r => simp [hr c rfl]
  rw [span, List.span_eq_takeWhile_dropWhile, List.takeWhile_append_of_pos hds,
    List.dropWhile_append_of_pos hds, hstop.1, hstop.2, List.append_nil]

theorem many_of_run {as : List α} (h : Run p cs as r) : many p cs = some (as, r) := by
  have hrun : ∀ n, cs.length ≤ n → repeated p n cs = (as, r) := by
    induction h with
    | stop hp =>
      intro n _
      cases n with
      | zero => rfl
      | succ n => rw [repeated, hp]
    | step hp hlt _ ih =>
      intro n hn
      cases n with
      | zero => omega
      | succ n => rw [repeated, hp]; simp only [ih n (by omega)]
  rw [many, hrun cs.length (Nat.le_refl _)]

theorem many_of_none (h : p cs = none) : many p cs = some ([], cs) := many_of_run (.stop h)

end Equations

namespace Ensures

variable {P R : List Char → Prop} {p q : Reader α} {Q : α → List Char → Prop} {f : α → Reader β}
  {S : β → List Char → Prop}

theorem of_forall (h : ∀ a r, Q a r) : Ensures P p Q := fun _ a r _ _ => h a r

theorem weaken (h : Ensures P p Q) {Q' : α → List Char → Prop} (hQ : ∀ a r, Q a r → Q' a r) :
    Ensures P p Q' :=
  fun cs a r hP hp => hQ a r (h cs a r hP hp)

theorem pure {a : α} (h : ∀ cs, P cs → Q a cs) : Ensures P (Pure.pure a) Q := by
  intro cs b r hP hp
  cases hp
  exact h cs hP

theorem failure : Ensures P (Alternative.failure : Reader α) Q := by
  intro cs a r _ hp
  cases hp

theorem bind (hp : Ensures P p Q) (hf : ∀ a, Ensures (Q a) (f a) S) : Ensures P (p >>= f) S := by
  intro cs b r hP h
  cases hcs : p cs with
  | none =>
    rw [bind_of_none hcs] at h
    cases h
  | some read =>
    obtain ⟨a, rest⟩ := read
    rw [bind_of_some hcs] at h
    exact hf a rest b r (hp cs a rest hP hcs) h

theorem map {g : α → β} (h : Ensures P p fun a r => S (g a) r) : Ensures P (g <$> p) S :=
  bind h fun _ => pure fun _ hS => hS

theorem orElse (hp : Ensures P p Q) (hq : Ensures P q Q) : Ensures P (p <|> q) Q := by
  intro cs a r hP h
  cases hcs : p cs with
  | none =>
    rw [orElse_of_none hcs] at h
    exact hq cs a r hP h
  | some read =>
    rw [orElse_of_some hcs] at h
    exact hp cs a r hP (hcs.trans h)

theorem optional (h : Ensures P p fun _ r => P r) : Ensures P (optional p) fun _ r => P r :=
  orElse (map h) (pure fun _ hP => hP)

theorem require {b : Bool} : Ensures P (require b) fun _ r => b = true ∧ P r := by
  cases b with
  | false => exact failure
  | true => exact pure fun _ hP => ⟨rfl, hP⟩

theorem many {V : α → Prop} (h : Ensures P p fun a r => V a ∧ P r) :
    Ensures P (many p) fun as r => (∀ a ∈ as, V a) ∧ P r := by
  have hrun : ∀ n cs, P cs → (∀ a ∈ (repeated p n cs).1, V a) ∧ P (repeated p n cs).2 := by
    intro n
    induction n with
    | zero => exact fun cs hP => ⟨fun a ha => absurd ha List.not_mem_nil, hP⟩
    | succ n ih =>
      intro cs hP
      rw [repeated]
      cases hcs : p cs with
      | none => exact ⟨fun a ha => absurd ha List.not_mem_nil, hP⟩
      | some read =>
        obtain ⟨a, rest⟩ := read
        obtain ⟨hV, hrest⟩ := h cs a rest hP hcs
        obtain ⟨hmore, hend⟩ := ih rest hrest
        exact ⟨List.forall_mem_cons.mpr ⟨hV, hmore⟩, hend⟩
  intro cs as r hP hm
  have hall := hrun cs.length cs hP
  rwa [Option.some.inj hm] at hall

theorem exactly (h : Ensures P p fun _ r => P r) (n : Nat) :
    Ensures P (exactly p n) fun _ r => P r := by
  induction n with
  | zero => exact pure fun _ hP => hP
  | succ n ih => exact bind h fun _ => bind ih fun _ => pure fun _ hP => hP

end Ensures

namespace Refuses

variable {P : List Char → Prop} {p : Reader α}

theorem eq_none (h : Refuses P p) {cs : List Char} (hP : P cs) : p cs = none := by
  cases hcs : p cs with
  | none => rfl
  | some read => exact (h cs read.1 read.2 hP hcs).elim

theorem bind {f : α → Reader β} (h : Refuses P p) : Refuses P (p >>= f) :=
  Ensures.bind h fun _ _ _ _ hr => hr.elim

theorem map {g : α → β} (h : Refuses P p) : Refuses P (g <$> p) := Ensures.map h

end Refuses

namespace Yields

variable {p : Reader α} {Q : α → Prop} {f : α → Reader β} {S : β → Prop}

theorem pure {a : α} (h : Q a) : Yields (Pure.pure a) Q := Ensures.pure fun _ _ => h

theorem bind (hp : Yields p Q) (hf : ∀ a, Q a → Yields (f a) S) : Yields (p >>= f) S :=
  Ensures.bind hp fun a cs b r hQ h => hf a hQ cs b r trivial h

theorem next (h : ∀ a, Yields (f a) S) : Yields (p >>= f) S :=
  Ensures.bind (Ensures.of_forall (Q := fun _ _ => True) fun _ _ => trivial) h

theorem map {g : α → β} (h : ∀ a, S (g a)) : Yields (g <$> p) S :=
  Ensures.map (Ensures.of_forall fun a _ => h a)

theorem many (h : Yields p Q) : Yields (many p) fun as => ∀ a ∈ as, Q a :=
  (Ensures.many (P := fun _ => True) (h.weaken fun _ _ hQ => ⟨hQ, trivial⟩)).weaken
    fun _ _ hall => hall.1

end Yields

end AlarmScheduler.Reader
