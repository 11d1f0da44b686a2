import Mathlib.Data.List.Forall2
import Mathlib.Data.List.Perm.Basic

namespace AlarmScheduler

variable {α β : Type}

theorem find?_congr_of_mem {p q : α → Bool} {xs : List α}
    (h : ∀ x ∈ xs, p x = q x) : xs.find? p = xs.find? q := by
  rw [← List.head?_filter, ← List.head?_filter, List.filter_congr h]

section Front

variable {p : α → Bool} {x : α} {xs : List α}

theorem none_of_not_head (h : (x :: xs).Pairwise fun y z => p z = true → p y = true)
    (hx : ¬p x = true) : ∀ y ∈ x :: xs, ¬p y = true := by
  intro y hy
  rcases List.mem_cons.mp hy with rfl | hy
  · exact hx
  · intro hp
    exact hx (List.rel_of_pairwise_cons h hy hp)

theorem takeWhile_eq_filter (h : xs.Pairwise fun y z => p z = true → p y = true) :
    xs.takeWhile p = xs.filter p := by
  induction xs with
  | nil => rfl
  | cons x xs ih =>
    by_cases hx : p x = true
    · rw [List.takeWhile_cons_of_pos hx, List.filter_cons_of_pos hx, ih h.of_cons]
    · rw [List.takeWhile_cons_of_neg hx, List.filter_eq_nil_iff.mpr (none_of_not_head h hx)]

theorem dropWhile_eq_filter (h : xs.Pairwise fun y z => p z = true → p y = true) :
    xs.dropWhile p = xs.filter fun y => !p y := by
  induction xs with
  | nil => rfl
  | cons x xs ih =>
    by_cases hx : p x = true
    · rw [List.dropWhile_cons_of_pos hx, ih h.of_cons, List.filter_cons_of_neg]
      rw [hx]
      exact Bool.false_ne_true
    · rw [List.dropWhile_cons_of_neg hx]
      refine (List.filter_eq_self.mpr ?_).symm
      intro y hy
      rw [Bool.not_eq_true', ← Bool.not_eq_true]
      exact none_of_not_head h hx y hy

end Front

theorem takeWhile_append_takeWhile {p q : α → Bool} (h : ∀ x, p x = true → q x = true)
    (xs : List α) : xs.takeWhile p ++ (xs.dropWhile p).takeWhile q = xs.takeWhile q := by
  induction xs with
  | nil => rfl
  | cons x xs ih =>
    by_cases hx : p x = true
    · rw [List.takeWhile_cons_of_pos hx, List.dropWhile_cons_of_pos hx,
        List.takeWhile_cons_of_pos (h x hx), List.cons_append, ih]
    · rw [List.takeWhile_cons_of_neg hx, List.dropWhile_cons_of_neg hx, List.nil_append]

theorem findIdx?_cons_eq_zero (p : α → Bool) (x : α) (xs : List α) :
    ((x :: xs).findIdx? p == some 0) = p x := by
  rw [List.findIdx?_cons]
  cases p x <;> simp

theorem findIdx?_cons_eq_succ (p : α → Bool) (x : α) (xs : List α) (n : Nat) :
    ((x :: xs).findIdx? p == some (n + 1)) = (!p x && xs.findIdx? p == some n) := by
  rw [List.findIdx?_cons]
  cases p x <;> simp

theorem lookup_filter_self (key : String) (es : List (String × α)) :
    (es.filter fun e => e.1 != key).lookup key = none := by
  rw [List.lookup_eq_none_iff]
  intro e he
  have hkey : (e.1 != key) = true := (List.mem_filter.mp he).2
  simpa [bne_comm] using hkey

theorem lookup_filter_other {key other : String} (h : key ≠ other) (es : List (String × α)) :
    (es.filter fun e => e.1 != other).lookup key = es.lookup key := by
  induction es with
  | nil => rfl
  | cons e es ih =>
    by_cases he : e.1 = other
    · rw [List.filter_cons_of_neg (by simp [he]), ih, List.lookup_cons, beq_false_of_ne (he ▸ h)]
    · rw [List.filter_cons_of_pos (by simp [he]), List.lookup_cons, List.lookup_cons, ih]

theorem filter_or_perm (p q : α → Bool) (xs : List α) :
    (xs.filter p ++ (xs.filter fun x => !p x).filter q).Perm (xs.filter fun x => p x || q x) := by
  induction xs with
  | nil => exact .nil
  | cons x xs ih =>
    cases hp : p x with
    | true => simpa [hp] using ih.cons x
    | false =>
      cases hq : q x with
      | true => simpa [hp, hq] using List.perm_middle.trans (ih.cons x)
      | false => simpa [hp, hq] using ih

theorem partition_perm (p : α → Bool) (f : α → α) (xs : List α) :
    ((xs.filter fun x => !p x) ++ (xs.filter p).map f).Perm
      (xs.map fun x => if p x then f x else x) := by
  induction xs with
  | nil => exact .nil
  | cons x xs ih =>
    cases hx : p x with
    | true => simpa [hx] using List.perm_middle.trans (ih.cons (f x))
    | false => simpa [hx] using ih.cons x

theorem min?_eq_of_perm {xs ys : List UInt64} (h : xs.Perm ys) : xs.min? = ys.min? := by
  apply Option.ext
  intro t
  simp only [List.min?_eq_some_iff, h.mem_iff]

theorem forall₂_iff_map_eq {f : α → β} {xs ys : List α} :
    List.Forall₂ (fun x y => f x = f y) xs ys ↔ xs.map f = ys.map f := by
  rw [← List.forall₂_eq_eq_eq, List.forall₂_map_left_iff, List.forall₂_map_right_iff]

theorem forall₂_toList {R : α → β → Prop} {x : Option α} {y : Option β} (h : Option.Rel R x y) :
    List.Forall₂ R x.toList y.toList := by
  cases h with
  | none => exact .nil
  | some h => exact .cons h .nil

theorem forall₂_getElem? {R : α → α → Prop} {xs ys : List α} (h : List.Forall₂ R xs ys) (n : Nat) :
    Option.Rel R xs[n]? ys[n]? := by
  induction h generalizing n with
  | nil => exact .none
  | cons hxy _ ih =>
    cases n with
    | zero => exact .some hxy
    | succ n => exact ih n

theorem forall₂_zipIdx {R : α → α → Prop} {xs ys : List α} (h : List.Forall₂ R xs ys) (n : Nat) :
    List.Forall₂ (fun x y => R x.1 y.1 ∧ x.2 = y.2) (xs.zipIdx n) (ys.zipIdx n) := by
  induction h generalizing n with
  | nil => exact .nil
  | cons hxy _ ih => exact .cons ⟨hxy, rfl⟩ (ih (n + 1))

end AlarmScheduler
