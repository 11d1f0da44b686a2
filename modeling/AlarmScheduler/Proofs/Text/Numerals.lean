import AlarmScheduler.Text.Numeral
import AlarmScheduler.Toml.Number

namespace AlarmScheduler.Numeral

open Toml.Number

structure IsDecimal (s : String) (n : Nat) : Prop where
  nonempty : s ≠ ""
  digits : ∀ c ∈ s.toList, c.isDigit = true
  unpadded : s.toList.head? = some '0' → s = "0"
  value : valueOf 10 s.toList = n

def NoDigit (r : List Char) : Prop := ∀ c, r.head? = some c → c.isDigit = false

theorem digitValue_digitChar : ∀ n < 16, digitValue n.digitChar = n := by decide

theorem valueOf_concat (b : Nat) (ds : List Char) (c : Char) :
    valueOf b (ds ++ [c]) = valueOf b ds * b + digitValue c := by
  simp [valueOf]

theorem valueOf_toDigits {b : Nat} (hb : 1 < b) (hle : b ≤ 16) (n : Nat) :
    valueOf b (Nat.toDigits b n) = n := by
  induction n using Nat.strongRecOn with
  | ind n ih =>
    rcases Nat.lt_or_ge n b with hn | hn
    · rw [Nat.toDigits_of_lt_base hn]
      have hdigit := digitValue_digitChar n (by omega)
      simpa [valueOf] using hdigit
    · have hdiv : n / b < n := Nat.div_lt_self (by omega) hb
      have hmod : n % b < b := Nat.mod_lt n (by omega)
      rw [Nat.toDigits_of_base_le hb hn, valueOf_concat, ih _ hdiv,
        digitValue_digitChar _ (by omega)]
      exact Nat.div_add_mod' n b

theorem toDigits_inj {b m n : Nat} (hb : 1 < b) (hle : b ≤ 16)
    (h : Nat.toDigits b m = Nat.toDigits b n) : m = n := by
  rw [← valueOf_toDigits hb hle m, h, valueOf_toDigits hb hle]

theorem head?_toDigits_ne_zero {b n : Nat} (hb : 1 < b) (hn : n ≠ 0) :
    (Nat.toDigits b n).head? ≠ some '0' := by
  induction n using Nat.strongRecOn with
  | ind n ih =>
    rcases Nat.lt_or_ge n b with hlt | hge
    · rw [Nat.toDigits_of_lt_base hlt]
      intro h
      exact hn (Nat.digitChar_eq_zero.mp (Option.some.inj h))
    · have hdiv : n / b < n := Nat.div_lt_self (by omega) hb
      have hpos : 0 < n / b := Nat.div_pos hge (by omega)
      rw [Nat.toDigits_of_base_le hb hge]
      cases hdigits : Nat.toDigits b (n / b) with
      | nil => exact absurd hdigits Nat.toDigits_ne_nil
      | cons c cs =>
        have hhead := ih _ hdiv (by omega)
        rw [hdigits] at hhead
        exact hhead

theorem noDigit_cons {c : Char} (h : c.isDigit = false) (r : List Char) : NoDigit (c :: r) := by
  intro d hd
  rw [← Option.some.inj hd]
  exact h

theorem takeWhile_toDigits_append (n : Nat) {r : List Char} (hr : NoDigit r) :
    (Nat.toDigits 10 n ++ r).takeWhile Char.isDigit = Nat.toDigits 10 n := by
  have hrest : r.takeWhile Char.isDigit = [] := by
    cases r with
    | nil => rfl
    | cons c r =>
      apply List.takeWhile_cons_of_neg
      rw [hr c rfl]
      exact Bool.false_ne_true
  rw [List.takeWhile_append_of_pos, hrest, List.append_nil]
  intro c hc
  exact Nat.isDigit_of_mem_toDigits (by decide) (by decide) hc

theorem toDigits_append_inj {m n : Nat} {r s : List Char} (hr : NoDigit r) (hs : NoDigit s)
    (h : Nat.toDigits 10 m ++ r = Nat.toDigits 10 n ++ s) : m = n ∧ r = s := by
  have hdigits : Nat.toDigits 10 m = Nat.toDigits 10 n := by
    rw [← takeWhile_toDigits_append m hr, h, takeWhile_toDigits_append n hs]
  obtain rfl : m = n := by
    rw [← Nat.ofDigitChars_ten_toDigits (n := m), hdigits, Nat.ofDigitChars_ten_toDigits]
  exact ⟨rfl, List.append_cancel_left h⟩

theorem minus_ne_toDigits_append (n : Nat) (r s : List Char) :
    '-' :: r ≠ Nat.toDigits 10 n ++ s := by
  intro h
  cases hn : Nat.toDigits 10 n with
  | nil => exact Nat.toDigits_ne_nil hn
  | cons c t =>
    have hc : c.isDigit = true :=
      Nat.isDigit_of_mem_toDigits (by decide) (by decide) (hn ▸ List.mem_cons_self)
    rw [hn] at h
    rw [← List.head_eq_of_cons_eq h] at hc
    cases hc

theorem toList_decimal (n : Nat) : (decimal n).toList = Nat.toDigits 10 n := String.toList_ofList

theorem toList_signed_ofNat (n : Nat) :
    (signed (.ofNat n)).toList = Nat.toDigits 10 n := String.toList_ofList

theorem toList_signed_negSucc (n : Nat) :
    (signed (.negSucc n)).toList = '-' :: Nat.toDigits 10 (n + 1) := by
  rw [signed, decimal, String.toList_append]
  exact congrArg (List.cons '-') String.toList_ofList

theorem signed_append_inj {m n : Int} {r s : List Char} (hr : NoDigit r) (hs : NoDigit s)
    (h : (signed m).toList ++ r = (signed n).toList ++ s) : m = n ∧ r = s := by
  cases m with
  | ofNat m =>
    cases n with
    | ofNat n =>
      rw [toList_signed_ofNat, toList_signed_ofNat] at h
      obtain ⟨rfl, rfl⟩ := toDigits_append_inj hr hs h
      exact ⟨rfl, rfl⟩
    | negSucc n =>
      rw [toList_signed_ofNat, toList_signed_negSucc] at h
      exact absurd h.symm (minus_ne_toDigits_append m _ _)
  | negSucc m =>
    cases n with
    | ofNat n =>
      rw [toList_signed_ofNat, toList_signed_negSucc] at h
      exact absurd h (minus_ne_toDigits_append n _ _)
    | negSucc n =>
      rw [toList_signed_negSucc, toList_signed_negSucc] at h
      obtain ⟨hmn, rfl⟩ := toDigits_append_inj hr hs (List.tail_eq_of_cons_eq h)
      exact ⟨congrArg Int.negSucc (Nat.succ.inj hmn), rfl⟩

theorem hex_injective : Function.Injective hex := by
  intro m n h
  have hdigits := (String.append_right_inj "0x").mp h
  exact toDigits_inj (by decide) (by decide) (String.ofList_inj.mp hdigits)

theorem isDecimal_decimal (n : Nat) : IsDecimal (decimal n) n where
  nonempty h := Nat.toDigits_ne_nil (String.ofList_inj.mp (h.trans String.ofList_nil.symm))
  digits c hc := by
    rw [toList_decimal] at hc
    exact Nat.isDigit_of_mem_toDigits (by decide) (by decide) hc
  unpadded h := by
    rw [toList_decimal] at h
    by_cases hn : n = 0
    · rw [hn]
      rfl
    · exact absurd h (head?_toDigits_ne_zero (by decide) hn)
  value := by
    rw [toList_decimal, valueOf_toDigits (by decide) (by decide)]

end AlarmScheduler.Numeral
