import AlarmScheduler.Proofs.Text.Numerals
import AlarmScheduler.Text.Numeral

namespace AlarmScheduler.Duration

inductive Part where
  | day
  | hour
  | minute
  | second
  | milli
  deriving DecidableEq, Repr

namespace Part

def all : List Part := [day, hour, minute, second, milli]

def mark : Part → String
  | day => "d"
  | hour => "h"
  | minute => "m"
  | second => "s"
  | milli => "ms"

def millis : Part → Nat
  | day => 86400000
  | hour => 3600000
  | minute => 60000
  | second => 1000
  | milli => 1

def bound? : Part → Option Nat
  | day => none
  | hour => some 24
  | minute => some 60
  | second => some 60
  | milli => some 1000

end Part

def total : List (Part × Nat) → Nat
  | [] => 0
  | c :: cs => c.1.millis * c.2 + total cs

def count (c : Part × Nat) : String := Numeral.decimal c.2 ++ c.1.mark

def signOf (minus : Bool) : String := if minus then "-" else "+"

structure Counts (minus : Bool) (cs : List (Part × Nat)) (d : Int) : Prop where
  nonempty : cs ≠ []
  run : cs.map Prod.fst <:+ Part.all
  leading : ∀ c, cs.head? = some c → c.1 = .milli ∨ c.2 ≠ 0
  carried : ∀ c ∈ cs, ∀ b, c.1.bound? = some b → c.2 < b
  numerals : ∀ c ∈ cs, Numeral.IsDecimal (Numeral.decimal c.2) c.2
  value : d = if minus then -(total cs : Int) else total cs

def largeCounts (t : Nat) : List (Part × Nat) :=
  [(.day, t / 86400000), (.hour, t / 3600000 % 24), (.minute, t / 60000 % 60),
    (.second, t / 1000 % 60)]

def counts (t : Nat) : List (Part × Nat) :=
  (largeCounts t).dropWhile (fun c => c.2 == 0) ++ [(.milli, t % 1000)]

theorem magnitude_eq_map_counts (t : Nat) :
    magnitude t = (counts t).map fun c => (c.2, c.1.mark) := by
  have hfields : fields t = (largeCounts t).map fun c => (c.2, c.1.mark) := rfl
  rw [magnitude, hfields, List.dropWhile_map, counts, List.map_append]
  rfl

theorem spell_map (cs : List (Part × Nat)) :
    spell (cs.map fun c => (c.2, c.1.mark)) = String.join (cs.map count) := by
  induction cs with
  | nil => rfl
  | cons c cs ih => rw [List.map_cons, spell, ih, List.map_cons, String.join_cons, count]

theorem text_of_ne_zero {d : Int} (h : d ≠ 0) :
    text d = signOf (decide (d < 0)) ++ String.join ((counts d.natAbs).map count) := by
  rw [text, if_neg h, magnitude_eq_map_counts, spell_map]
  by_cases hneg : d < 0
  · rw [if_neg (by omega), signOf, decide_eq_true hneg, if_pos rfl]
  · rw [if_pos (by omega), signOf, decide_eq_false hneg]
    rfl

theorem total_append (cs ds : List (Part × Nat)) : total (cs ++ ds) = total cs + total ds := by
  induction cs with
  | nil => simp [total]
  | cons c cs ih => rw [List.cons_append, total, total, ih, Nat.add_assoc]

theorem total_dropWhile (cs : List (Part × Nat)) :
    total (cs.dropWhile fun c => c.2 == 0) = total cs := by
  induction cs with
  | nil => rfl
  | cons c cs ih =>
    rw [List.dropWhile_cons]
    split
    · rename_i h
      rw [ih, total, beq_iff_eq.mp h, Nat.mul_zero, Nat.zero_add]
    · rfl

theorem total_counts (t : Nat) : total (counts t) = t := by
  have hsum : total (counts t) = total (largeCounts t) + t % 1000 := by
    rw [counts, total_append, total_dropWhile]
    simp [total, Part.millis]
  have hlarge : total (largeCounts t) = 86400000 * (t / 86400000) +
      (3600000 * (t / 3600000 % 24) + (60000 * (t / 60000 % 60) + 1000 * (t / 1000 % 60))) := by
    simp [largeCounts, total, Part.millis]
  omega

theorem counts_run (t : Nat) : (counts t).map Prod.fst <:+ Part.all := by
  obtain ⟨skipped, h⟩ := List.dropWhile_suffix (l := largeCounts t) fun c => c.2 == 0
  refine ⟨skipped.map Prod.fst, ?_⟩
  rw [counts, List.map_append, ← List.append_assoc, ← List.map_append, h]
  rfl

theorem counts_leading (t : Nat) (c : Part × Nat) (h : (counts t).head? = some c) :
    c.1 = .milli ∨ c.2 ≠ 0 := by
  have hlarge := List.head?_dropWhile_not (fun c : Part × Nat => c.2 == 0) (largeCounts t)
  cases hs : (largeCounts t).dropWhile fun c => c.2 == 0 with
  | nil =>
    rw [counts, hs] at h
    exact .inl (congrArg Prod.fst (Option.some.inj h)).symm
  | cons e es =>
    rw [counts, hs] at h
    rw [hs] at hlarge
    rw [← Option.some.inj h]
    exact .inr (beq_eq_false_iff_ne.mp hlarge)

theorem counts_carried (t : Nat) (c : Part × Nat) (hc : c ∈ counts t) (b : Nat)
    (hb : c.1.bound? = some b) : c.2 < b := by
  rw [counts, List.mem_append] at hc
  rcases hc with hc | hc
  · have hmem := (List.dropWhile_sublist _).mem hc
    simp only [largeCounts, List.mem_cons, List.not_mem_nil, or_false] at hmem
    rcases hmem with rfl | rfl | rfl | rfl
    all_goals cases hb
    all_goals exact Nat.mod_lt _ (by decide)
  · rw [List.mem_singleton.mp hc] at hb ⊢
    cases hb
    exact Nat.mod_lt _ (by decide)

theorem counts_counts (d : Int) : Counts (decide (d < 0)) (counts d.natAbs) d where
  nonempty := List.append_ne_nil_of_right_ne_nil _ (List.cons_ne_nil _ _)
  run := counts_run _
  leading := counts_leading _
  carried := counts_carried _
  numerals c _ := Numeral.isDecimal_decimal c.2
  value := by
    rw [total_counts]
    by_cases h : d < 0
    · rw [decide_eq_true h, if_pos rfl]
      omega
    · rw [decide_eq_false h]
      simp only [Bool.false_eq_true, if_false]
      omega

def letters (cs : List (Part × Nat)) : List Char :=
  cs.flatMap fun c => Nat.toDigits 10 c.2 ++ c.1.mark.toList

theorem toList_join_count (cs : List (Part × Nat)) :
    (String.join (cs.map count)).toList = letters cs := by
  rw [String.toList_join, List.flatMap_map, letters]
  simp only [count, String.toList_append, Numeral.toList_decimal]

theorem isDigit_of_head?_letters {cs : List (Part × Nat)} {c : Char}
    (h : (letters cs).head? = some c) : c.isDigit = true := by
  cases cs with
  | nil => cases h
  | cons p cs =>
    rw [letters, List.flatMap_cons, List.append_assoc] at h
    cases hdigits : Nat.toDigits 10 p.2 with
    | nil => exact absurd hdigits Nat.toDigits_ne_nil
    | cons d ds =>
      rw [hdigits] at h
      rw [← Option.some.inj h]
      exact Nat.isDigit_of_mem_toDigits (by decide) (by decide) (hdigits ▸ List.mem_cons_self)

theorem noDigit_mark (p : Part) (r : List Char) : Numeral.NoDigit (p.mark.toList ++ r) := by
  cases p <;> exact Numeral.noDigit_cons rfl _

theorem letters_ne_cons (cs : List (Part × Nat)) (r : List Char) : letters cs ≠ 's' :: r := by
  intro h
  exact absurd (isDigit_of_head?_letters (h ▸ rfl : (letters cs).head? = some 's')) (by decide)

-- The mark of a minute begins that of a millisecond, but no count begins with the letter left over.
theorem mark_append_inj {p q : Part} {cs ds : List (Part × Nat)}
    (h : p.mark.toList ++ letters cs = q.mark.toList ++ letters ds) :
    p = q ∧ letters cs = letters ds := by
  have hcs := letters_ne_cons cs (letters ds)
  have hds := (letters_ne_cons ds (letters cs)).symm
  cases p <;> cases q <;> simp_all [Part.mark]

theorem letters_injective : Function.Injective letters := by
  intro cs ds h
  induction cs generalizing ds with
  | nil =>
    cases ds with
    | nil => rfl
    | cons d ds => simp [letters] at h
  | cons c cs ih =>
    cases ds with
    | nil => simp [letters] at h
    | cons d ds =>
      obtain ⟨p, m⟩ := c
      obtain ⟨q, n⟩ := d
      simp only [letters, List.flatMap_cons, List.append_assoc] at h
      obtain ⟨rfl, hmarks⟩ := Numeral.toDigits_append_inj (noDigit_mark p _) (noDigit_mark q _) h
      obtain ⟨rfl, hrest⟩ := mark_append_inj hmarks
      rw [ih hrest]

theorem counts_injective : Function.Injective counts := by
  intro t u h
  rw [← total_counts t, h, total_counts]

theorem toList_text {d : Int} (h : d ≠ 0) :
    (text d).toList = (if d < 0 then '-' else '+') :: letters (counts d.natAbs) := by
  rw [text_of_ne_zero h, String.toList_append, toList_join_count, signOf]
  by_cases hneg : d < 0 <;> simp [hneg]

theorem text_eq_zero_iff (d : Int) : text d = "0" ↔ d = 0 := by
  by_cases hd : d = 0
  · rw [hd]
    exact iff_of_true rfl rfl
  · refine iff_of_false ?_ hd
    intro h
    have hlist := congrArg String.toList h
    rw [toList_text hd] at hlist
    have hsign := List.head_eq_of_cons_eq hlist
    split at hsign <;> exact absurd hsign (by decide)

theorem text_ne_unset (d : Int) : text d ≠ "--" := by
  intro h
  by_cases hd : d = 0
  · rw [hd] at h
    exact absurd h (by decide)
  · have hlist := congrArg String.toList h
    rw [toList_text hd] at hlist
    have hletters := List.tail_eq_of_cons_eq hlist
    have hdigit := isDigit_of_head?_letters (congrArg List.head? hletters)
    exact absurd hdigit (by decide)

theorem text_injective : Function.Injective text := by
  intro d e h
  by_cases hd : d = 0
  · rw [hd] at h ⊢
    exact ((text_eq_zero_iff e).mp h.symm).symm
  by_cases he : e = 0
  · rw [he] at h ⊢
    exact (text_eq_zero_iff d).mp h
  have hlist : (text d).toList = (text e).toList := congrArg String.toList h
  rw [toList_text hd, toList_text he] at hlist
  have hsign := List.head_eq_of_cons_eq hlist
  have hcounts := letters_injective (List.tail_eq_of_cons_eq hlist)
  have habs : d.natAbs = e.natAbs := counts_injective hcounts
  split at hsign <;> split at hsign
  · omega
  · exact absurd hsign (by decide)
  · exact absurd hsign (by decide)
  · omega

theorem relative_eq_unset_iff (time now : UInt64) : relative time now = "--" ↔ time = 0 := by
  by_cases h : time = 0
  · simp [relative, h]
  · simp [relative, h, text_ne_unset]

theorem relative_of_ne_zero {time : UInt64} (now : UInt64) (h : time ≠ 0) :
    relative time now =
      text (max (-9223372036854775807) (min 9223372036854775807 (time.toNat - now.toNat))) := by
  rw [relative, if_neg h]
  rfl

theorem text_exact :
    (∀ d : Int, d ≠ 0 → ∃ minus cs, Counts minus cs d ∧
      text d = signOf minus ++ String.join (cs.map count)) ∧
    (∀ d, text d = "0" ↔ d = 0) ∧ Function.Injective text ∧
    ∀ time now : UInt64, (relative time now = "--" ↔ time = 0) ∧
      (time ≠ 0 → relative time now =
        text (max (-9223372036854775807) (min 9223372036854775807 (time.toNat - now.toNat)))) := by
  refine ⟨?_, text_eq_zero_iff, text_injective, ?_⟩
  · intro d hd
    exact ⟨decide (d < 0), counts d.natAbs, counts_counts d, text_of_ne_zero hd⟩
  · intro time now
    exact ⟨relative_eq_unset_iff time now, relative_of_ne_zero now⟩

theorem text_exact_lowest :
    (-9223372036854775808 : Int) ≠ 0 ∧ (1 : UInt64) ≠ 0 ∧
      (∃ minus cs, Counts minus cs (-9223372036854775808) ∧
        text (-9223372036854775808) = signOf minus ++ String.join (cs.map count)) ∧
      text (-9223372036854775808) = "-106751991167d7h12m55s808ms" ∧
      relative 1 18446744073709551615 = text (-9223372036854775807) := by
  have hlowest : (-9223372036854775808 : Int) ≠ 0 := by decide
  have hone : (1 : UInt64) ≠ 0 := by decide
  obtain ⟨hcounts, -, -, hrelative⟩ := text_exact
  exact ⟨hlowest, hone, hcounts _ hlowest, by decide, (hrelative 1 18446744073709551615).2 hone⟩

end AlarmScheduler.Duration
