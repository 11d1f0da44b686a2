import AlarmScheduler.Json
import AlarmScheduler.Proofs.Text.Numerals
import Mathlib.Tactic.SplitIfs

namespace AlarmScheduler.Json

open Numeral

def Unambiguous {α : Type} (f : α → List Char) (x : α) : Prop :=
  ∀ (y : α) (r s : List Char), NoDigit r → NoDigit s → f x ++ r = f y ++ s → x = y ∧ r = s

def hexValue (c : Char) : Nat := if c.isDigit then c.toNat - 48 else c.toNat - 87

def escaped? : List Char → Option (Char × List Char)
  | 'b' :: r => some ('\x08', r)
  | 'f' :: r => some ('\x0c', r)
  | 'n' :: r => some ('\n', r)
  | 'r' :: r => some ('\r', r)
  | 't' :: r => some ('\t', r)
  | 'u' :: '0' :: '0' :: c :: d :: r => some (Char.ofNat (16 * hexValue c + hexValue d), r)
  | c :: r => some (c, r)
  | [] => none

def unescape? : List Char → Option (Char × List Char)
  | c :: r => if c = '\\' then escaped? r else some (c, r)
  | [] => none

inductive Shape where
  | number
  | string
  | array
  | object

def shape : Json → Shape
  | int _ => .number
  | str _ => .string
  | arr _ => .array
  | obj _ => .object

def Shape.ofHead? (c : Char) : Option Shape :=
  if c = '"' then some .string
  else if c = '[' then some .array
  else if c = '\x7b' then some .object
  else if c = '-' ∨ c.isDigit = true then some .number
  else none

theorem induct {motive : Json → Prop} (int : ∀ n, motive (.int n)) (str : ∀ s, motive (.str s))
    (arr : ∀ items, (∀ x ∈ items, motive x) → motive (.arr items))
    (obj : ∀ members, (∀ m ∈ members, motive m.2) → motive (.obj members)) (j : Json) :
    motive j := by
  cases j with
  | int n => exact int n
  | str s => exact str s
  | arr items => exact arr items fun x _ => induct int str arr obj x
  | obj members => exact obj members fun m _ => induct int str arr obj m.2
termination_by j
decreasing_by
  · have hx := List.sizeOf_lt_of_mem ‹x ∈ items›
    rw [Json.arr.sizeOf_spec]
    omega
  · have hm := List.sizeOf_lt_of_mem ‹m ∈ members›
    have hvalue : sizeOf m = 1 + sizeOf m.1 + sizeOf m.2 := Prod.mk.sizeOf_spec m.1 m.2
    rw [Json.obj.sizeOf_spec]
    omega

theorem hexValue_digitChar : ∀ n < 16, hexValue n.digitChar = n := by decide

theorem unescape?_escape (c : Char) (r : List Char) : unescape? (escape c ++ r) = some (c, r) := by
  rw [escape]
  split_ifs with h1 h2 h3 h4 h5 h6 h7 h8
  · rw [h1]; rfl
  · rw [h2]; rfl
  · rw [h3]; rfl
  · rw [h4]; rfl
  · rw [h5]; rfl
  · rw [h6]; rfl
  · rw [h7]; rfl
  · have hhigh := hexValue_digitChar (c.toNat / 16) (by omega)
    have hlow := hexValue_digitChar (c.toNat % 16) (by omega)
    simp only [List.cons_append, List.nil_append, unescape?, if_true, escaped?, hhigh, hlow,
      Nat.div_add_mod, Char.ofNat_toNat]
  · exact if_neg h2

theorem escape_append_inj {c d : Char} {r s : List Char} (h : escape c ++ r = escape d ++ s) :
    c = d ∧ r = s := by
  have hread := unescape?_escape c r
  rw [h, unescape?_escape] at hread
  obtain ⟨rfl, rfl⟩ := Prod.mk.inj (Option.some.inj hread)
  exact ⟨rfl, rfl⟩

theorem quote_ne_escape (c : Char) (r s : List Char) : '"' :: r ≠ escape c ++ s := by
  intro h
  have hread := unescape?_escape c s
  rw [← h] at hread
  obtain rfl : '"' = c := congrArg Prod.fst (Option.some.inj hread)
  exact absurd (List.head_eq_of_cons_eq h) (by decide)

theorem escaped_append_inj {s t r u : List Char}
    (h : s.flatMap escape ++ '"' :: r = t.flatMap escape ++ '"' :: u) : s = t ∧ r = u := by
  induction s generalizing t with
  | nil =>
    cases t with
    | nil => exact ⟨rfl, List.tail_eq_of_cons_eq h⟩
    | cons d t =>
      rw [List.flatMap_cons, List.append_assoc] at h
      exact absurd h (quote_ne_escape d _ _)
  | cons c s ih =>
    cases t with
    | nil =>
      rw [List.flatMap_cons, List.append_assoc] at h
      exact absurd h.symm (quote_ne_escape c _ _)
    | cons d t =>
      rw [List.flatMap_cons, List.append_assoc, List.flatMap_cons, List.append_assoc] at h
      obtain ⟨rfl, hrest⟩ := escape_append_inj h
      obtain ⟨rfl, rfl⟩ := ih hrest
      exact ⟨rfl, rfl⟩

theorem quote_append_inj {s t r u : List Char} (h : quote s ++ r = quote t ++ u) :
    s = t ∧ r = u := by
  simp only [quote, List.cons_append, List.append_assoc, List.cons.injEq, true_and,
    List.nil_append] at h
  exact escaped_append_inj h

theorem ofHead?_of_isDigit {c : Char} (h : c.isDigit = true) :
    Shape.ofHead? c = some .number := by
  rw [Shape.ofHead?]
  split_ifs with h1 h2 h3 h4
  · rw [h1] at h; cases h
  · rw [h2] at h; cases h
  · rw [h3] at h; cases h
  · rfl
  · exact absurd (.inr h) h4

theorem enclose_eq_cons (l : Layout) (d : Nat) (left right : Char) (items : List (List Char)) :
    ∃ t, enclose l d left right items = left :: t := by
  rw [enclose]
  split
  · exact ⟨_, rfl⟩
  · exact ⟨_, rfl⟩

theorem render_eq_cons (l : Layout) (d : Nat) (j : Json) :
    ∃ c t, render l d j = c :: t ∧ Shape.ofHead? c = some j.shape := by
  cases j with
  | int n =>
    cases n with
    | ofNat n =>
      obtain ⟨c, t, hn⟩ := List.exists_cons_of_ne_nil (Nat.toDigits_ne_nil (n := n) (b := 10))
      have hc : c.isDigit = true :=
        Nat.isDigit_of_mem_toDigits (by decide) (by decide) (hn ▸ List.mem_cons_self)
      exact ⟨c, t, (toList_signed_ofNat n).trans hn, ofHead?_of_isDigit hc⟩
    | negSucc n => exact ⟨'-', _, toList_signed_negSucc n, rfl⟩
  | str s => exact ⟨'"', _, rfl, rfl⟩
  | arr items =>
    obtain ⟨t, ht⟩ := enclose_eq_cons l d '[' ']' (renderItems l (d + 1) items)
    exact ⟨'[', t, ht, rfl⟩
  | obj members =>
    obtain ⟨t, ht⟩ := enclose_eq_cons l d '\x7b' '\x7d' (renderMembers l (d + 1) members)
    exact ⟨'\x7b', t, ht, rfl⟩

theorem shape_eq_of_render {l : Layout} {d : Nat} {v w : Json} {r s : List Char}
    (h : render l d v ++ r = render l d w ++ s) : v.shape = w.shape := by
  obtain ⟨c, t, hv, hc⟩ := render_eq_cons l d v
  obtain ⟨e, u, hw, he⟩ := render_eq_cons l d w
  rw [hv, hw] at h
  rw [← List.head_eq_of_cons_eq h, hc] at he
  exact Option.some.inj he

theorem render_append_ne_cons {l : Layout} {d : Nat} {j : Json} {c : Char} {r s : List Char}
    (hc : Shape.ofHead? c = none) : render l d j ++ r ≠ c :: s := by
  intro h
  obtain ⟨e, t, hj, he⟩ := render_eq_cons l d j
  rw [hj] at h
  rw [List.head_eq_of_cons_eq h, hc] at he
  cases he

theorem listed_cons (brk x : List Char) (xs : List (List Char)) :
    listed brk (x :: xs) = brk ++ x ++ xs.flatMap fun y => ',' :: (brk ++ y) := by
  induction xs generalizing x with
  | nil => exact (List.append_nil _).symm
  | cons y ys ih =>
    rw [listed, ih, List.flatMap_cons]
    simp only [List.append_assoc, List.cons_append]

section Lists

variable {α : Type} {f : α → List Char} {close : Char} {xs ys : List α} {r s : List Char}

theorem noDigit_listed (hclose : close.isDigit = false) (xs : List α) (r : List Char) :
    NoDigit ((xs.flatMap fun x => ',' :: f x) ++ close :: r) := by
  cases xs with
  | nil => exact noDigit_cons hclose r
  | cons x xs => exact noDigit_cons (c := ',') rfl _

theorem more_append_inj (hcomma : close ≠ ',') (hclose : close.isDigit = false)
    (hxs : ∀ x ∈ xs, Unambiguous f x)
    (h : (xs.flatMap fun x => ',' :: f x) ++ close :: r =
      (ys.flatMap fun y => ',' :: f y) ++ close :: s) : xs = ys ∧ r = s := by
  induction xs generalizing ys with
  | nil =>
    cases ys with
    | nil => exact ⟨rfl, List.tail_eq_of_cons_eq h⟩
    | cons y ys => exact absurd (List.head_eq_of_cons_eq h) hcomma
  | cons x xs ih =>
    cases ys with
    | nil => exact absurd (List.head_eq_of_cons_eq h).symm hcomma
    | cons y ys =>
      simp only [List.flatMap_cons, List.cons_append, List.append_assoc, List.cons.injEq,
        true_and] at h
      obtain ⟨rfl, hrest⟩ := hxs x List.mem_cons_self y _ _ (noDigit_listed hclose xs r)
        (noDigit_listed hclose ys s) h
      obtain ⟨rfl, rfl⟩ := ih (fun z hz => hxs z (List.mem_cons_of_mem x hz)) hrest
      exact ⟨rfl, rfl⟩

theorem listed_append_inj (hcomma : close ≠ ',') (hclose : close.isDigit = false)
    (hhead : ∀ x t u, f x ++ t ≠ close :: u) (hxs : ∀ x ∈ xs, Unambiguous f x)
    (h : listed [] (xs.map f) ++ close :: r = listed [] (ys.map f) ++ close :: s) :
    xs = ys ∧ r = s := by
  cases xs with
  | nil =>
    cases ys with
    | nil => exact ⟨rfl, List.tail_eq_of_cons_eq h⟩
    | cons y ys =>
      rw [List.map_cons, listed_cons, List.nil_append, List.append_assoc] at h
      exact absurd h.symm (hhead y _ _)
  | cons x xs =>
    cases ys with
    | nil =>
      rw [List.map_cons, listed_cons, List.nil_append, List.append_assoc] at h
      exact absurd h (hhead x _ _)
    | cons y ys =>
      apply more_append_inj hcomma hclose hxs
      simpa [listed_cons, List.flatMap_map] using h

end Lists

theorem enclose_compact (d : Nat) (left right : Char) (items : List (List Char)) :
    enclose .compact d left right items = left :: listed [] items ++ [right] := by
  cases items with
  | nil => rfl
  | cons x xs => exact congrArg (· ++ [right]) (List.append_nil (left :: listed [] (x :: xs)))

theorem renderItems_eq_map (l : Layout) (d : Nat) (xs : List Json) :
    renderItems l d xs = xs.map (render l d) := by
  induction xs with
  | nil => rfl
  | cons x xs ih => rw [renderItems, ih, List.map_cons]

theorem renderMembers_eq_map (l : Layout) (d : Nat) (ms : List (String × Json)) :
    renderMembers l d ms = ms.map (renderMember l d) := by
  induction ms with
  | nil => rfl
  | cons m ms ih => rw [renderMembers, ih, List.map_cons]

theorem renderMember_append_ne_cons {l : Layout} {d : Nat} {m : String × Json} {c : Char}
    {r s : List Char} (hc : c ≠ '"') : renderMember l d m ++ r ≠ c :: s := by
  obtain ⟨key, value⟩ := m
  intro h
  rw [renderMember] at h
  exact hc (List.head_eq_of_cons_eq h).symm

theorem unambiguous_renderMember {d : Nat} {m : String × Json}
    (h : Unambiguous (render .compact d) m.2) : Unambiguous (renderMember .compact d) m := by
  obtain ⟨key, value⟩ := m
  rintro ⟨key', value'⟩ r s hr hs heq
  simp only [renderMember, List.append_assoc, List.cons_append] at heq
  obtain ⟨hkey, hrest⟩ := quote_append_inj heq
  obtain ⟨rfl, rfl⟩ := h value' r s hr hs (List.tail_eq_of_cons_eq hrest)
  exact ⟨congrArg (·, _) (String.toList_inj.mp hkey), rfl⟩

-- The first character gives the shape away, so both values are made by the same constructor.
theorem unambiguous_render (j : Json) (d : Nat) : Unambiguous (render .compact d) j := by
  induction j using induct generalizing d with
  | int n =>
    intro w r s hr hs h
    have hshape := shape_eq_of_render h
    cases w with
    | int m =>
      obtain ⟨rfl, rfl⟩ := signed_append_inj hr hs h
      exact ⟨rfl, rfl⟩
    | _ => cases hshape
  | str t =>
    intro w r s _ _ h
    have hshape := shape_eq_of_render h
    cases w with
    | str u =>
      obtain ⟨htu, rfl⟩ := quote_append_inj h
      exact ⟨congrArg str (String.toList_inj.mp htu), rfl⟩
    | _ => cases hshape
  | arr items ih =>
    intro w r s _ _ h
    have hshape := shape_eq_of_render h
    cases w with
    | arr others =>
      simp only [render, enclose_compact, renderItems_eq_map, List.cons_append, List.append_assoc,
        List.nil_append, List.cons.injEq, true_and] at h
      obtain ⟨rfl, rfl⟩ := listed_append_inj (by decide) rfl
        (fun x t u => render_append_ne_cons rfl) (fun x hx => ih x hx (d + 1)) h
      exact ⟨rfl, rfl⟩
    | _ => cases hshape
  | obj members ih =>
    intro w r s _ _ h
    have hshape := shape_eq_of_render h
    cases w with
    | obj others =>
      simp only [render, enclose_compact, renderMembers_eq_map, List.cons_append,
        List.append_assoc, List.nil_append, List.cons.injEq, true_and] at h
      obtain ⟨rfl, rfl⟩ := listed_append_inj (by decide) rfl
        (fun m t u => renderMember_append_ne_cons (by decide))
        (fun m hm => unambiguous_renderMember (ih m hm (d + 1))) h
      exact ⟨rfl, rfl⟩
    | _ => cases hshape

theorem compact_injective : Function.Injective compact := by
  intro v w h
  have htext : render .compact 0 v ++ [] = render .compact 0 w ++ [] :=
    congrArg (· ++ []) (String.ofList_inj.mp h)
  have hnil : NoDigit [] := fun _ hc => by cases hc
  exact (unambiguous_render v 0 w [] [] hnil hnil htext).1

end AlarmScheduler.Json
