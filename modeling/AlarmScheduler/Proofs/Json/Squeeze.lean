import AlarmScheduler.Proofs.Json.Unambiguous

namespace AlarmScheduler.Json

inductive Scan where
  | outside
  | inside
  | escaped
  deriving DecidableEq

def Scan.next : Scan → Char → Scan
  | .outside, c => if c = '"' then .inside else .outside
  | .inside, c => if c = '"' then .outside else if c = '\\' then .escaped else .inside
  | .escaped, _ => .inside

def Scan.drops : Scan → Char → Bool
  | .outside, c => c.isWhitespace
  | _, _ => false

def squeezeFrom : Scan → List Char → List Char
  | _, [] => []
  | s, c :: r => if s.drops c then squeezeFrom (s.next c) r else c :: squeezeFrom (s.next c) r

def squeeze (text : String) : String := String.ofList (squeezeFrom .outside text.toList)

structure Squeezes (s : Scan) (t u : List Char) (s' : Scan) : Prop where
  text : squeezeFrom s t = u
  next : t.foldl Scan.next s = s'

structure Layout.Blank (l : Layout) : Prop where
  lineBreak : ∀ d, ∀ c ∈ l.lineBreak d, c.isWhitespace = true
  gap : ∀ c ∈ l.gap, c.isWhitespace = true

theorem blank_pretty : Layout.pretty.Blank where
  lineBreak d c hc := by
    rcases List.mem_cons.mp hc with rfl | hc
    · rfl
    · rw [List.eq_of_mem_replicate hc]
      rfl
  gap c hc := by
    rw [List.mem_singleton.mp hc]
    rfl

namespace Squeezes

theorem nil (s : Scan) : Squeezes s [] [] s := ⟨rfl, rfl⟩

theorem keep {s s' : Scan} {c : Char} {t u : List Char} (hc : s.drops c = false)
    (h : Squeezes (s.next c) t u s') : Squeezes s (c :: t) (c :: u) s' where
  text := by simp [squeezeFrom, hc, h.text]
  next := h.next

theorem drop {s s' : Scan} {c : Char} {t u : List Char} (hc : s.drops c = true)
    (h : Squeezes (s.next c) t u s') : Squeezes s (c :: t) u s' where
  text := by simp [squeezeFrom, hc, h.text]
  next := h.next

theorem append {s s' s'' : Scan} {t t' u u' : List Char} (h : Squeezes s t u s')
    (h' : Squeezes s' t' u' s'') : Squeezes s (t ++ t') (u ++ u') s'' := by
  induction t generalizing s u with
  | nil =>
    obtain ⟨rfl, rfl⟩ := h
    exact h'
  | cons c t ih =>
    obtain ⟨rfl, hnext⟩ := h
    have hrest := ih ⟨rfl, hnext⟩
    cases hc : s.drops c with
    | true => simpa [squeezeFrom, hc] using drop hc hrest
    | false => simpa [squeezeFrom, hc] using keep hc hrest

theorem blanks {t : List Char} (ht : ∀ c ∈ t, c.isWhitespace = true) :
    Squeezes .outside t [] .outside := by
  induction t with
  | nil => exact nil .outside
  | cons c t ih =>
    obtain ⟨hblank, ht⟩ := List.forall_mem_cons.mp ht
    have hnext : Scan.outside.next c = .outside := by
      apply if_neg
      rintro rfl
      cases hblank
    refine drop hblank ?_
    rw [hnext]
    exact ih ht

theorem plain {t : List Char} (ht : ∀ c ∈ t, c.isWhitespace = false ∧ c ≠ '"') :
    Squeezes .outside t t .outside := by
  induction t with
  | nil => exact nil .outside
  | cons c t ih =>
    obtain ⟨⟨hblank, hquote⟩, ht⟩ := List.forall_mem_cons.mp ht
    refine keep hblank ?_
    rw [show Scan.outside.next c = .outside from if_neg hquote]
    exact ih ht

theorem plain_inside {t : List Char} (ht : ∀ c ∈ t, c ≠ '"' ∧ c ≠ '\\') :
    Squeezes .inside t t .inside := by
  induction t with
  | nil => exact nil .inside
  | cons c t ih =>
    obtain ⟨⟨hquote, hbackslash⟩, ht⟩ := List.forall_mem_cons.mp ht
    refine keep rfl ?_
    rw [show Scan.inside.next c = .inside from (if_neg hquote).trans (if_neg hbackslash)]
    exact ih ht

theorem backslash (c : Char) : Squeezes .inside ['\\', c] ['\\', c] .inside :=
  keep rfl (keep rfl (nil .inside))

theorem digitChar_ne : ∀ n < 16, n.digitChar ≠ '"' ∧ n.digitChar ≠ '\\' := by decide

theorem of_escape (c : Char) : Squeezes .inside (escape c) (escape c) .inside := by
  rw [escape]
  split_ifs with h1 h2 h3 h4 h5 h6 h7 h8
  · exact backslash '"'
  · exact backslash '\\'
  · exact backslash 'b'
  · exact backslash 'f'
  · exact backslash 'n'
  · exact backslash 'r'
  · exact backslash 't'
  · have hhigh := digitChar_ne (c.toNat / 16) (by omega)
    have hlow := digitChar_ne (c.toNat % 16) (by omega)
    refine (backslash 'u').append (plain_inside (t := ['0', '0', _, _]) ?_)
    simp [hhigh, hlow]
  · exact plain_inside (by simp [h1, h2])

theorem of_quote (s : List Char) : Squeezes .outside (quote s) (quote s) .outside := by
  have hinside : Squeezes .inside (s.flatMap escape) (s.flatMap escape) .inside := by
    induction s with
    | nil => exact nil .inside
    | cons c s ih => simpa using (of_escape c).append ih
  exact keep rfl (hinside.append (keep rfl (nil .outside)))

theorem of_digits (n : Nat) :
    Squeezes .outside (Nat.toDigits 10 n) (Nat.toDigits 10 n) .outside := by
  refine plain fun c hc => ?_
  have hdigit : c.isDigit = true := Nat.isDigit_of_mem_toDigits (by decide) (by decide) hc
  have hne (b : Char) (hb : b.isDigit = false) : c ≠ b := by
    rintro rfl
    simp [hb] at hdigit
  refine ⟨?_, hne '"' rfl⟩
  simp [Char.isWhitespace, hne ' ' rfl, hne '\t' rfl, hne '\r' rfl, hne '\n' rfl]

theorem of_signed (n : Int) :
    Squeezes .outside (Numeral.signed n).toList (Numeral.signed n).toList .outside := by
  cases n with
  | ofNat m =>
    rw [Numeral.toList_signed_ofNat]
    exact of_digits m
  | negSucc m =>
    rw [Numeral.toList_signed_negSucc]
    exact keep rfl (of_digits (m + 1))

section Lists

variable {α : Type} {f g : α → List Char} {xs : List α} {brk : List Char}

theorem of_listed (hbrk : ∀ c ∈ brk, c.isWhitespace = true)
    (h : ∀ x ∈ xs, Squeezes .outside (f x) (g x) .outside) :
    Squeezes .outside (listed brk (xs.map f)) (listed [] (xs.map g)) .outside := by
  induction xs with
  | nil => exact nil .outside
  | cons x xs ih =>
    obtain ⟨hx, hxs⟩ := List.forall_mem_cons.mp h
    have hitem := (blanks hbrk).append hx
    cases xs with
    | nil => exact hitem
    | cons y ys => exact hitem.append (keep rfl (ih hxs))

theorem of_enclose {l : Layout} (hl : l.Blank) (d e : Nat) {left right : Char}
    (hleft : Squeezes .outside [left] [left] .outside)
    (hright : Squeezes .outside [right] [right] .outside)
    (h : ∀ x ∈ xs, Squeezes .outside (f x) (g x) .outside) :
    Squeezes .outside (enclose l d left right (xs.map f))
      (enclose .compact e left right (xs.map g)) .outside := by
  rw [enclose_compact]
  cases xs with
  | nil => exact hleft.append hright
  | cons x xs =>
    have hitems := of_listed (hl.lineBreak (d + 1)) h
    have hend := (blanks (hl.lineBreak d)).append hright
    simpa [enclose] using hleft.append (hitems.append hend)

end Lists

-- A depth shows in the blanks only, so the two texts need not stand at one depth.
theorem of_render {l : Layout} (hl : l.Blank) (j : Json) (d e : Nat) :
    Squeezes .outside (render l d j) (render .compact e j) .outside := by
  induction j using induct generalizing d e with
  | int n => exact of_signed n
  | str s => exact of_quote s.toList
  | arr items ih =>
    simp only [render, renderItems_eq_map]
    exact of_enclose hl d e (keep rfl (nil .outside)) (keep rfl (nil .outside))
      fun x hx => ih x hx (d + 1) (e + 1)
  | obj members ih =>
    simp only [render, renderMembers_eq_map]
    refine of_enclose hl d e (keep rfl (nil .outside)) (keep rfl (nil .outside)) ?_
    rintro ⟨key, value⟩ hm
    have hvalue := (blanks hl.gap).append (ih _ hm (d + 1) (e + 1))
    have hcolon := keep (s := .outside) (c := ':') rfl hvalue
    simpa [renderMember, Layout.compact] using (of_quote key.toList).append hcolon

end Squeezes

theorem squeeze_pretty (j : Json) : squeeze (pretty j) = compact j := by
  rw [squeeze, pretty, String.toList_ofList, (Squeezes.of_render blank_pretty j 0 0).text, compact]

example : squeeze (pretty (.arr [.str "a \" b", .int (-1)])) = "[\"a \\\" b\",-1]" := by decide

theorem pretty_injective : Function.Injective pretty := by
  intro v w h
  apply compact_injective
  rw [← squeeze_pretty, h, squeeze_pretty]

theorem render_compact_depth (j : Json) (d e : Nat) :
    render .compact d j = render .compact e j := by
  rw [← (Squeezes.of_render blank_pretty j 0 d).text, (Squeezes.of_render blank_pretty j 0 e).text]

theorem listed_eq_intercalate (xs : List (List Char)) : listed [] xs = [','].intercalate xs := by
  induction xs with
  | nil => rfl
  | cons x xs ih =>
    cases xs with
    | nil => simp [listed]
    | cons y ys => simp [listed, ih, List.intercalate_cons_cons]

theorem compact_arr (items : List Json) :
    compact (.arr items) = "[" ++ ",".intercalate (items.map compact) ++ "]" := by
  have hitem (x : Json) : render .compact 1 x = (compact x).toList := by
    rw [compact, String.toList_ofList, render_compact_depth x 1 0]
  apply String.toList_inj.mp
  rw [compact, String.toList_ofList, render, renderItems_eq_map, enclose_compact,
    listed_eq_intercalate, funext hitem]
  simp [String.toList_intercalate, Function.comp_def]

end AlarmScheduler.Json
