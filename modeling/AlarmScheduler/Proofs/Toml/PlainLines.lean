import AlarmScheduler.Proofs.Text.Numerals
import AlarmScheduler.Proofs.Toml.Contents

namespace AlarmScheduler.Toml

open Reader

inductive Digits : List Char → Prop where
  | finish : Digits []
  | lineEnd (r : List Char) : Digits ('\n' :: r)
  | digit {c : Char} {cs : List Char} : c.isDigit = true → Digits cs → Digits (c :: cs)

namespace Digits

theorem of_append {ds r : List Char} (hds : ∀ c ∈ ds, c.isDigit = true) (hr : Digits r) :
    Digits (ds ++ r) := by
  induction ds with
  | nil => exact hr
  | cons c ds ih =>
    obtain ⟨hc, hds⟩ := List.forall_mem_cons.mp hds
    exact .digit hc (ih hds)

theorem stops {cs : List Char} (hcs : Digits cs) {ok : Char → Bool} (h : ok '\n' = false)
    (hdigits : ∀ c, c.isDigit = true → ok c = false) : Stops ok cs := by
  cases hcs with
  | finish => exact stops_nil ok
  | lineEnd r => exact stops_cons h r
  | digit hc _ => exact stops_cons (hdigits _ hc) _

theorem next_keeps {ok : Char → Bool} (h : ok '\n' = false) :
    Ensures Digits (next ok) fun _ r => Digits r := by
  intro cs a r hcs hnext
  cases hcs with
  | finish => cases hnext
  | lineEnd r =>
    rw [next_of_stops (stops_cons h r)] at hnext
    cases hnext
  | digit hc hcs =>
    rw [next] at hnext
    split at hnext
    · cases hnext
      exact hcs
    · cases hnext

theorem next_refuses {ok : Char → Bool} (h : ok '\n' = false)
    (hdigits : ∀ c, c.isDigit = true → ok c = false) : Refuses Digits (next ok) := by
  intro cs a r hcs hnext
  rw [next_of_stops (hcs.stops h hdigits)] at hnext
  cases hnext

theorem beq_false_of_isDigit {c d : Char} (hc : c.isDigit = false) (hd : d.isDigit = true) :
    (d == c) = false := by
  refine beq_false_of_ne ?_
  rintro rfl
  exact absurd hd (by rw [hc]; decide)

theorem either_of_isDigit {x y c : Char} (hx : x.isDigit = false) (hy : y.isDigit = false)
    (hc : c.isDigit = true) : (c == x || c == y) = false :=
  Bool.or_eq_false_iff.mpr ⟨beq_false_of_isDigit hx hc, beq_false_of_isDigit hy hc⟩

theorem char_keeps {c : Char} (h : c ≠ '\n') : Ensures Digits (char c) fun _ r => Digits r :=
  Ensures.bind (next_keeps (beq_false_of_ne h.symm)) fun _ => Ensures.pure fun _ hr => hr

theorem char_refuses {c : Char} (h : c ≠ '\n') (hc : c.isDigit = false) :
    Refuses Digits (char c) := by
  refine Ensures.bind (next_refuses (beq_false_of_ne h.symm) ?_) fun _ _ _ _ hr => hr.elim
  intro d hd
  exact beq_false_of_isDigit hc hd

end Digits

theorem quoted_refuses : Refuses Digits Quoted.read := by
  have hline (q : Char) (hq : q ≠ '\n') (hd : q.isDigit = false) (unit : Reader Char) :
      Refuses Digits (Quoted.line q unit) :=
    Refuses.bind (Digits.char_refuses hq hd)
  have hlines (q : Char) (hq : q ≠ '\n') (hd : q.isDigit = false) (unit : Reader (List Char)) :
      Refuses Digits (Quoted.lines q unit) :=
    Refuses.bind (Refuses.bind (Digits.char_refuses hq hd))
  refine .orElse (hlines '"' (by decide) rfl _) (.orElse (hlines '\'' (by decide) rfl _) ?_)
  exact .orElse (hline '"' (by decide) rfl _) (hline '\'' (by decide) rfl _)

theorem digits_keep (width : Nat) :
    Ensures Digits (exactly (next Char.isDigit) width) fun _ r => Digits r :=
  Ensures.exactly (Digits.next_keeps rfl) width

theorem moment_refuses : Refuses Digits Moment.read := by
  have hdate : Refuses Digits Moment.readDate := by
    refine Ensures.bind (Q := fun _ r => Digits r) ?_ fun _ =>
      Refuses.bind (Digits.char_refuses (by decide) rfl)
    exact Ensures.bind (digits_keep 4) fun _ => Ensures.pure fun _ hr => hr
  have htime : Refuses Digits Moment.readTime := by
    refine Ensures.bind (Q := fun _ r => Digits r) ?_ fun _ =>
      Refuses.bind (Digits.char_refuses (by decide) rfl)
    refine Ensures.bind (Q := fun _ r => Digits r) ?_ fun _ => ?_
    · exact Ensures.bind (digits_keep 2) fun _ => Ensures.pure fun _ hr => hr
    · exact Ensures.bind Ensures.require fun _ => Ensures.pure fun _ hr => hr.2
  exact .orElse (Refuses.bind hdate) (Refuses.bind htime)

theorem sign_keeps : Ensures Digits Number.sign fun _ r => Digits r :=
  Ensures.bind (Ensures.optional (Digits.next_keeps rfl)) fun _ => Ensures.pure fun _ hr => hr

theorem moreDigits_keeps : Ensures Digits (Number.moreDigits Char.isDigit) fun _ r => Digits r := by
  have hdigit : Ensures Digits
      (do
        let _ ← optional (char '_')
        next Char.isDigit) fun _ r => True ∧ Digits r :=
    Ensures.bind (Ensures.optional (Digits.char_keeps (by decide))) fun _ =>
      (Digits.next_keeps rfl).weaken fun _ _ hr => ⟨trivial, hr⟩
  exact (Ensures.many hdigit).weaken fun _ _ h => h.2

theorem decimalDigits_keeps : Ensures Digits Number.decimalDigits fun _ r => Digits r := by
  refine Ensures.bind (Digits.next_keeps rfl) fun first => ?_
  split
  · exact Ensures.pure fun _ hr => hr
  · exact Ensures.bind moreDigits_keeps fun _ => Ensures.pure fun _ hr => hr

theorem float_refuses : Refuses Digits Number.float := by
  have hexponent : Refuses Digits (next fun c => c == 'e' || c == 'E') :=
    Digits.next_refuses rfl fun _ => Digits.either_of_isDigit rfl rfl
  have hscale : Refuses Digits Number.scale :=
    .orElse (Refuses.bind (Refuses.bind hexponent))
      (Refuses.bind (Refuses.bind (Digits.char_refuses (by decide) rfl)))
  have hfinite : Refuses Digits Number.finite :=
    Ensures.bind sign_keeps fun _ => Ensures.bind decimalDigits_keeps fun _ =>
      Refuses.bind hscale
  have hspecial : Refuses Digits Number.special :=
    Ensures.bind sign_keeps fun _ => .orElse
      (Refuses.bind (Refuses.bind (Digits.char_refuses (by decide) rfl)))
      (Refuses.bind (Refuses.bind (Digits.char_refuses (by decide) rfl)))
  exact .orElse hfinite hspecial

theorem based_refuses {mark : Char} (h : mark ≠ '\n') (hmark : mark.isDigit = false) (base : Nat)
    (ok : Char → Bool) : Refuses Digits (Number.based mark base ok) :=
  Refuses.bind <|
    Ensures.bind (Digits.char_keeps (by decide)) fun _ =>
      Refuses.bind (Digits.char_refuses h hmark)

theorem blanks_append {ds r : List Char} (hds : ∀ c ∈ ds, isBlank c = true)
    (hr : Stops isBlank r) : blanks (ds ++ r) = some ((), r) :=
  bind_of_some (span_append hds hr)

theorem blanks_of_stops {cs : List Char} (h : Stops isBlank cs) : blanks cs = some ((), cs) :=
  blanks_append (fun _ hc => absurd hc List.not_mem_nil) h

theorem blanks_cons {cs : List Char} (h : Stops isBlank cs) :
    blanks (' ' :: cs) = some ((), cs) := by
  have hblank : ∀ c ∈ [' '], isBlank c = true := fun c hc => List.mem_singleton.mp hc ▸ rfl
  exact blanks_append hblank h

inductive Ends : List Char → List Char → Prop where
  | finish : Ends [] []
  | lineBreak (r : List Char) : Ends ('\n' :: r) r

theorem Ends.digits {rest r : List Char} (h : Ends rest r) : Digits rest := by
  cases h with
  | finish => exact .finish
  | lineBreak r => exact .lineEnd r

theorem Ends.stops {rest r : List Char} (h : Ends rest r) {ok : Char → Bool}
    (hok : ok '\n' = false) : Stops ok rest := by
  cases h with
  | finish => exact stops_nil ok
  | lineBreak r => exact stops_cons hok r

section Line

variable {rest r : List Char} (hend : Ends rest r)
include hend

theorem moreDigits_read {ds : List Char} (hds : ∀ c ∈ ds, c.isDigit = true) :
    Number.moreDigits Char.isDigit (ds ++ rest) = some (ds, rest) := by
  refine many_of_run ?_
  induction ds with
  | nil =>
    refine .stop ?_
    have hmark : char '_' rest = none := char_of_stops (hend.stops rfl)
    rw [List.nil_append, bind_of_some (optional_of_none hmark)]
    exact next_of_stops (hend.stops rfl)
  | cons c ds ih =>
    obtain ⟨hc, hds⟩ := List.forall_mem_cons.mp hds
    refine .step (r := ds ++ rest) ?_ (Nat.lt_succ_self _) (ih hds)
    have hmark : Stops (· == '_') (c :: (ds ++ rest)) := by
      have hne : (c == '_') = false := Digits.beq_false_of_isDigit rfl hc
      intro d hd
      rw [← Option.some.inj hd]
      exact hne
    rw [List.cons_append, bind_of_some (optional_of_none (char_of_stops hmark))]
    exact next_cons hc

theorem decimalDigits_read (n : Nat) :
    Number.decimalDigits (Nat.toDigits 10 n ++ rest) = some (Nat.toDigits 10 n, rest) := by
  by_cases hn : n = 0
  · rw [hn]
    rfl
  · have hhead := Numeral.head?_toDigits_ne_zero (b := 10) (by decide) hn
    have hall : ∀ c ∈ Nat.toDigits 10 n, c.isDigit = true := fun c hc =>
      Nat.isDigit_of_mem_toDigits (by decide) (by decide) hc
    cases hds : Nat.toDigits 10 n with
    | nil => exact absurd hds Nat.toDigits_ne_nil
    | cons d ds =>
      rw [hds] at hhead hall
      obtain ⟨hd, hds⟩ := List.forall_mem_cons.mp hall
      have hzero : d ≠ '0' := fun h => hhead (h ▸ rfl)
      rw [Number.decimalDigits, List.cons_append, bind_of_some (next_cons hd), if_neg hzero,
        bind_of_some (moreDigits_read hend hds)]
      rfl

theorem digits_read (n : Nat) : Digits (Nat.toDigits 10 n ++ rest) :=
  .of_append (fun _ hc => Nat.isDigit_of_mem_toDigits (by decide) (by decide) hc) hend.digits

theorem sign_read (n : Nat) :
    Number.sign (Nat.toDigits 10 n ++ rest) = some (false, Nat.toDigits 10 n ++ rest) := by
  have hrefuses : Refuses Digits (next fun c => c == '+' || c == '-') :=
    Digits.next_refuses rfl fun _ => Digits.either_of_isDigit rfl rfl
  exact bind_of_some (optional_of_none (hrefuses.eq_none (digits_read hend n)))

theorem integer_read {n : Nat} (hn : n ≤ 9223372036854775807) :
    Number.integer (Nat.toDigits 10 n ++ rest) = some ((n : Int), rest) := by
  have hbased {mark : Char} (h : mark ≠ '\n') (hmark : mark.isDigit = false) (base : Nat)
      (ok : Char → Bool) : Number.based mark base ok (Nat.toDigits 10 n ++ rest) = none :=
    (based_refuses h hmark base ok).eq_none (digits_read hend n)
  have hdecimal : Number.decimal (Nat.toDigits 10 n ++ rest) = some ((n : Int), rest) := by
    rw [Number.decimal, bind_of_some (sign_read hend n), bind_of_some (decimalDigits_read hend n),
      Numeral.valueOf_toDigits (by decide) (by decide)]
    rfl
  have hrange : Number.inRange n = true := by
    simp only [Number.inRange, Bool.and_eq_true, decide_eq_true_eq]
    omega
  have hread : (Number.based 'x' 16 Number.isHex <|> Number.based 'o' 8 Number.isOctal <|>
      Number.based 'b' 2 Number.isBinary <|> Number.decimal) (Nat.toDigits 10 n ++ rest) =
        some ((n : Int), rest) := by
    rw [orElse_of_none (hbased (by decide) rfl _ _), orElse_of_none (hbased (by decide) rfl _ _),
      orElse_of_none (hbased (by decide) rfl _ _), hdecimal]
  rw [Number.integer, bind_of_some hread, hrange]
  rfl

theorem value_read (depth : Nat) {n : Nat} (hn : n ≤ 9223372036854775807) :
    value depth (Nat.toDigits 10 n ++ rest) = some (.integer n, rest) := by
  have hdigits := digits_read hend n
  have hscalar : scalar (Nat.toDigits 10 n ++ rest) = some (.integer n, rest) := by
    rw [scalar, orElse_of_none ((Refuses.map quoted_refuses).eq_none hdigits),
      orElse_of_none ((Refuses.map moment_refuses).eq_none hdigits),
      orElse_of_none ((Refuses.map float_refuses).eq_none hdigits)]
    exact orElse_of_some (map_of_some _ (integer_read hend hn))
  cases depth with
  | zero => exact hscalar
  | succ depth => exact orElse_of_some hscalar

theorem lineEnd_read : lineEnd rest = some ((), r) := by
  have hcomment : comment rest = none := bind_of_none (char_of_stops (hend.stops rfl))
  rw [lineEnd, bind_of_some (blanks_of_stops (hend.stops rfl)),
    bind_of_some (optional_of_none hcomment)]
  cases hend with
  | finish => rfl
  | lineBreak r => exact orElse_of_some (char_cons '\n' r)

end Line

structure Bare (key : List Char) : Prop where
  nonempty : key ≠ []
  bare : ∀ c ∈ key, isBare c = true

section Key

variable {k r : List Char} (hk : Bare k)
include hk

theorem Bare.stops {ok : Char → Bool} (hok : ∀ c, ok c = true → isBare c = false) :
    Stops ok (k ++ r) := by
  intro c hc
  cases k with
  | nil => exact absurd rfl hk.nonempty
  | cons d k =>
    have hd := hk.bare d List.mem_cons_self
    rw [Option.some.inj hc] at hd
    cases hokc : ok c with
    | false => rfl
    | true =>
      rw [hok c hokc] at hd
      cases hd

theorem bareKey_read (hr : Stops isBare r) : bareKey (k ++ r) = some (String.ofList k, r) := by
  cases k with
  | nil => exact absurd rfl hk.nonempty
  | cons c k =>
    obtain ⟨hc, hk⟩ := List.forall_mem_cons.mp hk.bare
    rw [bareKey, List.cons_append, bind_of_some (next_cons hc), bind_of_some (span_append hk hr)]
    rfl

theorem keyPart_read :
    keyPart (k ++ ' ' :: '=' :: r) = some (String.ofList k, '=' :: r) := by
  have hblank : ∀ c, isBlank c = true → isBare c = false := by
    intro c hc
    rcases Bool.or_eq_true_iff.mp hc with hc | hc
    all_goals rw [beq_iff_eq.mp hc]
    all_goals rfl
  have hmark {q : Char} (hq : isBare q = false) : char q (k ++ ' ' :: '=' :: r) = none :=
    char_of_stops (hk.stops fun c hc => beq_iff_eq.mp hc ▸ hq)
  have hline (q : Char) (hq : isBare q = false) (unit : Reader Char) :
      Quoted.line q unit (k ++ ' ' :: '=' :: r) = none := bind_of_none (hmark hq)
  have hquoted : Quoted.singleLine (k ++ ' ' :: '=' :: r) = none := by
    rw [Quoted.singleLine, orElse_of_none (hline '"' rfl _), hline '\'' rfl]
  have hname : (Quoted.singleLine <|> bareKey) (k ++ ' ' :: '=' :: r) =
      some (String.ofList k, ' ' :: '=' :: r) := by
    rw [orElse_of_none hquoted, bareKey_read hk (stops_cons rfl _)]
  rw [keyPart, bind_of_some (blanks_of_stops (hk.stops hblank)), bind_of_some hname,
    bind_of_some (blanks_cons (stops_cons rfl r))]
  rfl

theorem key_read : key (k ++ ' ' :: '=' :: r) = some (([], String.ofList k), '=' :: r) := by
  have hmore : many (do
      char '.'
      keyPart) ('=' :: r) = some ([], '=' :: r) :=
    many_of_none (bind_of_none (char_of_stops (stops_cons rfl r)))
  have hparts : separated keyPart (char '.') (k ++ ' ' :: '=' :: r) =
      some ([String.ofList k], '=' :: r) := by
    rw [separated, bind_of_some (keyPart_read hk), bind_of_some hmore]
    rfl
  rw [key, bind_of_some hparts]
  rfl

end Key

def fills (c : Char) : Bool := isBlank c || c == '\n' || c == '\r' || c == '#'

theorem filler_read {cs : List Char} (h : Stops fills cs) : filler cs = some ((), cs) := by
  have hstops {ok : Char → Bool} (hok : ∀ c, ok c = true → fills c = true) : Stops ok cs := by
    intro c hc
    cases hokc : ok c with
    | false => rfl
    | true => exact absurd (hok c hokc) (by rw [h c hc]; decide)
  have hblank : blank cs = none :=
    bind_of_none (next_of_stops (hstops fun c hc => by simp [fills, hc]))
  have hmark {d : Char} (hd : fills d = true) : char d cs = none :=
    char_of_stops (hstops fun c hc => beq_iff_eq.mp hc ▸ hd)
  have hnewline : newline cs = none := by
    rw [newline, orElse_of_none (hmark rfl)]
    exact bind_of_none (hmark rfl)
  have hitem : (blank <|> newline <|> comment) cs = none := by
    rw [orElse_of_none hblank, orElse_of_none hnewline]
    exact bind_of_none (hmark rfl)
  rw [filler, bind_of_some (many_of_none hitem)]
  rfl

def plainLine (k : List Char) (n : Nat) : List Char :=
  k ++ ' ' :: '=' :: ' ' :: Nat.toDigits 10 n

/-- The text is made of the lines for these keys and numbers; the last one need not be ended. -/
inductive PlainText : List (List Char × Nat) → List Char → Prop where
  | nil : PlainText [] []
  | line {k rest r : List Char} {n : Nat} {gs : List (List Char × Nat)} :
      Bare k → n ≤ 9223372036854775807 → Ends rest r → PlainText gs r →
        PlainText ((k, n) :: gs) (plainLine k n ++ rest)

section Layout

variable {gs : List (List Char × Nat)}

theorem plainText_flatMap (hgs : ∀ g ∈ gs, Bare g.1 ∧ g.2 ≤ 9223372036854775807) :
    PlainText gs (gs.flatMap fun g => plainLine g.1 g.2 ++ ['\n']) := by
  induction gs with
  | nil => exact .nil
  | cons g gs ih =>
    obtain ⟨⟨hk, hn⟩, hgs⟩ := List.forall_mem_cons.mp hgs
    rw [List.flatMap_cons, List.append_assoc]
    exact .line hk hn (.lineBreak _) (ih hgs)

theorem plainText_intercalate (hgs : ∀ g ∈ gs, Bare g.1 ∧ g.2 ≤ 9223372036854775807) :
    PlainText gs (['\n'].intercalate (gs.map fun g => plainLine g.1 g.2)) := by
  induction gs with
  | nil => exact .nil
  | cons g gs ih =>
    obtain ⟨⟨hk, hn⟩, hgs⟩ := List.forall_mem_cons.mp hgs
    cases gs with
    | nil => simpa using PlainText.line hk hn .finish .nil
    | cons h gs =>
      rw [List.map_cons, List.map_cons, List.intercalate_cons_cons, List.append_assoc]
      exact .line hk hn (.lineBreak _) (ih hgs)

end Layout

def plainAssignment (g : List Char × Nat) : Assignment := ⟨[], String.ofList g.1, .integer g.2⟩

theorem PlainText.stops {gs : List (List Char × Nat)} {cs : List Char} (h : PlainText gs cs)
    {ok : Char → Bool} (hok : ∀ c, ok c = true → isBare c = false) : Stops ok cs := by
  cases h with
  | nil => exact stops_nil ok
  | line hk _ _ _ =>
    rw [plainLine, List.append_assoc]
    exact hk.stops hok

theorem isBare_of_fills (c : Char) (h : fills c = true) : isBare c = false := by
  simp only [fills, isBlank, Bool.or_eq_true, beq_iff_eq] at h
  rcases h with (((rfl | rfl) | rfl) | rfl) | rfl
  all_goals rfl

theorem assignmentLine_read {k rest r : List Char} {n : Nat} (hk : Bare k)
    (hn : n ≤ 9223372036854775807) (hend : Ends rest r) (hr : Stops fills r) :
    assignmentLine (plainLine k n ++ rest) = some (plainAssignment (k, n), r) := by
  have hdigits : Stops isBlank (Nat.toDigits 10 n ++ rest) :=
    (digits_read hend n).stops rfl fun _ => Digits.either_of_isDigit rfl rfl
  have hassignment : assignment (value (depthLimit - 1)) (plainLine k n ++ rest) =
      some (plainAssignment (k, n), rest) := by
    rw [plainLine, List.append_assoc, List.cons_append, List.cons_append, List.cons_append,
      assignment, bind_of_some (key_read hk)]
    show (char '=' >>= _) _ = _
    rw [bind_of_some (char_cons _ _), bind_of_some (blanks_cons hdigits),
      bind_of_some (value_read hend _ hn)]
    rfl
  rw [assignmentLine, bind_of_some hassignment, bind_of_some (lineEnd_read hend),
    bind_of_some (filler_read hr)]
  rfl

theorem PlainText.run {gs : List (List Char × Nat)} {cs : List Char} (h : PlainText gs cs) :
    Run assignmentLine cs (gs.map plainAssignment) [] := by
  induction h with
  | nil => exact .stop rfl
  | @line k rest r n gs hk hn hend hplain ih =>
    refine .step (assignmentLine_read hk hn hend (hplain.stops isBare_of_fills)) ?_ ih
    have hlength : r.length ≤ rest.length := by
      cases hend <;> simp
    simp only [plainLine, List.length_append, List.length_cons]
    omega

theorem blocks_read {gs : List (List Char × Nat)} {cs : List Char} (h : PlainText gs cs) :
    blocks cs = some ([⟨.top, gs.map plainAssignment⟩], []) := by
  have hmark : char '\ufeff' cs = none :=
    char_of_stops (h.stops fun c hc => beq_iff_eq.mp hc ▸ rfl)
  have hblock : many block [] = some ([], []) := rfl
  rw [blocks, bind_of_some (optional_of_none hmark),
    bind_of_some (filler_read (h.stops isBare_of_fills)), bind_of_some (many_of_run h.run),
    bind_of_some hblock]
  rfl

namespace TableOf

theorem assign_plain {t : Table} (ht : t.origin = .header) {g : List Char × Nat}
    (hg : String.ofList g.1 ∉ t.entries.map Prod.fst) :
    t.assign (plainAssignment g) = some (t.append (String.ofList g.1) (.integer g.2)) := by
  have hget := get?_eq_none_iff.mpr hg
  simp [assign, plainAssignment, atPath, ht, hget]

theorem assignAll_plain {t : Table} (ht : t.origin = .header) {gs : List (List Char × Nat)}
    (hgs : (t.entries.map Prod.fst ++ gs.map fun g => String.ofList g.1).Nodup) :
    t.assignAll (gs.map plainAssignment) =
      some ⟨.header, t.entries ++ gs.map fun g => (String.ofList g.1, .integer g.2)⟩ := by
  induction gs generalizing t with
  | nil =>
    obtain ⟨origin, entries⟩ := t
    obtain rfl : origin = .header := ht
    rw [List.map_nil, List.map_nil, List.append_nil]
    rfl
  | cons g gs ih =>
    have hnew : String.ofList g.1 ∉ t.entries.map Prod.fst := fun hold =>
      (List.nodup_append.mp hgs).2.2 _ hold _ List.mem_cons_self rfl
    have hrest : ((t.append (String.ofList g.1) (.integer g.2)).entries.map Prod.fst ++
        gs.map fun g => String.ofList g.1).Nodup := by
      simpa [append] using hgs
    rw [List.map_cons, assignAll, List.foldlM_cons, assign_plain ht hnew]
    refine (ih (t := t.append (String.ofList g.1) (.integer g.2)) ht hrest).trans ?_
    simp [append]

end TableOf

theorem parse?_plain {gs : List (List Char × Nat)} {s : String} (h : PlainText gs s.toList)
    (hgs : (gs.map fun g => String.ofList g.1).Nodup) :
    parse? s = some ⟨.header, gs.map fun g => (String.ofList g.1, .integer g.2)⟩ := by
  have hwhole : whole? blocks s = some [⟨.top, gs.map plainAssignment⟩] := by
    rw [whole?, blocks_read h]
  have htable := TableOf.assignAll_plain (t := TableOf.empty .header) rfl hgs
  rw [parse?, hwhole]
  show (TableOf.assignAll (TableOf.empty .header) _).bind _ = _
  rw [htable]
  rfl

end AlarmScheduler.Toml
