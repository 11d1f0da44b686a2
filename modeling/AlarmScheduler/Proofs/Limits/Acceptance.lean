import AlarmScheduler.Limits
import AlarmScheduler.Proofs.Toml.PlainLines

namespace AlarmScheduler.Limits

def entry (l : Limit) (n : Nat) : String × Toml.Value := (l.name, .integer n)

/-- Every entry gives a limit, in 63 bits and not below `least`. -/
def Acceptable (least : Nat) (es : List (String × Toml.Value)) : Prop :=
  ∀ e ∈ es, ∃ l n, e = entry l n ∧ least ≤ n ∧ n ≤ 9223372036854775807

/-- The entries turn the old limits into the new ones. -/
structure Settles (es : List (String × Toml.Value)) (old new : Limits) : Prop where
  given : ∀ l n, entry l n ∈ es → new.get l = n
  absent : ∀ l, l.name ∉ es.map Prod.fst → new.get l = old.get l

theorem name_injective {l m : Limit} : l.name = m.name → l = m := by
  cases l <;> cases m <;> decide

theorem ofName?_eq_some_iff {s : String} {l : Limit} : Limit.ofName? s = some l ↔ s = l.name := by
  constructor
  · intro h
    rw [Limit.ofName?] at h
    have hname := List.find?_some h
    exact (beq_iff_eq.mp hname).symm
  · rintro rfl
    cases l <;> rfl

theorem natural_eq_ok_iff {v : Toml.Value} {n : Nat} :
    natural v.shape = .ok n ↔ v = .integer n := by
  constructor
  · intro h
    cases v with
    | integer i =>
      cases i with
      | ofNat m => rw [Except.ok.inj h]; rfl
      | negSucc m => cases h
    | _ => cases h
  · rintro rfl
    rfl

theorem decodeEntry_eq_ok_iff {old new : Limits} {e : String × Toml.Value} :
    decodeEntry old e = .ok new ↔ ∃ l n, e = entry l n ∧ new = old.set l n := by
  obtain ⟨key, v⟩ := e
  constructor
  · intro h
    rw [decodeEntry] at h
    split at h
    · cases h
    · rename_i l hl
      obtain rfl := ofName?_eq_some_iff.mp hl
      cases hn : natural v.shape with
      | error d =>
        rw [hn] at h
        cases h
      | ok n =>
        rw [hn] at h
        exact ⟨l, n, by rw [entry, natural_eq_ok_iff.mp hn], (Except.ok.inj h).symm⟩
  · rintro ⟨l, n, he, rfl⟩
    obtain ⟨rfl, rfl⟩ := Prod.mk.inj he
    rw [decodeEntry, ofName?_eq_some_iff.mpr rfl]
    rfl

theorem get_set (ls : Limits) (l m : Limit) (n : Nat) :
    (ls.set l n).get m = if m = l then n else ls.get m := by
  cases l <;> cases m <;> rfl

theorem ext_get {a b : Limits} (h : ∀ l, a.get l = b.get l) : a = b := by
  obtain ⟨x, y⟩ := a
  obtain ⟨z, w⟩ := b
  have hper : x = z := h .perUid
  have htotal : y = w := h .total
  rw [hper, htotal]

theorem get_standard_ne_zero (l : Limit) : standard.get l ≠ 0 := by
  cases l <;> decide

section Entries

variable {es : List (String × Toml.Value)} {old new : Limits}

theorem Acceptable.entries {least : Nat} (h : Acceptable least es) :
    ∀ e ∈ es, ∃ l n, e = entry l n := by
  intro e he
  obtain ⟨l, n, heq, -⟩ := h e he
  exact ⟨l, n, heq⟩

theorem Settles.cons {l : Limit} {n : Nat} (h : Settles es (old.set l n) new)
    (hl : l.name ∉ es.map Prod.fst) : Settles (entry l n :: es) old new where
  given := by
    intro m k hm
    rcases List.mem_cons.mp hm with hm | hm
    · obtain ⟨hname, hvalue⟩ := Prod.mk.inj hm
      obtain rfl := name_injective hname
      rw [h.absent m hl, get_set, if_pos rfl]
      exact (Int.ofNat.inj (Toml.Value.integer.inj hvalue)).symm
    · exact h.given m k hm
  absent := by
    intro m hm
    rw [List.map_cons, List.mem_cons, not_or] at hm
    rw [h.absent m hm.2, get_set, if_neg fun heq => hm.1 (congrArg Limit.name heq)]

theorem settles_of_decoded (hes : (es.map Prod.fst).Nodup)
    (h : es.foldlM decodeEntry old = .ok new) :
    (∀ e ∈ es, ∃ l n, e = entry l n) ∧ Settles es old new := by
  induction es generalizing old with
  | nil =>
    obtain rfl := Except.ok.inj h
    exact ⟨fun _ he => absurd he List.not_mem_nil, ⟨fun _ _ he => absurd he List.not_mem_nil,
      fun _ _ => rfl⟩⟩
  | cons e es ih =>
    obtain ⟨hkey, hrest⟩ := List.nodup_cons.mp hes
    rw [List.foldlM_cons] at h
    cases hstep : decodeEntry old e with
    | error d =>
      rw [hstep] at h
      cases h
    | ok mid =>
      rw [hstep] at h
      obtain ⟨l, n, rfl, rfl⟩ := decodeEntry_eq_ok_iff.mp hstep
      obtain ⟨hall, hsettles⟩ := ih hrest h
      exact ⟨List.forall_mem_cons.mpr ⟨⟨l, n, rfl⟩, hall⟩, hsettles.cons hkey⟩

theorem decoded_of_entries (old : Limits) (h : ∀ e ∈ es, ∃ l n, e = entry l n) :
    ∃ new, es.foldlM decodeEntry old = .ok new := by
  induction es generalizing old with
  | nil => exact ⟨old, rfl⟩
  | cons e es ih =>
    obtain ⟨⟨l, n, he⟩, hes⟩ := List.forall_mem_cons.mp h
    rw [List.foldlM_cons, decodeEntry_eq_ok_iff.mpr ⟨l, n, he, rfl⟩]
    exact ih _ hes

end Entries

theorem Settles.unique {es : List (String × Toml.Value)} {old a b : Limits}
    (hes : ∀ e ∈ es, ∃ l n, e = entry l n) (ha : Settles es old a) (hb : Settles es old b) :
    a = b := by
  refine ext_get fun l => ?_
  by_cases hl : l.name ∈ es.map Prod.fst
  · obtain ⟨e, he, hname⟩ := List.mem_map.mp hl
    obtain ⟨m, n, rfl⟩ := hes e he
    obtain rfl := name_injective hname
    rw [ha.given m n he, hb.given m n he]
  · rw [ha.absent l hl, hb.absent l hl]

section Tables

variable {t : Toml.Table} (ht : t.Plain)
include ht

theorem acceptable_of_entries (h : ∀ e ∈ t.entries, ∃ l n, e = entry l n) :
    Acceptable 0 t.entries := by
  intro e he
  obtain ⟨l, n, rfl⟩ := h e he
  have hrange := ht.fits _ he n rfl
  simp only [Toml.Number.inRange, Bool.and_eq_true, decide_eq_true_eq] at hrange
  exact ⟨l, n, rfl, Nat.zero_le n, by omega⟩

theorem decode_eq_ok_iff {ls : Limits} :
    decode t = .ok ls ↔ Acceptable 0 t.entries ∧ Settles t.entries standard ls := by
  constructor
  · intro h
    obtain ⟨hentries, hsettles⟩ := settles_of_decoded ht.distinct h
    exact ⟨acceptable_of_entries ht hentries, hsettles⟩
  · rintro ⟨hacc, hsettles⟩
    obtain ⟨new, hnew⟩ := decoded_of_entries standard hacc.entries
    have hall := settles_of_decoded ht.distinct hnew
    rw [hsettles.unique hacc.entries hall.2]
    exact hnew

theorem exists_decode_iff : (∃ ls, decode t = .ok ls) ↔ Acceptable 0 t.entries := by
  constructor
  · rintro ⟨ls, hls⟩
    exact ((decode_eq_ok_iff ht).mp hls).1
  · intro h
    exact decoded_of_entries standard h.entries

end Tables

theorem check_eq_ok_iff {ls new : Limits} :
    ls.check = .ok new ↔ (∀ l, ls.get l ≠ 0) ∧ new = ls := by
  rw [check]
  cases hfound : Limit.all.find? fun l => ls.get l == 0 with
  | none =>
    have hall := List.find?_eq_none.mp hfound
    have hne (l : Limit) : ls.get l ≠ 0 := by
      have hl : l ∈ Limit.all := by cases l <;> decide
      simpa using hall l hl
    exact ⟨fun h => ⟨hne, (Except.ok.inj h).symm⟩, fun h => congrArg Except.ok h.2.symm⟩
  | some l =>
    have hzero : ls.get l = 0 := by simpa using List.find?_some hfound
    exact ⟨nofun, fun h => absurd hzero (h.1 l)⟩

theorem check_eq_zero_iff {ls : Limits} {l : Limit} :
    ls.check = .error (.zero l) ↔ ls.get l = 0 ∧ (l ≠ .perUid → ls.get .perUid ≠ 0) := by
  obtain ⟨x, y⟩ := ls
  cases x <;> cases y <;> cases l <;> simp [check, Limit.all, get]

theorem check_ne_unparsable (ls : Limits) (path : String) (d : Defect) :
    ls.check ≠ .error (.unparsable path d) := by
  rw [check]
  split <;> nofun

def Decodes (s : String) (ls : Limits) : Prop := ∃ t, Toml.parse? s = some t ∧ decode t = .ok ls

section Texts

variable {s : String} {ls : Limits}

theorem Decodes.parseAt_eq (h : Decodes s ls) (path : String) : parseAt path s = ls.check := by
  obtain ⟨t, ht, hls⟩ := h
  rw [parseAt, ht]
  simp only [hls]

theorem unparsable_of_not_decodes (h : ¬ ∃ ls, Decodes s ls) :
    ∃ d, ∀ path, parseAt path s = .error (.unparsable path d) := by
  cases ht : Toml.parse? s with
  | none =>
    refine ⟨.malformed, fun path => ?_⟩
    rw [parseAt, ht]
  | some t =>
    cases hls : decode t with
    | error d =>
      refine ⟨d, fun path => ?_⟩
      rw [parseAt, ht]
      simp only [hls]
    | ok ls => exact absurd ⟨ls, t, ht, hls⟩ h

theorem parseAt_cases (s : String) :
    (∃ ls, Decodes s ls ∧ ∀ path, parseAt path s = ls.check) ∨
      ∃ d, ∀ path, parseAt path s = .error (.unparsable path d) := by
  by_cases hdecodes : ∃ ls, Decodes s ls
  · obtain ⟨ls, h⟩ := hdecodes
    exact .inl ⟨ls, h, h.parseAt_eq⟩
  · exact .inr (unparsable_of_not_decodes hdecodes)

theorem parse_eq_ok_iff : parse s = .ok ls ↔ Decodes s ls ∧ ∀ l, ls.get l ≠ 0 := by
  constructor
  · intro h
    rcases parseAt_cases s with ⟨new, hnew, hcheck⟩ | ⟨d, hd⟩
    · rw [parse, hcheck] at h
      obtain ⟨hne, rfl⟩ := check_eq_ok_iff.mp h
      exact ⟨hnew, hne⟩
    · rw [parse, hd] at h
      cases h
  · rintro ⟨h, hne⟩
    rw [parse, h.parseAt_eq]
    exact check_eq_ok_iff.mpr ⟨hne, rfl⟩

theorem parse_eq_zero_iff {l : Limit} :
    parse s = .error (.zero l) ↔
      ∃ ls, Decodes s ls ∧ ls.get l = 0 ∧ (l ≠ .perUid → ls.get .perUid ≠ 0) := by
  constructor
  · intro h
    rcases parseAt_cases s with ⟨new, hnew, hcheck⟩ | ⟨d, hd⟩
    · rw [parse, hcheck] at h
      exact ⟨new, hnew, check_eq_zero_iff.mp h⟩
    · rw [parse, hd] at h
      cases h
  · rintro ⟨ls, h, hzero⟩
    rw [parse, h.parseAt_eq]
    exact check_eq_zero_iff.mpr hzero

theorem parse_eq_unparsable_iff :
    (∃ d, parse s = .error (.unparsable "<inline>" d)) ↔ ¬ ∃ ls, Decodes s ls := by
  constructor
  · rintro ⟨d, hd⟩ ⟨ls, h⟩
    rw [parse, h.parseAt_eq] at hd
    exact check_ne_unparsable ls _ d hd
  · intro h
    obtain ⟨d, hd⟩ := unparsable_of_not_decodes h
    exact ⟨d, hd _⟩

end Texts

section Zero

variable {es : List (String × Toml.Value)} {ls : Limits}

theorem Settles.get_eq_zero_iff (hes : Acceptable 0 es) (h : Settles es standard ls) {l : Limit} :
    ls.get l = 0 ↔ entry l 0 ∈ es := by
  refine ⟨fun hzero => ?_, h.given l 0⟩
  by_cases hl : l.name ∈ es.map Prod.fst
  · obtain ⟨e, he, hname⟩ := List.mem_map.mp hl
    obtain ⟨m, n, rfl, -⟩ := hes e he
    obtain rfl := name_injective hname
    rw [h.given m n he] at hzero
    rwa [← hzero]
  · rw [h.absent l hl] at hzero
    exact absurd hzero (get_standard_ne_zero l)

theorem acceptable_one_iff :
    Acceptable 1 es ↔ Acceptable 0 es ∧ ∀ l, entry l 0 ∉ es := by
  constructor
  · intro h
    refine ⟨fun e he => ?_, fun l hl => ?_⟩
    · obtain ⟨l, n, heq, -, hmost⟩ := h e he
      exact ⟨l, n, heq, Nat.zero_le n, hmost⟩
    · obtain ⟨m, n, heq, hleast, -⟩ := h _ hl
      have hn : 0 = n := Int.ofNat.inj (Toml.Value.integer.inj (Prod.mk.inj heq).2)
      omega
  · rintro ⟨h, hne⟩ e he
    obtain ⟨l, n, rfl, -, hmost⟩ := h e he
    refine ⟨l, n, rfl, Nat.pos_of_ne_zero ?_, hmost⟩
    rintro rfl
    exact hne l he

end Zero

theorem decodes_iff {s : String} {ls : Limits} :
    Decodes s ls ↔
      ∃ t, Toml.parse? s = some t ∧ Acceptable 0 t.entries ∧ Settles t.entries standard ls := by
  constructor
  · rintro ⟨t, ht, hls⟩
    exact ⟨t, ht, (decode_eq_ok_iff (Toml.plain_of_parse? ht)).mp hls⟩
  · rintro ⟨t, ht, hls⟩
    exact ⟨t, ht, (decode_eq_ok_iff (Toml.plain_of_parse? ht)).mpr hls⟩

theorem exists_decodes_iff {s : String} :
    (∃ ls, Decodes s ls) ↔ ∃ t, Toml.parse? s = some t ∧ Acceptable 0 t.entries := by
  constructor
  · rintro ⟨ls, t, ht, hls⟩
    exact ⟨t, ht, (exists_decode_iff (Toml.plain_of_parse? ht)).mp ⟨ls, hls⟩⟩
  · rintro ⟨t, ht, hacc⟩
    obtain ⟨ls, hls⟩ := (exists_decode_iff (Toml.plain_of_parse? ht)).mpr hacc
    exact ⟨ls, t, ht, hls⟩

theorem accepted_iff {s : String} {ls : Limits} :
    parse s = .ok ls ↔
      ∃ t, Toml.parse? s = some t ∧ Acceptable 1 t.entries ∧ Settles t.entries standard ls := by
  rw [parse_eq_ok_iff, decodes_iff]
  constructor
  · rintro ⟨⟨t, ht, hacc, hsettles⟩, hne⟩
    have hnone (l : Limit) : entry l 0 ∉ t.entries := fun hl =>
      hne l ((hsettles.get_eq_zero_iff hacc).mpr hl)
    exact ⟨t, ht, acceptable_one_iff.mpr ⟨hacc, hnone⟩, hsettles⟩
  · rintro ⟨t, ht, hacc, hsettles⟩
    obtain ⟨hacc, hnone⟩ := acceptable_one_iff.mp hacc
    exact ⟨⟨t, ht, hacc, hsettles⟩, fun l hl => hnone l ((hsettles.get_eq_zero_iff hacc).mp hl)⟩

theorem zero_iff {s : String} {l : Limit} :
    parse s = .error (.zero l) ↔
      ∃ t, Toml.parse? s = some t ∧ Acceptable 0 t.entries ∧ entry l 0 ∈ t.entries ∧
        (l ≠ .perUid → entry .perUid 0 ∉ t.entries) := by
  rw [parse_eq_zero_iff]
  constructor
  · rintro ⟨ls, hls, hzero, hfirst⟩
    obtain ⟨t, ht, hacc, hsettles⟩ := decodes_iff.mp hls
    refine ⟨t, ht, hacc, (hsettles.get_eq_zero_iff hacc).mp hzero, fun hl hmem => ?_⟩
    exact hfirst hl ((hsettles.get_eq_zero_iff hacc).mpr hmem)
  · rintro ⟨t, ht, hacc, hzero, hfirst⟩
    obtain ⟨ls, hls⟩ := (exists_decode_iff (Toml.plain_of_parse? ht)).mpr hacc
    have hsettles := ((decode_eq_ok_iff (Toml.plain_of_parse? ht)).mp hls).2
    refine ⟨ls, ⟨t, ht, hls⟩, (hsettles.get_eq_zero_iff hacc).mpr hzero, fun hl hget => ?_⟩
    exact hfirst hl ((hsettles.get_eq_zero_iff hacc).mp hget)

def relocated (path : String) : LimitsError → LimitsError
  | .unparsable _ d => .unparsable path d
  | e => e

theorem parseAt_eq_relocated (path s : String) :
    parseAt path s = (parse s).mapError (relocated path) := by
  rcases parseAt_cases s with ⟨ls, -, hcheck⟩ | ⟨d, hd⟩
  · rw [parse, hcheck, hcheck, check]
    split <;> rfl
  · rw [parse, hd, hd]
    rfl

theorem load_toOption (read : String → Except ReadError String) (path : String) :
    (load read path).toOption =
      match read path with
      | .error _ => none
      | .ok s => (parse s).toOption := by
  rw [load]
  cases read path with
  | error e => rfl
  | ok s =>
    simp only [parseAt_eq_relocated]
    cases parse s <;> rfl

def line (g : Limit × Nat) : String := g.1.name ++ " = " ++ Numeral.decimal g.2

def given (gs : List (Limit × Nat)) : Limits :=
  ⟨(gs.lookup .perUid).getD standard.perUid, (gs.lookup .total).getD standard.total⟩

section Lines

variable {gs : List (Limit × Nat)}

def plainOf (g : Limit × Nat) : List Char × Nat := (g.1.name.toList, g.2)

theorem bare_name (l : Limit) : Toml.Bare l.name.toList := by
  have hbare : l.name.toList.all Toml.isBare = true := by cases l <;> rfl
  exact ⟨by cases l <;> decide, List.all_eq_true.mp hbare⟩

theorem toList_line (g : Limit × Nat) :
    (line g).toList = Toml.plainLine (plainOf g).1 (plainOf g).2 := by
  simp [line, plainOf, Toml.plainLine, Numeral.toList_decimal]

theorem get_given (gs : List (Limit × Nat)) (l : Limit) :
    (given gs).get l = (gs.lookup l).getD (standard.get l) := by
  cases l <;> rfl

theorem lookup_of_mem (hgs : (gs.map Prod.fst).Nodup) {l : Limit} {n : Nat} (h : (l, n) ∈ gs) :
    gs.lookup l = some n := by
  induction gs with
  | nil => exact absurd h List.not_mem_nil
  | cons g gs ih =>
    obtain ⟨hg, hgs⟩ := List.nodup_cons.mp hgs
    rcases List.mem_cons.mp h with rfl | h
    · exact List.lookup_cons_self
    · have hne : l ≠ g.1 := by
        rintro rfl
        exact hg (List.mem_map.mpr ⟨_, h, rfl⟩)
      rw [List.lookup_cons, beq_false_of_ne hne]
      exact ih hgs h

theorem settles_given (hgs : (gs.map Prod.fst).Nodup) :
    Settles (gs.map fun g => entry g.1 g.2) standard (given gs) where
  given := by
    intro l n h
    obtain ⟨⟨m, k⟩, hg, heq⟩ := List.mem_map.mp h
    obtain ⟨hname, hvalue⟩ := Prod.mk.inj heq
    obtain rfl := name_injective hname
    obtain rfl : k = n := Int.ofNat.inj (Toml.Value.integer.inj hvalue)
    rw [get_given, lookup_of_mem hgs hg]
    rfl
  absent := by
    intro l h
    have hnone : gs.lookup l = none := by
      rw [List.lookup_eq_none_iff]
      intro g hg
      refine bne_iff_ne.mpr ?_
      rintro rfl
      exact h (List.mem_map.mpr ⟨_, List.mem_map_of_mem hg, rfl⟩)
    rw [get_given, hnone]
    rfl

theorem parse_of_plainText {s : String} (hs : Toml.PlainText (gs.map plainOf) s.toList)
    (hdistinct : (gs.map Prod.fst).Nodup)
    (hgs : ∀ g ∈ gs, 1 ≤ g.2 ∧ g.2 ≤ 9223372036854775807) :
    parse s = .ok (given gs) := by
  have hkeys : ((gs.map plainOf).map fun g => String.ofList g.1).Nodup := by
    have hnames : ((gs.map plainOf).map fun g => String.ofList g.1) =
        (gs.map Prod.fst).map Limit.name := by
      simp [plainOf]
    rw [hnames]
    exact List.Pairwise.map Limit.name (fun _ _ hne hname => hne (name_injective hname)) hdistinct
  have hentries : ((gs.map plainOf).map fun g => (String.ofList g.1, Toml.Value.integer g.2)) =
      gs.map fun g => entry g.1 g.2 := by
    simp [plainOf, entry]
  refine accepted_iff.mpr ⟨_, Toml.parse?_plain hs hkeys, ?_, ?_⟩
  · rw [hentries]
    intro e he
    obtain ⟨g, hg, rfl⟩ := List.mem_map.mp he
    exact ⟨g.1, g.2, rfl, hgs g hg⟩
  · rw [hentries]
    exact settles_given hdistinct

theorem writable (hgs : ∀ g ∈ gs, 1 ≤ g.2 ∧ g.2 ≤ 9223372036854775807) :
    ∀ h ∈ gs.map plainOf, Toml.Bare h.1 ∧ h.2 ≤ 9223372036854775807 := by
  intro h hh
  obtain ⟨g, hg, rfl⟩ := List.mem_map.mp hh
  exact ⟨bare_name g.1, (hgs g hg).2⟩

theorem parse_joined (hdistinct : (gs.map Prod.fst).Nodup)
    (hgs : ∀ g ∈ gs, 1 ≤ g.2 ∧ g.2 ≤ 9223372036854775807) :
    parse ("\n".intercalate (gs.map line)) = .ok (given gs) := by
  refine parse_of_plainText ?_ hdistinct hgs
  have h := Toml.plainText_intercalate (writable hgs)
  rw [String.toList_intercalate, List.map_map]
  simpa [Function.comp_def, toList_line] using h

theorem parse_ended (hdistinct : (gs.map Prod.fst).Nodup)
    (hgs : ∀ g ∈ gs, 1 ≤ g.2 ∧ g.2 ≤ 9223372036854775807) :
    parse (String.join (gs.map fun g => line g ++ "\n")) = .ok (given gs) := by
  refine parse_of_plainText ?_ hdistinct hgs
  have h := Toml.plainText_flatMap (writable hgs)
  simpa [List.flatMap_map, Function.comp_def, toList_line] using h

end Lines

theorem acceptance_exact :
    (∀ s c, parse s = .ok c ↔
      ∃ t, Toml.parse? s = some t ∧ Acceptable 1 t.entries ∧ Settles t.entries standard c) ∧
    (∀ s l, parse s = .error (.zero l) ↔
      ∃ t, Toml.parse? s = some t ∧ Acceptable 0 t.entries ∧ entry l 0 ∈ t.entries ∧
        (l ≠ .perUid → entry .perUid 0 ∉ t.entries)) ∧
    (∀ s, (∃ d, parse s = .error (.unparsable "<inline>" d)) ↔
      ¬ ∃ t, Toml.parse? s = some t ∧ Acceptable 0 t.entries) ∧
    (∀ gs : List (Limit × Nat), (gs.map Prod.fst).Nodup →
      (∀ g ∈ gs, 1 ≤ g.2 ∧ g.2 ≤ 9223372036854775807) →
        parse ("\n".intercalate (gs.map line)) = .ok (given gs) ∧
        parse (String.join (gs.map fun g => line g ++ "\n")) = .ok (given gs)) ∧
    (∀ read path s, read path = .ok s → load read path = (parse s).mapError (relocated path)) ∧
    (∀ read path e, read path = .error e → load read path = .error (.unreadable path e)) := by
  refine ⟨fun s c => accepted_iff, fun s l => zero_iff, fun s => ?_, fun gs hdistinct hgs => ?_,
    fun read path s hread => ?_, fun read path e hread => ?_⟩
  · rw [parse_eq_unparsable_iff, exists_decodes_iff]
  · exact ⟨parse_joined hdistinct hgs, parse_ended hdistinct hgs⟩
  · rw [load, hread]
    exact parseAt_eq_relocated path s
  · rw [load, hread]

theorem acceptance_exact_bothGiven :
    parse ("\n".intercalate ([(.total, 9223372036854775807), (.perUid, 1)].map line)) =
        .ok ⟨1, 9223372036854775807⟩ ∧
      parse (String.join ([(.perUid, 8)].map fun g => line g ++ "\n")) = .ok ⟨8, 10000⟩ ∧
      load (fun _ => .ok "max_alarms") "a.toml" =
        (parse "max_alarms").mapError (relocated "a.toml") ∧
      load (fun _ => .error .notFound) "b.toml" = .error (.unreadable "b.toml" .notFound) := by
  obtain ⟨-, -, -, hlines, hread, hunread⟩ := acceptance_exact
  refine ⟨?_, ?_, hread _ _ _ rfl, hunread _ _ _ rfl⟩
  · exact (hlines [(.total, 9223372036854775807), (.perUid, 1)] (by decide) (by decide)).1
  · exact (hlines [(.perUid, 8)] (by decide) (by decide)).2

end AlarmScheduler.Limits
