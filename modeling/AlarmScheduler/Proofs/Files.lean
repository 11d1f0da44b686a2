import AlarmScheduler.Files
import AlarmScheduler.Proofs.Lists

namespace AlarmScheduler.FileTree

/-- Two places reached by the same names, from a root with the entries `es` and from one with the
entries `es'`. -/
inductive SameTree (es es' : List (String × FileTree)) : FileTree → FileTree → Prop
  | refl {t : FileTree} : SameTree es es' t t
  | root : SameTree es es' (directory es) (directory es')

inductive SamePlace (es es' : List (String × FileTree)) : Place → Place → Prop
  | outside : SamePlace es es' .outside .outside
  | inside {above above' : List FileTree} {here here' : FileTree}
      (habove : List.Forall₂ (SameTree es es') above above') (hhere : SameTree es es' here here') :
      SamePlace es es' (.inside above here) (.inside above' here')

inductive SameWay (es es' : List (String × FileTree)) :
    Except ReadError Place → Except ReadError Place → Prop
  | error (e : ReadError) : SameWay es es' (.error e) (.error e)
  | ok {p q : Place} (h : SamePlace es es' p q) : SameWay es es' (.ok p) (.ok q)

variable {es es' : List (String × FileTree)} {above above' : List FileTree} {name : String}

theorem lookup_put_other (new t : FileTree) (first : String) (rest : List String)
    (h : name ≠ first) :
    (put new (first :: rest) t).entries.lookup name = t.entries.lookup name := by
  rw [put, entries, List.lookup_append, lookup_filter_other h, List.lookup_cons, beq_false_of_ne h]
  exact Option.or_none

theorem samePlace_stepUp (h : List.Forall₂ (SameTree es es') above above') :
    SamePlace es es' (stepUp above) (stepUp above') := by
  cases h with
  | nil => exact .outside
  | cons hparent habove => exact .inside habove hparent

theorem sameWay_stepDown {here here' : FileTree} {ds ds' : List (String × FileTree)}
    (habove : List.Forall₂ (SameTree es es') above above') (hhere : SameTree es es' here here')
    (h : ds.lookup name = ds'.lookup name) :
    SameWay es es' (stepDown above here ds name) (stepDown above' here' ds' name) := by
  rw [stepDown, stepDown, h]
  split
  · exact .error _
  · split
    · exact .ok (.inside (.cons hhere habove) .refl)
    · exact .error _

theorem sameWay_enter_directory {ds ds' : List (String × FileTree)}
    (habove : List.Forall₂ (SameTree es es') above above')
    (hhere : SameTree es es' (directory ds) (directory ds'))
    (h : ds.lookup name = ds'.lookup name) :
    SameWay es es' (enter (.inside above (directory ds)) name)
      (enter (.inside above' (directory ds')) name) := by
  rw [enter, enter]
  split
  · exact .ok (.inside habove hhere)
  · split
    · exact .ok (samePlace_stepUp habove)
    · exact sameWay_stepDown habove hhere h

theorem sameWay_enter {p q : Place} (hpq : SamePlace es es' p q)
    (h : es.lookup name = es'.lookup name) : SameWay es es' (enter p name) (enter q name) := by
  cases hpq with
  | outside =>
    rw [enter]
    split
    · exact .ok .outside
    · split <;> exact .error _
  | @inside _ _ here _ habove hhere =>
    cases hhere with
    | refl =>
      cases here with
      | file content => exact .error _
      | directory ds => exact sameWay_enter_directory habove .refl rfl
    | root => exact sameWay_enter_directory habove .root h

theorem sameWay_foldlM {p q : Place} (hpq : SamePlace es es' p q) {names : List String}
    (h : ∀ name ∈ names, es.lookup name = es'.lookup name) :
    SameWay es es' (names.foldlM enter p) (names.foldlM enter q) := by
  induction names generalizing p q with
  | nil => exact .ok hpq
  | cons name names ih =>
    obtain ⟨hname, hnames⟩ := List.forall_mem_cons.mp h
    have hstep := sameWay_enter hpq hname
    rw [List.foldlM_cons, List.foldlM_cons]
    generalize enter p name = x at hstep ⊢
    generalize enter q name = y at hstep ⊢
    cases hstep with
    | error e => exact .error e
    | ok hnext => exact ih hnext hnames

theorem samePlace_start (names : List String) :
    SamePlace es es' (start (directory es) names) (start (directory es') names) := by
  rw [start, start]
  split
  · exact .outside
  · exact .inside .nil .root

theorem read_congr {path : String}
    (h : ∀ name ∈ names path, es.lookup name = es'.lookup name) :
    (directory es).read path = (directory es').read path := by
  have hway := sameWay_foldlM (samePlace_start (names path)) h
  simp only [read]
  generalize (names path).foldlM enter (start (directory es) _) = x at hway ⊢
  generalize (names path).foldlM enter (start (directory es') _) = y at hway ⊢
  cases hway with
  | error e => rfl
  | ok hplace =>
    cases hplace with
    | outside => rfl
    | @inside _ _ here _ _ hhere =>
      cases hhere with
      | refl => cases here <;> rfl
      | root => rfl

theorem textOf_toUTF8 (s : String) : textOf s.toUTF8 = .ok s := by
  have hs : String.fromUTF8? s.toUTF8 = some s := by
    rw [String.fromUTF8?, String.toUTF8_eq_toByteArray, dif_pos s.isValidUTF8]
    rfl
  rw [textOf, hs]

theorem lookup_put_first (new t : FileTree) (first : String) (rest : List String) :
    (put new (first :: rest) t).entries.lookup first =
      some (put new rest ((t.entries.lookup first).getD empty)) := by
  rw [put, entries, List.lookup_append, lookup_filter_self, List.lookup_cons_self]
  rfl

structure Steps (name : String) : Prop where
  named : name ∉ ["", ".", ".."]
  short : name.utf8ByteSize ≤ longestName

theorem enter_of_lookup {ds : List (String × FileTree)} {here : FileTree} (hname : Steps name)
    (h : ds.lookup name = some here) :
    enter (.inside above (directory ds)) name = .ok (.inside (directory ds :: above) here) := by
  have hstay : name ∉ ["", "."] := fun hmem => hname.named (List.mem_append_left [".."] hmem)
  have hup : name ≠ ".." := by
    rintro rfl
    exact hname.named (by decide)
  rw [enter, if_neg hstay, if_neg hup, stepDown, if_neg (Nat.not_lt.mpr hname.short), h]

theorem foldlM_enter_put (above : List FileTree) (new t : FileTree) {names : List String}
    (h : ∀ name ∈ names, Steps name) :
    ∃ above', names.foldlM enter (.inside above (put new names t)) = .ok (.inside above' new) := by
  induction names generalizing t above with
  | nil => exact ⟨above, rfl⟩
  | cons name names ih =>
    obtain ⟨hname, hnames⟩ := List.forall_mem_cons.mp h
    have hstep : enter (.inside above (put new (name :: names) t)) name =
        .ok (.inside (put new (name :: names) t :: above) _) :=
      enter_of_lookup hname (lookup_put_first new t name names)
    obtain ⟨above', hrest⟩ := ih _ ((t.entries.lookup name).getD empty) hnames
    refine ⟨above', ?_⟩
    rw [List.foldlM_cons, hstep]
    exact hrest

structure Walks (path : String) : Prop where
  noNul : '\x00' ∉ path.toList
  short : path.utf8ByteSize ≤ longestPath
  steps : ∀ name ∈ names path, Steps name

theorem read_put {path : String} (h : Walks path) (content : ByteArray) (t : FileTree) :
    (put (file content) (names path) t).read path = textOf content := by
  have hempty : path ≠ "" := by
    rintro rfl
    exact (h.steps "" (by decide)).named (by decide)
  have hstart : start (put (file content) (names path) t) (names path) =
      .inside [] (put (file content) (names path) t) := by
    refine if_neg fun hhead => ?_
    exact (h.steps "" (List.mem_of_head? hhead)).named (by decide)
  obtain ⟨above, hwalk⟩ := foldlM_enter_put [] (file content) t h.steps
  rw [read, if_neg h.noNul, if_neg hempty, if_neg (Nat.not_lt.mpr h.short), hstart, hwalk]

end AlarmScheduler.FileTree
