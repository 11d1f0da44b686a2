import AlarmScheduler.Text.Sink

namespace AlarmScheduler

section Refusal

variable {ε σ : Type} {write : Writer ε σ} {p : String} {ps : List String} {s t : σ} {e : ε}

theorem forM_cons_of_ok (h : write p s = .ok () t) : (p :: ps).forM write s = ps.forM write t := by
  show (write p >>= fun _ => ps.forM write) s = _
  simp only [bind, EStateM.bind, h]

theorem forM_cons_of_error (h : write p s = .error e t) : (p :: ps).forM write s = .error e t := by
  show (write p >>= fun _ => ps.forM write) s = _
  simp only [bind, EStateM.bind, h]

theorem forM_append_of_ok (h : ps.forM write s = .ok () t) (qs : List String) :
    (ps ++ qs).forM write s = qs.forM write t := by
  induction ps generalizing s with
  | nil =>
    cases h
    rfl
  | cons p ps ih =>
    cases hp : write p s with
    | error e u =>
      rw [forM_cons_of_error hp] at h
      cases h
    | ok _ u =>
      rw [forM_cons_of_ok hp] at h
      rw [List.cons_append, forM_cons_of_ok hp, ih h]

theorem exists_refused (h : ps.forM write s = .error e t) :
    ∃ taken refused u, taken ++ [refused] <+: ps ∧
      taken.forM write s = .ok () u ∧ write refused u = .error e t := by
  induction ps generalizing s with
  | nil => cases h
  | cons p ps ih =>
    cases hp : write p s with
    | error e' u =>
      rw [forM_cons_of_error hp] at h
      exact ⟨[], p, s, List.prefix_append [p] ps, rfl, hp.trans h⟩
    | ok _ u =>
      rw [forM_cons_of_ok hp] at h
      obtain ⟨taken, refused, v, hprefix, htaken, hrefused⟩ := ih h
      exact ⟨p :: taken, refused, v, List.cons_prefix_cons.mpr ⟨rfl, hprefix⟩,
        (forM_cons_of_ok hp).trans htaken, hrefused⟩

theorem forM_eq_error_iff :
    ps.forM write s = .error e t ↔ ∃ taken refused u, taken ++ [refused] <+: ps ∧
      taken.forM write s = .ok () u ∧ write refused u = .error e t := by
  refine ⟨exists_refused, ?_⟩
  rintro ⟨taken, refused, u, ⟨rest, rfl⟩, htaken, hrefused⟩
  rw [List.append_assoc, forM_append_of_ok htaken]
  exact forM_cons_of_error hrefused

end Refusal

abbrev Program := ∀ ε σ : Type, Writer ε σ → EStateM ε σ Unit

def note : Writer Empty (List String) := fun piece => modify fun noted => noted ++ [piece]

theorem forM_note (ps noted : List String) : ps.forM note noted = .ok () (noted ++ ps) := by
  induction ps generalizing noted with
  | nil =>
    rw [List.append_nil]
    rfl
  | cons p ps ih =>
    have hnote : note p noted = .ok () (noted ++ [p]) := rfl
    rw [forM_cons_of_ok hnote, ih, List.append_assoc, List.singleton_append]

namespace Program

def pieces (x : Program) : List String := outcome (x _ _ note) []

def Sequential (x : Program) : Prop :=
  ∃ ps : List String, ∀ (ε σ : Type) (write : Writer ε σ), x ε σ write = ps.forM write

namespace Sequential

variable {x y : Program}

theorem nothing : Sequential fun _ _ _ => pure () := ⟨[], fun _ _ _ => rfl⟩

theorem list (ps : List String) : Sequential fun _ _ write => ps.forM write :=
  ⟨ps, fun _ _ _ => rfl⟩

theorem piece (p : String) : Sequential fun _ _ write => write p := by
  refine ⟨[p], ?_⟩
  intro ε σ write
  simp

theorem bind (hx : Sequential x) (hy : Sequential y) :
    Sequential fun ε σ write => x ε σ write >>= fun _ => y ε σ write := by
  obtain ⟨ps, hx⟩ := hx
  obtain ⟨qs, hy⟩ := hy
  refine ⟨ps ++ qs, ?_⟩
  intro ε σ write
  simp only [hx, hy, List.forM_eq_forM, List.forM_append]

theorem forM {α : Type} {f : α → Program} (hf : ∀ a, Sequential (f a)) (as : List α) :
    Sequential fun ε σ write => as.forM fun a => f a ε σ write := by
  induction as with
  | nil => exact nothing
  | cons a as ih => exact bind (hf a) ih

theorem eq_forM_pieces (hx : Sequential x) {ε σ : Type} (write : Writer ε σ) :
    x ε σ write = x.pieces.forM write := by
  obtain ⟨ps, hx⟩ := hx
  have hpieces : x.pieces = ps := by
    rw [pieces, hx]
    exact outcome_of_ok (forM_note ps [])
  rw [hpieces, hx]

end Sequential

end Program

theorem Text.forM_write (ps : List String) (text : String) :
    ps.forM write text = .ok () (text ++ String.join ps) := by
  induction ps generalizing text with
  | nil =>
    rw [String.join_nil, String.append_empty]
    rfl
  | cons p ps ih =>
    have hwrite : write p text = .ok () (text ++ p) := rfl
    rw [forM_cons_of_ok hwrite, ih, String.join_cons, String.append_assoc]

namespace Sink

/-- The first of the pieces that does not fit is `refused`, and `taken` are those before it. -/
structure Overflow (limit : Nat) (ps taken : List String) (refused : String) : Prop where
  parts : taken ++ [refused] <+: ps
  fits : (String.join taken).utf8ByteSize ≤ limit
  exceeds : limit < (String.join taken ++ refused).utf8ByteSize

theorem Overflow.cut {limit : Nat} {ps taken : List String} {refused : String}
    (h : Overflow limit ps taken refused) :
    ∃ cut, cut ≠ "" ∧ String.join ps = String.join taken ++ cut := by
  obtain ⟨⟨rest, rfl⟩, hfits, hexceeds⟩ := h
  refine ⟨refused ++ String.join rest, ?_, ?_⟩
  · intro hempty
    have hsize := congrArg String.utf8ByteSize hempty
    simp only [String.utf8ByteSize_append, String.utf8ByteSize_empty] at hsize hexceeds
    omega
  · simp [String.join_append, String.join_cons]

theorem Overflow.lt {limit : Nat} {ps taken : List String} {refused : String}
    (h : Overflow limit ps taken refused) : limit < (String.join ps).utf8ByteSize := by
  obtain ⟨⟨rest, rfl⟩, -, hexceeds⟩ := h
  simp only [String.join_append, String.join_cons, String.join_nil, String.append_empty,
    String.utf8ByteSize_append] at hexceeds ⊢
  omega

variable {s t : Sink} {p : String} {ps : List String} {e : Fault} {limit : Nat}

theorem write_of_fits (h : s.held.utf8ByteSize + p.utf8ByteSize ≤ s.limit) :
    write p s = .ok () { s with held := s.held ++ p } := if_pos h

theorem write_of_exceeds (h : s.limit < s.held.utf8ByteSize + p.utf8ByteSize) :
    write p s = .error .full s := if_neg (by omega)

theorem write_eq_error (h : write p s = .error e t) :
    s.limit < s.held.utf8ByteSize + p.utf8ByteSize ∧ t = s := by
  rcases Nat.lt_or_ge s.limit (s.held.utf8ByteSize + p.utf8ByteSize) with hlt | hge
  · rw [write_of_exceeds hlt] at h
    cases h
    exact ⟨hlt, rfl⟩
  · rw [write_of_fits hge] at h
    cases h

theorem forM_write_eq_ok_iff (hs : s.held.utf8ByteSize ≤ s.limit) :
    ps.forM write s = .ok () t ↔
      s.held.utf8ByteSize + (String.join ps).utf8ByteSize ≤ s.limit ∧
        t = { s with held := s.held ++ String.join ps } := by
  induction ps generalizing s with
  | nil =>
    rw [String.join_nil, String.append_empty, String.utf8ByteSize_empty]
    constructor
    · intro h
      cases h
      exact ⟨hs, rfl⟩
    · rintro ⟨-, rfl⟩
      rfl
  | cons p ps ih =>
    rw [String.join_cons, String.utf8ByteSize_append]
    -- A sink that took a piece is within its limit again, so the rest goes by induction.
    rcases Nat.lt_or_ge s.limit (s.held.utf8ByteSize + p.utf8ByteSize) with hlt | hge
    · rw [forM_cons_of_error (write_of_exceeds hlt)]
      exact iff_of_false nofun (by omega)
    · rw [forM_cons_of_ok (write_of_fits hge), ih (by simpa using hge)]
      simp only [String.utf8ByteSize_append, String.append_assoc, Nat.add_assoc]

theorem forM_write_ofLimit_eq_ok_iff :
    ps.forM write (ofLimit limit) = .ok () t ↔
      (String.join ps).utf8ByteSize ≤ limit ∧ t = ⟨limit, String.join ps⟩ := by
  simpa [ofLimit] using forM_write_eq_ok_iff (s := ofLimit limit) (Nat.zero_le limit)

theorem overflow_of_forM_write_eq_error (h : ps.forM write (ofLimit limit) = .error e t) :
    ∃ taken refused, Overflow limit ps taken refused ∧ t = ⟨limit, String.join taken⟩ := by
  obtain ⟨taken, refused, u, hparts, htaken, hrefused⟩ := exists_refused h
  obtain ⟨hfits, rfl⟩ := forM_write_ofLimit_eq_ok_iff.mp htaken
  obtain ⟨hexceeds, rfl⟩ := write_eq_error hrefused
  refine ⟨taken, refused, ⟨hparts, hfits, ?_⟩, rfl⟩
  rwa [String.utf8ByteSize_append]

end Sink

end AlarmScheduler
