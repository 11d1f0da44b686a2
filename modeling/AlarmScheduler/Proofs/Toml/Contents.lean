import AlarmScheduler.Proofs.Text.Reading
import AlarmScheduler.Toml.Document

namespace AlarmScheduler.Toml

open Reader

def Value.Fits (v : Value) : Prop := ∀ n, v = .integer n → Number.inRange n = true

structure TableOf.Plain (t : Table) : Prop where
  distinct : (t.entries.map Prod.fst).Nodup
  fits : ∀ e ∈ t.entries, e.2.Fits

def Assignment.Fits (a : Assignment) : Prop := a.value.Fits

def Block.Fits (b : Block) : Prop := ∀ a ∈ b.body, a.Fits

theorem Value.fits_of_ne {v : Value} (h : ∀ n, v ≠ .integer n) : v.Fits :=
  fun n hv => absurd hv (h n)

theorem Value.fits_table (t : Table) : (Value.table t).Fits := fits_of_ne fun _ => nofun

theorem Value.fits_rows (earlier : List Table) (last : Table) : (Value.rows earlier last).Fits :=
  fits_of_ne fun _ => nofun

section Readers

theorem yields_integer : Yields Number.integer fun n => Number.inRange n = true := by
  refine Yields.next fun n => ?_
  refine Yields.bind (Ensures.require.weaken fun _ _ h => h.1) ?_
  intro _ h
  exact Yields.pure h

theorem yields_scalar : Yields scalar Value.Fits := by
  refine .orElse ?_ (.orElse ?_ (.orElse ?_ (.orElse ?_ ?_)))
  · exact Yields.map fun s => Value.fits_of_ne fun _ => nofun
  · exact Yields.map fun m => Value.fits_of_ne fun _ => nofun
  · exact Yields.map fun x => Value.fits_of_ne fun _ => nofun
  · refine Ensures.map (yields_integer.weaken ?_)
    intro n _ hn m hm
    rwa [← Value.integer.inj hm]
  · exact Yields.map fun b => Value.fits_of_ne fun _ => nofun

theorem yields_array (v : Reader Value) : Yields (array v) Value.Fits := by
  iterate 5 refine Yields.next fun _ => ?_
  exact Yields.pure (Value.fits_of_ne fun _ => nofun)

theorem yields_braces (v : Reader Value) : Yields (braces v) Value.Fits := by
  iterate 4 refine Yields.next fun _ => ?_
  split
  · exact Yields.pure (Value.fits_table _)
  · exact Ensures.failure

theorem yields_value (n : Nat) : Yields (value n) Value.Fits := by
  cases n with
  | zero => exact yields_scalar
  | succ n => exact .orElse yields_scalar (.orElse (yields_array _) (yields_braces _))

theorem yields_assignmentLine : Yields assignmentLine Assignment.Fits := by
  refine Yields.bind (Q := Assignment.Fits) ?_ fun a ha =>
    Yields.next fun _ => Yields.next fun _ => Yields.pure ha
  refine Yields.next fun key => Yields.next fun _ => Yields.next fun _ => ?_
  exact Yields.bind (yields_value _) fun v hv => Yields.pure hv

theorem yields_blocks : Yields blocks fun bs => ∀ b ∈ bs, b.Fits := by
  have hbody := yields_assignmentLine.many
  have hblock : Yields block Block.Fits :=
    Yields.next fun place => hbody.bind fun body h => Yields.pure h
  refine Yields.next fun _ => Yields.next fun _ => hbody.bind fun top htop => ?_
  refine hblock.many.bind fun more hmore => Yields.pure ?_
  exact List.forall_mem_cons.mpr ⟨htop, hmore⟩

end Readers

namespace TableOf

variable {t u : Table} {key : String} {v : Value}

theorem get?_eq_none_iff : t.get? key = none ↔ key ∉ t.entries.map Prod.fst := by
  rw [get?, List.lookup_eq_none_iff, List.mem_map]
  constructor
  · rintro h ⟨e, he, rfl⟩
    exact bne_iff_ne.mp (h e he) rfl
  · intro h e he
    exact bne_iff_ne.mpr fun hkey => h ⟨e, he, hkey.symm⟩

theorem Plain.append (h : t.Plain) (hkey : t.get? key = none) (hv : v.Fits) :
    (t.append key v).Plain where
  distinct := by
    rw [get?_eq_none_iff] at hkey
    rw [TableOf.append, List.map_append]
    refine List.nodup_append.mpr ⟨h.distinct, List.pairwise_singleton _ _, ?_⟩
    rintro a ha b hb rfl
    rw [List.mem_singleton.mp hb] at ha
    exact hkey ha
  fits := by
    intro e he
    rw [TableOf.append, List.mem_append, List.mem_singleton] at he
    rcases he with he | rfl
    · exact h.fits e he
    · exact hv

theorem keys_replace (t : Table) (key : String) (v : Value) :
    (t.replace key v).entries.map Prod.fst = t.entries.map Prod.fst := by
  rw [replace, List.map_map]
  apply List.map_congr_left
  intro e _
  simp only [Function.comp_apply]
  split
  · rename_i h
    exact h.symm
  · rfl

theorem Plain.replace (h : t.Plain) (hv : v.Fits) : (t.replace key v).Plain where
  distinct := by
    rw [keys_replace]
    exact h.distinct
  fits := by
    intro e he
    obtain ⟨d, hd, rfl⟩ := List.mem_map.mp he
    split
    · exact hv
    · exact h.fits d hd

theorem Plain.erase (h : t.Plain) (key : String) : (t.erase key).Plain where
  distinct := h.distinct.sublist (List.filter_sublist.map Prod.fst)
  fits e he := h.fits e (List.mem_filter.mp he).1

theorem get?_erase (t : Table) (key : String) : (t.erase key).get? key = none := by
  rw [get?_eq_none_iff, erase]
  simp

theorem plain_empty (o : Origin) : (empty o).Plain := ⟨List.nodup_nil, fun _ he => nomatch he⟩

theorem Plain.atPath {step : Origin} {path : List String} {change : Table → Option Table}
    (hchange : ∀ t u, change t = some u → t.Plain → u.Plain)
    (hu : TableOf.atPath step path change t = some u) (h : t.Plain) : u.Plain := by
  cases path with
  | nil => exact hchange t u hu h
  | cons key path =>
    rw [TableOf.atPath] at hu
    split at hu
    · rename_i hkey
      obtain ⟨w, -, rfl⟩ := Option.map_eq_some_iff.mp hu
      exact h.append hkey (Value.fits_table w)
    · split at hu
      · obtain ⟨w, -, rfl⟩ := Option.map_eq_some_iff.mp hu
        exact h.replace (Value.fits_table w)
      · cases hu
    · obtain ⟨w, -, rfl⟩ := Option.map_eq_some_iff.mp hu
      exact h.replace (Value.fits_rows _ w)
    · cases hu

theorem Plain.assign {a : Assignment} (ha : a.Fits) (hu : t.assign a = some u) (h : t.Plain) :
    u.Plain := by
  refine Plain.atPath ?_ hu h
  intro t u hu h
  split at hu
  · cases hu
  split at hu
  · cases hu
  · rename_i hkey
    rw [← Option.some.inj hu]
    exact h.append (Option.not_isSome_iff_eq_none.mp hkey) ha

theorem Plain.foldlM {α : Type} {f : Table → α → Option Table} {as : List α}
    (hf : ∀ a ∈ as, ∀ t u, f t a = some u → t.Plain → u.Plain) (hu : as.foldlM f t = some u)
    (h : t.Plain) : u.Plain := by
  induction as generalizing t with
  | nil => exact Option.some.inj hu ▸ h
  | cons a as ih =>
    obtain ⟨hhead, htail⟩ := List.forall_mem_cons.mp hf
    rw [List.foldlM_cons] at hu
    obtain ⟨w, hw, hrest⟩ := Option.bind_eq_some_iff.mp hu
    exact ih htail hrest (hhead t w hw h)

theorem eq_append_of_putTable {body : List Assignment} (h : putTable key body t = some u) :
    ∃ w, u = (t.erase key).append key (.table w) := by
  have hfilled : ∀ start : Table, (do
      let w ← start.assignAll body
      pure ((t.erase key).append key (.table w))) = some u →
        ∃ w, u = (t.erase key).append key (.table w) := by
    intro start hstart
    obtain ⟨w, -, hw⟩ := Option.bind_eq_some_iff.mp hstart
    exact ⟨w, (Option.some.inj hw).symm⟩
  rw [putTable] at h
  split at h
  · exact hfilled _ h
  · split at h
    · exact hfilled _ h
    · cases h
  · cases h

theorem Plain.putTable {body : List Assignment} (hu : TableOf.putTable key body t = some u)
    (h : t.Plain) : u.Plain := by
  obtain ⟨w, rfl⟩ := eq_append_of_putTable hu
  exact (h.erase key).append (get?_erase t key) (Value.fits_table w)

theorem Plain.putRow {body : List Assignment} (hu : putRow key body t = some u) (h : t.Plain) :
    u.Plain := by
  obtain ⟨w, -, hw⟩ := Option.bind_eq_some_iff.mp hu
  split at hw
  · rename_i hkey
    rw [← Option.some.inj hw]
    exact h.append hkey (Value.fits_rows [] w)
  · rw [← Option.some.inj hw]
    exact h.replace (Value.fits_rows _ w)
  · cases hw

theorem Plain.put {b : Block} (hb : b.Fits) (hu : t.put b = some u) (h : t.Plain) : u.Plain := by
  obtain ⟨place, body⟩ := b
  cases place with
  | top => exact Plain.foldlM (fun a ha _ _ => Plain.assign (hb a ha)) hu h
  | table path key => exact Plain.atPath (fun _ _ => Plain.putTable) hu h
  | row path key => exact Plain.atPath (fun _ _ => Plain.putRow) hu h

theorem plain_ofBlocks {bs : List Block} (hbs : ∀ b ∈ bs, b.Fits) (h : ofBlocks bs = some t) :
    t.Plain :=
  Plain.foldlM (fun b hb _ _ => Plain.put (hbs b hb)) h (plain_empty .header)

end TableOf

theorem whole?_eq_some {α : Type} {p : Reader α} {s : String} {a : α} (h : whole? p s = some a) :
    p s.toList = some (a, []) := by
  rw [whole?] at h
  split at h
  · rename_i hp
    rw [hp, Option.some.inj h]
  · cases h

theorem plain_of_parse? {s : String} {t : Table} (h : parse? s = some t) : t.Plain := by
  obtain ⟨bs, hbs, ht⟩ := Option.bind_eq_some_iff.mp h
  exact TableOf.plain_ofBlocks (yields_blocks _ bs [] trivial (whole?_eq_some hbs)) ht

end AlarmScheduler.Toml
