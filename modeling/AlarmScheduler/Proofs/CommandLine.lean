import AlarmScheduler.CommandLine
import AlarmScheduler.Proofs.Files
import AlarmScheduler.Proofs.Limits.Acceptance
import AlarmScheduler.Proofs.Text.Numerals

namespace AlarmScheduler

/-- The word after the first `--config`, if there is one of either. -/
def configPath? (args : List String) : Option (Option String) :=
  if "--config" ∈ args then some args[args.idxOf "--config" + 1]? else none

def limitsFor? (read : String → Except ReadError String) (args : List String) : Option Limits :=
  match configPath? args with
  | none => some ⟨500, 10000⟩
  | some none => none
  | some (some path) =>
    match read path with
    | .error _ => none
    | .ok s => (Limits.parse s).toOption

def readyLine (perUid total : Nat) : String :=
  "alarmd: ready (max_alarms_per_uid=" ++ toString perUid ++ " max_alarms_total=" ++
    toString total ++ ")"

namespace Invocation

def ofPath : Option (Option String) → Invocation
  | none => standard
  | some none => missingPath
  | some (some path) => load path

theorem configPath?_flag (args : List String) :
    configPath? ("--config" :: args) = some args.head? := by
  simp [configPath?, List.head?_eq_getElem?]

theorem configPath?_other {arg : String} (h : arg ≠ "--config") (args : List String) :
    configPath? (arg :: args) = configPath? args := by
  have hmem : "--config" ∈ arg :: args ↔ "--config" ∈ args := by
    rw [List.mem_cons, or_iff_right h.symm]
  simp only [configPath?, hmem, List.idxOf_cons, beq_false_of_ne h, cond_false,
    List.getElem?_cons_succ]

theorem configured_other {arg : String} (h : arg ≠ "--config") (args : List String) :
    configured (arg :: args) = configured args := by
  rw [configured.eq_def]
  exact if_neg h

theorem configured_eq (args : List String) : configured args = ofPath (configPath? args) := by
  induction args with
  | nil => rfl
  | cons arg args ih =>
    by_cases harg : arg = "--config"
    · rw [harg, configPath?_flag]
      cases args with
      | nil => rfl
      | cons path args => rfl
    · rw [configured_other harg, configPath?_other harg, ih]

end Invocation

section Reading

variable {read read' : String → Except ReadError String} {args args' : List String}

theorem execute_of_help (h : "--help" ∈ args) : execute read args = .help := by
  rw [execute, Invocation.ofArgs, if_pos h]
  rfl

theorem execute_of_not_help (h : "--help" ∉ args) :
    execute read args = (Invocation.ofPath (configPath? args)).answer read := by
  rw [execute, Invocation.ofArgs, if_neg h, Invocation.configured_eq]

theorem Invocation.answer_congr {i : Invocation}
    (h : ∀ path, i = .load path → read path = read' path) : i.answer read = i.answer read' := by
  cases i with
  | load path =>
    have hload : Limits.load read path = Limits.load read' path := by
      rw [Limits.load, Limits.load, h path rfl]
    rw [answer, answer, hload]
  | _ => rfl

theorem execute_congr (h : "--help" ∉ args) (h' : "--help" ∉ args')
    (hpath : configPath? args = configPath? args')
    (hread : ∀ path, configPath? args = some (some path) → read path = read' path) :
    execute read args = execute read' args' := by
  rw [execute_of_not_help h, execute_of_not_help h', ← hpath]
  refine Invocation.answer_congr fun path hload => hread path ?_
  cases hconfig : configPath? args with
  | none => rw [hconfig] at hload; cases hload
  | some word =>
    rw [hconfig] at hload
    cases word with
    | none => cases hload
    | some p => rw [Invocation.load.inj hload]

theorem execute_cases (read : String → Except ReadError String) (args : List String) :
    ("--help" ∈ args ∧ execute read args = .help) ∨
    ("--help" ∉ args ∧ ∃ ls, limitsFor? read args = some ls ∧ execute read args = .ready ls) ∨
    ("--help" ∉ args ∧ limitsFor? read args = none ∧ ∃ f, execute read args = .failed f) := by
  by_cases h : "--help" ∈ args
  · exact .inl ⟨h, execute_of_help h⟩
  · rw [execute_of_not_help h, limitsFor?]
    refine .inr ?_
    rcases configPath? args with _ | _ | path
    · exact .inl ⟨h, _, rfl, rfl⟩
    · exact .inr ⟨h, rfl, _, rfl⟩
    · have hlimits := Limits.load_toOption read path
      simp only [Invocation.ofPath, Invocation.answer]
      cases hload : Limits.load read path with
      | ok ls =>
        rw [hload] at hlimits
        exact .inl ⟨h, ls, hlimits.symm, rfl⟩
      | error e =>
        rw [hload] at hlimits
        exact .inr ⟨h, hlimits.symm, _, rfl⟩

theorem execute_eq_ready_iff {ls : Limits} :
    execute read args = .ready ls ↔ "--help" ∉ args ∧ limitsFor? read args = some ls := by
  rcases execute_cases read args with ⟨h, hexec⟩ | ⟨h, new, hnew, hexec⟩ | ⟨-, hnone, f, hexec⟩
  · rw [hexec]
    exact ⟨nofun, fun hnot => absurd h hnot.1⟩
  · rw [hexec, hnew, Option.some.injEq, Answer.ready.injEq, and_iff_right h]
  · rw [hexec, hnone]
    exact ⟨nofun, nofun⟩

theorem limitsFor?_of_read {path s : String} (hpath : configPath? args = some (some path))
    (hread : read path = .ok s) {ls : Limits} :
    limitsFor? read args = some ls ↔ Limits.parse s = .ok ls := by
  simp only [limitsFor?, hpath, hread]
  cases Limits.parse s with
  | error e => exact ⟨nofun, nofun⟩
  | ok new => simp [Except.toOption]

theorem limitsFor?_ne_zero {ls : Limits} (h : limitsFor? read args = some ls) (l : Limit) :
    ls.get l ≠ 0 := by
  cases hconfig : configPath? args with
  | none =>
    simp only [limitsFor?, hconfig, Option.some.injEq] at h
    rw [← h]
    exact Limits.get_standard_ne_zero l
  | some word =>
    cases word with
    | none => simp [limitsFor?, hconfig] at h
    | some path =>
      cases hread : read path with
      | error e => simp [limitsFor?, hconfig, hread] at h
      | ok s => exact (Limits.parse_eq_ok_iff.mp ((limitsFor?_of_read hconfig hread).mp h)).2 l

end Reading

namespace Answer

def ninthLetter : Answer → Char
  | help => 'e'
  | ready _ => 'r'
  | failed _ => 'c'

def opening : List Char := "alarmd: ready (max_alarms_per_uid=".toList

def between : List Char := ' ' :: "max_alarms_total=".toList

theorem toList_ready (ls : Limits) :
    (ready ls).text.toList = opening ++ (Nat.toDigits 10 ls.perUid ++
      (between ++ (Nat.toDigits 10 ls.total ++ [')']))) := by
  show ("alarmd: ready (max_alarms_per_uid=" ++ Numeral.decimal ls.perUid ++
    " max_alarms_total=" ++ Numeral.decimal ls.total ++ ")").toList = _
  simp only [String.toList_append, Numeral.toList_decimal, List.append_assoc]
  rfl

theorem ready_text (ls : Limits) : (ready ls).text = readyLine ls.perUid ls.total := rfl

theorem toList_failed (f : Fault) :
    (failed f).text.toList = "alarmd: config error: ".toList ++ f.message.toList := by
  show ("alarmd: config error: " ++ f.message).toList = _
  exact String.toList_append

theorem getElem?_text (a : Answer) : a.text.toList[8]? = some a.ninthLetter := by
  cases a with
  | help => rfl
  | ready ls =>
    rw [toList_ready, List.getElem?_append_left (by decide)]
    rfl
  | failed f =>
    rw [toList_failed, List.getElem?_append_left (by decide)]
    rfl

theorem ready_text_injective {a b : Limits} (h : (ready a).text = (ready b).text) : a = b := by
  have hbetween (r : List Char) : Numeral.NoDigit (between ++ r) := Numeral.noDigit_cons rfl _
  have hclosing : Numeral.NoDigit [')'] := Numeral.noDigit_cons rfl _
  have hlists := congrArg String.toList h
  rw [toList_ready, toList_ready] at hlists
  obtain ⟨hper, hrest⟩ := Numeral.toDigits_append_inj (hbetween _) (hbetween _)
    (List.append_cancel_left hlists)
  obtain ⟨htotal, -⟩ := Numeral.toDigits_append_inj hclosing hclosing
    (List.append_cancel_left hrest)
  obtain ⟨x, y⟩ := a
  obtain ⟨z, w⟩ := b
  exact congrArg₂ Limits.mk hper htotal

theorem text_eq_ready_iff {a : Answer} {ls : Limits} :
    a.text = (ready ls).text ↔ a = ready ls := by
  refine ⟨fun h => ?_, fun h => congrArg text h⟩
  have hletter : some a.ninthLetter = some 'r' := by
    rw [← getElem?_text, h, getElem?_text]
    rfl
  cases a with
  | ready new => rw [ready_text_injective h]
  | help => exact absurd hletter (by decide)
  | failed f => exact absurd hletter (by decide : some 'c' ≠ some 'r')

theorem failed_text_ne_helpText (f : Fault) : (failed f).text ≠ helpText := by
  intro h
  have hletter := getElem?_text (failed f)
  rw [h] at hletter
  have hhelp : helpText.toList[8]? = some 'e' := rfl
  rw [hhelp] at hletter
  cases hletter

end Answer

theorem error_logged_iff (read : String → Except ReadError String) (args : List String) :
    (∃ r ∈ (execute read args).log, r.level = .error) ↔
      (execute read args).text ≠ helpText ∧ limitsFor? read args = none := by
  rcases execute_cases read args with ⟨-, hexec⟩ | ⟨-, ls, hls, hexec⟩ | ⟨-, hnone, f, hexec⟩
  · rw [hexec]
    exact ⟨fun ⟨_, hr, _⟩ => absurd hr List.not_mem_nil, fun h => absurd rfl h.1⟩
  · rw [hexec, hls]
    exact ⟨fun ⟨_, hr, _⟩ => absurd hr List.not_mem_nil, nofun⟩
  · rw [hexec]
    exact ⟨fun _ => ⟨Answer.failed_text_ne_helpText f, hnone⟩, fun _ =>
      ⟨_, List.mem_singleton_self _, rfl⟩⟩

theorem execute_directory_congr {es es' : List (String × FileTree)} {args : List String}
    (h : ∀ path, configPath? args = some (some path) →
      ∀ name ∈ FileTree.names path, es.lookup name = es'.lookup name) :
    execute (FileTree.directory es).read args = execute (FileTree.directory es').read args := by
  by_cases hhelp : "--help" ∈ args
  · rw [execute_of_help hhelp, execute_of_help hhelp]
  · exact execute_congr hhelp hhelp rfl fun path hpath => FileTree.read_congr (h path hpath)

theorem execute_confined :
    (∀ read args, "--help" ∈ args →
      (execute read args).text = helpText ∧ (execute read args).log = []) ∧
    (∀ read read' args args', "--help" ∉ args → "--help" ∉ args' →
      configPath? args = configPath? args' →
      (∀ path, configPath? args = some (some path) → read path = read' path) →
        (execute read args).text = (execute read' args').text ∧
          (execute read args).log = (execute read' args').log) ∧
    (∀ es es' args, (∀ path, configPath? args = some (some path) →
        ∀ name ∈ FileTree.names path, es.lookup name = es'.lookup name) →
      execute (FileTree.directory es).read args = execute (FileTree.directory es').read args) ∧
    (∀ read args ls, (execute read args).text = readyLine ls.perUid ls.total ↔
      "--help" ∉ args ∧ limitsFor? read args = some ls) ∧
    (∀ read args ls, limitsFor? read args = some ls → ls.perUid ≠ 0 ∧ ls.total ≠ 0) ∧
    (∀ read args path s, configPath? args = some (some path) → read path = .ok s →
      ∀ ls, limitsFor? read args = some ls ↔ ∃ t, Toml.parse? s = some t ∧
        Limits.Acceptable 1 t.entries ∧ Limits.Settles t.entries ⟨500, 10000⟩ ls) ∧
    (∀ read args path (gs : List (Limit × Nat)), configPath? args = some (some path) →
      (gs.map Prod.fst).Nodup → (∀ g ∈ gs, 1 ≤ g.2 ∧ g.2 ≤ 9223372036854775807) →
      read path = .ok (String.join (gs.map fun g => Limits.line g ++ "\n")) →
        limitsFor? read args = some (Limits.given gs)) ∧
    (∀ read args, (∃ r ∈ (execute read args).log, r.level = .error) ↔
      (execute read args).text ≠ helpText ∧ limitsFor? read args = none) := by
  refine ⟨fun read args h => ?_, fun read read' args args' h h' hpath hread => ?_,
    fun es es' args h => execute_directory_congr h, fun read args ls => ?_,
    fun read args ls h => ?_, fun read args path s hpath hread ls => ?_,
    fun read args path gs hpath hdistinct hgs hread => ?_, error_logged_iff⟩
  · rw [execute_of_help h]
    exact ⟨rfl, rfl⟩
  · rw [execute_congr h h' hpath hread]
    exact ⟨rfl, rfl⟩
  · rw [← Answer.ready_text, Answer.text_eq_ready_iff, execute_eq_ready_iff]
  · exact ⟨limitsFor?_ne_zero h .perUid, limitsFor?_ne_zero h .total⟩
  · rw [limitsFor?_of_read hpath hread]
    exact Limits.accepted_iff
  · exact (limitsFor?_of_read hpath hread).mpr (Limits.parse_ended hdistinct hgs)

def etc : String × FileTree :=
  ("etc", .directory [("a.toml", .file "max_alarms_total = 16\n".toUTF8)])

theorem names_etc : FileTree.names "etc/a.toml" = ["etc", "a.toml"] := by decide

theorem read_etc :
    (FileTree.directory [etc]).read "etc/a.toml" = .ok "max_alarms_total = 16\n" := by
  have hput : FileTree.directory [etc] =
      .put (.file "max_alarms_total = 16\n".toUTF8) (FileTree.names "etc/a.toml") .empty := by
    rw [names_etc]
    rfl
  have hsteps : ∀ name ∈ ["etc", "a.toml"],
      name ∉ ["", ".", ".."] ∧ name.utf8ByteSize ≤ FileTree.longestName := by decide
  have hwalks : FileTree.Walks "etc/a.toml" := by
    refine ⟨by decide, by decide, fun name hname => ?_⟩
    rw [names_etc] at hname
    exact ⟨(hsteps name hname).1, (hsteps name hname).2⟩
  rw [hput, FileTree.read_put hwalks, FileTree.textOf_toUTF8]

theorem execute_confined_flagAsPath :
    (execute (fun _ => .error .notFound) ["--config", "--help", "a.toml"]).text = helpText ∧
      (execute (fun _ => .ok "max_alarms_total = 16") ["-v", "--config", "--config", "b"]).text =
        (execute (fun path => if path = "--config" then .ok "max_alarms_total = 16"
          else .error .permissionDenied) ["--config", "--config"]).text ∧
      execute (FileTree.directory [etc]).read ["--config", "etc/a.toml"] =
        execute (FileTree.put .empty ["b.toml", "etc"] (.directory [etc])).read
          ["--config", "etc/a.toml"] ∧
      (execute (FileTree.directory [etc]).read ["etc/a.toml"]).text =
        "alarmd: ready (max_alarms_per_uid=500 max_alarms_total=10000)" ∧
      (execute (FileTree.directory [etc]).read ["--config", "etc/a.toml"]).text =
        "alarmd: ready (max_alarms_per_uid=500 max_alarms_total=16)" := by
  obtain ⟨hhelp, hsame, htrees, hready, -, -, hlines, -⟩ := execute_confined
  refine ⟨(hhelp _ _ (by decide)).1, (hsame _ _ _ _ (by decide) (by decide) rfl ?_).1,
    htrees _ _ _ ?_, ?_, ?_⟩
  · intro path hpath
    have hword : configPath? ["-v", "--config", "--config", "b"] = some (some "--config") := rfl
    rw [hword] at hpath
    rw [← Option.some.inj (Option.some.inj hpath), if_pos rfl]
  · intro path hpath name hname
    have hword : configPath? ["--config", "etc/a.toml"] = some (some "etc/a.toml") := rfl
    rw [hword] at hpath
    rw [← Option.some.inj (Option.some.inj hpath), names_etc] at hname
    have hother : name ≠ "b.toml" := by
      rintro rfl
      exact absurd hname (by decide)
    exact (FileTree.lookup_put_other .empty (.directory [etc]) "b.toml" ["etc"] hother).symm
  · have htext := (hready (FileTree.directory [etc]).read ["etc/a.toml"] ⟨500, 10000⟩).mpr
      ⟨by decide, rfl⟩
    exact htext.trans (by decide)
  · have hline : String.join ([(Limit.total, 16)].map fun g => Limits.line g ++ "\n") =
        "max_alarms_total = 16\n" := by
      decide
    have hlimits := hlines (FileTree.directory [etc]).read ["--config", "etc/a.toml"] "etc/a.toml"
      [(.total, 16)] rfl (by decide) (by decide) (hline ▸ read_etc)
    have htext := (hready (FileTree.directory [etc]).read ["--config", "etc/a.toml"] _).mpr
      ⟨by decide, hlimits⟩
    exact htext.trans (by decide)

end AlarmScheduler
