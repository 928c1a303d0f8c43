import HiveDdl.Cli.Session
import HiveDdl.Proofs.Sequencing

/-!
# What a session leaves behind

A session reads its arguments, runs at most one command, and ends with an exit code or lets an
error escape. The files it leaves follow from where each step can end:

* reading the arguments, showing help or the version, and refusing arguments leave every file
  as it was, with exit code 0 or 2 (`runSession_cases`);
* `generate-config` writes its template where nothing was, or fails with exit code 1
  (`runGenerateConfig_cases`);
* `generate` fails with exit code 1, writes its statements to the file its output path opens and
  prints them, or stops (`runGenerate_cases`). It opens the output file before it encodes the
  statements, so statements that hold a lone surrogate leave that file empty, made or emptied.

Main statements:

* `session_leaves_files`: a session that fails leaves every file as it was; one that succeeds
  changes only its output file; one that stops over a lone surrogate leaves its output file
  empty. `surrogate_statements_empty_output` is such a session.
* `runSession_changes_one_file`: whatever a session ends with, at most one file has changed.
* `session_escapes_only_from_generate`: exit codes are 0, 1 or 2, and an error escapes only from
  a `generate` run, for the reasons `GenerateStop` lists. `directory_configuration_escapes` is a
  session where one does.
-/

namespace HiveDdl

theorem writeFile_eq_ok {ws after : Workspace} {p : PathName} {bytes : ByteArray} :
    ws.writeFile p bytes = .ok after ↔
      ∃ place, ws.openFile p = .ok place ∧ after = ws.setFile place bytes := by
  simp only [Workspace.writeFile, map_eq_ok]
  constructor
  · rintro ⟨place, hplace, rfl⟩
    exact ⟨place, hplace, rfl⟩
  · rintro ⟨place, hplace, rfl⟩
    exact ⟨place, hplace, rfl⟩

theorem fileAt_setFile (ws : Workspace) (place q : List String) (bytes : ByteArray) :
    (ws.setFile place bytes).fileAt q = if q = place then some bytes else ws.fileAt q := by
  simp only [Workspace.fileAt, Workspace.setFile, List.find?_append, List.find?_filter]
  split
  · subst q
    have hnone : ws.files.find? (fun f => decide ((f.1 != place) = true ∧ (f.1 == place) = true)) =
        none := by
      simp [List.find?_eq_none]
    rw [hnone]
    simp
  · rename_i hne
    have hsame :
        (fun f : List String × ByteArray => decide ((f.1 != place) = true ∧ (f.1 == q) = true)) =
          fun f => f.1 == q := by
      funext f
      by_cases hf : f.1 = q
      · simp [hf, hne]
      · simp [hf]
    rw [hsame]
    simp [Ne.symm hne]

/-- The text a run reads from its input path: the file's bytes decoded as UTF-8, with line ends
made uniform. -/
def InputText (ws : Workspace) (input text : String) : Prop :=
  ∃ bytes raw, ws.lookup (PathName.parse input) = .file bytes ∧
    Text.decodeUtf8 bytes.data = .ok raw ∧ text = String.ofList (universalNewlines raw.toList)

theorem runGeneration_cases (ws : Workspace) (input output : String) (s : Settings)
    (depth : Nat) :
    (∃ m, (runGeneration ws input output s depth).2 = .failed m) ∨
    (∃ e, (runGeneration ws input output s depth).2 = .stopped e ∧ e.isReported = false ∧
      ∃ text, InputText ws input text ∧ generate text s (depth + 1) = .error e) ∨
    ∃ ddl place, (∃ text, InputText ws input text ∧ generate text s (depth + 1) = .ok ddl) ∧
      ws.openFile (PathName.parse output) = .ok place ∧
      ((Text.encodeProblem? ddl.text = none ∧
        (runGeneration ws input output s depth).2 = .written ddl (ws.setFile place ddl.text.toUTF8)) ∨
       ∃ m, Text.encodeProblem? ddl.text = some m ∧
        (runGeneration ws input output s depth).2 = .unencodable m (ws.setFile place ByteArray.empty)) := by
  unfold runGeneration
  dsimp only
  split
  · exact .inl ⟨_, rfl⟩
  · exact .inl ⟨_, rfl⟩
  rename_i bytes hfile
  split
  · exact .inl ⟨_, rfl⟩
  rename_i raw hraw
  have hinput : InputText ws input (String.ofList (universalNewlines raw.toList)) :=
    ⟨bytes, raw, hfile, hraw, rfl⟩
  split
  · rename_i e hgen
    by_cases hreported : e.isReported = true
    · exact .inl ⟨e.message, by simp [hreported]⟩
    · exact .inr (.inl ⟨e, by simp [hreported], by simpa using hreported, _, hinput, hgen⟩)
  rename_i ddl hgen
  split
  · exact .inl ⟨_, rfl⟩
  rename_i place hplace
  refine .inr (.inr ⟨ddl, place, ⟨_, hinput, hgen⟩, hplace, ?_⟩)
  split
  · rename_i m hm
    exact .inr ⟨m, hm, rfl⟩
  · rename_i hm
    exact .inl ⟨hm, rfl⟩

namespace Cli

/-- What a `generate` run as a call at `depth` reads: the settings its configuration file and
options give, and the text of its input path. -/
def GenerateInput (ws : Workspace) (values : List (String × String)) (depth : Nat)
    (text : String) (s : Settings) : Prop :=
  generateSettings ws values depth = .ok s ∧ InputText ws ((values.lookup "input").getD "") text

/-- The statements a `generate` run generated from what it reads and wrote: the file its output
path opens holds them, every other file is as it was, and they were printed. -/
def WroteStatements (ws : Workspace) (values : List (String × String)) (depth : Nat)
    (after : Workspace) (out : String) : Prop :=
  ∃ text s ddl place, GenerateInput ws values depth text s ∧
    generate text s (depth + 2) = .ok ddl ∧
    ws.openFile (PathName.parse ((values.lookup "output").getD "")) = .ok place ∧
    after = ws.setFile place ddl.text.toUTF8 ∧ out = ddl.text ++ "\n"

/-- The template written where nothing was: the file the output path opens holds it, every other
file is as it was. -/
def WroteTemplate (ws after : Workspace) (output : String) : Prop :=
  (∃ why, ws.lookup (PathName.parse output) = .absent why) ∧
    ∃ place, ws.openFile (PathName.parse output) = .ok place ∧
      after = ws.setFile place configTemplate.toUTF8

theorem runGenerateConfig_cases (ws : Workspace) (root : String) (values : List (String × String)) :
    ∃ code out err after, runGenerateConfig ws root values = .exited code out err after ∧
      (code = 1 ∧ after = ws ∨
        code = 0 ∧ WroteTemplate ws after ((values.lookup "output").getD defaultConfigPath)) := by
  unfold runGenerateConfig
  dsimp only
  split
  · rename_i why hwhy
    cases hwrite : ws.writeFile (PathName.parse ((values.lookup "output").getD defaultConfigPath))
        configTemplate.toUTF8 with
    | ok after =>
      obtain ⟨place, hplace, rfl⟩ := writeFile_eq_ok.mp hwrite
      exact ⟨0, _, _, _, rfl, .inr ⟨rfl, ⟨why, hwhy⟩, place, hplace, rfl⟩⟩
    | error e => exact ⟨1, _, _, _, rfl, .inl ⟨rfl, rfl⟩⟩
  · exact ⟨1, _, _, _, rfl, .inl ⟨rfl, rfl⟩⟩

theorem generateSettings_eq_error_none {ws : Workspace} {values : List (String × String)}
    {depth : Nat} {s : Stop} (h : generateSettings ws values depth = .error (none, s)) :
    ∃ path kind m, values.lookup "config" = some path ∧
      Configuration.load ws path (depth + 1) = .error (.failure kind m) ∧
      s = .configuration kind m := by
  unfold generateSettings at h
  -- only the base settings can fail; the options put over them cannot
  cases hconfig : values.lookup "config" with
  | none => simp [hconfig, pure, Except.pure, bind, Except.bind] at h
  | some path =>
    by_cases hempty : path.isEmpty = true
    · simp [hconfig, hempty, pure, Except.pure, bind, Except.bind] at h
    cases hload : Configuration.load ws path (depth + 1) with
    | ok c => simp [hconfig, hempty, hload, pure, Except.pure, bind, Except.bind] at h
    | error e =>
      cases e with
      | invalid m =>
        simp [hconfig, hempty, hload, throw, throwThe, MonadExceptOf.throw, bind, Except.bind] at h
      | failure kind m =>
        simp [hconfig, hempty, hload, throw, throwThe, MonadExceptOf.throw, bind, Except.bind] at h
        exact ⟨path, kind, m, rfl, hload, h.symm⟩

/-- Why a `generate` run as a call at `depth` stops without an exit code: its configuration
file fails outside the checks (it is a directory, or holds a value YAML cannot build); its
generation from what it reads fails with an error runs do not report; or the statements it
generates hold a lone surrogate, and the file its output path opens is left empty. -/
def GenerateStop (ws : Workspace) (values : List (String × String)) (depth : Nat) :
    Stop → Prop
  | .configuration kind m => ∃ path, values.lookup "config" = some path ∧
      Configuration.load ws path (depth + 1) = .error (.failure kind m)
  | .generation e => e.isReported = false ∧ ∃ text s, GenerateInput ws values depth text s ∧
      generate text s (depth + 2) = .error e
  | .unencodable m after => ∃ text s ddl place, GenerateInput ws values depth text s ∧
      generate text s (depth + 2) = .ok ddl ∧ Text.encodeProblem? ddl.text = some m ∧
      ws.openFile (PathName.parse ((values.lookup "output").getD "")) = .ok place ∧
      after = ws.setFile place ByteArray.empty

/-- How a `generate` run ends: failing with exit code 1 and every file as it was, stopped for a
reason of `GenerateStop`, or with exit code 0 having written and printed its statements. -/
theorem runGenerate_cases (ws : Workspace) (verbose : Bool) (values : List (String × String))
    (depth : Nat) :
    (∃ err, runGenerate ws verbose values depth = .exited 1 "" err ws) ∨
    (∃ s, runGenerate ws verbose values depth = .stopped s ∧ GenerateStop ws values depth s) ∨
    ∃ out err after, runGenerate ws verbose values depth = .exited 0 out err after ∧
      WroteStatements ws values depth after out := by
  unfold runGenerate
  cases hs : generateSettings ws values depth with
  | error p =>
    obtain ⟨_ | message, stop⟩ := p
    · obtain ⟨path, kind, m, hpath, hload, rfl⟩ := generateSettings_eq_error_none hs
      exact .inr (.inl ⟨_, rfl, path, hpath, hload⟩)
    · exact .inl ⟨_, rfl⟩
  | ok settings =>
    dsimp only
    have hcases := runGeneration_cases ws ((values.lookup "input").getD "")
      ((values.lookup "output").getD "") settings (depth + 1)
    generalize runGeneration ws ((values.lookup "input").getD "")
      ((values.lookup "output").getD "") settings (depth + 1) = result at hcases ⊢
    obtain ⟨notes, outcome⟩ := result
    dsimp only at hcases ⊢
    rcases hcases with ⟨m, rfl⟩ | ⟨e, rfl, hreported, text, hinput, hgen⟩ |
      ⟨ddl, place, ⟨text, hinput, hgen⟩, hplace, ⟨-, rfl⟩ | ⟨m, hm, rfl⟩⟩
    · exact .inl ⟨_, rfl⟩
    · exact .inr (.inl ⟨_, rfl, hreported, text, settings, ⟨hs, hinput⟩, hgen⟩)
    · exact .inr (.inr ⟨_, _, _, rfl, text, settings, ddl, place, ⟨hs, hinput⟩, hgen, hplace,
        rfl, rfl⟩)
    · exact .inr (.inl ⟨_, rfl, text, settings, ddl, place, ⟨hs, hinput⟩, hgen, hm, hplace, rfl⟩)

/-! ## Sessions -/

/-- A session's end that shows help, the version or a refusal of its arguments: exit code 0 or
2, every file as it was. -/
def LeavesAsIs (ws : Workspace) (o : Outcome) : Prop :=
  ∃ code out err, o = .exited code out err ws ∧ (code = 0 ∨ code = 2)

theorem leavesAsIs_refuse (ws : Workspace) (c : Option Command) (p : UsageProblem) (err : String) :
    LeavesAsIs ws (refuse ws c p err) :=
  ⟨2, _, _, rfl, .inr rfl⟩

theorem readGroup_eq_error {ws : Workspace} {args : List String} {o : Outcome}
    (h : readGroup ws args = .error o) : LeavesAsIs ws o := by
  unfold readGroup at h
  split at h
  · cases h
    exact leavesAsIs_refuse ..
  split at h
  · cases h
    exact leavesAsIs_refuse ..
  · split_ifs at h <;> cases h <;> exact ⟨0, _, _, rfl, .inl rfl⟩
  · cases h

theorem Command.ofName?_eq_some {name : String} {c : Command} (h : Command.ofName? name = some c) :
    name = c.name := by
  unfold Command.ofName? at h
  split_ifs at h with hgenerate hconfig <;> cases h
  · exact hgenerate
  · exact hconfig

/-- The command a session's arguments run, with its checked option values: the group's options
read, the command named, its own options read and checked, and no argument left over. -/
def Invokes (ws : Workspace) (args : List String) (c : Command)
    (values : List (String × String)) : Prop :=
  ∃ verbose rest r, readGroup ws args = .ok (verbose, c.name :: rest) ∧
    readArguments c.options true rest = .ok r ∧ checkOptions c.options r = .ok values ∧
    r.rest = []

/-- How a session ends: as it began, showing help, the version or a refusal; or running the
command its arguments name with the option values they give. -/
theorem runSession_cases (args : List String) (ws : Workspace) (root : String) (depth : Nat) :
    LeavesAsIs ws (runSession args ws root depth) ∨
    (∃ values, Invokes ws args .generate values ∧
      ∃ verbose, runSession args ws root depth =
        runGenerate ws verbose values (depth + commandCalls)) ∨
    ∃ values, Invokes ws args .generateConfig values ∧
      runSession args ws root depth = runGenerateConfig ws root values := by
  unfold runSession
  split_ifs
  · exact .inl ⟨2, _, _, rfl, .inr rfl⟩
  split
  · exact .inl (readGroup_eq_error ‹_›)
  · exact .inl (leavesAsIs_refuse ..)
  rename_i verbose name rest hgroup
  split
  · rename_i c hc
    obtain rfl := Command.ofName?_eq_some hc
    unfold runCommand
    split
    · exact .inl (leavesAsIs_refuse ..)
    rename_i r hr
    split
    · exact .inl (leavesAsIs_refuse ..)
    · exact .inl ⟨0, _, _, rfl, .inl rfl⟩
    rename_i values hvalues
    split_ifs with hrest
    · exact .inl (leavesAsIs_refuse ..)
    have hnil : r.rest = [] := by simpa using hrest
    cases c with
    | generate =>
      exact .inr (.inl ⟨values, ⟨verbose, rest, r, hgroup, hr, hvalues, hnil⟩, verbose, rfl⟩)
    | generateConfig => exact .inr (.inr ⟨values, ⟨verbose, rest, r, hgroup, hr, hvalues, hnil⟩, rfl⟩)
  · split_ifs
    · split
      · exact .inl (readGroup_eq_error ‹_›)
      · exact .inl (leavesAsIs_refuse ..)
    · exact .inl (leavesAsIs_refuse ..)

theorem runSession_ends (args : List String) (ws : Workspace) (root : String) (depth : Nat) :
    (∃ code out err, runSession args ws root depth = .exited code out err ws ∧
      (code = 0 ∨ code = 1 ∨ code = 2)) ∨
    (∃ values out err after, Invokes ws args .generate values ∧
      runSession args ws root depth = .exited 0 out err after ∧
      WroteStatements ws values (depth + commandCalls) after out) ∨
    (∃ values out err after, Invokes ws args .generateConfig values ∧
      runSession args ws root depth = .exited 0 out err after ∧
      WroteTemplate ws after ((values.lookup "output").getD defaultConfigPath)) ∨
    ∃ values s, Invokes ws args .generate values ∧ runSession args ws root depth = .stopped s ∧
      GenerateStop ws values (depth + commandCalls) s := by
  rcases runSession_cases args ws root depth with
    ⟨code, out, err, hrun, hcode⟩ | ⟨values, hinvokes, verbose, hrun⟩ | ⟨values, hinvokes, hrun⟩
  · exact .inl ⟨code, out, err, hrun, by omega⟩
  · rw [hrun]
    rcases runGenerate_cases ws verbose values (depth + commandCalls) with
      ⟨err, hfail⟩ | ⟨stop, hstop, hwhy⟩ | ⟨out, err, after, hwrote, hstatements⟩
    · exact .inl ⟨1, "", err, hfail, by omega⟩
    · exact .inr (.inr (.inr ⟨values, stop, hinvokes, hstop, hwhy⟩))
    · exact .inr (.inl ⟨values, out, err, after, hinvokes, hwrote, hstatements⟩)
  · rw [hrun]
    obtain ⟨code, out, err, after, hexit, ⟨rfl, rfl⟩ | ⟨rfl, htemplate⟩⟩ :=
      runGenerateConfig_cases ws root values
    · exact .inl ⟨1, out, err, hexit, by omega⟩
    · exact .inr (.inr (.inl ⟨values, out, err, after, hinvokes, hexit, htemplate⟩))

/-! ## What a session leaves -/

theorem runSession_eq_exited {args : List String} {ws : Workspace} {root : String} {depth : Nat}
    {code : Nat} {out err : String} {after : Workspace}
    (h : runSession args ws root depth = .exited code out err after) :
    (after = ws ∧ (code = 0 ∨ code = 1 ∨ code = 2)) ∨
    (code = 0 ∧ ∃ values, Invokes ws args .generate values ∧
      WroteStatements ws values (depth + commandCalls) after out) ∨
    (code = 0 ∧ ∃ values, Invokes ws args .generateConfig values ∧
      WroteTemplate ws after ((values.lookup "output").getD defaultConfigPath)) := by
  rcases runSession_ends args ws root depth with
    ⟨c, o, e, hrun, hcode⟩ | ⟨values, o, e, a, hinvokes, hrun, hwrote⟩ |
    ⟨values, o, e, a, hinvokes, hrun, hwrote⟩ | ⟨values, stop, -, hrun, -⟩ <;>
    rw [hrun] at h <;> cases h
  · exact .inl ⟨rfl, hcode⟩
  · exact .inr (.inl ⟨rfl, values, hinvokes, hwrote⟩)
  · exact .inr (.inr ⟨rfl, values, hinvokes, hwrote⟩)

theorem runSession_eq_stopped {args : List String} {ws : Workspace} {root : String} {depth : Nat}
    {s : Stop} (h : runSession args ws root depth = .stopped s) :
    ∃ values, Invokes ws args .generate values ∧
      GenerateStop ws values (depth + commandCalls) s := by
  rcases runSession_ends args ws root depth with
    ⟨c, o, e, hrun, -⟩ | ⟨values, o, e, a, -, hrun, -⟩ |
    ⟨values, o, e, a, -, hrun, -⟩ | ⟨values, stop, hinvokes, hrun, hwhy⟩ <;>
    rw [hrun] at h <;> cases h
  exact ⟨values, hinvokes, hwhy⟩

/-- A session that ends with a non-zero exit code leaves every file as it was. One that ends
with exit code 0 leaves every file as it was, or ran `generate` and wrote the statements it
printed to the file its output path opens, or ran `generate-config` and wrote the template to its
output path, where nothing was; every other file is as it was. One that stops because its
statements hold a lone surrogate has opened the file its output path names and left it empty. -/
theorem session_leaves_files (args : List String) (ws : Workspace) (root : String)
    (depth : Nat) :
    (∀ code out err after, runSession args ws root depth = .exited code out err after →
      (code ≠ 0 → after = ws) ∧
      (code = 0 → after = ws ∨
        (∃ values, Invokes ws args .generate values ∧
          WroteStatements ws values (depth + commandCalls) after out) ∨
        ∃ values, Invokes ws args .generateConfig values ∧
          WroteTemplate ws after ((values.lookup "output").getD defaultConfigPath))) ∧
    ∀ m after, runSession args ws root depth = .stopped (.unencodable m after) →
      ∃ values, Invokes ws args .generate values ∧ ∃ place,
        ws.openFile (PathName.parse ((values.lookup "output").getD "")) = .ok place ∧
        after = ws.setFile place ByteArray.empty := by
  refine ⟨fun code out err after hexit => ?_, fun m after hstop => ?_⟩
  · rcases runSession_eq_exited hexit with ⟨rfl, -⟩ | ⟨rfl, hstatements⟩ | ⟨rfl, htemplate⟩
    · exact ⟨fun _ => rfl, fun _ => .inl rfl⟩
    · exact ⟨fun h => absurd rfl h, fun _ => .inr (.inl hstatements)⟩
    · exact ⟨fun h => absurd rfl h, fun _ => .inr (.inr htemplate)⟩
  · -- of the stops, only an unencodable text leaves a workspace: its output file emptied
    obtain ⟨values, hinvokes, -, -, ddl, place, -, -, -, hplace, rfl⟩ := runSession_eq_stopped hstop
    exact ⟨values, hinvokes, place, hplace, rfl⟩

/-- Whatever a session ends with, it has changed at most one file: every file but the one at
some place is as it was. -/
theorem runSession_changes_one_file (args : List String) (ws : Workspace) (root : String)
    (depth : Nat) :
    (∀ code out err after, runSession args ws root depth = .exited code out err after →
      ∃ place, ∀ q, q ≠ place → after.fileAt q = ws.fileAt q) ∧
    ∀ m after, runSession args ws root depth = .stopped (.unencodable m after) →
      ∃ place, ∀ q, q ≠ place → after.fileAt q = ws.fileAt q := by
  have hset : ∀ place bytes, ∀ q, q ≠ place → (ws.setFile place bytes).fileAt q = ws.fileAt q :=
    fun place bytes q hq => by rw [fileAt_setFile, if_neg hq]
  refine ⟨fun code out err after hexit => ?_, fun m after hstop => ?_⟩
  · rcases runSession_eq_exited hexit with ⟨rfl, -⟩ | ⟨-, values, -, hstatements⟩ |
      ⟨-, values, -, htemplate⟩
    · exact ⟨[], fun _ _ => rfl⟩
    · obtain ⟨-, -, ddl, place, -, -, -, rfl, -⟩ := hstatements
      exact ⟨place, hset place _⟩
    · obtain ⟨-, place, -, rfl⟩ := htemplate
      exact ⟨place, hset place _⟩
  · obtain ⟨values, -, -, -, ddl, place, -, -, -, -, rfl⟩ := runSession_eq_stopped hstop
    exact ⟨place, hset place _⟩

/-- Statements that hold a lone surrogate stop `generate` after it opened its output file: an
output of nineteen bytes is left with none. -/
theorem surrogate_statements_empty_output :
    (Workspace.fileAt ⟨[(["in.json"], "\x7b\"KeyedResponse\": \x7b\"Response\": \x7b\"\\ud800\": 1\x7d\x7d\x7d".toUTF8),
        (["out.hql"], "previous statements".toUTF8)], []⟩ ["out.hql"]).map ByteArray.size = some 19 ∧
    (match runSession ["generate", "--input", "in.json", "--output", "out.hql"]
        ⟨[(["in.json"], "\x7b\"KeyedResponse\": \x7b\"Response\": \x7b\"\\ud800\": 1\x7d\x7d\x7d".toUTF8),
          (["out.hql"], "previous statements".toUTF8)], []⟩ "" 0 with
      | .stopped (.unencodable _ after) => (after.fileAt ["out.hql"]).map ByteArray.size
      | _ => none) = some 0 := by
  decide +kernel

/-! ## Exit codes and escaping errors -/

/-- A session ends with exit code 0, 1 or 2, or lets an error escape; an error escapes only from
a `generate` run whose arguments were read, for a reason `GenerateStop` lists: never from reading
the arguments, showing help or the version, or `generate-config`. -/
theorem session_escapes_only_from_generate (args : List String) (ws : Workspace) (root : String)
    (depth : Nat) :
    (∀ code out err after, runSession args ws root depth = .exited code out err after →
      code = 0 ∨ code = 1 ∨ code = 2) ∧
    ∀ s, runSession args ws root depth = .stopped s →
      ∃ values, Invokes ws args .generate values ∧
      GenerateStop ws values (depth + commandCalls) s := by
  refine ⟨fun code out err after hexit => ?_, fun s hstop => runSession_eq_stopped hstop⟩
  rcases runSession_eq_exited hexit with ⟨-, hcode⟩ | ⟨rfl, -⟩ | ⟨rfl, -⟩
  · exact hcode
  · exact .inl rfl
  · exact .inl rfl

/-- A configuration path that names a directory lets the error of reading it escape. -/
theorem directory_configuration_escapes :
    (match runSession ["generate", "--input", "in.json", "--output", "out.hql", "--config", "."]
        Workspace.empty "" 0 with
      | .stopped (.configuration kind m) => some (kind, m)
      | _ => none) = some ("IsADirectoryError", "[Errno 21] Is a directory: '.'") := by
  decide +kernel

end Cli

end HiveDdl
