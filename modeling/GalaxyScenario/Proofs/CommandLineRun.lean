import GalaxyScenario.CommandLine.Surroundings
import GalaxyScenario.Proofs.Arguments
import GalaxyScenario.Proofs.ScriptLines
import GalaxyScenario.Proofs.WrittenFile

/-! A run from its arguments to how it ends and to the files it leaves. Nothing is put out or
written before the map and the configuration are there, a check never writes, and a compilation
puts the script in one place only. -/
namespace GalaxyScenario

section Documents

theorem mapError_eq_ok_iff {ε ε' α : Type} {x : Except ε α} {f : ε → ε'} {a : α} :
    x.mapError f = .ok a ↔ x = .ok a := by
  cases x <;> simp [Except.mapError]

theorem map_eq_ok_iff {ε α β : Type} {x : Except ε α} {f : α → β} {b : β} :
    x.map f = .ok b ↔ ∃ a, x = .ok a ∧ b = f a := by
  cases x <;> simp [Except.map, eq_comm]

theorem loadDocument_eq_ok_iff {α : Type} {decode : Json → Option α} {path : String}
    {text : Except FileFailure String} {document : α} :
    loadDocument decode path text = .ok document ↔
      ∃ t, text = .ok t ∧ readDocument decode t = .ok document := by
  cases text <;> simp [loadDocument]

end Documents

theorem Compilation.script_ne_empty (c : Compilation) : c.script ≠ "" := by
  intro h
  rw [Compilation.script, Scenario.script, Scenario.sections, String.intercalate_cons_cons] at h
  have hlist := congrArg String.toList h
  simp [Script.opening] at hlist

namespace CommandLine

namespace Surroundings

/-- The text of the map, and what surrounds the run once it is read. -/
def mapText (s : Surroundings) (o : Options) : Except FileFailure String × Surroundings :=
  if o.map = "-" then s.takeInput else s.read o.map

/-- The configuration without the values from the command line. -/
def BaseConfig (s : Surroundings) (o : Options) (base : Config) : Prop :=
  match o.config with
  | none => base = {}
  | some path => ∃ text, ((s.mapText o).2.read path).1 = .ok text ∧ Config.ofText text = .ok base

/-- A run has its map and its configuration: both can be read, and the values from the command line
replace those of the file or the defaults. -/
structure Provides (s : Surroundings) (o : Options) (m : GalaxyMap) (config : Config) : Prop where
  map : ∃ text, (s.mapText o).1 = .ok text ∧ GalaxyMap.ofText text = .ok m
  config : ∃ base, s.BaseConfig o base ∧ config = { base with
    name := o.name.getD base.name
    priority := o.priority.getD base.priority
    fallbackHomes := o.fallbackHomes || base.fallbackHomes }

variable {s : Surroundings} {o : Options} {m : GalaxyMap} {config : Config}

theorem read_of_openToRead {path : String} {number : Nat} {content : ByteArray}
    (h : s.files.openToRead path = .ok (.file number))
    (hcontent : s.files.content? number = some content) :
    s.read path = (decodeText content, s) := by
  rw [read, h]
  dsimp only
  rw [hcontent]
  rfl

theorem inputs_eq (s : Surroundings) (o : Options) : s.inputs o =
    ⟨(s.mapText o).1, o.config.map fun path => ((s.mapText o).2.read path).1⟩ := by
  simp only [inputs, mapText, Options.readsStdin, beq_iff_eq]

theorem loadMap_eq_ok_iff {text : Except FileFailure String} :
    o.loadMap text = .ok m ↔ ∃ t, text = .ok t ∧ GalaxyMap.ofText t = .ok m := by
  unfold Options.loadMap
  split
  · simp
  · simp [mapError_eq_ok_iff]
  · rw [mapError_eq_ok_iff]
    exact loadDocument_eq_ok_iff

theorem loadConfig_eq_ok_iff :
    o.loadConfig (s.inputs o).config = .ok config ↔
      ∃ base, s.BaseConfig o base ∧ config = o.applyTo base := by
  rw [inputs_eq]
  unfold Options.loadConfig BaseConfig
  cases o.config with
  | none => simp [eq_comm]
  | some path =>
    rw [Option.map_some]
    dsimp only
    rw [mapError_eq_ok_iff, map_eq_ok_iff]
    simp only [Config.load, loadDocument_eq_ok_iff, Config.ofText]

theorem provides_iff : s.Provides o m config ↔
    o.loadMap (s.inputs o).map = .ok m ∧ o.loadConfig (s.inputs o).config = .ok config := by
  rw [loadMap_eq_ok_iff, loadConfig_eq_ok_iff, inputs_eq]
  exact ⟨fun h => ⟨h.map, h.config⟩, fun h => ⟨h.1, h.2⟩⟩

end Surroundings

def resultLine (stars errors warnings : Nat) : String :=
  "=== RESULT: " ++ toString stars ++ " stars, " ++ toString errors ++ " errors, " ++
    toString warnings ++ " warnings ==="

theorem checkLine_eq (stars : Nat) (findings : List Finding) : checkLine stars findings =
    resultLine stars (findings.countP (·.isError))
      (findings.length - findings.countP (·.isError)) ++ "\n" := by
  have hend : " warnings ===\n" = " warnings ===" ++ "\n" := rfl
  exact (congrArg (_ ++ ·) hend).trans String.append_assoc.symm

theorem notMem_append {c : Char} {a b : String} (ha : c ∉ a.toList) (hb : c ∉ b.toList) :
    c ∉ (a ++ b).toList := by
  rw [String.toList_append, List.mem_append, not_or]
  exact ⟨ha, hb⟩

theorem newline_notMem_resultLine (stars errors warnings : Nat) :
    '\n' ∉ (resultLine stars errors warnings).toList := by
  have hnumber : ∀ n : Nat, '\n' ∉ (toString n).toList := by
    intro n
    rw [Nat.toString_eq_repr, Nat.toList_repr]
    exact Script.newline_notMem_toDigits n
  unfold resultLine
  refine notMem_append (notMem_append (notMem_append (notMem_append (notMem_append
    (notMem_append ?_ (hnumber stars)) ?_) (hnumber errors)) ?_) (hnumber warnings)) ?_
  all_goals decide

/-- What is said of a check: one line that counts the errors and the other findings. A finding that
is an error makes the run fail. -/
structure ReportsCheck (m : GalaxyMap) (config : Config) (outcome : Outcome) : Prop where
  line : ∃ errors warnings, outcome.stdout = resultLine m.stars.length errors warnings ++ "\n" ∧
    '\n' ∉ (resultLine m.stars.length errors warnings).toList ∧
    errors = (m.findings config).countP (·.isError) ∧
    errors + warnings = (m.findings config).length
  code : outcome.exitCode = if ∃ f ∈ m.findings config, f.isError = true then 1 else 0

theorem reportsCheck_checkMap (o : Options) (m : GalaxyMap) (config : Config) :
    ReportsCheck m config (o.checkMap m config) where
  line := by
    have hle := (m.findings config).countP_le_length (p := (·.isError))
    exact ⟨_, _, checkLine_eq _ _, newline_notMem_resultLine _ _ _, rfl, by omega⟩
  code := by simp [Options.checkMap, hasErrors]

/-- What comes of writing a script to a path. A file holds it afterwards, as far as there is room,
and a device may take it. It is on the standard output only if the path leads there. -/
def WritesScript (before : FileSystem) (path script : String) (outcome : Outcome)
    (after : FileSystem) : Prop :=
  match before.openToWrite path with
  | .ok (.file number, _) =>
    outcome.stdout = "" ∧ before.ChangesOnly after number ∧
      after.resolve .read path = .known number ∧
      match before.shortage number script.toUTF8.size with
      | none => outcome.exitCode = 0 ∧ after.content? number = some script.toUTF8
      | some (room, _) => outcome.exitCode = 1 ∧
          after.content? number = some (script.toUTF8.extract 0 room)
  | .ok (.device device, _) =>
    outcome.exitCode = 0 ∧ outcome.stdout = (if device = .output then script else "") ∧
      after = before
  | .error _ => outcome.exitCode = 1 ∧ outcome.stdout = "" ∧ after = before

theorem writesScript_perform {o : Options} {path : String} (m : GalaxyMap) (config : Config)
    (files : FileSystem) (houtput : o.output = some path) :
    WritesScript files path (m.compile config).script ((o.compileMap m config).perform files).1
      ((o.compileMap m config).perform files).2 := by
  unfold Options.compileMap
  rw [houtput]
  dsimp only
  generalize (m.compile config).script = script
  unfold Action.perform WritesScript
  dsimp only
  cases hopen : files.openToWrite path with
  | error failure =>
    have hwrite : files.write path script.toUTF8 = (.error failure, files) := by
      rw [FileSystem.write, hopen]
    rw [hwrite]
    exact ⟨rfl, rfl, rfl⟩
  | ok result =>
    obtain ⟨handle, opened⟩ := result
    cases handle with
    | device device =>
      obtain rfl : opened = files := by
        rcases FileSystem.openToWrite_cases hopen with ⟨_, hhandle, -⟩ | ⟨-, hsame⟩
        · cases hhandle
        · exact hsame
      have hwrite : opened.write path script.toUTF8 = (.ok (.device device), opened) := by
        rw [FileSystem.write, hopen]
      rw [hwrite]
      simp [Outcome.after, Handle.reaching]
    | file number =>
      obtain ⟨honly, hpath, hcontent⟩ :=
        FileSystem.write_of_openToWrite hopen script.toUTF8
      generalize files.write path script.toUTF8 = written at honly hpath hcontent ⊢
      obtain ⟨result, after⟩ := written
      cases hshortage : files.shortage number script.toUTF8.size with
      | none =>
        rw [hshortage] at hcontent
        obtain ⟨rfl, hcontent⟩ := hcontent
        refine ⟨rfl, honly, hpath, ?_⟩
        rw [hshortage]
        exact ⟨rfl, hcontent⟩
      | some most =>
        rw [hshortage] at hcontent
        obtain ⟨rfl, hcontent⟩ := hcontent
        refine ⟨rfl, honly, hpath, ?_⟩
        rw [hshortage]
        exact ⟨rfl, hcontent⟩

section Execute

variable {s : Surroundings} {o : Options} {m : GalaxyMap} {config : Config}

theorem execute_of_provides (h : s.Provides o m config) : o.execute (s.inputs o) =
    if o.check then .finish (o.checkMap m config) else o.compileMap m config := by
  obtain ⟨hmap, hconfig⟩ := Surroundings.provides_iff.mp h
  rw [Options.execute, hmap]
  dsimp only
  rw [hconfig]

theorem execute_of_not_provides (h : ¬ ∃ m config, s.Provides o m config) :
    ∃ reason, o.execute (s.inputs o) = .finish (Options.failure reason) := by
  unfold Options.execute
  cases hmap : o.loadMap (s.inputs o).map with
  | error reason => exact ⟨reason, rfl⟩
  | ok m =>
    cases hconfig : o.loadConfig (s.inputs o).config with
    | error reason => exact ⟨reason, rfl⟩
    | ok config => exact absurd ⟨m, config, Surroundings.provides_iff.mpr ⟨hmap, hconfig⟩⟩ h

end Execute

/-- The options of a run are what its arguments say. A run without a map or a configuration fails
and leaves everything as it is. A check reports and changes no file, also where a file for the
script is named. Any other run puts the script where it was asked to, whatever the findings. -/
theorem run_spec {arguments : List String} {o : Options}
    (h : Invocation.ofArguments arguments = .run o) (s : Surroundings) :
    let outcome := (run arguments s).1
    let after := (run arguments s).2
    (∃ given, Says arguments given ∧ o.SetBy given) ∧
      ((¬ ∃ m config, s.Provides o m config) →
        outcome.exitCode ≠ 0 ∧ outcome.stdout = "" ∧ after = s.files) ∧
      ∀ m config, s.Provides o m config →
        (o.check = true → ReportsCheck m config outcome ∧ after = s.files) ∧
        (o.check = false → match o.output with
          | none => outcome.exitCode = 0 ∧ outcome.stdout = (m.compile config).script ∧
              after = s.files
          | some path => WritesScript s.files path (m.compile config).script outcome after) := by
  have hrun : run arguments s = (o.execute (s.inputs o)).perform s.files := by rw [run, h]
  rw [hrun]
  refine ⟨exists_says_of_ofArguments h, fun hnone => ?_, fun m config hprovides => ?_⟩
  · obtain ⟨reason, hfailure⟩ := execute_of_not_provides hnone
    rw [hfailure]
    exact ⟨Nat.one_ne_zero, rfl, rfl⟩
  · rw [execute_of_provides hprovides]
    refine ⟨fun hcheck => ?_, fun hcheck => ?_⟩
    · rw [hcheck, if_pos rfl]
      exact ⟨reportsCheck_checkMap o m config, rfl⟩
    · rw [hcheck, if_neg Bool.false_ne_true]
      cases houtput : o.output with
      | none =>
        rw [Options.compileMap, houtput]
        exact ⟨rfl, rfl, rfl⟩
      | some path => exact writesScript_perform m config s.files houtput

theorem exists_map_of_empty_object :
    ∃ m, decodeText "{}".toUTF8 = .ok "{}" ∧ GalaxyMap.ofText "{}" = .ok m := by
  have htext : decodeText "{}".toUTF8 = .ok "{}" := by decide +kernel
  have hparses : (GalaxyMap.ofText "{}").isOk = true := by decide +kernel
  cases h : GalaxyMap.ofText "{}" with
  | ok m => exact ⟨m, htext, rfl⟩
  | error e =>
    rw [h] at hparses
    cases hparses

/-- The name and the priority given by arguments replace those of the file with the configuration,
and its other values stay. The path of the script goes through two links to a file that is made;
with `--check` nothing is. -/
theorem run_namedFiles :
    let configText := "\x7b\"name\":\"Old\",\"priority\":3,\"shapes\":[\"ring\"]\x7d"
    let files : FileSystem :=
      { nodes := #[.directory 0
            [("map.json", 1), ("config.json", 2), ("latest.txt", 3), ("newest.txt", 4)],
          .file "{}".toUTF8, .file configText.toUTF8, .link "newest.txt", .link "./out.txt"]
        workingDirectory := 0 }
    let s : Surroundings := ⟨files, .empty⟩
    let arguments := ["map.json", "--config", "config.json", "--name", "New", "--priority=7", "-vo",
      "latest.txt"]
    let o : Options :=
      { map := "map.json", output := some "latest.txt", config := some "config.json"
        name := some "New", priority := some 7, verbose := true }
    Invocation.ofArguments arguments = .run o ∧
      Invocation.ofArguments ("--check" :: arguments) = .run { o with check := true } ∧
      ∃ m config, s.Provides o m config ∧
        (config.name, config.priority, config.shapes) = ("New", 7, ["ring"]) ∧
        (run arguments s).1.exitCode = 0 ∧ (run arguments s).1.stdout = "" ∧
        (run arguments s).2.resolve .read "latest.txt" = .known 5 ∧
        (run arguments s).2.content? 5 = some (m.compile config).script.toUTF8 ∧
        (run arguments s).2.content? 2 = some configText.toUTF8 ∧
        ReportsCheck m config (run ("--check" :: arguments) s).1 ∧
        (run ("--check" :: arguments) s).2 = files := by
  intro configText files s arguments o
  have hrun : Invocation.ofArguments arguments = .run o := by decide +kernel
  have hcheck :
      Invocation.ofArguments ("--check" :: arguments) = .run { o with check := true } := by
    decide +kernel
  obtain ⟨m, hdecoded, hm⟩ := exists_map_of_empty_object
  have hconfigText : decodeText configText.toUTF8 = .ok configText := by decide +kernel
  have hshapes : (Config.ofText configText).toOption.map (·.shapes) = some ["ring"] := by
    decide +kernel
  obtain ⟨base, hbase, hring⟩ : ∃ base, Config.ofText configText = .ok base ∧
      base.shapes = ["ring"] := by
    cases h : Config.ofText configText with
    | ok base =>
      rw [h] at hshapes
      exact ⟨base, rfl, Option.some.inj hshapes⟩
    | error e =>
      rw [h] at hshapes
      cases hshapes
  have hmapFile : files.openToRead "map.json" = .ok (.file 1) := by decide +kernel
  have hconfigFile : files.openToRead "config.json" = .ok (.file 2) := by decide +kernel
  have hplace : files.resolve .write "latest.txt" = .vacant 0 "out.txt" := by decide +kernel
  have hopen : files.openToWrite "latest.txt" = .ok (.file 5, files.create 0 "out.txt") := by
    rw [FileSystem.openToWrite, hplace]
    rfl
  have hmapText : s.mapText o = (.ok "{}", s) := by
    rw [Surroundings.mapText, if_neg (by decide), Surroundings.read_of_openToRead hmapFile rfl,
      hdecoded]
  have hprovides : s.Provides o m { base with name := "New", priority := 7 } := by
    refine ⟨⟨"{}", by rw [hmapText], hm⟩, ⟨base, ⟨configText, ?_, hbase⟩, rfl⟩⟩
    rw [hmapText, Surroundings.read_of_openToRead hconfigFile rfl, hconfigText]
  have hwrites := ((run_spec hrun s).2.2 m _ hprovides).2 rfl
  have hreports := ((run_spec hcheck s).2.2 m _ ⟨hprovides.map, hprovides.config⟩).1 rfl
  change WritesScript files "latest.txt" _ _ _ at hwrites
  rw [WritesScript, hopen] at hwrites
  obtain ⟨hstdout, honly, hpath, hcode, hcontent⟩ := hwrites
  have hother : (run arguments s).2.content? 2 = some configText.toUTF8 :=
    honly.content? (by decide)
  exact ⟨hrun, hcheck, m, _, hprovides, by simp [hring], hcode, hstdout, hpath, hcontent,
    hother, hreports⟩

/-- Where the path for the script leads to the standard output, the script is there. -/
theorem run_standardOutput :
    let files : FileSystem :=
      { nodes := #[.directory 0 [("dev", 1)], .directory 0 [("stdout", 2)], .device .output]
        workingDirectory := 0 }
    let s : Surroundings := ⟨files, "{}".toUTF8⟩
    let arguments := ["-", "-o", "/dev/stdout"]
    let o : Options := { map := "-", output := some "/dev/stdout" }
    Invocation.ofArguments arguments = .run o ∧ (∃ m config, s.Provides o m config) ∧
      o.check = false ∧ (run arguments s).1.exitCode = 0 ∧ (run arguments s).1.stdout ≠ "" := by
  intro files s arguments o
  have hrun : Invocation.ofArguments arguments = .run o := by decide +kernel
  have hplace : files.resolve .write "/dev/stdout" = .known 2 := by decide +kernel
  have hopen : files.openToWrite "/dev/stdout" = .ok (.device .output, files) := by
    rw [FileSystem.openToWrite, hplace]
    rfl
  obtain ⟨m, hdecoded, hm⟩ := exists_map_of_empty_object
  have hprovides : s.Provides o m {} := by
    refine ⟨⟨"{}", ?_, hm⟩, ⟨{}, rfl, rfl⟩⟩
    rw [Surroundings.mapText, if_pos rfl, Surroundings.takeInput, ← hdecoded]
  have hwrites := writesScript_perform (o := o) m {} files rfl
  rw [WritesScript, hopen] at hwrites
  obtain ⟨hcode, hstdout, -⟩ := hwrites
  rw [run, hrun]
  dsimp only
  rw [execute_of_provides hprovides]
  refine ⟨rfl, ⟨m, {}, hprovides⟩, rfl, hcode, ?_⟩
  exact fun hempty => (m.compile {}).script_ne_empty (hstdout.symm.trans hempty)

end CommandLine
end GalaxyScenario
