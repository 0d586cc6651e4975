import Provision.Cli.Run
import Provision.Proofs.Registry.File
import Provision.Proofs.Settings

/-!
# Options and settings

A run loads its settings, checks them, and only then comes to its command (`runInvocation_eq`). The
command looks at the settings' registry and platform where no option gives another one, and at the
files that it names (`runCommand_congr`). So an option wins over the settings in what the command
does; but the registry of the settings is checked all the same, before the command and its options
are looked at, and if its file is not there the run ends with that. Where the check passes under
both of two settings that differ in what an option gives, the option decides alone.
-/

namespace Provision

namespace Files

variable {files files' : Files} {path : String}

theorem isFile_congr (h : files.read path = files'.read path) :
    files.isFile path = files'.isFile path := by
  unfold isFile
  rw [h]

end Files

/-- A registry depends on what its file holds. -/
theorem Registry.load_congr {files files' : Files} {path : String}
    (h : files.read path = files'.read path) :
    Registry.load files path = Registry.load files' path := by
  unfold load
  rw [h]

namespace Settings

variable {files files' : Files} {s s' : Settings}

/-- A check looks at the registry that the settings name. -/
theorem check_congr (hregistry : s.registry = s'.registry)
    (h : ∀ path, s.registry = some path → files.read path = files'.read path) :
    s.check files = s'.check files' := by
  unfold check
  rw [← hregistry]
  cases hpath : s.registry with
  | none => rfl
  | some path =>
    dsimp only
    rw [Files.isFile_congr (h path hpath)]

/-- A converter depends on the registry that is named and on what its file holds. -/
theorem converter_congr (hregistry : s.registry = s'.registry)
    (h : ∀ path, s.registry = some path → files.read path = files'.read path) :
    s.converter files = s'.converter files' := by
  unfold converter
  rw [← hregistry]
  cases hpath : s.registry with
  | none => rfl
  | some path =>
    dsimp only
    rw [Registry.load_congr (h path hpath)]

end Settings

namespace Cli

/-! ## What a command looks at -/

namespace Command

/-- The registry that an option gives. -/
def registry? : Command → Option String
  | .convert _ _ _ _ registry => registry
  | .plan _ registry => registry
  | .modules registry => registry
  | .validateRegistry _ => none

/-- The platform that an option gives. -/
def platform? : Command → Option String
  | .convert _ _ platform _ _ => platform
  | .plan .. | .modules _ | .validateRegistry _ => none

/-- The files that a command names. -/
def reads : Command → List String
  | .convert _ _ _ (.file path) registry => path :: registry.toList
  | .convert _ _ _ _ registry => registry.toList
  | .plan path registry => path :: registry.toList
  | .modules registry => registry.toList
  | .validateRegistry path => [path]

/-- A command reads the registry that its option names. -/
theorem mem_reads_of_registry? {c : Command} {path : String} (h : c.registry? = some path) :
    path ∈ c.reads := by
  cases c with
  | convert step module platform parameters registry =>
    obtain rfl : registry = some path := h
    cases parameters <;> simp [reads]
  | plan _ registry =>
    obtain rfl : registry = some path := h
    simp [reads]
  | modules registry =>
    obtain rfl : registry = some path := h
    simp [reads]
  | validateRegistry path => cases h

end Command

variable {files files' : Files} {s s' : Settings} {registry : Option String} {c : Command}
  {pretty : Bool}

/-- Where an option names the registry, the one in the settings does not matter. -/
theorem converterOf_congr (hregistry : registry = none → s.registry = s'.registry)
    (h : ∀ path, (registry <|> s.registry) = some path → files.read path = files'.read path) :
    converterOf files s registry = converterOf files' s' registry := by
  cases registry with
  | none => exact Settings.converter_congr (hregistry rfl) h
  | some path =>
    have hcheck : ({ s with registry := some path } : Settings).check files =
        ({ s' with registry := some path } : Settings).check files' := Settings.check_congr rfl h
    have hconverter : ({ s with registry := some path } : Settings).converter files =
        ({ s' with registry := some path } : Settings).converter files' :=
          Settings.converter_congr rfl h
    unfold converterOf
    dsimp only
    rw [hcheck, hconverter]

/-- Parameters depend on their file, if they come from one. -/
theorem parametersOf_congr {source : ParameterSource}
    (h : ∀ path, source = .file path → files.read path = files'.read path) :
    parametersOf files source = parametersOf files' source := by
  cases source with
  | nowhere => rfl
  | inline text => rfl
  | file path =>
    unfold parametersOf
    dsimp only
    rw [h path rfl]

theorem planOf_congr {path : String} (h : files.read path = files'.read path) :
    planOf files path = planOf files' path := by
  unfold planOf
  rw [h]

/-- A command does the same under settings that name the same registry and platform, or where
options give these, if the files that it reads are the same. -/
theorem runCommand_congr (hregistry : c.registry? = none → s.registry = s'.registry)
    (hplatform : c.platform? = none → s.platform = s'.platform)
    (hreads : ∀ path ∈ c.reads ++ (c.registry? <|> s.registry).toList,
      files.read path = files'.read path) :
    runCommand files s pretty c = runCommand files' s' pretty c := by
  have hconverter : converterOf files s c.registry? = converterOf files' s' c.registry? :=
    converterOf_congr hregistry fun path hpath =>
      hreads path (List.mem_append_right _ (Option.mem_toList.2 hpath))
  have hcommand : ∀ path ∈ c.reads, files.read path = files'.read path := fun path hpath =>
    hreads path (List.mem_append_left _ hpath)
  cases c with
  | convert step module platform parameters registry =>
    have hparameters : parametersOf files parameters = parametersOf files' parameters :=
      parametersOf_congr fun path hpath =>
        hcommand path (by rw [hpath]; exact List.mem_cons_self ..)
    have hchosen : (platform <|> s.platform.map Named.name) =
        (platform <|> s'.platform.map Named.name) := by
      cases platform with
      | some _ => rfl
      | none => rw [hplatform rfl]
    unfold runCommand
    dsimp only [Command.registry?] at hconverter ⊢
    rw [hconverter, hparameters, hchosen]
  | plan path registry =>
    unfold runCommand
    dsimp only [Command.registry?] at hconverter ⊢
    rw [hconverter, planOf_congr (hcommand path (List.mem_cons_self ..))]
  | modules registry =>
    unfold runCommand
    dsimp only [Command.registry?] at hconverter ⊢
    rw [hconverter]
  | validateRegistry path =>
    unfold runCommand
    dsimp only
    rw [Registry.load_congr (hcommand path (List.mem_cons_self ..))]

/-! ## A run and its settings -/

/-- The settings of a run as they are loaded. -/
def loadedSettings (files : Files) : Option String → Except SettingsError Settings
  | none => .ok {}
  | some path => Settings.load files path

/-- The report on what became of a command. -/
def Report.ofResult : Except Failure Report → Report
  | .ok report => report
  | .error failure => failWith "" s!"Error: {failure.message}"

/-- The report of a run that comes to its command only if its settings pass a check. -/
def Report.under (report : Report) : Except SettingsError Unit → Report
  | .ok () => report
  | .error e => ofResult (.error (.settings e))

/-- Settings are loaded first and checked then. -/
theorem settingsOf_eq (files : Files) (config : Option String) :
    settingsOf files config =
      (loadedSettings files config >>= fun s => (s.check files).map fun _ => s) := by
  cases config with
  | none => rfl
  | some path =>
    refine bind_congr fun s => ?_
    cases s.check files <;> rfl

/-- A run under settings that can be loaded. -/
theorem runInvocation_eq {i : Invocation} (h : loadedSettings files i.config = .ok s) :
    runInvocation files i =
      (Report.ofResult (runCommand files s (i.pretty || s.pretty) i.command)).under
        (s.check files) := by
  unfold runInvocation
  rw [settingsOf_eq, h, ok_bind]
  cases s.check files with
  | error e => rfl
  | ok _ =>
    show _ = Report.ofResult _
    cases hrun : runCommand files s (i.pretty || s.pretty) i.command with
    | error failure => simp [Except.map, Except.mapError, bind, Except.bind, hrun, Report.ofResult]
    | ok report => simp [Except.map, Except.mapError, bind, Except.bind, hrun, Report.ofResult]

/-- Two runs of one command under different settings, with the same files for the command to
read. -/
structure SameCommand (files files' : Files) (args args' : List String) (i i' : Invocation)
    (s s' : Settings) :
    Prop where
  /-- The arguments give the invocations. -/
  args : Invocation.ofArguments args = .ok i
  args' : Invocation.ofArguments args' = .ok i'
  /-- The invocations are the same but for the settings file. -/
  config : i' = { i with config := i'.config }
  /-- The settings can be loaded. -/
  loads : loadedSettings files i.config = .ok s
  loads' : loadedSettings files' i'.config = .ok s'
  /-- The files that the command names are the same. -/
  reads : ∀ path ∈ i.command.reads, files.read path = files'.read path

variable {args args' : List String} {i i' : Invocation}

/-- Where options and settings agree on everything that a command looks at, two runs of it differ
only in whether their settings pass the check. -/
theorem SameCommand.run_eq (h : SameCommand files files' args args' i i' s s')
    (hpretty : s.pretty = s'.pretty)
    (hregistry : i.command.registry? = none → s.registry = s'.registry)
    (hplatform : i.command.platform? = none → s.platform = s'.platform)
    (hreads : ∀ path, i.command.registry? = none → s.registry = some path →
      files.read path = files'.read path) :
    ∃ report : Report, run files args = report.under (s.check files) ∧
      run files' args' = report.under (s'.check files') := by
  have hcommand : i'.command = i.command := by rw [h.config]
  have hflag : i'.pretty = i.pretty := by rw [h.config]
  have hsame : runCommand files s (i.pretty || s.pretty) i.command =
      runCommand files' s' (i'.pretty || s'.pretty) i'.command := by
    rw [hcommand, hflag, ← hpretty]
    refine runCommand_congr hregistry hplatform fun path hpath => ?_
    rcases List.mem_append.1 hpath with hnamed | hchosen
    · exact h.reads path hnamed
    · rw [Option.mem_toList] at hchosen
      cases hoption : i.command.registry? with
      | none =>
        rw [hoption] at hchosen
        exact hreads path hoption hchosen
      | some P =>
        rw [hoption] at hchosen
        exact h.reads path (Command.mem_reads_of_registry? (hoption.trans hchosen))
  refine ⟨Report.ofResult (runCommand files s (i.pretty || s.pretty) i.command), ?_, ?_⟩
  · unfold run
    rw [h.args]
    exact runInvocation_eq h.loads
  · unfold run
    rw [h.args', hsame]
    exact runInvocation_eq h.loads'

/-- Options win over the settings, but the registry of the settings is checked all the same. If an
option gives the registry and two settings differ in their registry only, there is one report for
both runs, and each leaves it behind if its own settings pass their check. So exit code and output
are the same exactly if both pass or neither does, or if the command fails without output itself. If
an option gives the platform and the settings differ in their platform only, the runs leave the same
behind in everything. -/
theorem options_win (h : SameCommand files files' args args' i i' s s') :
    (i.command.registry?.isSome = true → s' = { s with registry := s'.registry } →
      ∃ report : Report, run files args = report.under (s.check files) ∧
        run files' args' = report.under (s'.check files') ∧
        ((run files args).exit = (run files' args').exit ∧
          (run files args).output = (run files' args').output ↔
          (s.check files).isOk = (s'.check files').isOk ∨ report.exit = 1 ∧ report.output = "")) ∧
    (i.command.platform?.isSome = true → s' = { s with platform := s'.platform } →
      (∀ path, s.registry = some path → files.read path = files'.read path) →
      run files args = run files' args') := by
  constructor
  · intro hoption hdiffer
    have hnone : i.command.registry? ≠ none := Option.isSome_iff_ne_none.1 hoption
    obtain ⟨report, hrun, hrun'⟩ := h.run_eq (congrArg Settings.pretty hdiffer).symm
      (fun he => absurd he hnone) (fun _ => (congrArg Settings.platform hdiffer).symm)
      (fun _ he => absurd he hnone)
    refine ⟨report, hrun, hrun', ?_⟩
    rw [hrun, hrun']
    have hfails : ∀ e, (report.under (.error e)).exit = 1 ∧
        (report.under (.error e)).output = "" := fun _ => ⟨rfl, rfl⟩
    have hpasses : report.under (.ok ()) = report := rfl
    cases s.check files with
    | ok _ =>
      cases s'.check files' with
      | ok _ => exact iff_of_true ⟨rfl, rfl⟩ (.inl rfl)
      | error e' => simp [hpasses, hfails e', Except.isOk, Except.toBool]
    | error e =>
      cases s'.check files' with
      | ok _ =>
        rw [hpasses, (hfails e).1, (hfails e).2, eq_comm (b := report.exit),
          eq_comm (b := report.output)]
        simp [Except.isOk, Except.toBool]
      | error e' => exact iff_of_true ⟨rfl, rfl⟩ (.inl rfl)
  · intro hoption hdiffer hreads
    have hregistry : s.registry = s'.registry := (congrArg Settings.registry hdiffer).symm
    obtain ⟨report, hrun, hrun'⟩ :=
      h.run_eq (congrArg Settings.pretty hdiffer).symm (fun _ => hregistry)
      (fun he => absurd he (Option.isSome_iff_ne_none.1 hoption)) (fun path _ => hreads path)
    rw [hrun, hrun', Settings.check_congr hregistry hreads]

/-- The registry of one module. -/
def oneModule : Registry := .ofList [Registry.requiring "tool" []]

/-- A directory with a settings file and a registry file. -/
def directory (s : Settings) : Files where
  read path :=
    if path = "c.json" then .ok s.toText
    else if path = "r.json" then .ok oneModule.toText
    else .error .notFound

theorem check_oneModule : oneModule.check = .ok () := Registry.check_oneSchema "tool"

theorem load_oneModule (s : Settings) : Registry.load (directory s) "r.json" = .ok oneModule :=
  Registry.ofText_oneSchema "tool"

/-- The list of the registry file's modules. -/
def listing : Invocation := ⟨false, false, some "c.json", .modules (some "r.json")⟩

theorem load_directory (s : Settings) : loadedSettings (directory s) listing.config = .ok s := by
  have hread : (directory s).read "c.json" = .ok s.toText := rfl
  exact Settings.load_eq_ok hread

/-- Under settings that pass their check the modules are listed. -/
theorem exit_listing (h : s.check (directory s) = .ok ()) :
    (runInvocation (directory s) listing).exit = 0 := by
  have hcheck : Settings.check (directory s) { s with registry := some "r.json" } = .ok () := by
    simp [Settings.check, Files.isFile, directory]
  have hconverter : converterOf (directory s) s (some "r.json") =
      .ok { registry := oneModule, handlers := .standard } := by
    unfold converterOf
    simp only [hcheck, ok_bind, Settings.converter, load_oneModule, Converter.ofRegistry,
      check_oneModule]
    rfl
  rw [runInvocation_eq (load_directory s), h, listing, runCommand, hconverter]
  rfl

/-- The settings name a registry file that is not there, which the option does not make good. -/
theorem listing_missing_registry :
    let args := ["--config", "c.json", "modules", "--registry", "r.json"]
    (run (directory { registry := some "gone.json" }) args).exit = 1 ∧
    (run (directory {}) args).exit = 0 := by
  intro args
  have hargs : Invocation.ofArguments args = .ok listing := by decide +kernel
  have hsame : SameCommand (directory { registry := some "gone.json" }) (directory {}) args args
      listing listing { registry := some "gone.json" } {} :=
    ⟨hargs, hargs, rfl, load_directory _, load_directory _,
      by simp [listing, Command.reads, directory]⟩
  have hmissing : Settings.check (directory { registry := some "gone.json" })
      { registry := some "gone.json" } = .error (.noRegistryFile "gone.json") := by
    simp [Settings.check, Files.isFile, directory]
  obtain ⟨report, hrun, -⟩ := (options_win hsame).1 rfl rfl
  constructor
  · rw [hrun, hmissing]
    rfl
  · rw [run, hargs]
    exact exit_listing rfl

end Cli

end Provision
