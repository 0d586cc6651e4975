import Provision.Cli.Run
import Provision.Proofs.Document.Json
import Provision.Proofs.Results
import Provision.Proofs.Table

/-!
# Outcomes of a plan

The steps of a plan stand in one list, component by component, and converting a plan converts each
of them by itself. So the outcomes of a component are those of its steps, in their order, whatever
else is in the plan, and to change some steps of a component changes their outcomes and no other.
What carries this is how a plan is cut at a component (`exists_steps_cut`): what stands before and
behind the component's steps stays when these are exchanged, which goes back to a table having one
place for a key (`Table.exists_entries_insert`).

The plan command prints the outcomes of all steps in any case: what it writes is read back as one
object for each of them, in their order (`Outcome.readBack`). Only its exit code tells whether some
failed. `plan_outcomes_exact` has it all together.
-/

namespace Provision

/-! ## Steps -/

namespace Plan

/-- The steps of a component. -/
def stepsOf (p : Plan) (uid : String) : List PlanStep := (p.components.get? uid).getD []

/-- The plan with these steps for a component. -/
def withSteps (p : Plan) (uid : String) (steps : List PlanStep) : Plan :=
  { p with components := p.components.insert uid steps }

/-- A plan is cut at a component, and exchanging its steps leaves what stands before and behind them
alone. -/
theorem exists_steps_cut (p : Plan) (uid : String) : ∃ front back,
    (∀ e ∈ front ++ back, e.1 ≠ uid) ∧ p.steps = front ++ (p.stepsOf uid).map (uid, ·) ++ back ∧
      ∀ l, (p.withSteps uid l).steps = front ++ l.map (uid, ·) ++ back := by
  obtain ⟨before, after, hne, hentries, hinsert⟩ := p.components.exists_entries_insert uid
  -- the table is cut there, and its steps are cut where its entries are
  let spread (e : String × List PlanStep) : List (String × PlanStep) := e.2.map (e.1, ·)
  refine ⟨before.flatMap spread, after.flatMap spread, ?_, ?_, fun l => ?_⟩
  · intro e he
    rw [← List.flatMap_append] at he
    obtain ⟨component, hmem, he⟩ := List.mem_flatMap.1 he
    obtain ⟨s, -, rfl⟩ := List.mem_map.1 he
    exact hne component hmem
  · have hcomponent : ((p.components.get? uid).toList.map (uid, ·)).flatMap spread
        = (p.stepsOf uid).map (uid, ·) := by
      unfold stepsOf
      cases p.components.get? uid <;> simp [spread]
    show p.components.entries.flatMap spread = _
    rw [hentries, List.flatMap_append, List.flatMap_append, hcomponent]
  · show (p.components.insert uid l).entries.flatMap spread = _
    rw [hinsert, List.flatMap_append, List.flatMap_cons, List.append_assoc]

/-- There are as many steps with a component as the components have together. -/
theorem length_steps (p : Plan) : p.steps.length = p.stepCount := by
  unfold steps stepCount Table.values
  rw [List.length_flatMap, List.length_flatten, List.map_map]
  congr 1
  exact List.map_congr_left fun e _ => List.length_map _

/-- Steps stand in the order of their components. -/
theorem pairwise_steps (p : Plan) :
    p.steps.Pairwise fun e e' => e.1 = e'.1 ∨ Text.Before e.1 e'.1 := by
  unfold steps
  rw [List.pairwise_flatMap]
  constructor
  · intro component _
    exact List.pairwise_map.2 (List.pairwise_of_forall fun _ _ => .inl rfl)
  · refine p.components.sorted.imp fun hbefore e he e' he' => .inr ?_
    obtain ⟨-, -, rfl⟩ := List.mem_map.1 he
    obtain ⟨-, -, rfl⟩ := List.mem_map.1 he'
    exact hbefore

/-- The steps of one component, in its order. -/
theorem filter_steps (p : Plan) (uid : String) :
    (p.steps.filter fun e => e.1 = uid) = (p.stepsOf uid).map (uid, ·) := by
  obtain ⟨front, back, hne, hsteps, -⟩ := p.exists_steps_cut uid
  have hothers : ∀ l : List (String × PlanStep), (∀ e ∈ l, e.1 ≠ uid) →
      (l.filter fun e => e.1 = uid) = [] :=
    fun l hl => List.filter_eq_nil_iff.2 fun e he => by simpa using hl e he
  have hown : (((p.stepsOf uid).map (uid, ·)).filter fun e => e.1 = uid) =
      (p.stepsOf uid).map (uid, ·) := by
    refine List.filter_eq_self.2 fun e he => ?_
    obtain ⟨s, -, rfl⟩ := List.mem_map.1 he
    exact decide_eq_true rfl
  rw [hsteps, List.filter_append, List.filter_append, hown,
    hothers front fun e he => hne e (List.mem_append_left _ he),
    hothers back fun e he => hne e (List.mem_append_right _ he), List.nil_append, List.append_nil]

end Plan

/-! ## Outcomes -/

/-- The members that are read where a result was printed, with so many lists and mappings allowed
inside a value. -/
def StepResult.readBack (room : Nat) : StepResult → List (Option String × Json.Source)
  | .converted documents =>
    [(some "status", .str "converted"),
      (some "documents", .arr (documents.map (DocumentMap.readBack room)))]
  | .failed kind message =>
    [(some "status", .str "failed"), (some "kind", .str (Named.name kind)),
      (some "message", .str message)]

/-- What is read where an outcome was printed. -/
def Outcome.readBack (room : Nat) (o : Outcome) : Json.Source :=
  .obj ([(some "uid", .str o.uid), (some "step", .str o.step), (some "module", .str o.module)] ++
    o.result.readBack room)

/-- An outcome is read back as an object with its members; values of its documents stand six
deeper. -/
theorem Outcome.readBack_toJson {room : Nat} (o : Outcome) :
    o.toJson.readBack (room + 8) = o.readBack (room + 2) := by
  obtain ⟨uid, step, module, result⟩ := o
  cases result with
  | converted documents =>
    simp [toJson, StepResult.toMembers, readBack, StepResult.readBack,
      DocumentMap.readBack_listToJson]
  | failed kind message => simp [toJson, StepResult.toMembers, readBack, StepResult.readBack]

namespace Converter

variable {c : Converter} {p : Plan} {uid : String} {before old after : List PlanStep}

/-- The outcome of a step is what converting the step alone gives: its documents, or the kind and
the wording of the error. -/
inductive StepOutcome (c : Converter) (osType uid : String) (s : PlanStep) : Outcome → Prop
  | converted {documents : List DocumentMap}
      (h : c.convertValue s.id s.module s.parameter osType = .ok documents) :
      c.StepOutcome osType uid s ⟨uid, s.id, s.module, .converted documents⟩
  | failed {e : ConvertError} (h : c.convertValue s.id s.module s.parameter osType = .error e) :
      c.StepOutcome osType uid s ⟨uid, s.id, s.module, .failed e.kind e.message⟩

theorem convertStep_stepOutcome (osType : String) (s : PlanStep) :
    c.StepOutcome osType uid s (c.convertStep osType uid s) := by
  unfold convertStep
  cases h : c.convertValue s.id s.module s.parameter osType with
  | ok documents => exact .converted h
  | error e => exact .failed h

theorem length_convertPlan : (c.convertPlan p).length = p.stepCount := by
  rw [convertPlan, List.length_map, p.length_steps]

theorem pairwise_convertPlan :
    (c.convertPlan p).Pairwise fun o o' => o.uid = o'.uid ∨ Text.Before o.uid o'.uid :=
  List.pairwise_map.2 p.pairwise_steps

/-- The outcomes of a component are those of its steps. -/
theorem filter_convertPlan : ((c.convertPlan p).filter fun o => o.uid = uid) =
    (p.stepsOf uid).map (c.convertStep p.osType uid) := by
  unfold convertPlan
  rw [List.filter_map]
  refine (congrArg (List.map _) (p.filter_steps uid)).trans ?_
  rw [List.map_map]
  rfl

/-- Each of them is the outcome of its step alone. -/
theorem forall₂_stepOutcome : List.Forall₂ (c.StepOutcome p.osType uid) (p.stepsOf uid)
    ((c.convertPlan p).filter fun o => o.uid = uid) := by
  rw [filter_convertPlan, List.forall₂_map_right_iff, List.forall₂_same]
  exact fun s _ => convertStep_stepOutcome p.osType s

/-- To exchange some steps of a component exchanges their outcomes and leaves all others alone. -/
theorem convertPlan_withSteps (h : p.stepsOf uid = before ++ old ++ after) : ∃ front back,
    c.convertPlan p = front ++ old.map (c.convertStep p.osType uid) ++ back ∧
      ∀ new, c.convertPlan (p.withSteps uid (before ++ new ++ after)) =
        front ++ new.map (c.convertStep p.osType uid) ++ back := by
  obtain ⟨front, back, -, hsteps, hwith⟩ := p.exists_steps_cut uid
  let outcome (e : String × PlanStep) : Outcome := c.convertStep p.osType e.1 e.2
  -- the steps around the exchanged ones, those of the component among them
  refine ⟨front.map outcome ++ before.map (c.convertStep p.osType uid),
    after.map (c.convertStep p.osType uid) ++ back.map outcome, ?_, fun new => ?_⟩
  · show p.steps.map outcome = _
    rw [hsteps, h]
    simp [outcome, Function.comp_def]
  · show (p.withSteps uid (before ++ new ++ after)).steps.map outcome = _
    rw [hwith]
    simp [outcome, Function.comp_def]

end Converter

namespace Cli

variable {files : Files} {args : List String} {i : Invocation} {path : String}
  {registry : Option String} {s : Settings} {c : Converter} {p : Plan}

/-! ## The command -/

/-- The report on outcomes: all of them are written, and the exit code tells whether some failed. -/
def Report.ofOutcomes (pretty : Bool) (outcomes : List Outcome) : Report :=
  let output := written pretty (.arr (outcomes.map Outcome.toJson))
  let failed := outcomes.countP (!·.isConverted)
  if failed = 0 then succeed output
  else failWith output s!"✗ {failed} of {outcomes.length} steps failed"

/-- What is printed is read as what the tree is read back as, be it indented or not. -/
theorem ofText?_written (pretty : Bool) (j : Json) :
    Json.Source.ofText? (written pretty j) = some (j.readBack Json.Source.maxNesting) := by
  cases pretty with
  | true => exact Json.Source.ofText?_pretty_line j
  | false => exact Json.Source.ofText?_compact_line j

/-- The output is read as one object for each outcome. A value of a document stands inside seven
lists and mappings of the output, so it has room for 120 of its own. -/
theorem Report.ofText?_output_ofOutcomes (pretty : Bool) (outcomes : List Outcome) :
    Json.Source.ofText? (ofOutcomes pretty outcomes).output = some
      (.arr (outcomes.map (Outcome.readBack 120))) := by
  have houtput : (ofOutcomes pretty outcomes).output =
      written pretty (.arr (outcomes.map Outcome.toJson)) := by
    unfold ofOutcomes
    dsimp only
    split <;> rfl
  have hlist : (Json.arr (outcomes.map Outcome.toJson)).readBack Json.Source.maxNesting =
      .arr (outcomes.map (Outcome.readBack 120)) := by
    unfold Json.Source.maxNesting
    rw [Json.readBack_arr, List.map_map]
    exact congrArg _ (List.map_congr_left fun o _ => Outcome.readBack_toJson o)
  rw [houtput, ofText?_written, hlist]

/-- The exit code is zero exactly if no outcome is a failure. -/
theorem Report.exit_ofOutcomes_eq_zero_iff {pretty : Bool} {outcomes : List Outcome} :
    (ofOutcomes pretty outcomes).exit = 0 ↔
      ∀ o ∈ outcomes, ∃ documents, o.result = .converted documents := by
  have hconverted : ∀ o : Outcome, o.isConverted = true ↔
      ∃ documents, o.result = .converted documents := by
    intro o
    unfold Outcome.isConverted
    cases o.result <;> simp [StepResult.isConverted]
  have hcount : outcomes.countP (!·.isConverted) = 0 ↔
      ∀ o ∈ outcomes, ∃ documents, o.result = .converted documents := by
    simp [List.countP_eq_zero, hconverted]
  rw [← hcount]
  unfold ofOutcomes
  dsimp only
  split
  · next h => exact iff_of_true rfl h
  · next h => exact iff_of_false Nat.one_ne_zero h

/-- With settings, registry and plan loaded, the plan command reports on the outcomes. -/
theorem run_plan (hargs : Invocation.ofArguments args = .ok i)
    (hcommand : i.command = .plan path registry) (hs : settingsOf files i.config = .ok s)
    (hc : converterOf files s registry = .ok c) (hp : planOf files path = .ok p) :
    run files args = .ofOutcomes (i.pretty || s.pretty) (c.convertPlan p) := by
  have hrun : runCommand files s (i.pretty || s.pretty) i.command
      = .ok (.ofOutcomes (i.pretty || s.pretty) (c.convertPlan p)) := by
    rw [hcommand, runCommand, hc, hp]
    rfl
  unfold run runInvocation
  simp only [hargs, hs, Except.mapError, ok_bind, hrun]

/-- A plan has one outcome for each step, by component and then in the order of the component, and
it is what converting the step alone gives: its documents, or the kind and the wording of its error.
Exchanging, adding or taking away some steps of a component, failing ones or not, does the same to
their outcomes and nothing to the others. With everything loaded, what the plan command writes is
read back as all outcomes, each as an object with its component, step, module, status, and its
documents or its error, and the exit code is zero exactly if every step was converted. -/
theorem plan_outcomes_exact (c : Converter) :
    (∀ p : Plan, (c.convertPlan p).length = p.stepCount ∧
      (c.convertPlan p).Pairwise (fun o o' => o.uid = o'.uid ∨ Text.Before o.uid o'.uid) ∧
      ∀ uid, List.Forall₂ (c.StepOutcome p.osType uid) (p.stepsOf uid)
        ((c.convertPlan p).filter fun o => o.uid = uid)) ∧
    (∀ (p : Plan) uid before old after, p.stepsOf uid = before ++ old ++ after →
      ∃ front back, c.convertPlan p = front ++ old.map (c.convertStep p.osType uid) ++ back ∧
        ∀ new, c.convertPlan (p.withSteps uid (before ++ new ++ after)) =
          front ++ new.map (c.convertStep p.osType uid) ++ back) ∧
    ∀ files args i path registry s p, Invocation.ofArguments args = .ok i →
      i.command = .plan path registry →
      settingsOf files i.config = .ok s → converterOf files s registry = .ok c →
        planOf files path = .ok p →
        Json.Source.ofText? (run files args).output
          = some (.arr ((c.convertPlan p).map (Outcome.readBack 120))) ∧
        ((run files args).exit = 0 ↔ ∀ o ∈ c.convertPlan p, ∃ documents,
          o.result = .converted documents) := by
  refine ⟨fun p => ⟨Converter.length_convertPlan, Converter.pairwise_convertPlan, fun _ =>
    Converter.forall₂_stepOutcome⟩, fun _ _ _ _ _ h => Converter.convertPlan_withSteps h, ?_⟩
  intro files args i path registry s p hargs hcommand hs hc hp
  rw [run_plan hargs hcommand hs hc hp]
  exact ⟨Report.ofText?_output_ofOutcomes _ _, Report.exit_ofOutcomes_eq_zero_iff⟩

/-- A command without parameters. -/
def bareStep : PlanStep := ⟨"1", "linux.cmd", .null⟩

/-- A command with something to run. -/
def listStep : PlanStep := ⟨"2", "linux.cmd", .map [("cmd", .str "ls")]⟩

/-- A plan of both. -/
def mixedPlan : Plan := ⟨"ubuntu", .singleton "web" [bareStep, listStep]⟩

/-- A directory with the plan in a file. -/
def planDirectory : Files where
  read path := if path = "p.json" then .ok mixedPlan.toJson.compact else .error .notFound

/-- The bare command fails, which the exit code tells, and both outcomes are printed, the one with
the error and the other with its document. Without the bare command the other one has the outcome
that it has beside it. -/
theorem mixedPlan_outcomes :
    (∃ front back, Converter.standard.convertPlan mixedPlan
        = front ++ [Converter.standard.convertStep "ubuntu" "web" bareStep] ++ back ∧
      Converter.standard.convertPlan (mixedPlan.withSteps "web" [listStep]) = front ++ back) ∧
    Json.Source.ofText? (run planDirectory ["plan", "p.json"]).output = some (.arr [
      .obj [(some "uid", .str "web"), (some "step", .str "1"), (some "module", .str "linux.cmd"),
        (some "status", .str "failed"), (some "kind", .str "invalid_input"),
        (some "message",
          .str "Invalid input: parameters of module linux.cmd must be a mapping, got null")],
      .obj [(some "uid", .str "web"), (some "step", .str "2"), (some "module", .str "linux.cmd"),
        (some "status", .str "converted"), (some "documents", .arr [.obj [(some "_2_linux_cmd_run",
          .obj [(some "cmd", .arr [.str "run", .obj [(some "name", .str "ls")]])])]])]]) ∧
    (run planDirectory ["plan", "p.json"]).exit ≠ 0 := by
  obtain ⟨-, hexchange, hcommand⟩ := plan_outcomes_exact .standard
  have hargs : Invocation.ofArguments ["plan", "p.json"] =
      .ok ⟨false, false, none, .plan "p.json" none⟩ := by
    decide +kernel
  have htext : Plan.ofText mixedPlan.toJson.compact = .ok mixedPlan := by decide +kernel
  have hplan : planOf planDirectory "p.json" = .ok mixedPlan := by
    simp [planOf, planDirectory, htext]
  have hsteps : mixedPlan.stepsOf "web" = [] ++ [bareStep] ++ [listStep] := rfl
  obtain ⟨front, back, hboth, hwithout⟩ := hexchange mixedPlan "web" [] [bareStep] [listStep] hsteps
  obtain ⟨houtput, hexit⟩ :=
    hcommand planDirectory _ _ "p.json" none {} mixedPlan hargs rfl rfl rfl hplan
  have houtcomes : Converter.standard.convertPlan mixedPlan =
      [⟨"web", "1", "linux.cmd", .failed .invalidInput
          "Invalid input: parameters of module linux.cmd must be a mapping, got null"⟩,
        ⟨"web", "2", "linux.cmd", .converted [.singleton "_2_linux_cmd_run"
          { resourceType := .cmd, state := "run",
            attributes := .singleton "name" (.str "ls") }]⟩] := by
    decide +kernel
  rw [houtcomes] at houtput hexit
  refine ⟨⟨front, back, hboth, ?_⟩, houtput, fun hzero => ?_⟩
  · simpa using hwithout []
  · obtain ⟨documents, hconverted⟩ := hexit.1 hzero _ (List.mem_cons_self ..)
    cases hconverted

end Cli

end Provision
