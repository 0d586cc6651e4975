import Provision.Conversion.Basic
import Provision.Proofs.Document.Merge

/-!
# How a conversion runs

`compileWith` is written in a monad that threads the context, and almost nothing of the context
matters to what it computes. This file takes the monad away once and for all: `compileWith_run`
gives the result and the context of a run as one `match` on the results of renaming, building and
resolving, and `resolveRequires_run` gives the resolution as `mapM` over the prerequisites that can
run on the platform.

Both rest on a compiler being `Neutral`: below the top level it gives the context back as it got it.
The compilers that occur are (`compileAt_neutral`), because a nested conversion passes no stage and
comes back from every prerequisite, also from one that failed.
-/

namespace Provision

/-! ## The monad -/

namespace ConvertM

variable {α β : Type} {ctx ctx' : Context}

theorem run_bind_of_ok {x : ConvertM α} {f : α → ConvertM β} {a : α}
    (h : x.run ctx = (.ok a, ctx')) :
    (x >>= f).run ctx = (f a).run ctx' := by
  show (ExceptT.bindCont f (x.run ctx).1).run (x.run ctx).2 = _
  rw [h]
  rfl

theorem run_bind_of_error {x : ConvertM α} {f : α → ConvertM β} {e : ConvertError}
    (h : x.run ctx = (.error e, ctx')) : (x >>= f).run ctx = (.error e, ctx') := by
  show (ExceptT.bindCont f (x.run ctx).1).run (x.run ctx).2 = _
  rw [h]
  rfl

@[simp] theorem run_pure (a : α) : (pure a : ConvertM α).run ctx = (.ok a, ctx) := rfl

@[simp] theorem run_get : (get : ConvertM Context).run ctx = (.ok ctx, ctx) := rfl

@[simp] theorem run_ofExcept (r : Except ConvertError α) : (ofExcept r).run ctx = (r, ctx) := rfl

end ConvertM

namespace Context

/-- The context of a prerequisite. -/
def deeper (ctx : Context) : Context := { ctx with depth := ctx.depth + 1 }

/-- The context after a stage was entered; below the top level it is the same one. -/
def advance (ctx : Context) (stage : Stage) : Context :=
  if 0 < ctx.depth then ctx else { ctx with stage }

variable {ctx : Context}

@[simp] theorem start_platform (platform : Platform) : (start platform).platform = platform := rfl

@[simp] theorem start_packageManager (platform : Platform) :
    (start platform).packageManager = platform.packageManager := rfl

@[simp] theorem deeper_depth : ctx.deeper.depth = ctx.depth + 1 := rfl

@[simp] theorem deeper_packageManager : ctx.deeper.packageManager = ctx.packageManager := rfl

@[simp] theorem deeper_ascend : ctx.deeper.ascend = ctx := rfl

theorem advance_of_pos (h : 0 < ctx.depth) (stage : Stage) : ctx.advance stage = ctx := if_pos h

@[simp] theorem deeper_advance (stage : Stage) : ctx.deeper.advance stage = ctx.deeper :=
  advance_of_pos (Nat.succ_pos _) stage

@[simp] theorem advance_depth (stage : Stage) : (ctx.advance stage).depth = ctx.depth := by
  unfold advance
  split <;> rfl

@[simp] theorem advance_packageManager (stage : Stage) :
    (ctx.advance stage).packageManager = ctx.packageManager := by
  unfold advance
  split <;> rfl

@[simp] theorem advance_advance (stage stage' : Stage) :
    (ctx.advance stage).advance stage' = ctx.advance stage' := by
  by_cases h : 0 < ctx.depth
  · rw [advance_of_pos h stage]
  · unfold advance
    rw [if_neg h, if_neg h, if_neg h]

theorem advance_stage (h : ctx.depth = 0) (stage : Stage) : (ctx.advance stage).stage = stage := by
  unfold advance
  rw [if_neg (by omega)]

/-- Going deeper is refused at the limit, and the context stays. -/
theorem attempt_descend (ctx : Context) : ctx.attempt .descend =
    if maxDepth ≤ ctx.depth then (.error (.internal ctx.stage (.tooDeep maxDepth)), ctx)
    else (.ok (), ctx.deeper) := rfl

theorem descend_eq (ctx : Context) : ctx.descend =
    if maxDepth ≤ ctx.depth then .error (.internal ctx.stage (.tooDeep maxDepth))
    else .ok ctx.deeper := by
  unfold descend
  rw [attempt_descend]
  by_cases h : maxDepth ≤ ctx.depth
  · rw [if_pos h, if_pos h]
    rfl
  · rw [if_neg h, if_neg h]
    rfl

end Context

namespace ConvertM

variable {α : Type} {ctx : Context}

/-- Entering a stage succeeds below the top level, and there if the stage is the next one. -/
theorem run_enter {stage : Stage} (h : ctx.depth = 0 → ctx.stage.next? = some stage) :
    (enter stage).run ctx = (.ok (), ctx.advance stage) := by
  show ctx.attempt (.enter stage) = _
  rw [Context.attempt, Context.advance]
  by_cases hd : 0 < ctx.depth
  · rw [if_pos hd, if_pos hd]
  · rw [if_neg hd, if_neg hd, if_pos (h (by omega))]

/-- The next stage after one that was entered. -/
theorem run_enter_advance {last stage : Stage} (h : last.next? = some stage) :
    (enter stage).run (ctx.advance last) = (.ok (), ctx.advance stage) := by
  rw [run_enter, Context.advance_advance]
  intro hd
  rw [Context.advance_stage (by simpa using hd)]
  exact h

/-- A nested conversion that there is room for runs one level deeper, and comes back however it
ends. -/
theorem run_nested (act : ConvertM α) :
    (nested act).run ctx =
      if maxDepth ≤ ctx.depth then (.error (.internal ctx.stage (.tooDeep maxDepth)), ctx)
      else ((act.run ctx.deeper).1, (act.run ctx.deeper).2.ascend) := by
  have hmove : (move .descend).run ctx = ctx.attempt .descend := rfl
  rw [Context.attempt_descend] at hmove
  unfold nested
  by_cases h : maxDepth ≤ ctx.depth
  · rw [if_pos h] at hmove ⊢
    exact run_bind_of_error hmove
  · rw [if_neg h] at hmove ⊢
    rw [run_bind_of_ok hmove]
    rfl

end ConvertM

/-- A compiler that below the top level gives the context back as it got it. -/
def Neutral (compiler : Compiler) : Prop :=
  ∀ step s params (ctx : Context), 0 < ctx.depth → ((compiler step s params).run ctx).2 = ctx

namespace Converter

variable {c : Converter} {compiler : Compiler} {ctx : Context}

/-! ## Prerequisites -/

/-- The schema of a prerequisite, if it is registered and can run with a package manager. -/
def runnable? (c : Converter) (pm : PackageManager) (p : Prerequisite) : Option Schema :=
  (c.registry.get? p.module).filter (·.runsWith pm)

/-- The prerequisites of a module that are registered and can run, with their schemas. -/
def applicable (c : Converter) (pm : PackageManager) (s : Schema) : List (Prerequisite × Schema) :=
  s.requires.filterMap fun p => (c.runnable? pm p).map (p, ·)

/-- The applicable prerequisites are the declared ones that are registered and can run. -/
theorem mem_applicable {pm : PackageManager} {s : Schema} {q : Prerequisite × Schema} :
    q ∈ c.applicable pm s ↔
      q.1 ∈ s.requires ∧ c.registry.get? q.1.module = some q.2 ∧ q.2.runsWith pm = true := by
  unfold applicable runnable?
  rw [List.mem_filterMap]
  constructor
  · intro h
    obtain ⟨p, hp, hq⟩ := h
    obtain ⟨s', hs', rfl⟩ := Option.map_eq_some_iff.1 hq
    exact ⟨hp, Option.filter_eq_some_iff.1 hs'⟩
  · intro h
    obtain ⟨hp, hq⟩ := h
    exact ⟨q.1, hp, Option.map_eq_some_iff.2 ⟨q.2, Option.filter_eq_some_iff.2 hq, rfl⟩⟩

/-- What converting one prerequisite gives. -/
def nestedResult (compiler : Compiler) (ctx : Context) (q : Prerequisite × Schema) :
    Except ConvertError DocumentMap := do
  ((compiler requireStep q.2 q.1.parameters).run (← ctx.descend)).1

/-- At the limit a prerequisite is refused, else it is compiled one level deeper. -/
theorem nestedResult_eq (compiler : Compiler) (ctx : Context) (q : Prerequisite × Schema) :
    nestedResult compiler ctx q =
      if maxDepth ≤ ctx.depth then .error (.internal ctx.stage (.tooDeep maxDepth))
      else ((compiler requireStep q.2 q.1.parameters).run ctx.deeper).1 := by
  unfold nestedResult
  rw [Context.descend_eq]
  split <;> rfl

/-- Converting a prerequisite gives its result and comes back to the level of before. -/
theorem run_nested_compiler (hc : Neutral compiler) (q : Prerequisite × Schema) :
    (ConvertM.nested (compiler requireStep q.2 q.1.parameters)).run ctx =
      (nestedResult compiler ctx q, ctx) := by
  rw [ConvertM.run_nested, nestedResult_eq]
  split
  · rfl
  · rw [hc requireStep q.2 q.1.parameters ctx.deeper (Nat.succ_pos _), Context.deeper_ascend]

/-- A prerequisite that cannot run gives no documents, and the context stays either way. -/
theorem requiredDocuments_run (hc : Neutral compiler) (ctx : Context) (p : Prerequisite) :
    (c.requiredDocuments compiler p).run ctx =
      match c.runnable? ctx.packageManager p with
      | none => (.ok ∅, ctx)
      | some s => (nestedResult compiler ctx (p, s), ctx) := by
  unfold requiredDocuments runnable?
  cases c.registry.get? p.module with
  | none => rfl
  | some s =>
    rw [ConvertM.run_bind_of_ok ConvertM.run_get]
    by_cases h : s.runsWith ctx.packageManager = true
    · simp only [h, if_true, Option.filter_some]
      exact run_nested_compiler hc (p, s)
    · simp only [h, Option.filter_some]
      rfl

/-- Several prerequisites are converted one by one, each with the same context, and the first error
is that of all of them. -/
theorem requireAll_run (hc : Neutral compiler) (ctx : Context) (ps : List Prerequisite)
    (acc : DocumentMap) :
    (c.requireAll compiler acc ps).run ctx =
      (((ps.filterMap fun p => (c.runnable? ctx.packageManager p).map (p, ·)).mapM
        (nestedResult compiler ctx)).map (·.foldl Table.union acc), ctx) := by
  -- the accumulator is generalised, as every prerequisite adds to it
  induction ps generalizing acc with
  | nil => rfl
  | cons p ps ih =>
    have hp := requiredDocuments_run (c := c) hc ctx p
    rw [requireAll, List.filterMap_cons]
    cases hs : c.runnable? ctx.packageManager p with
    | none =>
      rw [hs] at hp
      rw [ConvertM.run_bind_of_ok hp]
      exact ih (acc.union ∅)
    | some s =>
      rw [hs] at hp
      simp only [Option.map_some, List.mapM_cons]
      cases hr : nestedResult compiler ctx (p, s) with
      | error e =>
        simp only [hr] at hp
        exact ConvertM.run_bind_of_error hp
      | ok documents =>
        simp only [hr] at hp
        rw [ConvertM.run_bind_of_ok hp, ih]
        cases (ps.filterMap fun p => (c.runnable? ctx.packageManager p).map (p, ·)).mapM
            (nestedResult compiler ctx) with
        | error e => rfl
        | ok maps => rfl

/-- Resolving converts the applicable prerequisites in their order up to the first that fails, and
merges what they give. The context stays as it is. -/
theorem resolveRequires_run (hc : Neutral compiler) (ctx : Context) (s : Schema) :
    (c.resolveRequires compiler s).run ctx =
      (((c.applicable ctx.packageManager s).mapM (nestedResult compiler ctx)).map DocumentMap.merge,
        ctx) :=
  requireAll_run hc ctx s.requires ∅

/-! ## Compiling -/

/-- A compilation from a context in which nothing was entered yet, or from one below the top
level. -/
theorem compileWith_run (hc : Neutral compiler) (hctx : ctx.depth = 0 → ctx.stage = .validating)
    (step : String) (s : Schema) (params : Parameters) :
    (c.compileWith compiler step s params).run ctx =
      match s.rename params with
      | .error e => (.error e, ctx.advance .mapping)
      | .ok attributes =>
        match c.handlers.build s attributes with
        | .error e => (.error e, ctx.advance .building)
        | .ok buckets =>
          match (c.applicable ctx.packageManager s).mapM
              (nestedResult compiler (ctx.advance .resolvingDeps)) with
          | .error e => (.error e, ctx.advance .resolvingDeps)
          | .ok maps =>
            (.ok (assemble s step (DocumentMap.merge maps)
              (s.triggerDocuments c.registry ctx.packageManager step params) buckets),
              ctx.advance .tagging) := by
  have hmapping : ctx.depth = 0 → ctx.stage.next? = some .mapping := by
    intro h
    rw [hctx h]
    rfl
  unfold compileWith
  rw [ConvertM.run_bind_of_ok (ConvertM.run_enter hmapping)]
  cases s.rename params with
  | error e => exact ConvertM.run_bind_of_error (ConvertM.run_ofExcept _)
  | ok attributes =>
    dsimp only
    rw [ConvertM.run_bind_of_ok (ConvertM.run_ofExcept _),
      ConvertM.run_bind_of_ok (ConvertM.run_enter_advance rfl)]
    cases c.handlers.build s attributes with
    | error e => exact ConvertM.run_bind_of_error (ConvertM.run_ofExcept _)
    | ok buckets =>
      dsimp only
      rw [ConvertM.run_bind_of_ok (ConvertM.run_ofExcept _),
        ConvertM.run_bind_of_ok (ConvertM.run_enter_advance rfl)]
      have hresolve := resolveRequires_run (c := c) hc (ctx.advance .resolvingDeps) s
      rw [Context.advance_packageManager] at hresolve
      cases hm : (c.applicable ctx.packageManager s).mapM
          (nestedResult compiler (ctx.advance .resolvingDeps)) with
      | error e =>
        rw [hm] at hresolve
        exact ConvertM.run_bind_of_error hresolve
      | ok maps =>
        rw [hm] at hresolve
        rw [ConvertM.run_bind_of_ok hresolve, ConvertM.run_bind_of_ok ConvertM.run_get,
          ConvertM.run_bind_of_ok (ConvertM.run_enter_advance rfl), ConvertM.run_pure,
          Context.advance_packageManager]

/-- Compiling leaves nested contexts as they were if converting prerequisites does. -/
theorem compileWith_neutral (hc : Neutral compiler) : Neutral (c.compileWith compiler) := by
  intro step s params ctx hd
  rw [compileWith_run hc (fun h => absurd h (by omega))]
  simp only [Context.advance_of_pos hd]
  repeat' split
  all_goals rfl

theorem refuse_neutral : Neutral fun _ _ _ => ConvertM.refuse := fun _ _ _ _ _ => rfl

/-- Below the top level a compilation gives the context back as it got it, whether it fails or
not. -/
theorem compileAt_neutral (room : Nat) : Neutral (c.compileAt room) := by
  induction room with
  | zero => exact compileWith_neutral refuse_neutral
  | succ room ih => exact compileWith_neutral ih

theorem compile_neutral : Neutral c.compile := compileAt_neutral maxDepth

end Converter

end Provision
