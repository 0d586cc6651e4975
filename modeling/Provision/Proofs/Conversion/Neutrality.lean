import Provision.Proofs.Conversion.Depth

/-!
# What a conversion leaves of its context

A context goes into a conversion, through every prerequisite and back out again. Resolving
requirements gives it back as it was, at any stage and depth and whatever fails on the way; so does
compiling below the top level (`compile_neutral`). At the top level the stage is what changes, and
only that: it tells which of renaming, building and resolving failed, or that none did (`Ends`). The
documents depend on nothing in the context but the package manager (`requirements_unique`).

Compiling and resolving call each other with less and less room, while the statements are about the
room at the beginning. That is no difference as long as there is room for the depth that is left
(`compileAt_run_room`), so one equation has both, `compile_run`.
-/

namespace Provision.Converter

variable {c : Converter} {compiler compiler' : Compiler} {ctx ctx' : Context} {step : String}
  {s : Schema} {params : Parameters} {m m' : DocumentMap}

/-! ## Room -/

/-- What a prerequisite gives depends on how it is compiled one level deeper, if there is such a
level. -/
theorem nestedResult_congr {q : Prerequisite × Schema}
    (h : ctx.depth < maxDepth → (compiler requireStep q.2 q.1.parameters).run ctx.deeper
      = (compiler' requireStep q.2 q.1.parameters).run ctx.deeper) :
    nestedResult compiler ctx q = nestedResult compiler' ctx q := by
  rw [nestedResult_eq, nestedResult_eq]
  by_cases hd : maxDepth ≤ ctx.depth
  · rw [if_pos hd, if_pos hd]
  · rw [if_neg hd, if_neg hd, h (by omega)]

/-- What compiles prerequisites matters only by their results. -/
theorem compileWith_run_of_nestedResult_eq (hc : Neutral compiler) (hc' : Neutral compiler')
    (hctx : ctx.depth = 0 → ctx.stage = .validating)
    (h : ∀ q, nestedResult compiler (ctx.advance .resolvingDeps) q
      = nestedResult compiler' (ctx.advance .resolvingDeps) q) :
    (c.compileWith compiler step s params).run ctx =
      (c.compileWith compiler' step s params).run ctx := by
  rw [compileWith_run hc hctx, compileWith_run hc' hctx, funext h]

/-- Any room that is enough for the depth that is left gives the same, also the same errors. -/
theorem compileAt_run_room {room room' : Nat} (hctx : ctx.depth = 0 → ctx.stage = .validating)
    (hroom : maxDepth ≤ room + ctx.depth) (hroom' : maxDepth ≤ room' + ctx.depth) :
    (c.compileAt room step s params).run ctx = (c.compileAt room' step s params).run ctx := by
  -- on both rooms at once; where one of them is at its end the context refuses prerequisites
  induction room generalizing room' ctx step s params with
  | zero =>
    have hfull : ¬ (ctx.advance .resolvingDeps).depth < maxDepth := by
      rw [Context.advance_depth]
      omega
    cases room' with
    | zero => rfl
    | succ room' =>
      exact compileWith_run_of_nestedResult_eq refuse_neutral (compileAt_neutral room') hctx
        fun q => nestedResult_congr fun hd => absurd hd hfull
  | succ room ih =>
    cases room' with
    | zero =>
      refine compileWith_run_of_nestedResult_eq (compileAt_neutral room) refuse_neutral hctx
        fun q => nestedResult_congr fun hd => ?_
      rw [Context.advance_depth] at hd
      omega
    | succ room' =>
      refine compileWith_run_of_nestedResult_eq (compileAt_neutral room)
        (compileAt_neutral room') hctx
        fun q => nestedResult_congr fun _ => ?_
      have hdeeper : (ctx.advance .resolvingDeps).deeper.depth = ctx.depth + 1 := by
        rw [Context.deeper_depth, Context.advance_depth]
      exact ih (fun hd => absurd hd (Nat.succ_ne_zero _)) (by omega) (by omega)

/-- Compiling, with the prerequisites as resolving them gives them. -/
theorem compile_run (hctx : ctx.depth = 0 → ctx.stage = .validating) (step : String) (s : Schema)
    (params : Parameters) :
    (c.compile step s params).run ctx =
      match s.rename params with
      | .error e => (.error e, ctx.advance .mapping)
      | .ok attributes =>
        match c.handlers.build s attributes with
        | .error e => (.error e, ctx.advance .building)
        | .ok buckets =>
          match ((c.requirements s).run (ctx.advance .resolvingDeps)).1 with
          | .error e => (.error e, ctx.advance .resolvingDeps)
          | .ok requires =>
            (.ok (assemble s step requires
              (s.triggerDocuments c.registry ctx.packageManager step params) buckets),
              ctx.advance .tagging) := by
  -- with one room more than needed it is `compile` itself that the prerequisites are left to
  have hroom : (c.compile step s params).run ctx =
      (c.compileAt (maxDepth + 1) step s params).run ctx :=
    compileAt_run_room hctx (by omega) (by omega)
  rw [hroom, requirements, resolveRequires_run compile_neutral, Context.advance_packageManager]
  refine (compileWith_run compile_neutral hctx step s params).trans ?_
  cases s.rename params with
  | error e => rfl
  | ok attributes =>
    dsimp only
    cases c.handlers.build s attributes with
    | error e => rfl
    | ok buckets =>
      dsimp only
      cases (c.applicable ctx.packageManager s).mapM
        (nestedResult c.compile (ctx.advance .resolvingDeps)) <;> rfl

/-! ## Contexts -/

/-- Resolving requirements leaves the context as it was. -/
theorem requirements_neutral : ((c.requirements s).run ctx).2 = ctx := by
  rw [requirements, resolveRequires_run compile_neutral]

/-- Resolving requirements gives one map only, from whatever context with the package manager. -/
theorem requirements_unique (hpm : ctx.packageManager = ctx'.packageManager)
    (h : ((c.requirements s).run ctx).1 = .ok m) (h' : ((c.requirements s).run ctx').1 = .ok m') :
    m = m' := by
  obtain ⟨-, docs, hdocs, rfl⟩ := requirements_run_eq_ok_iff.1 (Prod.ext h rfl)
  obtain ⟨-, docs', hdocs', rfl⟩ := requirements_run_eq_ok_iff.1 (Prod.ext h' rfl)
  rw [← hpm] at hdocs' ⊢
  -- what a prerequisite compiles to does not depend on the context, so the maps agree one by one
  have heq : (c.applicable ctx.packageManager s).map docs =
      (c.applicable ctx.packageManager s).map docs' :=
    List.map_congr_left fun q hq => (hdocs q hq).unique (hdocs' q hq)
  unfold required
  rw [heq]

/-- How compiling a step at the top level ends, and in which stage. -/
inductive Ends (c : Converter) (ctx : Context) (step : String) (s : Schema) (params : Parameters) :
    Except ConvertError DocumentMap → Stage → Prop
  | mapping {e : ConvertError} (renamed : s.rename params = .error e) :
      Ends c ctx step s params (.error e) .mapping
  | building {attributes : Attributes} {e : ConvertError}
      (renamed : s.rename params = .ok attributes)
      (built : c.handlers.build s attributes = .error e) :
      Ends c ctx step s params (.error e) .building
  /-- A prerequisite failed. -/
  | resolving {attributes : Attributes} {buckets : Buckets} {e : ConvertError}
      (renamed : s.rename params = .ok attributes)
      (built : c.handlers.build s attributes = .ok buckets)
      (required : ((c.requirements s).run { ctx with stage := .resolvingDeps }).1 = .error e) :
      Ends c ctx step s params (.error e) .resolvingDeps
  /-- Nothing failed. -/
  | tagging {attributes : Attributes} {buckets : Buckets} {requires : DocumentMap}
      (renamed : s.rename params = .ok attributes)
      (built : c.handlers.build s attributes = .ok buckets)
      (required : ((c.requirements s).run { ctx with stage := .resolvingDeps }).1 = .ok requires) :
      Ends c ctx step s params (.ok (assemble s step requires
        (s.triggerDocuments c.registry ctx.packageManager step params) buckets)) .tagging

/-- A compilation changes nothing of the context but the stage, and the result says which one it
is. -/
theorem compile_ends (hdepth : ctx.depth = 0) (hstage : ctx.stage = .validating) (step : String)
    (s : Schema) (params : Parameters) :
    ∃ result stage, (c.compile step s params).run ctx = (result, { ctx with stage }) ∧
      c.Ends ctx step s params result stage := by
  have hadvance : ∀ stage, ctx.advance stage = { ctx with stage } := fun _ => if_neg (by omega)
  rw [compile_run fun _ => hstage]
  simp only [hadvance]
  cases hr : s.rename params with
  | error e => exact ⟨_, _, rfl, .mapping hr⟩
  | ok attributes =>
    dsimp only
    cases hb : c.handlers.build s attributes with
    | error e => exact ⟨_, _, rfl, .building hr hb⟩
    | ok buckets =>
      dsimp only
      cases hm : ((c.requirements s).run { ctx with stage := .resolvingDeps }).1 with
      | error e => exact ⟨_, _, rfl, .resolving hr hb hm⟩
      | ok requires => exact ⟨_, _, rfl, .tagging hr hb hm⟩

/-- Resolving requirements gives every context back as it was, in success and in failure, and so
does compiling below the top level. At the top level compiling leaves all but the stage, which tells
how it ended. Contexts with one package manager get the same documents for the requirements, if they
get any. -/
theorem context_neutral (c : Converter) (s : Schema) :
    (∀ ctx, ((c.requirements s).run ctx).2 = ctx) ∧
    (∀ step params ctx, 0 < ctx.depth → ((c.compile step s params).run ctx).2 = ctx) ∧
    (∀ step params ctx, ctx.depth = 0 → ctx.stage = .validating →
      ∃ result stage, (c.compile step s params).run ctx = (result, { ctx with stage }) ∧
        c.Ends ctx step s params result stage) ∧
    ∀ (ctx ctx' : Context) m m', ctx.packageManager = ctx'.packageManager →
      ((c.requirements s).run ctx).1 = .ok m → ((c.requirements s).run ctx').1 = .ok m' →
        m = m' := by
  refine ⟨fun _ => requirements_neutral, fun step params ctx => compile_neutral step s params ctx,
    fun step params ctx hdepth hstage => compile_ends hdepth hstage step s params, ?_⟩
  intro ctx ctx' m m' hpm h h'
  exact requirements_unique hpm h h'

/-- The parameters of a storey. -/
def storeyParameters : Parameters := .singleton "name" (.str "top")

/-- One level before the limit. -/
def deepContext : Context := { platform := .ubuntu, stage := .tagging, depth := maxDepth - 1 }

/-- Where the tower is too high by one storey, compiling it ends in resolving. One level before the
limit the third storey fails and leaves the context alone, and the second one has the same
requirements there as it has from a fresh context of another platform. -/
theorem tower_contexts :
    (∃ e, (tower.compile "1" (storey (maxDepth + 1)) storeyParameters).run (Context.start .ubuntu)
      = (.error e, { Context.start .ubuntu with stage := .resolvingDeps })) ∧
    (∃ e, (tower.compile "1" (storey 2) storeyParameters).run deepContext =
      (.error e, deepContext)) ∧
    ∃ m, ((tower.requirements (storey 1)).run deepContext).1 = .ok m ∧
      ((tower.requirements (storey 1)).run (Context.start .debian)).1 = .ok m := by
  refine ⟨?top, ?below, ?same⟩
  case top =>
    obtain ⟨-, -, htop, -⟩ := context_neutral tower (storey (maxDepth + 1))
    obtain ⟨result, stage, hrun, hends⟩ := htop "1" storeyParameters (Context.start .ubuntu) rfl rfl
    have hbuilt : ((storey (maxDepth + 1)).rename storeyParameters >>=
        tower.handlers.build (storey (maxDepth + 1))).isOk = true := by
      decide +kernel
    have hfails : ((tower.compile "1" (storey (maxDepth + 1)) storeyParameters).run
        (Context.start .ubuntu)).1.isOk = false := by
      decide +kernel
    cases hends with
    | mapping renamed =>
      rw [renamed] at hbuilt
      cases hbuilt
    | building renamed built =>
      rw [renamed, ok_bind, built] at hbuilt
      cases hbuilt
    | resolving renamed built required => exact ⟨_, hrun⟩
    | tagging renamed built required =>
      rw [hrun] at hfails
      cases hfails
  case below =>
    obtain ⟨-, hbelow, -, -⟩ := context_neutral tower (storey 2)
    have hfails : ((tower.compile "1" (storey 2) storeyParameters).run deepContext).1
        = .error (.internal .tagging (.tooDeep maxDepth)) := by
      decide +kernel
    exact ⟨_, Prod.ext hfails (hbelow "1" storeyParameters deepContext (by decide))⟩
  case same =>
    obtain ⟨-, -, -, hsame⟩ := context_neutral tower (storey 1)
    obtain ⟨m, hm⟩ := exists_eq_ok_of_isOk
      (show ((tower.requirements (storey 1)).run deepContext).1.isOk = true by decide +kernel)
    obtain ⟨m', hm'⟩ := exists_eq_ok_of_isOk
      (show ((tower.requirements (storey 1)).run (Context.start .debian)).1.isOk = true by
        decide +kernel)
    refine ⟨m, hm, ?_⟩
    rw [hsame deepContext (Context.start .debian) m m' rfl hm hm', hm']

end Provision.Converter
