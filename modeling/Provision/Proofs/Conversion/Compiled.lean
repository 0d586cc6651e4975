import Provision.Proofs.Conversion.Run
import Provision.Proofs.Results

/-!
# What a conversion compiles to

`Compiled c pm levels step s params m` says that a step of the module `s` compiles to the documents
`m` on a host with the package manager `pm`, with at most `levels` modules inside each other. It is
`compileAt` without the context, the stages and the room: one constructor, whose premises are the
results of renaming, building and compiling the prerequisites. Whatever holds of all compiled
documents is proved by induction on it, and the induction hypothesis is there for every applicable
prerequisite.

`compileAt_run_eq_ok_iff` says that nothing is lost: a run succeeds with `m` exactly if `m` is
compiled with the levels that are left at the context's depth. `convert_eq_ok_iff` says the same of
a whole conversion, which checks the request before and takes the version pins apart after.
-/

namespace Provision

namespace Converter

variable {c : Converter} {ctx ctx' : Context} {pm : PackageManager} {step : String} {s : Schema}
  {params : Parameters} {m : DocumentMap}

/-- The documents of a module's prerequisites in one map, if these are the documents of each. -/
def required (c : Converter) (pm : PackageManager) (s : Schema)
    (docs : Prerequisite × Schema → DocumentMap) : DocumentMap :=
  DocumentMap.merge ((c.applicable pm s).map docs)

/-- A step of a module compiles to a map of documents, with at most so many modules inside each
other. -/
inductive Compiled (c : Converter) (pm : PackageManager) :
    Nat → String → Schema → Parameters → DocumentMap → Prop
  /-- The attributes are renamed and sorted into states, the prerequisites are compiled one level
  deeper, and everything goes into one map. -/
  | intro {levels : Nat} {step : String} {s : Schema} {params : Parameters}
      {attributes : Attributes} {buckets : Buckets} (docs : Prerequisite × Schema → DocumentMap)
      (renamed : s.rename params = .ok attributes)
      (built : c.handlers.build s attributes = .ok buckets)
      (nested : ∀ q ∈ c.applicable pm s,
        Compiled c pm levels requireStep q.2 q.1.parameters (docs q)) :
      Compiled c pm (levels + 1) step s params
        (assemble s step (c.required pm s docs)
          (s.triggerDocuments c.registry pm step params) buckets)

/-- A module that requires and triggers nothing compiles to its own documents. -/
theorem Compiled.of_leaf {levels : Nat} {attributes : Attributes} {buckets : Buckets}
    (hrequires : s.requires = []) (htriggers : s.triggers = [])
    (hrename : s.rename params = .ok attributes)
    (hbuild : c.handlers.build s attributes = .ok buckets) :
    c.Compiled pm (levels + 1) step s params (assemble s step ∅ ∅ buckets) := by
  have happlicable : c.applicable pm s = [] := by
    unfold applicable
    rw [hrequires]
    rfl
  have hrequired : c.required pm s (fun _ => ∅) = ∅ := by
    unfold required
    rw [happlicable]
    rfl
  have hnothing : s.triggerDocuments c.registry pm step params = ∅ := by
    unfold Schema.triggerDocuments
    rw [htriggers]
    rfl
  have hnested : ∀ q ∈ c.applicable pm s,
      c.Compiled pm levels requireStep q.2 q.1.parameters ∅ := by
    simp [happlicable]
  have hcompiled : c.Compiled pm (levels + 1) step s params _ :=
    .intro (fun _ => ∅) hrename hbuild hnested
  rw [hrequired, hnothing] at hcompiled
  exact hcompiled

/-- More levels do no harm. -/
theorem Compiled.mono {levels levels' : Nat} (h : c.Compiled pm levels step s params m)
    (hl : levels ≤ levels') : c.Compiled pm levels' step s params m := by
  induction h generalizing levels' with
  | intro docs renamed built nested ih =>
    obtain ⟨levels', rfl⟩ : ∃ k, levels' = k + 1 := ⟨levels' - 1, by omega⟩
    exact .intro docs renamed built fun q hq => ih q hq (by omega)

/-- A step compiles to one map only. -/
theorem Compiled.unique {levels levels' : Nat} {m' : DocumentMap}
    (h : c.Compiled pm levels step s params m) (h' : c.Compiled pm levels' step s params m') :
    m = m' := by
  induction h generalizing levels' m' with
  | intro docs renamed built nested ih =>
    -- renaming and building are functions, and the prerequisites are equal by hypothesis
    cases h' with
    | intro docs' renamed' built' nested' =>
      rw [renamed] at renamed'
      cases renamed'
      rw [built] at built'
      cases built'
      have hdocs : (c.applicable pm _).map docs = (c.applicable pm _).map docs' :=
        List.map_congr_left fun q hq => ih q hq (nested' q hq)
      unfold required
      rw [hdocs]

/-- If converting a prerequisite means to compile it with some levels, a run means to compile with
one level more. -/
theorem compileWith_run_eq_ok_iff {compiler : Compiler} (hc : Neutral compiler)
    (hctx : ctx.depth = 0 → ctx.stage = .validating) {levels : Nat}
    (hnested : ∀ q docs, nestedResult compiler (ctx.advance .resolvingDeps) q = .ok docs ↔
      c.Compiled ctx.packageManager levels requireStep q.2 q.1.parameters docs) :
    (c.compileWith compiler step s params).run ctx = (.ok m, ctx') ↔
      ctx' = ctx.advance .tagging ∧ c.Compiled ctx.packageManager (levels + 1) step s params m := by
  rw [compileWith_run hc hctx]
  constructor
  · intro h
    cases hr : s.rename params with
    | error e =>
      rw [hr] at h
      cases h
    | ok attributes =>
      cases hb : c.handlers.build s attributes with
      | error e =>
        simp only [hr, hb] at h
        cases h
      | ok buckets =>
        cases hm : (c.applicable ctx.packageManager s).mapM
            (nestedResult compiler (ctx.advance .resolvingDeps)) with
        | error e =>
          simp only [hr, hb, hm] at h
          cases h
        | ok maps =>
          simp only [hr, hb, hm] at h
          cases h
          obtain ⟨docs, hdocs, rfl⟩ := mapM_eq_ok_iff.1 hm
          exact ⟨rfl, .intro docs hr hb fun q hq => (hnested q (docs q)).1 (hdocs q hq)⟩
  · intro h
    obtain ⟨rfl, ⟨docs, hr, hb, hdocs⟩⟩ := h
    have hm := mapM_eq_ok_iff.2 ⟨docs, fun q hq => (hnested q (docs q)).2 (hdocs q hq), rfl⟩
    simp only [hr, hb, hm]
    rfl

/-- Converting a prerequisite means to compile it with the levels that are left; at full depth none
is. -/
theorem nestedResult_eq_ok_iff {compiler : Compiler} (hc : Neutral compiler)
    (hdeep : ctx.depth < maxDepth → ∀ step s params m,
      (compiler step s params).run ctx.deeper = (.ok m, ctx.deeper) ↔
        c.Compiled ctx.packageManager (maxDepth - ctx.depth) step s params m)
    (q : Prerequisite × Schema) :
    nestedResult compiler ctx q = .ok m ↔
      c.Compiled ctx.packageManager (maxDepth - ctx.depth) requireStep q.2 q.1.parameters m := by
  rw [nestedResult_eq]
  by_cases hd : maxDepth ≤ ctx.depth
  · rw [if_pos hd, show maxDepth - ctx.depth = 0 by omega]
    constructor
    · intro h
      cases h
    · intro h
      cases h
  · have hback := hc requireStep q.2 q.1.parameters ctx.deeper (Nat.succ_pos _)
    rw [if_neg hd, ← hdeep (by omega), Prod.ext_iff]
    exact (and_iff_left hback).symm

/-- A run succeeds exactly with the compiled documents that need no more levels than are left. -/
theorem compileAt_run_eq_ok_iff {room : Nat} (hctx : ctx.depth = 0 → ctx.stage = .validating)
    (hroom : maxDepth ≤ room + ctx.depth) :
    (c.compileAt room step s params).run ctx = (.ok m, ctx') ↔
      ctx' = ctx.advance .tagging ∧
      c.Compiled ctx.packageManager (maxDepth - ctx.depth + 1) step s params m := by
  -- on the room; a prerequisite is one level deeper and has one room less, so there is always
  -- enough
  induction room generalizing ctx ctx' step s params m with
  | zero =>
    -- without room the context is at full depth, and it refuses prerequisites before the compiler
    -- does
    refine compileWith_run_eq_ok_iff refuse_neutral hctx fun q docs => ?_
    have hfull : ¬ (ctx.advance .resolvingDeps).depth < maxDepth := by
      rw [Context.advance_depth]
      omega
    rw [nestedResult_eq_ok_iff refuse_neutral (fun h => absurd h hfull), Context.advance_depth,
      Context.advance_packageManager]
  | succ room ih =>
    have hroom' : maxDepth ≤ room + (ctx.advance .resolvingDeps).deeper.depth := by
      rw [Context.deeper_depth, Context.advance_depth]
      omega
    refine compileWith_run_eq_ok_iff (compileAt_neutral room) hctx fun q docs => ?_
    rw [nestedResult_eq_ok_iff (c := c) (compileAt_neutral room), Context.advance_depth,
      Context.advance_packageManager]
    intro hd step' s' params' m'
    rw [ih (fun h => absurd h (Nat.succ_ne_zero _)) hroom', Context.deeper_advance,
      and_iff_right rfl, Context.deeper_packageManager, Context.deeper_depth,
      show maxDepth - ((ctx.advance .resolvingDeps).depth + 1) + 1
        = maxDepth - (ctx.advance .resolvingDeps).depth by omega]

/-- The documents that compiling a step gives, before version pins are taken apart. -/
theorem compile_run_eq_ok_iff (hctx : ctx.depth = 0 → ctx.stage = .validating) :
    (c.compile step s params).run ctx = (.ok m, ctx') ↔
      ctx' = ctx.advance .tagging ∧
      c.Compiled ctx.packageManager (maxDepth - ctx.depth + 1) step s params m :=
  compileAt_run_eq_ok_iff hctx (Nat.le_add_right _ _)

/-- The documents of a module's prerequisites, from a context at any stage and depth. -/
theorem requirements_run_eq_ok_iff :
    (c.requirements s).run ctx = (.ok m, ctx') ↔
      ctx' = ctx ∧ ∃ docs,
        (∀ q ∈ c.applicable ctx.packageManager s,
          c.Compiled ctx.packageManager (maxDepth - ctx.depth) requireStep q.2 q.1.parameters
            (docs q)) ∧
        m = c.required ctx.packageManager s docs := by
  have hnested : ∀ q docs, nestedResult c.compile ctx q = .ok docs ↔
      c.Compiled ctx.packageManager (maxDepth - ctx.depth) requireStep q.2 q.1.parameters docs := by
    intro q docs
    refine nestedResult_eq_ok_iff compile_neutral (fun hd step' s' params' m' => ?_) q
    rw [compile_run_eq_ok_iff (fun h => absurd h (Nat.succ_ne_zero _)), Context.deeper_advance,
      and_iff_right rfl, Context.deeper_packageManager, Context.deeper_depth,
      show maxDepth - (ctx.depth + 1) + 1 = maxDepth - ctx.depth by omega]
  rw [requirements, resolveRequires_run compile_neutral, Prod.mk.injEq, and_comm,
    eq_comm (a := ctx), map_eq_ok_iff]
  refine and_congr_right fun _ => ⟨?_, ?_⟩
  · intro h
    obtain ⟨maps, hmaps, rfl⟩ := h
    obtain ⟨docs, hdocs, rfl⟩ := mapM_eq_ok_iff.1 hmaps
    exact ⟨docs, fun q hq => (hnested q (docs q)).1 (hdocs q hq), rfl⟩
  · intro h
    obtain ⟨docs, hdocs, rfl⟩ := h
    have hmaps := mapM_eq_ok_iff.2 ⟨docs, fun q hq => (hnested q (docs q)).2 (hdocs q hq), rfl⟩
    exact ⟨_, hmaps, rfl⟩

/-- Prerequisites depend on the platform through its package manager only. -/
theorem requirements_start_congr {p p' : Platform} (h : p.packageManager = p'.packageManager) :
    (c.requirements s).run (Context.start p) = (.ok m, Context.start p) ↔
      (c.requirements s).run (Context.start p') = (.ok m, Context.start p') := by
  rw [requirements_run_eq_ok_iff, requirements_run_eq_ok_iff, and_iff_right rfl, and_iff_right rfl,
    Context.start_packageManager, Context.start_packageManager, h]
  rfl

/-! ## Whole conversions -/

/-- Compiling on a context of its own. -/
theorem compile_start_eq_ok_iff {platform : Platform} :
    ((c.compile step s params).run (Context.start platform)).1 = .ok m ↔
      c.Compiled platform.packageManager (maxDepth + 1) step s params m := by
  have hiff : ∀ ctx', (c.compile step s params).run (Context.start platform) = (.ok m, ctx') ↔
      ctx' = (Context.start platform).advance .tagging ∧
      c.Compiled platform.packageManager (maxDepth + 1) step s params m :=
    fun _ => compile_run_eq_ok_iff fun _ => rfl
  constructor
  · intro h
    exact ((hiff _).1 (Prod.ext h rfl)).2
  · intro h
    rw [(hiff _).2 ⟨rfl, h⟩]

/-- Compiling on a context of its own, step by step. -/
theorem compile_start_eq_ok_iff_assemble {platform : Platform} :
    ((c.compile step s params).run (Context.start platform)).1 = .ok m ↔
      ∃ attributes buckets requires,
        s.rename params = .ok attributes ∧ c.handlers.build s attributes = .ok buckets ∧
        (c.requirements s).run (Context.start platform) = (.ok requires, Context.start platform) ∧
        m = assemble s step requires
          (s.triggerDocuments c.registry platform.packageManager step params) buckets := by
  rw [compile_start_eq_ok_iff]
  constructor
  · intro h
    cases h with
    | intro docs renamed built nested =>
      exact ⟨_, _, _, renamed, built, requirements_run_eq_ok_iff.2 ⟨rfl, docs, nested, rfl⟩, rfl⟩
  · intro h
    obtain ⟨attributes, buckets, requires, renamed, built, hrequires, rfl⟩ := h
    obtain ⟨-, docs, nested, rfl⟩ := requirements_run_eq_ok_iff.1 hrequires
    exact .intro docs renamed built nested

/-- Two steps of a module whose parameters are renamed in the same way fail with one error, or they
compile to maps of the same own attributes and prerequisites, which differ in the tags and triggers
only. -/
theorem compile_start_agree {platform : Platform} {step' : String} {params' : Parameters}
    (h : s.rename params = s.rename params') :
    AgreeUpTo
      (fun m m' => ∃ attributes buckets requires,
        s.rename params = .ok attributes ∧ c.handlers.build s attributes = .ok buckets ∧
        (c.requirements s).run (Context.start platform) = (.ok requires, Context.start platform) ∧
        m = assemble s step requires
          (s.triggerDocuments c.registry platform.packageManager step params) buckets ∧
        m' = assemble s step' requires
          (s.triggerDocuments c.registry platform.packageManager step' params') buckets)
      ((c.compile step s params).run (Context.start platform)).1
      ((c.compile step' s params').run (Context.start platform)).1 := by
  cases hm : ((c.compile step s params).run (Context.start platform)).1 with
  | ok m =>
    obtain ⟨attributes, buckets, requires, renamed, built, hrequires, rfl⟩ :=
      compile_start_eq_ok_iff_assemble.1 hm
    rw [compile_start_eq_ok_iff_assemble.2
      ⟨attributes, buckets, requires, h ▸ renamed, built, hrequires, rfl⟩]
    exact .ok ⟨attributes, buckets, requires, renamed, built, hrequires, rfl, rfl⟩
  | error e =>
    -- an error comes from renaming, building or a prerequisite, and none of them looks at the step
    have hrun : ∀ step params, (c.compile step s params).run (Context.start platform) = _ :=
      fun step params =>
      compileWith_run (c := c) (compileAt_neutral (maxDepth - 1)) (fun _ => rfl) step s params
    have herror : ((c.compile step' s params').run (Context.start platform)).1 = .error e := by
      rw [hrun] at hm ⊢
      rw [← h]
      cases hr : s.rename params with
      | error e' =>
        rw [hr] at hm
        exact hm
      | ok attributes =>
        cases hb : c.handlers.build s attributes with
        | error e' =>
          simp only [hr, hb] at hm ⊢
          exact hm
        | ok buckets =>
          cases hmaps : (c.applicable (Context.start platform).packageManager s).mapM
              (nestedResult (c.compileAt (maxDepth - 1))
                ((Context.start platform).advance .resolvingDeps)) with
          | error e' =>
            simp only [hr, hb, hmaps] at hm ⊢
            exact hm
          | ok maps =>
            simp only [hr, hb, hmaps] at hm
            cases hm
    rw [herror]
    exact .error e

/-- A run expands what it compiles. -/
theorem run_start (platform : Platform) :
    ((c.run step s params).run (Context.start platform)).1 =
      ((c.compile step s params).run (Context.start platform)).1.bind DocumentMap.expand := by
  cases hr : (c.compile step s params).run (Context.start platform) with
  | mk result ctx' =>
    cases result with
    | error e =>
      have hrun : (c.run step s params).run (Context.start platform) = (.error e, ctx') :=
        ConvertM.run_bind_of_error hr
      rw [hrun]
      rfl
    | ok m =>
      obtain ⟨rfl, -⟩ := (compile_run_eq_ok_iff fun _ => rfl).1 hr
      unfold run
      rw [ConvertM.run_bind_of_ok hr]
      cases hm : m.expand with
      | error e =>
        rw [ConvertM.run_bind_of_error (ConvertM.run_ofExcept _)]
        exact hm.symm
      | ok maps =>
        rw [ConvertM.run_bind_of_ok (ConvertM.run_ofExcept _),
          ConvertM.run_bind_of_ok (ConvertM.run_enter_advance rfl)]
        exact hm.symm

/-- The documents that a step compiles to, before its version pins are taken apart. -/
def documents (c : Converter) (step module : String) (params : Parameters) (platform : String) :
    Except ConvertError DocumentMap := do
  let (s, p) ← c.check step module platform
  ((c.compile step s params).run (Context.start p)).1

variable {module platform : String}

/-- Converting is compiling and then expanding. -/
theorem convert_eq : c.convert step module params platform =
    c.documents step module params platform >>= DocumentMap.expand := by
  unfold convert documents
  cases c.check step module platform with
  | error e => rfl
  | ok found => exact run_start found.2

/-- A conversion succeeds if its documents can be made and expanded. -/
theorem convert_eq_ok_iff {maps : List DocumentMap} :
    c.convert step module params platform = .ok maps ↔
      ∃ m, c.documents step module params platform = .ok m ∧ m.expand = .ok maps := by
  rw [convert_eq, bind_eq_ok_iff]

/-- A request is accepted if the step is not blank, the module has a well-formed name and is
registered, and the platform is known and can run it. -/
theorem check_eq_ok_iff {p : Platform} : c.check step module platform = .ok (s, p) ↔
    Text.isBlankText step.toList = false ∧ isModuleName module = true ∧
      Named.ofName? platform = some p ∧ c.registry.get? module = some s ∧
      s.runsWith p.packageManager = true := by
  unfold check
  cases Text.isBlankText step.toList with
  | true => simp
  | false =>
    cases isModuleName module with
    | false => simp
    | true =>
      cases (Named.ofName? platform : Option Platform) with
      | none => simp
      | some p' =>
        cases c.registry.get? module with
        | none => simp
        | some s' =>
          by_cases hruns : s'.runsWith p'.packageManager = true
          · simp only [hruns, Bool.not_true, Bool.false_eq_true, if_false, if_true, Except.ok.injEq,
              Prod.mk.injEq, Option.some.injEq, true_and]
            constructor
            · intro h
              obtain ⟨rfl, rfl⟩ := h
              exact ⟨rfl, rfl, hruns⟩
            · intro h
              exact ⟨h.2.1, h.1⟩
          · simp only [hruns, Bool.not_true, Bool.false_eq_true, if_false, Option.some.injEq,
              true_and]
            constructor
            · intro h
              cases h
            · intro h
              obtain ⟨rfl, rfl, hruns'⟩ := h
              exact absurd hruns' hruns

/-- A check asks of a step only that it is not blank. -/
theorem check_congr_step {step' : String}
    (h : Text.isBlankText step.toList = Text.isBlankText step'.toList) :
    c.check step module platform = c.check step' module platform := by
  unfold check
  rw [h]

/-- The documents of an accepted request are what its step compiles to, with all levels of
prerequisites. -/
theorem documents_eq_ok_iff :
    c.documents step module params platform = .ok m ↔
      ∃ s p, c.check step module platform = .ok (s, p) ∧
        c.Compiled p.packageManager (maxDepth + 1) step s params m := by
  unfold documents
  rw [bind_eq_ok_iff]
  simp only [Prod.exists, compile_start_eq_ok_iff]

end Converter

end Provision
