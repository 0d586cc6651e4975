import Mathlib.Data.List.Chain
import Provision.Conversion.Basic
import Provision.Proofs.Conversion.Compiled
import Provision.Proofs.Handler.Outcome

/-!
# Why a compilation fails

With the standard handlers a compilation fails for one of three reasons (`CompileFault`): no
parameter is known, attributes cannot be sorted into states, or prerequisites are nested too deeply.
The last is the only fault of the pipeline itself, and it says something about the registry: from
the module on there is a chain of requirements that is longer than what is left of the depth. The
induction is on the room for nesting (`compileAt_fault`), and one level of it is
`compileWith_fault`. The other way round a chain that long leaves no way to succeed
(`Compiled.length_lt`).
-/

namespace Provision

namespace Registry

variable {r : Registry} {pm : PackageManager} {s s' : Schema} {n : Nat}

/-- One module requires the other, which is registered and can run with a package manager. -/
def Needs (r : Registry) (pm : PackageManager) (s s' : Schema) : Prop :=
  ∃ p ∈ s.requires, r.get? p.module = some s' ∧ s'.runsWith pm = true

/-- A chain of more than so many requirements begins at a module. -/
def NestsOver (r : Registry) (pm : PackageManager) (n : Nat) (s : Schema) : Prop :=
  ∃ l : List Schema, n < l.length ∧ (s :: l).IsChain (r.Needs pm)

theorem Needs.nestsOver (h : r.Needs pm s s') : r.NestsOver pm 0 s :=
  ⟨[s'], Nat.one_pos, List.isChain_cons_cons.2 ⟨h, List.isChain_singleton s'⟩⟩

/-- One more requirement in front makes a chain longer by one. -/
theorem NestsOver.cons (h : r.NestsOver pm n s') (hs : r.Needs pm s s') :
    r.NestsOver pm (n + 1) s := by
  obtain ⟨l, hlength, hchain⟩ := h
  exact ⟨s' :: l, Nat.succ_lt_succ hlength, List.isChain_cons_cons.2 ⟨hs, hchain⟩⟩

end Registry

/-- What can go wrong in compiling a step of a module, with so many levels left for its
prerequisites. -/
inductive CompileFault (r : Registry) (pm : PackageManager) (levels : Nat) (s : Schema) :
    ConvertError → Prop
  | unknown (module : String) : CompileFault r pm levels s (.emptyMapping module)
  | unsorted (module : String) (cause : BuildFault) :
      CompileFault r pm levels s (.buildFailure module cause)
  | tooDeep (stage : Stage) (h : r.NestsOver pm levels s) :
      CompileFault r pm levels s (.internal stage (.tooDeep maxDepth))

/-- A fault of a prerequisite is a fault of the module that requires it. -/
theorem CompileFault.of_needs {r : Registry} {pm : PackageManager} {levels : Nat} {s s' : Schema}
    {e : ConvertError} (h : CompileFault r pm levels s' e) (hs : r.Needs pm s s') :
    CompileFault r pm (levels + 1) s e := by
  cases h with
  | unknown module => exact .unknown module
  | unsorted module cause => exact .unsorted module cause
  | tooDeep stage hnests => exact .tooDeep stage (hnests.cons hs)

namespace Converter

variable {c : Converter} {compiler : Compiler} {ctx : Context} {pm : PackageManager}
  {levels room : Nat} {step : String} {s : Schema} {params : Parameters} {m : DocumentMap}
  {e : ConvertError}

theorem needs_of_mem_applicable {q : Prerequisite × Schema} (hq : q ∈ c.applicable pm s) :
    c.registry.Needs pm s q.2 := by
  obtain ⟨hp, hget, hruns⟩ := mem_applicable.1 hq
  exact ⟨q.1, hp, hget, hruns⟩

/-! ## One level -/

/-- A prerequisite fails because there is no depth left for it, or because it fails by itself. -/
theorem nestedResult_fault {q : Prerequisite × Schema} (hq : q ∈ c.applicable ctx.packageManager s)
    (hdeep : ctx.depth < maxDepth → ∀ e,
      ((compiler requireStep q.2 q.1.parameters).run ctx.deeper).1 = .error e →
        CompileFault c.registry ctx.packageManager (maxDepth - (ctx.depth + 1)) q.2 e)
    (h : nestedResult compiler ctx q = .error e) :
    CompileFault c.registry ctx.packageManager (maxDepth - ctx.depth) s e := by
  have hneeds := needs_of_mem_applicable hq
  rw [nestedResult_eq] at h
  by_cases hd : maxDepth ≤ ctx.depth
  · rw [if_pos hd] at h
    cases h
    rw [Nat.sub_eq_zero_of_le hd]
    exact .tooDeep _ hneeds.nestsOver
  · rw [if_neg hd] at h
    rw [show maxDepth - ctx.depth = maxDepth - (ctx.depth + 1) + 1 by omega]
    exact (hdeep (by omega) e h).of_needs hneeds

/-- A compilation fails in renaming, in sorting or in a prerequisite. No stage is refused. -/
theorem compileWith_fault (hc : Neutral compiler) (hhandlers : c.handlers = .standard)
    (hctx : ctx.depth = 0 → ctx.stage = .validating)
    (hnested : ∀ q ∈ c.applicable ctx.packageManager s, ∀ e,
      nestedResult compiler (ctx.advance .resolvingDeps) q = .error e →
        CompileFault c.registry ctx.packageManager levels s e)
    (h : ((c.compileWith compiler step s params).run ctx).1 = .error e) :
    CompileFault c.registry ctx.packageManager levels s e := by
  rw [compileWith_run hc hctx] at h
  cases hr : s.rename params with
  | error e' =>
    simp only [hr] at h
    cases h
    unfold Schema.rename at hr
    dsimp only at hr
    split at hr
    · cases hr
      exact .unknown s.id
    · cases hr
  | ok attributes =>
    cases hb : c.handlers.build s attributes with
    | error e' =>
      simp only [hr, hb] at h
      cases h
      have hgives := HandlerTable.build_standard s attributes
      rw [← hhandlers, hb] at hgives
      obtain ⟨cause, rfl⟩ := hgives
      exact .unsorted s.id cause
    | ok buckets =>
      cases hm : (c.applicable ctx.packageManager s).mapM
          (nestedResult compiler (ctx.advance .resolvingDeps)) with
      | error e' =>
        simp only [hr, hb, hm] at h
        cases h
        obtain ⟨q, hq, he⟩ := exists_of_mapM_eq_error hm
        exact hnested q hq _ he
      | ok maps =>
        simp only [hr, hb, hm] at h
        cases h

/-! ## All levels -/

/-- A compilation fails for one of the reasons in the list, whatever the room, if only it is enough
for the depth. -/
theorem compileAt_fault (hhandlers : c.handlers = .standard)
    (hctx : ctx.depth = 0 → ctx.stage = .validating) (hroom : maxDepth ≤ room + ctx.depth)
    (h : ((c.compileAt room step s params).run ctx).1 = .error e) :
    CompileFault c.registry ctx.packageManager (maxDepth - ctx.depth) s e := by
  -- on the room; where there is none the context is at full depth
  induction room generalizing ctx step s params e with
  | zero =>
    refine compileWith_fault refuse_neutral hhandlers hctx (fun q hq e he => ?_) h
    rw [← Context.advance_packageManager .resolvingDeps] at hq ⊢
    rw [← Context.advance_depth .resolvingDeps]
    refine nestedResult_fault hq (fun hd => ?_) he
    rw [Context.advance_depth] at hd
    omega
  | succ room ih =>
    refine compileWith_fault (compileAt_neutral room) hhandlers hctx (fun q hq e he => ?_) h
    rw [← Context.advance_packageManager .resolvingDeps] at hq ⊢
    rw [← Context.advance_depth .resolvingDeps]
    refine nestedResult_fault hq (fun _ e' he' => ?_) he
    refine ih (fun hd => absurd hd (Nat.succ_ne_zero _)) ?_ he'
    rw [Context.deeper_depth, Context.advance_depth]
    omega

/-- A compilation in a context in which nothing was entered yet, or below the top level. -/
theorem compile_fault (hhandlers : c.handlers = .standard)
    (hctx : ctx.depth = 0 → ctx.stage = .validating)
    (h : ((c.compile step s params).run ctx).1 = .error e) :
    CompileFault c.registry ctx.packageManager (maxDepth - ctx.depth) s e :=
  compileAt_fault hhandlers hctx (Nat.le_add_right _ _) h

/-- Resolving requirements in a context at any stage and depth. -/
theorem requirements_fault (hhandlers : c.handlers = .standard)
    (h : ((c.requirements s).run ctx).1 = .error e) :
    CompileFault c.registry ctx.packageManager (maxDepth - ctx.depth) s e := by
  rw [requirements, resolveRequires_run compile_neutral] at h
  cases hm : (c.applicable ctx.packageManager s).mapM (nestedResult c.compile ctx) with
  | ok maps =>
    rw [hm] at h
    cases h
  | error e' =>
    rw [hm] at h
    cases h
    obtain ⟨q, hq, he⟩ := exists_of_mapM_eq_error hm
    refine nestedResult_fault hq (fun _ e' he' => ?_) he
    exact compile_fault hhandlers (fun hd => absurd hd (Nat.succ_ne_zero _)) he'

/-! ## No success -/

/-- What is compiled has levels enough for every chain of requirements. -/
theorem Compiled.length_lt (h : c.Compiled pm levels step s params m) {l : List Schema}
    (hl : (s :: l).IsChain (c.registry.Needs pm)) : l.length < levels := by
  induction h generalizing l with
  | intro docs renamed built nested ih =>
    cases l with
    | nil => exact Nat.succ_pos _
    | cons s' l =>
      obtain ⟨⟨p, hp, hget, hruns⟩, hrest⟩ := List.isChain_cons_cons.1 hl
      exact Nat.succ_lt_succ (ih (p, s') (mem_applicable.2 ⟨hp, hget, hruns⟩) hrest)

/-- What could be compiled is not nested deeper than there were levels. -/
theorem Compiled.not_nestsOver (h : c.Compiled pm (levels + 1) step s params m) :
    ¬ c.registry.NestsOver pm levels s := by
  intro hnests
  obtain ⟨l, hlength, hchain⟩ := hnests
  have hlt := h.length_lt hchain
  omega

/-- Prerequisites that could be resolved are not nested deeper than what was left of the depth. -/
theorem not_nestsOver_of_requirements (h : ((c.requirements s).run ctx).1 = .ok m) :
    ¬ c.registry.NestsOver ctx.packageManager (maxDepth - ctx.depth) s := by
  obtain ⟨-, docs, hdocs, -⟩ := requirements_run_eq_ok_iff.1 (Prod.ext h rfl)
  intro hnests
  obtain ⟨l, hlength, hchain⟩ := hnests
  cases l with
  | nil => exact absurd hlength (Nat.not_lt_zero _)
  | cons s' l =>
    obtain ⟨⟨p, hp, hget, hruns⟩, hrest⟩ := List.isChain_cons_cons.1 hchain
    have hlt := (hdocs (p, s') (mem_applicable.2 ⟨hp, hget, hruns⟩)).length_lt hrest
    rw [List.length_cons] at hlength
    omega

end Converter

end Provision
