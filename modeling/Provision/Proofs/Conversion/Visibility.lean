import Provision.Proofs.Conversion.Assembled
import Provision.Proofs.Conversion.Compiled
import Provision.Proofs.Registry.Check

/-!
# What a conversion sees of its registry

A conversion looks at the schema of its module, at those of the prerequisites that can run with the
host's package manager, at their prerequisites, and so on (`Registry.Reached`), and of the modules
that these trigger it looks at those that can run (`Registry.Triggered`). Of all others it finds out
no more than that they cannot run. So two registries that are `Alike` for a module, which means that
they agree on what is visible and that what is not visible is bound to another package manager in
both, cannot be told apart by converting the module, be it by the documents or by the error. The
induction is on the room for nesting and goes through two runs at once (`compileAt_run_congr`); one
step of it is `compileWith_run_congr`.
-/

namespace Provision

namespace Registry

variable {r r' : Registry} {pm : PackageManager} {m x y : String} {s : Schema}

/-- The module itself, and along requirements the modules that can run with a package manager. -/
inductive Reached (r : Registry) (pm : PackageManager) (m : String) : String → Prop
  | self : Reached r pm m m
  | required {x y : String} {s s' : Schema} (hx : Reached r pm m x) (hs : r.get? x = some s)
      (hy : y ∈ s.requires.map (·.module)) (hs' : r.get? y = some s')
      (hruns : s'.runsWith pm = true) :
      Reached r pm m y

/-- The modules that a reached one triggers and that can run with a package manager. -/
def Triggered (r : Registry) (pm : PackageManager) (m y : String) : Prop :=
  ∃ x s s', r.Reached pm m x ∧ r.get? x = some s ∧ y ∈ s.triggers.map (·.module) ∧
    r.get? y = some s' ∧ s'.runsWith pm = true

/-- The modules whose schemas a conversion of `m` can look at. -/
def Visible (r : Registry) (pm : PackageManager) (m x : String) : Prop :=
  r.Reached pm m x ∨ r.Triggered pm m x

/-- A module is bound to another package manager, unless it is not even registered. -/
def Foreign (r : Registry) (pm : PackageManager) (m : String) : Prop :=
  ∀ s ∈ r.get? m, s.runsWith pm = false

instance : Decidable (r.Foreign pm m) :=
  inferInstanceAs (Decidable (∀ s ∈ r.get? m, s.runsWith pm = false))

/-- Two registries agree on what a conversion of `m` can look at, and whatever else the reached
modules name is bound to another package manager in both. Which modules are visible is read off the
first one; in the second one they are the same. -/
structure Alike (r r' : Registry) (pm : PackageManager) (m : String) : Prop where
  /-- Visible modules have the same schema, or none, in both. -/
  visible : ∀ x, r.Visible pm m x → r.get? x = r'.get? x
  /-- The other modules that are named cannot run. -/
  others : ∀ x s y, r.Reached pm m x → r.get? x = some s → y ∈ s.references → ¬ r.Visible pm m y →
    r.Foreign pm y ∧ r'.Foreign pm y

/-- A foreign module is no different from one that is not registered. -/
theorem Foreign.filter_get? (h : r.Foreign pm y) : (r.get? y).filter (·.runsWith pm) = none := by
  rw [Option.filter_eq_none_iff]
  intro s hs
  rw [h s hs]
  exact Bool.false_ne_true

/-- What a reached module names and what can run is visible. -/
theorem visible_of_named {s' : Schema} (hx : r.Reached pm m x) (hs : r.get? x = some s)
    (hy : y ∈ s.references) (hs' : r.get? y = some s') (hruns : s'.runsWith pm = true) :
    r.Visible pm m y := by
  rcases List.mem_append.1 hy with hrequired | htriggered
  · exact .inl (.required hx hs hrequired hs' hruns)
  · exact .inr ⟨x, s, s', hx, hs, htriggered, hs', hruns⟩

/-- What a conversion finds out about a module that a reached one names is the same in both. -/
theorem Alike.filter_get? (h : Alike r r' pm m) (hx : r.Reached pm m x) (hs : r.get? x = some s)
    (hy : y ∈ s.references) :
    (r.get? y).filter (·.runsWith pm) = (r'.get? y).filter (·.runsWith pm) := by
  by_cases hvisible : r.Visible pm m y
  · rw [h.visible y hvisible]
  · obtain ⟨hforeign, hforeign'⟩ := h.others x s y hx hs hy hvisible
    rw [hforeign.filter_get?, hforeign'.filter_get?]

/-- It is enough to look at some modules that name no others but foreign ones. -/
theorem alike_of_closed (modules : List String) (hm : m ∈ modules)
    (hsame : ∀ x ∈ modules, r.get? x = r'.get? x)
    (hnamed : ∀ x ∈ modules, ∀ s ∈ r.get? x, ∀ y ∈ s.references,
      y ∈ modules ∨ r.Foreign pm y ∧ r'.Foreign pm y) :
    Alike r r' pm m := by
  -- a module that is named and can run is among the modules
  have hrunning : ∀ x ∈ modules, ∀ s, r.get? x = some s →
      ∀ y ∈ s.references, ∀ s', r.get? y = some s' →
      s'.runsWith pm = true → y ∈ modules := by
    intro x hx s hs y hy s' hs' hruns
    rcases hnamed x hx s hs y hy with hmem | ⟨hforeign, -⟩
    · exact hmem
    · exact absurd hruns (Bool.eq_false_iff.1 (hforeign s' hs'))
  have hreached : ∀ x, r.Reached pm m x → x ∈ modules := by
    intro x hx
    induction hx with
    | self => exact hm
    | required _ hs hy hs' hruns ih =>
      exact hrunning _ ih _ hs _ (List.mem_append_left _ hy) _ hs' hruns
  constructor
  · intro x hx
    rcases hx with hx | ⟨x', s, s', hx', hs, hy, hs', hruns⟩
    · exact hsame x (hreached x hx)
    · exact hsame x (hrunning x' (hreached x' hx') s hs x (List.mem_append_right _ hy) s' hs' hruns)
  · intro x s y hx hs hy hvisible
    have hforeign : r.Foreign pm y := fun s' hs' =>
      Bool.eq_false_iff.2 fun hruns => hvisible (visible_of_named hx hs hy hs' hruns)
    refine ⟨hforeign, ?_⟩
    rcases hnamed x (hreached x hx) s hs y hy with hmem | ⟨-, hforeign'⟩
    · unfold Foreign
      rw [← hsame y hmem]
      exact hforeign
    · exact hforeign'

end Registry

namespace Context

variable {ctx : Context} {p : Platform}

/-- The context of the same conversion on another platform. -/
def on (ctx : Context) (p : Platform) : Context := { ctx with platform := p }

@[simp] theorem on_depth : (ctx.on p).depth = ctx.depth := rfl

@[simp] theorem on_stage : (ctx.on p).stage = ctx.stage := rfl

@[simp] theorem on_packageManager : (ctx.on p).packageManager = p.packageManager := rfl

@[simp] theorem on_deeper : (ctx.on p).deeper = ctx.deeper.on p := rfl

@[simp] theorem on_advance (stage : Stage) :
    (ctx.on p).advance stage = (ctx.advance stage).on p := by
  unfold advance
  rw [on_depth]
  split <;> rfl

end Context

/-- What a trigger makes depends on its module only if that can run. -/
theorem Trigger.document?_eq (t : Trigger) (r : Registry) (pm : PackageManager) (step : String)
    (params : Parameters) :
    t.document? r pm step params = ((r.get? t.module).filter (·.runsWith pm)).bind fun s => do
      guard (!(t.attributesFor params).isEmpty)
      return (tag t.module step s.defaultState,
        { resourceType := s.resourceType, state := s.defaultState,
          attributes := t.attributesFor params, scope := some .shared }) := by
  unfold document?
  cases r.get? t.module with
  | none => rfl
  | some s =>
    rw [Option.filter_some]
    cases hruns : s.runsWith pm with
    | false => simp [hruns]
    | true => simp [hruns]

namespace Converter

variable {c c' : Converter} {compiler compiler' : Compiler} {ctx : Context} {pm : PackageManager}
  {p p' : Platform} {m x step module platform platform' : String} {s : Schema} {params : Parameters}

/-! ## One step -/

/-- Registries that look alike have the same prerequisites of reached modules. -/
theorem applicable_congr (h : c.registry.Alike c'.registry pm m) (hx : c.registry.Reached pm m x)
    (hs : c.registry.get? x = some s) : c.applicable pm s = c'.applicable pm s := by
  refine List.filterMap_congr fun q hq => ?_
  unfold runnable?
  rw [h.filter_get? hx hs (List.mem_append_left _ (List.mem_map_of_mem hq))]

/-- The triggers of a reached module make the same documents. -/
theorem triggerDocuments_congr (h : c.registry.Alike c'.registry pm m)
    (hx : c.registry.Reached pm m x) (hs : c.registry.get? x = some s) :
    s.triggerDocuments c.registry pm step params =
      s.triggerDocuments c'.registry pm step params := by
  unfold Schema.triggerDocuments
  congr 1
  refine List.filterMap_congr fun t ht => ?_
  rw [Trigger.document?_eq, Trigger.document?_eq,
    h.filter_get? hx hs (List.mem_append_right _ (List.mem_map_of_mem ht))]

/-- The prerequisites of a reached module are reached. -/
theorem reached_of_mem_applicable (hx : c.registry.Reached pm m x) (hs : c.registry.get? x = some s)
    {q : Prerequisite × Schema} (hq : q ∈ c.applicable pm s) :
    c.registry.Reached pm m q.1.module ∧ c.registry.get? q.1.module = some q.2 := by
  obtain ⟨hrequired, hget, hruns⟩ := mem_applicable.1 hq
  exact ⟨.required hx hs (List.mem_map_of_mem hrequired) hget hruns, hget⟩

/-- Two converters that find the same for the prerequisites and the triggers of a module, and
convert the prerequisites alike, give the same result on platforms with one package manager. -/
theorem compileWith_run_congr (hc : Neutral compiler) (hc' : Neutral compiler')
    (hctx : ctx.depth = 0 → ctx.stage = .validating) (hpm : ctx.packageManager = pm)
    (hp : p.packageManager = pm) (hhandlers : c.handlers = c'.handlers)
    (happlicable : c.applicable pm s = c'.applicable pm s)
    (htriggers : s.triggerDocuments c.registry pm step params
      = s.triggerDocuments c'.registry pm step params)
    (hnested : ∀ q ∈ c.applicable pm s,
      nestedResult compiler (ctx.advance .resolvingDeps) q
        = nestedResult compiler' ((ctx.advance .resolvingDeps).on p) q) :
    ((c.compileWith compiler step s params).run ctx).1
      = ((c'.compileWith compiler' step s params).run (ctx.on p)).1 := by
  rw [compileWith_run hc hctx, compileWith_run hc' (by simpa using hctx)]
  simp only [Context.on_packageManager, hpm, hp, ← happlicable, ← htriggers, ← hhandlers,
    Context.on_advance]
  rw [← mapM_congr_of_mem hnested]
  cases s.rename params with
  | error e => rfl
  | ok attributes =>
    dsimp only
    cases c.handlers.build s attributes with
    | error e => rfl
    | ok buckets =>
      dsimp only
      cases (c.applicable pm s).mapM (nestedResult compiler (ctx.advance .resolvingDeps)) <;> rfl

/-! ## A whole run -/

/-- Compiling a reached module gives the same result with any room for nesting. -/
theorem compileAt_run_congr (h : c.registry.Alike c'.registry pm m)
    (hhandlers : c.handlers = c'.handlers) (hp : p.packageManager = pm) {room : Nat}
    (hctx : ctx.depth = 0 → ctx.stage = .validating) (hpm : ctx.packageManager = pm)
    (hx : c.registry.Reached pm m x) (hs : c.registry.get? x = some s) :
    ((c.compileAt room step s params).run ctx).1
      = ((c'.compileAt room step s params).run (ctx.on p)).1 := by
  induction room generalizing ctx x step s params with
  | zero =>
    -- there is no room for prerequisites, and the refusal does not name the platform
    refine compileWith_run_congr refuse_neutral refuse_neutral hctx hpm hp hhandlers
      (applicable_congr h hx hs) (triggerDocuments_congr h hx hs) fun q hq => ?_
    rw [nestedResult_eq, nestedResult_eq]
    rfl
  | succ room ih =>
    refine compileWith_run_congr (compileAt_neutral room) (compileAt_neutral room) hctx hpm hp
      hhandlers
      (applicable_congr h hx hs) (triggerDocuments_congr h hx hs) fun q hq => ?_
    obtain ⟨hreached, hget⟩ := reached_of_mem_applicable hx hs hq
    rw [nestedResult_eq, nestedResult_eq, Context.on_depth, Context.on_deeper]
    split
    · rfl
    · refine ih (fun hd => absurd hd (Nat.succ_ne_zero _)) ?_ hreached hget
      rw [Context.deeper_packageManager, Context.advance_packageManager, hpm]

/-- So a whole run comes to the same with both of them. -/
theorem run_start_congr (h : c.registry.Alike c'.registry pm m)
    (hhandlers : c.handlers = c'.handlers) (hp : p.packageManager = pm)
    (hp' : p'.packageManager = pm) (hs : c.registry.get? m = some s) :
    ((c.run step s params).run (Context.start p)).1
      = ((c'.run step s params).run (Context.start p')).1 := by
  have hcompile : ((c.compile step s params).run (Context.start p)).1
      = ((c'.compile step s params).run (Context.start p')).1 :=
    compileAt_run_congr h hhandlers hp' (fun _ => rfl) hp .self hs
  rw [run_start, run_start, hcompile]

/-- Checking a request looks at the module's own schema. -/
theorem check_congr (hplatform : Named.ofName? platform = some p)
    (hplatform' : Named.ofName? platform' = some p') (hpm : p.packageManager = p'.packageManager)
    (hsame : c.registry.get? module = c'.registry.get? module) :
    (∃ e, c.check step module platform = .error e ∧ c'.check step module platform' = .error e) ∨
    (∃ s, c.registry.get? module = some s ∧ c.check step module platform = .ok (s, p) ∧
      c'.check step module platform' = .ok (s, p')) ∨
    (c.check step module platform = .error (.platformConflict platform module) ∧
      c'.check step module platform' = .error (.platformConflict platform' module)) := by
  have hname : Named.name p = platform := Named.ofName?_eq_some_iff.1 hplatform
  have hname' : Named.name p' = platform' := Named.ofName?_eq_some_iff.1 hplatform'
  unfold check
  rw [hplatform, hplatform', ← hsame]
  by_cases hblank : Text.isBlankText step.toList = true
  · rw [if_pos hblank, if_pos hblank]
    exact .inl ⟨_, rfl, rfl⟩
  · rw [if_neg hblank, if_neg hblank]
    by_cases hmodule : (!isModuleName module) = true
    · rw [if_pos hmodule, if_pos hmodule]
      exact .inl ⟨_, rfl, rfl⟩
    · rw [if_neg hmodule, if_neg hmodule]
      cases c.registry.get? module with
      | none => exact .inl ⟨_, rfl, rfl⟩
      | some s =>
        dsimp only
        rw [hname, hname', ← hpm]
        by_cases hruns : s.runsWith p.packageManager = true
        · rw [if_pos hruns, if_pos hruns]
          exact .inr (.inl ⟨s, rfl, rfl, rfl⟩)
        · rw [if_neg hruns, if_neg hruns]
          exact .inr (.inr ⟨rfl, rfl⟩)

/-- Over registries that are alike for a module, and on platforms with one package manager,
converting the module gives the same documents or the same error. Only a conflict of the module
itself with the package manager names the platform. -/
theorem convert_eq_or_conflict (step : String) (params : Parameters)
    (hhandlers : c.handlers = c'.handlers) (hplatform : Named.ofName? platform = some p)
    (hplatform' : Named.ofName? platform' = some p') (hpm : p.packageManager = p'.packageManager)
    (h : c.registry.Alike c'.registry p.packageManager module) :
    c.convert step module params platform = c'.convert step module params platform' ∨
      c.convert step module params platform = .error (.platformConflict platform module) ∧
      c'.convert step module params platform' = .error (.platformConflict platform' module) := by
  unfold convert
  rcases check_congr hplatform hplatform' hpm (h.visible module (.inl .self)) with
    ⟨e, hcheck, hcheck'⟩ | ⟨s, hs, hcheck, hcheck'⟩ | ⟨hcheck, hcheck'⟩
  · rw [hcheck, hcheck', error_bind, error_bind]
    exact .inl rfl
  · rw [hcheck, hcheck', ok_bind, ok_bind]
    exact .inl (run_start_congr h hhandlers rfl hpm.symm hs)
  · rw [hcheck, hcheck', error_bind, error_bind]
    exact .inr ⟨rfl, rfl⟩

/-- An application that needs a package from whichever package manager the host has, and restarts a
service. -/
def appSchemas : List Schema := [
  { id := "app", resourceType := .file, attributes := .singleton "name" "name", states := ["there"],
    requires := [⟨"package.apt", .singleton "name" (.str "tool")⟩,
      ⟨"package.yum", .singleton "name" (.str "tool")⟩],
    triggers := [⟨"restart", [⟨"name", "name"⟩]⟩] },
  { id := "package.apt", resourceType := .pkg, attributes := .singleton "name" "pkgs",
    states := ["in"], packageManager := some .apt },
  { id := "restart", resourceType := .cmd, attributes := .singleton "name" "name",
    states := ["run"] }]

/-- A converter that knows the application, and a package of the other package manager. -/
def appBeside (other : Schema) : Converter where
  registry := .ofList (other :: appSchemas)
  handlers := .standard

/-- The package of the other package manager as a module of its own. -/
def plainOther : Schema :=
  { id := "package.yum", resourceType := .pkg, attributes := .singleton "name" "pkgs",
    states := ["in"], packageManager := some .yum }

/-- The package of the other package manager as a module that restarts the service first. -/
def busyOther : Schema :=
  { id := "package.yum", resourceType := .file, attributes := .singleton "path" "name",
    states := ["there", "gone"], packageManager := some .yum,
    requires := [⟨"restart", .singleton "name" (.str "early")⟩] }

/-- On hosts with the one package manager nothing shows which of the two the registry has. -/
theorem appBeside_other_unseen :
    (∀ other ∈ [plainOther, busyOther],
      ofRegistry (appBeside other).registry = .ok (appBeside other)) ∧
    ∃ maps, (appBeside plainOther).convert "1" "app"
        (.singleton "name" (.str "a")) "debian" = .ok maps ∧
      (appBeside busyOther).convert "1" "app"
        (.singleton "name" (.str "a")) "ubuntu" = .ok maps := by
  let rank (m : String) := if m = "app" then 2 else if m = "package.yum" then 1 else 0
  have hregistry : ∀ other ∈ [plainOther, busyOther],
      ofRegistry (appBeside other).registry = .ok (appBeside other) := by
    simp only [List.forall_mem_cons]
    exact ⟨Registry.ofRegistry_eq_ok_of_rank rank (by decide +kernel) (by decide +kernel),
      Registry.ofRegistry_eq_ok_of_rank rank (by decide +kernel) (by decide +kernel), by simp⟩
  obtain ⟨maps, h⟩ := exists_eq_ok_of_isOk
    (show ((appBeside plainOther).convert "1" "app"
        (.singleton "name" (.str "a")) "debian").isOk = true by
      decide +kernel)
  have halike : (appBeside plainOther).registry.Alike (appBeside busyOther).registry .apt "app" :=
    Registry.alike_of_closed ["app", "package.apt", "restart"] (by decide) (by decide +kernel)
      (by decide +kernel)
  have hhandlers : (appBeside plainOther).handlers = (appBeside busyOther).handlers := rfl
  have hdebian : Named.ofName? "debian" = some Platform.debian := rfl
  have hubuntu : Named.ofName? "ubuntu" = some Platform.ubuntu := rfl
  refine ⟨hregistry, maps, h, ?_⟩
  rcases convert_eq_or_conflict "1" (.singleton "name" (.str "a")) hhandlers hdebian hubuntu rfl
    halike with heq | ⟨hconflict, -⟩
  · exact heq.symm.trans h
  · rw [h] at hconflict
    cases hconflict

end Converter

end Provision
