import Mathlib.Data.List.Destutter
import Provision.Conversion.Context

/-!
# What a context goes through

A context starts out fresh and is moved about: stages are entered, the conversion goes deeper and
comes back, it fails. Moves may come in any order, and those that make no sense are refused or do
nothing. `Turn` has every way that a move can go, and whatever holds of all contexts follows from
it, first for one attempt and then for a run: what the fields have to do with each other
(`Sound.attemptAll`), where the first failure was (`failedAt_attemptAll`), and which stages a run
passes through (`visited_onward`). The last one needs the whole run and not only the context at its
end. It is carried by what is still ahead of a stage (`Stage.onward`): the stages that a run passes
through are the first ones of these, since the next stage is the only one that can be entered, and
nothing is ahead of a failure.
-/

namespace Provision

/-! ## Stages -/

namespace Stage

/-- The stages of a conversion that does not fail, in their order. -/
def course : List Stage := [.validating, .mapping, .building, .resolvingDeps, .tagging, .expanded]

/-- A stage with those that are still ahead. Nothing is ahead of a failure. -/
def onward (s : Stage) : List Stage := course.dropWhile (· ≠ s)

/-- From a stage on there is the stage and what is ahead of the next one. -/
theorem onward_of_next? {s t : Stage} (h : s.next? = some t) : s.onward = s :: t.onward := by
  cases s <;> cases h <;> rfl

theorem singleton_prefix_onward {s : Stage} (h : s ≠ .failed) : [s] <+: s.onward := by
  cases s <;> first | exact absurd rfl h | exact ⟨_, rfl⟩

/-- A failure is no stage to be entered. -/
theorem ne_failed_of_next? {s t : Stage} (h : s.next? = some t) : s ≠ .failed ∧ t ≠ .failed := by
  cases s <;> cases h <;> decide

end Stage

namespace Context

variable {c : Context} {m : Move} {after : Except ConvertError Unit × Context}

/-! ## One attempt -/

/-- The ways that a move can go, each with its answer and the context that it leaves. -/
inductive Turn (c : Context) : Move → Except ConvertError Unit × Context → Prop
  /-- A nested conversion does not move the stage. -/
  | nested {stage : Stage} (below : 0 < c.depth) : Turn c (.enter stage) (.ok (), c)
  | entered {stage : Stage} (top : c.depth = 0) (next : c.stage.next? = some stage) :
      Turn c (.enter stage) (.ok (), { c with stage })
  | misplaced {stage : Stage} (top : c.depth = 0) (next : c.stage.next? ≠ some stage) :
      Turn c (.enter stage) (.error (.internal c.stage (.invalidTransition c.stage stage)), c)
  | failed (running : c.stage ≠ .failed) :
      Turn c .fail (.ok (), { c with stage := .failed, failedAt := some c.stage })
  /-- Only the first failure counts. -/
  | failedAgain (ended : c.stage = .failed) : Turn c .fail (.ok (), c)
  | descended (room : c.depth < maxDepth) :
      Turn c .descend (.ok (), { c with depth := c.depth + 1 })
  | tooDeep (full : maxDepth ≤ c.depth) :
      Turn c .descend (.error (.internal c.stage (.tooDeep maxDepth)), c)
  /-- At the top there is nothing to come back from. -/
  | ascended : Turn c .ascend (.ok (), { c with depth := c.depth - 1 })

/-- Every attempt goes in one of these ways. -/
theorem attempt_turn (c : Context) (m : Move) : c.Turn m (c.attempt m) := by
  cases m with
  | enter stage =>
    rw [attempt]
    by_cases hdepth : 0 < c.depth
    · rw [if_pos hdepth]
      exact .nested hdepth
    · have htop : c.depth = 0 := by omega
      by_cases hnext : c.stage.next? = some stage
      · rw [if_neg hdepth, if_pos hnext]
        exact .entered htop hnext
      · rw [if_neg hdepth, if_neg hnext]
        exact .misplaced htop hnext
  | fail =>
    rw [attempt, fail]
    by_cases hfailed : c.stage = .failed
    · rw [if_pos hfailed]
      exact .failedAgain hfailed
    · rw [if_neg hfailed]
      exact .failed hfailed
  | descend =>
    rw [attempt]
    by_cases hfull : maxDepth ≤ c.depth
    · rw [if_pos hfull]
      exact .tooDeep hfull
    · rw [if_neg hfull]
      exact .descended (by omega)
  | ascend => exact .ascended

/-- A move that is refused leaves the context as it was. -/
theorem Turn.eq_of_error {e : ConvertError} (h : c.Turn m after) (he : after.1 = .error e) :
    after.2 = c := by
  cases h with
  | misplaced | tooDeep => rfl
  | nested | entered | failed | failedAgain | descended | ascended => cases he

theorem Turn.platform_eq (h : c.Turn m after) : after.2.platform = c.platform := by cases h <;> rfl

/-- A context gets to another stage only by entering the next one at the top, or by failing. -/
theorem Turn.stage_eq_iff {stage : Stage} (h : c.Turn m after) (hne : stage ≠ c.stage) :
    after.2.stage = stage ↔
    (m = .enter stage ∧ c.depth = 0 ∧ c.stage.next? = some stage) ∨
    (m = .fail ∧ stage = .failed) := by
  cases h with
  | nested below => exact iff_of_false hne.symm (by simp [Nat.ne_of_gt below])
  | entered top next => simp [top, next]
  | misplaced top next =>
    refine iff_of_false hne.symm ?_
    rintro (⟨heq, -, hnext⟩ | ⟨heq, -⟩) <;> cases heq
    exact next hnext
  | failed running => simp [eq_comm]
  | failedAgain ended => exact iff_of_false hne.symm (by simpa [ended] using hne)
  | descended | tooDeep | ascended => exact iff_of_false hne.symm (by simp)

/-- What the fields of a context have to do with each other. -/
structure Sound (c : Context) : Prop where
  depth : c.depth ≤ 16
  failed : c.failedAt.isSome = true ↔ c.stage = .failed
  running : c.failedAt ≠ some .failed

/-- A move leaves the record of failures in order. -/
theorem Sound.turn (hc : c.Sound) (h : c.Turn m after) : after.2.Sound := by
  cases h with
  | nested | misplaced | failedAgain | tooDeep => exact hc
  | entered top next =>
    obtain ⟨hne, hne'⟩ := Stage.ne_failed_of_next? next
    exact ⟨hc.depth, hc.failed.trans (iff_of_false hne hne'), hc.running⟩
  | failed running =>
    exact ⟨hc.depth, iff_of_true rfl rfl, fun heq => running (Option.some.inj heq)⟩
  | descended room => exact ⟨room, hc.failed, hc.running⟩
  | ascended => exact ⟨(Nat.sub_le ..).trans hc.depth, hc.failed, hc.running⟩

/-- After a failure nothing changes what failed and where. -/
theorem Turn.of_failed (h : c.Turn m after) (hc : c.stage = .failed) :
    after.2.stage = .failed ∧ after.2.failedAt = c.failedAt := by
  cases h with
  | entered top next => exact absurd hc (Stage.ne_failed_of_next? next).1
  | failed running => exact absurd hc running
  | nested | misplaced | failedAgain | descended | tooDeep | ascended => exact ⟨hc, rfl⟩

/-- Without a call to fail there is no failure. -/
theorem Turn.of_ne_fail (h : c.Turn m after) (hc : c.stage ≠ .failed) (hm : m ≠ .fail) :
    after.2.stage ≠ .failed ∧ after.2.failedAt = c.failedAt := by
  cases h with
  | entered top next => exact ⟨(Stage.ne_failed_of_next? next).2, rfl⟩
  | failed | failedAgain => exact absurd rfl hm
  | nested | misplaced | descended | tooDeep | ascended => exact ⟨hc, rfl⟩

/-- The first call to fail is the one that counts. -/
theorem Turn.of_fail (h : c.Turn .fail after) (hc : c.stage ≠ .failed) :
    after.2.stage = .failed ∧ after.2.failedAt = some c.stage := by
  cases h with
  | failed running => exact ⟨rfl, rfl⟩
  | failedAgain ended => exact absurd ended hc

/-! ## A run -/

theorem attemptAll_cons (c : Context) (m : Move) (moves : List Move) :
    c.attemptAll (m :: moves) = (c.attempt m).2.attemptAll moves := rfl

theorem start_sound (p : Platform) : (start p).Sound :=
  ⟨Nat.zero_le _, by simp [start], by simp [start]⟩

theorem Sound.attemptAll (h : c.Sound) (moves : List Move) : (c.attemptAll moves).Sound := by
  induction moves generalizing c with
  | nil => exact h
  | cons m moves ih => exact ih (h.turn (c.attempt_turn m))

theorem platform_attemptAll (c : Context) (moves : List Move) :
    (c.attemptAll moves).platform = c.platform := by
  induction moves generalizing c with
  | nil => rfl
  | cons m moves ih => exact (ih _).trans (c.attempt_turn m).platform_eq

/-- After a failure nothing moves, and the record of it stays. -/
theorem attemptAll_of_failed (h : c.stage = .failed) (moves : List Move) :
    (c.attemptAll moves).stage = .failed ∧ (c.attemptAll moves).failedAt = c.failedAt := by
  induction moves generalizing c with
  | nil => exact ⟨h, rfl⟩
  | cons m moves ih =>
    obtain ⟨hstage, hfailedAt⟩ := (c.attempt_turn m).of_failed h
    obtain ⟨hstage', hfailedAt'⟩ := ih hstage
    exact ⟨hstage', hfailedAt'.trans hfailedAt⟩

/-- The failure is where the moves before the first call to fail had led. -/
theorem failedAt_attemptAll (h : c.stage ≠ .failed) (moves : List Move) :
    (c.attemptAll moves).failedAt =
      if .fail ∈ moves then some (c.attemptAll (moves.takeWhile (· ≠ .fail))).stage
      else c.failedAt := by
  induction moves generalizing c with
  | nil => rfl
  | cons m moves ih =>
    rw [attemptAll_cons]
    by_cases hm : m = .fail
    · subst hm
      obtain ⟨hstage, hfailedAt⟩ := (c.attempt_turn .fail).of_fail h
      rw [(attemptAll_of_failed hstage moves).2, hfailedAt]
      simp [attemptAll]
    · obtain ⟨hstage, hfailedAt⟩ := (c.attempt_turn m).of_ne_fail h hm
      rw [ih hstage, hfailedAt]
      simp [hm, Ne.symm hm, attemptAll_cons]

/-- The stages of the contexts that a run goes through, each of them once for as long as it
lasts. -/
def visited (c : Context) (moves : List Move) : List Stage :=
  ((moves.scanl (fun c m => (c.attempt m).2) c).map (·.stage)).destutter (· ≠ ·)

/-- A move that changes the stage adds the stage to those visited. -/
theorem visited_cons (c : Context) (m : Move) (moves : List Move) : c.visited (m :: moves) =
    if c.stage = (c.attempt m).2.stage then (c.attempt m).2.visited moves
    else c.stage :: (c.attempt m).2.visited moves := by
  have hhead : ∀ c : Context, ∃ rest, moves.scanl (fun c m => (c.attempt m).2) c = c :: rest := by
    intro c
    cases moves with
    | nil => exact ⟨[], rfl⟩
    | cons m' moves => exact ⟨_, List.scanl_cons⟩
  obtain ⟨rest, hrest⟩ := hhead (c.attempt m).2
  unfold visited
  rw [List.scanl_cons, hrest, List.map_cons, List.map_cons, List.destutter_cons_cons,
    List.destutter_cons']
  by_cases heq : c.stage = (c.attempt m).2.stage
  · rw [if_neg (not_not_intro heq), if_pos heq, heq]
  · rw [if_pos heq, if_neg heq]

/-- The stages that a run passes through are the first ones of those that were ahead. -/
theorem visited_onward (c : Context) (moves : List Move) :
    ((c.visited moves).filter (· ≠ .failed)) <+: c.stage.onward := by
  induction moves generalizing c with
  | nil =>
    show [c.stage].filter (· ≠ .failed) <+: c.stage.onward
    by_cases hfailed : c.stage = .failed
    · simp [hfailed]
    · simpa [hfailed] using Stage.singleton_prefix_onward hfailed
  | cons m moves ih =>
    have hrest := ih (c.attempt m).2
    rw [visited_cons]
    by_cases heq : c.stage = (c.attempt m).2.stage
    · rwa [if_pos heq, heq]
    · rw [if_neg heq]
      obtain ⟨-, -, hnext⟩ | ⟨-, hfailed⟩ := ((c.attempt_turn m).stage_eq_iff (Ne.symm heq)).1 rfl
      · -- the stage that was entered is the next one ahead
        rw [List.filter_cons_of_pos (by simpa using (Stage.ne_failed_of_next? hnext).1),
          Stage.onward_of_next? hnext]
        exact List.cons_prefix_cons.2 ⟨rfl, hrest⟩
      · -- nothing is ahead of a failure
        have hnone : ((c.attempt m).2.visited moves).filter (· ≠ .failed) = [] := by
          rw [hfailed] at hrest
          exact List.prefix_nil.1 hrest
        have hrunning : c.stage ≠ .failed := hfailed ▸ heq
        rw [List.filter_cons_of_pos (by simpa using hrunning), hnone]
        exact Stage.singleton_prefix_onward hrunning

/-- Whatever is done to a fresh context, its depth is at most sixteen, a move that is refused
changes nothing, and the stage changes by entering the next one at the top and by failing and in no
other way. A failed context and no other says where it failed. That is a stage it really was in,
namely the one to which the moves before the first call to fail had led, and later moves leave it.
The stages that it passes through are the first ones of `Stage.course`, apart from the failure.
Platform and package manager are those that it began with. -/
theorem attemptAll_exact (p : Platform) (moves : List Move) :
    let c := (start p).attemptAll moves
    c.depth ≤ 16 ∧
    (∀ m e, (c.attempt m).1 = .error e → (c.attempt m).2 = c) ∧
    (∀ m stage, stage ≠ c.stage → ((c.attempt m).2.stage = stage ↔
      (m = .enter stage ∧ c.depth = 0 ∧ c.stage.next? = some stage) ∨
      (m = .fail ∧ stage = .failed))) ∧
    (c.failedAt.isSome = true ↔ c.stage = .failed) ∧
    c.failedAt ≠ some .failed ∧
    (c.failedAt =
      if .fail ∈ moves then some ((start p).attemptAll (moves.takeWhile (· ≠ .fail))).stage
      else none) ∧
    (∀ stage, c.failedAt = some stage → ∀ later, (c.attemptAll later).failedAt = some stage) ∧
    ((start p).visited moves).filter (· ≠ .failed) <+: Stage.course ∧
    c.platform = p ∧ c.packageManager = p.packageManager := by
  intro c
  have hsound : c.Sound := (start_sound p).attemptAll moves
  have hplatform : c.platform = p := (start p).platform_attemptAll moves
  refine ⟨hsound.depth, fun m _ h => (c.attempt_turn m).eq_of_error h,
    fun m _ h => (c.attempt_turn m).stage_eq_iff h, hsound.failed,
    hsound.running, failedAt_attemptAll (by simp [start]) moves, fun stage hstage later => ?_,
    (start p).visited_onward moves, hplatform, congrArg Platform.packageManager hplatform⟩
  have hfailed : c.stage = .failed := hsound.failed.1 (Option.isSome_of_eq_some hstage)
  exact (attemptAll_of_failed hfailed later).2.trans hstage

/-- Moves with a nested conversion, which enters a stage to no effect, and with two failures. -/
def failingMoves : List Move :=
  [.enter .mapping, .descend, .enter .tagging, .ascend, .fail, .enter .building, .fail]

/-- Before the failure the next stage could be entered. After it that is refused, and what failed
first stays on record. -/
theorem failingMoves_record :
    (((start .ubuntu).attemptAll (failingMoves.take 4)).attempt (.enter .building)).2.stage =
      .building ∧
    ((start .ubuntu).attemptAll failingMoves).failedAt = some .mapping ∧
    (((start .ubuntu).attemptAll failingMoves).attempt (.enter .building)).2
      = (start .ubuntu).attemptAll failingMoves ∧
    ∀ later, (((start .ubuntu).attemptAll failingMoves).attemptAll later).failedAt =
      some .mapping := by
  obtain ⟨-, -, hstage, -⟩ := attemptAll_exact .ubuntu (failingMoves.take 4)
  obtain ⟨-, hrefused, -, -, -, hfailedAt, hlasting, -⟩ := attemptAll_exact .ubuntu failingMoves
  have hfirst : ((start .ubuntu).attemptAll failingMoves).failedAt = some .mapping :=
    hfailedAt.trans (by decide)
  refine ⟨(hstage _ .building (by decide)).2 (.inl (by decide)), hfirst, hrefused _ _ rfl,
    hlasting _ hfirst⟩

end Context

end Provision
