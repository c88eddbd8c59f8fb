import KungFuChess.Engine.Clock
import KungFuChess.Engine.Moments
import KungFuChess.Library.Journey
import Mathlib.Algebra.Order.BigOperators.Group.List
import Mathlib.Algebra.Order.Ring.Nat

/-!
# Waits settle

The loop of a wait ends: every batch of events uses up part of the budget of the
engine it starts from, and the fuel of `GameEngine.wait` exceeds that budget. So
a wait ends in an engine in which nothing is due.

The moments of a wait form a journey, in which the advances of the clock are
silent and the processing of events is visible. Later results about a wait are
proved by the rules for journeys.
-/

set_option autoImplicit false

namespace KungFuChess

/-! ## Budgets -/

namespace Table

/-- A bound on the events that can still be processed before `now`. -/
def budget (table : Table) (now : Int) : Nat :=
  (table.motions.map (GameEngine.motionBudget now)).sum + table.flights.length

/-- A list without one of its members has room for it. -/
theorem sum_add_le_of_sublist {motions rest : List Motion} (budget : Motion → Nat)
    (sublist : rest.Sublist motions) {motion : Motion} (member : motion ∈ motions)
    (absent : motion ∉ rest) :
    (rest.map budget).sum + budget motion ≤ (motions.map budget).sum := by
  have smaller : rest.Sublist (motions.erase motion) := by
    have erased := sublist.erase motion
    rwa [List.erase_of_not_mem absent] at erased
  have split : ((motions.erase motion).map budget).sum + budget motion =
      (motions.map budget).sum := by
    rw [((List.perm_cons_erase member).map budget).sum_eq, List.map_cons, List.sum_cons,
      Nat.add_comm]
  rw [← split]
  exact Nat.add_le_add_right ((smaller.map budget).sum_le_sum fun _ _ => Nat.zero_le _) _

theorem Retires.budget_le {table next : Table} {gone : PieceId → Prop}
    (retires : Retires table next gone) (now : Int) : next.budget now ≤ table.budget now := by
  rw [budget, budget, retires.flights]
  exact Nat.add_le_add_right
    ((retires.sublist.map _).sum_le_sum fun _ _ => Nat.zero_le _) _

/-- Ending a motion that was due uses up budget. -/
theorem Retires.budget_lt {table next : Table} {gone : PieceId → Prop}
    (retires : Retires table next gone) {now : Int} {motion : Motion}
    (member : motion ∈ table.motions) (isGone : gone motion.piece)
    (due : motion.nextStepTimeMs ≤ now) : next.budget now < table.budget now := by
  have absent : motion ∉ next.motions := fun left => ((retires.motions motion).mp left).2 isGone
  have room := sum_add_le_of_sublist (GameEngine.motionBudget now) retires.sublist member absent
  have positive : 0 < GameEngine.motionBudget now motion := by
    rw [GameEngine.motionBudget]
    omega
  rw [budget, budget, retires.flights]
  omega

theorem motionBudget_moveOn_le (now : Int) (motion : Motion) (cell : Position) :
    GameEngine.motionBudget now (motion.moveOn cell) ≤ GameEngine.motionBudget now motion := by
  have positive := motion.stepPositive
  simp only [GameEngine.motionBudget, Motion.moveOn]
  omega

theorem motionBudget_moveOn_lt {now : Int} {motion : Motion} (due : motion.nextStepTimeMs ≤ now)
    (cell : Position) :
    GameEngine.motionBudget now (motion.moveOn cell) < GameEngine.motionBudget now motion := by
  have positive := motion.stepPositive
  simp only [GameEngine.motionBudget, Motion.moveOn]
  omega

theorem budget_slide_le (table : Table) (now : Int) (piece : PieceId) (cell : Position) :
    (table.slide piece cell).budget now ≤ table.budget now := by
  refine Nat.add_le_add_right ?_ _
  simp only [slide]
  induction table.motions with
  | nil => exact le_refl _
  | cons motion rest ih =>
      rw [RealTimeArbiter.updateMotionCellIn]
      split
      · exact Nat.add_le_add_right (motionBudget_moveOn_le now motion cell) _
      · exact Nat.add_le_add_left ih _

/-- Sliding on with a motion that was due uses up budget. -/
theorem budget_slide_lt {table : Table} (coherent : table.Coherent) {now : Int} {motion : Motion}
    (member : motion ∈ table.motions) (due : motion.nextStepTimeMs ≤ now) (cell : Position) :
    (table.slide motion.piece cell).budget now < table.budget now := by
  refine Nat.add_lt_add_right ?_ _
  have distinct := coherent.distinct
  simp only [slide]
  generalize table.motions = motions at member distinct
  induction motions with
  | nil => exact absurd member List.not_mem_nil
  | cons head rest ih =>
      rw [RealTimeArbiter.updateMotionCellIn]
      split
      · next own =>
          rcases List.mem_cons.mp member with rfl | later
          · exact Nat.add_lt_add_right (motionBudget_moveOn_lt due cell) _
          · rw [List.map_cons, List.nodup_cons] at distinct
            exact absurd (own ▸ List.mem_map_of_mem later) distinct.1
      · next other =>
          rcases List.mem_cons.mp member with rfl | later
          · exact absurd rfl other
          · rw [List.map_cons, List.nodup_cons] at distinct
            exact Nat.add_lt_add_left (ih later distinct.2) _

/-- Processing an event never adds to the budget. -/
theorem Judged.budget_le {table : Table} {event : StepEvent} {verdict : StepVerdict}
    (judged : table.Judged event verdict) (coherent : table.Coherent) (now : Int) :
    (table.apply event verdict).budget now ≤ table.budget now := by
  cases judged with
  | ignored resting => exact le_refl _
  | castled moving pending part => exact (finishCastle_retires coherent pending _).budget_le now
  | slid stepping inside clear onward => exact budget_slide_le table now _ _
  | arrived stepping inside clear reached =>
      exact (stepping.retires coherent inside).budget_le now
  | halted stepping blocked =>
      exact (stepping.retires coherent (stepping.fromInside coherent)).budget_le now
  | lost stepping inside other met enemy airborne =>
      exact (stepping.lost_retires coherent).budget_le now
  | captured stepping inside other met enemy grounded =>
      have removes := remove_retires coherent grounded
      exact ((stepping.remove other).retires (coherent.retire removes)
        ((Board.isInside_takeOff _ _ _).mpr inside)).budget_le now |>.trans
          (removes.budget_le now)

/-- Processing the event of a moving piece uses up budget. -/
theorem Judged.budget_lt {table : Table} {event : StepEvent} {verdict : StepVerdict}
    (judged : table.Judged event verdict) (coherent : table.Coherent)
    (timely : table.Timely event) (moving : table.stateOf event.piece = .moving) {now : Int}
    (due : event.eventTimeMs ≤ now) :
    (table.apply event verdict).budget now < table.budget now := by
  obtain ⟨motion, member, rfl⟩ := timely moving
  cases judged with
  | ignored resting => exact absurd moving resting
  | castled _ pending part =>
      exact (finishCastle_retires coherent pending _).budget_lt member
        (PendingCastle.mem_pieces.mp part) due
  | slid stepping inside clear onward => exact budget_slide_lt coherent member due _
  | arrived stepping inside clear reached =>
      exact (stepping.retires coherent inside).budget_lt member rfl due
  | halted stepping blocked =>
      exact (stepping.retires coherent (stepping.fromInside coherent)).budget_lt member rfl due
  | lost stepping inside other met enemy airborne =>
      exact (stepping.lost_retires coherent).budget_lt member rfl due
  | captured stepping inside other met enemy grounded =>
      have removes := remove_retires coherent grounded
      have left := mem_filter_piece.mpr ⟨member, fun same => other same.symm⟩
      exact ((stepping.remove other).retires (coherent.retire removes)
        ((Board.isInside_takeOff _ _ _).mpr inside)).budget_lt left rfl due |>.trans_le
          (removes.budget_le now)

end Table

/-! ## A batch is a journey -/

namespace Moment

/-- The clock advances between two batches. -/
inductive Advances : Moment → Moment → Prop
  | mk (engine : GameEngine) {ms : Int} (elapsed : 0 ≤ ms) :
      Advances (quiet engine) (advance engine ms)

/-- The next event is processed. -/
def Processes (load : PieceConfigReader) (first next : Moment) : Prop :=
  next = first.process load

theorem Advances.running {first next : Moment} (advances : Advances first next)
    (running : first.Running) : next.Running := by
  cases advances with
  | mk engine elapsed => exact advance_running running.coherent elapsed

theorem Processes.running {load : PieceConfigReader} {first next : Moment}
    (processes : Processes load first next) (running : first.Running) : next.Running :=
  processes ▸ running.process load

end Moment

namespace GameEngine

theorem steps_journey (load : PieceConfigReader) (silent : Moment → Moment → Prop)
    (landings : List JumpLandingEvent) :
    ∀ (steps : List StepEvent) (engine : GameEngine),
      Journey silent (Moment.Processes load) ⟨engine, steps, landings⟩
        (stepMoments landings engine steps)
        ⟨steps.foldl processStepEvent engine, [], landings⟩ := by
  intro steps
  induction steps with
  | nil => exact fun engine => .nil _
  | cons event steps ih => exact fun engine => .visible rfl (ih (engine.processStepEvent event))

theorem landings_journey (load : PieceConfigReader) (silent : Moment → Moment → Prop) :
    ∀ (landings : List JumpLandingEvent) (engine : GameEngine),
      Journey silent (Moment.Processes load) ⟨engine, [], landings⟩
        (landingMoments load engine landings)
        (.quiet (landings.foldl (processJumpLanding load) engine)) := by
  intro landings
  induction landings with
  | nil => exact fun engine => .nil _
  | cons event landings ih =>
      exact fun engine => .visible rfl (ih (engine.processJumpLanding load event))

/-- **A batch goes through its moments.** -/
theorem batch_journey (load : PieceConfigReader) (silent : Moment → Moment → Prop)
    (engine : GameEngine) (events : TimeEvents) :
    Journey silent (Moment.Processes load) ⟨engine, events.steps, events.jumpLandings⟩
      (engine.batchMoments load events) (.quiet (engine.applyTimeEvents load events)) :=
  (steps_journey load silent events.jumpLandings events.steps engine).trans
    (landings_journey load silent events.jumpLandings _)

/-- What processing preserves in running moments, a batch preserves. -/
theorem batch_rule (load : PieceConfigReader) {motive : Moment → Prop}
    (process : ∀ moment, moment.Running → motive moment → motive (moment.process load))
    {events : TimeEvents} {engine : GameEngine}
    (running : Moment.Running ⟨engine, events.steps, events.jumpLandings⟩)
    (holds : motive ⟨engine, events.steps, events.jumpLandings⟩) :
    (Moment.quiet (engine.applyTimeEvents load events)).Running ∧
      motive (.quiet (engine.applyTimeEvents load events)) :=
  (batch_journey load (fun _ _ => False) engine events).rule
    (motive := fun moment => moment.Running ∧ motive moment) (fun _ => True)
    (fun _ _ impossible => impossible.elim)
    (fun first _ processes _ before => processes ▸
      ⟨before.1.process load, process first before.1 before.2⟩)
    (fun _ _ => trivial) ⟨running, holds⟩

/-- A batch leaves the clock and the unfinished jumps alone. -/
theorem process_clock (load : PieceConfigReader) (moment : Moment) :
    (moment.process load).engine.getCurrentTimeMs = moment.engine.getCurrentTimeMs := by
  obtain ⟨engine, steps, landings⟩ := moment
  cases steps with
  | cons event steps => exact (processStepEvent_clock engine event).1
  | nil =>
      cases landings with
      | nil => rfl
      | cons event landings => exact (processJumpLanding_clock load engine event).1

/-- Every event that is processed leaves at most the budget. -/
theorem process_budget_le {load : PieceConfigReader} {moment : Moment} (running : moment.Running)
    (now : Int) : (moment.process load).table.budget now ≤ moment.table.budget now := by
  have processed := running.processed load
  generalize (moment.process load).table = next at processed ⊢
  cases processed with
  | stepped _ judged => exact judged.budget_le running.coherent now
  | landed member airborne here eventTimeMs shortCooldownMs =>
      exact Nat.add_le_add_left List.length_erase_le _
  | dropped member lost => exact Nat.add_le_add_left List.length_erase_le _
  | unchanged => exact le_refl _

/-- The first event of a fresh moment uses up budget. -/
theorem process_budget_lt {load : PieceConfigReader} {moment : Moment} (running : moment.Running)
    (fresh : moment.Fresh) (busy : moment.steps ≠ [] ∨ moment.landings ≠ []) :
    (moment.process load).table.budget moment.engine.getCurrentTimeMs <
      moment.table.budget moment.engine.getCurrentTimeMs := by
  obtain ⟨engine, steps, landings⟩ := moment
  cases steps with
  | cons event steps =>
      change ((engine.processStepEvent event).view landings).budget _ < _
      rw [view_processStepEvent]
      obtain ⟨moving, due⟩ := fresh.due event (List.mem_cons_self ..)
      exact running.judged.budget_lt running.coherent
        (running.timely event (List.mem_cons_self ..)) moving due
  | nil =>
      cases landings with
      | nil => simp only [ne_eq, not_true_eq_false, or_self] at busy
      | cons event landings =>
          change ((engine.processJumpLanding load event).view landings).budget _ < _
          rw [view_processJumpLanding load engine event landings running.fresh]
          have flying : event.flight ∈ (engine.view (event :: landings)).flights :=
            List.mem_append_right _ (List.mem_cons_self ..)
          have fewer : ((engine.view (event :: landings)).flights.erase event.flight).length <
              (engine.view (event :: landings)).flights.length := by
            rw [List.length_erase_of_mem flying]
            exact Nat.sub_lt (List.length_pos_of_mem flying) Nat.one_pos
          split
          · exact Nat.add_lt_add_left fewer _
          · exact Nat.add_lt_add_left fewer _

/-- **A batch uses up budget.** -/
theorem batch_budget_lt (load : PieceConfigReader) {events : TimeEvents} {engine : GameEngine}
    (running : Moment.Running ⟨engine, events.steps, events.jumpLandings⟩)
    (fresh : Moment.Fresh ⟨engine, events.steps, events.jumpLandings⟩)
    (busy : events.isEmpty = false) :
    ((engine.applyTimeEvents load events).view []).budget engine.getCurrentTimeMs <
      (engine.view events.jumpLandings).budget engine.getCurrentTimeMs := by
  have nonempty : events.steps ≠ [] ∨ events.jumpLandings ≠ [] := by
    by_contra none
    simp only [not_or, ne_eq, not_not] at none
    simp only [TimeEvents.isEmpty, none.1, none.2, List.isEmpty_nil, Bool.and_self,
      Bool.true_eq_false] at busy
  -- the budget has dropped in every moment but the first
  have dropped := (batch_rule load
    (motive := fun moment => moment = ⟨engine, events.steps, events.jumpLandings⟩ ∨
      moment.table.budget engine.getCurrentTimeMs <
        (engine.view events.jumpLandings).budget engine.getCurrentTimeMs)
    (by
      rintro moment steps (rfl | smaller)
      · exact .inr (process_budget_lt running fresh nonempty)
      · exact .inr ((process_budget_le steps _).trans_lt smaller))
    running (.inl rfl)).2
  rcases dropped with same | smaller
  · rw [Moment.quiet, Moment.mk.injEq] at same
    simp only [← same.2.1, ← same.2.2, ne_eq, not_true_eq_false, or_self] at nonempty
  · exact smaller

theorem batch_clock (load : PieceConfigReader) {events : TimeEvents} {engine : GameEngine}
    (running : Moment.Running ⟨engine, events.steps, events.jumpLandings⟩) :
    (engine.applyTimeEvents load events).getCurrentTimeMs = engine.getCurrentTimeMs :=
  (batch_rule load
    (motive := fun moment => moment.engine.getCurrentTimeMs = engine.getCurrentTimeMs)
    (fun moment _ same => (process_clock load moment).trans same) running rfl).2

/-! ## A wait is a journey -/

/-- An advance keeps the motions and only turns jumps into landings. -/
theorem advance_budget {engine : GameEngine} (coherent : (engine.view []).Coherent) {ms : Int}
    (elapsed : 0 ≤ ms) (now : Int) :
    (Moment.advance engine ms).table.budget now = (engine.view []).budget now := by
  obtain ⟨flights, perm, kept⟩ := Moment.advance_table coherent elapsed
  rw [kept, Table.budget, Table.budget, perm.length_eq]

/-- **One turn of the loop** of a wait: the batch uses up budget, the clock stays, and
the next batch is again a fresh one. -/
theorem drain_turn (load : PieceConfigReader) {events : TimeEvents} {engine : GameEngine}
    (running : Moment.Running ⟨engine, events.steps, events.jumpLandings⟩)
    (fresh : Moment.Fresh ⟨engine, events.steps, events.jumpLandings⟩)
    (busy : events.isEmpty = false) :
    (Moment.advance (engine.applyTimeEvents load events) 0).Running ∧
      (Moment.advance (engine.applyTimeEvents load events) 0).Fresh ∧
      (Moment.advance (engine.applyTimeEvents load events) 0).engine.getCurrentTimeMs =
        engine.getCurrentTimeMs ∧
      (Moment.advance (engine.applyTimeEvents load events) 0).table.budget
          engine.getCurrentTimeMs <
        (engine.view events.jumpLandings).budget engine.getCurrentTimeMs := by
  have applied : ((engine.applyTimeEvents load events).view []).Coherent :=
    (batch_rule load (motive := fun _ => True) (fun _ _ _ => trivial) running trivial).1.coherent
  have advanced := Moment.advance_clock (engine.applyTimeEvents load events) (le_refl 0)
  rw [Int.add_zero, batch_clock load running] at advanced
  refine ⟨Moment.advance_running applied (le_refl 0), Moment.advance_fresh _ (le_refl 0), advanced,
    ?_⟩
  rw [advance_budget applied (le_refl 0)]
  exact batch_budget_lt load running fresh busy

/-- The loop of a wait, with more fuel than budget: it goes through its moments and
ends settled. -/
theorem drain_journey (load : PieceConfigReader) :
    ∀ (fuel : Nat) (events : TimeEvents) (engine : GameEngine),
      Moment.Running ⟨engine, events.steps, events.jumpLandings⟩ →
      Moment.Fresh ⟨engine, events.steps, events.jumpLandings⟩ →
      (engine.view events.jumpLandings).budget engine.getCurrentTimeMs < fuel →
      Journey Moment.Advances (Moment.Processes load)
          ⟨engine, events.steps, events.jumpLandings⟩ (drainMoments load fuel events engine)
          (.quiet (drainEvents load fuel events engine)) ∧
        (drainEvents load fuel events engine).Settled ∧
        (drainEvents load fuel events engine).getCurrentTimeMs = engine.getCurrentTimeMs := by
  intro fuel
  induction fuel with
  | zero => exact fun _ _ _ _ short => absurd short (Nat.not_lt_zero _)
  | succ fuel ih =>
      intro events engine running fresh short
      cases empty : events.isEmpty with
      | true =>
          have nothing : events.steps = [] ∧ events.jumpLandings = [] := by
            simpa only [TimeEvents.isEmpty, Bool.and_eq_true, List.isEmpty_iff] using empty
          have ended : drainEvents load (fuel + 1) events engine = engine := by
            rw [drainEvents, if_pos empty]
          have none : drainMoments load (fuel + 1) events engine = [] := by
            rw [drainMoments, if_pos empty]
          rw [nothing.1, nothing.2] at fresh ⊢
          rw [ended, none]
          exact ⟨.nil _, fresh.settled, rfl⟩
      | false =>
          simp only [drainMoments, drainEvents, empty, Bool.false_eq_true, if_false]
          obtain ⟨onward, freshNext, advanced, smaller⟩ := drain_turn load running fresh empty
          have enough : (Moment.advance (engine.applyTimeEvents load events) 0).table.budget
              (Moment.advance (engine.applyTimeEvents load events) 0).engine.getCurrentTimeMs <
              fuel := by
            rw [advanced]
            exact smaller.trans_le (Nat.le_of_lt_succ short)
          obtain ⟨journey, settled, still⟩ := ih _ _ onward freshNext enough
          exact ⟨(batch_journey load _ engine events).trans
            (.silent (.mk _ (le_refl 0)) journey), settled, still.trans advanced⟩

/-- The fuel of a wait exceeds the budget of its first batch. -/
theorem advance_enough {engine : GameEngine} (coherent : (engine.view []).Coherent) {ms : Int}
    (elapsed : 0 ≤ ms) :
    (Moment.advance engine ms).table.budget (Moment.advance engine ms).engine.getCurrentTimeMs <
      engine.dueBudget (engine.getCurrentTimeMs + ms) + 1 := by
  have budget : (engine.view []).budget (engine.getCurrentTimeMs + ms) =
      engine.dueBudget (engine.getCurrentTimeMs + ms) := by
    simp only [Table.budget, view, dueBudget, List.map_nil, List.append_nil, List.length_map]
  rw [Moment.advance_clock engine elapsed, advance_budget coherent elapsed, budget]
  exact Nat.lt_succ_self _

/-- **Every wait settles**: its fuel suffices, it goes through its moments, and it
ends with nothing due. -/
theorem wait_journey (load : PieceConfigReader) {engine : GameEngine}
    (coherent : (engine.view []).Coherent) {ms : Int} (elapsed : 0 ≤ ms) :
    Journey Moment.Advances (Moment.Processes load) (.quiet engine) (engine.waitMoments load ms)
        (.quiet (engine.wait load ms)) ∧
      (engine.wait load ms).Settled ∧
      (engine.wait load ms).getCurrentTimeMs = engine.getCurrentTimeMs + ms := by
  have clock := Moment.advance_clock engine elapsed
  obtain ⟨journey, settled, still⟩ := drain_journey load _ _ _
    (Moment.advance_running coherent elapsed) (Moment.advance_fresh engine elapsed)
    (advance_enough coherent elapsed)
  simp only [wait, waitMoments, not_lt.mpr elapsed, if_false]
  exact ⟨.silent (.mk engine elapsed) journey, settled, still.trans clock⟩

theorem wait_coherent (load : PieceConfigReader) {engine : GameEngine}
    (coherent : (engine.view []).Coherent) {ms : Int} (elapsed : 0 ≤ ms) :
    ((engine.wait load ms).view []).Coherent := by
  have ended : (Moment.quiet (engine.wait load ms)).Running :=
    (wait_journey load coherent elapsed).1.rule (fun _ => True)
      (fun _ _ advances running => advances.running running)
      (fun _ _ processes _ running => processes.running running)
      (fun _ _ => trivial) (Moment.of_landings coherent)
  exact ended.coherent

/-! ## The loop without fuel -/

/-- The loop of a wait as the source runs it: batch after batch until an advance by
zero has no events. A loop that does not end has no run. -/
inductive Drains (load : PieceConfigReader) : TimeEvents → GameEngine → GameEngine → Prop
  | done {events : TimeEvents} {engine : GameEngine} (none : events.isEmpty = true) :
      Drains load events engine engine
  | batch {events : TimeEvents} {engine last : GameEngine} (some : events.isEmpty = false)
      (onward : Drains load ((engine.applyTimeEvents load events).advanceTime 0).1
        ((engine.applyTimeEvents load events).advanceTime 0).2 last) :
      Drains load events engine last

/-- With more fuel than budget, the loop on fuel ends where the loop of the source does. -/
theorem drains_drainEvents (load : PieceConfigReader) :
    ∀ (fuel : Nat) (events : TimeEvents) (engine : GameEngine),
      Moment.Running ⟨engine, events.steps, events.jumpLandings⟩ →
      Moment.Fresh ⟨engine, events.steps, events.jumpLandings⟩ →
      (engine.view events.jumpLandings).budget engine.getCurrentTimeMs < fuel →
      Drains load events engine (drainEvents load fuel events engine) := by
  intro fuel
  induction fuel with
  | zero => exact fun _ _ _ _ short => absurd short (Nat.not_lt_zero _)
  | succ fuel ih =>
      intro events engine running fresh short
      cases empty : events.isEmpty with
      | true =>
          rw [drainEvents, if_pos empty]
          exact .done empty
      | false =>
          simp only [drainEvents, empty, Bool.false_eq_true, if_false]
          obtain ⟨onward, freshNext, advanced, smaller⟩ := drain_turn load running fresh empty
          refine .batch empty (ih _ _ onward freshNext ?_)
          change (Moment.advance (engine.applyTimeEvents load events) 0).table.budget
            (Moment.advance (engine.applyTimeEvents load events) 0).engine.getCurrentTimeMs < fuel
          rw [advanced]
          exact smaller.trans_le (Nat.le_of_lt_succ short)

/-- **Every wait terminates**: the loop of the source ends, in the engine that `wait`
returns. -/
theorem drains_wait (load : PieceConfigReader) {engine : GameEngine}
    (coherent : (engine.view []).Coherent) {ms : Int} (elapsed : 0 ≤ ms) :
    Drains load (engine.advanceTime ms).1 (engine.advanceTime ms).2 (engine.wait load ms) := by
  simp only [wait, not_lt.mpr elapsed, if_false]
  exact drains_drainEvents load _ _ _ (Moment.advance_running coherent elapsed)
    (Moment.advance_fresh engine elapsed) (advance_enough coherent elapsed)

/-- What events and advances of the clock preserve in every engine, a wait preserves. -/
theorem wait_rule (load : PieceConfigReader) {motive : GameEngine → Prop}
    (step : ∀ engine event, motive engine → motive (engine.processStepEvent event))
    (landing : ∀ engine event, motive engine → motive (engine.processJumpLanding load event))
    (advance : ∀ engine ms, motive engine → motive (engine.advanceTime ms).2)
    {engine : GameEngine} (ms : Int) (holds : motive engine) : motive (engine.wait load ms) := by
  have applied : ∀ (engine : GameEngine) (events : TimeEvents), motive engine →
      motive (engine.applyTimeEvents load events) := fun engine events before =>
    List.foldlRecOn events.jumpLandings _
      (List.foldlRecOn events.steps _ before fun reached steps event _ => step reached event steps)
      fun reached landed event _ => landing reached event landed
  have drained : ∀ (fuel : Nat) (events : TimeEvents) (engine : GameEngine), motive engine →
      motive (drainEvents load fuel events engine) := by
    intro fuel
    induction fuel with
    | zero => exact fun _ _ before => before
    | succ fuel ih =>
        intro events engine before
        rw [drainEvents]
        split
        · exact before
        · exact ih _ _ (advance _ 0 (applied engine events before))
  unfold wait
  split
  · exact holds
  · exact drained _ _ _ (advance engine ms holds)

/-- A negative wait does nothing. -/
theorem wait_of_neg (load : PieceConfigReader) (engine : GameEngine) {ms : Int}
    (negative : ms < 0) : engine.wait load ms = engine := by
  rw [wait, if_pos negative]

end GameEngine

end KungFuChess
