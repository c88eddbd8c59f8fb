import KungFuChess.Engine.Verdicts

/-!
# Moments inside a wait

A wait alternates between advances of the clock and the events they emit. A
moment is a state of this loop: an engine with the step events and the landings
still to be processed. `waitMoments` lists the moments a wait goes through, in
order, so that a condition on a run can speak of the state each event is
processed in.

A moment is running when its table is coherent and its step events are in step
with the motions. Processing the next event and advancing the clock keep a
moment running.
-/

set_option autoImplicit false

namespace KungFuChess

structure Moment where
  engine : GameEngine
  steps : List StepEvent
  landings : List JumpLandingEvent

namespace Moment

def table (moment : Moment) : Table := moment.engine.view moment.landings

/-- A moment without events to process. -/
def quiet (engine : GameEngine) : Moment := ⟨engine, [], []⟩

/-- The moment after an advance of the clock. -/
def advance (engine : GameEngine) (ms : Int) : Moment :=
  let (events, advanced) := engine.advanceTime ms
  ⟨advanced, events.steps, events.jumpLandings⟩

/-- Process the next event: the steps first, then the landings. -/
def process (load : PieceConfigReader) : Moment → Moment
  | ⟨engine, event :: steps, landings⟩ => ⟨engine.processStepEvent event, steps, landings⟩
  | ⟨engine, [], event :: landings⟩ => ⟨engine.processJumpLanding load event, [], landings⟩
  | ⟨engine, [], []⟩ => quiet engine

/-- The events of a moment agree with its stores. -/
structure Running (moment : Moment) : Prop where
  coherent : moment.table.Coherent
  pieces : (moment.steps.map StepEvent.piece).Nodup
  timely : ∀ event ∈ moment.steps, moment.table.Timely event

theorem Running.judged {engine : GameEngine} {event : StepEvent} {steps : List StepEvent}
    {landings : List JumpLandingEvent} (running : Running ⟨engine, event :: steps, landings⟩) :
    (engine.view landings).Judged event (engine.verdict event) :=
  GameEngine.verdict_judged running.coherent (running.timely event (List.mem_cons_self ..))

/-- A landing about to be processed is no longer among the jumps. -/
theorem Running.fresh {engine : GameEngine} {event : JumpLandingEvent} {steps : List StepEvent}
    {landings : List JumpLandingEvent} (running : Running ⟨engine, steps, event :: landings⟩) :
    event.flight ∉ engine.realTime.activeJumps.map Jump.flight := by
  intro present
  have distinct := running.coherent.airborne
  simp only [table, GameEngine.view, List.map_append, List.nodup_append, List.map_cons] at distinct
  exact distinct.2.2 _ (List.mem_map_of_mem present) _ (List.mem_cons_self ..) rfl

/-- Without step events, coherence is all a running moment needs. -/
theorem of_landings {engine : GameEngine} {landings : List JumpLandingEvent}
    (coherent : (engine.view landings).Coherent) : Running ⟨engine, [], landings⟩ where
  coherent := coherent
  pieces := List.nodup_nil
  timely := fun _ member => absurd member List.not_mem_nil

/-- What processing the next event may do to a table. -/
inductive Processed (moment : Moment) : Table → Prop
  | stepped {event : StepEvent} {steps : List StepEvent} (next : moment.steps = event :: steps)
      (judged : moment.table.Judged event (moment.engine.verdict event)) :
      Processed moment (moment.table.apply event (moment.engine.verdict event))
  | landed {flight : Flight} (member : flight ∈ moment.table.flights)
      (airborne : moment.table.stateOf flight.piece = .airborne)
      (here : moment.table.board.getPieceAt flight.cell = some flight.piece)
      (eventTimeMs shortCooldownMs : Int) :
      Processed moment (moment.table.land flight eventTimeMs shortCooldownMs)
  | dropped {flight : Flight} (member : flight ∈ moment.table.flights)
      (lost : ¬ (moment.table.stateOf flight.piece = .airborne ∧
        moment.table.board.getPieceAt flight.cell = some flight.piece)) :
      Processed moment (moment.table.dropFlight flight)
  | unchanged : Processed moment moment.table

/-- **Processing an event does one of these.** -/
theorem Running.processed {moment : Moment} (running : Running moment)
    (load : PieceConfigReader) : moment.Processed (moment.process load).table := by
  obtain ⟨engine, steps, landings⟩ := moment
  cases steps with
  | cons event steps =>
      have viewed : (process load ⟨engine, event :: steps, landings⟩).table =
          (engine.view landings).apply event (engine.verdict event) :=
        GameEngine.view_processStepEvent engine landings event
      rw [viewed]
      exact .stepped rfl running.judged
  | nil =>
      cases landings with
      | nil => exact .unchanged
      | cons event landings =>
          have flying : event.flight ∈ (engine.view (event :: landings)).flights :=
            List.mem_append_right _ (List.mem_cons_self ..)
          have viewed : (process load ⟨engine, [], event :: landings⟩).table = _ :=
            GameEngine.view_processJumpLanding load engine event landings running.fresh
          rw [viewed]
          split
          · next lands =>
              refine .landed flying ?_ ?_ _ _
              · exact lands.1
              · exact lands.2
          · next lost =>
              refine .dropped flying ?_
              exact lost

theorem Processed.coherent {moment : Moment} {next : Table} (processed : moment.Processed next)
    (coherent : moment.table.Coherent) : next.Coherent := by
  cases processed with
  | stepped _ judged => exact judged.coherent coherent
  | landed member airborne here eventTimeMs shortCooldownMs => exact coherent.land member _ _
  | dropped member lost => exact coherent.dropFlight _
  | unchanged => exact coherent

/-- **Processing an event keeps a moment running.** -/
theorem Running.process {moment : Moment} (running : Running moment) (load : PieceConfigReader) :
    Running (moment.process load) := by
  have coherent := (running.processed load).coherent running.coherent
  obtain ⟨engine, steps, landings⟩ := moment
  cases steps with
  | cons event steps =>
      refine ⟨coherent, (List.nodup_cons.mp running.pieces).2, ?_⟩
      intro other member
      change ((engine.processStepEvent event).view landings).Timely other
      rw [GameEngine.view_processStepEvent]
      refine running.judged.timely running.coherent ?_
        (running.timely other (List.mem_cons_of_mem _ member))
      intro same
      exact (List.nodup_cons.mp running.pieces).1 (same ▸ List.mem_map_of_mem member)
  | nil =>
      cases landings with
      | nil => exact running
      | cons event landings => exact of_landings coherent

/-- An advance of a coherent engine only reorders its flights. -/
theorem advance_table {engine : GameEngine} (coherent : (engine.view []).Coherent) {ms : Int}
    (elapsed : 0 ≤ ms) : ∃ flights, flights.Perm (engine.view []).flights ∧
      (advance engine ms).table = { engine.view [] with flights := flights } := by
  obtain ⟨flights, perm, viewed⟩ := engine.view_advanceTime elapsed
  have kept : (engine.realTime.activeMotions.filter
      fun motion => engine.stateOf motion.piece = .moving) = engine.realTime.activeMotions :=
    coherent.filter_moving
  rw [kept] at viewed
  exact ⟨flights, perm, viewed⟩

/-- **Advancing the clock of a coherent engine** gives a running moment. -/
theorem advance_running {engine : GameEngine} (coherent : (engine.view []).Coherent) {ms : Int}
    (elapsed : 0 ≤ ms) : Running (advance engine ms) := by
  obtain ⟨flights, perm, kept⟩ := advance_table coherent elapsed
  have steps : (advance engine ms).steps.Perm ((engine.realTime.activeMotions.filter
      (RealTimeArbiter.IsDue engine.pieces (engine.realTime.currentTimeMs + ms))).map
        Motion.stepEvent) := by
    simp only [advance, GameEngine.advanceTime, RealTimeArbiter.advanceTime, not_lt.mpr elapsed,
      if_false]
    exact List.perm_insertionSort _ _
  refine ⟨kept ▸ coherent.reorder perm, ?_, ?_⟩
  · refine (steps.map StepEvent.piece).nodup_iff.mpr ?_
    rw [List.map_map]
    exact (List.filter_sublist.map Motion.piece).nodup coherent.distinct
  · intro event member
    rw [kept]
    obtain ⟨motion, due, rfl⟩ := List.mem_map.mp (steps.mem_iff.mp member)
    exact fun _ => ⟨motion, (List.mem_filter.mp due).1, rfl⟩

/-! ## Fresh moments -/

/-- A moment at the start of a batch: its step events are due steps of moving
pieces, and nothing else is due. -/
structure Fresh (moment : Moment) : Prop where
  due : ∀ event ∈ moment.steps, moment.engine.stateOf event.piece = .moving ∧
    event.eventTimeMs ≤ moment.engine.getCurrentTimeMs
  steps : ∀ motion ∈ moment.engine.realTime.activeMotions,
    moment.engine.stateOf motion.piece = .moving →
      motion.nextStepTimeMs ≤ moment.engine.getCurrentTimeMs → motion.stepEvent ∈ moment.steps
  jumps : ∀ jump ∈ moment.engine.realTime.activeJumps,
    moment.engine.getCurrentTimeMs < jump.finishTimeMs

theorem advance_fresh (engine : GameEngine) {ms : Int} (elapsed : 0 ≤ ms) :
    Fresh (advance engine ms) := by
  simp only [advance, GameEngine.advanceTime, RealTimeArbiter.advanceTime, not_lt.mpr elapsed,
    if_false]
  refine ⟨?_, ?_, ?_⟩
  · intro event member
    obtain ⟨motion, passed, rfl⟩ :=
      List.mem_map.mp ((List.perm_insertionSort _ _).mem_iff.mp member)
    exact of_decide_eq_true (List.mem_filter.mp passed).2
  · intro motion member moving due
    refine (List.perm_insertionSort _ _).mem_iff.mpr (List.mem_map_of_mem ?_)
    exact List.mem_filter.mpr ⟨(List.mem_filter.mp member).1, decide_eq_true ⟨moving, due⟩⟩
  · intro jump member
    exact not_le.mp (of_decide_eq_true (List.mem_filter.mp member).2)

@[simp] theorem advance_clock (engine : GameEngine) {ms : Int} (elapsed : 0 ≤ ms) :
    (advance engine ms).engine.getCurrentTimeMs = engine.getCurrentTimeMs + ms := by
  simp only [advance, GameEngine.advanceTime, RealTimeArbiter.advanceTime, not_lt.mpr elapsed,
    if_false]
  rfl

end Moment

/-- Nothing is due: every step and every landing lies in the future. -/
structure GameEngine.Settled (engine : GameEngine) : Prop where
  motions : ∀ motion ∈ engine.realTime.activeMotions, engine.stateOf motion.piece = .moving →
    engine.getCurrentTimeMs < motion.nextStepTimeMs
  jumps : ∀ jump ∈ engine.realTime.activeJumps, engine.getCurrentTimeMs < jump.finishTimeMs

/-- A fresh moment without events is settled. -/
theorem Moment.Fresh.settled {engine : GameEngine} (fresh : (Moment.quiet engine).Fresh) :
    engine.Settled where
  motions := fun motion member moving => not_le.mp fun due =>
    absurd (fresh.steps motion member moving due) List.not_mem_nil
  jumps := fresh.jumps

/-! ## The moments of a wait -/

namespace GameEngine

/-- The moments in which the steps of a batch are processed. -/
def stepMoments (landings : List JumpLandingEvent) : GameEngine → List StepEvent → List Moment
  | _, [] => []
  | engine, event :: steps =>
      ⟨engine, event :: steps, landings⟩ ::
        stepMoments landings (engine.processStepEvent event) steps

/-- The moments in which the landings of a batch are processed. -/
def landingMoments (load : PieceConfigReader) : GameEngine → List JumpLandingEvent → List Moment
  | _, [] => []
  | engine, event :: landings =>
      ⟨engine, [], event :: landings⟩ ::
        landingMoments load (engine.processJumpLanding load event) landings

def batchMoments (load : PieceConfigReader) (engine : GameEngine) (events : TimeEvents) :
    List Moment :=
  stepMoments events.jumpLandings engine events.steps ++
    landingMoments load (events.steps.foldl processStepEvent engine) events.jumpLandings

/-- The moments of `drainEvents`. -/
def drainMoments (load : PieceConfigReader) : Nat → TimeEvents → GameEngine → List Moment
  | 0, _, _ => []
  | fuel + 1, events, engine =>
      if events.isEmpty then []
      else
        let (next, advanced) := (engine.applyTimeEvents load events).advanceTime 0
        engine.batchMoments load events ++ drainMoments load fuel next advanced

/-- The moments of `wait`. -/
def waitMoments (load : PieceConfigReader) (engine : GameEngine) (ms : Int) : List Moment :=
  if ms < 0 then []
  else
    let (events, advanced) := engine.advanceTime ms
    drainMoments load (engine.dueBudget (engine.getCurrentTimeMs + ms) + 1) events advanced

end GameEngine

end KungFuChess
