import KungFuChess.Engine.Runs
import KungFuChess.Library.Chronology

/-!
# Splitting a wait

A wait processes its events in batches: the steps of one batch come before its
landings, and before the steps that follow them. So the order of the events
depends on how the time is sliced. Where every event is processed at its turn, a
wait follows the chronology of the engine, and the chronology can be cut
anywhere.
-/

set_option autoImplicit false

namespace KungFuChess

/-! ## The chronology of an engine -/

/-- A step event comes before the next step of a motion. -/
def StepEvent.Sooner (event : StepEvent) (motion : Motion) : Prop :=
  event.eventTimeMs < motion.nextStepTimeMs ∨
    (event.eventTimeMs = motion.nextStepTimeMs ∧ event.order < motion.order)

instance (event : StepEvent) (motion : Motion) : Decidable (event.Sooner motion) :=
  inferInstanceAs (Decidable (_ ∨ _))

namespace GameEngine

/-- Replace the jumps of an engine. -/
def withJumps (engine : GameEngine) (activeJumps : List Jump) : GameEngine :=
  engine.withClock engine.getCurrentTimeMs activeJumps

/-- **The next event of an engine**, whatever its clock shows: the earliest step or
landing. At equal times steps come first, in the order their motions were
started, and then landings, in the order of their jumps. -/
inductive Next (load : PieceConfigReader) (engine : GameEngine) : Int → GameEngine → Prop
  | step {motion : Motion} (member : motion ∈ engine.realTime.activeMotions)
      (first : ∀ other ∈ engine.realTime.activeMotions, other ≠ motion →
        motion.stepEvent.Sooner other)
      (grounded : ∀ jump ∈ engine.realTime.activeJumps,
        motion.nextStepTimeMs ≤ jump.finishTimeMs) :
      Next load engine motion.nextStepTimeMs (engine.processStepEvent motion.stepEvent)
  | landing {before after : List Jump} {jump : Jump}
      (split : engine.realTime.activeJumps = before ++ jump :: after)
      (first : ∀ other ∈ before, jump.finishTimeMs < other.finishTimeMs)
      (later : ∀ other ∈ after, jump.finishTimeMs ≤ other.finishTimeMs)
      (steps : ∀ motion ∈ engine.realTime.activeMotions,
        jump.finishTimeMs < motion.nextStepTimeMs) :
      Next load engine jump.finishTimeMs
        ((engine.withJumps (before ++ after)).processJumpLanding load jump.landingEvent)

/-- Of two splits of the jumps, the first one is no longer than the second when its
jump comes before all the others. -/
theorem length_le_of_earliest {before after others rest : List Jump} {jump other : Jump}
    (same : others ++ other :: rest = before ++ jump :: after)
    (first : ∀ third ∈ others, other.finishTimeMs < third.finishTimeMs)
    (later : ∀ third ∈ after, jump.finishTimeMs ≤ third.finishTimeMs) :
    others.length ≤ before.length := by
  rcases List.append_eq_append_iff.mp same with ⟨skipped, rfl, _⟩ | ⟨skipped, longer, cons⟩
  · rw [List.length_append]
    exact Nat.le_add_right _ _
  · cases skipped with
    | nil => rw [longer, List.append_nil]
    | cons head skipped =>
        rw [List.cons_append, List.cons.injEq] at cons
        obtain ⟨rfl, rfl⟩ := cons
        have sooner := first jump
          (longer ▸ List.mem_append_right _ (List.mem_cons_self ..))
        exact absurd (later other (List.mem_append_right _ (List.mem_cons_self ..)))
          (not_le.mpr sooner)

/-- **No engine has two next events.** -/
theorem Next.deterministic {load : PieceConfigReader} {engine one two : GameEngine}
    {early late : Int} (left : engine.Next load early one) (right : engine.Next load late two) :
    one = two := by
  cases left with
  | @step motion member first grounded =>
      cases right with
      | @step other otherMember otherFirst _ =>
          have same : motion = other := by
            by_contra distinct
            have sooner := first other otherMember (Ne.symm distinct)
            have later := otherFirst motion member distinct
            simp only [StepEvent.Sooner, Motion.stepEvent] at sooner later
            omega
          rw [same]
      | @landing _ _ jump split _ _ steps =>
          have present : jump ∈ engine.realTime.activeJumps :=
            split ▸ List.mem_append_right _ (List.mem_cons_self ..)
          exact absurd (grounded jump present) (not_le.mpr (steps motion member))
  | @landing before after jump split first later steps =>
      cases right with
      | @step motion member _ grounded =>
          have present : jump ∈ engine.realTime.activeJumps :=
            split ▸ List.mem_append_right _ (List.mem_cons_self ..)
          exact absurd (grounded jump present) (not_le.mpr (steps motion member))
      | @landing others rest other otherSplit otherFirst otherLater _ =>
          have same := split.symm.trans otherSplit
          have lengths : before.length = others.length :=
            le_antisymm (length_le_of_earliest same first otherLater)
              (length_le_of_earliest same.symm otherFirst later)
          obtain ⟨rfl, cons⟩ := List.append_inj same lengths
          cases cons
          rfl

end GameEngine

/-! ## Events at their turn -/

namespace Moment

/-- The next event of a moment is processed at its turn: no outstanding event is
due before it. A step event whose piece has stopped is not processed at all. -/
def InOrder (moment : Moment) : Prop :=
  (∀ event ∈ moment.steps.head?, moment.engine.stateOf event.piece = .moving →
    (∀ motion ∈ moment.engine.realTime.activeMotions, motion.piece ≠ event.piece →
      event.Sooner motion) ∧
    ∀ landing ∈ moment.landings, event.eventTimeMs ≤ landing.eventTimeMs) ∧
  (moment.steps = [] → ∀ landing ∈ moment.landings.head?,
    (∀ motion ∈ moment.engine.realTime.activeMotions,
      landing.eventTimeMs < motion.nextStepTimeMs) ∧
    ∀ other ∈ moment.landings.tail, landing.eventTimeMs ≤ other.eventTimeMs)

instance (moment : Moment) : Decidable moment.InOrder :=
  inferInstanceAs (Decidable (_ ∧ _))

/-- A moment shows an engine in which the jumps are not yet split into those that
are finished and those that are not. -/
structure Shows (moment : Moment) (whole : GameEngine) : Prop where
  engine : moment.engine = whole.withClock moment.engine.getCurrentTimeMs
    (whole.realTime.activeJumps.filter fun jump =>
      ¬ jump.finishTimeMs ≤ moment.engine.getCurrentTimeMs)
  landings : moment.landings = (whole.realTime.activeJumps.filter fun jump =>
    jump.finishTimeMs ≤ moment.engine.getCurrentTimeMs).map Jump.landingEvent
  due : ∀ event ∈ moment.steps, event.eventTimeMs ≤ moment.engine.getCurrentTimeMs

theorem Shows.motions {moment : Moment} {whole : GameEngine} (shows : moment.Shows whole) :
    moment.engine.realTime.activeMotions = whole.realTime.activeMotions := by
  rw [shows.engine]
  rfl

variable (load : PieceConfigReader)

/-- A step event at its turn is the next event. -/
theorem Shows.next_step {engine whole : GameEngine} {event : StepEvent} {steps : List StepEvent}
    {landings : List JumpLandingEvent}
    (running : Running ⟨engine, event :: steps, landings⟩)
    (shows : Shows ⟨engine, event :: steps, landings⟩ whole)
    (inOrder : InOrder ⟨engine, event :: steps, landings⟩)
    (moving : engine.stateOf event.piece = .moving) :
    whole.Next load event.eventTimeMs (whole.processStepEvent event) := by
  have due := shows.due event (List.mem_cons_self ..)
  obtain ⟨first, grounded⟩ := inOrder.1 event rfl moving
  obtain ⟨motion, member, rfl⟩ := running.timely event (List.mem_cons_self ..) moving
  have motions : engine.realTime.activeMotions = whole.realTime.activeMotions := shows.motions
  refine .step (motions ▸ member) ?_ ?_
  · intro other present distinct
    rw [← motions] at present
    refine first other present fun same => distinct ?_
    exact running.coherent.motion_unique present member same
  · intro jump present
    by_cases finished : jump.finishTimeMs ≤ engine.getCurrentTimeMs
    · refine grounded jump.landingEvent ?_
      rw [show landings = _ from shows.landings]
      exact List.mem_map_of_mem (List.mem_filter.mpr ⟨present, decide_eq_true finished⟩)
    · exact due.trans (not_le.mp finished).le

/-- Processing it shows the engine that follows. -/
theorem Shows.step {engine whole : GameEngine} {event : StepEvent} {steps : List StepEvent}
    {landings : List JumpLandingEvent} (shows : Shows ⟨engine, event :: steps, landings⟩ whole) :
    Shows ⟨engine.processStepEvent event, steps, landings⟩ (whole.processStepEvent event) := by
  obtain ⟨clock, _⟩ := GameEngine.processStepEvent_clock engine event
  obtain ⟨_, jumps⟩ := GameEngine.processStepEvent_clock whole event
  have clock : (engine.processStepEvent event).getCurrentTimeMs = engine.getCurrentTimeMs := clock
  refine ⟨?_, ?_, ?_⟩
  · rw [clock, jumps, ← GameEngine.withClock_processStepEvent]
    exact congrArg (·.processStepEvent event) shows.engine
  · rw [clock, jumps]
    exact shows.landings
  · intro other member
    rw [clock]
    exact shows.due other (List.mem_cons_of_mem _ member)

/-- A landing at its turn is the next event, and processing it shows the engine
that follows. -/
theorem Shows.landing {engine whole : GameEngine} {event : JumpLandingEvent}
    {landings : List JumpLandingEvent} (shows : Shows ⟨engine, [], event :: landings⟩ whole)
    (inOrder : InOrder ⟨engine, [], event :: landings⟩) :
    ∃ next, event.eventTimeMs ≤ engine.getCurrentTimeMs ∧
      whole.Next load event.eventTimeMs next ∧
        Shows ⟨engine.processJumpLanding load event, [], landings⟩ next := by
  obtain ⟨steps, first⟩ := inOrder.2 rfl event rfl
  have motions : engine.realTime.activeMotions = whole.realTime.activeMotions := shows.motions
  obtain ⟨jump, finished, listed, rfl, tail⟩ := List.map_eq_cons_iff.mp shows.landings.symm
  obtain ⟨before, after, split, unfinished, due, rest⟩ := List.filter_eq_cons_iff.mp listed
  simp only [decide_eq_true_eq] at unfinished due
  refine ⟨_, due, .landing split ?_ ?_ ?_, ?_⟩
  · exact fun other member => due.trans_lt (not_le.mp (unfinished other member))
  · intro other member
    by_cases early : other.finishTimeMs ≤ engine.getCurrentTimeMs
    · refine first other.landingEvent ?_
      change other.landingEvent ∈ landings
      rw [← tail, ← rest]
      exact List.mem_map_of_mem (List.mem_filter.mpr ⟨member, decide_eq_true early⟩)
    · exact due.trans (not_le.mp early).le
  · exact fun motion member => steps motion (motions ▸ member)
  · obtain ⟨clock, _⟩ := GameEngine.processJumpLanding_clock load engine jump.landingEvent
    obtain ⟨_, jumps⟩ := GameEngine.processJumpLanding_clock load
      (whole.withJumps (before ++ after)) jump.landingEvent
    have clock : (engine.processJumpLanding load jump.landingEvent).getCurrentTimeMs =
        engine.getCurrentTimeMs := clock
    have none_before : before.filter (fun jump => jump.finishTimeMs ≤ engine.getCurrentTimeMs) =
        [] :=
      List.filter_eq_nil_iff.mpr fun other member => by
        simpa only [decide_eq_true_eq] using unfinished other member
    refine ⟨?_, ?_, fun _ member => absurd member List.not_mem_nil⟩
    · rw [clock, jumps]
      have same : (whole.withJumps (before ++ after)).realTime.activeJumps.filter (fun jump =>
          ¬ jump.finishTimeMs ≤ engine.getCurrentTimeMs) = whole.realTime.activeJumps.filter
            fun jump => ¬ jump.finishTimeMs ≤ engine.getCurrentTimeMs := by
        rw [split]
        simp only [GameEngine.withJumps, GameEngine.withClock, List.filter_append, List.filter_cons,
          due, not_true_eq_false, decide_false, Bool.false_eq_true, if_false]
      rw [same, ← GameEngine.withClock_processJumpLanding]
      exact congrArg (·.processJumpLanding load jump.landingEvent) shows.engine
    · rw [clock, jumps]
      change landings = ((before ++ after).filter _).map _
      rw [List.filter_append, none_before, List.nil_append, rest, tail]

/-- **Processing at its turn** follows the chronology. -/
theorem Shows.process {moment : Moment} {whole : GameEngine} (shows : moment.Shows whole)
    (running : moment.Running) (inOrder : moment.InOrder) :
    ∃ next, Chronology.Reaches (GameEngine.Next load) moment.engine.getCurrentTimeMs whole next ∧
      (moment.process load).Shows next := by
  obtain ⟨engine, steps, landings⟩ := moment
  cases steps with
  | cons event steps =>
      by_cases moving : engine.stateOf event.piece = .moving
      · refine ⟨_, .single ⟨_, shows.due event (List.mem_cons_self ..), ?_⟩, shows.step⟩
        exact shows.next_step load running inOrder moving
      · have ignored : engine.processStepEvent event = engine := if_pos moving
        refine ⟨whole, .refl, ?_⟩
        rw [Moment.process, ignored]
        exact ⟨shows.engine, shows.landings, fun other member =>
          shows.due other (List.mem_cons_of_mem _ member)⟩
  | nil =>
      cases landings with
      | nil => exact ⟨whole, .refl, shows⟩
      | cons event landings =>
          obtain ⟨next, due, turn, shown⟩ := shows.landing load inOrder
          exact ⟨next, .single ⟨_, due, turn⟩, shown⟩

/-- Without landings to process, a moment shows its own engine. -/
theorem Shows.jumps {engine whole : GameEngine} (shows : (quiet engine).Shows whole) :
    engine.realTime.activeJumps = whole.realTime.activeJumps := by
  have finished : whole.realTime.activeJumps.filter (fun jump =>
      jump.finishTimeMs ≤ engine.getCurrentTimeMs) = [] :=
        List.map_eq_nil_iff.mp shows.landings.symm
  have split : engine.realTime.activeJumps = whole.realTime.activeJumps.filter fun jump =>
      ¬ jump.finishTimeMs ≤ engine.getCurrentTimeMs :=
    congrArg (fun shown : GameEngine => shown.realTime.activeJumps) shows.engine
  rw [split]
  refine List.filter_eq_self.mpr fun jump member => ?_
  have late := List.filter_eq_nil_iff.mp finished jump member
  simpa only [decide_eq_true_eq] using late

/-- An engine in which nothing is due shows any engine that differs in the clock. -/
theorem shows_of_settled {engine whole : GameEngine} (settled : engine.Settled)
    (same : engine = whole.withClock engine.getCurrentTimeMs whole.realTime.activeJumps) :
    (quiet engine).Shows whole := by
  have jumps : engine.realTime.activeJumps = whole.realTime.activeJumps := by
    rw [same]
    rfl
  have waiting : ∀ jump ∈ whole.realTime.activeJumps,
      ¬ jump.finishTimeMs ≤ engine.getCurrentTimeMs := fun jump member =>
    not_le.mpr (settled.jumps jump (jumps ▸ member))
  refine ⟨?_, ?_, fun _ member => absurd member List.not_mem_nil⟩
  · have all : whole.realTime.activeJumps.filter (fun jump =>
        ¬ jump.finishTimeMs ≤ engine.getCurrentTimeMs) = whole.realTime.activeJumps :=
      List.filter_eq_self.mpr fun jump member => decide_eq_true (waiting jump member)
    exact same.trans (congrArg (whole.withClock engine.getCurrentTimeMs) all.symm)
  · have none : whole.realTime.activeJumps.filter (fun jump =>
        jump.finishTimeMs ≤ engine.getCurrentTimeMs) = [] :=
      List.filter_eq_nil_iff.mpr fun jump member => by
        simpa only [decide_eq_true_eq] using waiting jump member
    exact (congrArg (List.map Jump.landingEvent) none).symm

/-- An advance of the clock shows the same engine. -/
theorem Shows.advance {engine whole : GameEngine} (shows : (quiet engine).Shows whole)
    (coherent : (engine.view []).Coherent) {ms : Int} (elapsed : 0 ≤ ms) :
    (Moment.advance engine ms).Shows whole := by
  have clock := advance_clock engine elapsed
  have jumps := shows.jumps
  have kept : (engine.realTime.activeMotions.filter
      fun motion => (engine.pieces.get motion.piece).state = .moving) =
        engine.realTime.activeMotions :=
    coherent.filter_moving
  refine ⟨?_, ?_, fun event member => ((advance_fresh engine elapsed).due event member).2⟩
  · rw [clock, ← jumps]
    have isOver : ∀ jumps, engine.withClock (engine.getCurrentTimeMs + ms) jumps =
        whole.withClock (engine.getCurrentTimeMs + ms) jumps := by
      intro jumps
      have shown := congrArg (GameEngine.withClock · (engine.getCurrentTimeMs + ms) jumps)
        shows.engine
      exact shown
    rw [← isOver]
    simp only [Moment.advance, GameEngine.advanceTime, RealTimeArbiter.advanceTime,
      not_lt.mpr elapsed, if_false, GameEngine.withClock, RealTimeArbiter.afterEvents, kept]
    rfl
  · rw [clock, ← jumps]
    simp only [Moment.advance, GameEngine.advanceTime, RealTimeArbiter.advanceTime,
      not_lt.mpr elapsed, if_false]
    rfl

end Moment

/-! ## Waits -/

namespace GameEngine

/-- **A wait whose events are all processed at their turn** follows the chronology
up to its end. -/
theorem wait_follows (load : PieceConfigReader) {engine whole : GameEngine}
    (coherent : (engine.view []).Coherent) (settled : engine.Settled)
    (same : engine = whole.withClock engine.getCurrentTimeMs whole.realTime.activeJumps) {ms : Int}
    (elapsed : 0 ≤ ms) (inOrder : ∀ moment ∈ engine.waitMoments load ms, moment.InOrder) :
    ∃ next, Chronology.Ends (Next load) (engine.getCurrentTimeMs + ms) whole next ∧
      engine.wait load ms =
        next.withClock (engine.getCurrentTimeMs + ms) next.realTime.activeJumps := by
  obtain ⟨journey, ended, clock⟩ := wait_journey load coherent elapsed
  have followed := journey.rule
    (motive := fun moment => moment.Running ∧ ∃ next,
      Chronology.Reaches (Next load) moment.engine.getCurrentTimeMs whole next ∧
        moment.Shows next)
    Moment.InOrder
    (by
      rintro _ _ ⟨current, elapsed⟩ ⟨running, next, reaches, shows⟩
      refine ⟨Moment.advance_running running.coherent elapsed, next, ?_,
        shows.advance running.coherent elapsed⟩
      rw [Moment.advance_clock current elapsed]
      exact reaches.mono (le_add_of_nonneg_right elapsed))
    (by
      rintro moment _ rfl inOrder ⟨running, next, reaches, shows⟩
      obtain ⟨later, onward, shown⟩ := shows.process load running inOrder
      refine ⟨running.process load, later, ?_, shown⟩
      rw [process_clock]
      exact reaches.trans onward)
    inOrder ⟨Moment.of_landings coherent, whole, .refl, Moment.shows_of_settled settled same⟩
  obtain ⟨running, next, reaches, shows⟩ := followed
  have jumps := shows.jumps
  have motions : (engine.wait load ms).realTime.activeMotions = next.realTime.activeMotions :=
    shows.motions
  refine ⟨next, ⟨clock ▸ reaches, ?_⟩, ?_⟩
  · rintro last ⟨time, early, turn⟩
    rw [← clock] at early
    cases turn with
    | @step motion member _ _ =>
        have present := motions ▸ member
        exact absurd (ended.motions motion present (running.coherent.stateOf_motion present))
          (not_lt.mpr early)
    | @landing _ _ jump split _ _ _ =>
        have member : jump ∈ next.realTime.activeJumps :=
          split ▸ List.mem_append_right _ (List.mem_cons_self ..)
        exact absurd (ended.jumps jump (jumps ▸ member)) (not_lt.mpr early)
  · have shown : engine.wait load ms = next.withClock (engine.wait load ms).getCurrentTimeMs
        (next.realTime.activeJumps.filter fun jump =>
          ¬ jump.finishTimeMs ≤ (engine.wait load ms).getCurrentTimeMs) := shows.engine
    have split : (engine.wait load ms).realTime.activeJumps =
        next.realTime.activeJumps.filter fun jump =>
          ¬ jump.finishTimeMs ≤ (engine.wait load ms).getCurrentTimeMs := by
      have read := congrArg (fun shown : GameEngine => shown.realTime.activeJumps) shown
      exact read
    rw [← split, jumps, clock] at shown
    exact shown

/-! ### Requests leave nothing due -/

/-- Every step and every landing lies in the future. -/
def Waiting (engine : GameEngine) : Prop :=
  (∀ motion ∈ engine.realTime.activeMotions, engine.getCurrentTimeMs < motion.nextStepTimeMs) ∧
    ∀ jump ∈ engine.realTime.activeJumps, engine.getCurrentTimeMs < jump.finishTimeMs

theorem Settled.waiting {engine : GameEngine} (settled : engine.Settled)
    (coherent : (engine.view []).Coherent) : engine.Waiting :=
  ⟨fun motion member => settled.motions motion member (coherent.stateOf_motion member),
    settled.jumps⟩

/-- A motion that is started makes its first step later. -/
theorem Waiting.startMotion {engine : GameEngine} (waiting : engine.Waiting) (piece : PieceId)
    (source destination : Position) (stepDurationMs : Int) (forceDirectMove : Bool) :
    (engine.startMotion piece source destination stepDurationMs forceDirectMove).Waiting := by
  refine ⟨fun motion member => ?_, waiting.2⟩
  rcases List.mem_append.mp member with before | started
  · exact waiting.1 motion before
  · rw [List.mem_singleton.mp started]
    change engine.realTime.currentTimeMs < engine.realTime.currentTimeMs +
      (if stepDurationMs ≤ 0 then 1 else stepDurationMs)
    split <;> omega

theorem Waiting.perform {engine : GameEngine} (waiting : engine.Waiting)
    (coherent : (engine.view []).Coherent) (load : PieceConfigReader) (call : Call) :
    (engine.perform load call).Waiting := by
  cases call with
  | requestMove source destination =>
      rcases requestMove_cases load engine source destination with
        same | ⟨piece, _, started⟩ | ⟨castle, _, _, _, started⟩
      · rw [GameEngine.perform, same]
        exact waiting
      · rw [GameEngine.perform, started]
        have marked : (engine.modifyPiece piece (·.markAsMoved)).Waiting := waiting
        exact marked.startMotion ..
      · rw [GameEngine.perform, started]
        have marked : ((engine.modifyPiece castle.king (·.markAsMoved)).modifyPiece castle.rook
            (·.markAsMoved)).Waiting := waiting
        exact (marked.startMotion ..).startMotion ..
  | requestJump cell =>
      rcases requestJump_cases load engine cell with same | ⟨piece, _, started⟩
      · rw [GameEngine.perform, same]
        exact waiting
      · rw [GameEngine.perform, started]
        refine ⟨waiting.1, fun jump member => ?_⟩
        rcases List.mem_append.mp member with before | lifted
        · exact waiting.2 jump before
        · rw [List.mem_singleton.mp lifted]
          change engine.realTime.currentTimeMs <
            engine.realTime.currentTimeMs + (if _ then 1 else _)
          split <;> omega
  | wait ms =>
      by_cases negative : ms < 0
      · rw [GameEngine.perform, wait_of_neg load engine negative]
        exact waiting
      · have elapsed := not_lt.mp negative
        exact (wait_journey load coherent elapsed).2.1.waiting (wait_coherent load coherent elapsed)

/-- **In every engine a run reaches, nothing is due.** -/
theorem run_settled (load : PieceConfigReader) (layout : Layout) (eventBus : Option EventBus)
    (calls : List Call) : ((new layout eventBus).run load calls).Settled := by
  have reached := Trace.run_invariant
    (motive := fun engine : GameEngine => (engine.view []).Coherent ∧ engine.Waiting)
    (fun engine call before =>
      ⟨perform_coherent load engine call before.1, before.2.perform before.1 load call⟩)
    calls ⟨new_coherent layout eventBus, fun _ member => absurd member List.not_mem_nil,
      fun _ member => absurd member List.not_mem_nil⟩
  exact ⟨fun motion member _ => reached.2.1 motion member, reached.2.2⟩

/-- **Time advance terminates and catches up.** From every engine a run reaches and with
whatever speeds are configured, the loop of a wait ends, and it leaves every step and
every landing in the future of the advanced clock. -/
theorem run_wait_catchesUp (load : PieceConfigReader) (layout : Layout)
    (eventBus : Option EventBus) (calls : List Call) {ms : Int} (elapsed : 0 ≤ ms) :
    Drains load (((new layout eventBus).run load calls).advanceTime ms).1
        (((new layout eventBus).run load calls).advanceTime ms).2
        (((new layout eventBus).run load calls).wait load ms) ∧
      (((new layout eventBus).run load calls).wait load ms).Waiting ∧
      (((new layout eventBus).run load calls).wait load ms).getCurrentTimeMs =
        ((new layout eventBus).run load calls).getCurrentTimeMs + ms := by
  have coherent := run_coherent load layout eventBus calls
  obtain ⟨_, settled, clock⟩ := wait_journey load coherent elapsed
  exact ⟨drains_wait load coherent elapsed,
    settled.waiting (wait_coherent load coherent elapsed), clock⟩

/-- A rook crosses its row in one long wait, at a configured speed of nothing. -/
theorem run_wait_catchesUp_rook :
    (0 : Int) ≤ 100000 ∧
    Drains (fun _ _ => { moveTimePerCellMs := 0 })
      (((new (BoardParser.parse ["wR . ."]).layout none).run
        (fun _ _ => { moveTimePerCellMs := 0 }) [.requestMove ⟨0, 0⟩ ⟨0, 2⟩]).advanceTime 100000).1
      (((new (BoardParser.parse ["wR . ."]).layout none).run
        (fun _ _ => { moveTimePerCellMs := 0 }) [.requestMove ⟨0, 0⟩ ⟨0, 2⟩]).advanceTime 100000).2
      (((new (BoardParser.parse ["wR . ."]).layout none).run
        (fun _ _ => { moveTimePerCellMs := 0 }) [.requestMove ⟨0, 0⟩ ⟨0, 2⟩]).wait
        (fun _ _ => { moveTimePerCellMs := 0 }) 100000) :=
  ⟨by decide, (run_wait_catchesUp (fun _ _ => { moveTimePerCellMs := 0 })
    (BoardParser.parse ["wR . ."]).layout none [.requestMove ⟨0, 0⟩ ⟨0, 2⟩] (by decide)).1⟩

/-! ## Splitting -/

/-- **Time splitting.** From every engine a run reaches, two waits in a row come to
the same engine as one wait for both, when all three process every event at its
turn. -/
theorem run_wait_wait (load : PieceConfigReader) (layout : Layout) (eventBus : Option EventBus)
    (calls : List Call) {a b : Int} (first : 0 ≤ a) (second : 0 ≤ b)
    (inFirst : ∀ moment ∈ ((new layout eventBus).run load calls).waitMoments load a,
      moment.InOrder)
    (inSecond : ∀ moment ∈ (((new layout eventBus).run load calls).wait load a).waitMoments load b,
      moment.InOrder)
    (inBoth : ∀ moment ∈ ((new layout eventBus).run load calls).waitMoments load (a + b),
      moment.InOrder) :
    (((new layout eventBus).run load calls).wait load a).wait load b =
      ((new layout eventBus).run load calls).wait load (a + b) := by
  have coherent := run_coherent load layout eventBus calls
  have settled := run_settled load layout eventBus calls
  generalize (new layout eventBus).run load calls = engine at *
  obtain ⟨_, halfway, clock⟩ := wait_journey load coherent first
  obtain ⟨middle, before, waited⟩ := wait_follows load coherent settled rfl first inFirst
  rw [← clock] at waited
  obtain ⟨last, after, waitedOn⟩ := wait_follows load (wait_coherent load coherent first) halfway
    waited second inSecond
  obtain ⟨end', whole, waitedBoth⟩ := wait_follows load coherent settled rfl
    (Int.add_nonneg first second) inBoth
  have horizon : engine.getCurrentTimeMs + a + b = engine.getCurrentTimeMs + (a + b) :=
    Int.add_assoc ..
  rw [clock, horizon] at after waitedOn
  have same : last = end' :=
    (before.trans (by omega) after).unique whole fun _ _ _ _ _ => Next.deterministic
  rw [waitedOn, waitedBoth, same]

/-- A rook on its way to a knight that jumps. -/
def jumpingKnight : Layout := (BoardParser.parse ["wR bN"]).layout

/-- The knight lands a second after its jump, half a second before the rook's step is
due. -/
def jumpingKnightCalls : List Call :=
  [.requestJump ⟨0, 1⟩, .wait 500, .requestMove ⟨0, 0⟩ ⟨0, 1⟩]

/-- The knight lands in the second of the two waits; the rook is still on its way. -/
theorem run_wait_wait_knight :
    (((new jumpingKnight none).run PieceConfigReader.fallback jumpingKnightCalls).wait
        PieceConfigReader.fallback 250).wait PieceConfigReader.fallback 500 =
      ((new jumpingKnight none).run PieceConfigReader.fallback jumpingKnightCalls).wait
        PieceConfigReader.fallback (250 + 500) :=
  run_wait_wait PieceConfigReader.fallback jumpingKnight none jumpingKnightCalls (by decide)
    (by decide) (by decide +kernel) (by decide +kernel) (by decide +kernel)

/-- In one wait the rook arrives before the knight, due earlier, has landed. -/
theorem knight_depends_on_slicing :
    ((((new jumpingKnight none).run PieceConfigReader.fallback jumpingKnightCalls).wait
        PieceConfigReader.fallback 500).wait PieceConfigReader.fallback 500).stateOf 1 ≠
      (((new jumpingKnight none).run PieceConfigReader.fallback jumpingKnightCalls).wait
        PieceConfigReader.fallback (500 + 500)).stateOf 1 := by
  decide +kernel

end GameEngine

end KungFuChess
