import KungFuChess.Library.Trace
import KungFuChess.Messaging.Message

/-!
# The start of a game on the client

`ClientUiPhaseMachine` turns the snapshots a client shows into the display of the
game's start. The first ready snapshot fixes the start on the steady clock; from
then on neither the wall clock nor a later snapshot has a say, and once the game
is shown as running it stays so until it is over.

A `long long` is an integer: the clocks and start times of a run are taken to be
such that no difference or sum of them overflows.
-/

set_option autoImplicit false

namespace KungFuChess

inductive ClientUiPhase where
  | usernameEntry
  | connecting
  | waitingForOpponent
  | countdown
  | playing
  | reconnecting
  | gameOver
  deriving DecidableEq, Repr

structure GameStartDisplay where
  phase : ClientUiPhase := .waitingForOpponent
  text : String := "Waiting for another player..."
  deriving DecidableEq, Repr

def buildGameStartDisplay (playersReady : Bool) (gameplayStartsAtEpochMs nowEpochMs : Int) :
    GameStartDisplay :=
  if !playersReady then { phase := .waitingForOpponent, text := "Waiting for another player..." }
  else
    let remaining := gameplayStartsAtEpochMs - nowEpochMs
    if remaining ≤ 0 then { phase := .playing, text := "" }
    else if remaining ≤ 1000 then { phase := .countdown, text := "GO!" }
    else if remaining ≤ 2000 then { phase := .countdown, text := "1" }
    else if remaining ≤ 3000 then { phase := .countdown, text := "2" }
    else { phase := .countdown, text := "3" }

structure ClientUiPhaseMachine where
  currentPhase : ClientUiPhase := .usernameEntry
  startObserved : Bool := false
  playingReached : Bool := false
  steadyStartMs : Int := 0
  deriving DecidableEq, Repr

namespace ClientUiPhaseMachine

/-! ## The machine -/

def markConnecting (machine : ClientUiPhaseMachine) : ClientUiPhaseMachine :=
  if !machine.playingReached then { machine with currentPhase := .connecting } else machine

def markReconnecting (machine : ClientUiPhaseMachine) : ClientUiPhaseMachine :=
  if machine.startObserved then { machine with currentPhase := .reconnecting } else machine

/-- The first ready snapshot fixes the start of the game on the steady clock. -/
def observeStart (machine : ClientUiPhaseMachine) (snapshot : GameStateSnapshot)
    (nowEpochMs nowSteadyMs : Int) : ClientUiPhaseMachine :=
  if !machine.startObserved && snapshot.playersReady then
    let remaining := snapshot.gameplayStartsAtEpochMs - nowEpochMs
    { machine with
      startObserved := true
      steadyStartMs := nowSteadyMs + (if remaining > 0 then remaining else 0) }
  else machine

def observe (machine : ClientUiPhaseMachine) (snapshot : GameStateSnapshot)
    (nowEpochMs nowSteadyMs : Int) : GameStartDisplay × ClientUiPhaseMachine :=
  if snapshot.gameOver then
    ({ phase := .gameOver, text := "" }, { machine with currentPhase := .gameOver })
  else if machine.playingReached then
    ({ phase := .playing, text := "" }, { machine with currentPhase := .playing })
  else
    let machine := machine.observeStart snapshot nowEpochMs nowSteadyMs
    if !machine.startObserved then
      ({ phase := .waitingForOpponent, text := "Waiting for another player..." },
        { machine with currentPhase := .waitingForOpponent })
    else
      let display := buildGameStartDisplay true machine.steadyStartMs nowSteadyMs
      (display,
        { machine with
          currentPhase := display.phase
          playingReached := machine.playingReached || display.phase = .playing })

/-- What the client does with one machine. -/
inductive Call where
  | markConnecting
  | markReconnecting
  | observe (snapshot : GameStateSnapshot) (nowEpochMs nowSteadyMs : Int)

/-- The machine after a call, and the display the call returns. -/
def call (machine : ClientUiPhaseMachine) : Call → Option GameStartDisplay × ClientUiPhaseMachine
  | .markConnecting => (none, machine.markConnecting)
  | .markReconnecting => (none, machine.markReconnecting)
  | .observe snapshot nowEpochMs nowSteadyMs =>
      let (display, next) := machine.observe snapshot nowEpochMs nowSteadyMs
      (some display, next)

/-- The displays that the calls of a run return, first to last. -/
def displays (machine : ClientUiPhaseMachine) : List Call → List GameStartDisplay
  | [] => []
  | next :: rest => (machine.call next).1.toList ++ displays (machine.call next).2 rest

/-- The steady time of an observation. -/
def Call.steadyMs : Call → Option Int
  | .observe _ _ nowSteadyMs => some nowSteadyMs
  | _ => none

/-- No observation sees a game that is over. -/
def Call.Ongoing : Call → Prop
  | .observe snapshot _ _ => snapshot.gameOver = false
  | _ => True

/-! ## The order of the displays -/

/-- The displays of a start, in the order they follow each other. -/
def startSequence : List GameStartDisplay :=
  [{}, ⟨.countdown, "3"⟩, ⟨.countdown, "2"⟩, ⟨.countdown, "1"⟩, ⟨.countdown, "GO!"⟩,
    ⟨.playing, ""⟩]

/-- How far a display is in the start. -/
def stage (display : GameStartDisplay) : Nat := startSequence.idxOf display

/-- The stage of a countdown by the time that remains. -/
theorem stage_countdown (start now : Int) :
    stage (buildGameStartDisplay true start now) =
      if start - now ≤ 0 then 5 else if start - now ≤ 1000 then 4
      else if start - now ≤ 2000 then 3 else if start - now ≤ 3000 then 2 else 1 := by
  simp only [buildGameStartDisplay, Bool.not_true, Bool.false_eq_true, if_false]
  split
  · rfl
  · split
    · rfl
    · split
      · rfl
      · split <;> rfl

/-- A countdown to a fixed start only moves on. -/
theorem stage_countdown_mono (start : Int) {now later : Int} (ordered : now ≤ later) :
    stage (buildGameStartDisplay true start now) ≤
      stage (buildGameStartDisplay true start later) := by
  rw [stage_countdown, stage_countdown]
  grind

theorem countdown_mem (start now : Int) :
    buildGameStartDisplay true start now ∈ startSequence := by
  refine List.idxOf_lt_length_iff.mp ?_
  change stage _ < 6
  rw [stage_countdown]
  grind

/-- A countdown that has come to an end shows the running game. -/
theorem stage_of_playing {start now : Int}
    (playing : (buildGameStartDisplay true start now).phase = .playing) :
    stage (buildGameStartDisplay true start now) = 5 := by
  simp only [buildGameStartDisplay, Bool.not_true, Bool.false_eq_true, if_false] at playing ⊢
  split at playing
  · next ended =>
      rw [if_pos ended]
      rfl
  · split at playing
    · cases playing
    · split at playing
      · cases playing
      · split at playing <;> cases playing

/-! ## What a machine has reached -/

/-- The stage a machine would show at a steady time, if it were asked then: the
latches come before the clock. -/
def reached (machine : ClientUiPhaseMachine) (nowSteadyMs : Int) : Nat :=
  if machine.playingReached then 5
  else if machine.startObserved then
    stage (buildGameStartDisplay true machine.steadyStartMs nowSteadyMs)
  else 0

theorem reached_mono (machine : ClientUiPhaseMachine) {now later : Int} (ordered : now ≤ later) :
    machine.reached now ≤ machine.reached later := by
  unfold reached
  split
  · exact le_rfl
  · split
    · exact stage_countdown_mono _ ordered
    · exact le_rfl

@[simp] theorem reached_markConnecting (machine : ClientUiPhaseMachine) (now : Int) :
    machine.markConnecting.reached now = machine.reached now := by
  unfold markConnecting
  split <;> rfl

@[simp] theorem reached_markReconnecting (machine : ClientUiPhaseMachine) (now : Int) :
    machine.markReconnecting.reached now = machine.reached now := by
  unfold markReconnecting
  split <;> rfl

/-- Fixing the start loses nothing that was reached. -/
theorem reached_observeStart (machine : ClientUiPhaseMachine) (snapshot : GameStateSnapshot)
    (nowEpochMs now : Int) :
    machine.reached now ≤ (machine.observeStart snapshot nowEpochMs now).reached now := by
  unfold observeStart
  split
  · next first =>
      have unseen : machine.startObserved = false := by
        simpa only [Bool.and_eq_true, Bool.not_eq_true'] using (Bool.and_eq_true_iff.mp first).1
      simp only [reached, unseen, Bool.false_eq_true, if_false]
      split
      · exact le_rfl
      · exact Nat.zero_le _
  · exact le_rfl

@[simp] theorem playingReached_observeStart (machine : ClientUiPhaseMachine)
    (snapshot : GameStateSnapshot) (nowEpochMs now : Int) :
    (machine.observeStart snapshot nowEpochMs now).playingReached = machine.playingReached := by
  unfold observeStart
  split <;> rfl

/-- **One observation** of a game that is not over shows a display of the start:
no earlier than what was reached, and what is reached from then on. -/
theorem observe_reached (machine : ClientUiPhaseMachine) {snapshot : GameStateSnapshot}
    (ongoing : snapshot.gameOver = false) (nowEpochMs now : Int) :
    (machine.observe snapshot nowEpochMs now).1 ∈ startSequence ∧
      machine.reached now ≤ stage (machine.observe snapshot nowEpochMs now).1 ∧
      (machine.observe snapshot nowEpochMs now).2.reached now =
        stage (machine.observe snapshot nowEpochMs now).1 := by
  have before := reached_observeStart machine snapshot nowEpochMs now
  have latch := playingReached_observeStart machine snapshot nowEpochMs now
  simp only [observe, ongoing, Bool.false_eq_true, if_false]
  cases playing : machine.playingReached with
  | true =>
      simp only [if_true, reached, playing]
      exact ⟨by decide, by decide, by decide⟩
  | false =>
      rw [playing] at latch
      generalize machine.observeStart snapshot nowEpochMs now = started at before latch ⊢
      cases observed : started.startObserved with
      | false =>
          simp only [reached, latch, observed, Bool.false_eq_true, if_false, Bool.not_false,
            if_true] at before ⊢
          exact ⟨List.mem_cons_self .., before, rfl⟩
      | true =>
          simp only [reached, latch, observed, Bool.false_eq_true, if_false, if_true,
            Bool.not_true, Bool.false_or] at before ⊢
          refine ⟨countdown_mem _ _, before, ?_⟩
          split
          · next ended => exact (stage_of_playing (of_decide_eq_true ended)).symm
          · rfl

/-! ## Runs -/

/-- What a machine has reached bounds every display of a run, and the displays of
the run are in order. -/
theorem displays_ordered : ∀ (calls : List Call) (machine : ClientUiPhaseMachine) (least : Nat),
    (∀ each ∈ calls, each.Ongoing) → (calls.filterMap Call.steadyMs).Pairwise (· ≤ ·) →
    (∀ time ∈ calls.filterMap Call.steadyMs, least ≤ machine.reached time) →
    (∀ display ∈ displays machine calls, display ∈ startSequence ∧ least ≤ stage display) ∧
      (displays machine calls).Pairwise fun earlier later => stage earlier ≤ stage later
  | [], _, _, _, _, _ => ⟨fun _ => nofun, .nil⟩
  | .markConnecting :: rest, machine, least, ongoing, steady, bound =>
      displays_ordered rest machine.markConnecting least
        (fun each member => ongoing each (List.mem_cons_of_mem _ member)) steady
        fun time member => by
          rw [reached_markConnecting]
          exact bound time member
  | .markReconnecting :: rest, machine, least, ongoing, steady, bound =>
      displays_ordered rest machine.markReconnecting least
        (fun each member => ongoing each (List.mem_cons_of_mem _ member)) steady
        fun time member => by
          rw [reached_markReconnecting]
          exact bound time member
  | .observe snapshot nowEpochMs now :: rest, machine, least, ongoing, steady, bound => by
      have going : snapshot.gameOver = false := ongoing _ (List.mem_cons_self ..)
      obtain ⟨shown, noEarlier, next⟩ := observe_reached machine going nowEpochMs now
      have times := List.pairwise_cons.mp steady
      obtain ⟨later, ordered⟩ := displays_ordered rest
        (machine.observe snapshot nowEpochMs now).2
        (stage (machine.observe snapshot nowEpochMs now).1)
        (fun each member => ongoing each (List.mem_cons_of_mem _ member)) times.2
        fun time member => next ▸ reached_mono _ (times.1 time member)
      have first : least ≤ stage (machine.observe snapshot nowEpochMs now).1 :=
        le_trans (bound now (List.mem_cons_self ..)) noEarlier
      refine ⟨fun display member => ?_, List.pairwise_cons.mpr ⟨fun display member =>
        (later display member).2, ordered⟩⟩
      rcases List.mem_cons.mp member with rfl | onward
      · exact ⟨shown, first⟩
      · exact ⟨(later display onward).1, le_trans first (later display onward).2⟩

/-- **The start countdown never runs backwards.** -/
theorem displays_never_regress (calls : List Call) (ongoing : ∀ each ∈ calls, each.Ongoing)
    (steady : (calls.filterMap Call.steadyMs).Pairwise (· ≤ ·)) :
    (∀ display ∈ displays {} calls, display ∈ startSequence) ∧
      (displays {} calls).Pairwise fun earlier later => stage earlier ≤ stage later := by
  obtain ⟨shown, ordered⟩ := displays_ordered calls {} 0 ongoing steady
    fun _ _ => Nat.zero_le _
  exact ⟨fun display member => (shown display member).1, ordered⟩

/-- A countdown that a later start time, a lost opponent, a reconnect and a wall clock set
back try to restart. -/
def contestedStart : List Call :=
  [.markConnecting, .observe {} 1000 5000,
    .observe { playersReady := true, gameplayStartsAtEpochMs := 5000 } 1000 5000,
    .observe { playersReady := true, gameplayStartsAtEpochMs := 9000 } 3000 7000,
    .markReconnecting, .observe {} 0 9000, .observe { playersReady := true } 0 9001]

/-- It shows each stage once it is reached. -/
theorem displays_never_regress_contested :
    displays {} contestedStart =
      [{}, ⟨.countdown, "3"⟩, ⟨.countdown, "1"⟩, ⟨.playing, ""⟩, ⟨.playing, ""⟩] ∧
    (displays {} contestedStart).Pairwise fun earlier later => stage earlier ≤ stage later :=
  ⟨by decide, (displays_never_regress contestedStart (by
    simp only [contestedStart, List.forall_mem_cons, Call.Ongoing, List.not_mem_nil,
      false_implies, implies_true, and_self]) (by decide)).2⟩

end ClientUiPhaseMachine

end KungFuChess
