import KungFuChess.Library.While
import KungFuChess.Network.Protocol
import Mathlib.Data.Int.DivMod

/-!
# Animations of the pieces

`AnimationLibrary` takes the rate of an animation from a configuration file by regular
expressions, and `AnimationPlayer` steps through the frames at that rate. A frame lasts
1000 divided by the rate, in whole milliseconds: nothing at all for a rate over 1000.

Time is an integer without a bound; `Playable.sum_fits` says which deltas keep it within
`long long`. The names of the folders and the drawing are left out.
-/

set_option autoImplicit false

namespace KungFuChess

open JsonText

/-! ## The configuration -/

structure AnimationConfig where
  frameCount : Int := 1
  framesPerSecond : Int := 6
  isLoop : Bool := true
  spriteWidth : Int := 320
  spriteHeight : Int := 320
  deriving DecidableEq, Repr

namespace AnimationLibrary

/-- `std::regex_search`: what the first place of a text gives at which an expression matches. -/
def regexSearch {Found : Type} (expression : Text → Option Found) : Text → Option Found
  | [] => expression []
  | character :: rest =>
      match expression (character :: rest) with
      | some found => some found
      | none => regexSearch expression rest

/-- A literal, and what stands behind it. -/
def literal (word text : Text) : Option Text :=
  if word.isPrefixOf text then some (text.drop word.length) else none

/-- `([0-9]+)`, and what stands behind it. -/
def digits (text : Text) : Option (Text × Text) :=
  let found := text.takeWhile Char.isDigit
  if found = [] then none else some (found, text.dropWhile Char.isDigit)

/-- `"key"\s*:\s*`, and what stands behind it. -/
def member (key : String) (text : Text) : Option Text := do
  let behind ← literal (quoted key.toList) text
  let value ← literal [':'] (Protocol.skipWhitespace behind)
  return Protocol.skipWhitespace value

/-- `std::stoi` of digits; nothing where it throws. -/
def stoi (digits : Text) : Option Int :=
  let value := Nat.ofDigitChars 10 digits 0
  if value < 2 ^ 31 then some value else none

def readInt (text : Text) (key : String) (fallback : Int) : Option Int :=
  match regexSearch (fun here => do digits (← member key here)) text with
  | some (found, _) => stoi found
  | none => some fallback

def readBool (text : Text) (key : String) (fallback : Bool) : Bool :=
  let expression (here : Text) : Option Bool := do
    let value ← member key here
    if "true".toList.isPrefixOf value then return true
    else if "false".toList.isPrefixOf value then return false
    else none
  (regexSearch expression text).getD fallback

/-- The two numbers of the size of the sprites. -/
def spriteSize (here : Text) : Option (Text × Text) := do
  let opened ← literal ['['] (← member "sprite_size" here)
  let (width, behind) ← digits (Protocol.skipWhitespace opened)
  let next ← literal [','] (Protocol.skipWhitespace behind)
  let (height, _) ← digits (Protocol.skipWhitespace next)
  return (width, height)

/-- The configuration in a file that may be missing; nothing where a number is too large, which
throws. -/
def getConfig (input : Option Text) : Option AnimationConfig :=
  match input with
  | none => some {}
  | some text => do
      let config : AnimationConfig := {}
      let frameCount ← readInt text "frame_count" config.frameCount
      let framesPerSecond ← readInt text "frames_per_sec" config.framesPerSecond
      let isLoop := readBool text "is_loop" config.isLoop
      let found : AnimationConfig :=
        { config with
          frameCount := frameCount, framesPerSecond := framesPerSecond, isLoop := isLoop }
      match regexSearch spriteSize text with
      | none => return found
      | some (width, height) =>
          return { found with spriteWidth := ← stoi width, spriteHeight := ← stoi height }

/-! ## What is admitted -/

theorem stoi_nonneg {found : Text} {value : Int} (read : stoi found = some value) : 0 ≤ value := by
  unfold stoi at read
  simp only at read
  split at read
  · cases read
    exact Int.natCast_nonneg _
  · cases read

theorem readInt_nonneg {text : Text} {key : String} {fallback value : Int}
    (fallback_nonneg : 0 ≤ fallback) (read : readInt text key fallback = some value) :
    0 ≤ value := by
  unfold readInt at read
  split at read
  · exact stoi_nonneg read
  · cases read
    exact fallback_nonneg

/-- No configuration has a negative rate. -/
theorem getConfig_framesPerSecond_nonneg {input : Option Text} {config : AnimationConfig}
    (admitted : getConfig input = some config) : 0 ≤ config.framesPerSecond := by
  unfold getConfig at admitted
  cases input with
  | none =>
      cases admitted
      decide
  | some text =>
      obtain ⟨frameCount, _, read⟩ := Option.bind_eq_some_iff.mp admitted
      obtain ⟨framesPerSecond, isRate, read⟩ := Option.bind_eq_some_iff.mp read
      have nonneg := readInt_nonneg (by decide) isRate
      cases isSize : regexSearch spriteSize text with
      | none =>
          rw [isSize] at read
          cases read
          exact nonneg
      | some size =>
          rw [isSize] at read
          obtain ⟨width, _, read⟩ := Option.bind_eq_some_iff.mp read
          obtain ⟨height, _, read⟩ := Option.bind_eq_some_iff.mp read
          cases read
          exact nonneg

end AnimationLibrary

/-! ## The player -/

structure AnimationPlayer where
  framePaths : List String := []
  currentFrameIndex : Int := 0
  framesPerSecond : Int := 8
  loop : Bool := true
  elapsedMs : Int := 0
  deriving DecidableEq, Repr

namespace AnimationPlayer

/-- `static_cast<int>` of a size. -/
def toInt (size : Nat) : Int := (size : Int).bmod (2 ^ 32)

def setFrames (player : AnimationPlayer) (newFramePaths : List String) (fps : Int)
    (shouldLoop : Bool) : AnimationPlayer :=
  { player with
    framePaths := newFramePaths, framesPerSecond := fps, loop := shouldLoop,
    currentFrameIndex := 0, elapsedMs := 0 }

/-- The frame that comes after one. -/
def nextIndex (player : AnimationPlayer) (index : Int) : Int :=
  if toInt player.framePaths.length ≤ index + 1 then
    if player.loop then 0 else toInt player.framePaths.length - 1
  else index + 1

/-- A turn of the loop of `update`. -/
def nextFrame (frameDurationMs : Int) (player : AnimationPlayer) : AnimationPlayer :=
  { player with
    elapsedMs := player.elapsedMs - frameDurationMs,
    currentFrameIndex := player.nextIndex player.currentFrameIndex }

/-- An update whose loop takes at most so many turns. -/
def update (turns : Nat) (player : AnimationPlayer) (deltaMs : Int) : Option AnimationPlayer :=
  if player.framePaths = [] then some player
  else if player.framesPerSecond ≤ 0 then some player
  else
    let frameDurationMs := 1000 / player.framesPerSecond
    While.run (fun player => frameDurationMs ≤ player.elapsedMs) (nextFrame frameDurationMs) turns
      { player with elapsedMs := player.elapsedMs + deltaMs }

/-! ## What the loop leaves -/

/-- The player once all the whole frames in its time have gone by. -/
def settled (frameDurationMs : Int) (player : AnimationPlayer) : AnimationPlayer :=
  { player with
    elapsedMs := player.elapsedMs % frameDurationMs,
    currentFrameIndex :=
      player.nextIndex^[(player.elapsedMs / frameDurationMs).toNat] player.currentFrameIndex }

theorem iterate_nextFrame (frameDurationMs : Int) (player : AnimationPlayer) (count : Nat) :
    (nextFrame frameDurationMs)^[count] player =
      { player with
        elapsedMs := player.elapsedMs - frameDurationMs * count,
        currentFrameIndex := player.nextIndex^[count] player.currentFrameIndex } := by
  induction count with
  | zero => simp only [Function.iterate_zero, id, Nat.cast_zero, mul_zero, sub_zero]
  | succ count ih =>
      rw [Function.iterate_succ_apply', ih, Function.iterate_succ_apply', Nat.cast_succ, mul_add,
        mul_one, ← sub_sub]
      rfl

/-- **The loop ends**, for a frame that lasts some time. -/
theorem loop_ends {frameDurationMs : Int} (positive : 0 < frameDurationMs)
    (player : AnimationPlayer) (nonnegative : 0 ≤ player.elapsedMs) :
    While.Ends (fun player : AnimationPlayer => decide (frameDurationMs ≤ player.elapsedMs))
      (nextFrame frameDurationMs) player (player.settled frameDurationMs) := by
  have count_nonneg : 0 ≤ player.elapsedMs / frameDurationMs :=
    Int.ediv_nonneg nonnegative positive.le
  have count_eq := Int.toNat_of_nonneg count_nonneg
  have remainder := Int.emod_add_mul_ediv player.elapsedMs frameDurationMs
  have remainder_nonneg := Int.emod_nonneg player.elapsedMs positive.ne'
  have remainder_less := Int.emod_lt_of_pos player.elapsedMs positive
  have last : (nextFrame frameDurationMs)^[(player.elapsedMs / frameDurationMs).toNat] player =
      player.settled frameDurationMs := by
    rw [iterate_nextFrame, settled, count_eq]
    congr 1
    omega
  rw [← last]
  refine While.ends_iterate ?_ ?_
  · intro turn less
    rw [iterate_nextFrame, decide_eq_true_eq]
    -- a turn before the last one leaves at least a whole frame
    have next : (turn : Int) + 1 ≤ player.elapsedMs / frameDurationMs := by omega
    have frames := Int.mul_le_mul_of_nonneg_left next positive.le
    rw [mul_add, mul_one] at frames
    show frameDurationMs ≤ player.elapsedMs - frameDurationMs * turn
    omega
  · rw [last, decide_eq_false_iff_not, settled]
    exact Int.not_le.mpr remainder_less

/-- Two updates' times add up. -/
theorem settled_settled {frameDurationMs : Int} (positive : 0 < frameDurationMs)
    (player : AnimationPlayer) (nonnegative : 0 ≤ player.elapsedMs) {deltaMs : Int}
    (deltaNonnegative : 0 ≤ deltaMs) :
    settled frameDurationMs { player.settled frameDurationMs with
        elapsedMs := (player.settled frameDurationMs).elapsedMs + deltaMs } =
      settled frameDurationMs { player with elapsedMs := player.elapsedMs + deltaMs } := by
  have remainder_nonneg := Int.emod_nonneg player.elapsedMs positive.ne'
  have quotient : (player.elapsedMs + deltaMs) / frameDurationMs =
      player.elapsedMs / frameDurationMs +
        (player.elapsedMs % frameDurationMs + deltaMs) / frameDurationMs :=
    calc (player.elapsedMs + deltaMs) / frameDurationMs
        = (player.elapsedMs % frameDurationMs + deltaMs +
            frameDurationMs * (player.elapsedMs / frameDurationMs)) / frameDurationMs := by
          rw [add_right_comm, Int.emod_add_mul_ediv]
      _ = (player.elapsedMs % frameDurationMs + deltaMs) / frameDurationMs +
            player.elapsedMs / frameDurationMs := Int.add_mul_ediv_left _ _ positive.ne'
      _ = _ := add_comm _ _
  have first_nonneg := Int.ediv_nonneg nonnegative positive.le
  have second_nonneg :=
    Int.ediv_nonneg (Int.add_nonneg remainder_nonneg deltaNonnegative) positive.le
  have index : (player.settled frameDurationMs).nextIndex = player.nextIndex := rfl
  simp only [settled] at index ⊢
  congr 1
  · rw [quotient, Int.toNat_add first_nonneg second_nonneg, add_comm (Int.toNat _),
      Function.iterate_add_apply]
    rfl
  · exact Int.emod_add_emod _ _ _

/-! ## The frame index -/

/-- The frame index names a frame. -/
def InRange (player : AnimationPlayer) : Prop :=
  0 ≤ player.currentFrameIndex ∧ player.currentFrameIndex < player.framePaths.length

theorem bmod_le_self (size modulus : Nat) : (size : Int).bmod modulus ≤ size := by
  have reduced : (size : Int) % modulus ≤ size := Int.ofNat_le.mpr (Nat.mod_le size modulus)
  rw [Int.bmod_def]
  split
  · exact reduced
  · exact le_trans (Int.sub_le_self _ (Int.natCast_nonneg modulus)) reduced

theorem toInt_le (size : Nat) : toInt size ≤ size := bmod_le_self size (2 ^ 32)

theorem nextIndex_inRange {player : AnimationPlayer}
    (wraps : player.loop = true ∨ 1 ≤ toInt player.framePaths.length) {index : Int}
    (holds : 0 ≤ index ∧ index < player.framePaths.length) :
    0 ≤ player.nextIndex index ∧ player.nextIndex index < player.framePaths.length := by
  have converted := toInt_le player.framePaths.length
  unfold nextIndex
  split
  · next atEnd =>
    split
    · omega
    · next stays =>
      have := wraps.resolve_left stays
      omega
  · next inside => omega

theorem settled_inRange (player : AnimationPlayer)
    (wraps : player.loop = true ∨ 1 ≤ toInt player.framePaths.length) (holds : player.InRange)
    (frameDurationMs : Int) : (player.settled frameDurationMs).InRange :=
  Function.Iterate.rec
    (fun index : Int => 0 ≤ index ∧ index < player.framePaths.length)
    holds (fun _ => nextIndex_inRange wraps) _

/-! ## Updates -/

/-- The update ends, in the player given. -/
def Updates (player : AnimationPlayer) (deltaMs : Int) (next : AnimationPlayer) : Prop :=
  ∃ turns, update turns player deltaMs = some next

/-- What an update leaves where a frame lasts some time. -/
def after (player : AnimationPlayer) (deltaMs : Int) : AnimationPlayer :=
  settled (1000 / player.framesPerSecond) { player with elapsedMs := player.elapsedMs + deltaMs }

/-- The updates end one after the other, the last one in the player given. -/
def Updated (player : AnimationPlayer) (deltas : List Int) (last : AnimationPlayer) : Prop :=
  match deltas with
  | [] => last = player
  | deltaMs :: rest => ∃ next, player.Updates deltaMs next ∧ next.Updated rest last

theorem update_run {player : AnimationPlayer} (nonempty : player.framePaths ≠ [])
    (positive : 0 < player.framesPerSecond) (deltaMs : Int) (turns : Nat) :
    update turns player deltaMs =
      While.run
        (fun here : AnimationPlayer => decide (1000 / player.framesPerSecond ≤ here.elapsedMs))
        (nextFrame (1000 / player.framesPerSecond)) turns
        { player with elapsedMs := player.elapsedMs + deltaMs } := by
  unfold update
  rw [if_neg nonempty, if_neg (Int.not_le.mpr positive)]

theorem frameDuration_pos {framesPerSecond : Int} (positive : 0 < framesPerSecond)
    (slow : framesPerSecond ≤ 1000) : 0 < 1000 / framesPerSecond :=
  (Int.le_ediv_iff_mul_le positive).mpr (by omega)

theorem Updates.unique {player left right : AnimationPlayer} {deltaMs : Int}
    (first : player.Updates deltaMs left) (second : player.Updates deltaMs right) :
    left = right := by
  obtain ⟨firstTurns, isLeft⟩ := first
  obtain ⟨secondTurns, isRight⟩ := second
  unfold update at isLeft isRight
  split at isLeft
  · next empty =>
    rw [if_pos empty] at isRight
    exact Option.some.inj (isLeft.symm.trans isRight)
  · next nonempty =>
    rw [if_neg nonempty] at isRight
    split at isLeft
    · next noRate =>
      rw [if_pos noRate] at isRight
      exact Option.some.inj (isLeft.symm.trans isRight)
    · next rate =>
      rw [if_neg rate] at isRight
      exact While.run_unique isLeft isRight

theorem updates_of_noRate {player : AnimationPlayer} (noRate : player.framesPerSecond ≤ 0)
    (deltaMs : Int) : player.Updates deltaMs player := by
  refine ⟨0, ?_⟩
  rw [update, if_pos noRate, ite_self]

theorem updates_after {player : AnimationPlayer} (nonempty : player.framePaths ≠ [])
    (positive : 0 < player.framesPerSecond) (slow : player.framesPerSecond ≤ 1000)
    (elapsed : 0 ≤ player.elapsedMs) {deltaMs : Int} (nonnegative : 0 ≤ deltaMs) :
    player.Updates deltaMs (player.after deltaMs) := by
  obtain ⟨turns, ends⟩ := loop_ends (frameDuration_pos positive slow)
    { player with elapsedMs := player.elapsedMs + deltaMs } (Int.add_nonneg elapsed nonnegative)
  exact ⟨turns, (update_run nonempty positive deltaMs turns).trans ends⟩

/-- An update whose frames last no time goes on for ever. -/
theorem update_eq_none_of_fast {player : AnimationPlayer} (nonempty : player.framePaths ≠ [])
    (fast : 1000 < player.framesPerSecond) (elapsed : 0 ≤ player.elapsedMs) {deltaMs : Int}
    (nonnegative : 0 ≤ deltaMs) (turns : Nat) : update turns player deltaMs = none := by
  have duration : 1000 / player.framesPerSecond = 0 :=
    Int.ediv_eq_zero_of_lt (by decide) fast
  rw [update_run nonempty (lt_trans (by decide) fast), duration]
  exact While.run_eq_none (fun here : AnimationPlayer => 0 ≤ here.elapsedMs)
    (fun here holds => ⟨decide_eq_true holds, Int.sub_nonneg_of_le holds⟩)
    (Int.add_nonneg elapsed nonnegative) turns

/-! ## Whole runs -/

/-- What every update keeps. -/
structure Playable (player : AnimationPlayer) : Prop where
  nonempty : player.framePaths ≠ []
  slow : player.framesPerSecond ≤ 1000
  wraps : player.framesPerSecond ≤ 0 ∨ player.loop = true ∨ 1 ≤ toInt player.framePaths.length
  inRange : player.InRange
  elapsed_nonneg : 0 ≤ player.elapsedMs
  elapsed_less : player.elapsedMs < 1000

theorem Playable.after {player : AnimationPlayer} (playable : player.Playable)
    (positive : 0 < player.framesPerSecond) (deltaMs : Int) : (player.after deltaMs).Playable :=
  have duration := frameDuration_pos positive playable.slow
  have short : 1000 / player.framesPerSecond ≤ 1000 := Int.ediv_le_self _ (by decide)
  { nonempty := playable.nonempty
    slow := playable.slow
    wraps := playable.wraps
    inRange := settled_inRange { player with elapsedMs := player.elapsedMs + deltaMs }
      (playable.wraps.resolve_left (Int.not_le.mpr positive)) playable.inRange _
    elapsed_nonneg := Int.emod_nonneg _ duration.ne'
    elapsed_less := lt_of_lt_of_le (Int.emod_lt_of_pos _ duration) short }

/-- **An update ends**, and the next one finds what it needs. -/
theorem Playable.updates {player : AnimationPlayer} (playable : player.Playable) {deltaMs : Int}
    (nonnegative : 0 ≤ deltaMs) : ∃ next, player.Updates deltaMs next ∧ next.Playable := by
  rcases lt_or_ge 0 player.framesPerSecond with positive | noRate
  · exact ⟨player.after deltaMs, updates_after playable.nonempty positive playable.slow
      playable.elapsed_nonneg nonnegative, playable.after positive deltaMs⟩
  · exact ⟨player, updates_of_noRate noRate deltaMs, playable⟩

theorem Playable.updated {player : AnimationPlayer} (playable : player.Playable)
    {deltas : List Int} (nonnegative : ∀ deltaMs ∈ deltas, 0 ≤ deltaMs) :
    ∃ last, player.Updated deltas last ∧ last.Playable := by
  induction deltas generalizing player with
  | nil => exact ⟨player, rfl, playable⟩
  | cons deltaMs rest ih =>
      obtain ⟨next, updates, nextPlayable⟩ :=
        playable.updates (nonnegative deltaMs List.mem_cons_self)
      obtain ⟨last, updated, lastPlayable⟩ :=
        ih nextPlayable (fun later isLater => nonnegative later (List.mem_cons_of_mem _ isLater))
      exact ⟨last, ⟨next, updates, updated⟩, lastPlayable⟩

theorem Updated.unique {player left right : AnimationPlayer} {deltas : List Int}
    (first : player.Updated deltas left) (second : player.Updated deltas right) :
    left = right := by
  induction deltas generalizing player with
  | nil => exact Eq.trans first (Eq.symm second)
  | cons deltaMs rest ih =>
      obtain ⟨between, updates, isLeft⟩ := first
      obtain ⟨other, otherUpdates, isRight⟩ := second
      cases updates.unique otherUpdates
      exact ih isLeft isRight

/-- Two updates leave what one with both times leaves. -/
theorem Playable.updates_add {player : AnimationPlayer} (playable : player.Playable)
    {first second : Int} (firstNonnegative : 0 ≤ first) (secondNonnegative : 0 ≤ second) :
    ∃ between last, player.Updates first between ∧ between.Updates second last ∧
      player.Updates (first + second) last := by
  rcases lt_or_ge 0 player.framesPerSecond with positive | noRate
  · have between := playable.after positive first
    have sum : (player.after first).after second = player.after (first + second) := by
      rw [AnimationPlayer.after, AnimationPlayer.after, AnimationPlayer.after, ← add_assoc]
      exact settled_settled (frameDuration_pos positive playable.slow)
        { player with elapsedMs := player.elapsedMs + first }
        (Int.add_nonneg playable.elapsed_nonneg firstNonnegative) secondNonnegative
    refine ⟨player.after first, (player.after first).after second, ?_, ?_, ?_⟩
    · exact updates_after playable.nonempty positive playable.slow playable.elapsed_nonneg
        firstNonnegative
    · exact updates_after between.nonempty positive between.slow between.elapsed_nonneg
        secondNonnegative
    · rw [sum]
      exact updates_after playable.nonempty positive playable.slow playable.elapsed_nonneg
        (Int.add_nonneg firstNonnegative secondNonnegative)
  · exact ⟨player, player, updates_of_noRate noRate first, updates_of_noRate noRate second,
      updates_of_noRate noRate (first + second)⟩

/-- No sum of times leaves `long long`, for deltas of up to 2⁶³ − 1000 milliseconds. -/
theorem Playable.sum_fits {player : AnimationPlayer} (playable : player.Playable) {deltaMs : Int}
    (nonnegative : 0 ≤ deltaMs) (bounded : deltaMs ≤ 2 ^ 63 - 1000) :
    0 ≤ player.elapsedMs + deltaMs ∧ player.elapsedMs + deltaMs < 2 ^ 63 := by
  have := playable.elapsed_nonneg
  have := playable.elapsed_less
  omega

/-- **What the player is for**: every run of updates ends with a frame to show, and a looped
animation does not depend on how its time is divided. -/
structure Steps (player : AnimationPlayer) : Prop where
  inRange (deltas : List Int) : (∀ deltaMs ∈ deltas, 0 ≤ deltaMs) →
    ∃ last, player.Updated deltas last ∧ last.InRange
  adds (isLoop : player.loop = true) (deltas : List Int) (reached : AnimationPlayer) :
    (∀ deltaMs ∈ deltas, 0 ≤ deltaMs) → player.Updated deltas reached →
    ∀ first second : Int, 0 ≤ first → 0 ≤ second →
      ∃ between last whole, reached.Updates first between ∧ between.Updates second last ∧
        reached.Updates (first + second) whole ∧
        last.currentFrameIndex = whole.currentFrameIndex ∧ last.elapsedMs = whole.elapsedMs

theorem Playable.steps {player : AnimationPlayer} (playable : player.Playable) :
    player.Steps := by
  constructor
  · intro deltas nonnegative
    obtain ⟨last, updated, lastPlayable⟩ := playable.updated nonnegative
    exact ⟨last, updated, lastPlayable.inRange⟩
  · intro _ deltas reached nonnegative updated first second firstNonnegative secondNonnegative
    obtain ⟨last, toLast, lastPlayable⟩ := playable.updated nonnegative
    cases updated.unique toLast
    obtain ⟨between, last, isBetween, isLast, isWhole⟩ :=
      lastPlayable.updates_add firstNonnegative secondNonnegative
    exact ⟨between, last, last, isBetween, isLast, isWhole, rfl, rfl⟩

theorem not_steps_of_fast (player : AnimationPlayer) (nonempty : player.framePaths ≠ [])
    (fast : 1000 < player.framesPerSecond) (elapsed : 0 ≤ player.elapsedMs) : ¬ player.Steps := by
  intro steps
  obtain ⟨_, ⟨next, ⟨turns, ends⟩, _⟩, _⟩ := steps.inRange [0] (by decide)
  rw [update_eq_none_of_fast nonempty fast elapsed le_rfl turns] at ends
  cases ends

/-- One frame's time from the start of an animation leads to its next frame. -/
theorem after_frame {player : AnimationPlayer} (elapsed : player.elapsedMs = 0)
    (duration : 0 < 1000 / player.framesPerSecond) :
    (player.after (1000 / player.framesPerSecond)).currentFrameIndex =
      player.nextIndex player.currentFrameIndex := by
  simp only [AnimationPlayer.after, settled, elapsed, zero_add, Int.ediv_self duration.ne']
  rfl

/-- The frame to stop at may have no index that an `int` can hold. -/
theorem not_steps_of_noLast (player : AnimationPlayer) (nonempty : player.framePaths ≠ [])
    (positive : 0 < player.framesPerSecond) (slow : player.framesPerSecond ≤ 1000)
    (stays : ¬ player.loop = true) (noLast : ¬ 1 ≤ toInt player.framePaths.length)
    (elapsed : player.elapsedMs = 0) (start : player.currentFrameIndex = 0) : ¬ player.Steps := by
  intro steps
  have duration := frameDuration_pos positive slow
  obtain ⟨last, ⟨next, updates, isLast⟩, inRange⟩ :=
    steps.inRange [1000 / player.framesPerSecond] (List.forall_mem_singleton.mpr duration.le)
  cases isLast
  cases updates.unique (updates_after nonempty positive slow elapsed.ge duration.le)
  have index : (player.after (1000 / player.framesPerSecond)).currentFrameIndex =
      toInt player.framePaths.length - 1 := by
    rw [after_frame elapsed duration, start, nextIndex, if_pos (by omega), if_neg stays]
  have := inRange.1
  omega

/-- **An animation steps as it should** exactly where a frame lasts some time, or the rate is
zero, and the last frame that it stops at exists. -/
theorem setFrames_steps_iff (player : AnimationPlayer) (newFramePaths : List String)
    (shouldLoop : Bool) {input : Option Text} {config : AnimationConfig}
    (admitted : AnimationLibrary.getConfig input = some config) (nonempty : newFramePaths ≠ []) :
    (player.setFrames newFramePaths config.framesPerSecond shouldLoop).Steps ↔
      config.framesPerSecond ≤ 1000 ∧
        (config.framesPerSecond = 0 ∨ shouldLoop = true ∨ 1 ≤ toInt newFramePaths.length) := by
  have nonneg := AnimationLibrary.getConfig_framesPerSecond_nonneg admitted
  constructor
  · intro steps
    have slow : config.framesPerSecond ≤ 1000 :=
      Int.not_lt.mp fun fast => not_steps_of_fast _ nonempty fast le_rfl steps
    refine ⟨slow, ?_⟩
    by_contra stuck
    rw [not_or, not_or] at stuck
    obtain ⟨rate, stays, noLast⟩ := stuck
    exact not_steps_of_noLast
      (player.setFrames newFramePaths config.framesPerSecond shouldLoop) nonempty
      (lt_of_le_of_ne nonneg (Ne.symm rate)) slow stays noLast rfl rfl steps
  · rintro ⟨slow, wraps⟩
    exact Playable.steps
      { nonempty := nonempty
        slow := slow
        wraps := wraps.imp_left Int.le_of_eq
        inRange := ⟨le_rfl, Int.natCast_pos.mpr (List.length_pos_iff.mpr nonempty)⟩
        elapsed_nonneg := le_rfl
        elapsed_less := show (0 : Int) < 1000 by decide }

/-- A knight that stands still. -/
theorem setFrames_steps_idle :
    (({} : AnimationPlayer).setFrames ["1.png", "2.png", "3.png", "4.png"] 8 true).Steps ↔
      (8 : Int) ≤ 1000 ∧ ((8 : Int) = 0 ∨ true = true ∨
        1 ≤ toInt ["1.png", "2.png", "3.png", "4.png"].length) := by
  have admitted : AnimationLibrary.getConfig
      (some "\x7b\"frames_per_sec\": 8, \"is_loop\": true\x7d".toList) =
        some { framesPerSecond := 8 } := by decide
  exact setFrames_steps_iff {} ["1.png", "2.png", "3.png", "4.png"] true admitted (by decide)

/-- A configuration of 2000 frames per second is admitted, and no update of its animation ends. -/
theorem fastConfig_neverUpdates :
    AnimationLibrary.getConfig (some "\x7b\"frames_per_sec\": 2000\x7d".toList) =
        some { framesPerSecond := 2000 } ∧
      (∀ turns, update turns (({} : AnimationPlayer).setFrames ["1.png"] 2000 true) 16 = none) ∧
      ¬ (({} : AnimationPlayer).setFrames ["1.png"] 2000 true).Steps := by
  refine ⟨by decide, fun turns => ?_, not_steps_of_fast _ (by decide) (by decide) le_rfl⟩
  exact update_eq_none_of_fast (by decide) (by decide) le_rfl (by decide) turns

end AnimationPlayer

end KungFuChess
