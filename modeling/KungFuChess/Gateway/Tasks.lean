import KungFuChess.Gateway.Lifecycle

/-!
# What the tasks of the match manager do

The steps that the tasks of `MatchManager` take on their own, said once: a call of
`start_match` goes from one phase to the next, a match is stored by a call that has
connected its players, and an ending is that of a match of the table. What the
handlers of the web sockets ask of the manager, and what the room manager changes,
is said apart.
-/

set_option autoImplicit false

namespace KungFuChess

/-- A step of the tasks of the match manager, which no handler makes. -/
def ServiceStep.isInternal : ServiceStep → Bool
  | .start _ | .roomChanged _ | .cleanup .. => false
  | .spawn .. | .failSpawn .. | .acquired _ | .connect .. | .failConnect _ | .register .. | .send ..
  | .close _ | .stop .. | .raise _ | .bridgeEvent .. | .claimSequence .. | .finish _ | .persist ..
  | .proceed .. | .closeEnding _ | .stopEnding .. | .leave _ => true

/-- How a call of `start_match` goes on. -/
inductive StartPhase.Next (start : StartId) : ServiceStep → StartPhase → StartPhase → Prop where
  | spawn (shard : GameServerShard) : Next start (.spawn start shard) .spawning (.spawned shard)
  | failSpawn (unavailable : Bool) :
      Next start (.failSpawn start unavailable) .spawning (.spawnFailed unavailable)
  | acquired (shard : GameServerShard) :
      Next start (.acquired start) (.spawned shard) (.connecting shard)
  | unspawned (unavailable : Bool) :
      Next start (.acquired start) (.spawnFailed unavailable)
        (.raised none (if unavailable then MatchService.matchUnavailable else .other))
  | connect (shard : GameServerShard) (snapshot : GameStateSnapshot) :
      Next start (.connect start snapshot) (.connecting shard) (.connected shard snapshot)
  | failConnect (shard : GameServerShard) :
      Next start (.failConnect start) (.connecting shard) (.closing shard)
  | register (shard : GameServerShard) (snapshot : GameStateSnapshot) (nowMs : Int) :
      Next start (.register start nowMs) (.connected shard snapshot) (.sendingWhite shard)
  | sendWhite (shard : GameServerShard) (sent : Bool) :
      Next start (.send start sent) (.sendingWhite shard)
        (if sent then .sendingBlack shard else .closing shard)
  | sendBlack (shard : GameServerShard) (sent : Bool) :
      Next start (.send start sent) (.sendingBlack shard)
        (if sent then .returned else .closing shard)
  | close (shard : GameServerShard) (isDynamic : Bool) :
      Next start (.close start) (.closing shard)
        (if isDynamic then .retiring shard else .returning shard)
  | stop (shard : GameServerShard) (stopped : Bool) :
      Next start (.stop start stopped) (.retiring shard)
        (if stopped then .retired shard else .raised (some shard) .other)
  | retired (shard : GameServerShard) :
      Next start (.raise start) (.retired shard)
        (.raised (some shard) MatchService.gameServerUnavailable)
  | returning (shard : GameServerShard) :
      Next start (.raise start) (.returning shard)
        (.raised (some shard) MatchService.gameServerUnavailable)

/-- The phase after a step is the same, or the next. -/
def StartPhase.Goes (start : StartId) (input : ServiceStep) (old new : StartPhase) : Prop :=
  new = old ∨ Next start input old new

namespace MatchService

/-- **What a step of the tasks can do** to the calls, the table and the endings. -/
structure Onward (before : MatchService) (input : ServiceStep) (after : MatchService) :
    Prop where
  length : after.starts.length = before.starts.length
  start : ∀ (start : StartId) (task : StartTask), after.starts[start]? = some task →
    ∃ was : StartTask, before.starts[start]? = some was ∧ was.room = task.room ∧
      StartPhase.Goes start input was.phase task.phase
  stored : ∀ roomId found, after.manager.matches_.lookup roomId = some found →
    (∃ was, before.manager.matches_.lookup roomId = some was ∧ was.start = found.start ∧
      was.room = found.room) ∨
    ∃ room shard snapshot nowMs, input = .register found.start nowMs ∧ found.room = room ∧
      room.roomId = roomId ∧
      before.starts[found.start]? = some ⟨room, .connected shard snapshot⟩ ∧
      after.starts[found.start]? = some ⟨room, .sendingWhite shard⟩
  ending : ∀ task ∈ after.endings, (∃ was ∈ before.endings, was.ended = task.ended) ∨
    ∃ roomId, before.manager.matches_.lookup roomId = some task.ended

namespace Onward

variable {before after : MatchService} {input : ServiceStep}

/-- A step that leaves the calls alone. -/
theorem of_starts (starts : after.starts = before.starts)
    (stored : ∀ roomId found, after.manager.matches_.lookup roomId = some found →
      ∃ was, before.manager.matches_.lookup roomId = some was ∧ was.start = found.start ∧
        was.room = found.room)
    (ending : ∀ task ∈ after.endings, (∃ was ∈ before.endings, was.ended = task.ended) ∨
      ∃ roomId, before.manager.matches_.lookup roomId = some task.ended) :
    before.Onward input after where
  length := by rw [starts]
  start := fun start task found => ⟨task, by rw [← starts, found], rfl, .inl rfl⟩
  stored := fun roomId found here => .inl (stored roomId found here)
  ending := ending

/-- A call of before is still there. -/
theorem goes (onward : before.Onward input after) {start : StartId} {was : StartTask}
    (found : before.starts[start]? = some was) :
    ∃ task : StartTask, after.starts[start]? = some task ∧ was.room = task.room ∧
      StartPhase.Goes start input was.phase task.phase := by
  have inside : start < after.starts.length := by
    rw [onward.length]
    exact (List.getElem?_eq_some_iff.mp found).1
  have here := List.getElem?_eq_getElem inside
  obtain ⟨same, before, room, goes⟩ := onward.start start _ here
  obtain rfl := Option.some.inj (before.symm.trans found)
  exact ⟨_, here, room, goes⟩

/-- A step that leaves all three alone. -/
theorem same (starts : after.starts = before.starts) (manager : after.manager = before.manager)
    (endings : after.endings = before.endings) : before.Onward input after :=
  of_starts starts (fun _ found here => ⟨found, manager ▸ here, rfl, rfl⟩)
    fun task member => .inl ⟨task, endings ▸ member, rfl⟩

/-- A call goes on. -/
theorem of_setStart {start : StartId} {old new : StartPhase}
    (at_ : before.startPhase start = some old) (next : StartPhase.Next start input old new)
    (starts : after.starts = (before.setStart start new).starts)
    (manager : after.manager = before.manager) (endings : after.endings = before.endings) :
    before.Onward input after where
  length := by rw [starts, setStart, List.length_modify]
  start := by
    intro other task found
    rw [starts, getElem?_setStart] at found
    split at found
    · next same =>
        subst same
        obtain ⟨was, here, rfl⟩ := Option.map_eq_some_iff.mp found
        rw [startPhase, here, Option.map_some, Option.some.injEq] at at_
        exact ⟨was, here, rfl, .inr (at_ ▸ next)⟩
    · exact ⟨task, found, rfl, .inl rfl⟩
  stored := fun _ found here => .inl ⟨found, manager ▸ here, rfl, rfl⟩
  ending := fun task member => .inl ⟨task, endings ▸ member, rfl⟩

/-- An ending goes on. -/
theorem of_setEnding (ending : Nat) (phase : EndingPhase) (starts : after.starts = before.starts)
    (manager : after.manager = before.manager)
    (endings : after.endings = (before.setEnding ending phase).endings) :
    before.Onward input after := by
  refine of_starts starts (fun _ found here => ⟨found, manager ▸ here, rfl, rfl⟩) ?_
  intro task member
  rw [endings] at member
  obtain ⟨index, found⟩ := List.mem_iff_getElem?.mp member
  rw [getElem?_setEnding] at found
  split at found
  · obtain ⟨was, here, rfl⟩ := Option.map_eq_some_iff.mp found
    exact .inl ⟨was, List.mem_of_getElem? here, rfl⟩
  · exact .inl ⟨task, List.mem_of_getElem? found, rfl⟩

/-- A match is taken off the table. -/
theorem of_pop (roomId : RoomId) (phase : ActiveMatch → EndingPhase) :
    before.Onward input (before.pop roomId phase) := by
  rw [pop, MatchManager.pop]
  cases here : before.manager.matches_.lookup roomId with
  | none => exact same rfl rfl rfl
  | some ended =>
      refine of_starts rfl (fun other found kept => ?_) fun task member => ?_
      · rw [ReverseIndex.lookup_erase] at kept
        split at kept
        · cases kept
        · exact ⟨found, kept, rfl, rfl⟩
      · rcases List.mem_append.mp member with earlier | last
        · exact .inl ⟨task, earlier, rfl⟩
        · rw [List.mem_singleton.mp last]
          exact .inr ⟨roomId, here⟩

end Onward

/-- A call stores its match. -/
theorem onward_register {service : MatchService} {start : StartId} {room : GameRoom}
    {shard : GameServerShard} {snapshot : GameStateSnapshot} (nowMs : Int)
    (at_ : service.starts[start]? = some ⟨room, .connected shard snapshot⟩) :
    service.Onward (.register start nowMs)
      { service.setStart start (.sendingWhite shard) with
        manager := service.manager.register room.roomId
          (startedMatch room start shard snapshot nowMs) } := by
  have phase : service.startPhase start = some (.connected shard snapshot) := by
    rw [startPhase, at_]
    rfl
  have moved : service.Onward (.register start nowMs)
      (service.setStart start (.sendingWhite shard)) :=
    .of_setStart phase (.register shard snapshot nowMs) rfl rfl rfl
  refine { moved with stored := fun roomId found here => ?_ }
  rw [MatchManager.register, ReverseIndex.lookup_insert] at here
  split at here
  · next same =>
      cases here
      refine .inr ⟨room, shard, snapshot, nowMs, rfl, rfl, same.symm, at_, ?_⟩
      exact (getElem?_setStart ..).trans (by rw [startedMatch, if_pos rfl, at_, Option.map_some])
  · exact .inl ⟨found, here, rfl, rfl⟩

/-- **Every step of the tasks** is as `Onward` says. -/
theorem onward (service : MatchService) (updateRatings : Int → Int → Int × Int)
    {input : ServiceStep} (internal : input.isInternal = true) :
    service.Onward input (service.step updateRatings input) := by
  cases input with
  | start | roomChanged | cleanup => cases internal
  | spawn start shard =>
      simp only [step]
      split
      · next at_ => exact .of_setStart at_ (.spawn shard) rfl rfl rfl
      · exact .same rfl rfl rfl
  | failSpawn start unavailable =>
      simp only [step]
      split
      · next at_ => exact .of_setStart at_ (.failSpawn unavailable) rfl rfl rfl
      · exact .same rfl rfl rfl
  | acquired start =>
      simp only [step]
      split
      · next shard at_ => exact .of_setStart at_ (.acquired shard) rfl rfl rfl
      · next unavailable at_ => exact .of_setStart at_ (.unspawned unavailable) rfl rfl rfl
      · exact .same rfl rfl rfl
  | connect start snapshot =>
      simp only [step]
      split
      · next shard at_ => exact .of_setStart at_ (.connect shard snapshot) rfl rfl rfl
      · exact .same rfl rfl rfl
  | failConnect start =>
      simp only [step]
      split
      · next shard at_ => exact .of_setStart at_ (.failConnect shard) rfl rfl rfl
      · exact .same rfl rfl rfl
  | register start nowMs =>
      simp only [step]
      split
      · next at_ => exact onward_register nowMs at_
      · exact .same rfl rfl rfl
  | send start sent =>
      simp only [step]
      split
      · next shard at_ => exact .of_setStart at_ (.sendWhite shard sent) rfl rfl rfl
      · next shard at_ => exact .of_setStart at_ (.sendBlack shard sent) rfl rfl rfl
      · exact .same rfl rfl rfl
  | close start =>
      simp only [step]
      split
      · next shard at_ => exact .of_setStart at_ (.close shard _) rfl rfl rfl
      · exact .same rfl rfl rfl
  | stop start stopped =>
      simp only [step]
      split
      · next shard at_ => exact .of_setStart at_ (.stop shard stopped) rfl rfl rfl
      · exact .same rfl rfl rfl
  | raise start =>
      simp only [step]
      split
      · next shard at_ => exact .of_setStart at_ (.retired shard) rfl rfl rfl
      · next shard at_ => exact .of_setStart at_ (.returning shard) rfl rfl rfl
      · exact .same rfl rfl rfl
  | bridgeEvent roomId color message =>
      refine .of_starts rfl (MatchManager.same_handleBridgeEvent service.manager roomId color
        message) fun task member => .inl ⟨task, member, rfl⟩
  | claimSequence nowMs roomId userId websocket sequence notAPlayer duplicate =>
      refine .of_starts rfl (MatchManager.same_claimSequence service.manager nowMs roomId userId
        websocket sequence notAPlayer duplicate) fun task member => .inl ⟨task, member, rfl⟩
  | finish task =>
      simp only [step]
      split
      · next roomId _ =>
          have popped : Onward { service with finishTasks := service.finishTasks.eraseIdx task }
              (.finish task) _ := .of_pop roomId (finishPhase service.hasSessions)
          exact { popped with }
      · exact .same rfl rfl rfl
  | persist ending commits =>
      simp only [step]
      split
      · exact .of_setEnding ending .finishing rfl rfl rfl
      · exact .same rfl rfl rfl
  | proceed ending raises =>
      simp only [step]
      split
      · exact .of_setEnding ending _ rfl rfl rfl
      · exact .same rfl rfl rfl
  | closeEnding ending =>
      simp only [step]
      split
      · exact .of_setEnding ending _ rfl rfl rfl
      · exact .same rfl rfl rfl
  | stopEnding ending stopped =>
      simp only [step]
      split
      · exact .of_setEnding ending _ rfl rfl rfl
      · exact .same rfl rfl rfl
  | leave ending =>
      simp only [step]
      split
      · exact .of_setEnding ending .done rfl rfl rfl
      · exact .of_setEnding ending .done rfl rfl rfl
      · exact .same rfl rfl rfl

end MatchService

end KungFuChess
