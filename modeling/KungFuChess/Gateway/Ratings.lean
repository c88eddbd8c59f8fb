import KungFuChess.Gateway.Lifecycle

/-!
# One rating change for each match

Game over is reported on two connections, the task that finishes the match is
delayed, and a disconnect has a rating path of its own. All of them go through the
same door: who takes the match off the table is the only one to see it, and rates
it at most once.
-/

set_option autoImplicit false

namespace KungFuChess

/-- A match can have been stored. -/
def StartPhase.isPast : StartPhase → Bool
  | .spawning | .spawnFailed _ | .spawned _ | .connecting _ | .connected .. => false
  | .sendingWhite _ | .sendingBlack _ | .returned | .closing _ | .retiring _ | .retired _
  | .returning _ | .raised .. => true

/-- The rating update is over, or there was none. -/
def EndingPhase.isRated : EndingPhase → Bool
  | .rating _ => false
  | .finishing | .closing | .retiring | .retired | .returning | .done | .failed => true

namespace MatchService

/-- The matches that were taken off the table. -/
def ended (service : MatchService) : List StartId :=
  service.endings.map fun ending => ending.ended.start

/-- A call that can have stored its match, for a room. -/
def Past (service : MatchService) (start : StartId) (roomId : RoomId) : Prop :=
  ∃ task, service.starts[start]? = some task ∧ task.room.roomId = roomId ∧
    task.phase.isPast = true

/-- **Each match has one ending, and each ending at most one rating change.** -/
structure Single (service : MatchService) : Prop where
  stored : ∀ roomId found, service.manager.matches_.lookup roomId = some found →
    service.Past found.start roomId ∧ found.start ∉ service.ended
  past : ∀ start ∈ service.ended, ∃ roomId, service.Past start roomId
  once : service.ended.Nodup
  committed : (service.store.history.map Prod.fst).Nodup
  rated : ∀ row ∈ service.store.history, ∃ ending ∈ service.endings,
    ending.ended.start = row.1 ∧ ending.phase.isRated = true

/-- The endings are the same after one of them has gone on. -/
theorem ended_setEnding (service : MatchService) (ending : Nat) (phase : EndingPhase) :
    (service.setEnding ending phase).ended = service.ended := by
  refine List.ext_getElem? fun other => ?_
  rw [ended, ended, List.getElem?_map, List.getElem?_map, getElem?_setEnding]
  split
  · rw [Option.map_map]
    rfl
  · rfl

/-- What a rating update commits: nothing, or one row for its match. -/
theorem persist_history (updateRatings : Int → Int → Int × Int) (store : RatingStore)
    (start : StartId) (roomId : RoomId) (change : RatingChange) (commits : Bool) :
    (store.persist updateRatings start roomId change commits).history = store.history ∨
      ∃ row, (store.persist updateRatings start roomId change commits).history =
        store.history ++ [(start, row)] := by
  rw [RatingStore.persist]
  split
  · split
    · exact .inr ⟨_, rfl⟩
    · exact .inl rfl
  · exact .inl rfl

namespace Single

variable {service : MatchService} (single : service.Single)

include single

/-- A call goes on, and does not come back to where it has not stored its match. -/
theorem setStart {start : StartId} {old new : StartPhase}
    (at_ : service.startPhase start = some old) (onward : old.isPast = true → new.isPast = true) :
    (service.setStart start new).Single := by
  have kept : ∀ other roomId, service.Past other roomId →
      (service.setStart start new).Past other roomId := by
    rintro other roomId ⟨task, found, room, past⟩
    by_cases same : start = other
    · subst same
      rw [startPhase, found, Option.map_some, Option.some.injEq] at at_
      refine ⟨{ task with phase := new }, ?_, room, onward (at_ ▸ past)⟩
      rw [getElem?_setStart, if_pos rfl, found, Option.map_some]
    · exact ⟨task, by rw [getElem?_setStart, if_neg same, found], room, past⟩
  exact { single with
    stored := fun roomId found here =>
      ⟨kept _ _ (single.stored roomId found here).1, (single.stored roomId found here).2⟩
    past := fun other member => (single.past other member).imp fun roomId => kept other roomId }

/-- A new call. -/
theorem enter (task : StartTask) :
    { service with starts := service.starts ++ [task] }.Single := by
  have kept : ∀ other roomId, service.Past other roomId →
      { service with starts := service.starts ++ [task] }.Past other roomId := by
    rintro other roomId ⟨known, found, rest⟩
    exact ⟨known, (List.getElem?_append_left (List.getElem?_eq_some_iff.mp found).1).trans found,
      rest⟩
  exact { single with
    stored := fun roomId found here =>
      ⟨kept _ _ (single.stored roomId found here).1, (single.stored roomId found here).2⟩
    past := fun other member => (single.past other member).imp fun roomId => kept other roomId }

/-- The matches of the table are changed, but not exchanged. -/
theorem update {manager : MatchManager}
    (same : ∀ roomId found, manager.matches_.lookup roomId = some found →
      ∃ before, service.manager.matches_.lookup roomId = some before ∧
        before.start = found.start ∧ before.room = found.room) :
    { service with manager := manager }.Single :=
  { single with
    stored := fun roomId found here => by
      obtain ⟨before, was, start, -⟩ := same roomId found here
      exact start ▸ single.stored roomId before was }

/-- A call stores its match. -/
theorem register {start : StartId} {room : GameRoom} {shard : GameServerShard}
    {snapshot : GameStateSnapshot} (nowMs : Int)
    (at_ : service.starts[start]? = some ⟨room, .connected shard snapshot⟩) :
    { service.setStart start (.sendingWhite shard) with
      manager := service.manager.register room.roomId
        (startedMatch room start shard snapshot nowMs) }.Single := by
  have phase : service.startPhase start = some (.connected shard snapshot) := by
    rw [startPhase, at_]
    rfl
  have moved : (service.setStart start (.sendingWhite shard)).Single :=
    single.setStart phase fun _ => rfl
  refine { moved with stored := fun roomId found here => ?_ }
  rw [MatchManager.register, ReverseIndex.lookup_insert] at here
  split at here
  · next same =>
      cases here
      refine ⟨⟨⟨room, .sendingWhite shard⟩, ?_, same.symm, rfl⟩, fun member => ?_⟩
      · rw [startedMatch]
        exact (getElem?_setStart ..).trans (by rw [if_pos rfl, at_, Option.map_some])
      · obtain ⟨_, task, found, -, past⟩ := single.past start member
        rw [at_, Option.some.injEq] at found
        rw [← found] at past
        cases past
  · exact moved.stored roomId found here

/-- A match is taken off the table. -/
theorem pop (roomId : RoomId) (phase : ActiveMatch → EndingPhase) :
    (service.pop roomId phase).Single := by
  rw [MatchService.pop, MatchManager.pop]
  cases here : service.manager.matches_.lookup roomId with
  | none => exact single
  | some found =>
      obtain ⟨past, fresh⟩ := single.stored roomId found here
      refine ⟨fun other kept stays => ?_, fun start member => ?_, ?_, single.committed,
        fun row member => ?_⟩
      · rw [ReverseIndex.lookup_erase] at stays
        split at stays
        · cases stays
        · next distinct =>
            obtain ⟨own, open_⟩ := single.stored other kept stays
            refine ⟨own, fun member => ?_⟩
            rw [ended, List.map_append, List.mem_append] at member
            rcases member with before | new
            · exact open_ before
            · -- a call stores its match under the room of its own
              rw [List.map_singleton, List.mem_singleton] at new
              obtain ⟨task, at_, room, -⟩ := own
              obtain ⟨task', at_', room', -⟩ := past
              rw [new, at_', Option.some.injEq] at at_
              exact distinct (room.symm.trans (at_ ▸ room'))
      · rw [ended, List.map_append, List.mem_append] at member
        rcases member with before | new
        · exact single.past start before
        · rw [List.map_singleton, List.mem_singleton] at new
          exact ⟨roomId, new ▸ past⟩
      · rw [ended, List.map_append]
        refine List.nodup_append.mpr ⟨single.once, List.nodup_singleton _, ?_⟩
        intro start before other new same
        rw [List.map_singleton, List.mem_singleton] at new
        exact fresh (new ▸ same ▸ before)
      · obtain ⟨ending, before, rest⟩ := single.rated row member
        exact ⟨ending, List.mem_append_left _ before, rest⟩

/-- An ending goes on, and does not come back to its rating update. -/
theorem setEnding {ending : Nat} {task : EndingTask} {new : EndingPhase}
    (at_ : service.endings[ending]? = some task)
    (onward : task.phase.isRated = true → new.isRated = true) :
    (service.setEnding ending new).Single := by
  have same := ended_setEnding service ending new
  refine ⟨fun roomId found here => ?_, fun start member => ?_, ?_, single.committed,
    fun row member => ?_⟩
  · rw [same]
    exact single.stored roomId found here
  · rw [same] at member
    exact single.past start member
  · rw [same]
    exact single.once
  · obtain ⟨known, before, start, rated⟩ := single.rated row member
    obtain ⟨other, found⟩ := List.mem_iff_getElem?.mp before
    have after := getElem?_setEnding service ending other new
    rw [found] at after
    split at after
    · next own =>
        subst own
        rw [at_, Option.some.injEq] at found
        subst found
        exact ⟨_, List.mem_of_getElem? after, start, onward rated⟩
    · exact ⟨known, List.mem_of_getElem? after, start, rated⟩

/-- The rating update of an ending: no other row is for its match. -/
theorem persist (updateRatings : Int → Int → Int × Int) {ending : Nat} {ended : ActiveMatch}
    {change : RatingChange} (at_ : service.endings[ending]? = some ⟨ended, .rating change⟩)
    (roomId : RoomId) (commits : Bool) :
    { service.setEnding ending .finishing with
      store := service.store.persist updateRatings ended.start roomId change commits
        }.Single := by
  have moved : (service.setEnding ending .finishing).Single := single.setEnding at_ fun _ => rfl
  have fresh : ∀ row ∈ service.store.history, row.1 ≠ ended.start := by
    intro row member same
    obtain ⟨known, before, start, rated⟩ := single.rated row member
    have own := List.inj_on_of_nodup_map single.once before (List.mem_of_getElem? at_)
      (start.trans same)
    rw [own] at rated
    cases rated
  have here : ∃ task ∈ (service.setEnding ending .finishing).endings,
      task.ended.start = ended.start ∧ task.phase.isRated = true := by
    have after := getElem?_setEnding service ending ending .finishing
    rw [if_pos rfl, at_] at after
    exact ⟨_, List.mem_of_getElem? after, rfl, rfl⟩
  rcases persist_history updateRatings service.store ended.start roomId change commits with
    same | ⟨row, added⟩
  · exact { moved with
      committed := by
        rw [same]
        exact moved.committed
      rated := by
        rw [same]
        exact moved.rated }
  · refine { moved with committed := ?_, rated := ?_ }
    · rw [added, List.map_append]
      refine List.nodup_append.mpr ⟨moved.committed, List.nodup_singleton _, ?_⟩
      intro start before other new same
      obtain ⟨earlier, member, own⟩ := List.mem_map.mp before
      rw [List.map_singleton, List.mem_singleton] at new
      exact fresh earlier member (own.trans (same.trans new))
    · rw [added]
      intro entry member
      rcases List.mem_append.mp member with before | new
      · exact moved.rated entry before
      · rw [List.mem_singleton.mp new]
        exact here

/-- The room manager changes a room. -/
theorem changeRoom (room : GameRoom) : (service.changeRoom room).Single := by
  have kept : ∀ start roomId, service.Past start roomId →
      (service.changeRoom room).Past start roomId := by
    rintro start roomId ⟨task, found, own, past⟩
    refine ⟨if task.room.roomId = room.roomId then { task with room := room } else task, ?_, ?_,
      ?_⟩
    · rw [MatchService.changeRoom, List.getElem?_map, found]
      rfl
    · split
      · next same => exact same.symm.trans own
      · exact own
    · split <;> exact past
  have same : ∀ roomId found, (service.changeRoom room).manager.matches_.lookup roomId =
      some found → ∃ before, service.manager.matches_.lookup roomId = some before ∧
        before.start = found.start := by
    intro roomId found here
    simp only [MatchService.changeRoom] at here
    cases stored : service.manager.matches_.lookup room.roomId with
    | none =>
        rw [stored] at here
        exact ⟨found, here, rfl⟩
    | some before =>
        simp only [stored, MatchManager.register, ReverseIndex.lookup_insert] at here
        split at here
        · next own =>
            cases here
            exact ⟨before, own ▸ stored, rfl⟩
        · exact ⟨found, here, rfl⟩
  refine ⟨fun roomId found here => ?_, fun start member => ?_, single.once, single.committed,
    single.rated⟩
  · obtain ⟨before, was, start⟩ := same roomId found here
    obtain ⟨own, fresh⟩ := single.stored roomId before was
    exact start ▸ ⟨kept _ _ own, fresh⟩
  · exact (single.past start member).imp fun roomId => kept start roomId

theorem begin (room : GameRoom) : (service.beginStart room).Single := by
  rw [beginStart]
  split
  · exact single.enter _
  · split
    · exact { single.enter ⟨room, .connecting _⟩ with }
    · exact { single.enter ⟨room, .spawning⟩ with }
    · exact { single.enter ⟨room, .raised none matchUnavailable⟩ with }

theorem step (updateRatings : Int → Int → Int × Int) (input : ServiceStep) :
    (service.step updateRatings input).Single := by
  cases input with
  | start room => exact single.begin room
  | spawn start shard =>
      simp only [MatchService.step]
      split
      · next at_ => exact single.setStart at_ Bool.noConfusion
      · exact single
  | failSpawn start unavailable =>
      simp only [MatchService.step]
      split
      · next at_ => exact single.setStart at_ Bool.noConfusion
      · exact single
  | acquired start =>
      simp only [MatchService.step]
      split
      · next shard at_ =>
          have moved : (service.setStart start (.connecting shard)).Single :=
            single.setStart at_ Bool.noConfusion
          exact { moved with }
      · next unavailable at_ =>
          have moved : (service.setStart start
              (.raised none (if unavailable then matchUnavailable else .other))).Single :=
            single.setStart at_ fun _ => rfl
          exact { moved with }
      · exact single
  | connect start snapshot =>
      simp only [MatchService.step]
      split
      · next at_ => exact single.setStart at_ Bool.noConfusion
      · exact single
  | failConnect start =>
      simp only [MatchService.step]
      split
      · next at_ => exact single.setStart at_ fun _ => rfl
      · exact single
  | register start nowMs =>
      simp only [MatchService.step]
      split
      · next at_ => exact single.register nowMs at_
      · exact single
  | send start sent =>
      simp only [MatchService.step]
      split
      · next at_ => exact single.setStart at_ fun _ => by split <;> rfl
      · next at_ => exact single.setStart at_ fun _ => by split <;> rfl
      · exact single
  | close start =>
      simp only [MatchService.step]
      split
      · next shard at_ =>
          have released : (service.callRelease start shard).2.Single := { single with }
          exact released.setStart at_ fun _ => by split <;> rfl
      · exact single
  | stop start stopped =>
      simp only [MatchService.step]
      split
      · next at_ => exact single.setStart at_ fun _ => by split <;> rfl
      · exact single
  | raise start =>
      simp only [MatchService.step]
      split
      · next shard at_ =>
          have moved : (service.setStart start
              (.raised (some shard) gameServerUnavailable)).Single :=
            single.setStart at_ fun _ => rfl
          exact { moved with }
      · next shard at_ =>
          have moved : (service.setStart start
              (.raised (some shard) gameServerUnavailable)).Single :=
            single.setStart at_ fun _ => rfl
          exact { moved with }
      · exact single
  | bridgeEvent roomId color message =>
      have moved := single.update (MatchManager.same_handleBridgeEvent service.manager roomId
        color message)
      exact { moved with }
  | claimSequence nowMs roomId userId websocket sequence notAPlayer duplicate =>
      exact single.update (MatchManager.same_claimSequence service.manager nowMs roomId userId
        websocket sequence notAPlayer duplicate)
  | roomChanged room => exact single.changeRoom room
  | finish task =>
      simp only [MatchService.step]
      split
      · next roomId _ =>
          have taken : { service with
              finishTasks := service.finishTasks.eraseIdx task }.Single := { single with }
          exact taken.pop roomId (finishPhase service.hasSessions)
      · exact single
  | cleanup roomId disconnectedUserId nowMs => exact single.pop roomId _
  | persist ending commits =>
      simp only [MatchService.step]
      split
      · next at_ => exact single.persist updateRatings at_ _ commits
      · exact single
  | proceed ending raises =>
      simp only [MatchService.step]
      split
      · next at_ => exact single.setEnding at_ fun _ => by split <;> rfl
      · exact single
  | closeEnding ending =>
      simp only [MatchService.step]
      split
      · next ended at_ =>
          have released : (service.callRelease ended.start ended.shard).2.Single :=
            { single with }
          exact released.setEnding at_ fun _ => by split <;> rfl
      · exact single
  | stopEnding ending stopped =>
      simp only [MatchService.step]
      split
      · next at_ => exact single.setEnding at_ fun _ => by split <;> rfl
      · exact single
  | leave ending =>
      simp only [MatchService.step]
      split
      · next at_ =>
          have moved : (service.setEnding ending .done).Single :=
            single.setEnding at_ fun _ => rfl
          exact { moved with }
      · next at_ =>
          have moved : (service.setEnding ending .done).Single :=
            single.setEnding at_ fun _ => rfl
          exact { moved with }
      · exact single

end Single

/-- **Ratings are applied at most once per match**, whatever ends it and in whatever order. -/
theorem run_rated (updateRatings : Int → Int → Int × Int) (allocator : ShardPoolAllocator)
    (users : List UserRow) (steps : List ServiceStep) (start : StartId) :
    ((Trace.run (step updateRatings) { allocator := allocator, store := { users := users } }
      steps).store.history.filter fun row => row.1 = start).length ≤ 1 := by
  have single : (Trace.run (step updateRatings)
      { allocator := allocator, store := { users := users } } steps).Single := by
    refine Trace.run_invariant (motive := Single)
      (fun _ input single => single.step updateRatings input) steps
      ⟨fun roomId found impossible => ?_, fun _ none => absurd none List.not_mem_nil,
        List.nodup_nil, List.nodup_nil, fun _ none => absurd none List.not_mem_nil⟩
    exact absurd impossible (Option.some_ne_none found).symm
  have counted := List.nodup_iff_count_le_one.mp single.committed start
  rw [List.count, List.countP_map, List.countP_eq_length_filter] at counted
  exact counted

end MatchService

end KungFuChess
