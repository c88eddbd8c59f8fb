import KungFuChess.Gateway.Ratings

/-!
# A start that fails

`start_match` acquires a shard, connects both players, stores the match and tells
the players, and it may raise at each of these awaits. It then closes the bridge and
releases the shard, but it does not take the match off the table: a failed message
to a player leaves an entry behind, and whoever ends that entry releases the shard
a second time.
-/

set_option autoImplicit false

namespace KungFuChess

namespace StartPhase

/-- The match is stored, or was, and the call has not failed. -/
def isServing : StartPhase → Bool
  | .sendingWhite _ | .sendingBlack _ | .returned => true
  | _ => false

def isRaised : StartPhase → Bool
  | .raised .. => true
  | _ => false

theorem isRaised_of_isServing {phase : StartPhase} (serves : phase.isServing = true) :
    phase.isRaised = false := by
  cases phase <;> first | rfl | cases serves

/-- How often a call that serves no match has released its shard. -/
def releases : StartPhase → Nat
  | .retiring _ | .retired _ | .returning _ | .raised (some _) _ => 1
  | _ => 0

end StartPhase

namespace MatchService

/-- A call raises in this step. -/
def Raises (before after : MatchService) (start : StartId) (acquired : Option GameServerShard)
    (error : StartError) : Prop :=
  after.startPhase start = some (.raised acquired error) ∧
    before.startPhase start ≠ some (.raised acquired error)

/-- **A start that fails is undone.** A call that raises leaves no match for its room, and its
shard, if it had one, is free to be acquired again; then and later, the shard was released
just once on account of the call. -/
def Atomic (before after : MatchService) : Prop :=
  ∀ start task acquired error, after.starts[start]? = some task →
    task.phase = .raised acquired error →
      after.releases.count start = acquired.toList.length ∧
      (before.Raises after start acquired error →
        after.manager.matches_.lookup task.room.roomId = none ∧
        ∀ shard, acquired = some shard → shard ∈ after.allocator.available ∨
          after.allocator.dynamicCount = before.allocator.dynamicCount - 1)

/-- What a run needs to go well: the messages to the players are sent and the launcher stops
the shards it is asked to. A room is started again only after its earlier starts have raised,
which is what the callers do. -/
def GoesWell (service : MatchService) : ServiceStep → Prop
  | .send _ sent => sent = true
  | .stop _ stopped => stopped = true
  | .start room => ∀ task ∈ service.starts, task.room.roomId = room.roomId →
      task.phase.isRaised = true
  | _ => True

/-! ## Which steps raise -/

variable {service : MatchService} {updateRatings : Int → Int → Int × Int}
  {start : StartId} {acquired : Option GameServerShard} {error : StartError}

/-- The steps in which a call raises. -/
inductive RaisingStep (service : MatchService) (start : StartId) :
    ServiceStep → Option GameServerShard → Prop where
  | refused {room : GameRoom} (new : start = service.starts.length) :
      RaisingStep service start (.start room) none
  | unspawned {unavailable : Bool}
      (at_ : service.startPhase start = some (.spawnFailed unavailable)) :
      RaisingStep service start (.acquired start) none
  | unstopped {shard : GameServerShard}
      (at_ : service.startPhase start = some (.retiring shard)) :
      RaisingStep service start (.stop start false) (some shard)
  | released {shard : GameServerShard}
      (at_ : service.startPhase start = some (.retired shard) ∨
        service.startPhase start = some (.returning shard)) :
      RaisingStep service start (.raise start) (some shard)

/-- A call that goes on without raising. -/
theorem not_raises_setStart {other : StartId} {old new : StartPhase}
    (at_ : service.startPhase other = some old) (quiet : new.isRaised = false) :
    ¬ service.Raises (service.setStart other new) start acquired error := by
  rintro ⟨after, before⟩
  rw [startPhase_setStart service at_] at after
  split at after
  · rw [Option.some.inj after] at quiet
    cases quiet
  · exact before after

/-- A call that raises is the one that goes on. -/
theorem eq_of_raises_setStart {other : StartId} {old new : StartPhase}
    (at_ : service.startPhase other = some old)
    (raises : service.Raises (service.setStart other new) start acquired error) :
    other = start ∧ new = .raised acquired error := by
  have after := raises.1
  rw [startPhase_setStart service at_] at after
  split at after
  · next same => exact ⟨same, Option.some.inj after⟩
  · exact absurd after raises.2

/-- Calls that are left alone do not raise. -/
theorem not_raises_same {after : MatchService}
    (same : after.startPhase start = service.startPhase start) :
    ¬ service.Raises after start acquired error :=
  fun raises => raises.2 (same ▸ raises.1)

theorem startPhase_changeRoom (service : MatchService) (room : GameRoom) (start : StartId) :
    (service.changeRoom room).startPhase start = service.startPhase start := by
  rw [startPhase, startPhase, changeRoom, List.getElem?_map, Option.map_map]
  refine Option.map_congr fun task _ => ?_
  rw [Function.comp_apply]
  split <;> rfl

theorem startPhase_pop (service : MatchService) (roomId : RoomId)
    (phase : ActiveMatch → EndingPhase) (start : StartId) :
    (service.pop roomId phase).startPhase start = service.startPhase start := by
  rw [pop]
  split <;> rfl

/-- Only a call that is not begun yet is changed by the beginning of a call. -/
theorem startPhase_enter {before after : MatchService} {task : StartTask}
    (entered : after.starts = before.starts ++ [task]) (start : StartId) :
    after.startPhase start = before.startPhase start ∨
      start = before.starts.length ∧ after.startPhase start = some task.phase := by
  rw [startPhase, startPhase, entered]
  rcases lt_trichotomy start before.starts.length with old | new | none
  · exact .inl (by rw [List.getElem?_append_left old])
  · refine .inr ⟨new, ?_⟩
    rw [new, List.getElem?_concat_length]
    rfl
  · refine .inl ?_
    rw [List.getElem?_eq_none none.le, List.getElem?_eq_none]
    rw [List.length_append]
    exact none

/-- A call up to its first await: it has raised without a shard, or goes on. -/
theorem beginStart_entered (service : MatchService) (room : GameRoom) :
    ∃ task, (service.beginStart room).starts = service.starts ++ [task] ∧ task.room = room ∧
      (service.beginStart room).manager = service.manager ∧
      (service.beginStart room).releases = service.releases ∧
      (service.beginStart room).endings = service.endings ∧
      task.phase.releases = 0 ∧ task.phase.isServing = false ∧
      ∀ acquired error, task.phase = .raised acquired error → acquired = none := by
  rw [beginStart]
  split
  · refine ⟨_, rfl, rfl, rfl, rfl, rfl, rfl, rfl, ?_⟩
    rintro acquired error ⟨⟩
    rfl
  · split
    · exact ⟨_, rfl, rfl, rfl, rfl, rfl, rfl, rfl, fun _ _ => StartPhase.noConfusion⟩
    · exact ⟨_, rfl, rfl, rfl, rfl, rfl, rfl, rfl, fun _ _ => StartPhase.noConfusion⟩
    · refine ⟨_, rfl, rfl, rfl, rfl, rfl, rfl, rfl, ?_⟩
      rintro acquired error ⟨⟩
      rfl

theorem raisingStep {input : ServiceStep}
    (raises : service.Raises (service.step updateRatings input) start acquired error) :
    RaisingStep service start input acquired := by
  cases input with
  | start room =>
      obtain ⟨task, entered, -, -, -, -, -, -, none⟩ := service.beginStart_entered room
      rcases startPhase_enter entered start with same | ⟨new, phase⟩
      · exact absurd raises (not_raises_same same)
      · rw [none acquired error (Option.some.inj (phase.symm.trans raises.1))]
        exact .refused new
  | spawn other shard =>
      simp only [step] at raises
      split at raises
      · next at_ => exact absurd raises (not_raises_setStart at_ rfl)
      · exact absurd raises (not_raises_same rfl)
  | failSpawn other unavailable =>
      simp only [step] at raises
      split at raises
      · next at_ => exact absurd raises (not_raises_setStart at_ rfl)
      · exact absurd raises (not_raises_same rfl)
  | acquired other =>
      simp only [step] at raises
      split at raises
      · next shard at_ =>
          exact absurd (⟨raises.1, raises.2⟩ :
            service.Raises (service.setStart other (.connecting shard)) start acquired error)
            (not_raises_setStart at_ rfl)
      · next unavailable at_ =>
          obtain ⟨rfl, same⟩ := eq_of_raises_setStart at_ ⟨raises.1, raises.2⟩
          cases same
          exact .unspawned at_
      · exact absurd raises (not_raises_same rfl)
  | connect other snapshot =>
      simp only [step] at raises
      split at raises
      · next at_ => exact absurd raises (not_raises_setStart at_ rfl)
      · exact absurd raises (not_raises_same rfl)
  | failConnect other =>
      simp only [step] at raises
      split at raises
      · next at_ => exact absurd raises (not_raises_setStart at_ rfl)
      · exact absurd raises (not_raises_same rfl)
  | register other nowMs =>
      simp only [step] at raises
      split at raises
      · next room shard snapshot at_ =>
          have phase : service.startPhase other = some (.connected shard snapshot) := by
            rw [startPhase, at_]
            rfl
          exact absurd (⟨raises.1, raises.2⟩ :
            service.Raises (service.setStart other (.sendingWhite shard)) start acquired error)
            (not_raises_setStart phase rfl)
      · exact absurd raises (not_raises_same rfl)
  | send other sent =>
      simp only [step] at raises
      split at raises
      · next at_ => exact absurd raises (not_raises_setStart at_ (by split <;> rfl))
      · next at_ => exact absurd raises (not_raises_setStart at_ (by split <;> rfl))
      · exact absurd raises (not_raises_same rfl)
  | close other =>
      simp only [step] at raises
      split at raises
      · next shard at_ =>
          have released : (service.callRelease other shard).2.startPhase other =
            some (.closing shard) := at_
          refine absurd (⟨raises.1, raises.2⟩ : (service.callRelease other shard).2.Raises _ start
            acquired error) (not_raises_setStart released ?_)
          split <;> rfl
      · exact absurd raises (not_raises_same rfl)
  | stop other stopped =>
      simp only [step] at raises
      split at raises
      · next shard at_ =>
          obtain ⟨rfl, same⟩ := eq_of_raises_setStart at_ raises
          cases stopped with
          | true => cases same
          | false =>
              cases same
              exact .unstopped at_
      · exact absurd raises (not_raises_same rfl)
  | raise other =>
      simp only [step] at raises
      split at raises
      · next shard at_ =>
          obtain ⟨rfl, same⟩ := eq_of_raises_setStart at_ ⟨raises.1, raises.2⟩
          cases same
          exact .released (.inl at_)
      · next shard at_ =>
          obtain ⟨rfl, same⟩ := eq_of_raises_setStart at_ ⟨raises.1, raises.2⟩
          cases same
          exact .released (.inr at_)
      · exact absurd raises (not_raises_same rfl)
  | bridgeEvent roomId color message => exact absurd raises (not_raises_same rfl)
  | claimSequence nowMs roomId userId websocket sequence notAPlayer duplicate =>
      exact absurd raises (not_raises_same rfl)
  | roomChanged room =>
      exact absurd raises (not_raises_same (service.startPhase_changeRoom room start))
  | finish task =>
      simp only [step] at raises
      split at raises
      · exact absurd raises (not_raises_same (startPhase_pop ..))
      · exact absurd raises (not_raises_same rfl)
  | cleanup roomId disconnectedUserId nowMs =>
      exact absurd raises (not_raises_same (service.startPhase_pop ..))
  | persist ending commits =>
      simp only [step] at raises
      split at raises <;> exact absurd raises (not_raises_same rfl)
  | proceed ending fails =>
      simp only [step] at raises
      split at raises <;> exact absurd raises (not_raises_same rfl)
  | closeEnding ending =>
      simp only [step] at raises
      split at raises <;> exact absurd raises (not_raises_same rfl)
  | stopEnding ending stopped =>
      simp only [step] at raises
      split at raises <;> exact absurd raises (not_raises_same rfl)
  | leave ending =>
      simp only [step] at raises
      split at raises <;> exact absurd raises (not_raises_same rfl)

/-! ## What a run that goes well preserves -/

/-- A call whose match is or was in the table, under a room. -/
def Serving (service : MatchService) (start : StartId) (roomId : RoomId) : Prop :=
  ∃ task, service.starts[start]? = some task ∧ task.room.roomId = roomId ∧
    task.phase.isServing = true

/-- **What holds while no message to a player fails.** Only calls that have not failed have a
match in the table or an ending; a call that serves no match releases its own shard. -/
structure Clean (service : MatchService) : Prop where
  stored : ∀ roomId found, service.manager.matches_.lookup roomId = some found →
    service.Serving found.start roomId
  past : ∀ start ∈ service.ended, ∃ roomId, service.Serving start roomId
  rooms : ∀ (first second : StartId) (earlier later : StartTask),
    service.starts[first]? = some earlier →
    service.starts[second]? = some later → first < second →
      earlier.room.roomId = later.room.roomId → earlier.phase.isRaised = true
  known : ∀ start ∈ service.releases, start < service.starts.length
  released : ∀ (start : StartId) (task : StartTask), service.starts[start]? = some task →
    task.phase.isServing = false →
    service.releases.count start = task.phase.releases

namespace Clean

variable (clean : service.Clean)

include clean

/-- **A call goes on**, and releases its shard when its phase says so. -/
theorem move {after : MatchService} {other : StartId} {old new : StartPhase}
    {more : List StartId} (at_ : service.startPhase other = some old)
    (manager : after.manager = service.manager) (endings : after.endings = service.endings)
    (starts : after.starts = (service.setStart other new).starts)
    (releases : after.releases = service.releases ++ more)
    (own : ∀ start ∈ more, start = other)
    (serving : old.isServing = true → new.isServing = true)
    (raised : old.isRaised = true → new.isRaised = true)
    (counts : new.isServing = false →
      old.isServing = false ∧ new.releases = old.releases + more.length) :
    after.Clean := by
  obtain ⟨task, found, phase⟩ := Option.map_eq_some_iff.mp at_
  have moved : ∀ start, after.starts[start]? =
      if other = start then some { task with phase := new } else service.starts[start]? := by
    intro start
    rw [starts, getElem?_setStart]
    split
    · next same => rw [← same, found, Option.map_some]
    · rfl
  have kept : ∀ start roomId, service.Serving start roomId → after.Serving start roomId := by
    rintro start roomId ⟨known, is, room, serves⟩
    by_cases same : other = start
    · subst same
      rw [found, Option.some.injEq] at is
      subst is
      exact ⟨_, (moved other).trans (if_pos rfl), room, serving (phase ▸ serves)⟩
    · exact ⟨known, (moved start).trans (by rw [if_neg same, is]), room, serves⟩
  -- the task a call had before, with the same room
  have before : ∀ (start : StartId) (known : StartTask), after.starts[start]? = some known →
      ∃ was : StartTask, service.starts[start]? = some was ∧ was.room = known.room ∧
        (was.phase.isRaised = true → known.phase.isRaised = true) := by
    intro start known is
    rw [moved] at is
    split at is
    · next same =>
        cases is
        exact ⟨task, same ▸ found, rfl, fun failed => raised (phase ▸ failed)⟩
    · exact ⟨known, is, rfl, id⟩
  refine ⟨fun roomId stored here => ?_, fun start member => ?_, ?_, ?_, ?_⟩
  · rw [manager] at here
    exact kept _ _ (clean.stored roomId stored here)
  · rw [ended, endings] at member
    exact (clean.past start member).imp fun roomId => kept start roomId
  · intro first second earlier later isEarlier isLater order same
    obtain ⟨wasEarlier, foundEarlier, roomEarlier, failed⟩ := before first earlier isEarlier
    obtain ⟨wasLater, foundLater, roomLater, -⟩ := before second later isLater
    refine failed (clean.rooms first second _ _ foundEarlier foundLater order ?_)
    rw [roomEarlier, roomLater, same]
  · intro start member
    rw [starts, setStart, List.length_modify]
    rw [releases] at member
    rcases List.mem_append.mp member with earlier | new
    · exact clean.known start earlier
    · rw [own start new]
      exact (List.getElem?_eq_some_iff.mp found).1
  · intro start known is idle
    rw [releases, List.count_append]
    rw [moved] at is
    split at is
    · next same =>
        subst same
        cases is
        obtain ⟨wasIdle, counted⟩ := counts idle
        have count : more.count other = more.length :=
          List.count_eq_length.mpr fun start member => (own start member).symm
        rw [clean.released other task found (phase ▸ wasIdle), count, phase, counted]
    · next distinct =>
        have none : more.count start = 0 :=
          List.count_eq_zero.mpr fun member => distinct (own start member).symm
        rw [none, Nat.add_zero]
        exact clean.released start known is idle

/-- A call that goes on without a release. -/
theorem setStart {other : StartId} {old new : StartPhase}
    (at_ : service.startPhase other = some old)
    (serving : old.isServing = true → new.isServing = true)
    (raised : old.isRaised = true → new.isRaised = true)
    (counts : new.isServing = false → old.isServing = false ∧ new.releases = old.releases) :
    (service.setStart other new).Clean := by
  have none : ∀ start ∈ ([] : List StartId), start = other :=
    fun _ impossible => absurd impossible List.not_mem_nil
  exact clean.move at_ rfl rfl rfl (List.append_nil _).symm none serving raised counts

/-- A room is started, when its earlier starts have raised. -/
theorem begin (room : GameRoom)
    (free : ∀ task ∈ service.starts, task.room.roomId = room.roomId →
      task.phase.isRaised = true) :
    (service.beginStart room).Clean := by
  obtain ⟨task, entered, own, manager, releases, endings, counts, idle, -⟩ :=
    service.beginStart_entered room
  have old : ∀ (start : StartId) (known : StartTask), service.starts[start]? = some known →
      (service.beginStart room).starts[start]? = some known := by
    intro start known is
    rw [entered]
    exact (List.getElem?_append_left (List.getElem?_eq_some_iff.mp is).1).trans is
  have cases_ : ∀ (start : StartId) (known : StartTask),
      (service.beginStart room).starts[start]? = some known →
        service.starts[start]? = some known ∨ start = service.starts.length ∧ known = task := by
    intro start known is
    rw [entered] at is
    rcases Nat.lt_or_ge start service.starts.length with before | behind
    · rw [List.getElem?_append_left before] at is
      exact .inl is
    · rw [List.getElem?_append_right behind, List.getElem?_singleton] at is
      split at is
      · next here =>
          exact .inr ⟨Nat.le_antisymm (Nat.sub_eq_zero_iff_le.mp here) behind,
            (Option.some.inj is).symm⟩
      · cases is
  have kept : ∀ start roomId, service.Serving start roomId →
      (service.beginStart room).Serving start roomId :=
    fun start roomId ⟨known, is, rest⟩ => ⟨known, old start known is, rest⟩
  refine ⟨fun roomId stored here => ?_, fun start member => ?_, ?_, ?_, ?_⟩
  · rw [manager] at here
    exact kept _ _ (clean.stored roomId stored here)
  · rw [ended, endings] at member
    exact (clean.past start member).imp fun roomId => kept start roomId
  · intro first second earlier later isEarlier isLater order same
    rcases cases_ first earlier isEarlier with wasEarlier | ⟨rfl, rfl⟩
    · rcases cases_ second later isLater with wasLater | ⟨rfl, rfl⟩
      · exact clean.rooms first second _ _ wasEarlier wasLater order same
      · exact free earlier (List.mem_of_getElem? wasEarlier) (same.trans (congrArg _ own))
    · have inside := (List.getElem?_eq_some_iff.mp isLater).1
      rw [entered, List.length_append, List.length_singleton] at inside
      exact absurd order (Nat.not_lt.mpr (Nat.le_of_lt_succ inside))
  · intro start member
    rw [releases] at member
    rw [entered, List.length_append]
    exact (clean.known start member).trans (Nat.lt_succ_self _)
  · intro start known is serves
    rw [releases]
    rcases cases_ start known is with was | ⟨rfl, rfl⟩
    · exact clean.released start known was serves
    · rw [counts]
      exact List.count_eq_zero.mpr fun member => lt_irrefl _ (clean.known _ member)

theorem update {manager : MatchManager}
    (same : ∀ roomId found, manager.matches_.lookup roomId = some found →
      ∃ before, service.manager.matches_.lookup roomId = some before ∧
        before.start = found.start ∧ before.room = found.room) :
    { service with manager := manager }.Clean :=
  { clean with
    stored := fun roomId found here => by
      obtain ⟨before, was, start, -⟩ := same roomId found here
      exact start ▸ clean.stored roomId before was }

/-- A call stores its match. -/
theorem register {start : StartId} {room : GameRoom} {shard : GameServerShard}
    {snapshot : GameStateSnapshot} (nowMs : Int)
    (at_ : service.starts[start]? = some ⟨room, .connected shard snapshot⟩) :
    { service.setStart start (.sendingWhite shard) with
      manager := service.manager.register room.roomId
        (startedMatch room start shard snapshot nowMs) }.Clean := by
  have phase : service.startPhase start = some (.connected shard snapshot) := by
    rw [startPhase, at_]
    rfl
  have moved : (service.setStart start (.sendingWhite shard)).Clean :=
    clean.setStart phase (fun _ => rfl) Bool.noConfusion Bool.noConfusion
  refine { moved with stored := fun roomId found here => ?_ }
  rw [MatchManager.register, ReverseIndex.lookup_insert] at here
  split at here
  · next same =>
      cases here
      refine ⟨⟨room, .sendingWhite shard⟩, ?_, same.symm, rfl⟩
      exact (getElem?_setStart ..).trans (by rw [startedMatch, if_pos rfl, at_, Option.map_some])
  · exact moved.stored roomId found here

theorem pop (roomId : RoomId) (phase : ActiveMatch → EndingPhase) :
    (service.pop roomId phase).Clean := by
  rw [MatchService.pop, MatchManager.pop]
  cases here : service.manager.matches_.lookup roomId with
  | none => exact clean
  | some found =>
      refine { clean with stored := fun other kept stays => ?_, past := fun start member => ?_ }
      · rw [ReverseIndex.lookup_erase] at stays
        split at stays
        · cases stays
        · exact clean.stored other kept stays
      · rw [ended, List.map_append, List.mem_append] at member
        rcases member with before | new
        · exact clean.past start before
        · rw [List.map_singleton, List.mem_singleton] at new
          exact ⟨roomId, new ▸ clean.stored roomId found here⟩

theorem setEnding (ending : Nat) (phase : EndingPhase) :
    (service.setEnding ending phase).Clean :=
  { clean with
    past := by
      rw [ended_setEnding]
      exact clean.past }

/-- An ending releases the shard of a call that has not failed. -/
theorem callRelease {start : StartId} (past : start ∈ service.ended) (shard : GameServerShard) :
    (service.callRelease start shard).2.Clean := by
  obtain ⟨roomId, task, found, -, serves⟩ := clean.past start past
  have releases : (service.callRelease start shard).2.releases = service.releases ++ [start] :=
    rfl
  refine { clean with known := fun other member => ?_, released := fun other known is idle => ?_ }
  · rw [releases] at member
    rcases List.mem_append.mp member with before | new
    · exact clean.known other before
    · rw [List.mem_singleton.mp new]
      exact (List.getElem?_eq_some_iff.mp found).1
  · have distinct : start ≠ other := by
      rintro rfl
      rw [← Option.some.inj (found.symm.trans is), serves] at idle
      cases idle
    rw [releases, List.count_append, List.count_singleton, beq_eq_false_iff_ne.mpr distinct,
      if_neg Bool.false_ne_true]
    exact clean.released other known is idle

/-- The room manager changes a room. -/
theorem changeRoom (room : GameRoom) : (service.changeRoom room).Clean := by
  have moved : ∀ start : StartId, (service.changeRoom room).starts[start]? =
      service.starts[start]?.map fun task =>
        if task.room.roomId = room.roomId then { task with room := room } else task :=
    fun start => List.getElem?_map ..
  have before : ∀ (start : StartId) (known : StartTask),
      (service.changeRoom room).starts[start]? = some known →
        ∃ was : StartTask, service.starts[start]? = some was ∧
          was.room.roomId = known.room.roomId ∧ was.phase = known.phase := by
    intro start known is
    rw [moved] at is
    obtain ⟨was, found, rfl⟩ := Option.map_eq_some_iff.mp is
    refine ⟨was, found, ?_, ?_⟩
    · split
      · next same => exact same
      · rfl
    · split <;> rfl
  have kept : ∀ start roomId, service.Serving start roomId →
      (service.changeRoom room).Serving start roomId := by
    rintro start roomId ⟨task, found, own, serves⟩
    refine ⟨if task.room.roomId = room.roomId then { task with room := room } else task,
      (moved start).trans (congrArg _ found), ?_, ?_⟩
    · split
      · next same => exact same.symm.trans own
      · exact own
    · split <;> exact serves
  refine ⟨fun roomId found here => ?_, fun start member => ?_, ?_, ?_, ?_⟩
  · simp only [MatchService.changeRoom] at here
    cases stored : service.manager.matches_.lookup room.roomId with
    | none =>
        rw [stored] at here
        exact kept _ _ (clean.stored roomId found here)
    | some was =>
        simp only [stored, MatchManager.register, ReverseIndex.lookup_insert] at here
        split at here
        · next own =>
            cases here
            exact kept _ _ (clean.stored roomId was (own ▸ stored))
        · exact kept _ _ (clean.stored roomId found here)
  · exact (clean.past start member).imp fun roomId => kept start roomId
  · intro first second earlier later isEarlier isLater order same
    obtain ⟨wasEarlier, foundEarlier, roomEarlier, phase⟩ := before first earlier isEarlier
    obtain ⟨wasLater, foundLater, roomLater, -⟩ := before second later isLater
    rw [← phase]
    refine clean.rooms first second _ _ foundEarlier foundLater order ?_
    rw [roomEarlier, roomLater, same]
  · intro start member
    rw [MatchService.changeRoom, List.length_map]
    exact clean.known start member
  · intro start known is idle
    obtain ⟨was, found, -, phase⟩ := before start known is
    rw [← phase] at idle ⊢
    exact clean.released start was found idle

theorem step (updateRatings : Int → Int → Int × Int) {input : ServiceStep}
    (goesWell : service.GoesWell input) : (service.step updateRatings input).Clean := by
  cases input with
  | start room => exact clean.begin room goesWell
  | spawn start shard =>
      simp only [MatchService.step]
      split
      · next at_ =>
          exact clean.setStart at_ Bool.noConfusion Bool.noConfusion fun _ => ⟨rfl, rfl⟩
      · exact clean
  | failSpawn start unavailable =>
      simp only [MatchService.step]
      split
      · next at_ =>
          exact clean.setStart at_ Bool.noConfusion Bool.noConfusion fun _ => ⟨rfl, rfl⟩
      · exact clean
  | acquired start =>
      simp only [MatchService.step]
      split
      · next shard at_ =>
          have moved : (service.setStart start (.connecting shard)).Clean :=
            clean.setStart at_ Bool.noConfusion Bool.noConfusion fun _ => ⟨rfl, rfl⟩
          exact { moved with }
      · next unavailable at_ =>
          have moved : (service.setStart start
              (.raised none (if unavailable then matchUnavailable else .other))).Clean :=
            clean.setStart at_ Bool.noConfusion (fun _ => rfl) fun _ => ⟨rfl, rfl⟩
          exact { moved with }
      · exact clean
  | connect start snapshot =>
      simp only [MatchService.step]
      split
      · next at_ =>
          exact clean.setStart at_ Bool.noConfusion Bool.noConfusion fun _ => ⟨rfl, rfl⟩
      · exact clean
  | failConnect start =>
      simp only [MatchService.step]
      split
      · next at_ =>
          exact clean.setStart at_ Bool.noConfusion Bool.noConfusion fun _ => ⟨rfl, rfl⟩
      · exact clean
  | register start nowMs =>
      simp only [MatchService.step]
      split
      · next at_ => exact clean.register nowMs at_
      · exact clean
  | send start sent =>
      have sends : sent = true := goesWell
      subst sends
      simp only [MatchService.step]
      split
      · next at_ => exact clean.setStart at_ (fun _ => rfl) Bool.noConfusion Bool.noConfusion
      · next at_ => exact clean.setStart at_ (fun _ => rfl) Bool.noConfusion Bool.noConfusion
      · exact clean
  | close start =>
      simp only [MatchService.step]
      split
      · next shard at_ =>
          have own : ∀ other ∈ [start], other = start := fun other => List.mem_singleton.mp
          refine clean.move at_ rfl rfl rfl rfl own Bool.noConfusion Bool.noConfusion fun _ => ?_
          split <;> exact ⟨rfl, rfl⟩
      · exact clean
  | stop start stopped =>
      have stops : stopped = true := goesWell
      subst stops
      simp only [MatchService.step]
      split
      · next at_ =>
          exact clean.setStart at_ Bool.noConfusion Bool.noConfusion fun _ => ⟨rfl, rfl⟩
      · exact clean
  | raise start =>
      simp only [MatchService.step]
      split
      · next shard at_ =>
          have moved : (service.setStart start
              (.raised (some shard) gameServerUnavailable)).Clean :=
            clean.setStart at_ Bool.noConfusion (fun _ => rfl) fun _ => ⟨rfl, rfl⟩
          exact { moved with }
      · next shard at_ =>
          have moved : (service.setStart start
              (.raised (some shard) gameServerUnavailable)).Clean :=
            clean.setStart at_ Bool.noConfusion (fun _ => rfl) fun _ => ⟨rfl, rfl⟩
          exact { moved with }
      · exact clean
  | bridgeEvent roomId color message =>
      have moved := clean.update (MatchManager.same_handleBridgeEvent service.manager roomId
        color message)
      exact { moved with }
  | claimSequence nowMs roomId userId websocket sequence notAPlayer duplicate =>
      exact clean.update (MatchManager.same_claimSequence service.manager nowMs roomId userId
        websocket sequence notAPlayer duplicate)
  | roomChanged room => exact clean.changeRoom room
  | finish task =>
      simp only [MatchService.step]
      split
      · next roomId _ =>
          have taken : { service with
              finishTasks := service.finishTasks.eraseIdx task }.Clean := { clean with }
          exact taken.pop roomId (finishPhase service.hasSessions)
      · exact clean
  | cleanup roomId disconnectedUserId nowMs => exact clean.pop roomId _
  | persist ending commits =>
      simp only [MatchService.step]
      split
      · exact { clean.setEnding ending .finishing with }
      · exact clean
  | proceed ending raises =>
      simp only [MatchService.step]
      split
      · exact clean.setEnding ending _
      · exact clean
  | closeEnding ending =>
      simp only [MatchService.step]
      split
      · next ended at_ =>
          have past : ended.start ∈ service.ended :=
            List.mem_map.mpr ⟨_, List.mem_of_getElem? at_, rfl⟩
          exact (clean.callRelease past ended.shard).setEnding ending _
      · exact clean
  | stopEnding ending stopped =>
      simp only [MatchService.step]
      split
      · exact clean.setEnding ending _
      · exact clean
  | leave ending =>
      simp only [MatchService.step]
      split
      · exact { clean.setEnding ending .done with }
      · exact { clean.setEnding ending .done with }
      · exact clean

/-- No other call of the room of a call that has just raised has a match in the table. -/
theorem lookup_none {other : StartId} {task : StartTask}
    (found : service.starts[other]? = some task) (idle : task.phase.isServing = false)
    (open_ : task.phase.isRaised = false) :
    service.manager.matches_.lookup task.room.roomId = none := by
  refine Option.eq_none_iff_forall_ne_some.mpr fun stored here => ?_
  obtain ⟨known, is, room, serves⟩ := clean.stored _ stored here
  have live := StartPhase.isRaised_of_isServing serves
  rcases lt_trichotomy stored.start other with before | same | after
  · exact absurd (clean.rooms _ _ _ _ is found before room) (Bool.eq_false_iff.mp live)
  · rw [same, found, Option.some.injEq] at is
    rw [is, serves] at idle
    cases idle
  · exact absurd (clean.rooms _ _ _ _ found is after room.symm) (Bool.eq_false_iff.mp open_)

/-- A step that goes well undoes the call that raises in it. -/
theorem atomic (updateRatings : Int → Int → Int × Int) {input : ServiceStep}
    (goesWell : service.GoesWell input) : service.Atomic (service.step updateRatings input) := by
  intro start task acquired error found phase
  have next := clean.step updateRatings goesWell
  refine ⟨?_, fun raises => ?_⟩
  · rw [next.released start task found (by rw [phase]; rfl), phase]
    cases acquired <;> rfl
  · -- a call that fails where it is has the room it had, and nobody serves this room
    have undone : ∀ {old new : StartPhase}, service.startPhase start = some old →
        old.isServing = false → old.isRaised = false →
          (service.setStart start new).starts[start]? = some task →
            service.manager.matches_.lookup task.room.roomId = none := by
      intro old new at_ idle open_ is
      obtain ⟨was, before, same⟩ := Option.map_eq_some_iff.mp at_
      rw [getElem?_setStart, if_pos rfl, before, Option.map_some, Option.some.injEq] at is
      rw [← same] at idle open_
      have none := clean.lookup_none before idle open_
      rwa [← is]
    cases raisingStep raises with
    | @refused room new =>
        refine ⟨?_, fun shard none => absurd none.symm (Option.some_ne_none shard)⟩
        obtain ⟨begun, entered, own, manager, -⟩ := service.beginStart_entered room
        have is : (service.beginStart room).starts[start]? = some task := found
        rw [entered, new, List.getElem?_concat_length, Option.some.injEq] at is
        change (service.beginStart room).manager.matches_.lookup task.room.roomId = none
        rw [manager, ← is, own]
        refine Option.eq_none_iff_forall_ne_some.mpr fun stored here => ?_
        obtain ⟨known, member, same, serves⟩ := clean.stored _ stored here
        have failed := goesWell known (List.mem_of_getElem? member) same
        exact Bool.false_ne_true ((StartPhase.isRaised_of_isServing serves).symm.trans failed)
    | unspawned at_ =>
        simp only [MatchService.step, at_] at found ⊢
        exact ⟨undone at_ rfl rfl found, fun shard none =>
          absurd none.symm (Option.some_ne_none shard)⟩
    | unstopped at_ => exact absurd goesWell Bool.false_ne_true
    | released at_ =>
        rcases at_ with at_ | at_
        · simp only [MatchService.step, at_] at found ⊢
          exact ⟨undone at_ rfl rfl found, fun shard _ => .inr rfl⟩
        · simp only [MatchService.step, at_] at found ⊢
          refine ⟨undone at_ rfl rfl found, ?_⟩
          rintro shard ⟨⟩
          exact .inl List.mem_append_cons_self

end Clean

instance (service : MatchService) : ∀ input, Decidable (service.GoesWell input)
  | .send _ sent => inferInstanceAs (Decidable (sent = true))
  | .stop _ stopped => inferInstanceAs (Decidable (stopped = true))
  | .start room => inferInstanceAs (Decidable (∀ task ∈ service.starts,
      task.room.roomId = room.roomId → task.phase.isRaised = true))
  | .spawn .. | .failSpawn .. | .acquired _ | .connect .. | .failConnect _ | .register ..
  | .close _ | .raise _ | .bridgeEvent .. | .claimSequence .. | .roomChanged _ | .finish _
  | .cleanup .. | .persist .. | .proceed .. | .closeEnding _ | .stopEnding .. | .leave _ =>
      .isTrue trivial

/-- **A start that fails is undone** in every run in which the messages to the players are sent
and the launcher stops the shards it is asked to. -/
theorem run_atomic (updateRatings : Int → Int → Int × Int) (allocator : ShardPoolAllocator)
    (steps : List ServiceStep)
    (goesWell : ∀ visit ∈ Trace.visits (step updateRatings) { allocator := allocator } steps,
      visit.1.GoesWell visit.2) :
    ∀ visit ∈ Trace.visits (step updateRatings) { allocator := allocator } steps,
      visit.1.Atomic (visit.1.step updateRatings visit.2) := by
  intro visit member
  have clean := Trace.visits_rule (motive := Clean) (fun service input => service.GoesWell input)
    (fun service input goesWell clean => clean.step updateRatings goesWell) steps
    { allocator := allocator } goesWell
    ⟨fun roomId found impossible => absurd impossible (Option.some_ne_none found).symm,
      fun _ none => absurd none List.not_mem_nil,
      fun first _ earlier _ impossible => absurd impossible (Option.some_ne_none earlier).symm,
      fun _ none => absurd none List.not_mem_nil,
      fun start task impossible => absurd impossible (Option.some_ne_none task).symm⟩
    visit member
  exact clean.atomic updateRatings (goesWell visit member)

/-- A service with one shard, and Ann and Bob in room 7. -/
def oneShard : MatchService where
  allocator := { available := [⟨"localhost", 9000⟩] }

/-- The win is worth sixteen points. -/
def sixteen (winner loser : Int) : Int × Int := (winner + 16, loser - 16)

/-- The first start of the room fails, the second goes through and Bob leaves. -/
def secondStart : List ServiceStep :=
  [.start MatchManager.annAgainstBob.room, .failConnect 0, .close 0, .raise 0,
    .start MatchManager.annAgainstBob.room, .connect 1 {}, .register 1 1000, .send 1 true,
    .send 1 true, .cleanup 7 (some 2) 9000, .persist 0 true, .proceed 0 false, .closeEnding 0,
    .leave 0]

theorem run_atomic_secondStart :
    (∀ visit ∈ Trace.visits (step sixteen) oneShard secondStart, visit.1.GoesWell visit.2) ∧
      ∀ visit ∈ Trace.visits (step sixteen) oneShard secondStart,
        visit.1.Atomic (visit.1.step sixteen visit.2) :=
  have goesWell : ∀ visit ∈ Trace.visits (step sixteen) oneShard secondStart,
      visit.1.GoesWell visit.2 := by decide +kernel
  ⟨goesWell, run_atomic sixteen { available := [⟨"localhost", 9000⟩] } secondStart goesWell⟩

/-- Ann is gone when she is told that her match is ready. -/
def annGone : List ServiceStep :=
  [.start MatchManager.annAgainstBob.room, .connect 0 {}, .register 0 1000, .send 0 false,
    .close 0]

/-- The call raises and leaves the match in the table; the next cleanup of the room releases
the shard again. -/
theorem annGone_not_atomic :
    ¬ (Trace.run (step sixteen) oneShard annGone).Atomic
        (Trace.run (step sixteen) oneShard (annGone ++ [.raise 0])) ∧
      (Trace.run (step sixteen) oneShard
        (annGone ++ [.raise 0, .cleanup 7 (some 1) 2000, .proceed 0 false, .closeEnding 0,
          .leave 0])).allocator.available = [⟨"localhost", 9000⟩, ⟨"localhost", 9000⟩] := by
  refine ⟨fun atomic => ?_, by decide +kernel⟩
  have undone := atomic 0 ⟨MatchManager.annAgainstBob.room, _⟩ _ _ rfl rfl
  have gone := (undone.2 ⟨rfl, by decide +kernel⟩).1
  exact absurd gone (by decide +kernel)

end MatchService

end KungFuChess
