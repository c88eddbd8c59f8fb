import KungFuChess.Gateway.Rollback
import KungFuChess.Gateway.RoomTable
import KungFuChess.Gateway.Router

/-!
# What the loops of the web sockets hold

A handler that has found a room for its user claims the room until its start has
returned or was undone, and a loop that has removed a room holds it until the match
is cleaned up. A room is free when nobody claims it and every start of it has raised.
-/

set_option autoImplicit false

namespace KungFuChess

namespace MatchService

variable {service after : MatchService} {start : StartId} {roomId : RoomId}

/-! ## Calls of `start_match` -/

/-- A call for a room has not raised. -/
def Open (service : MatchService) (start : StartId) (roomId : RoomId) : Prop :=
  ∃ task, service.starts[start]? = some task ∧ task.room.roomId = roomId ∧
    task.phase.isRaised = false

/-- A call is open after a step only if it was open before. -/
theorem Onward.open {input : ServiceStep} (onward : service.Onward input after)
    (open_ : after.Open start roomId) : service.Open start roomId := by
  obtain ⟨task, found, room, goes⟩ := open_
  obtain ⟨was, before, same, next⟩ := onward.start start task found
  refine ⟨was, before, same ▸ room, ?_⟩
  rcases next with same | next
  · rw [← same]
    exact goes
  · generalize was.phase = old at next ⊢
    generalize task.phase = new at next
    cases next <;> rfl

/-- The calls of a room are the same after a change of the room. -/
theorem call_changeRoom (room : GameRoom) (holds : StartPhase → Prop) :
    (∃ task, (service.changeRoom room).starts[start]? = some task ∧ task.room.roomId = roomId ∧
      holds task.phase) ↔
    ∃ task, service.starts[start]? = some task ∧ task.room.roomId = roomId ∧ holds task.phase := by
  rw [changeRoom, List.getElem?_map]
  cases service.starts[start]? with
  | none => simp only [Option.map_none, reduceCtorEq, false_and, exists_false]
  | some task =>
      simp only [Option.map_some, Option.some.injEq, exists_eq_left']
      split
      · next same => rw [same]
      · rfl

/-- The matches are the same after a change of a room. -/
theorem lookup_changeRoom (room : GameRoom) {found : ActiveMatch}
    (here : (service.changeRoom room).manager.matches_.lookup roomId = some found) :
    ∃ was, service.manager.matches_.lookup roomId = some was ∧ was.start = found.start ∧
      (found.room = was.room ∨ found.room.roomId = roomId) := by
  simp only [changeRoom] at here
  cases stored : service.manager.matches_.lookup room.roomId with
  | none =>
      rw [stored] at here
      exact ⟨found, here, rfl, .inl rfl⟩
  | some was =>
      simp only [stored, MatchManager.register, ReverseIndex.lookup_insert] at here
      split at here
      · next same =>
          cases here
          exact ⟨was, same ▸ stored, rfl, .inr same.symm⟩
      · exact ⟨found, here, rfl, .inl rfl⟩

/-- A call that begins is open, or has raised. -/
theorem open_beginStart {room : GameRoom} (open_ : (service.beginStart room).Open start roomId) :
    service.Open start roomId ∨ start = service.starts.length ∧ roomId = room.roomId := by
  obtain ⟨task, entered, own, -⟩ := service.beginStart_entered room
  obtain ⟨known, found, here, live⟩ := open_
  rw [entered] at found
  rcases Nat.lt_or_ge start service.starts.length with before | behind
  · rw [List.getElem?_append_left before] at found
    exact .inl ⟨known, found, here, live⟩
  · rw [List.getElem?_append_right behind, List.getElem?_singleton] at found
    split at found
    · next first =>
        rw [← here, ← Option.some.inj found, own]
        exact .inr ⟨Nat.le_antisymm (Nat.sub_eq_zero_iff_le.mp first) behind, rfl⟩
    · cases found

/-- What is left of the table after a match is taken off it. -/
theorem lookup_pop (other : RoomId) (phase : ActiveMatch → EndingPhase) :
    (service.pop other phase).manager.matches_.lookup roomId =
      if roomId = other then none else service.manager.matches_.lookup roomId := by
  rw [pop, MatchManager.pop]
  cases here : service.manager.matches_.lookup other with
  | none =>
      simp only
      split
      · next same => rw [same, here]
      · rfl
  | some ended => exact ReverseIndex.lookup_erase ..

theorem starts_pop (other : RoomId) (phase : ActiveMatch → EndingPhase) :
    (service.pop other phase).starts = service.starts := by
  rw [pop]
  split <;> rfl

end MatchService

namespace Gateway

/-! ## Claims -/

/-- A handler starts a room, or undoes it. -/
def Claims (gateway : Gateway) (websocket : ConnectionId) (roomId : RoomId) : Prop :=
  ∃ phase, gateway.phase websocket = some phase ∧ phase.room? = some roomId

/-- A loop is about to clean up a room. -/
def Cleans (gateway : Gateway) (websocket : ConnectionId) (roomId : RoomId) : Prop :=
  ∃ phase, gateway.phase websocket = some phase ∧ phase.cleans? = some roomId

/-- Nobody starts a room, and no earlier start of it can still succeed. -/
structure Free (gateway : Gateway) (roomId : RoomId) : Prop where
  unclaimed : ∀ websocket, ¬ gateway.Claims websocket roomId
  failed : ∀ start, ¬ gateway.service.Open start roomId

section Loops

variable {gateway : Gateway} {websocket : ConnectionId} {old : SocketPhase}

/-- A phase after a loop has gone on. -/
theorem of_phase_setPhase (at_ : gateway.phase websocket = some old) {new phase : SocketPhase}
    {other : ConnectionId} (here : (gateway.setPhase websocket new).phase other = some phase) :
    other = websocket ∧ phase = new ∨ other ≠ websocket ∧ gateway.phase other = some phase := by
  rw [phase_setPhase at_] at here
  split at here
  · next same => exact .inl ⟨same.symm, (Option.some.inj here).symm⟩
  · next distinct => exact .inr ⟨Ne.symm distinct, here⟩

theorem cleans_setPhase (at_ : gateway.phase websocket = some old) (new : SocketPhase)
    {other : ConnectionId} {roomId : RoomId} (cleans : gateway.Cleans other roomId) :
    (gateway.setPhase websocket new).Cleans other roomId ∨
      other = websocket ∧ old.cleans? = some roomId := by
  obtain ⟨phase, here, own⟩ := cleans
  by_cases same : websocket = other
  · subst same
    rw [at_, Option.some.injEq] at here
    exact .inr ⟨rfl, here ▸ own⟩
  · exact .inl ⟨phase, by rw [phase_setPhase at_, if_neg same, here], own⟩

/-- Nobody claims an unknown room. -/
theorem Unknown.free {roomId : RoomId} (unknown : gateway.Unknown roomId) :
    gateway.Free roomId where
  unclaimed := by
    rintro other ⟨phase, here, own⟩
    obtain ⟨connection, found, rfl⟩ := Option.map_eq_some_iff.mp here
    exact (unknown.loops connection (List.mem_of_getElem? found)).1 own
  failed := by
    rintro start ⟨task, found, room, -⟩
    exact unknown.starts task (List.mem_of_getElem? found) room

end Loops

end Gateway

end KungFuChess
