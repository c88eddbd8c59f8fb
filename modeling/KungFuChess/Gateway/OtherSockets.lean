import KungFuChess.Gateway.Router

/-!
# Closing one of several web sockets

A user may have several web sockets open. A room belongs to the web socket it was
entered with, and closing another one leaves it alone. The entries of the play queue
are kept by user: the loop that ends leaves the queue for its user, whoever of the
user's web sockets made the entry.
-/

set_option autoImplicit false

namespace KungFuChess

/-- The loop that goes on in a step. -/
def GatewayStep.socket? : GatewayStep → Option ConnectionId
  | .connect .. | .expire _ | .service _ | .matchEnded _ => none
  | .createRoom websocket .. | .joinRoom websocket .. | .joinHiddenRoom websocket ..
  | .search websocket | .findMatch websocket _ | .matchPlayers websocket ..
  | .cancelFindMatch websocket | .startMatch websocket | .startEnds websocket
  | .inform websocket | .drop websocket | .leaveQueue websocket | .removeConnection websocket
  | .cleanupRoom websocket _ | .cleanupEnds websocket | .notify websocket => some websocket

namespace Gateway

/-! ## What a step does to the loops and to the queue -/

/-- The queue is left alone, or takes a step. -/
def QueueMoves (before after : PlayQueue) : Prop :=
  after = before ∨ ∃ input, after = before.step input

theorem QueueMoves.same (queue : PlayQueue) : QueueMoves queue queue := .inl rfl

/-- What a step does to the loops and to the play queue. -/
structure Turns (before : Gateway) (input : GatewayStep) (after : Gateway) : Prop where
  loops : after.connections = before.connections ∨
    (∃ connection, after.connections = before.connections ++ [connection]) ∨
    ∃ websocket phase, input.socket? = some websocket ∧
      after.connections = before.connections.modify websocket fun connection =>
        { connection with phase := phase }
  queue : QueueMoves before.queue after.queue

namespace Turns

variable {gateway : Gateway} {input : GatewayStep} {websocket : ConnectionId}

/-- Nothing happens to the loops. -/
theorem keep {middle : Gateway} (loops : middle.connections = gateway.connections)
    (queue : QueueMoves gateway.queue middle.queue) : Turns gateway input middle :=
  ⟨.inl loops, queue⟩

theorem idle : Turns gateway input gateway := .keep rfl (.same _)

/-- A loop goes on to another phase. -/
theorem turn {after : Gateway} {phase : SocketPhase} (own : input.socket? = some websocket)
    (loops : after.connections = gateway.connections.modify websocket fun connection =>
      { connection with phase := phase })
    (queue : QueueMoves gateway.queue after.queue) : Turns gateway input after :=
  ⟨.inr (.inr ⟨websocket, phase, own, loops⟩), queue⟩

theorem enter (own : input.socket? = some websocket)
    {result : Except RoomOperationError (GameRoom × RoomManager)} {undo : StartUndo} :
    Turns gateway input (gateway.enter websocket result undo) := by
  cases result with
  | ok done => exact .turn own rfl (.same _)
  | error error => exact .turn own rfl (.same _)

theorem undoStart (own : input.socket? = some websocket) {roomId : RoomId}
    {error : MatchOperationError} {undo : StartUndo} :
    Turns gateway input (gateway.undoStart websocket roomId error undo) := by
  cases undo with
  | rollbackJoin guestId => exact .turn own rfl (.same _)
  | discardRoom opponent => exact .turn own rfl (.same _)

end Turns

/-- **A step turns at most its own loop.** -/
theorem step_turns (updateRatings : Int → Int → Int × Int) (gateway : Gateway)
    (input : GatewayStep) : gateway.Turns input (gateway.step updateRatings input) := by
  cases input with
  | connect userId username => exact ⟨.inr (.inl ⟨_, rfl⟩), .same _⟩
  | createRoom websocket rating name visibility roomId draws =>
      simp only [step]
      split
      · exact .keep rfl (.same _)
      · exact .idle
  | joinRoom websocket rating roomId =>
      simp only [step]
      split
      · exact .enter rfl
      · exact .idle
  | joinHiddenRoom websocket rating code =>
      simp only [step]
      split
      · exact .enter rfl
      · exact .idle
  | search websocket =>
      simp only [step]
      split
      · split
        · exact .idle
        · exact .turn rfl rfl (.same _)
      · exact .idle
  | findMatch websocket rating =>
      simp only [step]
      split
      · next userId username _ =>
          have moves : ∀ found, gateway.queue.findMatch ⟨userId, username, websocket, rating⟩ =
              found → QueueMoves gateway.queue found.2 := by
            rintro _ rfl
            exact .inr ⟨.findMatch _, rfl⟩
          split
          · next found => exact .turn rfl rfl (moves _ found)
          · next found => exact .turn rfl rfl (moves _ found)
      · exact .idle
  | matchPlayers websocket roomId suffix =>
      simp only [step]
      split
      · exact .enter rfl
      · exact .idle
  | cancelFindMatch websocket =>
      simp only [step]
      split
      · next userId _ _ => exact .keep rfl (.inr ⟨.leave userId, rfl⟩)
      · exact .idle
  | expire task => exact .keep rfl (.inr ⟨.expire task, rfl⟩)
  | startMatch websocket =>
      simp only [step]
      split
      · exact .turn rfl rfl (.same _)
      · exact .idle
  | service input =>
      simp only [step]
      split
      · exact .keep rfl (.same _)
      · exact .idle
  | startEnds websocket =>
      simp only [step]
      split
      · split
        · exact .turn rfl rfl (.same _)
        · exact .undoStart rfl
        · exact .turn rfl rfl (.same _)
        · exact .idle
      · exact .idle
  | inform websocket =>
      simp only [step]
      split
      · exact .turn rfl rfl (.same _)
      · exact .idle
  | drop websocket =>
      simp only [step]
      split
      · exact .turn rfl rfl (.same _)
      · exact .idle
  | leaveQueue websocket =>
      simp only [step]
      split
      · next userId _ _ => exact .turn rfl rfl (.inr ⟨.leave userId, rfl⟩)
      · exact .idle
  | removeConnection websocket =>
      simp only [step]
      split
      · exact .turn rfl rfl (.same _)
      · exact .idle
  | cleanupRoom websocket nowMs =>
      simp only [step]
      split
      · exact .turn rfl rfl (.same _)
      · exact .idle
  | cleanupEnds websocket =>
      simp only [step]
      split
      · split
        · exact .turn rfl rfl (.same _)
        · exact .turn rfl rfl (.same _)
        · exact .idle
      · exact .idle
  | notify websocket =>
      simp only [step]
      split
      · exact .turn rfl rfl (.same _)
      · exact .turn rfl rfl (.same _)
      · exact .idle
  | matchEnded ending =>
      simp only [step]
      split
      · exact .keep rfl (.same _)
      · exact .idle

/-- A loop stays where it is while the others go on. -/
theorem connection_step (updateRatings : Int → Int → Int × Int) {gateway : Gateway}
    {input : GatewayStep} {websocket : ConnectionId} {connection : Connection}
    (found : gateway.connections[websocket]? = some connection)
    (other : input.socket? ≠ some websocket) :
    (gateway.step updateRatings input).connections[websocket]? = some connection := by
  have turns := gateway.step_turns updateRatings input
  generalize gateway.step updateRatings input = after at turns ⊢
  obtain ⟨same | ⟨new, appended⟩ | ⟨turned, phase, own, modified⟩, -⟩ := turns
  · rw [same, found]
  · obtain ⟨below, -⟩ := List.getElem?_eq_some_iff.mp found
    rw [appended, List.getElem?_append_left below, found]
  · have distinct : turned ≠ websocket := by
      rintro rfl
      exact other own
    rw [modified, List.getElem?_modify_ne _ _ distinct, found]

end Gateway

/-! ## Entries that are gone -/

namespace PlayQueue

variable {queue : PlayQueue} {entry : QueueEntry}

theorem nextTask_step (queue : PlayQueue) (input : QueueStep) :
    queue.nextTask ≤ (queue.step input).nextTask := by
  cases input with
  | findMatch user =>
      simp only [step, findMatch]
      split
      · exact le_rfl
      · split
        · exact le_rfl
        · exact Nat.le_succ _
  | expire task =>
      simp only [step, expire]
      split <;> exact le_rfl
  | leave userId =>
      simp only [step, leave]
      split <;> exact le_rfl

/-- An entry that the queue had once, and has no more. -/
structure Spent (queue : PlayQueue) (entry : QueueEntry) : Prop where
  absent : entry ∉ queue.waiting
  old : entry.timeoutTask < queue.nextTask

/-- What is gone stays gone: the entries that come have a new timer. -/
theorem Spent.step (spent : queue.Spent entry) (input : QueueStep) :
    (queue.step input).Spent entry := by
  refine ⟨?_, spent.old.trans_le (queue.nextTask_step input)⟩
  have popped : ∀ userId, entry ∉ (queue.pop userId).waiting := fun userId member =>
    spent.absent (List.mem_of_mem_filter member)
  cases input with
  | findMatch user =>
      simp only [PlayQueue.step, findMatch]
      split
      · exact spent.absent
      · split
        · exact popped _
        · intro member
          rcases List.mem_append.mp member with before | new
          · exact spent.absent before
          · have timer := spent.old
            rw [List.mem_singleton.mp new] at timer
            exact lt_irrefl _ timer
  | expire task =>
      simp only [PlayQueue.step, expire]
      split
      · exact spent.absent
      · exact popped _
  | leave userId =>
      simp only [PlayQueue.step, leave]
      split
      · exact spent.absent
      · exact popped _

/-- Leaving takes whatever entry the user has. -/
theorem spent_leave (old : entry.timeoutTask < queue.nextTask) :
    (queue.leave entry.user.userId).2.Spent entry := by
  refine ⟨?_, old.trans_le (queue.nextTask_step (.leave entry.user.userId))⟩
  rw [leave]
  split
  · next none =>
      intro member
      exact List.find?_eq_none.mp none entry member (decide_eq_true rfl)
  · intro member
    exact of_decide_eq_true (List.mem_filter.mp member).2 rfl

end PlayQueue

namespace Gateway

section Runs

variable (updateRatings : Int → Int → Int × Int) {gateway : Gateway} {entry : QueueEntry}

/-- What the steps of the queue preserve, the steps of the gateway preserve. -/
theorem queue_invariant {motive : PlayQueue → Prop}
    (preserved : ∀ queue input, motive queue → motive (PlayQueue.step queue input))
    (inputs : List GatewayStep) (holds : motive gateway.queue) :
    motive (Trace.run (step updateRatings) gateway inputs).queue := by
  refine Trace.run_invariant (motive := fun reached : Gateway => motive reached.queue)
    (fun reached input holds => ?_) inputs holds
  rcases (reached.step_turns updateRatings input).queue with same | ⟨taken, moved⟩
  · rw [same]
    exact holds
  · rw [moved]
    exact preserved _ taken holds

theorem connection_run {websocket : ConnectionId} {connection : Connection}
    {inputs : List GatewayStep} : ∀ {gateway : Gateway},
    gateway.connections[websocket]? = some connection →
    (∀ input ∈ inputs, input.socket? ≠ some websocket) →
    (Trace.run (step updateRatings) gateway inputs).connections[websocket]? = some connection := by
  induction inputs with
  | nil => exact fun found _ => found
  | cons input rest ih =>
      intro gateway found others
      exact ih (connection_step updateRatings found (others input List.mem_cons_self))
        fun other member => others other (List.mem_cons_of_mem _ member)

end Runs

/-- The loop of a web socket has ended, and its user searches with another one that is
open. -/
structure SearchesElsewhere (gateway : Gateway) (closed : ConnectionId) (entry : QueueEntry) :
    Prop where
  ended : ∃ connection, gateway.connections[closed]? = some connection ∧
    connection.phase = .leaving ∧ connection.userId = entry.user.userId
  waits : entry ∈ gateway.queue.waiting
  elsewhere : entry.user.websocket ≠ closed
  live : gateway.phase entry.user.websocket = some .receiving

/-- **Closing one web socket cancels the search of another.** After any history, a loop
that has ended comes to its cleanup, with anything the others do before and after: an
entry that another open web socket of its user had made is out of the queue for good. -/
theorem leaveQueue_cancels (updateRatings : Int → Int → Int × Int)
    (allocator : ShardPoolAllocator) (store : RatingStore) (history : List GatewayStep)
    (closed : ConnectionId) (entry : QueueEntry)
    (searches : (Trace.run (step updateRatings) (opened allocator store) history).SearchesElsewhere
      closed entry)
    (between later : List GatewayStep)
    (others : ∀ input ∈ between, input.socket? ≠ some closed) :
    entry ∉ (Trace.run (step updateRatings) (opened allocator store)
      (history ++ (between ++ .leaveQueue closed :: later))).queue.waiting := by
  have timed : (Trace.run (step updateRatings) (opened allocator store) history).queue.Timed :=
    queue_invariant updateRatings (fun _ input timed => timed.step input) history
      ⟨rfl, fun entry none => absurd none List.not_mem_nil, List.nodup_nil⟩
  rw [Trace.run_append]
  generalize Trace.run (step updateRatings) (opened allocator store) history = reached at *
  obtain ⟨⟨userId, username, phase⟩, found, leaving, own⟩ := searches.ended
  obtain rfl : phase = .leaving := leaving
  obtain rfl : userId = entry.user.userId := own
  rw [Trace.run_append, Trace.run_cons]
  have still := connection_run updateRatings found others
  have old : entry.timeoutTask <
      (Trace.run (step updateRatings) reached between).queue.nextTask :=
    queue_invariant updateRatings (motive := fun queue => entry.timeoutTask < queue.nextTask)
      (fun queue input before => before.trans_le (queue.nextTask_step input)) between
      (timed.numbered entry searches.waits)
  generalize Trace.run (step updateRatings) reached between = middle at still old ⊢
  have spent : (middle.step updateRatings (.leaveQueue closed)).queue.Spent entry := by
    simp only [step, still]
    exact PlayQueue.spent_leave old
  exact (queue_invariant updateRatings (motive := fun queue => queue.Spent entry)
    (fun _ input spent => spent.step input) later spent).absent

/-- Ann searches with her first web socket, and her second one goes. -/
def secondGoes : List GatewayStep :=
  [.connect 1 "ann", .connect 1 "ann", .search 0, .findMatch 0 1200, .drop 1]

/-- The entry of the first web socket. -/
def annWaits : QueueEntry := ⟨⟨1, "ann", 0, 1200⟩, 0⟩

theorem secondGoes_searches :
    (Trace.run (step Prod.mk) oneShard secondGoes).SearchesElsewhere 1 annWaits where
  ended := ⟨⟨1, "ann", .leaving⟩, rfl, rfl, rfl⟩
  waits := by decide +kernel
  elsewhere := by decide
  live := rfl

theorem leaveQueue_cancels_secondGoes :
    annWaits ∉ (Trace.run (step Prod.mk) oneShard
      (secondGoes ++ ([.connect 2 "bob"] ++ .leaveQueue 1 :: []))).queue.waiting :=
  leaveQueue_cancels Prod.mk _ _ secondGoes 1 annWaits secondGoes_searches [.connect 2 "bob"] []
    (by decide)

/-- Ann's first web socket is open, and she is not in the queue any more. -/
theorem secondGoes_cancelled :
    (Trace.run (step Prod.mk) oneShard secondGoes).SearchesElsewhere 1 annWaits ∧
      annWaits ∉ (Trace.run (step Prod.mk) oneShard
        (secondGoes ++ [.leaveQueue 1])).queue.waiting :=
  ⟨secondGoes_searches, by decide +kernel⟩

end Gateway

end KungFuChess
