import KungFuChess.Library.Register
import KungFuChess.Library.Trace
import KungFuChess.Network.Reencoding
import Mathlib.Data.Finset.Max

/-!
# The game state a client keeps

`ClientGameState` stores one snapshot under a lock and decides for every message
whether its snapshot replaces the stored one. Late, doubled and reordered
snapshots are told by their server time; at the same time a snapshot may still
announce that the players are ready or that the game is over. A board that is
ready and holds pieces is given up for an empty one only at the end of the game.

On ready boards with pieces the decision is that of a register keyed by the
server time, and the stored snapshot converges.
-/

set_option autoImplicit false

namespace KungFuChess

structure ClientGameState where
  currentSnapshot : GameStateSnapshot := {}
  initialized : Bool := false
  deriving DecidableEq, Repr

namespace ClientGameState

/-! ## Applying a message -/

/-- The checks of `applyMessage` against the stored snapshot: the new one is
older, no news at the same time, no longer ready, or an emptied board. -/
def rejects (stored arriving : GameStateSnapshot) : Bool :=
  arriving.serverTimeMs < stored.serverTimeMs ||
    (arriving.serverTimeMs = stored.serverTimeMs &&
      !(!stored.playersReady && arriving.playersReady) &&
      !(!stored.gameOver && arriving.gameOver)) ||
    (stored.playersReady && !arriving.playersReady) ||
    (stored.playersReady && !stored.pieces.isEmpty && arriving.pieces.isEmpty &&
      !arriving.gameOver)

/-- The flag tells whether the snapshot was stored. -/
def applyMessage (state : ClientGameState) (message : Message) : Bool × ClientGameState :=
  if !message.hasSnapshot then (false, state)
  else if state.initialized && rejects state.currentSnapshot message.snapshot then (false, state)
  else (true, { currentSnapshot := message.snapshot, initialized := true })

/-- The state after one message. -/
def apply (state : ClientGameState) (message : Message) : ClientGameState :=
  (state.applyMessage message).2

/-- The state of a client after the messages it received so far. -/
def afterMessages (messages : List Message) : ClientGameState := Trace.run apply {} messages

theorem afterMessages_append (earlier later : List Message) :
    afterMessages (earlier ++ later) = Trace.run apply (afterMessages earlier) later :=
  Trace.run_append apply {} earlier later

theorem apply_rejected {state : ClientGameState} {message : Message}
    (rejected : message.hasSnapshot = false ∨
      state.initialized = true ∧ rejects state.currentSnapshot message.snapshot = true) :
    state.apply message = state := by
  unfold apply applyMessage
  rcases rejected with bare | ⟨initialized, refused⟩
  · simp only [bare, Bool.not_false, if_true]
  · simp only [initialized, refused, Bool.and_self, if_true, ite_self]

theorem apply_accepted {state : ClientGameState} {message : Message}
    (sent : message.hasSnapshot = true)
    (accepted : state.initialized = true →
      rejects state.currentSnapshot message.snapshot = false) :
    state.apply message = { currentSnapshot := message.snapshot, initialized := true } := by
  unfold apply applyMessage
  cases initialized : state.initialized with
  | false => simp only [sent, Bool.not_true, Bool.false_eq_true, if_false, Bool.false_and]
  | true =>
      simp only [sent, accepted initialized, Bool.not_true, Bool.false_eq_true, if_false,
        Bool.and_false]

/-- **What one message can do**: nothing, or store its snapshot past the checks. -/
theorem apply_cases (state : ClientGameState) (message : Message) :
    state.apply message = state ∨
      (message.hasSnapshot = true ∧
        (state.initialized = true → rejects state.currentSnapshot message.snapshot = false) ∧
        state.apply message = { currentSnapshot := message.snapshot, initialized := true }) := by
  cases sent : message.hasSnapshot with
  | false => exact .inl (apply_rejected (.inl sent))
  | true =>
      by_cases refused : state.initialized = true ∧
          rejects state.currentSnapshot message.snapshot = true
      · exact .inl (apply_rejected (.inr refused))
      · have passed : state.initialized = true →
            rejects state.currentSnapshot message.snapshot = false := fun initialized =>
          Bool.eq_false_iff.mpr fun rejected => refused ⟨initialized, rejected⟩
        exact .inr ⟨rfl, passed, apply_accepted sent passed⟩

/-- What the checks leave: the time is as late, a ready state stays ready, and
pieces are given up only at the end of the game. -/
theorem of_not_rejects {stored arriving : GameStateSnapshot}
    (accepted : rejects stored arriving = false) :
    stored.serverTimeMs ≤ arriving.serverTimeMs ∧
      (stored.playersReady = true → arriving.playersReady = true) ∧
      (stored.playersReady = true → stored.pieces ≠ [] → arriving.pieces = [] →
        arriving.gameOver = true) := by
  simp only [rejects, Bool.or_eq_false_iff] at accepted
  obtain ⟨⟨⟨notOlder, _⟩, ready⟩, board⟩ := accepted
  refine ⟨not_lt.mp (of_decide_eq_false notOlder), fun wasReady => ?_,
    fun wasReady held empty => ?_⟩
  · simpa only [wasReady, Bool.true_and, Bool.not_eq_false'] using ready
  · simpa only [wasReady, empty, List.isEmpty_eq_false_iff.mpr held, List.isEmpty_nil,
      Bool.not_false, Bool.and_true, Bool.true_and, Bool.not_eq_false'] using board

/-- **No client receives a negative time**: the reader refuses it. -/
theorem serverTime_of_received {json : JsonText.Text} {message : Message}
    (received : Protocol.deserialize json = .ok message) : 0 ≤ message.snapshot.serverTimeMs := by
  simp only [Protocol.deserialize, Protocol.requireNonNegative, Except.bind_eq_ok,
    Protocol.require_eq_ok] at received
  obtain ⟨_, -, _, -, _, -, _, -, _, -, _, -, _, -, _, -, _, -, _, -, _, -, _, -, _, -, _, -, _, -,
    _, -, _, -, hasSnapshot, -, _, -, _, -, snapshot, read, same⟩ := received
  cases same
  cases hasSnapshot with
  | false =>
      cases read
      exact le_rfl
  | true =>
      obtain ⟨object, -, objectRead⟩ := Except.bind_eq_ok.mp read
      simp only [Protocol.readSnapshot, Protocol.requireNonNegative, Except.bind_eq_ok,
        Protocol.require_eq_ok] at objectRead
      obtain ⟨_, -, _, -, _, -, _, -, _, -, _, -, _, -, _, -, _, time, _, -, _, -, _, -, _, -, _, -,
        _, -, _, -, same⟩ := objectRead
      cases same
      exact time

/-! ## What never goes back -/

/-- The order a stored snapshot only moves up in. -/
structure Later (earlier later : ClientGameState) : Prop where
  initialized : earlier.initialized = true → later.initialized = true
  time : earlier.initialized = true →
    earlier.currentSnapshot.serverTimeMs ≤ later.currentSnapshot.serverTimeMs
  ready : earlier.currentSnapshot.playersReady = true → later.currentSnapshot.playersReady = true

/-- A client that stores nothing shows the default snapshot. -/
def Blank (state : ClientGameState) : Prop :=
  state.initialized = false → state.currentSnapshot = {}

theorem blank_apply {state : ClientGameState} (message : Message) (blank : Blank state) :
    Blank (state.apply message) := by
  rcases apply_cases state message with same | ⟨_, _, stored⟩
  · rw [same]
    exact blank
  · rw [stored]
    exact nofun

theorem blank_afterMessages (messages : List Message) : Blank (afterMessages messages) :=
  Trace.run_invariant (motive := Blank) (fun _ message => blank_apply message) messages
    fun _ => rfl

theorem later_refl (state : ClientGameState) : Later state state :=
  ⟨id, fun _ => le_rfl, id⟩

theorem later_trans {first second third : ClientGameState} (before : Later first second)
    (after : Later second third) : Later first third where
  initialized := fun held => after.initialized (before.initialized held)
  time := fun held => le_trans (before.time held) (after.time (before.initialized held))
  ready := fun held => after.ready (before.ready held)

/-- One message moves the stored snapshot up. -/
theorem later_apply {state : ClientGameState} (blank : Blank state) (message : Message) :
    Later state (state.apply message) := by
  rcases apply_cases state message with same | ⟨_, passed, stored⟩
  · rw [same]
    exact later_refl state
  · rw [stored]
    refine ⟨fun _ => rfl, fun held => (of_not_rejects (passed held)).1, fun ready => ?_⟩
    cases initialized : state.initialized with
    | true => exact (of_not_rejects (passed initialized)).2.1 ready
    | false =>
        rw [blank initialized] at ready
        cases ready

/-- So does every list of messages. -/
theorem later_run (messages : List Message) {state : ClientGameState} (blank : Blank state) :
    Later state (Trace.run apply state messages) := by
  have moved : Blank (Trace.run apply state messages) ∧
      Later state (Trace.run apply state messages) :=
    Trace.run_invariant (motive := fun reached => Blank reached ∧ Later state reached)
      (fun reached message ⟨blankReached, later⟩ => ⟨blank_apply message blankReached,
        later_trans later (later_apply blankReached message)⟩)
      messages ⟨blank, later_refl state⟩
  exact moved.2

/-! ## The register of ready boards -/

/-- A message with the snapshot of a game that both players are in. -/
def ReadyBoard (snapshot : GameStateSnapshot) : Prop :=
  snapshot.playersReady = true ∧ snapshot.pieces ≠ []

/-- The stored snapshot, when there is one. -/
def stored (state : ClientGameState) : Option GameStateSnapshot :=
  if state.initialized then some state.currentSnapshot else none

/-- Between ready boards, apart from one server time that two of them share, only
the times decide. -/
theorem rejects_ready {current arriving : GameStateSnapshot} (ready : ReadyBoard current)
    (readyNext : ReadyBoard arriving)
    (apart : arriving.serverTimeMs = current.serverTimeMs → arriving = current) :
    rejects current arriving = !decide (current.serverTimeMs < arriving.serverTimeMs) := by
  rcases lt_trichotomy current.serverTimeMs arriving.serverTimeMs with newer | same | older
  · simp only [rejects, ready.1, readyNext.1, newer, List.isEmpty_eq_false_iff.mpr readyNext.2,
      not_lt.mpr newer.le, newer.ne', decide_false, decide_true, Bool.false_and, Bool.and_false,
      Bool.or_false, Bool.not_true]
  · obtain rfl := apart same.symm
    simp only [rejects, ready.1, lt_irrefl, decide_false, decide_true, Bool.not_false,
      Bool.not_true, Bool.false_and, Bool.true_and, Bool.and_true, Bool.not_and_self,
      Bool.or_true, Bool.true_or]
  · simp only [rejects, older, not_lt.mpr older.le, decide_true, decide_false, Bool.true_or,
      Bool.not_false]

/-- On ready boards the client is the register keyed by the server time. -/
theorem stored_apply {state : ClientGameState} {message : Message}
    (sent : message.hasSnapshot = true) (readyNext : ReadyBoard message.snapshot)
    (held : ∀ current ∈ state.stored, ReadyBoard current ∧
      (message.snapshot.serverTimeMs = current.serverTimeMs → message.snapshot = current)) :
    (state.apply message).stored =
      Register.latest GameStateSnapshot.serverTimeMs state.stored message.snapshot := by
  cases initialized : state.initialized with
  | false =>
      rw [apply_accepted sent (by simp only [initialized, Bool.false_eq_true, false_implies])]
      simp only [stored, initialized, Bool.false_eq_true, if_false, if_true, Register.latest_none]
  | true =>
      have kept : state.stored = some state.currentSnapshot := by
        simp only [stored, initialized, if_true]
      obtain ⟨ready, apart⟩ := held _ kept
      have checked := rejects_ready ready readyNext apart
      rw [kept, Register.latest_some]
      split
      · next newer =>
          rw [apply_accepted sent fun _ => by simp only [checked, newer, decide_true,
            Bool.not_true]]
          rfl
      · next notNewer =>
          rw [apply_rejected (.inr ⟨initialized, by
            simp only [checked, notNewer, decide_false, Bool.not_false]⟩), kept]

/-- The snapshots that messages carry. -/
def sentSnapshots (messages : List Message) : List GameStateSnapshot :=
  (messages.filter (·.hasSnapshot)).map (·.snapshot)

theorem mem_sentSnapshots {messages : List Message} {snapshot : GameStateSnapshot} :
    snapshot ∈ sentSnapshots messages ↔
      ∃ message ∈ messages, message.hasSnapshot = true ∧ message.snapshot = snapshot := by
  simp only [sentSnapshots, List.mem_map, List.mem_filter, and_assoc]

/-- A run over ready boards is a run of the register over their snapshots. -/
theorem stored_run (boards : Set GameStateSnapshot) (ready : ∀ board ∈ boards, ReadyBoard board)
    (apart : boards.InjOn GameStateSnapshot.serverTimeMs) :
    ∀ (messages : List Message) (state : ClientGameState),
      (∀ current ∈ state.stored, current ∈ boards) →
      (∀ snapshot ∈ sentSnapshots messages, snapshot ∈ boards) →
      (Trace.run apply state messages).stored =
        (sentSnapshots messages).foldl (Register.latest GameStateSnapshot.serverTimeMs)
          state.stored
  | [], _, _, _ => rfl
  | message :: rest, state, held, arriving => by
      rw [Trace.run_cons]
      cases sent : message.hasSnapshot with
      | false =>
          have skipped : sentSnapshots (message :: rest) = sentSnapshots rest := by
            simp only [sentSnapshots, List.filter_cons, sent, Bool.false_eq_true, if_false]
          rw [apply_rejected (.inl sent), skipped]
          exact stored_run boards ready apart rest state held (skipped ▸ arriving)
      | true =>
          have added : sentSnapshots (message :: rest) =
              message.snapshot :: sentSnapshots rest := by
            simp only [sentSnapshots, List.filter_cons, sent, if_true, List.map_cons]
          rw [added] at arriving ⊢
          have among := arriving _ (List.mem_cons_self ..)
          have register := stored_apply sent (ready _ among) fun current found =>
            ⟨ready _ (held current found), fun same => apart among (held current found) same⟩
          rw [List.foldl_cons, ← register]
          refine stored_run boards ready apart rest (state.apply message) (fun current found => ?_)
            fun snapshot member => arriving snapshot (List.mem_cons_of_mem _ member)
          rcases apply_cases state message with same | ⟨_, _, replaced⟩
          · exact held current (same ▸ found)
          · rw [replaced] at found
            cases found
            exact among

theorem eq_of_stored {state : ClientGameState} {snapshot : GameStateSnapshot}
    (found : state.stored = some snapshot) : state = ⟨snapshot, true⟩ := by
  obtain ⟨current, initialized⟩ := state
  cases initialized with
  | false => cases found
  | true =>
      cases found
      rfl

/-! ## Convergence -/

/-- From the first stored snapshot on the time never decreases; it does not fall below the
time of the default snapshot either when no time is negative. -/
theorem serverTime_mono (earlier later : List Message)
    (timely : (afterMessages earlier).initialized = true ∨
      ∀ message ∈ later, message.hasSnapshot = true → 0 ≤ message.snapshot.serverTimeMs) :
    (afterMessages earlier).currentSnapshot.serverTimeMs ≤
      (afterMessages (earlier ++ later)).currentSnapshot.serverTimeMs := by
  have blank := blank_afterMessages earlier
  rw [afterMessages_append]
  rcases timely with initialized | counts
  · exact (later_run later blank).time initialized
  · cases initialized : (afterMessages earlier).initialized with
    | true => exact (later_run later blank).time initialized
    | false =>
        have nonneg : ∀ message ∈ later, ∀ state : ClientGameState,
            0 ≤ state.currentSnapshot.serverTimeMs →
            0 ≤ (state.apply message).currentSnapshot.serverTimeMs := by
          intro message member state start
          rcases apply_cases state message with same | ⟨sent, _, replaced⟩
          · rw [same]
            exact start
          · rw [replaced]
            exact counts message member sent
        rw [blank initialized]
        refine List.foldlRecOn later apply (motive := fun state =>
          0 ≤ state.currentSnapshot.serverTimeMs) ?_ ?_
        · rw [blank initialized]
        · exact fun state start message member => nonneg message member state start

/-- **The client state converges.** Its time and its readiness never go back, a ready board
with pieces gives way to an empty one only at the end of the game, and of ready boards
with different times, in whatever order and however often they arrive, the latest stays. -/
theorem afterMessages_converge :
    (∀ earlier later : List Message,
      (((afterMessages earlier).initialized = true ∨
        ∀ message ∈ later, message.hasSnapshot = true → 0 ≤ message.snapshot.serverTimeMs) →
        (afterMessages earlier).currentSnapshot.serverTimeMs ≤
          (afterMessages (earlier ++ later)).currentSnapshot.serverTimeMs) ∧
      ((afterMessages earlier).currentSnapshot.playersReady = true →
        (afterMessages (earlier ++ later)).currentSnapshot.playersReady = true)) ∧
    (∀ (messages : List Message) (message : Message),
      ReadyBoard (afterMessages messages).currentSnapshot →
      (afterMessages (messages ++ [message])).currentSnapshot.pieces = [] →
      message.hasSnapshot = true ∧ message.snapshot.gameOver = true ∧
        (afterMessages (messages ++ [message])).currentSnapshot = message.snapshot) ∧
    (∀ (boards : Finset GameStateSnapshot) (deliveries : List Message),
      boards.Nonempty → (∀ board ∈ boards, ReadyBoard board) →
      (boards : Set GameStateSnapshot).InjOn GameStateSnapshot.serverTimeMs →
      (∀ board, board ∈ boards ↔
        ∃ message ∈ deliveries, message.hasSnapshot = true ∧ message.snapshot = board) →
      ∃ latest ∈ boards, (∀ board ∈ boards, board.serverTimeMs ≤ latest.serverTimeMs) ∧
        afterMessages deliveries = { currentSnapshot := latest, initialized := true }) := by
  refine ⟨fun earlier later => ⟨serverTime_mono earlier later, fun ready => ?_⟩,
    fun messages message board emptied => ?_,
    fun boards deliveries nonempty ready apart delivered => ?_⟩
  · rw [afterMessages_append]
    exact (later_run later (blank_afterMessages earlier)).ready ready
  · rw [afterMessages_append, Trace.run_cons, Trace.run_nil]
      at emptied ⊢
    rcases apply_cases (afterMessages messages) message with same | ⟨sent, passed, replaced⟩
    · rw [same] at emptied
      exact absurd emptied board.2
    · have initialized : (afterMessages messages).initialized = true := by
        by_contra fresh
        have shown := board.1
        rw [blank_afterMessages messages (Bool.eq_false_iff.mpr fresh)] at shown
        cases shown
      rw [replaced] at emptied ⊢
      exact ⟨sent, (of_not_rejects (passed initialized)).2.2 board.1 board.2 emptied, rfl⟩
  · obtain ⟨latest, member, bound⟩ := boards.exists_max_image GameStateSnapshot.serverTimeMs
      nonempty
    have arrived : ∀ board, board ∈ sentSnapshots deliveries ↔ board ∈ boards := fun board =>
      mem_sentSnapshots.trans (delivered board).symm
    have register := stored_run boards ready apart deliveries {} nofun fun board sent =>
      (arrived board).mp sent
    have converged := Register.foldl_latest_eq GameStateSnapshot.serverTimeMs
      ((arrived latest).mpr member) (fun board sent => bound board ((arrived board).mp sent))
      fun board sent same => apart ((arrived board).mp sent) member same
    exact ⟨latest, member, bound, eq_of_stored (register.trans converged)⟩

/-- A ready board with one piece, and the message that delivers a snapshot. -/
def boardAt (time : Int) : GameStateSnapshot :=
  { serverTimeMs := time, playersReady := true, pieces := [{}] }

def delivery (snapshot : GameStateSnapshot) : Message :=
  { type := .gameStateUpdated, hasSnapshot := true, snapshot := snapshot }

/-- A late board overtakes an early one that is delivered twice, and the game's end clears it. -/
theorem afterMessages_converge_twoBoards :
    ((afterMessages [delivery (boardAt 5)]).initialized = true ∧
      (afterMessages [delivery (boardAt 5)]).currentSnapshot.serverTimeMs ≤
        (afterMessages ([delivery (boardAt 5)] ++
          [delivery (boardAt 9), delivery (boardAt 5)])).currentSnapshot.serverTimeMs) ∧
    (delivery { gameOver := true, playersReady := true, serverTimeMs := 7 }).snapshot.gameOver =
      true ∧
    ∃ latest ∈ ({boardAt 5, boardAt 9} : Finset GameStateSnapshot),
      (∀ board ∈ ({boardAt 5, boardAt 9} : Finset GameStateSnapshot),
        board.serverTimeMs ≤ latest.serverTimeMs) ∧
      afterMessages [delivery (boardAt 5), delivery (boardAt 9), delivery (boardAt 5)] =
        { currentSnapshot := latest, initialized := true } := by
  refine ⟨⟨rfl, (afterMessages_converge.1 _ _).1 (.inl rfl)⟩,
    (afterMessages_converge.2.1 [delivery (boardAt 5)]
      (delivery { gameOver := true, playersReady := true, serverTimeMs := 7 })
      ⟨rfl, List.cons_ne_nil _ _⟩ rfl).2.1,
    afterMessages_converge.2.2 _ _ (Finset.insert_nonempty ..) ?_ ?_ ?_⟩
  · intro board member
    rcases Finset.mem_insert.mp member with rfl | member
    · exact ⟨rfl, List.cons_ne_nil _ _⟩
    · obtain rfl := Finset.mem_singleton.mp member
      exact ⟨rfl, List.cons_ne_nil _ _⟩
  · intro first firstMember second secondMember same
    simp only [Finset.coe_insert, Finset.coe_singleton, Set.mem_insert_iff,
      Set.mem_singleton_iff] at firstMember secondMember
    rcases firstMember with rfl | rfl <;> rcases secondMember with rfl | rfl
    · rfl
    · exact absurd same (by decide)
    · exact absurd same (by decide)
    · rfl
  · intro board
    simp only [Finset.mem_insert, Finset.mem_singleton, List.mem_cons, List.not_mem_nil, or_false,
      exists_eq_or_imp, exists_eq_left, delivery, true_and, eq_comm (a := board)]
    tauto

end ClientGameState

end KungFuChess
