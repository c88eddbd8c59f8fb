import KungFuChess.Server.Sessions

/-!
# The start of a game

The thread of a client checks for two players in one section and sets `gameStarted`
in another. A session can leave its seat between the two; then a game is started
with a seat that nobody holds. This says which steps must not come in between.
-/

set_option autoImplicit false

namespace KungFuChess

namespace GameServer

/-- No thread stands between its check for two players and its exchange of `gameStarted`. -/
def NoneStarting (server : GameServer) : Prop :=
  ∀ client < server.nextClientId, server.phaseOf client ≠ some .starting

instance (server : GameServer) : Decidable server.NoneStarting :=
  inferInstanceAs (Decidable (∀ _ < _, _))

/-- A session that leaves its seat does so while no thread is starting the game. -/
def LeavesApart (server : GameServer) (client : ClientId) : Prop :=
  (∃ color, (server.seat color).player = some client) → server.NoneStarting

instance (server : GameServer) (client : ClientId) : Decidable (server.LeavesApart client) :=
  inferInstanceAs (Decidable (_ → _))

/-- The steps that leave a start block undivided: no session leaves its seat within one, and
the seats of a closed game are cleared after every start block. -/
def Undivided (server : GameServer) : ServerStep → Prop
  | .removeSession client _ => server.isConnected client = false → server.LeavesApart client
  | .finish client _ =>
      server.isConnected client = false →
        server.phaseOf client = some .greeting ∨ server.phaseOf client = some .serving →
          server.LeavesApart client
  | .clearSeats => server.loop = .clearing → server.gameStarted = false ∧ server.NoneStarting
  | _ => True

instance (server : GameServer) : ∀ step, Decidable (server.Undivided step)
  | .removeSession .. => inferInstanceAs (Decidable (_ → _))
  | .finish .. => inferInstanceAs (Decidable (_ → _ → _))
  | .clearSeats => inferInstanceAs (Decidable (_ → _ ∧ _))
  | .createSession .. | .disconnect _ | .checkPlayers _ | .exchangeStarted _ | .beginGame ..
  | .publishStarted _ | .publishEvent _ | .handleRequest .. | .updateReconnectionState _
  | .readStarted | .tick _
  | .closeGame | .closeSession | .replaceEngine | .resetPublisher => .isTrue trivial

/-- Whoever starts a game, or has started it, finds both seats held. -/
structure Paired (server : GameServer) : Prop where
  registered : server.Registered
  starting : ∀ client, server.phaseOf client = some .starting → server.Full
  started : server.gameStarted = true → server.Full

variable {server : GameServer}

/-- Clients are numbered, so it is enough to look at those below the next number. -/
theorem Registered.not_starting (registered : server.Registered) (none : server.NoneStarting)
    (client : ClientId) : server.phaseOf client ≠ some .starting := by
  intro phase
  rcases Nat.lt_or_ge client server.nextClientId with old | new
  · exact none client old phase
  · rw [phaseOf, registered.numbered client new] at phase
    cases phase

/-- Two connected players hold both seats. -/
theorem full_of_hasTwoPlayers (two : server.hasTwoPlayers = true) : server.Full := by
  rw [hasTwoPlayers, Bool.and_eq_true, Bool.not_eq_true', Bool.not_eq_true',
    decide_eq_false_iff_not,
    decide_eq_false_iff_not] at two
  have held : ∀ color, ¬ server.Vacant color → (server.seat color).player.isSome = true := by
    intro color occupied
    cases player : (server.seat color).player with
    | none =>
        refine absurd (fun client here => ?_) occupied
        rw [player] at here
        cases here
    | some client => rfl
  intro color
  cases color with
  | white => exact held _ two.1
  | black => exact held _ two.2

theorem phaseOf_setPhase (server : GameServer) (client other : ClientId) (phase : ClientPhase) :
    (server.setPhase client phase).phaseOf other =
      if other = client then (server.clients client).map fun _ => phase
      else server.phaseOf other := by
  rw [phaseOf, setPhase, clients_modifyClient]
  split
  · rw [Option.map_map]
    rfl
  · rfl

/-- A thread that moves on leaves the start block. -/
theorem starting_of_setPhase {client other : ClientId} {phase : ClientPhase}
    (past : phase ≠ .starting)
    (stands : (server.setPhase client phase).phaseOf other = some .starting) :
    server.phaseOf other = some .starting := by
  rw [phaseOf_setPhase] at stands
  split at stands
  · obtain ⟨known, -, same⟩ := Option.map_eq_some_iff.mp stands
    exact absurd same past
  · exact stands

@[simp] theorem phaseOf_disconnect (server : GameServer) (client other : ClientId) :
    (server.disconnect client).phaseOf other = server.phaseOf other := by
  rw [phaseOf, disconnect, clients_modifyClient]
  split
  · next own =>
      subst own
      rw [Option.map_map]
      rfl
  · rfl

/-- The engine of a closed game is replaced, and its end is published. -/
theorem replaceEngine_engine (server : GameServer) (wasActiveGame : Bool) :
    ∃ engine lifecyclePublisher, server.replaceEngine wasActiveGame =
      { server with
        engine := engine
        lifecyclePublisher := lifecyclePublisher
        loop := .clearing } := by
  simp only [replaceEngine]
  cases wasActiveGame with
  | true =>
      simp only [if_true, publishEnded]
      split
      · exact ⟨_, _, rfl⟩
      · exact ⟨_, _, rfl⟩
  | false => exact ⟨_, _, rfl⟩

/-- A request changes the engine only. -/
theorem handleRequest_engine (load : PieceConfigReader) (server : GameServer) (client : ClientId)
    (request : Request) (epochMs : Int) :
    ∃ engine, (server.handleRequest load client request epochMs).2 =
      { server with engine := engine } := by
  rw [handleRequest]
  split
  · exact ⟨server.engine, rfl⟩
  · split
    · exact ⟨server.engine, rfl⟩
    · split
      · exact ⟨server.engine, rfl⟩
      · exact ⟨_, rfl⟩

namespace Paired

theorem fresh : GameServer.fresh.Paired where
  registered := Registered.fresh
  starting _ phase := by cases phase
  started := Bool.noConfusion

variable (paired : server.Paired)

include paired

/-- A section that empties no seat, brings no thread into the start block and does not set
`gameStarted`. -/
theorem keep {next : GameServer} (registered : next.Registered) (full : server.Full → next.Full)
    (starting : ∀ client, next.phaseOf client = some .starting →
      server.phaseOf client = some .starting)
    (started : next.gameStarted = true → server.gameStarted = true) : next.Paired where
  registered := registered
  starting client phase := full (paired.starting client (starting client phase))
  started begun := full (paired.started (started begun))

theorem setPhase {client : ClientId} {phase : ClientPhase} (running : phase ≠ .finished)
    (past : phase ≠ .starting) : (server.setPhase client phase).Paired :=
  paired.keep (paired.registered.setPhase client running) id (fun _ => starting_of_setPhase past) id

theorem createSession (requestedToken requestedUsername newToken : String) :
    (server.createSession requestedToken requestedUsername newToken).2.Paired := by
  have registered := paired.registered.createSession requestedToken requestedUsername newToken
  have answered := server.createSession_answered requestedToken requestedUsername newToken
  generalize server.createSession requestedToken requestedUsername newToken = answer
    at answered registered
  -- whoever is seated, the thread of the new client only starts
  have seated : ∀ color reconnectToken username,
      (∀ place, (server.seat place).player.isSome = true →
        ((seatClient { server with nextClientId := server.nextClientId + 1 } color
          server.nextClientId reconnectToken username).seat place).player.isSome = true) ∧
      ∀ client, (seatClient { server with nextClientId := server.nextClientId + 1 } color
          server.nextClientId reconnectToken username).phaseOf client = some .starting →
        server.phaseOf client = some .starting := by
    intro color reconnectToken username
    refine ⟨fun place held => ?_, fun client phase => ?_⟩
    · rw [seat_seatClient]
      split
      · rfl
      · exact held
    · rw [phaseOf, clients_seatClient] at phase
      split at phase
      · cases phase
      · exact phase
  cases answered with
  | rejected type reason => exact paired.keep registered id (fun _ => id) id
  | reclaimed undisturbed unexpired valid =>
      obtain ⟨held, phases⟩ := seated server.reservedColor
        (server.seat server.reservedColor).reconnectToken
        (server.seat server.reservedColor).username
      exact paired.keep registered (fun full color => held color (full color)) phases id
  | assigned undisturbed unexpired invalid unreserved vacant first named =>
      obtain ⟨held, phases⟩ := seated _ newToken (Username.trim requestedUsername)
      exact paired.keep registered (fun full color => held color (full color)) phases id

/-- A session that leaves its seat apart from every start block. -/
theorem removeSession {client : ClientId} (nowMs : Int) (apart : server.LeavesApart client) :
    (server.removeSession client nowMs).Paired := by
  have registered := (paired.registered.removeSession client nowMs).1
  cases is : server.clients client with
  | none =>
      simp only [GameServer.removeSession, is]
      exact paired
  | some known =>
      have removed := server.removeSession_removed is nowMs
      generalize server.removeSession client nowMs = next at removed registered
      cases removed with
      | absent unseated => exact paired
      | reserved seated known begun undisturbed =>
          have none := paired.registered.not_starting (apart ⟨_, seated⟩)
          exact ⟨registered, fun other phase => absurd phase (none other), Bool.noConfusion⟩
      | forgotten seated known unbegun =>
          have none := paired.registered.not_starting (apart ⟨_, seated⟩)
          exact ⟨registered, fun other phase => absurd phase (none other), Bool.noConfusion⟩
      | kept seated begun alone =>
          have none := paired.registered.not_starting (apart ⟨_, seated⟩)
          exact ⟨registered, fun other phase => absurd phase (none other), Bool.noConfusion⟩

/-- **A step that leaves the start blocks undivided keeps both seats of a game held.** -/
theorem step (load : PieceConfigReader) {input : ServerStep} (undivided : server.Undivided input) :
    (server.step load input).Paired := by
  have registered := paired.registered.step load input
  have taken := server.step_section load input
  generalize server.step load input = next at taken registered ⊢
  cases taken with
  | idle => exact paired
  | createSession requestedToken requestedUsername newToken => exact paired.createSession _ _ _
  | disconnect client =>
      exact paired.keep registered id
        (fun other phase => (server.phaseOf_disconnect client other).symm.trans phase) id
  | removeSession lost nowMs => exact paired.removeSession nowMs (undivided lost)
  | checkPlayers greeting =>
      split
      · next two =>
          have full := full_of_hasTwoPlayers two
          rw [if_pos two] at registered
          exact ⟨registered, fun _ _ => full, fun _ => full⟩
      · exact paired.setPhase ClientPhase.noConfusion ClientPhase.noConfusion
  | exchangeStarted starting =>
      have full := paired.starting _ starting
      exact ⟨registered, fun _ _ => full, fun _ => full⟩
  | @beginGame client started epochMs =>
      have moved : (server.setPhase client
          (if !server.gameWasStarted then .announcing else .serving)).Paired := by
        split
        · exact paired.setPhase ClientPhase.noConfusion ClientPhase.noConfusion
        · exact paired.setPhase ClientPhase.noConfusion ClientPhase.noConfusion
      exact ⟨registered, moved.starting, moved.started⟩
  | @publishStarted client announcing =>
      have moved : (server.setPhase client
          (if server.lifecyclePublisher.started then .serving else .publishing)).Paired := by
        split
        · exact paired.setPhase ClientPhase.noConfusion ClientPhase.noConfusion
        · exact paired.setPhase ClientPhase.noConfusion ClientPhase.noConfusion
      exact ⟨registered, moved.starting, moved.started⟩
  | @publishEvent client publishing =>
      have moved : (server.setPhase client .serving).Paired :=
        paired.setPhase ClientPhase.noConfusion ClientPhase.noConfusion
      exact ⟨registered, moved.starting, moved.started⟩
  | @handleRequest client serving request epochMs =>
      obtain ⟨engine, answered⟩ := server.handleRequest_engine load client request epochMs
      rw [answered] at registered ⊢
      exact paired.keep registered id (fun _ => id) id
  | finish lost phase nowMs =>
      have removed := paired.removeSession nowMs (undivided lost phase)
      exact removed.keep registered id (fun _ => starting_of_setPhase ClientPhase.noConfusion) id
  | updateReconnectionState idle nowMs =>
      rw [GameServer.updateReconnectionState] at registered ⊢
      split
      · exact paired
      · next reserved =>
          rw [if_neg reserved] at registered
          split
          · next expired =>
              rw [if_pos expired] at registered
              exact paired.keep registered id (fun _ => id) id
          · next waiting =>
              rw [if_neg waiting] at registered
              exact paired.keep registered id (fun _ => id) id
  | readStarted idle started => exact paired.keep registered id (fun _ => id) id
  | tick ticking deltaMs => exact paired.keep registered id (fun _ => id) id
  | closeGame expired => exact paired.keep registered id (fun _ => id) Bool.noConfusion
  | @closeSession client rest wasActiveGame closing =>
      exact paired.keep registered id
        (fun other phase => (server.phaseOf_disconnect client other).symm.trans phase) id
  | @replaceEngine wasActiveGame closing =>
      obtain ⟨engine, publisher, replaced⟩ := server.replaceEngine_engine wasActiveGame
      rw [replaced] at registered ⊢
      exact paired.keep registered id (fun _ => id) id
  | clearSeats clearing =>
      obtain ⟨stopped, none⟩ := undivided clearing
      exact ⟨registered,
        fun other phase => absurd phase (paired.registered.not_starting none other),
        fun started => absurd (stopped.symm.trans started) Bool.false_ne_true⟩
  | resetPublisher resetting => exact paired.keep registered id (fun _ => id) id

end Paired

/-- A seat with a session that is connected, or that is still to be removed. -/
def Filled (server : GameServer) (color : PieceColor) : Prop :=
  ∃ client, (server.seat color).player = some client ∧
    (server.isConnected client = true ∨ server.phaseOf client ≠ some .finished)

theorem Paired.filled (paired : server.Paired) (started : server.gameStarted = true)
    (color : PieceColor) : server.Filled color := by
  obtain ⟨client, held⟩ := Option.isSome_iff_exists.mp (paired.started started color)
  obtain ⟨known, is, -, running⟩ := paired.registered.seated color client held
  refine ⟨client, held, .inr fun finished => ?_⟩
  rw [phaseOf, is] at finished
  exact running (Option.some.inj finished)

/-- After a step, a started game has two players; so it has when the step has started it. -/
def StartsPaired (load : PieceConfigReader) (server : GameServer) (input : ServerStep) : Prop :=
  (server.gameStarted = false → (server.step load input).gameStarted = true →
    (server.step load input).Full) ∧
  ((server.step load input).gameStarted = true → ∀ color, (server.step load input).Filled color)

/-- **A started game has two players** in every run that leaves the start blocks undivided. -/
theorem run_startsPaired (load : PieceConfigReader) (steps : List ServerStep)
    (undivided : ∀ visit ∈ Trace.visits (step load) fresh steps, visit.1.Undivided visit.2) :
    ∀ visit ∈ Trace.visits (step load) fresh steps, visit.1.StartsPaired load visit.2 := by
  intro visit member
  have paired := Trace.visits_rule (motive := Paired) (fun server input => server.Undivided input)
    (fun server input undivided paired => paired.step load undivided) steps fresh undivided
    Paired.fresh visit member
  have next := paired.step load (undivided visit member)
  exact ⟨fun _ started => next.started started, next.filled⟩

theorem run_startsPaired_lostInTurn :
    (∀ visit ∈ Trace.visits (step .fallback) fresh lostInTurn, visit.1.Undivided visit.2) ∧
      ∀ visit ∈ Trace.visits (step .fallback) fresh lostInTurn,
        visit.1.StartsPaired .fallback visit.2 :=
  have undivided : ∀ visit ∈ Trace.visits (step .fallback) fresh lostInTurn,
      visit.1.Undivided visit.2 := by decide +kernel
  ⟨undivided, run_startsPaired .fallback lostInTurn undivided⟩

/-- Bob's thread has found two players; Alice is lost and removed before it goes on. -/
def lostWhileStarting : List ServerStep :=
  [.createSession "" "alice" "tokenA", .createSession "" "bob" "tokenB", .checkPlayers 2,
    .disconnect 1, .finish 1 1000]

/-- The game is started with nobody in the white seat. -/
theorem lostWhileStarting_unpaired :
    ¬ ∀ visit ∈ Trace.visits (step .fallback) fresh (lostWhileStarting ++ [.exchangeStarted 2]),
      visit.1.StartsPaired .fallback visit.2 := by
  intro pairs
  have last : (Trace.run (step .fallback) fresh lostWhileStarting, ServerStep.exchangeStarted 2) ∈
      Trace.visits (step .fallback) fresh (lostWhileStarting ++ [.exchangeStarted 2]) := by
    rw [Trace.visits_append]
    exact List.mem_append_right _ (List.mem_cons_self ..)
  have held := (pairs _ last).1 (by decide +kernel) (by decide +kernel) .white
  exact absurd held (by decide +kernel)

end GameServer

end KungFuChess
