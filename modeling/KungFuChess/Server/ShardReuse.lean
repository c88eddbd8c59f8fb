import KungFuChess.Server.LifecycleEvents
import KungFuChess.Server.Reconnection

/-!
# A shard that is used again

The gateway gives a shard to a new match as soon as it has closed the connections of
the old one. Whether the shard is a fresh table by then is decided by the game loop
of the server: a game that was started is closed only when a reserved seat expires.
This says in which states of an empty server two new players find a fresh table.
-/

set_option autoImplicit false

namespace KungFuChess

/-! ## An engine that was never used -/

namespace GameEngine

/-- No time has passed, and nothing was ever set in motion. -/
def Unused (engine : GameEngine) : Prop := engine.realTime = {}

instance (engine : GameEngine) : Decidable engine.Unused := inferInstanceAs (Decidable (_ = _))

variable {engine : GameEngine}

theorem Pristine.unused (pristine : engine.Pristine) : engine.Unused := by
  rw [pristine]
  rfl

theorem Unused.clock (unused : engine.Unused) : engine.getCurrentTimeMs = 0 :=
  congrArg RealTimeArbiter.currentTimeMs unused

/-- What every engine of the server keeps: while it is unused it is pristine. -/
structure Intact (engine : GameEngine) : Prop where
  coherent : (engine.view []).Coherent
  clock : 0 ≤ engine.getCurrentTimeMs
  untouched : engine.Unused → engine.Pristine

theorem Pristine.intact (pristine : engine.Pristine) : engine.Intact :=
  ⟨pristine.unplayed.coherent, pristine.unplayed.clock, fun _ => pristine⟩

namespace Intact

variable (intact : engine.Intact)

include intact

theorem publish (event : GameEvent) : (engine.publish event).Intact :=
  ⟨intact.coherent, intact.clock, fun unused => (intact.untouched unused).publish event⟩

theorem clock_wait (load : PieceConfigReader) {ms : Int} (elapsed : 0 < ms) :
    0 < (engine.wait load ms).getCurrentTimeMs := by
  have clock := (wait_journey load intact.coherent elapsed.le).2.2
  have start := intact.clock
  omega

/-- Once time has passed, an engine is used. -/
theorem not_unused_wait (load : PieceConfigReader) {ms : Int} (elapsed : 0 < ms) :
    ¬ (engine.wait load ms).Unused := fun unused =>
  absurd unused.clock (intact.clock_wait load elapsed).ne'

theorem wait (load : PieceConfigReader) {ms : Int} (elapsed : 0 < ms) :
    (engine.wait load ms).Intact :=
  ⟨wait_coherent load intact.coherent elapsed.le, (intact.clock_wait load elapsed).le,
    fun unused => absurd unused (intact.not_unused_wait load elapsed)⟩

/-- A request is refused, or it sets something in motion. -/
theorem requestMove (load : PieceConfigReader) (source destination : Position) :
    (engine.requestMove load source destination).2.Intact := by
  have coherent : ((engine.perform load (.requestMove source destination)).view []).Coherent :=
    perform_coherent load engine _ intact.coherent
  rw [perform] at coherent
  rcases requestMove_cases load engine source destination with
    same | ⟨piece, -, started⟩ | ⟨castle, -, -, -, started⟩
  · rw [same]
    exact intact
  · rw [started] at coherent ⊢
    refine ⟨coherent, intact.clock, fun unused => ?_⟩
    have motions := congrArg RealTimeArbiter.activeMotions unused
    exact absurd motions (List.concat_ne_nil _ _)
  · rw [started] at coherent ⊢
    refine ⟨coherent, intact.clock, fun unused => ?_⟩
    have motions := congrArg RealTimeArbiter.activeMotions unused
    exact absurd motions (List.concat_ne_nil _ _)

theorem requestJump (load : PieceConfigReader) (cell : Position) :
    (engine.requestJump load cell).2.Intact := by
  have coherent : ((engine.perform load (.requestJump cell)).view []).Coherent :=
    perform_coherent load engine _ intact.coherent
  rw [perform] at coherent
  rcases requestJump_cases load engine cell with same | ⟨piece, -, started⟩
  · rw [same]
    exact intact
  · rw [started] at coherent ⊢
    refine ⟨coherent, intact.clock, fun unused => ?_⟩
    have jumps := congrArg RealTimeArbiter.activeJumps unused
    exact absurd jumps (List.concat_ne_nil _ _)

theorem handleMessage (load : PieceConfigReader) (request : Request) :
    (engine.handleMessage load request).2.Intact := by
  rw [GameEngine.handleMessage]
  split
  · exact intact.requestMove load _ _
  · exact intact.requestJump load _
  · exact intact

end Intact

end GameEngine

namespace GameServer

variable {server : GameServer}

/-- **The engine of a server stays intact** in every step. -/
theorem step_intact (load : PieceConfigReader) (intact : server.engine.Intact)
    (input : ServerStep) : (server.step load input).engine.Intact := by
  have taken := server.step_section load input
  generalize server.step load input = next at taken ⊢
  cases taken with
  | createSession requestedToken requestedUsername newToken =>
      rw [(server.createSession_lifecycle _ _ _).1]
      exact intact
  | @removeSession client lost nowMs =>
      rw [(server.removeSession_lifecycle client nowMs).1]
      exact intact
  | idle | disconnect | checkPlayers | exchangeStarted | beginGame | publishStarted
  | readStarted | closeGame | closeSession | clearSeats | resetPublisher => exact intact
  | publishEvent publishing => exact intact.publish _
  | handleRequest serving request epochMs =>
      rw [GameServer.handleRequest]
      split
      · exact intact
      · split
        · exact intact
        · split
          · exact intact
          · exact intact.handleMessage load request
  | @finish client lost phase nowMs =>
      rw [setPhase, modifyClient, (server.removeSession_lifecycle client nowMs).1]
      exact intact
  | updateReconnectionState idle nowMs =>
      rw [GameServer.updateReconnectionState]
      split
      · exact intact
      · split
        · exact intact
        · exact intact
  | tick ticking deltaMs =>
      simp only [GameServer.tick]
      split
      · next elapsed => exact intact.wait load elapsed
      · exact intact
  | replaceEngine closing => exact (GameEngine.pristine_new _).intact

/-! ## Two new players -/

/-- Nobody holds a seat: every session was removed. -/
def Empty (server : GameServer) : Prop := ∀ color, (server.seat color).player = none

instance (server : GameServer) : Decidable server.Empty :=
  inferInstanceAs (Decidable (∀ _, _))

/-- Steps in which nobody else arrives, and the connection of a client is not lost. -/
def Awaits (client : ClientId) (steps : List ServerStep) : Prop :=
  ∀ input ∈ steps, input.drawn = none ∧ input ≠ .disconnect client

/-- Two players who arrive without a token, with any steps of the server in between, are seated
as White and Black on a fresh engine. -/
def Reseats (load : PieceConfigReader) (server : GameServer) (white black : String) : Prop :=
  ∀ whiteToken blackToken between, Awaits server.nextClientId between →
    ∃ client, (server.createSession "" white whiteToken).1 = .seated server.nextClientId ∧
      let middle := Trace.run (step load) (server.createSession "" white whiteToken).2 between
      let last := middle.createSession "" black blackToken
      last.1 = .seated client ∧
        (last.2.seat .white).player = some server.nextClientId ∧
        (last.2.seat .black).player = some client ∧
        last.2.engine.Pristine

/-- The server is a fresh table and stays one: no seat is reserved, no game is started or about
to be, the game loop neither waits nor closes a game, and its engine was never used. -/
structure Reusable (server : GameServer) : Prop where
  unreserved : server.reconnectionPending = false
  stopped : server.gameStarted = false
  quiet : server.loop = .idle ∨ server.loop = .resetting
  apart : server.NoneStarting
  unused : server.engine.Unused

instance (server : GameServer) : Decidable server.Reusable :=
  decidable_of_iff
    (server.reconnectionPending = false ∧ server.gameStarted = false ∧
      (server.loop = .idle ∨ server.loop = .resetting) ∧ server.NoneStarting ∧
        server.engine.Unused)
    ⟨fun all => ⟨all.1, all.2.1, all.2.2.1, all.2.2.2.1, all.2.2.2.2⟩,
      fun all => ⟨all.unreserved, all.stopped, all.quiet, all.apart, all.unused⟩⟩

/-- A client waits in White for an opponent, on an unused engine. -/
structure Waiting (client : ClientId) (server : GameServer) : Prop where
  seated : (server.seat .white).player = some client
  connected : server.isConnected client = true
  vacant : (server.seat .black).player = none
  unreserved : server.reconnectionPending = false
  stopped : server.gameStarted = false
  quiet : server.loop = .idle ∨ server.loop = .resetting
  apart : ∀ other, server.phaseOf other ≠ some .starting
  unused : server.engine.Unused

theorem isConnected_setPhase (server : GameServer) (client other : ClientId)
    (phase : ClientPhase) :
    (server.setPhase client phase).isConnected other = server.isConnected other := by
  simp only [isConnected, setPhase, clients_modifyClient]
  by_cases own : other = client
  · subst own
    rw [if_pos rfl]
    cases server.clients other with
    | none => rfl
    | some known => rfl
  · rw [if_neg own]

theorem isConnected_disconnect {client other : ClientId} (apart : other ≠ client) :
    (server.disconnect client).isConnected other = server.isConnected other := by
  rw [isConnected, isConnected, disconnect, clients_modifyClient, if_neg apart]

/-- Nothing is removed for a session that holds no seat. -/
theorem removeSession_unseated {client : ClientId}
    (unseated : ∀ color, (server.seat color).player ≠ some client) (nowMs : Int) :
    server.removeSession client nowMs = server := by
  rw [removeSession]
  split
  · rfl
  · exact if_pos ⟨unseated .white, unseated .black⟩

namespace Waiting

variable {client : ClientId} (waiting : server.Waiting client)

include waiting

theorem setPhase (other : ClientId) {phase : ClientPhase} (past : phase ≠ .starting) :
    (server.setPhase other phase).Waiting client :=
  { waiting with
    connected := (server.isConnected_setPhase other client phase).trans waiting.connected
    apart := fun third starting => waiting.apart third (starting_of_setPhase past starting) }

/-- A lost session is in no seat. -/
theorem unseated {other : ClientId} (lost : server.isConnected other = false)
    (color : PieceColor) : (server.seat color).player ≠ some other := by
  intro held
  cases color with
  | white =>
      obtain rfl : client = other := Option.some.inj (waiting.seated.symm.trans held)
      exact absurd (lost.symm.trans waiting.connected) Bool.false_ne_true
  | black => exact absurd (waiting.vacant.symm.trans held) (Option.some_ne_none other).symm

theorem vacant_black : server.Vacant .black := by
  rw [Vacant, waiting.vacant]
  exact fun other member => nomatch member

theorem not_vacant : ¬ server.Vacant .white := fun vacant =>
  Bool.false_ne_true ((vacant client waiting.seated).symm.trans waiting.connected)

theorem not_hasTwoPlayers : server.hasTwoPlayers = false := by
  rw [hasTwoPlayers, decide_eq_true waiting.vacant_black, Bool.not_true, Bool.and_false]

theorem handleRequest (load : PieceConfigReader) (other : ClientId) (request : Request)
    (epochMs : Int) : (server.handleRequest load other request epochMs).2 = server := by
  have disabled : ¬ server.isGameplayEnabled epochMs = true := by
    rw [isGameplayEnabled, waiting.stopped, Bool.false_and, Bool.false_and]
    exact Bool.false_ne_true
  rw [GameServer.handleRequest]
  split
  · rfl
  · rw [if_pos disabled]

theorem loop_ne {phase : LoopPhase} (idle : phase ≠ .idle) (resetting : phase ≠ .resetting) :
    server.loop ≠ phase := by
  rintro rfl
  exact waiting.quiet.elim idle resetting

/-- **A step keeps a client waiting**, unless somebody else arrives or its connection is lost. -/
theorem step (load : PieceConfigReader) {input : ServerStep} (alone : input.drawn = none)
    (stays : input ≠ .disconnect client) : (server.step load input).Waiting client := by
  have taken := server.step_section load input
  generalize server.step load input = next at taken ⊢
  cases taken with
  | idle => exact waiting
  | createSession requestedToken requestedUsername newToken => cases alone
  | disconnect other =>
      have apart : client ≠ other := fun own => stays (congrArg ServerStep.disconnect own.symm)
      exact { waiting with
        connected := (isConnected_disconnect apart).trans waiting.connected
        apart := fun third => (server.phaseOf_disconnect other third).symm ▸ waiting.apart third }
  | @removeSession other lost nowMs =>
      rw [removeSession_unseated (waiting.unseated lost)]
      exact waiting
  | @checkPlayers other greeting =>
      rw [waiting.not_hasTwoPlayers, if_neg Bool.false_ne_true]
      exact waiting.setPhase other ClientPhase.noConfusion
  | @exchangeStarted other starting => exact absurd starting (waiting.apart other)
  | @beginGame other started epochMs =>
      have past : (if !server.gameWasStarted then ClientPhase.announcing else .serving) ≠
          .starting := by
        split <;> exact ClientPhase.noConfusion
      exact { waiting.setPhase other past with unreserved := rfl }
  | @publishStarted other announcing =>
      have past : (if server.lifecyclePublisher.started then ClientPhase.serving
          else .publishing) ≠ .starting := by
        split <;> exact ClientPhase.noConfusion
      exact { waiting.setPhase other past with }
  | @publishEvent other publishing =>
      have past : ClientPhase.serving ≠ .starting := ClientPhase.noConfusion
      exact { waiting.setPhase other past with }
  | handleRequest serving request epochMs =>
      rw [waiting.handleRequest]
      exact waiting
  | @finish other lost phase nowMs =>
      rw [removeSession_unseated (waiting.unseated lost)]
      exact waiting.setPhase other ClientPhase.noConfusion
  | updateReconnectionState idle nowMs =>
      rw [GameServer.updateReconnectionState, if_pos (Bool.eq_false_iff.mp waiting.unreserved)]
      exact waiting
  | readStarted idle started =>
      exact absurd (waiting.stopped.symm.trans started) Bool.false_ne_true
  | tick here | closeGame here | closeSession here | replaceEngine here | clearSeats here =>
      exact absurd here (waiting.loop_ne LoopPhase.noConfusion LoopPhase.noConfusion)
  | resetPublisher resetting => exact { waiting with quiet := .inl rfl }

end Waiting

/-! ## When two players find a fresh table -/

/-- A handshake without a token that is answered with a seat. -/
theorem seated_without_token {requestedUsername newToken : String} {client : ClientId}
    (seated : (server.createSession "" requestedUsername newToken).1 = .seated client) :
    ∃ color, server.closingExpiredGame = false ∧ server.reconnectionPending = false ∧
      Username.isValid (Username.trim requestedUsername) = true ∧
      (color = .black → ¬ server.Vacant .white) ∧
      (server.createSession "" requestedUsername newToken).2 =
        { server with nextClientId := server.nextClientId + 1 }.seatClient color
          server.nextClientId newToken (Username.trim requestedUsername) := by
  have answered := server.createSession_answered "" requestedUsername newToken
  generalize server.createSession "" requestedUsername newToken = answer at answered seated ⊢
  cases answered with
  | rejected type reason => cases seated
  | reclaimed undisturbed unexpired valid => exact absurd rfl valid.2.1
  | assigned undisturbed unexpired invalid unreserved vacant first named =>
      exact ⟨_, undisturbed, unreserved, named, first, rfl⟩

/-- The game loop of a started game that is not being closed is about to use its engine. -/
theorem used_of_started (load : PieceConfigReader) (intact : server.engine.Intact)
    (started : server.gameStarted = true) (quiet : server.loop = .idle ∨ server.loop = .resetting) :
    ¬ (Trace.run (step load) server [.resetPublisher, .readStarted, .tick 1]).engine.Unused := by
  have reset : ∃ lifecyclePublisher, server.step load .resetPublisher =
      { server with lifecyclePublisher := lifecyclePublisher, loop := .idle } := by
    simp only [step]
    rcases quiet with idle | resetting
    · rw [if_neg (idle ▸ LoopPhase.noConfusion), ← idle]
      exact ⟨server.lifecyclePublisher, rfl⟩
    · rw [if_pos resetting]
      exact ⟨{}, rfl⟩
  obtain ⟨lifecyclePublisher, reset⟩ := reset
  have reads : step load { server with lifecyclePublisher := lifecyclePublisher, loop := .idle }
      .readStarted = { server with lifecyclePublisher := lifecyclePublisher, loop := .ticking } :=
    if_pos ⟨rfl, started⟩
  rw [Trace.run_cons, reset, Trace.run_cons, reads]
  exact intact.not_unused_wait load Int.one_pos

section Reuse

variable (registered : server.Registered) (empty : server.Empty)

include registered

theorem undisturbed_of_quiet (quiet : server.loop = .idle ∨ server.loop = .resetting) :
    server.closingExpiredGame = false := by
  refine Bool.eq_false_iff.mpr fun closing => ?_
  have isClosing := registered.closing.mp closing
  rcases quiet with idle | resetting
  · rw [idle] at isClosing
    exact isClosing
  · rw [resetting] at isClosing
    exact isClosing

include empty

/-- The first player of a reusable server waits in White. -/
theorem Reusable.waiting (reusable : server.Reusable) (whiteToken username : String) :
    (seatClient { server with nextClientId := server.nextClientId + 1 } .white
      server.nextClientId whiteToken username).Waiting server.nextClientId where
  seated := by rw [seat_seatClient, if_pos rfl]
  connected := by rw [isConnected, clients_seatClient, if_pos rfl]
  vacant := by
    rw [seat_seatClient, if_neg PieceColor.noConfusion]
    exact empty .black
  unreserved := reusable.unreserved
  stopped := reusable.stopped
  quiet := reusable.quiet
  apart other := by
    intro starting
    rw [phaseOf, clients_seatClient] at starting
    split at starting
    · cases starting
    · exact registered.not_starting reusable.apart other starting
  unused := reusable.unused

/-- **A reusable server seats two new players on a fresh engine.** -/
theorem Reusable.reseats (load : PieceConfigReader) (intact : server.engine.Intact)
    (reusable : server.Reusable) {white black : String}
    (whiteNamed : Username.isValid (Username.trim white) = true)
    (blackNamed : Username.isValid (Username.trim black) = true) :
    server.Reseats load white black := by
  intro whiteToken blackToken between awaits
  have vacant : server.Vacant .white := by
    rw [Vacant, empty .white]
    exact fun client member => nomatch member
  have first := createSession_assigns
    ⟨undisturbed_of_quiet registered reusable.quiet, fun late => late.1 rfl⟩ reusable.unreserved
    vacant PieceColor.noConfusion whiteNamed whiteToken
  have next := registered.createSession "" white whiteToken
  rw [first] at next ⊢
  have middle : ∃ middle, middle = Trace.run (step load) (seatClient { server with
      nextClientId := server.nextClientId + 1 } .white server.nextClientId whiteToken
        (Username.trim white)) between ∧
      middle.Registered ∧ middle.engine.Intact ∧ middle.Waiting server.nextClientId := by
    refine ⟨_, rfl, Trace.run_rule
      (motive := fun middle : GameServer => middle.Registered ∧ middle.engine.Intact ∧
        middle.Waiting server.nextClientId)
      (fun _ input => input.drawn = none ∧ input ≠ .disconnect server.nextClientId)
      (fun middle input alone holds => ⟨holds.1.step load input,
        step_intact load holds.2.1 input, holds.2.2.step load alone.1 alone.2⟩) between _
      (fun visit member => ?_)
      ⟨next, intact, reusable.waiting registered empty whiteToken (Username.trim white)⟩⟩
    obtain ⟨before, after, split, -⟩ := Trace.visits_split member
    exact awaits visit.2 (split ▸ List.mem_append_right _ (List.mem_cons_self ..))
  obtain ⟨middle, reached, later, played, waiting⟩ := middle
  have second := createSession_assigns
    ⟨undisturbed_of_quiet later waiting.quiet, fun late => late.1 rfl⟩ waiting.unreserved
    (waiting.vacant_black) (fun _ => waiting.not_vacant) blackNamed blackToken
  refine ⟨middle.nextClientId, rfl, ?_⟩
  simp only [← reached, second, true_and]
  refine ⟨?_, ?_, played.untouched waiting.unused⟩
  · rw [seat_seatClient, if_neg PieceColor.noConfusion]
    exact waiting.seated
  · rw [seat_seatClient, if_pos rfl]

/-- **A server seats two new players on a fresh engine only if it is reusable.** -/
theorem Reseats.reusable (load : PieceConfigReader) (intact : server.engine.Intact)
    {white black : String} (reseats : server.Reseats load white black) :
    server.Reusable ∧ Username.isValid (Username.trim white) = true ∧
      Username.isValid (Username.trim black) = true := by
  obtain ⟨-, first, -⟩ := reseats "" "" [] fun _ member => absurd member List.not_mem_nil
  obtain ⟨color, undisturbed, unreserved, whiteNamed, before, answered⟩ :=
    seated_without_token first
  have vacant : server.Vacant .white := by
    rw [Vacant, empty .white]
    exact fun client member => nomatch member
  obtain rfl : color = .white := by
    cases color with
    | white => rfl
    | black => exact absurd vacant (before rfl)
  obtain ⟨start, seated, loop, engine, started, phases⟩ : ∃ start : GameServer,
      (server.createSession "" white "").2 = start ∧ start.loop = server.loop ∧
        start.engine = server.engine ∧ start.gameStarted = server.gameStarted ∧
        ∀ client < server.nextClientId, start.phaseOf client = server.phaseOf client := by
    refine ⟨_, answered, rfl, rfl, rfl, fun client old => ?_⟩
    rw [phaseOf, clients_seatClient, if_neg old.ne]
    rfl
  rw [← engine] at intact
  -- whatever comes in between, the engine stays unused and the second player is accepted
  have stays : ∀ between, Awaits server.nextClientId between →
      (Trace.run (step load) start between).engine.Unused ∧
        (Trace.run (step load) start between).closingExpiredGame = false ∧
          Username.isValid (Username.trim black) = true := by
    intro between awaits
    obtain ⟨client, -, second, -, -, pristine⟩ := reseats "" "" between awaits
    rw [seated] at second pristine
    rw [(GameServer.createSession_lifecycle "" black "").1] at pristine
    obtain ⟨-, quiet, -, blackNamed, -⟩ := seated_without_token second
    exact ⟨pristine.unused, quiet, blackNamed⟩
  obtain ⟨unused, -, blackNamed⟩ := stays [] fun _ member => absurd member List.not_mem_nil
  have quiet : start.loop = .idle ∨ start.loop = .resetting := by
    cases phase : start.loop with
    | idle => exact .inl rfl
    | resetting => exact .inr rfl
    | ticking =>
        have ticked := (stays [.tick 1] (by simp [Awaits, ServerStep.drawn])).1
        rw [Trace.run_cons, step, if_pos phase] at ticked
        exact absurd ticked (intact.not_unused_wait load Int.one_pos)
    | expired =>
        have closed := (stays [.closeGame] (by simp [Awaits, ServerStep.drawn])).2.1
        rw [Trace.run_cons, step, if_pos phase] at closed
        cases closed
    | closing sessions wasActiveGame =>
        have closing := registered.closing.mpr (loop ▸ phase ▸ trivial)
        exact absurd (undisturbed.symm.trans closing) Bool.false_ne_true
    | clearing =>
        have closing := registered.closing.mpr (loop ▸ phase ▸ trivial)
        exact absurd (undisturbed.symm.trans closing) Bool.false_ne_true
  refine ⟨⟨unreserved, ?_, loop ▸ quiet, ?_, engine ▸ unused⟩, whiteNamed, blackNamed⟩
  · refine Bool.eq_false_iff.mpr fun begun => ?_
    exact used_of_started load intact (started.trans begun) quiet
      (stays [.resetPublisher, .readStarted, .tick 1] (by simp [Awaits, ServerStep.drawn])).1
  · intro client old starting
    have ticked := (stays [.exchangeStarted client, .resetPublisher, .readStarted, .tick 1]
      (by simp [Awaits, ServerStep.drawn])).1
    have phase : start.phaseOf client = some .starting := (phases client old).trans starting
    rw [Trace.run_cons, step, if_pos phase] at ticked
    have used : ¬ (Trace.run (step load) (start.exchangeStarted client)
        [.resetPublisher, .readStarted, .tick 1]).engine.Unused :=
      used_of_started load intact rfl quiet
    exact used ticked

end Reuse

/-- **Which servers are fresh tables.** In every state that a server reaches and in which nobody
holds a seat, two new players are seated as White and Black on a fresh engine, whatever comes
in between, exactly when the server is reusable and accepts both names. -/
theorem run_reseats_iff (load : PieceConfigReader) (steps : List ServerStep)
    {server : GameServer} (reached : server = Trace.run (step load) fresh steps)
    (empty : server.Empty) (white black : String) :
    server.Reseats load white black ↔
      server.Reusable ∧ Username.isValid (Username.trim white) = true ∧
        Username.isValid (Username.trim black) = true := by
  have kept : server.Registered ∧ server.engine.Intact := by
    rw [reached]
    exact Trace.run_invariant
      (motive := fun server : GameServer => server.Registered ∧ server.engine.Intact)
      (fun server input both => ⟨both.1.step load input, step_intact load both.2 input⟩) steps
      ⟨.fresh, (GameEngine.pristine_new _).intact⟩
  obtain ⟨registered, intact⟩ := kept
  exact ⟨Reseats.reusable registered empty load intact, fun reusable =>
    reusable.1.reseats registered empty load intact reusable.2.1 reusable.2.2⟩

/-- Alice and Bob are lost one by one, and the game is closed when the reservation expires. -/
def closedAfterwards : List ServerStep :=
  startedGame ++ lostOneByOne ++
    [.updateReconnectionState 22000, .closeGame, .replaceEngine, .clearSeats, .resetPublisher]

/-- Carol and Dave find a fresh table. -/
theorem run_reseats_iff_closedAfterwards :
    (Trace.run (step .fallback) fresh closedAfterwards).Reseats .fallback "carol" "dave" :=
  (run_reseats_iff .fallback closedAfterwards rfl (by decide +kernel) "carol" "dave").mpr
    (by decide +kernel)

/-- Until then they do not, although the connections of the old match are gone. -/
theorem lostOneByOne_reserved :
    ¬ ∀ steps server, server = Trace.run (step .fallback) fresh steps → server.Empty →
      ∀ white black, Username.isValid (Username.trim white) = true →
        Username.isValid (Username.trim black) = true →
          server.Reseats .fallback white black := by
  intro reuse
  obtain ⟨-, seated, -⟩ := reuse (startedGame ++ lostOneByOne) _ rfl (by decide +kernel) "carol"
    "dave" (by decide +kernel) (by decide +kernel) "tokenC" "tokenD" []
    fun _ member => absurd member List.not_mem_nil
  have full : ((Trace.run (step .fallback) fresh (startedGame ++ lostOneByOne)).createSession ""
      "carol" "tokenC").1 = .rejected .gameFull "game_full" := by
    decide +kernel
  rw [full] at seated
  cases seated

end GameServer

end KungFuChess
