import KungFuChess.Engine.Ending
import KungFuChess.Server.StartBlock

/-!
# The lifecycle of a game on the bus

The publisher of the lifecycle remembers whether it has published the start and
the end of a game, until it is reset. The reset comes after the section that reopens
the seats: the start of a game that begins in between is not published at all, nor
is it when a thread of the game before was slow to call. Where no such calls meet
the lifecycle of every game is published exactly once.
-/

set_option autoImplicit false

namespace KungFuChess

/-! ## What the engine publishes -/

namespace GameEngine

/-- The starts that were published, when a bus is attached. -/
def isStarting (event : GameEvent) : Bool := event.type = .gameStarted

def startings (engine : GameEngine) : Option (List GameEvent) := (engine.noticed isStarting).2

theorem isStarting_other : HeedsNoMove isStarting := by
  rintro event (move | score)
  · simp only [isStarting, move, reduceCtorEq, decide_false]
  · simp only [isStarting, score, reduceCtorEq, decide_false]

theorem startings_publish (engine : GameEngine) {event : GameEvent}
    (ignored : isStarting event = false) :
    (engine.publish event).startings = engine.startings :=
  congrArg Prod.snd (noticed_publish engine ignored)

theorem startings_endGame (engine : GameEngine) (winner : PieceColor) (reason : String) :
    (engine.endGame winner reason).startings = engine.startings := by
  unfold endGame
  split
  · rfl
  · exact startings_publish { engine with gameOver := true } rfl

theorem startings_loseToAirborne (engine : GameEngine) (piece target : PieceId) :
    (engine.loseToAirborne piece target).startings = engine.startings := by
  have scored := fun (engine : GameEngine) color kind =>
    congrArg Prod.snd (noticed_addCaptureScore isStarting_other engine color kind)
  simp only [loseToAirborne]
  split
  · exact (startings_endGame ..).trans (scored ..)
  · exact scored ..

theorem startings_captureTarget (engine : GameEngine) (piece target : PieceId) (source : Position)
    (event : StepEvent) :
    (engine.captureTarget piece target source event).startings = engine.startings := by
  have stopped := fun (engine : GameEngine) piece source cell time capture kind color =>
    congrArg Prod.snd (noticed_stopMovingPieceAt isStarting_other engine piece source cell time
      capture kind color)
  have scored := fun (engine : GameEngine) color kind =>
    congrArg Prod.snd (noticed_addCaptureScore isStarting_other engine color kind)
  simp only [captureTarget]
  split
  · exact (startings_endGame ..).trans ((stopped ..).trans (scored ..))
  · exact (stopped ..).trans (scored ..)

/-- **No step event publishes a start.** -/
theorem startings_processStepEvent (engine : GameEngine) (event : StepEvent) :
    (engine.processStepEvent event).startings = engine.startings := by
  have stopped := fun (engine : GameEngine) piece source cell time capture kind color =>
    congrArg Prod.snd (noticed_stopMovingPieceAt isStarting_other engine piece source cell time
      capture kind color)
  have handled := engine.processStepEvent_handled event
  generalize engine.processStepEvent event = next, engine.verdict event = verdict at handled ⊢
  cases handled with
  | ignored | slid => rfl
  | @castled castle found =>
      exact congrArg Prod.snd (noticed_finishCastle isStarting_other engine castle _)
  | halted follows | arrived follows inside => exact stopped ..
  | lost target => exact startings_loseToAirborne ..
  | captured target follows inside => exact startings_captureTarget ..

theorem startings_processJumpLanding (load : PieceConfigReader) (engine : GameEngine)
    (event : JumpLandingEvent) :
    (engine.processJumpLanding load event).startings = engine.startings := by
  simp only [processJumpLanding]
  split
  · rfl
  · split
    · rfl
    · exact congrArg Prod.snd (noticed_announce isStarting_other _ _)

/-- **A wait publishes no start**, and one end when it ends the game. -/
theorem startings_wait (load : PieceConfigReader) (engine : GameEngine) (ms : Int) :
    (engine.wait load ms).startings = engine.startings :=
  wait_rule load (motive := fun reached => reached.startings = engine.startings)
    (fun _ _ same => (startings_processStepEvent _ _).trans same)
    (fun _ _ same => (startings_processJumpLanding load _ _).trans same)
    (fun _ _ same => same) ms rfl

/-- A ledger that a wait may lead to: the same one, or one that is closed by an end. -/
theorem ledger_wait (load : PieceConfigReader) (engine : GameEngine) (ms : Int) :
    (engine.wait load ms).ledger = engine.ledger ∨
      ∃ finish, (engine.wait load ms).ledger = engine.ledger.close finish := by
  refine wait_rule load (motive := fun reached => reached.ledger = engine.ledger ∨
    ∃ finish, reached.ledger = engine.ledger.close finish) (fun reached event before => ?_)
    (fun reached event before => ?_) (fun _ _ same => same) ms (.inl rfl)
  · have booked := processStepEvent_booked reached event
    generalize (reached.processStepEvent event).ledger = next at booked ⊢
    cases booked with
    | peaceful unharmed => exact before
    | taken falls common => exact before
    | @ended piece finish falls king decided winner =>
        rcases before with same | ⟨first, closed⟩
        · exact .inr ⟨finish, by rw [same]⟩
        · refine .inr ⟨first, ?_⟩
          rw [closed, Ledger.close, if_pos]
          unfold Ledger.close
          split
          · next isOver => exact isOver
          · rfl
  · rw [ledger_processJumpLanding]
    exact before

end GameEngine

namespace GameServer

/-! ## What the server publishes -/

/-- How many starts of games were published. -/
def starts (server : GameServer) : Nat := (server.engine.startings.getD []).length

/-- How many ends of games were published. -/
def ends (server : GameServer) : Nat := server.engine.endings.length

/-- Whether the step resets the publisher. -/
def resets (server : GameServer) : ServerStep → Bool
  | .resetPublisher => server.loop = .resetting
  | _ => false

/-- Whether the step is one in which a thread publishes a start. -/
def publishes (server : GameServer) : ServerStep → Bool
  | .publishEvent client => server.phaseOf client = some .publishing
  | _ => false

/-- The engine of a closed game was replaced, and the publisher is not reset yet. -/
def Renewed (server : GameServer) : Prop := server.loop = .clearing ∨ server.loop = .resetting

/-- How far a thread is with the start of a game: before it has begun one, before its call,
between its call and the bus, or past it. -/
def stage : Option ClientPhase → Nat
  | some .announcing => 1
  | some .publishing => 2
  | some .serving | some .finished => 3
  | none | some .greeting | some .starting | some .started => 0

theorem stage_announcing {phase : Option ClientPhase} (at1 : stage phase = 1) :
    phase = some .announcing := by
  cases phase with
  | none => cases at1
  | some phase => cases phase <;> first | rfl | cases at1

theorem stage_publishing {phase : Option ClientPhase} (at2 : stage phase = 2) :
    phase = some .publishing := by
  cases phase with
  | none => cases at2
  | some phase => cases phase <;> first | rfl | cases at2

variable {server : GameServer}

/-- No thread comes nearer to the start of a game, or past it from within. -/
def Quiet (server next : GameServer) : Prop :=
  ∀ client, stage (next.phaseOf client) = stage (server.phaseOf client) ∨
    (stage (server.phaseOf client) = 0 ∧ stage (next.phaseOf client) = 3)

/-- One thread moves to a phase. -/
def Moves (server : GameServer) (client : ClientId) (phase : ClientPhase) (next : GameServer) :
    Prop :=
  ∀ other, next.phaseOf other = if other = client then some phase else server.phaseOf other

/-- **What a step does to the lifecycle.** -/
inductive Told (server : GameServer) (input : ServerStep) : GameServer → Prop
  | silent {next : GameServer} (startings : next.engine.startings = server.engine.startings)
      (ledger : next.engine.ledger = server.engine.ledger)
      (publisher : next.lifecyclePublisher = server.lifecyclePublisher)
      (renewed : next.Renewed ↔ server.Renewed) (quiet : server.Quiet next)
      (kept : server.resets input = false) : Told server input next
  | begun {next : GameServer} {client : ClientId} {epochMs : Int}
      (call : input = .beginGame client epochMs) (started : server.phaseOf client = some .started)
      (unbegun : server.gameWasStarted = false) (engine : next.engine = server.engine)
      (publisher : next.lifecyclePublisher = server.lifecyclePublisher)
      (loop : next.loop = server.loop) (moves : server.Moves client .announcing next) :
      Told server input next
  | announced {next : GameServer} {client : ClientId} (call : input = .publishStarted client)
      (announcing : server.phaseOf client = some .announcing)
      (engine : next.engine = server.engine)
      (publisher : next.lifecyclePublisher = { server.lifecyclePublisher with started := true })
      (loop : next.loop = server.loop)
      (moves : server.Moves client
        (if server.lifecyclePublisher.started then .serving else .publishing) next) :
      Told server input next
  | published {next : GameServer} {client : ClientId} (call : input = .publishEvent client)
      (publishing : server.phaseOf client = some .publishing)
      (engine : next.engine = server.engine.publish { type := .gameStarted })
      (publisher : next.lifecyclePublisher = server.lifecyclePublisher)
      (loop : next.loop = server.loop) (moves : server.Moves client .serving next) :
      Told server input next
  | ticked {next : GameServer} {deltaMs : Int} (call : input = .tick deltaMs)
      (ticking : server.loop = .ticking)
      (startings : next.engine.startings = server.engine.startings)
      (ledger : next.engine.ledger = server.engine.ledger ∨
        ∃ finish, next.engine.ledger = server.engine.ledger.close finish)
      (publisher : next.lifecyclePublisher =
        { server.lifecyclePublisher with
          ended := server.lifecyclePublisher.ended ||
            (next.engine.gameOver && !server.engine.gameOver) })
      (idle : next.loop = .idle) (clients : next.clients = server.clients) :
      Told server input next
  | replaced {wasActiveGame : Bool} (call : input = .replaceEngine)
      (closing : server.loop = .closing [] wasActiveGame) :
      Told server input (server.replaceEngine wasActiveGame)
  | reset {next : GameServer} (call : input = .resetPublisher)
      (resetting : server.loop = .resetting)
      (engine : next.engine = server.engine) (publisher : next.lifecyclePublisher = {})
      (idle : next.loop = .idle) (clients : next.clients = server.clients) :
      Told server input next

/-- Sections that move no thread. -/
theorem phaseOf_of_clients {next : GameServer} (same : next.clients = server.clients)
    (client : ClientId) : next.phaseOf client = server.phaseOf client := by
  rw [phaseOf, phaseOf, same]

theorem Quiet.of_phases {next : GameServer}
    (same : ∀ client, next.phaseOf client = server.phaseOf client) : server.Quiet next :=
  fun client => .inl (congrArg stage (same client))

/-- The thread of a client that is in some phase moves to another one. -/
theorem moves_setPhase {client : ClientId} {old : ClientPhase}
    (stands : server.phaseOf client = some old) (phase : ClientPhase) :
    server.Moves client phase (server.setPhase client phase) := by
  intro other
  obtain ⟨known, is, -⟩ := Option.map_eq_some_iff.mp stands
  rw [phaseOf_setPhase, is]
  rfl

/-- Before the start of a game, and past it, threads move freely. -/
theorem Moves.quiet {client : ClientId} {phase old : ClientPhase} {next : GameServer}
    (moves : server.Moves client phase next) (stands : server.phaseOf client = some old)
    (onward : stage (some phase) = stage (some old) ∨
      (stage (some old) = 0 ∧ stage (some phase) = 3)) : server.Quiet next := by
  intro other
  rw [moves other]
  split
  · next own =>
      rw [own, stands]
      exact onward
  · exact .inl rfl

theorem createSession_lifecycle (requestedToken requestedUsername newToken : String) :
    (server.createSession requestedToken requestedUsername newToken).2.engine = server.engine ∧
      (server.createSession requestedToken requestedUsername newToken).2.lifecyclePublisher =
        server.lifecyclePublisher ∧
      (server.createSession requestedToken requestedUsername newToken).2.loop = server.loop := by
  have answered := server.createSession_answered requestedToken requestedUsername newToken
  generalize server.createSession requestedToken requestedUsername newToken = answer at answered
  cases answered with
  | rejected type reason => exact ⟨rfl, rfl, rfl⟩
  | reclaimed undisturbed unexpired valid => exact ⟨rfl, rfl, rfl⟩
  | assigned undisturbed unexpired invalid unreserved vacant first named => exact ⟨rfl, rfl, rfl⟩

theorem removeSession_lifecycle (client : ClientId) (nowMs : Int) :
    (server.removeSession client nowMs).engine = server.engine ∧
      (server.removeSession client nowMs).lifecyclePublisher = server.lifecyclePublisher ∧
      (server.removeSession client nowMs).loop = server.loop := by
  cases is : server.clients client with
  | none =>
      simp only [removeSession, is]
      exact ⟨trivial, trivial, trivial⟩
  | some known =>
      have removed := server.removeSession_removed is nowMs
      generalize server.removeSession client nowMs = next at removed
      cases removed with
      | absent unseated => exact ⟨rfl, rfl, rfl⟩
      | reserved seated known begun undisturbed => exact ⟨rfl, rfl, rfl⟩
      | forgotten seated known unbegun => exact ⟨rfl, rfl, rfl⟩
      | kept seated begun alone => exact ⟨rfl, rfl, rfl⟩

/-- A request publishes nothing. -/
theorem handleMessage_lifecycle (load : PieceConfigReader) (engine : GameEngine)
    (request : Request) :
    (engine.handleMessage load request).2.eventBus = engine.eventBus ∧
      (engine.handleMessage load request).2.gameOver = engine.gameOver := by
  unfold GameEngine.handleMessage
  split
  · rcases GameEngine.requestMove_cases load engine request.source request.destination with
      same | ⟨piece, _, started⟩ | ⟨castle, _, _, _, started⟩
    · exact ⟨congrArg _ same, congrArg _ same⟩
    · exact ⟨(congrArg GameEngine.eventBus started).trans rfl,
        (congrArg GameEngine.gameOver started).trans rfl⟩
    · exact ⟨(congrArg GameEngine.eventBus started).trans rfl,
        (congrArg GameEngine.gameOver started).trans rfl⟩
  · rcases GameEngine.requestJump_cases load engine request.source with
      same | ⟨piece, _, started⟩
    · exact ⟨congrArg _ same, congrArg _ same⟩
    · exact ⟨(congrArg GameEngine.eventBus started).trans rfl,
        (congrArg GameEngine.gameOver started).trans rfl⟩
  · exact ⟨rfl, rfl⟩

theorem handleRequest_lifecycle (load : PieceConfigReader) (client : ClientId)
    (request : Request) (epochMs : Int) :
    (server.handleRequest load client request epochMs).2.engine.eventBus = server.engine.eventBus ∧
      (server.handleRequest load client request epochMs).2.engine.gameOver =
        server.engine.gameOver := by
  unfold handleRequest
  split
  · exact ⟨rfl, rfl⟩
  · split
    · exact ⟨rfl, rfl⟩
    · split
      · exact ⟨rfl, rfl⟩
      · exact handleMessage_lifecycle load server.engine request


/-! ## What every step does -/

theorem quiet_createSession (registered : server.Registered)
    (requestedToken requestedUsername newToken : String) :
    server.Quiet (server.createSession requestedToken requestedUsername newToken).2 := by
  have answered := server.createSession_answered requestedToken requestedUsername newToken
  generalize server.createSession requestedToken requestedUsername newToken = answer at answered
  have seated : ∀ color reconnectToken username,
      server.Quiet (seatClient { server with nextClientId := server.nextClientId + 1 } color
        server.nextClientId reconnectToken username) := by
    intro color reconnectToken username client
    rw [phaseOf, phaseOf, clients_seatClient]
    split
    · next new =>
        rw [new, registered.numbered _ (Nat.le_refl _)]
        exact .inl rfl
    · exact .inl rfl
  cases answered with
  | rejected type reason => exact .of_phases fun _ => rfl
  | reclaimed undisturbed unexpired valid => exact seated _ _ _
  | assigned undisturbed unexpired invalid unreserved vacant first named => exact seated _ _ _

theorem phaseOf_removeSession (server : GameServer) (client other : ClientId) (nowMs : Int) :
    (server.removeSession client nowMs).phaseOf other = server.phaseOf other := by
  cases is : server.clients client with
  | none => simp only [removeSession, is]
  | some known =>
      have removed := server.removeSession_removed is nowMs
      generalize server.removeSession client nowMs = next at removed
      cases removed with
      | absent unseated => rfl
      | reserved seated known begun undisturbed => rfl
      | forgotten seated known unbegun => rfl
      | kept seated begun alone => rfl

/-- A step that leaves the bus, the end of the game and the publisher alone. -/
theorem Told.of_same {input : ServerStep} {next : GameServer}
    (bus : next.engine.eventBus = server.engine.eventBus)
    (isOver : next.engine.gameOver = server.engine.gameOver)
    (publisher : next.lifecyclePublisher = server.lifecyclePublisher)
    (renewed : next.Renewed ↔ server.Renewed) (quiet : server.Quiet next)
    (kept : server.resets input = false) : Told server input next := by
  refine .silent ?_ ?_ publisher renewed quiet kept
  · simp only [GameEngine.startings, GameEngine.noticed, bus]
  · simp only [GameEngine.ledger, GameEngine.endings, bus, isOver]

/-- **Every step does one of these.** -/
theorem step_told (registered : server.Registered) (load : PieceConfigReader)
    (input : ServerStep) : Told server input (server.step load input) := by
  have steady : server.Quiet server := .of_phases fun _ => rfl
  have stays : ∀ input, server.resets input = false → Told server input server := fun _ kept =>
    .of_same rfl rfl rfl Iff.rfl steady kept
  cases input with
  | createSession requestedToken requestedUsername newToken =>
      obtain ⟨engine, publisher, loop⟩ :=
        server.createSession_lifecycle requestedToken requestedUsername newToken
      exact .of_same (congrArg _ engine) (congrArg _ engine) publisher
        (by simp only [Renewed, step, loop]) (quiet_createSession registered _ _ _) rfl
  | disconnect client =>
      exact .of_same rfl rfl rfl Iff.rfl (.of_phases (phaseOf_disconnect server client)) rfl
  | removeSession client nowMs =>
      obtain ⟨engine, publisher, loop⟩ := server.removeSession_lifecycle client nowMs
      simp only [step]
      split
      · exact stays _ rfl
      · exact .of_same (congrArg _ engine) (congrArg _ engine) publisher
          (by simp only [Renewed, loop])
          (.of_phases fun other => server.phaseOf_removeSession client other nowMs) rfl
  | checkPlayers client =>
      simp only [step]
      split
      · next greeting =>
          refine .of_same rfl rfl rfl Iff.rfl ((moves_setPhase greeting _).quiet greeting ?_) rfl
          split
          · exact .inl rfl
          · exact .inr ⟨rfl, rfl⟩
      · exact stays _ rfl
  | exchangeStarted client =>
      simp only [step]
      split
      · next starting =>
          have moves := moves_setPhase starting (if server.gameStarted then .serving else .started)
          refine .of_same rfl rfl rfl Iff.rfl (moves.quiet starting ?_) rfl
          split
          · exact .inr ⟨rfl, rfl⟩
          · exact .inl rfl
      · exact stays _ rfl
  | beginGame client epochMs =>
      simp only [step]
      split
      · next started =>
          have moves : server.Moves client
              (if !server.gameWasStarted then .announcing else .serving)
              (server.beginGame client epochMs) := moves_setPhase started _
          by_cases begun : server.gameWasStarted = true
          · refine .of_same rfl rfl rfl Iff.rfl (moves.quiet started ?_) rfl
            rw [begun]
            exact .inr ⟨rfl, rfl⟩
          · have unbegun := Bool.eq_false_iff.mpr begun
            rw [unbegun] at moves
            exact .begun rfl started unbegun rfl rfl rfl moves
      · exact stays _ rfl
  | publishStarted client =>
      simp only [step]
      split
      · next announcing =>
          exact .announced rfl announcing rfl rfl rfl (moves_setPhase announcing _)
      · exact stays _ rfl
  | publishEvent client =>
      simp only [step]
      split
      · next publishing =>
          exact .published rfl publishing rfl rfl rfl (moves_setPhase publishing _)
      · exact stays _ rfl
  | handleRequest client request epochMs =>
      simp only [step]
      split
      · obtain ⟨bus, isOver⟩ := server.handleRequest_lifecycle load client request epochMs
        obtain ⟨engine, answered⟩ := server.handleRequest_engine load client request epochMs
        rw [answered] at bus isOver ⊢
        exact .of_same bus isOver rfl Iff.rfl steady rfl
      · exact stays _ rfl
  | finish client nowMs =>
      obtain ⟨engine, publisher, loop⟩ := server.removeSession_lifecycle client nowMs
      simp only [step]
      split
      · next ended =>
          refine .of_same (congrArg GameEngine.eventBus engine)
            (congrArg GameEngine.gameOver engine) publisher ?_ ?_ rfl
          · change (_ = _ ∨ _ = _) ↔ _
            rw [Renewed, ← loop]
            rfl
          · have removed := server.phaseOf_removeSession client
            have left : (server.removeSession client nowMs).Quiet
                ((server.removeSession client nowMs).setPhase client .finished) := by
              rcases ended.2 with phase | phase
              · have stands := (removed client nowMs).trans phase
                exact (moves_setPhase stands .finished).quiet stands (.inr ⟨rfl, rfl⟩)
              · have stands := (removed client nowMs).trans phase
                exact (moves_setPhase stands .finished).quiet stands (.inl rfl)
            intro other
            rw [← removed other nowMs]
            exact left other
      · exact stays _ rfl
  | updateReconnectionState nowMs =>
      simp only [step]
      split
      · next idle =>
          rw [updateReconnectionState]
          split
          · exact stays _ rfl
          · split
            · exact .of_same rfl rfl rfl (by simp only [Renewed, idle, reduceCtorEq, or_self])
                steady rfl
            · exact .of_same rfl rfl rfl Iff.rfl steady rfl
      · exact stays _ rfl
  | readStarted =>
      simp only [step]
      split
      · next reads =>
          exact .of_same rfl rfl rfl (by simp only [Renewed, reads.1, reduceCtorEq, or_self])
            steady rfl
      · exact stays _ rfl
  | tick deltaMs =>
      simp only [step]
      split
      · next ticking =>
          refine .ticked rfl ticking ?_ ?_ rfl rfl rfl
          · simp only [tick]
            split
            · exact GameEngine.startings_wait load server.engine deltaMs
            · rfl
          · simp only [tick]
            split
            · exact GameEngine.ledger_wait load server.engine deltaMs
            · exact .inl rfl
      · exact stays _ rfl
  | closeGame =>
      simp only [step]
      split
      · next expired =>
          exact .of_same rfl rfl rfl
            (by simp only [Renewed, closeGame, expired, reduceCtorEq, or_self]) steady rfl
      · exact stays _ rfl
  | closeSession =>
      simp only [step]
      split
      · next client rest wasActiveGame closing =>
          exact .of_same rfl rfl rfl (by simp only [Renewed, closing, reduceCtorEq, or_self])
            (.of_phases (phaseOf_disconnect server client)) rfl
      · exact stays _ rfl
  | replaceEngine =>
      simp only [step]
      split
      · next wasActiveGame closing => exact .replaced rfl closing
      · exact stays _ rfl
  | clearSeats =>
      simp only [step]
      split
      · next clearing =>
          exact .of_same rfl rfl rfl
            (by simp only [Renewed, clearSeats, clearing, reduceCtorEq, or_true, true_or])
            steady rfl
      · exact stays _ rfl
  | resetPublisher =>
      simp only [step]
      split
      · next resetting => exact .reset rfl resetting rfl rfl rfl rfl
      · next other => exact stays _ (decide_eq_false other)

/-! ## At most one end between two resets -/

/-- The publisher has heard of the end of the game that the engine plays. -/
structure Publishing (server : GameServer) : Prop where
  registered : server.Registered
  attached : server.engine.eventBus.isSome = true
  renewed : server.Renewed → server.engine.gameOver = false
  heard : ¬ server.Renewed → server.lifecyclePublisher.ended = server.engine.gameOver

theorem Publishing.fresh : GameServer.fresh.Publishing where
  registered := Registered.fresh
  attached := rfl
  renewed := fun _ => rfl
  heard := fun _ => rfl

/-- The bus after the start of a game is published. -/
theorem starts_publish {engine : GameEngine} (attached : engine.eventBus.isSome = true) :
    ((engine.publish { type := .gameStarted }).startings.getD []).length =
        (engine.startings.getD []).length + 1 ∧
      (engine.publish { type := .gameStarted }).ledger = engine.ledger := by
  obtain ⟨bus, found⟩ := Option.isSome_iff_exists.mp attached
  refine ⟨?_, GameEngine.ledger_congr (GameEngine.noticed_publish _ rfl)⟩
  simp only [GameEngine.startings, GameEngine.noticed, GameEngine.publish, found,
    Option.map_some, List.filter_append, Option.getD_some, List.length_append]
  rfl

/-- A new engine on the bus of an old one. -/
theorem published_new (layout : Layout) (engine : GameEngine) :
    (GameEngine.new layout engine.eventBus).endings = engine.endings ∧
      (GameEngine.new layout engine.eventBus).startings = engine.startings ∧
      (GameEngine.new layout engine.eventBus).eventBus = engine.eventBus :=
  ⟨rfl, rfl, rfl⟩

/-- The call that publishes the end of a game that is closed. -/
theorem ends_publishEnded (attached : server.engine.eventBus.isSome = true) :
    server.publishEnded.ends = server.ends + (!server.lifecyclePublisher.ended).toNat ∧
      server.publishEnded.engine.startings = server.engine.startings ∧
      server.publishEnded.engine.eventBus.isSome = true ∧
      server.publishEnded.lifecyclePublisher =
        { server.lifecyclePublisher with ended := true } := by
  obtain ⟨bus, found⟩ := Option.isSome_iff_exists.mp attached
  unfold publishEnded
  split
  · next published =>
      rw [published]
      exact ⟨rfl, rfl, attached, by rw [← published]⟩
  · next unpublished =>
      rw [Bool.eq_false_iff.mpr unpublished]
      refine ⟨?_, GameEngine.startings_publish _ rfl, ?_, rfl⟩
      · simp only [ends, GameEngine.endings, GameEngine.publish, found, Option.map_some,
          List.filter_append, List.length_append]
        rfl
      · simp only [GameEngine.publish, found, Option.map_some, Option.isSome_some]

/-- What is published when the engine of a closed game is replaced. -/
theorem ends_replaceEngine (attached : server.engine.eventBus.isSome = true)
    (wasActiveGame : Bool) :
    (server.replaceEngine wasActiveGame).ends =
        server.ends + (wasActiveGame && !server.lifecyclePublisher.ended).toNat ∧
      (server.replaceEngine wasActiveGame).engine.startings = server.engine.startings ∧
      (server.replaceEngine wasActiveGame).engine.eventBus.isSome = true ∧
      (server.replaceEngine wasActiveGame).lifecyclePublisher =
        { server.lifecyclePublisher with
          ended := server.lifecyclePublisher.ended || wasActiveGame } := by
  cases wasActiveGame with
  | false =>
      obtain ⟨endings, startings, bus⟩ := published_new createInitialBoard server.engine
      have engine : (server.replaceEngine false).engine =
          .new createInitialBoard server.engine.eventBus := rfl
      refine ⟨by rw [ends, engine, endings]; rfl, by rw [engine, startings],
        by rw [engine, bus]; exact attached, ?_⟩
      rw [Bool.or_false]
      rfl
  | true =>
      obtain ⟨ended, started, kept, publisher⟩ := ends_publishEnded attached
      obtain ⟨endings, startings, bus⟩ :=
        published_new createInitialBoard server.publishEnded.engine
      have engine : (server.replaceEngine true).engine =
          .new createInitialBoard server.publishEnded.engine.eventBus := rfl
      refine ⟨by rw [ends, engine, endings]; exact ended, by rw [engine, startings, started],
        by rw [engine, bus]; exact kept, ?_⟩
      have told : (server.replaceEngine true).lifecyclePublisher =
          server.publishEnded.lifecyclePublisher := by
        simp only [replaceEngine, if_true]
      rw [Bool.or_true, told, publisher]

/-- What a wait may do to the ledger, in numbers. -/
theorem ledger_of_wait {engine next : GameEngine} (attached : engine.eventBus.isSome = true)
    (ledger : next.ledger = engine.ledger ∨ ∃ finish, next.ledger = engine.ledger.close finish) :
    next.eventBus.isSome = true ∧ (engine.gameOver = true → next.gameOver = true) ∧
      next.endings.length =
        engine.endings.length + (next.gameOver && !engine.gameOver).toNat := by
  rcases ledger with same | ⟨finish, closed⟩
  · simp only [GameEngine.ledger, Ledger.mk.injEq] at same
    obtain ⟨isOver, bus, endings⟩ := same
    refine ⟨bus.trans attached, fun ended => isOver.trans ended, ?_⟩
    rw [endings, isOver]
    cases engine.gameOver <;> rfl
  · unfold Ledger.close at closed
    split at closed
    · next ended =>
        simp only [GameEngine.ledger, Ledger.mk.injEq] at closed ended
        obtain ⟨isOver, bus, endings⟩ := closed
        refine ⟨bus.trans attached, fun _ => isOver.trans ended, ?_⟩
        rw [endings, isOver, ended]
        rfl
    · next ongoing =>
        simp only [GameEngine.ledger, attached, if_true, Ledger.mk.injEq] at closed ongoing
        obtain ⟨isOver, bus, endings⟩ := closed
        refine ⟨bus, fun _ => isOver, ?_⟩
        rw [endings, isOver, Bool.eq_false_iff.mpr ongoing, List.length_append]
        rfl

/-- What is published after a step, when the publisher is not reset: an end is published when
the publisher has not heard of one. -/
def EndsOnce (earlier server : GameServer) : Prop :=
  server.ends + earlier.lifecyclePublisher.ended.toNat =
    earlier.ends + server.lifecyclePublisher.ended.toNat

theorem EndsOnce.trans {first second third : GameServer} (before : EndsOnce first second)
    (after : EndsOnce second third) : EndsOnce first third := by
  unfold EndsOnce at *
  omega

/-- A step that leaves the publisher, the ledger and the loop's part alone. -/
theorem Publishing.keep {next : GameServer} (publishing : server.Publishing)
    (registered : next.Registered) (ledger : next.engine.ledger = server.engine.ledger)
    (ended : next.lifecyclePublisher.ended = server.lifecyclePublisher.ended)
    (renewed : next.Renewed ↔ server.Renewed) : next.Publishing ∧ EndsOnce server next := by
  simp only [GameEngine.ledger, Ledger.mk.injEq] at ledger
  obtain ⟨isOver, attached, endings⟩ := ledger
  refine ⟨⟨registered, attached.trans publishing.attached, fun changed => ?_,
    fun unchanged => ?_⟩, ?_⟩
  · exact isOver.trans (publishing.renewed (renewed.mp changed))
  · rw [ended, isOver]
    exact publishing.heard fun changed => unchanged (renewed.mpr changed)
  · rw [EndsOnce, ends, endings, ← ends, ended]

/-- **A step keeps the publisher in touch**, and without a reset it publishes an end only if the
publisher has not heard of one. -/
theorem Publishing.step (publishing : server.Publishing) (load : PieceConfigReader)
    (input : ServerStep) :
    (server.step load input).Publishing ∧
      (server.resets input = false → EndsOnce server (server.step load input)) := by
  have told := step_told publishing.registered load input
  have registered := publishing.registered.step load input
  generalize server.step load input = next at told registered ⊢
  have same {next : GameServer} (loop : next.loop = server.loop) :
      next.Renewed ↔ server.Renewed := by
    simp only [Renewed, loop]
  have quietly (both : next.Publishing ∧ EndsOnce server next) :
      next.Publishing ∧ (server.resets input = false → EndsOnce server next) :=
    ⟨both.1, fun _ => both.2⟩
  cases told with
  | silent startings ledger publisher renewed quiet kept =>
      exact quietly (publishing.keep registered ledger (congrArg _ publisher) renewed)
  | begun call started unbegun engine publisher loop moves =>
      exact quietly (publishing.keep registered (congrArg _ engine) (congrArg _ publisher)
        (same loop))
  | announced call announcing engine publisher loop moves =>
      exact quietly (publishing.keep registered (congrArg _ engine)
        ((congrArg LifecyclePublisher.ended publisher).trans rfl) (same loop))
  | published call publishing' engine publisher loop moves =>
      have ledger := (starts_publish publishing.attached).2
      rw [← engine] at ledger
      exact quietly (publishing.keep registered ledger (congrArg _ publisher) (same loop))
  | ticked call ticking startings ledger publisher idle clients =>
      have running : ¬ server.Renewed := by
        simp only [Renewed, ticking, reduceCtorEq, or_self, not_false_eq_true]
      have stopped : ¬ next.Renewed := by
        simp only [Renewed, idle, reduceCtorEq, or_self, not_false_eq_true]
      have heard := publishing.heard running
      obtain ⟨attached, onward, endings⟩ := ledger_of_wait publishing.attached ledger
      have ended : next.lifecyclePublisher.ended = next.engine.gameOver := by
        rw [publisher, heard]
        cases isOver : server.engine.gameOver with
        | true => exact (onward isOver).symm
        | false => exact Bool.and_true _
      refine ⟨⟨registered, attached, fun renewed => absurd renewed stopped, fun _ => ended⟩,
        fun _ => ?_⟩
      rw [EndsOnce, ended, heard, ends, endings, ends]
      cases isOver : server.engine.gameOver with
      | true =>
          rw [onward isOver]
          rfl
      | false =>
          rw [Bool.not_false, Bool.and_true]
          rfl
  | @replaced wasActiveGame call closing =>
      obtain ⟨endings, startings, attached, publisher⟩ :=
        ends_replaceEngine publishing.attached wasActiveGame
      have renewed : (server.replaceEngine wasActiveGame).Renewed := .inl rfl
      refine ⟨⟨registered, attached, fun _ => rfl, fun other => absurd renewed other⟩,
        fun _ => ?_⟩
      rw [EndsOnce, endings, publisher]
      cases server.lifecyclePublisher.ended <;> cases wasActiveGame <;> rfl
  | reset call resetting engine publisher idle clients =>
      have ongoing := publishing.renewed (.inr resetting)
      refine ⟨⟨registered, engine ▸ publishing.attached, fun changed => ?_, fun _ => ?_⟩,
        fun kept => ?_⟩
      · rw [engine]
        exact ongoing
      · rw [publisher, engine]
        exact ongoing.symm
      · subst call
        exact absurd resetting (of_decide_eq_false kept)

/-! ## At most one start between two resets -/

/-- The starts since the last reset of the publisher, before which there were `earlier`. -/
inductive Window (earlier : Nat) (server : GameServer) : Prop
  | uncalled (started : server.lifecyclePublisher.started = false)
      (starts : server.starts = earlier) (none : ∀ client, stage (server.phaseOf client) ≠ 2)
  | called (started : server.lifecyclePublisher.started = true)
      (starts : server.starts = earlier)
      (one : ∀ first second, stage (server.phaseOf first) = 2 → stage (server.phaseOf second) = 2 →
        first = second)
  | published (started : server.lifecyclePublisher.started = true)
      (starts : server.starts = earlier + 1)
      (none : ∀ client, stage (server.phaseOf client) ≠ 2)

theorem Window.bound {earlier : Nat} (window : Window earlier server) :
    earlier ≤ server.starts ∧ server.starts ≤ earlier + 1 := by
  cases window with
  | uncalled started starts none => omega
  | called started starts one => omega
  | published started starts none => omega

/-- Steps by which nobody comes to publish. -/
theorem Window.keep {earlier : Nat} {next : GameServer} (window : Window earlier server)
    (started : next.lifecyclePublisher.started = server.lifecyclePublisher.started)
    (starts : next.starts = server.starts)
    (onward : ∀ client, stage (next.phaseOf client) = 2 → stage (server.phaseOf client) = 2) :
    Window earlier next := by
  cases window with
  | uncalled fresh same none =>
      exact .uncalled (started.trans fresh) (starts.trans same)
        fun client at2 => none client (onward client at2)
  | called remembered same one =>
      exact .called (started.trans remembered) (starts.trans same)
        fun first second at2 also2 => one first second (onward first at2) (onward second also2)
  | published remembered same none =>
      exact .published (started.trans remembered) (starts.trans same)
        fun client at2 => none client (onward client at2)

theorem Quiet.onward {next : GameServer} (quiet : server.Quiet next) (client : ClientId)
    (at2 : stage (next.phaseOf client) = 2) : stage (server.phaseOf client) = 2 := by
  rcases quiet client with same | ⟨-, past⟩
  · exact same.symm.trans at2
  · rw [past] at at2
    cases at2

theorem Moves.onward {client : ClientId} {phase : ClientPhase} {next : GameServer}
    (moves : server.Moves client phase next) (elsewhere : stage (some phase) ≠ 2)
    (other : ClientId) (at2 : stage (next.phaseOf other) = 2) :
    stage (server.phaseOf other) = 2 ∧ other ≠ client := by
  rw [moves other] at at2
  split at at2
  · exact absurd at2 elsewhere
  · next another => exact ⟨at2, another⟩

/-- **A step without a reset stays in the window.** -/
theorem Window.step {earlier : Nat} (window : Window earlier server)
    (publishing : server.Publishing) (load : PieceConfigReader) (input : ServerStep)
    (kept : server.resets input = false) : Window earlier (server.step load input) := by
  have told := step_told publishing.registered load input
  generalize server.step load input = next at told ⊢
  cases told with
  | silent startings ledger publisher renewed quiet same =>
      exact window.keep (congrArg _ publisher) (by rw [starts, startings, ← starts]) quiet.onward
  | begun call started unbegun engine publisher loop moves =>
      exact window.keep (congrArg _ publisher) (by rw [starts, engine, ← starts])
        fun other at2 => (moves.onward (by decide) other at2).1
  | @announced _ client call announcing engine publisher loop moves =>
      have started : next.lifecyclePublisher.started = true := by rw [publisher]
      have same : next.starts = server.starts := by rw [starts, engine, ← starts]
      by_cases remembered : server.lifecyclePublisher.started = true
      · rw [if_pos remembered] at moves
        exact window.keep (started.trans remembered.symm) same
          fun other at2 => (moves.onward (by decide) other at2).1
      · rw [if_neg remembered] at moves
        cases window with
        | called already => exact absurd already remembered
        | published already => exact absurd already remembered
        | uncalled fresh unpublished none =>
            have only : ∀ other, stage (next.phaseOf other) = 2 → other = client := by
              intro other at2
              rw [moves other] at at2
              by_contra another
              rw [if_neg another] at at2
              exact none other at2
            exact .called started (same.trans unpublished)
              fun first second at2 also2 => (only first at2).trans (only second also2).symm
  | @published _ client call phase engine publisher loop moves =>
      have publishes : stage (server.phaseOf client) = 2 := by rw [phase]; rfl
      cases window with
      | uncalled fresh unpublished none => exact absurd publishes (none client)
      | published remembered already none => exact absurd publishes (none client)
      | called remembered unpublished one =>
          refine .published (by rw [publisher]; exact remembered) ?_ fun other at2 => ?_
          · rw [starts, engine, (starts_publish publishing.attached).1, ← starts, unpublished]
          · obtain ⟨was2, another⟩ := moves.onward (by decide) other at2
            exact another (one other client was2 publishes)
  | ticked call ticking startings ledger publisher idle clients =>
      exact window.keep (by rw [publisher]) (by rw [starts, startings, ← starts])
        fun other at2 => phaseOf_of_clients clients other ▸ at2
  | @replaced wasActiveGame call closing =>
      obtain ⟨_, startings, _, publisher⟩ := ends_replaceEngine publishing.attached wasActiveGame
      obtain ⟨engine, told, replaced⟩ := server.replaceEngine_engine wasActiveGame
      exact window.keep (by rw [publisher]) (by rw [starts, startings, ← starts])
        fun other at2 => phaseOf_of_clients (congrArg GameServer.clients replaced) other ▸ at2
  | reset call resetting engine publisher idle clients =>
      subst call
      exact absurd resetting (of_decide_eq_false kept)

/-! ## Runs -/

/-- The server after some steps. -/
def after (load : PieceConfigReader) (steps : List ServerStep) : GameServer :=
  Trace.run (step load) fresh steps

/-- A run in which the publisher is not reset. -/
def NoReset (load : PieceConfigReader) (server : GameServer) (steps : List ServerStep) : Prop :=
  ∀ visit ∈ Trace.visits (step load) server steps, visit.1.resets visit.2 = false

/-- How many starts the thread of a client publishes in a run. -/
def announcements (load : PieceConfigReader) (client : ClientId) (server : GameServer)
    (steps : List ServerStep) : Nat :=
  (Trace.visits (step load) server steps).countP fun visit =>
    visit.2 = .publishEvent client && visit.1.publishes visit.2

/-- A client has begun a game on a fresh engine, and its thread has not called since. -/
def Begun (load : PieceConfigReader) (client : ClientId) (steps : List ServerStep) : Prop :=
  ∃ before epochMs middle, steps = before ++ .beginGame client epochMs :: middle ∧
    (after load before).phaseOf client = some .started ∧
    (after load before).gameWasStarted = false ∧
    (after load before).engine = .new createInitialBoard (after load before).engine.eventBus ∧
    .publishStarted client ∉ middle

/-- **The lifecycle events of a run**: between two resets at most one start and one end, no
start but those that the threads of clients publish, and exactly one by the thread that has
begun a game on a fresh engine, once it is past its call. -/
structure OncePerGame (load : PieceConfigReader) (steps : List ServerStep) : Prop where
  atMostOnce : ∀ before middle rest, steps = before ++ (middle ++ rest) →
    NoReset load (after load before) middle →
    (after load (before ++ middle)).starts ≤ (after load before).starts + 1 ∧
      (after load (before ++ middle)).ends ≤ (after load before).ends + 1
  byClients : ∀ before input rest, steps = before ++ input :: rest →
    (after load (before ++ [input])).starts =
      (after load before).starts + ((after load before).publishes input).toNat
  eachGame : ∀ before client middle rest,
    steps = before ++ .publishStarted client :: (middle ++ rest) → Begun load client before →
    (after load (before ++ .publishStarted client :: middle)).phaseOf client ≠ some .publishing →
    announcements load client (after load (before ++ [.publishStarted client])) middle = 1

/-- No thread is between its call and the bus. -/
def NonePublishing (server : GameServer) : Prop :=
  ∀ client < server.nextClientId, server.phaseOf client ≠ some .publishing

instance (server : GameServer) : Decidable server.NonePublishing :=
  inferInstanceAs (Decidable (∀ client < _, _))

/-- The resets of the publisher divide no call of it. -/
def CallsWhole (load : PieceConfigReader) (steps : List ServerStep) : Prop :=
  ∀ visit ∈ Trace.visits (step load) fresh steps,
    visit.1.resets visit.2 = true → visit.1.NonePublishing

instance (load : PieceConfigReader) (steps : List ServerStep) : Decidable (CallsWhole load steps) :=
  inferInstanceAs (Decidable (∀ visit ∈ _, _))

/-- The publisher was reset between the call for a game that has begun on a fresh engine and
any call before it. -/
def CallsApart (load : PieceConfigReader) (steps : List ServerStep) : Prop :=
  ∀ before first middle second rest,
    steps = before ++ .publishStarted first :: (middle ++ .publishStarted second :: rest) →
    (after load before).phaseOf first = some .announcing →
    Begun load second (before ++ .publishStarted first :: middle) →
    ¬ NoReset load (after load (before ++ [.publishStarted first])) middle

variable {load : PieceConfigReader}

theorem after_append (before rest : List ServerStep) :
    after load (before ++ rest) = Trace.run (step load) (after load before) rest :=
  Trace.run_append ..

theorem after_snoc (before : List ServerStep) (input : ServerStep) :
    after load (before ++ [input]) = (after load before).step load input :=
  after_append before [input]

theorem after_cons (before : List ServerStep) (input : ServerStep) (rest : List ServerStep) :
    after load (before ++ input :: rest) =
      Trace.run (step load) ((after load before).step load input) rest :=
  after_append before (input :: rest)

theorem publishing_after (steps : List ServerStep) : (after load steps).Publishing :=
  Trace.run_invariant (motive := Publishing)
    (fun _ input publishing => (publishing.step load input).1) steps Publishing.fresh

/-! ### Between two resets -/

/-- The ends that are published without a reset. -/
theorem endsOnce_run {server : GameServer} (publishing : server.Publishing)
    (steps : List ServerStep) (noReset : NoReset load server steps) :
    EndsOnce server (Trace.run (step load) server steps) := by
  have reached := Trace.run_rule
    (motive := fun reached : GameServer => reached.Publishing ∧ EndsOnce server reached)
    (fun reached input => reached.resets input = false)
    (fun reached input kept ⟨publishes, once⟩ =>
      ⟨(publishes.step load input).1, once.trans ((publishes.step load input).2 kept)⟩)
    steps server noReset ⟨publishing, rfl⟩
  exact reached.2

/-- The starts that are published without a reset. -/
theorem window_run {server : GameServer} {earlier : Nat} (window : Window earlier server)
    (publishing : server.Publishing) (steps : List ServerStep)
    (noReset : NoReset load server steps) :
    Window earlier (Trace.run (step load) server steps) := by
  have reached := Trace.run_rule
    (motive := fun reached : GameServer => reached.Publishing ∧ Window earlier reached)
    (fun reached input => reached.resets input = false)
    (fun reached input kept ⟨publishes, window⟩ =>
      ⟨(publishes.step load input).1, window.step publishes load input kept⟩)
    steps server noReset ⟨publishing, window⟩
  exact reached.2

/-- A reset that divides no call opens a window. -/
theorem window_reset {server : GameServer} (registered : server.Registered) {input : ServerStep}
    (resets : server.resets input = true) (none : server.NonePublishing) :
    Window server.starts (server.step load input) := by
  cases input with
  | resetPublisher =>
      have resetting : server.loop = .resetting := of_decide_eq_true resets
      simp only [step, resetting, if_true]
      refine .uncalled rfl rfl fun client at2 => ?_
      have publishing : server.phaseOf client = some .publishing := stage_publishing at2
      refine none client ?_ publishing
      by_contra new
      rw [phaseOf, registered.numbered client (Nat.le_of_not_lt new)] at publishing
      cases publishing
  | _ => cases resets

/-- **Every run that divides no call is in a window.** -/
theorem window_after (steps : List ServerStep) (whole : CallsWhole load steps) :
    ∃ earlier, Window earlier (after load steps) := by
  have reached := Trace.run_rule
    (motive := fun reached : GameServer =>
      reached.Publishing ∧ ∃ earlier, Window earlier reached)
    (fun reached input => reached.resets input = true → reached.NonePublishing)
    (fun reached input whole ⟨publishing, earlier, window⟩ => by
      refine ⟨(publishing.step load input).1, ?_⟩
      cases resets : reached.resets input with
      | true => exact ⟨reached.starts, window_reset publishing.registered resets (whole resets)⟩
      | false => exact ⟨earlier, window.step publishing load input resets⟩)
    steps fresh whole
    ⟨Publishing.fresh, 0, .uncalled rfl rfl fun _ => Nat.noConfusion⟩
  exact reached.2

/-! ### The thread that has begun a game -/

/-- **A thread that has begun a game goes on only by itself.** -/
theorem Told.stage_kept {input : ServerStep} {next : GameServer} (told : Told server input next)
    {client : ClientId} (begun : stage (server.phaseOf client) ≠ 0)
    (uncalled : input ≠ .publishStarted client) (unpublished : input ≠ .publishEvent client) :
    stage (next.phaseOf client) = stage (server.phaseOf client) := by
  have elsewhere {mover : ClientId} {phase : ClientPhase} (moves : server.Moves mover phase next)
      (other : client ≠ mover) : stage (next.phaseOf client) = stage (server.phaseOf client) := by
    rw [moves client, if_neg other]
  cases told with
  | silent startings ledger publisher renewed quiet kept =>
      exact (quiet client).resolve_right fun ⟨early, _⟩ => begun early
  | begun call started unbegun engine publisher loop moves =>
      refine elsewhere moves fun own => begun ?_
      rw [own, started]
      rfl
  | announced call announcing engine publisher loop moves =>
      exact elsewhere moves fun own => uncalled (own ▸ call)
  | published call publishing engine publisher loop moves =>
      exact elsewhere moves fun own => unpublished (own ▸ call)
  | ticked call ticking startings ledger publisher idle clients =>
      exact congrArg stage (phaseOf_of_clients clients client)
  | @replaced wasActiveGame call closing =>
      obtain ⟨engine, told, replaced⟩ := server.replaceEngine_engine wasActiveGame
      exact congrArg stage (phaseOf_of_clients (congrArg GameServer.clients replaced) client)
  | reset call resetting engine publisher idle clients =>
      exact congrArg stage (phaseOf_of_clients clients client)

/-- A thread that is past the start of a game publishes nothing. -/
theorem past_step (load : PieceConfigReader) (registered : server.Registered) {client : ClientId}
    (past : stage (server.phaseOf client) = 3) (input : ServerStep) :
    (decide (input = .publishEvent client) && server.publishes input) = false ∧
      stage ((server.step load input).phaseOf client) = 3 := by
  have unready : ∀ phase, stage (some phase) ≠ 3 → server.phaseOf client ≠ some phase :=
    fun phase early own => early (own ▸ past)
  by_cases called : input = .publishStarted client
  · subst called
    simp only [step, unready .announcing (by decide), if_false]
    exact ⟨rfl, past⟩
  · by_cases publishing : input = .publishEvent client
    · subst publishing
      simp only [step, publishes, unready .publishing (by decide), if_false, decide_false,
        Bool.and_false]
      exact ⟨trivial, past⟩
    · rw [decide_eq_false publishing]
      exact ⟨rfl, ((step_told registered load input).stage_kept (past ▸ by decide) called
        publishing).trans past⟩

theorem announcements_past {client : ClientId} (steps : List ServerStep) :
    ∀ {server : GameServer}, server.Registered → stage (server.phaseOf client) = 3 →
      announcements load client server steps = 0 ∧
        stage ((Trace.run (step load) server steps).phaseOf client) = 3 := by
  induction steps with
  | nil => exact fun _ past => ⟨rfl, past⟩
  | cons input rest ih =>
      intro server registered past
      obtain ⟨silent, onward⟩ := past_step load registered past input
      obtain ⟨later, reached⟩ := ih (registered.step load input) onward
      refine ⟨?_, reached⟩
      rw [announcements, Trace.visits, List.countP_cons_of_neg (by simp only [silent]; decide)]
      exact later

/-- **A thread between its call and the bus publishes one start**, once it has gone on. -/
theorem announcements_publishing {client : ClientId} (steps : List ServerStep) :
    ∀ {server : GameServer}, server.Registered → server.phaseOf client = some .publishing →
      (Trace.run (step load) server steps).phaseOf client ≠ some .publishing →
      announcements load client server steps = 1 := by
  induction steps with
  | nil => exact fun _ publishing gone => absurd publishing gone
  | cons input rest ih =>
      intro server registered publishing gone
      by_cases own : input = .publishEvent client
      · subst own
        have moves : server.Moves client .serving (server.step load (.publishEvent client)) := by
          simp only [step, publishing, if_true]
          exact moves_setPhase publishing .serving
        have past : stage ((server.step load (.publishEvent client)).phaseOf client) = 3 := by
          rw [moves client, if_pos rfl]
          rfl
        rw [announcements, Trace.visits,
          List.countP_cons_of_pos (by simp only [publishes, publishing, decide_true,
            Bool.and_self]),
          ← announcements, (announcements_past rest (registered.step load _) past).1]
      · have at2 : stage (server.phaseOf client) = 2 := by
          rw [publishing]
          rfl
        have uncalled : input ≠ .publishStarted client → stage
            ((server.step load input).phaseOf client) = 2 := fun uncalled =>
          ((step_told registered load input).stage_kept (at2 ▸ by decide) uncalled own).trans at2
        have stays : (server.step load input).phaseOf client = some .publishing := by
          by_cases called : input = .publishStarted client
          · subst called
            simp only [step, publishing, Option.some.injEq, reduceCtorEq, if_false]
          · exact stage_publishing (uncalled called)
        rw [announcements, Trace.visits, List.countP_cons_of_neg (by
          simp only [own, decide_false, Bool.false_and]
          decide)]
        exact ih (registered.step load input) stays gone

/-- A client that has begun a game is about to call until it does. -/
theorem announcing_of_begun {client : ClientId} {steps : List ServerStep}
    (begun : Begun load client steps) : (after load steps).phaseOf client = some .announcing := by
  obtain ⟨before, epochMs, middle, rfl, started, unbegun, -, uncalled⟩ := begun
  have announcing : ((after load before).step load (.beginGame client epochMs)).phaseOf client =
      some .announcing := by
    have moves := moves_setPhase started .announcing client
    rw [if_pos rfl] at moves
    simp only [step, started, if_true, beginGame, unbegun, Bool.not_false]
    exact moves
  have kept := Trace.run_rule
    (motive := fun reached : GameServer =>
      reached.Registered ∧ stage (reached.phaseOf client) = 1)
    (fun _ input => input ∈ middle)
    (fun reached input member before => by
      obtain ⟨registered, at1⟩ := before
      refine ⟨registered.step load input, ?_⟩
      by_cases publishing : input = .publishEvent client
      · subst publishing
        simp only [step, stage_announcing at1, Option.some.injEq, reduceCtorEq, if_false]
        rfl
      · exact ((step_told registered load input).stage_kept (at1 ▸ by decide)
          (fun called => uncalled (called ▸ member)) publishing).trans at1)
    middle _ (fun visit member => by
      obtain ⟨earlier, later, rfl, -⟩ := Trace.visits_split member
      exact List.mem_append_right _ (List.mem_cons_self ..))
    ⟨(publishing_after before).registered.step load _, congrArg stage announcing⟩
  rw [after_cons]
  exact stage_announcing kept.2

/-! ### What the publisher remembers -/

/-- Without a reset the publisher forgets no start. -/
theorem remembered_step (publishing : server.Publishing) (input : ServerStep)
    (kept : server.resets input = false) (started : server.lifecyclePublisher.started = true) :
    (server.step load input).lifecyclePublisher.started = true := by
  have told := step_told publishing.registered load input
  generalize server.step load input = next at told ⊢
  cases told with
  | silent startings ledger publisher renewed quiet same => rw [publisher, started]
  | begun call phase unbegun engine publisher loop moves => rw [publisher, started]
  | announced call announcing engine publisher loop moves => rw [publisher]
  | published call publishing engine publisher loop moves => rw [publisher, started]
  | ticked call ticking startings ledger publisher idle clients => rw [publisher, started]
  | @replaced wasActiveGame call closing =>
      rw [(ends_replaceEngine publishing.attached wasActiveGame).2.2.2, started]
  | reset call resetting engine publisher idle clients =>
      subst call
      exact absurd resetting (of_decide_eq_false kept)

/-- The publisher remembers a call since its last reset. -/
theorem started_of_call {before middle : List ServerStep} {client : ClientId}
    (announcing : (after load before).phaseOf client = some .announcing)
    (noReset : NoReset load (after load (before ++ [.publishStarted client])) middle) :
    (after load (before ++ .publishStarted client :: middle)).lifecyclePublisher.started =
      true := by
  have called : (after load (before ++ [.publishStarted client])).lifecyclePublisher.started =
      true := by
    rw [after_snoc]
    simp only [step, announcing, if_true]
    rfl
  have kept := Trace.run_rule
    (motive := fun reached : GameServer =>
      reached.Publishing ∧ reached.lifecyclePublisher.started = true)
    (fun reached input => reached.resets input = false)
    (fun reached input kept before =>
      ⟨(before.1.step load input).1, remembered_step before.1 input kept before.2⟩)
    middle _ noReset ⟨publishing_after _, called⟩
  rw [after_cons, ← after_snoc]
  exact kept.2

/-- And it remembers nothing else. -/
theorem call_of_started (steps : List ServerStep)
    (started : (after load steps).lifecyclePublisher.started = true) :
    ∃ before client middle, steps = before ++ .publishStarted client :: middle ∧
      (after load before).phaseOf client = some .announcing ∧
      NoReset load (after load (before ++ [.publishStarted client])) middle := by
  induction steps using List.reverseRecOn with
  | nil => cases started
  | append_singleton steps input ih =>
      have earlier (remembered : (after load steps).lifecyclePublisher.started = true)
          (kept : (after load steps).resets input = false) :
          ∃ before client middle, steps ++ [input] = before ++ .publishStarted client :: middle ∧
            (after load before).phaseOf client = some .announcing ∧
            NoReset load (after load (before ++ [.publishStarted client])) middle := by
        obtain ⟨before, client, middle, split, announcing, noReset⟩ := ih remembered
        refine ⟨before, client, middle ++ [input], by rw [split, List.append_assoc]; rfl,
          announcing, fun visit member => ?_⟩
        rw [Trace.visits_append, ← after_append, List.append_assoc, List.singleton_append, ← split]
          at member
        rcases List.mem_append.mp member with inside | last
        · exact noReset visit inside
        · rw [List.mem_singleton.mp last]
          exact kept
      have publishing : (after load steps).Publishing := publishing_after steps
      have told := step_told publishing.registered load input
      rw [after_snoc] at started
      generalize (after load steps).step load input = next at told started
      cases told with
      | silent startings ledger publisher renewed quiet same =>
          exact earlier (publisher ▸ started) same
      | begun call phase unbegun engine publisher loop moves =>
          exact earlier (publisher ▸ started) (by rw [call]; rfl)
      | @announced _ client call announcing engine publisher loop moves =>
          exact ⟨steps, client, [], by rw [call], announcing,
            fun visit member => absurd member List.not_mem_nil⟩
      | published call phase engine publisher loop moves =>
          exact earlier (publisher ▸ started) (by rw [call]; rfl)
      | ticked call ticking startings ledger publisher idle clients =>
          rw [publisher] at started
          exact earlier started (by rw [call]; rfl)
      | @replaced wasActiveGame call closing =>
          rw [(ends_replaceEngine publishing.attached wasActiveGame).2.2.2] at started
          exact earlier started (by rw [call]; rfl)
      | reset call resetting engine publisher idle clients =>
          rw [publisher] at started
          cases started

/-- Only a thread between its call and the bus publishes a start. -/
theorem starts_step (publishing : server.Publishing) (input : ServerStep) :
    (server.step load input).starts = server.starts + (server.publishes input).toNat := by
  have told := step_told publishing.registered load input
  by_cases publishes : server.publishes input = true
  · cases input with
    | publishEvent client =>
        have phase : server.phaseOf client = some .publishing := of_decide_eq_true publishes
        have engine : (server.step load (.publishEvent client)).engine =
            server.engine.publish { type := .gameStarted } := by
          simp only [step, phase, if_true]
          rfl
        rw [publishes, starts, engine, (starts_publish publishing.attached).1]
        rfl
    | _ => cases publishes
  · rw [Bool.eq_false_iff.mpr publishes]
    generalize server.step load input = next at told ⊢
    cases told with
    | silent startings => rw [starts, startings]; rfl
    | begun call started unbegun engine => rw [starts, engine]; rfl
    | announced call announcing engine => rw [starts, engine]; rfl
    | published call phase =>
        subst call
        exact absurd (decide_eq_true phase) publishes
    | ticked call ticking startings => rw [starts, startings]; rfl
    | @replaced wasActiveGame call closing =>
        rw [starts, (ends_replaceEngine publishing.attached wasActiveGame).2.1]
        rfl
    | reset call resetting engine => rw [starts, engine]; rfl

/-- **Where resets divide no calls, the lifecycle events are right exactly in the runs in which
the calls for the games lie apart.** -/
theorem oncePerGame_iff (load : PieceConfigReader) (steps : List ServerStep)
    (whole : CallsWhole load steps) : OncePerGame load steps ↔ CallsApart load steps := by
  constructor
  · intro once before first middle second rest split announcing begun noReset
    have remembered := started_of_call announcing noReset
    have swallowed : (after load (before ++ .publishStarted first :: middle ++
        [.publishStarted second])).phaseOf second = some .serving := by
      have moves := moves_setPhase (announcing_of_begun begun) .serving second
      rw [if_pos rfl] at moves
      rw [after_snoc]
      simp only [step, announcing_of_begun begun, if_true, publishStarted, remembered]
      exact moves
    have none := once.eachGame (before ++ .publishStarted first :: middle) second [] rest
      (by rw [split, List.append_assoc]; rfl) begun (by rw [swallowed]; decide)
    cases none
  · intro apart
    refine ⟨fun before middle rest split noReset => ?_, fun before input rest split => ?_,
      fun before client middle rest split begun gone => ?_⟩
    · obtain ⟨earlier, window⟩ := window_after before fun visit member =>
        whole visit (by
          rw [split, Trace.visits_append]
          exact List.mem_append_left _ member)
      have ends := endsOnce_run (publishing_after before) middle noReset
      have later := (window_run window (publishing_after before) middle noReset).bound
      have ended := Bool.toNat_le
        (Trace.run (step load) (after load before) middle).lifecyclePublisher.ended
      rw [after_append]
      unfold EndsOnce at ends
      exact ⟨by have now := window.bound; omega, by omega⟩
    · rw [after_snoc]
      exact starts_step (publishing_after before) input
    · have announcing := announcing_of_begun begun
      have forgotten : (after load before).lifecyclePublisher.started = false := by
        refine Bool.eq_false_iff.mpr fun started => ?_
        obtain ⟨earlier, first, between, rfl, called, noReset⟩ := call_of_started before started
        exact apart earlier first between client (middle ++ rest)
          (by rw [split, List.append_assoc]; rfl) called begun noReset
      have publishing : (after load (before ++ [.publishStarted client])).phaseOf client =
          some .publishing := by
        have moves := moves_setPhase announcing .publishing client
        rw [if_pos rfl] at moves
        rw [after_snoc]
        simp only [step, announcing, if_true, publishStarted, forgotten]
        exact moves
      rw [after_cons, ← after_snoc] at gone
      exact announcements_publishing middle (publishing_after _).registered publishing gone

theorem oncePerGame_iff_startedGame :
    CallsWhole .fallback startedGame ∧ OncePerGame .fallback startedGame := by
  have whole : CallsWhole .fallback startedGame := by decide +kernel
  refine ⟨whole, (oncePerGame_iff .fallback startedGame whole).mpr ?_⟩
  intro before first middle second rest split
  have calls := congrArg (List.countP fun input => input matches .publishStarted _) split
  have one : startedGame.countP (fun input => input matches .publishStarted _) = 1 := by decide
  simp only [one, List.countP_append, List.countP_cons, if_true] at calls
  omega

/-- The game of Alice and Bob is closed, its table is free again, and Carol and Dave have begun
their game before the publisher is reset. -/
def begunBeforeReset : List ServerStep :=
  startedGame ++
    [.disconnect 2, .finish 2 4000, .updateReconnectionState 24000, .closeGame, .closeSession,
      .replaceEngine, .clearSeats, .createSession "" "carol" "tokenC",
      .createSession "" "dave" "tokenD", .checkPlayers 4, .exchangeStarted 4] ++
    [.beginGame 4 30000]

/-- Their start is not published. -/
theorem begunBeforeReset_unannounced : ¬ ∀ load steps, OncePerGame load steps := by
  intro once
  have begun : Begun .fallback 4 begunBeforeReset := by
    refine ⟨_, 30000, [], rfl, by decide +kernel, by decide +kernel, ?_, List.not_mem_nil⟩
    rfl
  have one := (once .fallback (begunBeforeReset ++ [.publishStarted 4])).eachGame
    begunBeforeReset 4 [] [] rfl begun (by decide +kernel)
  cases one

end GameServer

end KungFuChess
