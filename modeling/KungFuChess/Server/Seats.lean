import KungFuChess.Engine.Runs
import KungFuChess.Library.Trace
import KungFuChess.Server.GameServer

/-!
# Seats of a started game

What `createSession` and `removeSession` can do is said once, by `Answered` and
`Removed`. The first use is that no stranger takes a seat of a started game, as
long as sessions are lost and removed one at a time.
-/

set_option autoImplicit false

namespace KungFuChess

/-! ## An engine nobody has played on -/

namespace GameEngine

/-- The initial position, with the clock at zero, no score and no history. -/
def Pristine (engine : GameEngine) : Prop := engine = .new createInitialBoard engine.eventBus

variable {engine : GameEngine}

theorem pristine_new (eventBus : Option EventBus) :
    (new createInitialBoard eventBus).Pristine :=
  rfl

@[simp] theorem getCurrentTimeMs_new (layout : Layout) (eventBus : Option EventBus) :
    (new layout eventBus).getCurrentTimeMs = 0 := rfl

theorem publish_new (layout : Layout) (eventBus : Option EventBus) (event : GameEvent) :
    (new layout eventBus).publish event =
      new layout ((new layout eventBus).publish event).eventBus := rfl

theorem Pristine.publish (pristine : engine.Pristine) (event : GameEvent) :
    (engine.publish event).Pristine := by
  rw [pristine]
  exact publish_new _ _ event

theorem Pristine.clock (pristine : engine.Pristine) : engine.getCurrentTimeMs = 0 := by
  rw [pristine, getCurrentTimeMs_new]

/-- An engine on which at most time has passed. -/
structure Unplayed (engine : GameEngine) : Prop where
  coherent : (engine.view []).Coherent
  clock : 0 ≤ engine.getCurrentTimeMs
  untouched : engine.getCurrentTimeMs = 0 → engine.Pristine

theorem Pristine.unplayed (pristine : engine.Pristine) : engine.Unplayed := by
  rw [pristine]
  exact ⟨new_coherent _ _, le_refl _, fun _ => pristine_new _⟩

theorem Unplayed.publish (unplayed : engine.Unplayed) (event : GameEvent) :
    (engine.publish event).Unplayed :=
  ⟨unplayed.coherent, unplayed.clock, fun clock => (unplayed.untouched clock).publish event⟩

/-- A wait that takes time moves the clock off zero. -/
theorem Unplayed.wait (load : PieceConfigReader) (unplayed : engine.Unplayed) {ms : Int}
    (elapsed : 0 < ms) : (engine.wait load ms).Unplayed := by
  have clock := (wait_journey load unplayed.coherent elapsed.le).2.2
  have start := unplayed.clock
  refine ⟨wait_coherent load unplayed.coherent elapsed.le, by omega, fun stopped => ?_⟩
  omega

end GameEngine

/-- The phases between the first and the last section of `closeExpiredGame`. -/
def LoopPhase.IsClosing : LoopPhase → Prop
  | .closing .. | .clearing => True
  | _ => False

namespace GameServer

variable {server : GameServer}

/-- No game is being closed on the way from one phase outside `closeExpiredGame` to another. -/
theorem closing_outside (closing : server.closingExpiredGame = true ↔ server.loop.IsClosing)
    {phase next : LoopPhase} (stands : server.loop = phase) (outside : ¬ phase.IsClosing)
    (nextOutside : ¬ next.IsClosing) : server.closingExpiredGame = true ↔ next.IsClosing := by
  constructor
  · intro isClosing
    exact absurd (stands ▸ closing.mp isClosing) outside
  · intro isClosing
    exact absurd isClosing nextOutside

/-! ## What the sections do -/

/-- How a handshake is answered, and what it leaves. -/
inductive Answered (server : GameServer) (requestedToken requestedUsername newToken : String) :
    SessionReply × GameServer → Prop
  | rejected (type : MessageType) (reason : String) :
      Answered server requestedToken requestedUsername newToken
        (.rejected type reason, { server with nextClientId := server.nextClientId + 1 })
  | reclaimed (undisturbed : server.closingExpiredGame = false)
      (unexpired : ¬ (requestedToken ≠ "" ∧ requestedToken ∈ server.expiredReconnectTokens))
      (valid : server.ValidReconnect requestedToken) :
      Answered server requestedToken requestedUsername newToken
        (.seated server.nextClientId,
          { server with nextClientId := server.nextClientId + 1 }.reclaimSeat server.nextClientId)
  | assigned {color : PieceColor} (undisturbed : server.closingExpiredGame = false)
      (unexpired : ¬ (requestedToken ≠ "" ∧ requestedToken ∈ server.expiredReconnectTokens))
      (invalid : ¬ server.ValidReconnect requestedToken)
      (unreserved : server.reconnectionPending = false) (vacant : server.Vacant color)
      (first : color = .black → ¬ server.Vacant .white)
      (named : Username.isValid (Username.trim requestedUsername) = true) :
      Answered server requestedToken requestedUsername newToken
        (.seated server.nextClientId,
          { server with nextClientId := server.nextClientId + 1 }.seatClient color
            server.nextClientId newToken (Username.trim requestedUsername))

theorem createSession_answered (server : GameServer)
    (requestedToken requestedUsername newToken : String) :
    server.Answered requestedToken requestedUsername newToken
      (server.createSession requestedToken requestedUsername newToken) := by
  simp only [createSession]
  split
  · exact .rejected _ _
  · next undisturbed =>
      have undisturbed := Bool.eq_false_iff.mpr undisturbed
      split
      · exact .rejected _ _
      · next unexpired =>
          split
          · exact .rejected _ _
          · next checked =>
              split
              · next valid => exact .reclaimed undisturbed unexpired valid
              · next invalid =>
                  have named : Username.isValid (Username.trim requestedUsername) = true := by
                    by_contra unnamed
                    exact checked ⟨invalid, unnamed⟩
                  split
                  · next open' =>
                      exact .assigned undisturbed unexpired invalid open'.1 open'.2
                        PieceColor.noConfusion named
                  · next full =>
                      split
                      · next open' =>
                          exact .assigned undisturbed unexpired invalid open'.1 open'.2
                            (fun _ vacant => full ⟨open'.1, vacant⟩) named
                      · exact .rejected _ _

/-- The server after a session has left its seat. -/
def left (server : GameServer) (client : ClientId) : GameServer :=
  { server.vacate client with gameStarted := false }

/-- What the removal of a session leaves. -/
inductive Removed (server : GameServer) (client : ClientId) (nowMs : Int) : GameServer → Prop
  | absent (unseated : ∀ color, (server.seat color).player ≠ some client) :
      Removed server client nowMs server
  | reserved {color : PieceColor} {known : Client}
      (seated : (server.seat color).player = some client)
      (is : server.clients client = some known) (begun : server.gameWasStarted = true)
      (undisturbed : server.closingExpiredGame = false) :
      Removed server client nowMs
        { server.left client with
          reservedColor := known.session.assignedColor
          reconnectionPending := true
          reconnectionDeadline := nowMs + 20000
          lastReconnectSecondsSent := -1 }
  | forgotten {color : PieceColor} {known : Client}
      (seated : (server.seat color).player = some client) (is : server.clients client = some known)
      (unbegun : server.gameWasStarted = false) :
      Removed server client nowMs
        ((server.left client).setSeat known.session.assignedColor
          { (server.left client).seat known.session.assignedColor with
            reconnectToken := "", username := "" })
  | kept {color : PieceColor} (seated : (server.seat color).player = some client)
      (begun : server.gameWasStarted = true)
      (alone : server.closingExpiredGame = true ∨ ∀ color other, other ≠ client →
        (server.seat color).player = some other → server.isConnected other = false) :
      Removed server client nowMs (server.left client)

theorem vacate_player (server : GameServer) (client : ClientId) (color : PieceColor) :
    ((server.vacate client).seat color).player =
      if (server.seat color).player = some client then none else (server.seat color).player := by
  simp only [vacate]
  split <;> rfl

/-- With nobody else connected, no remaining player is. -/
theorem remaining_alone {client : ClientId}
    (remaining : ¬ ((((server.left client).seat .white).player.or
      ((server.left client).seat .black).player).any server.isConnected = true))
    {color : PieceColor} (seated : (server.seat color).player = some client) :
    ∀ color other, other ≠ client → (server.seat color).player = some other →
      server.isConnected other = false := by
  intro place other distinct held
  refine Bool.eq_false_iff.mpr fun connected => remaining ?_
  have kept : ((server.left client).seat place).player = some other := by
    rw [left, vacate_player, held, if_neg]
    exact fun same => distinct (Option.some.inj same)
  have gone : ((server.left client).seat color).player = none := by
    rw [left, vacate_player, seated, if_pos rfl]
  have apart : color ≠ place := by
    rintro rfl
    rw [gone] at kept
    exact Option.some_ne_none _ kept.symm
  cases color <;> cases place
  · exact absurd rfl apart
  · rw [gone, kept, Option.none_or, Option.any_some, connected]
  · rw [gone, kept, Option.or_none, Option.any_some, connected]
  · exact absurd rfl apart

theorem removeSession_removed (server : GameServer) {client : ClientId} {known : Client}
    (is : server.clients client = some known) (nowMs : Int) :
    server.Removed client nowMs (server.removeSession client nowMs) := by
  simp only [removeSession, is]
  split
  · next unseated =>
      refine .absent fun color => ?_
      cases color with
      | white => exact unseated.1
      | black => exact unseated.2
  · next seated =>
      have seated : ∃ color, (server.seat color).player = some client := by
        by_contra nowhere
        exact seated ⟨fun here => nowhere ⟨_, here⟩, fun here => nowhere ⟨_, here⟩⟩
      obtain ⟨color, seated⟩ := seated
      split
      · next open' => exact .reserved seated is open'.1 (Bool.eq_false_iff.mpr open'.2.1)
      · next alone =>
          split
          · next unbegun => exact .forgotten seated is (Bool.eq_false_iff.mpr unbegun)
          · next begun =>
              have begun : server.gameWasStarted = true := not_not.mp begun
              refine .kept seated begun ?_
              by_cases undisturbed : server.closingExpiredGame = true
              · exact .inl undisturbed
              · exact .inr (remaining_alone (fun met => alone ⟨begun, undisturbed, met⟩) seated)

/-- What a step does: the section of a thread that stands there, or nothing. -/
inductive Section (load : PieceConfigReader) (server : GameServer) :
    ServerStep → GameServer → Prop
  | idle {input : ServerStep} : Section load server input server
  | createSession (requestedToken requestedUsername newToken : String) :
      Section load server (.createSession requestedToken requestedUsername newToken)
        (server.createSession requestedToken requestedUsername newToken).2
  | disconnect (client : ClientId) :
      Section load server (.disconnect client) (server.disconnect client)
  | removeSession {client : ClientId} (lost : server.isConnected client = false) (nowMs : Int) :
      Section load server (.removeSession client nowMs) (server.removeSession client nowMs)
  | checkPlayers {client : ClientId} (greeting : server.phaseOf client = some .greeting) :
      Section load server (.checkPlayers client)
        (server.setPhase client (if server.hasTwoPlayers then .starting else .serving))
  | exchangeStarted {client : ClientId} (starting : server.phaseOf client = some .starting) :
      Section load server (.exchangeStarted client) (server.exchangeStarted client)
  | beginGame {client : ClientId} (started : server.phaseOf client = some .started)
      (epochMs : Int) :
      Section load server (.beginGame client epochMs) (server.beginGame client epochMs)
  | publishStarted {client : ClientId} (announcing : server.phaseOf client = some .announcing) :
      Section load server (.publishStarted client) (server.publishStarted client)
  | publishEvent {client : ClientId} (publishing : server.phaseOf client = some .publishing) :
      Section load server (.publishEvent client) (server.publishEvent client)
  | handleRequest {client : ClientId} (serving : server.phaseOf client = some .serving)
      (request : Request) (epochMs : Int) :
      Section load server (.handleRequest client request epochMs)
        (server.handleRequest load client request epochMs).2
  | finish {client : ClientId} (lost : server.isConnected client = false)
      (phase : server.phaseOf client = some .greeting ∨ server.phaseOf client = some .serving)
      (nowMs : Int) :
      Section load server (.finish client nowMs)
        ((server.removeSession client nowMs).setPhase client .finished)
  | updateReconnectionState (idle : server.loop = .idle) (nowMs : Int) :
      Section load server (.updateReconnectionState nowMs) (server.updateReconnectionState nowMs)
  | readStarted (idle : server.loop = .idle) (started : server.gameStarted = true) :
      Section load server .readStarted { server with loop := .ticking }
  | tick (ticking : server.loop = .ticking) (deltaMs : Int) :
      Section load server (.tick deltaMs) (server.tick load deltaMs)
  | closeGame (expired : server.loop = .expired) :
      Section load server .closeGame server.closeGame
  | closeSession {client : ClientId} {rest : List ClientId} {wasActiveGame : Bool}
      (closing : server.loop = .closing (client :: rest) wasActiveGame) :
      Section load server .closeSession
        { server.disconnect client with loop := .closing rest wasActiveGame }
  | replaceEngine {wasActiveGame : Bool} (closing : server.loop = .closing [] wasActiveGame) :
      Section load server .replaceEngine (server.replaceEngine wasActiveGame)
  | clearSeats (clearing : server.loop = .clearing) :
      Section load server .clearSeats server.clearSeats
  | resetPublisher (resetting : server.loop = .resetting) :
      Section load server .resetPublisher
        { server with lifecyclePublisher := {}, loop := .idle }

/-- **Every step is a section of its thread.** -/
theorem step_section (load : PieceConfigReader) (server : GameServer) (input : ServerStep) :
    Section load server input (server.step load input) := by
  cases input with
  | createSession requestedToken requestedUsername newToken => exact .createSession _ _ _
  | disconnect client => exact .disconnect client
  | removeSession client nowMs =>
      simp only [step]
      split
      · exact .idle
      · next lost => exact .removeSession (Bool.eq_false_iff.mpr lost) nowMs
  | checkPlayers client =>
      rw [step]
      split
      · next greeting => exact .checkPlayers greeting
      · exact .idle
  | exchangeStarted client =>
      rw [step]
      split
      · next starting => exact .exchangeStarted starting
      · exact .idle
  | beginGame client epochMs =>
      rw [step]
      split
      · next started => exact .beginGame started epochMs
      · exact .idle
  | publishStarted client =>
      rw [step]
      split
      · next announcing => exact .publishStarted announcing
      · exact .idle
  | publishEvent client =>
      rw [step]
      split
      · next publishing => exact .publishEvent publishing
      · exact .idle
  | handleRequest client request epochMs =>
      rw [step]
      split
      · next serving => exact .handleRequest serving request epochMs
      · exact .idle
  | finish client nowMs =>
      rw [step]
      split
      · next ended => exact .finish ended.1 ended.2 nowMs
      · exact .idle
  | updateReconnectionState nowMs =>
      rw [step]
      split
      · next idle => exact .updateReconnectionState idle nowMs
      · exact .idle
  | readStarted =>
      rw [step]
      split
      · next reads => exact .readStarted reads.1 reads.2
      · exact .idle
  | tick deltaMs =>
      rw [step]
      split
      · next ticking => exact .tick ticking deltaMs
      · exact .idle
  | closeGame =>
      rw [step]
      split
      · next expired => exact .closeGame expired
      · exact .idle
  | closeSession =>
      rw [step]
      split
      · next closing => exact .closeSession closing
      · exact .idle
  | replaceEngine =>
      rw [step]
      split
      · next closing => exact .replaceEngine closing
      · exact .idle
  | clearSeats =>
      rw [step]
      split
      · next clearing => exact .clearSeats clearing
      · exact .idle
  | resetPublisher =>
      rw [step]
      split
      · next resetting => exact .resetPublisher resetting
      · exact .idle

/-! ## Runs in which sessions are lost and removed in time -/

/-- Every seat is held, whether or not its session is still connected. -/
def Full (server : GameServer) : Prop := ∀ color, (server.seat color).player.isSome = true

instance (server : GameServer) : Decidable server.Full :=
  inferInstanceAs (Decidable (∀ _, _))

/-- A session of a game under way leaves while a seat is reserved already, or while another
player is connected; before the game is under way, no time may have passed on its engine. -/
def LeavesInTime (server : GameServer) (client : ClientId) : Prop :=
  server.closingExpiredGame = false → (∃ color, (server.seat color).player = some client) →
    (server.gameWasStarted = true → server.reconnectionPending = true ∨
      ∃ color, ∃ other ∈ (server.seat color).player,
        other ≠ client ∧ server.isConnected other = true) ∧
    (server.gameWasStarted = false →
      server.engine.getCurrentTimeMs = 0 ∧ server.loop ≠ .ticking)

instance (server : GameServer) (client : ClientId) : Decidable (server.LeavesInTime client) :=
  inferInstanceAs (Decidable (_ → _ → _ ∧ _))

/-- A handshake that is answered. -/
def Answers (server : GameServer) (requestedToken : String) : Prop :=
  server.closingExpiredGame = false ∧
    ¬ (requestedToken ≠ "" ∧ requestedToken ∈ server.expiredReconnectTokens)

instance (server : GameServer) (requestedToken : String) :
    Decidable (server.Answers requestedToken) :=
  inferInstanceAs (Decidable (_ ∧ _))

/-- The steps that keep the seats of a game under way. A seat is reclaimed while the other
one is held; a stranger does not arrive between the loss of a session and its removal;
sessions leave in time; and the start block finds the two players it has checked for. -/
def Orderly (server : GameServer) : ServerStep → Prop
  | .createSession requestedToken requestedUsername _ =>
      server.Answers requestedToken →
        (server.ValidReconnect requestedToken →
          (server.seat server.reservedColor.opposite).player.isSome = true) ∧
        (server.reconnectionPending = false →
          Username.isValid (Username.trim requestedUsername) = true →
          server.gameWasStarted = true ∨ server.engine.getCurrentTimeMs ≠ 0 →
            ∀ color, ∀ client ∈ (server.seat color).player, server.isConnected client = true)
  | .removeSession client _ => server.isConnected client = false → server.LeavesInTime client
  | .finish client _ =>
      server.isConnected client = false →
        server.phaseOf client = some .greeting ∨ server.phaseOf client = some .serving →
          server.LeavesInTime client
  | .exchangeStarted client =>
      server.phaseOf client = some .starting → server.gameStarted = false →
        server.closingExpiredGame = false ∧ (server.gameWasStarted = true ∨ server.Full)
  | .beginGame client _ =>
      server.phaseOf client = some .started → server.closingExpiredGame = false → server.Full
  | _ => True

instance (server : GameServer) : ∀ step, Decidable (server.Orderly step)
  | .createSession .. => inferInstanceAs (Decidable (_ → _ ∧ _))
  | .removeSession .. => inferInstanceAs (Decidable (_ → _))
  | .finish .. => inferInstanceAs (Decidable (_ → _ → _))
  | .exchangeStarted _ => inferInstanceAs (Decidable (_ → _ → _))
  | .beginGame .. => inferInstanceAs (Decidable (_ → _ → _))
  | .disconnect _ | .checkPlayers _ | .publishStarted _ | .publishEvent _ | .handleRequest ..
  | .updateReconnectionState _ | .readStarted | .tick _ | .closeGame | .closeSession
  | .replaceEngine | .clearSeats | .resetPublisher => .isTrue trivial

/-- A seat that is given to somebody stays held. -/
theorem Full.seatClient (full : server.Full) (color : PieceColor) (client : ClientId)
    (reconnectToken username : String) :
    (server.seatClient color client reconnectToken username).Full := by
  intro other
  by_cases own : other = color
  · subst own
    simp only [GameServer.seatClient, setSeat, setClient, Function.update_self, Option.isSome_some]
  · simp only [GameServer.seatClient, setSeat, setClient, Function.update_of_ne own]
    exact full other

/-- What an orderly run keeps: before a game is under way its engine is unplayed, and a game
under way has two held seats, or a reserved one, or is being closed. -/
structure Sound (server : GameServer) : Prop where
  unplayed : server.gameWasStarted = false → server.engine.Unplayed
  waiting : server.gameWasStarted = false → server.gameStarted = false →
    server.engine.getCurrentTimeMs = 0 ∧ server.loop ≠ .ticking
  countdown : server.gameWasStarted = false → server.gameplayStartsAtEpochMs = 0
  held : server.gameWasStarted = true →
    server.closingExpiredGame = true ∨ server.reconnectionPending = true ∨ server.Full
  starting : server.gameStarted = true → server.gameWasStarted = false → server.Full
  pending : server.reconnectionPending = true → server.gameWasStarted = true
  expired : server.loop = .expired → server.gameWasStarted = true
  closing : server.closingExpiredGame = true ↔ server.loop.IsClosing
  closed : server.closingExpiredGame = true → server.gameWasStarted = true ∧
    server.gameStarted = false ∧ server.reconnectionPending = false
  cleared : server.loop = .clearing → server.engine.Pristine

namespace Sound

theorem fresh : GameServer.fresh.Sound where
  unplayed _ := (GameEngine.pristine_new _).unplayed
  waiting _ _ := ⟨rfl, LoopPhase.noConfusion⟩
  countdown _ := rfl
  held := Bool.noConfusion
  starting := Bool.noConfusion
  pending := Bool.noConfusion
  expired := LoopPhase.noConfusion
  closing := ⟨Bool.noConfusion, False.elim⟩
  closed := Bool.noConfusion
  cleared := LoopPhase.noConfusion

variable (sound : server.Sound)

include sound

/-- Clients and their threads are not what it is about. -/
theorem modifyClient (client : ClientId) (change : Client → Client) :
    (server.modifyClient client change).Sound :=
  { sound with }

theorem nextClientId (next : ClientId) : Sound { server with nextClientId := next } :=
  { sound with }

/-- A handshake in an orderly run. -/
theorem createSession {requestedToken requestedUsername newToken : String}
    (orderly : server.Orderly (.createSession requestedToken requestedUsername newToken)) :
    (server.createSession requestedToken requestedUsername newToken).2.Sound := by
  have answered := server.createSession_answered requestedToken requestedUsername newToken
  generalize server.createSession requestedToken requestedUsername newToken = answer at answered
  cases answered with
  | rejected type reason => exact sound.nextClientId _
  | reclaimed undisturbed unexpired valid =>
      have other := (orderly ⟨undisturbed, unexpired⟩).1 valid
      have full : (reclaimSeat { server with nextClientId := server.nextClientId + 1 }
          server.nextClientId).Full := by
        intro color
        by_cases own : color = server.reservedColor
        · subst own
          simp only [reclaimSeat, seatClient, setSeat, setClient, Function.update_self,
            Option.isSome_some]
        · have opposite : color = server.reservedColor.opposite :=
            ((PieceColor.opposite_eq_iff _ _).mpr (Ne.symm own)).symm
          simp only [reclaimSeat, seatClient, setSeat, setClient, Function.update_of_ne own]
          rw [opposite]
          exact other
      exact { sound with
        held := fun _ => .inr (.inr full)
        starting := fun _ _ => full
        pending := Bool.noConfusion
        closed := fun closing => absurd (undisturbed.symm.trans closing) Bool.false_ne_true }
  | @assigned color undisturbed unexpired invalid unreserved vacant first named =>
      have numbered (full : server.Full) (token username : String) :
          (GameServer.seatClient { server with nextClientId := server.nextClientId + 1 } color
            server.nextClientId token username).Full :=
        Full.seatClient full color server.nextClientId token username
      exact { sound with
        held := fun begun => (sound.held begun).imp_right fun kept => kept.imp_right fun full =>
          numbered full _ _
        starting := fun started begun => numbered (sound.starting started begun) _ _ }

/-- A session that leaves in time. -/
theorem removeSession {client : ClientId} (nowMs : Int) (inTime : server.LeavesInTime client) :
    (server.removeSession client nowMs).Sound := by
  cases is : server.clients client with
  | none =>
      simp only [GameServer.removeSession, is]
      exact sound
  | some known =>
      have removed := server.removeSession_removed is nowMs
      generalize server.removeSession client nowMs = next at removed
      cases removed with
      | absent unseated => exact sound
      | reserved seated is begun undisturbed =>
          exact { sound with
            waiting := fun unbegun => absurd (unbegun.symm.trans begun) Bool.false_ne_true
            held := fun _ => .inr (.inl rfl)
            starting := Bool.noConfusion
            pending := fun _ => begun
            closed := fun closing => absurd (undisturbed.symm.trans closing) Bool.false_ne_true }
      | forgotten seated is unbegun =>
          have undisturbed : server.closingExpiredGame = false := by
            by_contra closing
            have begun := (sound.closed (Bool.not_eq_false _ ▸ closing)).1
            exact Bool.false_ne_true (unbegun.symm.trans begun)
          exact { sound with
            waiting := fun _ _ => (inTime undisturbed ⟨_, seated⟩).2 unbegun
            held := fun begun => absurd (unbegun.symm.trans begun) Bool.false_ne_true
            starting := Bool.noConfusion
            closed := fun closing =>
              ⟨(sound.closed closing).1, rfl, (sound.closed closing).2.2⟩ }
      | kept seated begun alone =>
          refine { sound with
            waiting := fun unbegun => absurd (unbegun.symm.trans begun) Bool.false_ne_true
            held := fun _ => ?_
            starting := Bool.noConfusion
            closed := fun closing => ⟨begun, rfl, (sound.closed closing).2.2⟩ }
          rcases alone with closing | alone
          · exact .inl closing
          · by_cases closing : server.closingExpiredGame = true
            · exact .inl closing
            · refine .inr (.inl ?_)
              rcases (inTime (Bool.eq_false_iff.mpr closing) ⟨_, seated⟩).1 begun with
                reserved | ⟨place, other, here, distinct, connected⟩
              · exact reserved
              · have lost := alone place other distinct here
                exact absurd (lost.symm.trans connected) Bool.false_ne_true

/-- The start block, with both players in their seats. -/
theorem exchangeStarted (client : ClientId)
    (orderly : server.gameStarted = false →
      server.closingExpiredGame = false ∧ (server.gameWasStarted = true ∨ server.Full)) :
    (server.exchangeStarted client).Sound := by
  have undisturbed : server.closingExpiredGame = false := by
    cases started : server.gameStarted with
    | false => exact (orderly started).1
    | true =>
        by_contra closing
        have stopped := (sound.closed (Bool.not_eq_false _ ▸ closing)).2.1
        exact Bool.false_ne_true (stopped.symm.trans started)
  have full : server.gameWasStarted = false → server.Full := by
    intro unbegun
    cases started : server.gameStarted with
    | false =>
        exact (orderly started).2.resolve_left fun begun =>
          Bool.false_ne_true (unbegun.symm.trans begun)
    | true => exact sound.starting started unbegun
  exact { sound with
    waiting := fun _ => Bool.noConfusion
    starting := fun _ => full
    closed := fun closing => absurd (undisturbed.symm.trans closing) Bool.false_ne_true }

theorem beginGame (client : ClientId) (epochMs : Int)
    (orderly : server.closingExpiredGame = false → server.Full) :
    (server.beginGame client epochMs).Sound := by
  refine { sound with
    unplayed := Bool.noConfusion
    waiting := Bool.noConfusion
    countdown := Bool.noConfusion
    held := fun _ => ?_
    starting := fun _ => Bool.noConfusion
    pending := Bool.noConfusion
    expired := fun _ => rfl
    closed := fun closing => ⟨rfl, (sound.closed closing).2.1, rfl⟩ }
  cases closing : server.closingExpiredGame with
  | true => exact .inl closing
  | false => exact .inr (.inr (orderly closing))

theorem publishEvent (client : ClientId) : (server.publishEvent client).Sound :=
  have moved : (server.setPhase client .serving).Sound := sound.modifyClient client _
  { moved with
    unplayed := fun unbegun => (sound.unplayed unbegun).publish _
    cleared := fun cleared => (sound.cleared cleared).publish _ }

/-- Requests are answered once the game is under way. -/
theorem handleRequest (load : PieceConfigReader) (client : ClientId) (request : Request)
    (epochMs : Int) : (server.handleRequest load client request epochMs).2.Sound := by
  rw [GameServer.handleRequest]
  split
  · exact sound
  · split
    · exact sound
    · next enabled =>
        split
        · exact sound
        · have enabled := not_not.mp enabled
          rw [isGameplayEnabled, Bool.and_eq_true, Bool.and_eq_true, decide_eq_true_eq] at enabled
          have begun : server.gameWasStarted = true := by
            by_contra unbegun
            have countdown := sound.countdown (Bool.eq_false_iff.mpr unbegun)
            exact absurd countdown enabled.1.2.ne'
          have undisturbed : server.loop ≠ .clearing := by
            intro cleared
            have closing := sound.closing.mpr (cleared ▸ trivial)
            exact Bool.false_ne_true ((sound.closed closing).2.1.symm.trans enabled.1.1)
          exact { sound with
            unplayed := fun unbegun => absurd (unbegun.symm.trans begun) Bool.false_ne_true
            waiting := fun unbegun => absurd (unbegun.symm.trans begun) Bool.false_ne_true
            cleared := fun cleared => absurd cleared undisturbed }

/-! ### The game loop -/

theorem updateReconnectionState (idle : server.loop = .idle) (nowMs : Int) :
    (server.updateReconnectionState nowMs).Sound := by
  rw [GameServer.updateReconnectionState]
  split
  · exact sound
  · next reserved =>
      split
      · exact { sound with
          waiting := fun unbegun stopped =>
            ⟨(sound.waiting unbegun stopped).1, LoopPhase.noConfusion⟩
          expired := fun _ => sound.pending (not_not.mp reserved)
          closing := closing_outside sound.closing idle id id
          cleared := LoopPhase.noConfusion }
      · exact { sound with }

theorem readStarted (idle : server.loop = .idle) (started : server.gameStarted = true) :
    Sound { server with loop := .ticking } := by
  exact { sound with
    waiting := fun _ stopped => absurd (stopped.symm.trans started) Bool.false_ne_true
    expired := LoopPhase.noConfusion
    closing := closing_outside sound.closing idle id id
    cleared := LoopPhase.noConfusion }

/-- Time passes only on the engine of a game that has been started. -/
theorem tick (load : PieceConfigReader) (ticking : server.loop = .ticking) (deltaMs : Int) :
    (server.tick load deltaMs).Sound := by
  refine { sound with
    unplayed := fun unbegun => ?_
    waiting := fun unbegun stopped => absurd ticking (sound.waiting unbegun stopped).2
    expired := LoopPhase.noConfusion
    closing := closing_outside sound.closing ticking id id
    cleared := LoopPhase.noConfusion }
  simp only [GameServer.tick]
  split
  · next elapsed => exact (sound.unplayed unbegun).wait load elapsed
  · exact sound.unplayed unbegun

theorem closeGame (expired : server.loop = .expired) : server.closeGame.Sound :=
  { sound with
    waiting := fun unbegun =>
      absurd (unbegun.symm.trans (sound.expired expired)) Bool.false_ne_true
    held := fun _ => .inl rfl
    starting := Bool.noConfusion
    pending := Bool.noConfusion
    expired := LoopPhase.noConfusion
    closing := ⟨fun _ => trivial, fun _ => rfl⟩
    closed := fun _ => ⟨sound.expired expired, rfl, rfl⟩
    cleared := LoopPhase.noConfusion }

theorem closeSession {client : ClientId} {rest : List ClientId} {wasActiveGame : Bool}
    (closing : server.loop = .closing (client :: rest) wasActiveGame) :
    Sound { server.disconnect client with loop := .closing rest wasActiveGame } := by
  have isClosing : server.closingExpiredGame = true := sound.closing.mpr (closing ▸ trivial)
  exact { sound with
    waiting := fun unbegun =>
      absurd (unbegun.symm.trans (sound.closed isClosing).1) Bool.false_ne_true
    expired := LoopPhase.noConfusion
    closing := ⟨fun _ => trivial, fun _ => isClosing⟩
    cleared := LoopPhase.noConfusion }

theorem publishEnded : server.publishEnded.Sound := by
  rw [GameServer.publishEnded]
  split
  · exact sound
  · exact { sound with
      unplayed := fun unbegun => (sound.unplayed unbegun).publish _
      cleared := fun cleared => (sound.cleared cleared).publish _ }

theorem replaceEngine {wasActiveGame : Bool} (closing : server.loop = .closing [] wasActiveGame) :
    (server.replaceEngine wasActiveGame).Sound := by
  have isClosing : server.closingExpiredGame = true := sound.closing.mpr (closing ▸ trivial)
  have published : Sound (if wasActiveGame then server.publishEnded else server) := by
    split
    · exact sound.publishEnded
    · exact sound
  have still :
      (if wasActiveGame then server.publishEnded else server).closingExpiredGame = true := by
    split
    · rw [GameServer.publishEnded]
      split
      · exact isClosing
      · exact isClosing
    · exact isClosing
  simp only [GameServer.replaceEngine]
  generalize (if wasActiveGame then server.publishEnded else server) = closed at published still ⊢
  have pristine := GameEngine.pristine_new closed.engine.eventBus
  -- the new engine stays folded: its board is not to be computed
  generalize GameEngine.new createInitialBoard closed.engine.eventBus = engine at pristine ⊢
  exact { published with
    unplayed := fun _ => pristine.unplayed
    waiting := fun unbegun =>
      absurd (unbegun.symm.trans (published.closed still).1) Bool.false_ne_true
    expired := LoopPhase.noConfusion
    closing := ⟨fun _ => trivial, fun _ => still⟩
    cleared := fun _ => pristine }

/-- A closed game leaves a fresh table. -/
theorem clearSeats (clearing : server.loop = .clearing) : server.clearSeats.Sound := by
  have closing : server.closingExpiredGame = true := sound.closing.mpr (clearing ▸ trivial)
  have pristine : server.engine.Pristine := sound.cleared clearing
  exact { sound with
    unplayed := fun _ => pristine.unplayed
    waiting := fun _ _ => ⟨pristine.clock, LoopPhase.noConfusion⟩
    countdown := fun _ => rfl
    held := Bool.noConfusion
    starting := fun started =>
      absurd ((sound.closed closing).2.1.symm.trans started) Bool.false_ne_true
    pending := fun pending =>
      absurd ((sound.closed closing).2.2.symm.trans pending) Bool.false_ne_true
    expired := LoopPhase.noConfusion
    closing := ⟨Bool.noConfusion, False.elim⟩
    closed := Bool.noConfusion
    cleared := LoopPhase.noConfusion }

theorem resetPublisher (resetting : server.loop = .resetting) :
    Sound { server with lifecyclePublisher := {}, loop := .idle } := by
  exact { sound with
    waiting := fun unbegun stopped => ⟨(sound.waiting unbegun stopped).1, LoopPhase.noConfusion⟩
    expired := LoopPhase.noConfusion
    closing := closing_outside sound.closing resetting id id
    cleared := LoopPhase.noConfusion }

/-- **An orderly step keeps a server sound.** -/
theorem step (load : PieceConfigReader) {input : ServerStep} (orderly : server.Orderly input) :
    (server.step load input).Sound := by
  have taken := server.step_section load input
  generalize server.step load input = next at taken ⊢
  cases taken with
  | idle => exact sound
  | createSession requestedToken requestedUsername newToken => exact sound.createSession orderly
  | disconnect client => exact sound.modifyClient client _
  | removeSession lost nowMs => exact sound.removeSession nowMs (orderly lost)
  | checkPlayers greeting => exact sound.modifyClient _ _
  | exchangeStarted starting => exact sound.exchangeStarted _ (orderly starting)
  | beginGame started epochMs => exact sound.beginGame _ epochMs (orderly started)
  | @publishStarted client announcing =>
      have moved : (server.setPhase client (if server.lifecyclePublisher.started then .serving
          else .publishing)).Sound := sound.modifyClient client _
      exact { moved with }
  | publishEvent publishing => exact sound.publishEvent _
  | handleRequest serving request epochMs => exact sound.handleRequest load _ request epochMs
  | finish lost phase nowMs =>
      exact (sound.removeSession nowMs (orderly lost phase)).modifyClient _ _
  | updateReconnectionState idle nowMs => exact sound.updateReconnectionState idle nowMs
  | readStarted idle started => exact sound.readStarted idle started
  | tick ticking deltaMs => exact sound.tick load ticking deltaMs
  | closeGame expired => exact sound.closeGame expired
  | closeSession closing => exact sound.closeSession closing
  | replaceEngine closing => exact sound.replaceEngine closing
  | clearSeats clearing => exact sound.clearSeats clearing
  | resetPublisher resetting => exact sound.resetPublisher resetting

/-- A sound server gives no seat of a game under way to a stranger. -/
theorem createSession_stranger {requestedToken requestedUsername newToken : String}
    {client : ClientId}
    (orderly : server.Orderly (.createSession requestedToken requestedUsername newToken))
    (seated : (server.createSession requestedToken requestedUsername newToken).1 = .seated client)
    (stranger : ¬ server.ValidReconnect requestedToken) :
    server.gameWasStarted = false ∧ server.engine.Pristine := by
  have answered := server.createSession_answered requestedToken requestedUsername newToken
  generalize server.createSession requestedToken requestedUsername newToken = answer at *
  cases answered with
  | rejected type reason => cases seated
  | reclaimed undisturbed unexpired valid => exact absurd valid stranger
  | @assigned color undisturbed unexpired invalid unreserved vacant first named =>
      -- the seat is not held by a lost session, so nobody holds it
      have idle : ¬ (server.Full ∧
          (server.gameWasStarted = true ∨ server.engine.getCurrentTimeMs ≠ 0)) := by
        rintro ⟨full, played⟩
        obtain ⟨holder, held⟩ := Option.isSome_iff_exists.mp (full color)
        have connected := (orderly ⟨undisturbed, unexpired⟩).2 unreserved named played color holder
          held
        exact absurd ((vacant holder held).symm.trans connected) Bool.false_ne_true
      have unbegun : server.gameWasStarted = false := by
        by_contra begun
        have begun := Bool.not_eq_false _ ▸ begun
        rcases sound.held begun with closing | reserved | full
        · exact absurd (undisturbed.symm.trans closing) Bool.false_ne_true
        · exact absurd (unreserved.symm.trans reserved) Bool.false_ne_true
        · exact idle ⟨full, .inl begun⟩
      refine ⟨unbegun, (sound.unplayed unbegun).untouched ?_⟩
      by_contra passed
      cases started : server.gameStarted with
      | false => exact passed (sound.waiting unbegun started).1
      | true => exact idle ⟨sound.starting started unbegun, .inr passed⟩

end Sound

/-- A handshake seats a client that does not present the token of the reserved seat only before
a game, on a fresh engine. -/
def Unclaimed (server : GameServer) (input : ServerStep) : Prop :=
  ∀ requestedToken requestedUsername newToken client,
    input = .createSession requestedToken requestedUsername newToken →
    (server.createSession requestedToken requestedUsername newToken).1 = .seated client →
    ¬ server.ValidReconnect requestedToken →
      server.gameWasStarted = false ∧ server.engine.Pristine

/-- **No stranger takes a seat of a game under way**, whatever the order in which the threads
run, as long as each step is orderly. -/
theorem run_unclaimed (load : PieceConfigReader) (steps : List ServerStep)
    (orderly : ∀ visit ∈ Trace.visits (step load) fresh steps, visit.1.Orderly visit.2) :
    ∀ visit ∈ Trace.visits (step load) fresh steps, visit.1.Unclaimed visit.2 := by
  intro visit member requestedToken requestedUsername newToken client shakes seated stranger
  have sound := Trace.visits_rule (motive := Sound) (fun server input => server.Orderly input)
    (fun server input orderly sound => sound.step load orderly) steps fresh orderly Sound.fresh
    visit member
  exact sound.createSession_stranger (shakes ▸ orderly visit member) seated stranger

/-- Alice and Bob join and the game starts. -/
def startedGame : List ServerStep :=
  [.createSession "" "alice" "tokenA", .createSession "" "bob" "tokenB",
    .checkPlayers 2, .exchangeStarted 2, .beginGame 2 1000, .publishStarted 2, .publishEvent 2,
    .checkPlayers 1, .exchangeStarted 1, .updateReconnectionState 0, .readStarted, .tick 16]

/-- Alice is lost and comes back; then Bob is lost and does not; Carol finds a fresh table. -/
def lostInTurn : List ServerStep :=
  startedGame ++
    [.disconnect 1, .finish 1 2000, .createSession "tokenA" "alice" "tokenC",
      .checkPlayers 3, .exchangeStarted 3, .beginGame 3 3000,
      .disconnect 2, .finish 2 4000, .updateReconnectionState 24000, .closeGame, .closeSession,
      .replaceEngine, .clearSeats, .resetPublisher, .createSession "" "carol" "tokenD"]

theorem run_unclaimed_lostInTurn :
    (∀ visit ∈ Trace.visits (step .fallback) fresh lostInTurn, visit.1.Orderly visit.2) ∧
      ∀ visit ∈ Trace.visits (step .fallback) fresh lostInTurn, visit.1.Unclaimed visit.2 :=
  have orderly : ∀ visit ∈ Trace.visits (step .fallback) fresh lostInTurn,
      visit.1.Orderly visit.2 := by decide +kernel
  ⟨orderly, run_unclaimed .fallback lostInTurn orderly⟩

/-- Alice and Bob are lost before either of them is removed, and Carol arrives. -/
def lostTogether : List ServerStep :=
  startedGame ++ [.disconnect 1, .disconnect 2, .finish 1 2000, .finish 2 2001]

/-- Carol is seated in the game of Alice and Bob. -/
theorem lostTogether_claimed :
    ¬ ∀ visit ∈ Trace.visits (step .fallback) fresh
        (lostTogether ++ [.createSession "" "carol" "tokenC"]),
      visit.1.Unclaimed visit.2 := by
  intro unclaimed
  have last : (Trace.run (step .fallback) fresh lostTogether,
      ServerStep.createSession "" "carol" "tokenC") ∈ Trace.visits (step .fallback) fresh
        (lostTogether ++ [.createSession "" "carol" "tokenC"]) := by
    rw [Trace.visits_append]
    exact List.mem_append_right _ (List.mem_cons_self ..)
  have begun := (unclaimed _ last "" "carol" "tokenC" 3 rfl (by decide +kernel)
    (by decide +kernel)).1
  exact absurd begun (by decide +kernel)

end GameServer

end KungFuChess
