import KungFuChess.Server.Seats

/-!
# The sessions of a server

What holds in every state the server can reach, whatever the order in which its
threads run: the client in a seat is one whose thread has not ended, it has the
token and the name that the server keeps for its colour, and it belongs to the
game that is being played. Every section is checked against this once.
-/

set_option autoImplicit false

namespace KungFuChess

/-- A change of a client that leaves its colour, its name, its token and its game alone. -/
structure Client.Steady (change : Client → Client) : Prop where
  color : ∀ known, (change known).session.assignedColor = known.session.assignedColor
  username : ∀ known, (change known).session.username = known.session.username
  token : ∀ known, (change known).reconnectToken = known.reconnectToken
  game : ∀ known, (change known).closedGames = known.closedGames

/-- A client has the colour, the token and the name of a seat, and joined a game. -/
structure Seat.OwnedBy (seat : Seat) (color : PieceColor) (game : Nat) (known : Client) : Prop where
  color : known.session.assignedColor = color
  token : known.reconnectToken = seat.reconnectToken
  username : known.session.username = seat.username
  game : known.closedGames = game

/-- A client keeps its seat when it is changed steadily. -/
theorem Seat.OwnedBy.change {seat : Seat} {color : PieceColor} {game : Nat} {known : Client}
    (owned : seat.OwnedBy color game known) {change : Client → Client}
    (steady : Client.Steady change) : seat.OwnedBy color game (change known) where
  color := (steady.color known).trans owned.color
  token := (steady.token known).trans owned.token
  username := (steady.username known).trans owned.username
  game := (steady.game known).trans owned.game

namespace GameServer

/-- The seats and the clients fit together. -/
structure Registered (server : GameServer) : Prop where
  numbered : ∀ client, server.nextClientId ≤ client → server.clients client = none
  seated : ∀ color client, (server.seat color).player = some client →
    ∃ known, server.clients client = some known ∧
      (server.seat color).OwnedBy color server.closedGames known ∧ known.phase ≠ .finished
  closing : server.closingExpiredGame = true ↔ server.loop.IsClosing

variable {server : GameServer}

/-! ## Clients -/

theorem clients_modifyClient (server : GameServer) (client other : ClientId)
    (change : Client → Client) :
    (server.modifyClient client change).clients other =
      if other = client then (server.clients client).map change else server.clients other := by
  simp only [modifyClient, Function.update_apply]

theorem clients_seatClient (server : GameServer) (color : PieceColor) (client other : ClientId)
    (reconnectToken username : String) :
    (server.seatClient color client reconnectToken username).clients other =
      if other = client then
        some { session := ⟨color, username, true⟩, reconnectToken := reconnectToken,
               closedGames := server.closedGames }
      else server.clients other := by
  simp only [seatClient, setClient, setSeat, Function.update_apply]

theorem seat_seatClient (server : GameServer) (color place : PieceColor) (client : ClientId)
    (reconnectToken username : String) :
    (server.seatClient color client reconnectToken username).seat place =
      if place = color then ⟨some client, reconnectToken, username⟩ else server.seat place := by
  simp only [seatClient, setClient, setSeat, Function.update_apply]

theorem steady_phase (phase : ClientPhase) :
    Client.Steady fun known => { known with phase := phase } :=
  ⟨fun _ => rfl, fun _ => rfl, fun _ => rfl, fun _ => rfl⟩

theorem steady_disconnect :
    Client.Steady fun known =>
      { known with session := { known.session with connected := false } } :=
  ⟨fun _ => rfl, fun _ => rfl, fun _ => rfl, fun _ => rfl⟩

/-! ## Sections -/

namespace Registered

theorem fresh : GameServer.fresh.Registered where
  numbered _ _ := rfl
  seated _ _ held := nomatch held
  closing := ⟨Bool.noConfusion, False.elim⟩

variable (registered : server.Registered)

include registered

/-- Changing a client is harmless while its thread goes on, or once it has left its seat. -/
theorem modifyClient {client : ClientId} {change : Client → Client}
    (steady : Client.Steady change)
    (alive : (∀ known, known.phase ≠ .finished → (change known).phase ≠ .finished) ∨
      ∀ color, (server.seat color).player ≠ some client) :
    (server.modifyClient client change).Registered where
  numbered other above := by
    rw [clients_modifyClient]
    split
    · next own =>
        subst own
        rw [registered.numbered other above, Option.map_none]
    · exact registered.numbered other above
  seated color other held := by
    obtain ⟨known, is, owned, running⟩ := registered.seated color other held
    rw [clients_modifyClient]
    by_cases own : other = client
    · subst own
      rw [if_pos rfl, is]
      refine ⟨change known, rfl, owned.change steady, ?_⟩
      rcases alive with alive | unseated
      · exact alive known running
      · exact absurd held (unseated color)
    · rw [if_neg own]
      exact ⟨known, is, owned, running⟩
  closing := registered.closing

theorem setPhase (client : ClientId) {phase : ClientPhase} (running : phase ≠ .finished) :
    (server.setPhase client phase).Registered :=
  registered.modifyClient (steady_phase phase) (.inl fun _ _ => running)

theorem disconnect (client : ClientId) : (server.disconnect client).Registered :=
  registered.modifyClient steady_disconnect (.inl fun _ running => running)

/-- A new client gets a seat, with a token and a name. -/
theorem seatClient (color : PieceColor) (reconnectToken username : String) :
    Registered (seatClient { server with nextClientId := server.nextClientId + 1 } color
      server.nextClientId reconnectToken username) where
  numbered other above := by
    have later : server.nextClientId < other := above
    rw [clients_seatClient, if_neg later.ne']
    exact registered.numbered other later.le
  seated place other held := by
    rw [seat_seatClient] at held
    rw [clients_seatClient]
    by_cases own : place = color
    · subst own
      rw [if_pos rfl] at held
      cases held
      rw [if_pos rfl]
      rw [seat_seatClient, if_pos rfl]
      exact ⟨_, rfl, ⟨rfl, rfl, rfl, rfl⟩, ClientPhase.noConfusion⟩
    · rw [if_neg own] at held
      obtain ⟨known, is, owned, running⟩ := registered.seated place other held
      have old : other ≠ server.nextClientId := by
        rintro rfl
        rw [registered.numbered _ (le_refl _)] at is
        cases is
      rw [if_neg old, seat_seatClient, if_neg own]
      exact ⟨known, is, owned, running⟩
  closing := registered.closing

theorem createSession (requestedToken requestedUsername newToken : String) :
    (server.createSession requestedToken requestedUsername newToken).2.Registered := by
  have answered := server.createSession_answered requestedToken requestedUsername newToken
  generalize server.createSession requestedToken requestedUsername newToken = answer at answered
  cases answered with
  | rejected type reason =>
      exact { registered with
        numbered := fun client above => registered.numbered client (Nat.le_of_succ_le above) }
  | reclaimed undisturbed unexpired valid =>
      exact { registered.seatClient server.reservedColor _ _ with }
  | assigned undisturbed unexpired invalid unreserved vacant first named =>
      exact registered.seatClient _ _ _

/-- A client that leaves its seat leaves the other one alone. -/
theorem left (client : ClientId) : (server.left client).Registered where
  numbered := registered.numbered
  seated color other held := by
    have free : (server.seat color).player ≠ some client := by
      intro own
      simp only [GameServer.left, vacate, own, if_true] at held
      cases held
    have same : (server.left client).seat color = server.seat color := if_neg free
    rw [same] at held ⊢
    exact registered.seated color other held
  closing := registered.closing

/-- A client is seated in its own colour. -/
theorem assigned {color : PieceColor} {client : ClientId} {known : Client}
    (held : (server.seat color).player = some client) (is : server.clients client = some known) :
    known.session.assignedColor = color := by
  obtain ⟨other, same, owned, -⟩ := registered.seated color client held
  rw [is] at same
  cases same
  exact owned.color

theorem removeSession (client : ClientId) (nowMs : Int) :
    (server.removeSession client nowMs).Registered ∧
      ∀ color, ((server.removeSession client nowMs).seat color).player ≠ some client := by
  cases is : server.clients client with
  | none =>
      simp only [GameServer.removeSession, is]
      refine ⟨registered, fun color held => ?_⟩
      obtain ⟨known, same, -⟩ := registered.seated color client held
      rw [is] at same
      cases same
  | some known =>
      have gone : ∀ color, ((server.left client).seat color).player ≠ some client := by
        intro color held
        rw [GameServer.left, vacate_player] at held
        split at held
        · cases held
        · next free => exact free held
      have removed := server.removeSession_removed is nowMs
      generalize server.removeSession client nowMs = next at removed
      cases removed with
      | absent unseated => exact ⟨registered, unseated⟩
      | reserved seated known begun undisturbed => exact ⟨{ registered.left client with }, gone⟩
      | kept seated begun alone => exact ⟨registered.left client, gone⟩
      | @forgotten color known seated is unbegun =>
          -- the seat that is cleared is the one that was left
          have own : known.session.assignedColor = color := registered.assigned seated is
          subst own
          have empty : ((server.left client).seat known.session.assignedColor).player = none := by
            rw [GameServer.left, vacate_player, if_pos seated]
          refine ⟨⟨registered.numbered, fun place other held => ?_, registered.closing⟩,
            fun place held => ?_⟩
          · simp only [setSeat, Function.update_apply] at held ⊢
            by_cases here : place = known.session.assignedColor
            · rw [if_pos here, empty] at held
              cases held
            · rw [if_neg here] at held ⊢
              exact (registered.left client).seated place other held
          · simp only [setSeat, Function.update_apply] at held
            by_cases here : place = known.session.assignedColor
            · rw [if_pos here, empty] at held
              cases held
            · rw [if_neg here] at held
              exact gone place held

/-! ### The game loop -/

theorem updateReconnectionState (idle : server.loop = .idle) (nowMs : Int) :
    (server.updateReconnectionState nowMs).Registered := by
  rw [GameServer.updateReconnectionState]
  split
  · exact registered
  · split
    · exact { registered with
        closing := closing_outside registered.closing idle id id }
    · exact { registered with }

theorem replaceEngine {wasActiveGame : Bool} (closing : server.loop = .closing [] wasActiveGame) :
    (server.replaceEngine wasActiveGame).Registered := by
  have isClosing : server.closingExpiredGame = true := registered.closing.mpr (closing ▸ trivial)
  have published : server.publishEnded.Registered ∧
      server.publishEnded.closingExpiredGame = true := by
    rw [publishEnded]
    split
    · exact ⟨registered, isClosing⟩
    · exact ⟨{ registered with }, isClosing⟩
  have closed : Registered (if wasActiveGame then server.publishEnded else server) ∧
      (if wasActiveGame then server.publishEnded else server).closingExpiredGame = true := by
    split
    · exact published
    · exact ⟨registered, isClosing⟩
  simp only [GameServer.replaceEngine]
  generalize (if wasActiveGame then server.publishEnded else server) = next at closed ⊢
  exact ⟨closed.1.numbered, closed.1.seated, ⟨fun _ => trivial, fun _ => closed.2⟩⟩

/-- **Every step keeps the seats and the clients together.** -/
theorem step (load : PieceConfigReader) (input : ServerStep) :
    (server.step load input).Registered := by
  have taken := server.step_section load input
  generalize server.step load input = next at taken ⊢
  cases taken with
  | idle => exact registered
  | createSession requestedToken requestedUsername newToken => exact registered.createSession _ _ _
  | disconnect client => exact registered.disconnect client
  | @removeSession client lost nowMs => exact (registered.removeSession client nowMs).1
  | checkPlayers greeting =>
      refine registered.setPhase _ ?_
      split <;> exact ClientPhase.noConfusion
  | @exchangeStarted client starting =>
      have running :
          (if server.gameStarted then ClientPhase.serving else .started) ≠ .finished := by
        split <;> exact ClientPhase.noConfusion
      exact { registered.setPhase client running with }
  | @beginGame client started epochMs =>
      have running : (if !server.gameWasStarted then ClientPhase.announcing else .serving) ≠
          .finished := by
        split <;> exact ClientPhase.noConfusion
      exact { registered.setPhase client running with }
  | @publishStarted client announcing =>
      have running : (if server.lifecyclePublisher.started then ClientPhase.serving
          else .publishing) ≠ .finished := by
        split <;> exact ClientPhase.noConfusion
      exact { registered.setPhase client running with }
  | @publishEvent client publishing =>
      have running : ClientPhase.serving ≠ .finished := ClientPhase.noConfusion
      exact { registered.setPhase client running with }
  | handleRequest serving request epochMs =>
      rw [GameServer.handleRequest]
      split
      · exact registered
      · split
        · exact registered
        · split
          · exact registered
          · exact { registered with }
  | @finish client lost phase nowMs =>
      obtain ⟨removed, gone⟩ := registered.removeSession client nowMs
      exact removed.modifyClient (steady_phase _) (.inr gone)
  | updateReconnectionState idle nowMs => exact registered.updateReconnectionState idle nowMs
  | readStarted idle started =>
      exact { registered with closing := closing_outside registered.closing idle id id }
  | tick ticking deltaMs =>
      exact { registered with closing := closing_outside registered.closing ticking id id }
  | closeGame expired =>
      exact { registered with closing := ⟨fun _ => trivial, fun _ => rfl⟩ }
  | closeSession closing =>
      have isClosing : server.closingExpiredGame = true :=
        registered.closing.mpr (closing ▸ trivial)
      exact { registered.disconnect _ with closing := ⟨fun _ => trivial, fun _ => isClosing⟩ }
  | replaceEngine closing => exact registered.replaceEngine closing
  | clearSeats clearing =>
      have empty (client : ClientId) : (none : Option ClientId) ≠ some client :=
        (Option.some_ne_none client).symm
      exact ⟨registered.numbered, fun _ client held => absurd held (empty client),
        ⟨Bool.noConfusion, False.elim⟩⟩
  | resetPublisher resetting =>
      exact { registered with closing := closing_outside registered.closing resetting id id }

end Registered

end GameServer

end KungFuChess
