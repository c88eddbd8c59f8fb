import KungFuChess.Server.StartBlock

/-!
# Coming back to a game

A player who is lost in a game under way may present the token and the name of the lost
session. Apart from a handshake, a section keeps the tokens of the seats and of the
clients, forgets them, or lets them expire. There is only one reservation, so two
players who are lost one after the other have one place between them.
-/

set_option autoImplicit false

namespace KungFuChess

/-- The server keeps the same token and the same name for a seat. -/
def Seat.SameOwner (seat other : Seat) : Prop :=
  other.reconnectToken = seat.reconnectToken ∧ other.username = seat.username

/-- The token that is drawn for a handshake. -/
def ServerStep.drawn : ServerStep → Option String
  | .createSession _ _ newToken => some newToken
  | _ => none

namespace GameServer

variable {server : GameServer}

/-! ## What the sections keep of the tokens -/

/-- What a section that is not a handshake leaves of the clients, the seats and the tokens. -/
structure Retains (server next : GameServer) : Prop where
  clients : ∀ client known, next.clients client = some known →
    ∃ earlier, server.clients client = some earlier ∧
      known.reconnectToken = earlier.reconnectToken ∧
      known.session.username = earlier.session.username ∧
      known.closedGames = earlier.closedGames
  seats : ∀ color, Seat.SameOwner (server.seat color) (next.seat color) ∨
    (next.seat color).reconnectToken = "" ∧
      (server.gameWasStarted = false ∨ server.closingExpiredGame = true)
  expired : ∀ token ∈ next.expiredReconnectTokens, token ∈ server.expiredReconnectTokens ∨
    ∃ color, token = (server.seat color).reconnectToken
  games : server.closedGames ≤ next.closedGames
  undisturbed : next.closingExpiredGame = false → next.closedGames = server.closedGames →
    server.closingExpiredGame = false ∧
      next.expiredReconnectTokens = server.expiredReconnectTokens ∧
      (server.gameWasStarted = true → next.gameWasStarted = true)

/-- The fields that the tokens of a server are in. -/
structure SameTokens (server next : GameServer) : Prop where
  clients : next.clients = server.clients
  expired : next.expiredReconnectTokens = server.expiredReconnectTokens
  closing : next.closingExpiredGame = server.closingExpiredGame
  games : next.closedGames = server.closedGames
  begun : server.gameWasStarted = true → next.gameWasStarted = true

namespace Retains

theorem of_same {next : GameServer} (same : SameTokens server next)
    (seats : ∀ color, Seat.SameOwner (server.seat color) (next.seat color) ∨
      (next.seat color).reconnectToken = "" ∧
        (server.gameWasStarted = false ∨ server.closingExpiredGame = true)) :
    Retains server next where
  clients client known is := by
    rw [same.clients] at is
    exact ⟨known, is, rfl, rfl, rfl⟩
  seats := seats
  expired token member := by
    rw [same.expired] at member
    exact .inl member
  games := same.games.ge
  undisturbed open' _ := ⟨same.closing.symm.trans open', same.expired, same.begun⟩

/-- A section that leaves the seats alone as well. -/
theorem of_seats {next : GameServer} (same : SameTokens server next)
    (seats : next.seat = server.seat) : Retains server next :=
  of_same same fun color => .inl (by rw [seats]; exact ⟨rfl, rfl⟩)

theorem refl (server : GameServer) : Retains server server :=
  of_seats ⟨rfl, rfl, rfl, rfl, id⟩ rfl

/-- A steady change of a client afterwards. -/
theorem modifyClient {next : GameServer} (retains : Retains server next) (client : ClientId)
    {change : Client → Client} (steady : Client.Steady change) :
    Retains server (next.modifyClient client change) :=
  { retains with
    clients := by
      intro other known is
      rw [clients_modifyClient] at is
      split at is
      · next own =>
          subst own
          obtain ⟨old, was, rfl⟩ := Option.map_eq_some_iff.mp is
          obtain ⟨earlier, found, token, username, game⟩ := retains.clients other old was
          exact ⟨earlier, found, (steady.token old).trans token,
            (steady.username old).trans username, (steady.game old).trans game⟩
      · exact retains.clients other known is }

theorem setPhase {next : GameServer} (retains : Retains server next) (client : ClientId)
    (phase : ClientPhase) : Retains server (next.setPhase client phase) :=
  retains.modifyClient client (steady_phase phase)

end Retains

/-- A session that leaves its seat leaves the token and the name there. -/
theorem sameOwner_left (server : GameServer) (client : ClientId) (color : PieceColor) :
    Seat.SameOwner (server.seat color) ((server.left client).seat color) := by
  simp only [left, vacate]
  split
  · exact ⟨rfl, rfl⟩
  · exact ⟨rfl, rfl⟩

theorem removeSession_retains (server : GameServer) (client : ClientId) (nowMs : Int) :
    Retains server (server.removeSession client nowMs) := by
  cases is : server.clients client with
  | none =>
      simp only [removeSession, is]
      exact .refl server
  | some known =>
      have removed := server.removeSession_removed is nowMs
      generalize server.removeSession client nowMs = next at removed
      cases removed with
      | absent unseated => exact .refl server
      | reserved seated known begun undisturbed =>
          exact .of_same ⟨rfl, rfl, rfl, rfl, id⟩ fun color => .inl (sameOwner_left ..)
      | kept seated begun alone =>
          exact .of_same ⟨rfl, rfl, rfl, rfl, id⟩ fun color => .inl (sameOwner_left ..)
      | @forgotten color known seated is unbegun =>
          refine .of_same ⟨rfl, rfl, rfl, rfl, id⟩ fun place => ?_
          simp only [setSeat, Function.update_apply]
          split
          · exact .inr ⟨rfl, .inl unbegun⟩
          · exact .inl (sameOwner_left ..)

theorem closeGame_retains (server : GameServer) : Retains server server.closeGame where
  clients _ known is := ⟨known, is, rfl, rfl, rfl⟩
  seats _ := .inl ⟨rfl, rfl⟩
  expired token member := by
    rcases List.mem_append.mp member with forgotten | old
    · have among := (List.mem_filter.mp forgotten).1
      simp only [List.mem_cons, List.not_mem_nil, or_false] at among
      rcases among with same | same
      · exact .inr ⟨.white, same⟩
      · exact .inr ⟨.black, same⟩
    · exact .inl old
  games := le_rfl
  undisturbed := Bool.noConfusion

theorem clearSeats_retains (closing : server.closingExpiredGame = true) :
    Retains server server.clearSeats where
  clients _ known is := ⟨known, is, rfl, rfl, rfl⟩
  seats _ := .inr ⟨rfl, .inr closing⟩
  expired _ member := .inl member
  games := Nat.le_succ _
  undisturbed _ same := absurd same (Nat.succ_ne_self _)

theorem replaceEngine_retains (server : GameServer) (wasActiveGame : Bool) :
    Retains server (server.replaceEngine wasActiveGame) := by
  have published : ∀ ending : GameServer, ending = server ∨ ending = server.publishEnded →
      SameTokens server ending ∧ ending.seat = server.seat := by
    rintro ending (rfl | rfl)
    · exact ⟨⟨rfl, rfl, rfl, rfl, id⟩, rfl⟩
    · rw [publishEnded]
      split
      · exact ⟨⟨rfl, rfl, rfl, rfl, id⟩, rfl⟩
      · exact ⟨⟨rfl, rfl, rfl, rfl, id⟩, rfl⟩
  have closed := published (if wasActiveGame then server.publishEnded else server) (by
    split
    · exact .inr rfl
    · exact .inl rfl)
  simp only [replaceEngine]
  generalize (if wasActiveGame then server.publishEnded else server) = ending at closed ⊢
  exact .of_seats ⟨closed.1.clients, closed.1.expired, closed.1.closing, closed.1.games,
    closed.1.begun⟩ closed.2

/-- **Every section but a handshake retains the tokens.** -/
theorem step_retains (registered : server.Registered) (load : PieceConfigReader)
    {input : ServerStep} (quiet : input.drawn = none) :
    Retains server (server.step load input) := by
  have taken := server.step_section load input
  generalize server.step load input = next at taken ⊢
  cases taken with
  | idle => exact .refl server
  | createSession requestedToken requestedUsername newToken => cases quiet
  | disconnect client => exact (Retains.refl server).modifyClient client steady_disconnect
  | @removeSession client lost nowMs => exact server.removeSession_retains client nowMs
  | @checkPlayers client greeting => exact (Retains.refl server).setPhase client _
  | @exchangeStarted client starting => exact { (Retains.refl server).setPhase client _ with }
  | @beginGame client started epochMs =>
      have moved := (Retains.refl server).setPhase client
        (if !server.gameWasStarted then .announcing else .serving)
      exact { moved with
        undisturbed := fun open' same =>
          ⟨(moved.undisturbed open' same).1, rfl, fun _ => rfl⟩ }
  | @publishStarted client announcing => exact { (Retains.refl server).setPhase client _ with }
  | @publishEvent client publishing =>
      exact { (Retains.refl server).setPhase client .serving with }
  | @handleRequest client serving request epochMs =>
      obtain ⟨engine, answered⟩ := server.handleRequest_engine load client request epochMs
      rw [answered]
      exact .of_seats ⟨rfl, rfl, rfl, rfl, id⟩ rfl
  | @finish client lost phase nowMs =>
      exact (server.removeSession_retains client nowMs).setPhase client .finished
  | updateReconnectionState idle nowMs =>
      rw [updateReconnectionState]
      split
      · exact .refl server
      · split
        · exact .of_seats ⟨rfl, rfl, rfl, rfl, id⟩ rfl
        · exact .of_seats ⟨rfl, rfl, rfl, rfl, id⟩ rfl
  | readStarted idle started => exact .of_seats ⟨rfl, rfl, rfl, rfl, id⟩ rfl
  | tick ticking deltaMs => exact .of_seats ⟨rfl, rfl, rfl, rfl, id⟩ rfl
  | closeGame expired => exact server.closeGame_retains
  | closeSession closing => exact { (Retains.refl server).modifyClient _ steady_disconnect with }
  | replaceEngine closing => exact server.replaceEngine_retains _
  | clearSeats clearing => exact clearSeats_retains (registered.closing.mpr (clearing ▸ trivial))
  | resetPublisher resetting => exact .of_seats ⟨rfl, rfl, rfl, rfl, id⟩ rfl

/-! ## Names -/

/-- Every name that the server knows is one that it accepts. -/
structure Named (server : GameServer) : Prop where
  clients : ∀ client known, server.clients client = some known →
    Username.isValid (Username.trim known.session.username) = true
  seats : ∀ color, (server.seat color).reconnectToken ≠ "" →
    Username.isValid (Username.trim (server.seat color).username) = true

namespace Named

theorem fresh : GameServer.fresh.Named where
  clients _ _ is := nomatch is
  seats _ token := absurd rfl token

/-- A seat that is given to a client with a name the server accepts. -/
theorem seatClient (named : server.Named) (color : PieceColor) (client : ClientId)
    (reconnectToken : String) {username : String}
    (valid : Username.isValid (Username.trim username) = true) :
    (server.seatClient color client reconnectToken username).Named where
  clients other known is := by
    rw [clients_seatClient] at is
    split at is
    · cases is
      exact valid
    · exact named.clients other known is
  seats place token := by
    rw [seat_seatClient] at token ⊢
    split at token
    · next own =>
        rw [if_pos own]
        exact valid
    · next other =>
        rw [if_neg other]
        exact named.seats place token

theorem createSession (named : server.Named)
    (requestedToken requestedUsername newToken : String) :
    (server.createSession requestedToken requestedUsername newToken).2.Named := by
  have answered := server.createSession_answered requestedToken requestedUsername newToken
  generalize server.createSession requestedToken requestedUsername newToken = answer at answered
  have next : Named { server with nextClientId := server.nextClientId + 1 } := { named with }
  cases answered with
  | rejected type reason => exact next
  | reclaimed undisturbed unexpired valid =>
      have kept := named.seats server.reservedColor (valid.2.2 ▸ valid.2.1)
      exact { next.seatClient server.reservedColor server.nextClientId _ kept with }
  | assigned undisturbed unexpired invalid unreserved vacant first accepted =>
      exact next.seatClient _ server.nextClientId newToken
        ((Username.trim_trim requestedUsername).symm ▸ accepted)

theorem retained {next : GameServer} (named : server.Named) (retains : Retains server next) :
    next.Named where
  clients client known is := by
    obtain ⟨earlier, was, -, username, -⟩ := retains.clients client known is
    rw [username]
    exact named.clients client earlier was
  seats color token := by
    rcases retains.seats color with same | forgotten
    · rw [same.2]
      exact named.seats color (same.1 ▸ token)
    · exact absurd forgotten.1 token

/-- A step whose handshake, if it is one, is known to keep what every other step keeps. -/
theorem step (named : server.Named) (registered : server.Registered) (load : PieceConfigReader)
    (input : ServerStep) : (server.step load input).Named := by
  cases drawn : input.drawn with
  | none => exact named.retained (step_retains registered load drawn)
  | some newToken =>
      cases input with
      | createSession requestedToken requestedUsername token => exact named.createSession _ _ _
      | _ => cases drawn

end Named

/-! ## The way back -/

/-- A client of the game that is played, with nobody in a seat who has its token: it was
removed, and its player has not come back. -/
structure Interrupted (server : GameServer) (known : Client) : Prop where
  game : server.closedGames = known.closedGames
  undisturbed : server.closingExpiredGame = false
  away : ∀ color, ∀ client ∈ (server.seat color).player, ∀ other ∈ server.clients client,
    other.reconnectToken ≠ known.reconnectToken

instance (server : GameServer) (known : Client) : Decidable (server.Interrupted known) :=
  decidable_of_iff
    (server.closedGames = known.closedGames ∧ server.closingExpiredGame = false ∧
      ∀ color, ∀ client ∈ (server.seat color).player, ∀ other ∈ server.clients client,
        other.reconnectToken ≠ known.reconnectToken)
    ⟨fun all => ⟨all.1, all.2.1, all.2.2⟩, fun all => ⟨all.game, all.undisturbed, all.away⟩⟩

/-- The player of a lost client is seated in the same colour again. -/
def Readmits (server : GameServer) (color : PieceColor) (known : Client) (newToken : String) :
    Prop :=
  ∃ client,
    (server.createSession known.reconnectToken known.session.username newToken).1 =
        .seated client ∧
      ((server.createSession known.reconnectToken known.session.username newToken).2.seat
        color).player = some client

/-- The server has a place for the player of a lost client: its token has not expired, and
either its seat is the reserved one and still has its token, or no seat is reserved and its
seat is the first free one. -/
def HasPlace (server : GameServer) (color : PieceColor) (known : Client) : Prop :=
  server.Answers known.reconnectToken ∧
    (server.reconnectionPending = true ∧ server.reservedColor = color ∧
        known.reconnectToken ≠ "" ∧
        (server.seat color).reconnectToken = known.reconnectToken ∨
      server.reconnectionPending = false ∧ server.Vacant color ∧
        (color = .black → ¬ server.Vacant .white))

instance (server : GameServer) (color : PieceColor) (known : Client) :
    Decidable (server.HasPlace color known) :=
  inferInstanceAs (Decidable (_ ∧ (_ ∧ _ ∧ _ ∧ _ ∨ _ ∧ _ ∧ (_ → _))))

/-- The reserved seat is given back. -/
theorem createSession_reclaims {requestedToken : String} (answers : server.Answers requestedToken)
    (valid : server.ValidReconnect requestedToken) (requestedUsername newToken : String) :
    server.createSession requestedToken requestedUsername newToken =
      (.seated server.nextClientId,
        { server with nextClientId := server.nextClientId + 1 }.reclaimSeat
          server.nextClientId) := by
  have same : ValidReconnect { server with nextClientId := server.nextClientId + 1 }
      requestedToken := valid
  simp only [createSession]
  rw [if_neg (Bool.eq_false_iff.mp answers.1), if_neg answers.2,
    if_neg fun unchecked => unchecked.1 same, if_pos same]

/-- The first free seat is given to a client that no seat is reserved for. -/
theorem createSession_assigns {requestedToken requestedUsername : String} {color : PieceColor}
    (answers : server.Answers requestedToken) (unreserved : server.reconnectionPending = false)
    (vacant : server.Vacant color) (first : color = .black → ¬ server.Vacant .white)
    (named : Username.isValid (Username.trim requestedUsername) = true) (newToken : String) :
    server.createSession requestedToken requestedUsername newToken =
      (.seated server.nextClientId,
        { server with nextClientId := server.nextClientId + 1 }.seatClient color
          server.nextClientId newToken (Username.trim requestedUsername)) := by
  have invalid : ¬ ValidReconnect { server with nextClientId := server.nextClientId + 1 }
      requestedToken := fun valid => Bool.false_ne_true (unreserved.symm.trans valid.1)
  simp only [createSession]
  rw [if_neg (Bool.eq_false_iff.mp answers.1), if_neg answers.2,
    if_neg fun unnamed => unnamed.2 named, if_neg invalid]
  cases color with
  | white => rw [if_pos ⟨unreserved, vacant⟩]
  | black => rw [if_neg fun open' => first rfl open'.2, if_pos ⟨unreserved, vacant⟩]

/-- Nobody in a seat is the next client. -/
theorem Registered.next_unseated (registered : server.Registered) (color : PieceColor) :
    (server.seat color).player ≠ some server.nextClientId := by
  intro held
  obtain ⟨known, is, -⟩ := registered.seated color _ held
  rw [registered.numbered _ (le_refl _)] at is
  cases is

/-- The new client is in the seat that it was given. -/
theorem color_of_seated (registered : server.Registered) {color place : PieceColor}
    {reconnectToken username : String}
    (held : ((server.seatClient place server.nextClientId reconnectToken username).seat
      color).player = some server.nextClientId) : color = place := by
  rw [seat_seatClient] at held
  split at held
  · next own => exact own
  · exact absurd held (registered.next_unseated color)

/-- **The player of a lost client is seated again exactly when there is a place for it.** -/
theorem readmits_iff (registered : server.Registered) {color : PieceColor} {known : Client}
    (named : Username.isValid (Username.trim known.session.username) = true)
    (newToken : String) :
    server.Readmits color known newToken ↔ server.HasPlace color known := by
  constructor
  · rintro ⟨client, seated, held⟩
    have answered := server.createSession_answered known.reconnectToken known.session.username
      newToken
    generalize server.createSession known.reconnectToken known.session.username newToken =
      answer at answered seated held
    cases answered with
    | rejected type reason => cases seated
    | reclaimed undisturbed unexpired valid =>
        cases seated
        obtain rfl : color = server.reservedColor := color_of_seated registered held
        exact ⟨⟨undisturbed, unexpired⟩, .inl ⟨valid.1, rfl, valid.2.1, valid.2.2.symm⟩⟩
    | assigned undisturbed unexpired invalid unreserved vacant first accepted =>
        cases seated
        obtain rfl := color_of_seated registered held
        exact ⟨⟨undisturbed, unexpired⟩, .inr ⟨unreserved, vacant, first⟩⟩
  · rintro ⟨answers, ⟨pending, rfl, present, token⟩ | ⟨unreserved, vacant, first⟩⟩
    · rw [Readmits, createSession_reclaims answers ⟨pending, present, token.symm⟩]
      refine ⟨server.nextClientId, rfl, ?_⟩
      simp only [reclaimSeat, seat_seatClient, if_true]
    · rw [Readmits, createSession_assigns answers unreserved vacant first named]
      refine ⟨server.nextClientId, rfl, ?_⟩
      simp only [seat_seatClient, if_true]

/-! ## Tokens that are drawn once -/

/-- The random device never draws a token twice. -/
def FreshTokens (steps : List ServerStep) : Prop :=
  "" ∉ steps.filterMap ServerStep.drawn ∧ (steps.filterMap ServerStep.drawn).Nodup

instance (steps : List ServerStep) : Decidable (FreshTokens steps) :=
  inferInstanceAs (Decidable (_ ∧ _))

/-- What the server knows of tokens while others are still to be drawn: no token it knows is
drawn again, and the tokens of the game that is played have not expired. -/
structure Remembers (server : GameServer) (draws : List String) : Prop where
  games : ∀ client known, server.clients client = some known →
    known.closedGames ≤ server.closedGames
  clients : ∀ client known, server.clients client = some known →
    known.reconnectToken ≠ "" ∧ known.reconnectToken ∉ draws
  seats : ∀ color, (server.seat color).reconnectToken ∉ draws
  expired : ∀ token ∈ server.expiredReconnectTokens, token ∉ draws
  unexpired : server.closingExpiredGame = false → ∀ client known,
    server.clients client = some known → known.closedGames = server.closedGames →
      known.reconnectToken ∉ server.expiredReconnectTokens

namespace Remembers

theorem fresh {draws : List String} (present : "" ∉ draws) :
    GameServer.fresh.Remembers draws where
  games _ _ is := nomatch is
  clients _ _ is := nomatch is
  seats _ := present
  expired _ member := absurd member List.not_mem_nil
  unexpired _ _ _ is := nomatch is

/-- A token is drawn. -/
theorem draw {newToken : String} {draws : List String}
    (remembers : server.Remembers (newToken :: draws)) : server.Remembers draws :=
  { remembers with
    clients := fun client known is =>
      ⟨(remembers.clients client known is).1,
        fun later => (remembers.clients client known is).2 (List.mem_cons_of_mem _ later)⟩
    seats := fun color later => remembers.seats color (List.mem_cons_of_mem _ later)
    expired := fun token member later =>
      remembers.expired token member (List.mem_cons_of_mem _ later) }

/-- A seat that is given away with a token that is good for it. -/
theorem seatClient {draws : List String} (remembers : server.Remembers draws) (color : PieceColor)
    (client : ClientId) {reconnectToken : String} (username : String)
    (present : reconnectToken ≠ "") (spent : reconnectToken ∉ draws)
    (valid : reconnectToken ∉ server.expiredReconnectTokens) :
    (server.seatClient color client reconnectToken username).Remembers draws where
  games other known is := by
    rw [clients_seatClient] at is
    split at is
    · cases is
      exact le_rfl
    · exact remembers.games other known is
  clients other known is := by
    rw [clients_seatClient] at is
    split at is
    · cases is
      exact ⟨present, spent⟩
    · exact remembers.clients other known is
  seats place := by
    rw [seat_seatClient]
    split
    · exact spent
    · exact remembers.seats place
  expired := remembers.expired
  unexpired open' other known is game := by
    rw [clients_seatClient] at is
    split at is
    · cases is
      exact valid
    · exact remembers.unexpired open' other known is game

theorem createSession {newToken : String} {draws : List String}
    (remembers : server.Remembers (newToken :: draws)) (present : newToken ≠ "")
    (once : newToken ∉ draws) (requestedToken requestedUsername : String) :
    (server.createSession requestedToken requestedUsername newToken).2.Remembers draws := by
  have answered := server.createSession_answered requestedToken requestedUsername newToken
  generalize server.createSession requestedToken requestedUsername newToken = answer at answered
  have next : Remembers { server with nextClientId := server.nextClientId + 1 } draws :=
    { remembers.draw with }
  cases answered with
  | rejected type reason => exact next
  | reclaimed undisturbed unexpired valid =>
      have present : (server.seat server.reservedColor).reconnectToken ≠ "" :=
        valid.2.2 ▸ valid.2.1
      have kept := next.seatClient server.reservedColor server.nextClientId
        (server.seat server.reservedColor).username present (next.seats server.reservedColor)
        (fun member => unexpired ⟨valid.2.1, valid.2.2.symm ▸ member⟩)
      exact { kept with }
  | assigned undisturbed unexpired invalid unreserved vacant first accepted =>
      exact next.seatClient _ server.nextClientId _ present once
        (fun member => remembers.expired newToken member (List.mem_cons_self ..))

theorem retained {next : GameServer} {draws : List String} (remembers : server.Remembers draws)
    (present : "" ∉ draws) (retains : Retains server next) : next.Remembers draws where
  games client known is := by
    obtain ⟨earlier, was, -, -, game⟩ := retains.clients client known is
    rw [game]
    exact (remembers.games client earlier was).trans retains.games
  clients client known is := by
    obtain ⟨earlier, was, token, -, -⟩ := retains.clients client known is
    rw [token]
    exact remembers.clients client earlier was
  seats color := by
    rcases retains.seats color with same | forgotten
    · rw [same.1]
      exact remembers.seats color
    · rw [forgotten.1]
      exact present
  expired token member := by
    rcases retains.expired token member with old | ⟨color, rfl⟩
    · exact remembers.expired token old
    · exact remembers.seats color
  unexpired open' client known is current := by
    obtain ⟨earlier, was, token, -, game⟩ := retains.clients client known is
    have bound := remembers.games client earlier was
    have same : next.closedGames = server.closedGames := by
      have later := retains.games
      omega
    obtain ⟨undisturbed, expired, -⟩ := retains.undisturbed open' same
    rw [token, expired]
    exact remembers.unexpired undisturbed client earlier was
      (game.symm.trans (current.trans same))

/-- **A server remembers its tokens** in every run whose tokens are drawn once. -/
theorem run (load : PieceConfigReader) : ∀ (steps : List ServerStep) (server : GameServer),
    server.Registered → FreshTokens steps →
    server.Remembers (steps.filterMap ServerStep.drawn) →
      (Trace.run (step load) server steps).Remembers [] := by
  intro steps
  induction steps with
  | nil => exact fun _ _ _ remembers => remembers
  | cons input rest ih =>
      intro server registered tokens remembers
      have next := registered.step load input
      cases drawn : input.drawn with
      | none =>
          rw [FreshTokens, List.filterMap_cons_none drawn] at tokens
          rw [List.filterMap_cons_none drawn] at remembers
          exact ih _ next tokens
            (remembers.retained tokens.1 (step_retains registered load drawn))
      | some newToken =>
          rw [FreshTokens, List.filterMap_cons_some drawn] at tokens
          rw [List.filterMap_cons_some drawn] at remembers
          obtain ⟨once, others⟩ := List.nodup_cons.mp tokens.2
          have present : newToken ≠ "" := fun empty =>
            tokens.1 (empty ▸ List.mem_cons_self ..)
          refine ih _ next ⟨fun later => tokens.1 (List.mem_cons_of_mem _ later), others⟩ ?_
          cases input with
          | createSession requestedToken requestedUsername token =>
              cases drawn
              exact remembers.createSession present once _ _
          | _ => cases drawn

end Remembers

/-! ## Runs in which players are lost in turn -/

/-- A session of a game under way leaves its seat while no seat is reserved. -/
def LeavesFirst (server : GameServer) (client : ClientId) : Prop :=
  server.gameWasStarted = true → server.closingExpiredGame = false →
    (∃ color, (server.seat color).player = some client) → server.reconnectionPending = false

instance (server : GameServer) (client : ClientId) : Decidable (server.LeavesFirst client) :=
  inferInstanceAs (Decidable (_ → _ → _ → _))

/-- The session that a step removes. -/
def removes (server : GameServer) : ServerStep → Option ClientId
  | .removeSession client _ => if server.isConnected client then none else some client
  | .finish client _ =>
      if server.isConnected client = false ∧
          (server.phaseOf client = some .greeting ∨ server.phaseOf client = some .serving) then
        some client
      else none
  | _ => none

/-- The steps that leave a place for whoever is lost: no stranger gets into a game under way,
and a session leaves it while the other player is connected and no seat is reserved. -/
def InTurn (server : GameServer) (input : ServerStep) : Prop :=
  server.Orderly input ∧ ∀ client ∈ server.removes input, server.LeavesFirst client

instance (server : GameServer) (input : ServerStep) : Decidable (server.InTurn input) :=
  inferInstanceAs (Decidable (_ ∧ ∀ _ ∈ _, _))

/-- The reserved seat is empty, and the other one is held. -/
structure Reserving (server : GameServer) : Prop where
  registered : server.Registered
  sound : server.Sound
  empty : server.reconnectionPending = true → (server.seat server.reservedColor).player = none
  other : server.reconnectionPending = true →
    (server.seat server.reservedColor.opposite).player.isSome = true

namespace Reserving

theorem fresh : GameServer.fresh.Reserving where
  registered := .fresh
  sound := .fresh
  empty := Bool.noConfusion
  other := Bool.noConfusion

variable (reserving : server.Reserving)

include reserving

/-- A section that reserves no seat, and empties or fills none while one is reserved. -/
theorem keep {next : GameServer} (registered : next.Registered) (sound : next.Sound)
    (same : next.reconnectionPending = true → server.reconnectionPending = true ∧
      next.reservedColor = server.reservedColor ∧ next.seat = server.seat) : next.Reserving where
  registered := registered
  sound := sound
  empty pending := by
    obtain ⟨before, color, seats⟩ := same pending
    rw [color, seats]
    exact reserving.empty before
  other pending := by
    obtain ⟨before, color, seats⟩ := same pending
    rw [color, seats]
    exact reserving.other before

theorem createSession {requestedToken requestedUsername newToken : String}
    (orderly : server.Orderly (.createSession requestedToken requestedUsername newToken)) :
    (server.createSession requestedToken requestedUsername newToken).2.Reserving := by
  have registered := reserving.registered.createSession requestedToken requestedUsername newToken
  have sound := reserving.sound.createSession orderly
  have answered := server.createSession_answered requestedToken requestedUsername newToken
  generalize server.createSession requestedToken requestedUsername newToken = answer
    at answered registered sound
  cases answered with
  | rejected type reason =>
      exact reserving.keep registered sound fun pending => ⟨pending, rfl, rfl⟩
  | reclaimed undisturbed unexpired valid =>
      exact reserving.keep registered sound Bool.noConfusion
  | assigned undisturbed unexpired invalid unreserved vacant first accepted =>
      exact reserving.keep registered sound fun pending =>
        absurd (unreserved.symm.trans pending) Bool.false_ne_true

/-- A session that leaves while no seat is reserved, and in time. -/
theorem removeSession {client : ClientId} (nowMs : Int) (inTime : server.LeavesInTime client)
    (leavesFirst : server.LeavesFirst client) : (server.removeSession client nowMs).Reserving := by
  have registered := (reserving.registered.removeSession client nowMs).1
  have sound := reserving.sound.removeSession nowMs inTime
  cases is : server.clients client with
  | none =>
      simp only [GameServer.removeSession, is]
      exact reserving
  | some known =>
      have removed := server.removeSession_removed is nowMs
      generalize server.removeSession client nowMs = next at removed registered sound
      cases removed with
      | absent unseated => exact reserving
      | @reserved color known seated is begun undisturbed =>
          obtain rfl : known.session.assignedColor = color :=
            reserving.registered.assigned seated is
          have unreserved := leavesFirst begun undisturbed ⟨_, seated⟩
          have empty : ((server.left client).seat known.session.assignedColor).player = none := by
            rw [left, vacate_player, if_pos seated]
          refine ⟨registered, sound, fun _ => empty, fun _ => ?_⟩
          -- nobody else was reserved a seat, so the other player is connected
          rcases (inTime undisturbed ⟨_, seated⟩).1 begun with
            pending | ⟨place, other, held, apart, -⟩
          · exact absurd (unreserved.symm.trans pending) Bool.false_ne_true
          · have elsewhere : place = known.session.assignedColor.opposite := by
              have distinct : place ≠ known.session.assignedColor := by
                rintro rfl
                exact apart (Option.some.inj (held.symm.trans seated))
              revert distinct
              cases place <;> cases known.session.assignedColor <;> simp [PieceColor.opposite]
            subst elsewhere
            have kept : ((server.left client).seat
                known.session.assignedColor.opposite).player = some other := by
              rw [left, vacate_player, held, if_neg]
              exact fun same => apart (Option.some.inj same)
            exact Option.isSome_of_eq_some kept
      | forgotten seated known unbegun =>
          have unreserved : server.reconnectionPending ≠ true := fun pending =>
            Bool.false_ne_true (unbegun.symm.trans (reserving.sound.pending pending))
          exact ⟨registered, sound, fun pending => absurd pending unreserved,
            fun pending => absurd pending unreserved⟩
      | kept seated begun alone =>
          have unreserved : server.reconnectionPending ≠ true := by
            refine Bool.eq_false_iff.mp ?_
            cases undisturbed : server.closingExpiredGame with
            | false => exact leavesFirst begun undisturbed ⟨_, seated⟩
            | true => exact (reserving.sound.closed undisturbed).2.2
          exact ⟨registered, sound, fun pending => absurd pending unreserved,
            fun pending => absurd pending unreserved⟩

/-- **A step in turn keeps the other player in the seat that is not reserved.** -/
theorem step (load : PieceConfigReader) {input : ServerStep} (inTurn : server.InTurn input) :
    (server.step load input).Reserving := by
  have registered := reserving.registered.step load input
  have sound := reserving.sound.step load inTurn.1
  have taken := server.step_section load input
  generalize server.step load input = next at taken registered sound ⊢
  cases taken with
  | idle => exact reserving
  | createSession requestedToken requestedUsername newToken =>
      exact reserving.createSession inTurn.1
  | @removeSession client lost nowMs =>
      exact reserving.removeSession nowMs (inTurn.1 lost)
        (inTurn.2 client (if_neg (Bool.eq_false_iff.mp lost)))
  | @finish client lost phase nowMs =>
      have removed := reserving.removeSession nowMs (inTurn.1 lost phase)
        (inTurn.2 client (if_pos ⟨lost, phase⟩))
      exact removed.keep registered sound fun pending => ⟨pending, rfl, rfl⟩
  | disconnect | checkPlayers | exchangeStarted | publishStarted | publishEvent | readStarted
  | tick | closeSession | resetPublisher =>
      exact reserving.keep registered sound fun pending => ⟨pending, rfl, rfl⟩
  | beginGame | closeGame => exact reserving.keep registered sound Bool.noConfusion
  | @handleRequest client serving request epochMs =>
      refine reserving.keep registered sound ?_
      obtain ⟨engine, answered⟩ := server.handleRequest_engine load client request epochMs
      rw [answered]
      exact fun pending => ⟨pending, rfl, rfl⟩
  | updateReconnectionState idle nowMs =>
      refine reserving.keep registered sound ?_
      rw [GameServer.updateReconnectionState]
      split
      · exact fun pending => ⟨pending, rfl, rfl⟩
      · split
        · exact fun pending => ⟨pending, rfl, rfl⟩
        · exact fun pending => ⟨pending, rfl, rfl⟩
  | replaceEngine closing =>
      refine reserving.keep registered sound ?_
      simp only [GameServer.replaceEngine, publishEnded]
      split
      · split
        · exact fun pending => ⟨pending, rfl, rfl⟩
        · exact fun pending => ⟨pending, rfl, rfl⟩
      · exact fun pending => ⟨pending, rfl, rfl⟩
  | clearSeats clearing =>
      -- a game that is being closed reserves no seat
      have closing := reserving.sound.closing.mpr (clearing ▸ trivial)
      exact reserving.keep registered sound fun pending =>
        absurd ((reserving.sound.closed closing).2.2.symm.trans pending) Bool.false_ne_true

end Reserving

/-- As long as the game of a player goes on, its seat has the token, which has not expired. -/
def KeepsToken (color : PieceColor) (known : Client) (server : GameServer) : Prop :=
  known.closedGames ≤ server.closedGames ∧
    (server.closedGames = known.closedGames → server.closingExpiredGame = false →
      server.gameWasStarted = true ∧
        (server.seat color).reconnectToken = known.reconnectToken ∧
          known.reconnectToken ∉ server.expiredReconnectTokens)

/-- **A step in turn keeps the token of a seat.** -/
theorem KeepsToken.step {color : PieceColor} {known : Client}
    (keeps : KeepsToken color known server) (reserving : server.Reserving)
    (load : PieceConfigReader) {input : ServerStep} (inTurn : server.InTurn input) :
    KeepsToken color known (server.step load input) := by
  cases drawn : input.drawn with
  | none =>
      have retains := step_retains reserving.registered load drawn
      refine ⟨keeps.1.trans retains.games, fun game open' => ?_⟩
      have same : (server.step load input).closedGames = server.closedGames := by
        have bound := keeps.1
        have later := retains.games
        omega
      obtain ⟨undisturbed, expired, begun⟩ := retains.undisturbed open' same
      obtain ⟨started, token, unexpired⟩ := keeps.2 (same.symm.trans game) undisturbed
      refine ⟨begun started, ?_, expired ▸ unexpired⟩
      rcases retains.seats color with owner | ⟨-, unbegun | closing⟩
      · exact owner.1.trans token
      · exact absurd (unbegun.symm.trans started) Bool.false_ne_true
      · exact absurd (undisturbed.symm.trans closing) Bool.false_ne_true
  | some newToken =>
      cases input with
      | createSession requestedToken requestedUsername token =>
          have answered := server.createSession_answered requestedToken requestedUsername token
          have stranger : ∀ client,
              (server.createSession requestedToken requestedUsername token).1 = .seated client →
                ¬ server.ValidReconnect requestedToken → server.gameWasStarted = false :=
            fun client seated invalid =>
              (reserving.sound.createSession_stranger inTurn.1 seated invalid).1
          simp only [GameServer.step]
          generalize server.createSession requestedToken requestedUsername token = answer
            at answered stranger
          cases answered with
          | rejected type reason => exact keeps
          | reclaimed undisturbed unexpired valid =>
              refine ⟨keeps.1, fun game open' => ?_⟩
              obtain ⟨started, kept, lasts⟩ := keeps.2 game open'
              refine ⟨started, ?_, lasts⟩
              simp only [reclaimSeat, seat_seatClient]
              split
              · next own => exact own ▸ kept
              · exact kept
          | assigned undisturbed unexpired invalid unreserved vacant first accepted =>
              refine ⟨keeps.1, fun game open' => ?_⟩
              have started := (keeps.2 game open').1
              exact absurd ((stranger _ rfl invalid).symm.trans started) Bool.false_ne_true
      | _ => cases drawn

/-- A client sits in a seat of a game under way. -/
structure Plays (server : GameServer) (color : PieceColor) (client : ClientId) (known : Client) :
    Prop where
  begun : server.gameWasStarted = true
  seated : (server.seat color).player = some client
  is : server.clients client = some known

/-- A player starts with the token of the seat. -/
theorem Plays.keepsToken {color : PieceColor} {client : ClientId} {known : Client}
    (plays : server.Plays color client known) (registered : server.Registered)
    {draws : List String} (remembers : server.Remembers draws) : KeepsToken color known server := by
  obtain ⟨other, is, owned, -⟩ := registered.seated color client plays.seated
  obtain rfl : other = known := Option.some.inj (is.symm.trans plays.is)
  exact ⟨owned.game.le, fun _ open' => ⟨plays.begun, owned.token.symm,
    remembers.unexpired open' client other is owned.game⟩⟩

/-- **A lost player has a place** where the seat that is not reserved is held. -/
theorem Reserving.hasPlace (reserving : server.Reserving) {color : PieceColor} {known : Client}
    (keeps : KeepsToken color known server) (present : known.reconnectToken ≠ "")
    (interrupted : server.Interrupted known) : server.HasPlace color known := by
  obtain ⟨started, token, unexpired⟩ := keeps.2 interrupted.game interrupted.undisturbed
  have empty : (server.seat color).player = none := by
    cases held : (server.seat color).player with
    | none => rfl
    | some client =>
        obtain ⟨other, is, owned, -⟩ := reserving.registered.seated color client held
        exact absurd (owned.token.trans token) (interrupted.away color client held other is)
  have pending : server.reconnectionPending = true := by
    rcases reserving.sound.held started with closing | pending | full
    · exact absurd (interrupted.undisturbed.symm.trans closing) Bool.false_ne_true
    · exact pending
    · have held := full color
      rw [empty] at held
      cases held
  have own : server.reservedColor = color := by
    have other := reserving.other pending
    by_contra distinct
    have opposite : server.reservedColor.opposite = color := by
      revert distinct
      cases server.reservedColor <;> cases color <;> simp [PieceColor.opposite]
    rw [opposite, empty] at other
    cases other
  exact ⟨⟨interrupted.undisturbed, fun late => unexpired late.2⟩,
    .inl ⟨pending, own, present, token⟩⟩

/-- **Who comes back.** A player of a game under way who is lost and removed while the game goes
on is seated in the same colour again exactly when the server has a place for the player; and it
has one in every run in which players are lost in turn. -/
theorem run_comesBack (load : PieceConfigReader) (before after : List ServerStep)
    {earlier server : GameServer} (starts : earlier = Trace.run (step load) fresh before)
    (goesOn : server = Trace.run (step load) earlier after) {color : PieceColor}
    {client : ClientId} {known : Client} (plays : earlier.Plays color client known)
    (interrupted : server.Interrupted known) (newToken : String) :
    (server.Readmits color known newToken ↔ server.HasPlace color known) ∧
      (FreshTokens before →
        (∀ visit ∈ Trace.visits (step load) fresh (before ++ after), visit.1.InTurn visit.2) →
          server.Readmits color known newToken) := by
  have kept : earlier.Registered ∧ earlier.Named := by
    rw [starts]
    exact Trace.run_invariant
      (motive := fun server : GameServer => server.Registered ∧ server.Named)
      (fun server input both => ⟨both.1.step load input, both.2.step both.1 load input⟩)
      before ⟨.fresh, .fresh⟩
  obtain ⟨registered, named⟩ := kept
  have later : server.Registered := by
    rw [goesOn]
    exact Trace.run_invariant (motive := Registered)
      (fun server input registered => registered.step load input) after registered
  have comesBack : server.Readmits color known newToken ↔ server.HasPlace color known :=
    readmits_iff later (named.clients client known plays.is) newToken
  refine ⟨comesBack, fun tokens inTurn => comesBack.mpr ?_⟩
  have remembers : earlier.Remembers [] := by
    rw [starts]
    exact Remembers.run load before fresh .fresh tokens (.fresh tokens.1)
  rw [Trace.visits_append, ← starts] at inTurn
  have reserving : earlier.Reserving := by
    rw [starts]
    exact Trace.run_rule (motive := Reserving) (fun server input => server.InTurn input)
      (fun server input inTurn reserving => reserving.step load inTurn) before fresh
      (fun visit member => inTurn visit (List.mem_append_left _ member)) .fresh
  have both : server.Reserving ∧ KeepsToken color known server := by
    rw [goesOn]
    exact Trace.run_rule
      (motive := fun server : GameServer => server.Reserving ∧ KeepsToken color known server)
      (fun server input => server.InTurn input)
      (fun server input inTurn both =>
        ⟨both.1.step load inTurn, both.2.step both.1 load inTurn⟩) after earlier
      (fun visit member => inTurn visit (List.mem_append_right _ member))
      ⟨reserving, plays.keepsToken registered remembers⟩
  exact both.1.hasPlace both.2 (remembers.clients client known plays.is).1 interrupted

/-- The client of Alice in the started game, and that of Bob. -/
def alice : Client := ⟨⟨.white, "alice", true⟩, "tokenA", .serving, 0⟩

def bob : Client := ⟨⟨.black, "bob", true⟩, "tokenB", .serving, 0⟩

theorem startedGame_alice : (Trace.run (step .fallback) fresh startedGame).Plays .white 1 alice :=
  ⟨by decide +kernel, by decide +kernel, by decide +kernel⟩

theorem startedGame_bob : (Trace.run (step .fallback) fresh startedGame).Plays .black 2 bob :=
  ⟨by decide +kernel, by decide +kernel, by decide +kernel⟩

/-- Alice is lost and comes back. -/
theorem run_comesBack_alice :
    (Trace.run (step .fallback) (Trace.run (step .fallback) fresh startedGame)
      [.disconnect 1, .finish 1 2000]).Readmits .white alice "tokenC" :=
  (run_comesBack .fallback startedGame [.disconnect 1, .finish 1 2000] rfl rfl startedGame_alice
    (by decide +kernel) "tokenC").2 (by decide +kernel) (by decide +kernel)

/-- Alice is lost, and then Bob is lost while the seat of Alice is reserved. -/
def lostOneByOne : List ServerStep :=
  [.disconnect 1, .finish 1 2000, .disconnect 2, .finish 2 3000]

/-- Bob does not come back. -/
theorem lostOneByOne_gameFull :
    ¬ ∀ before after earlier server, earlier = Trace.run (step .fallback) fresh before →
      server = Trace.run (step .fallback) earlier after →
        ∀ color client known, earlier.Plays color client known → server.Interrupted known →
          ∀ newToken, server.Readmits color known newToken := by
  intro comeBack
  obtain ⟨client, seated, -⟩ := comeBack startedGame lostOneByOne _ _ rfl rfl .black 2 bob
    startedGame_bob (by decide +kernel) "tokenC"
  have full : ((Trace.run (step .fallback) (Trace.run (step .fallback) fresh startedGame)
      lostOneByOne).createSession bob.reconnectToken bob.session.username "tokenC").1 =
        .rejected .gameFull "game_full" := by
    decide +kernel
  rw [full] at seated
  cases seated

end GameServer

end KungFuChess
