import KungFuChess.Client.GameClient

/-!
# Receiving and reconnecting

What holds of a network client in every order of the steps of its two threads. The
queue is a mailbox: updates and the responses to one request reach the window in the
order in which they came, and none is lost or doubled. The client dials again with the
last token it was given, and never after the server has closed the game or called it
full. One invariant carries both: it looks through the actions that the receiving
thread has still to do.
-/

set_option autoImplicit false

namespace KungFuChess

/-! ## The invariant -/

/-- The points of the loop over attempts, from the store in front of it on. -/
def ReceiverPoint.Reconnects : ReceiverPoint → Prop
  | .tryingAgain | .retry | .retryConnected | .pausing | .copying | .dialing _ | .dialed
  | .adopting => True
  | _ => False

/-- The points between the test that the client is not connected and the new connection. -/
def ReceiverPoint.Apart : ReceiverPoint → Prop
  | .pausing | .copying | .dialing _ | .dialed | .adopting => True
  | _ => False

namespace ClientRun

open ClientAction GameClient

/-- Messages that are put into the queue. -/
def Queued (message : Message) : Bool := message.type ≠ .playerAssigned

/-- Messages that assign a colour, and with it a token. -/
def Assigns (message : Message) : Bool :=
  message.type = .playerAssigned &&
    (message.playerColor = "white" || message.playerColor = "black")

/-- Messages that end the game for this client. -/
def Closes (message : Message) : Prop := message.type = .gameFull ∨ message.type = .gameClosed

/-- The token of the last assignment, or else the one the client was started with. -/
def lastToken (reconnectToken : String) (arrived : List Message) : String :=
  ((arrived.filter Assigns).getLast?.map Message.reconnectToken).getD reconnectToken

theorem lastToken_append (reconnectToken : String) (arrived : List Message) (message : Message) :
    lastToken reconnectToken (arrived ++ [message]) =
      if Assigns message then message.reconnectToken else lastToken reconnectToken arrived := by
  unfold lastToken
  rw [List.filter_append]
  cases assigns : Assigns message with
  | true =>
      rw [List.filter_cons_of_pos assigns, if_pos rfl, List.filter_nil,
        List.getLast?_append_of_ne_nil _ (List.cons_ne_nil _ _)]
      rfl
  | false =>
      rw [List.filter_cons_of_neg (by rw [assigns]; exact Bool.false_ne_true), List.filter_nil,
        List.append_nil, if_neg Bool.false_ne_true]

/-- The messages that actions will put into the queue, and the token behind them. -/
def pushes (todo : List ClientAction) : List Message := todo.filterMap pushed

def tokenBehind (token : String) (todo : List ClientAction) : String := todo.foldl tokenAfter token

theorem pushes_of_quiet {todo : List ClientAction} (quiet : ∀ action ∈ todo, action.Quiet) :
    pushes todo = [] :=
  List.filterMap_eq_nil_iff.mpr fun action member => (quiet action member).1

theorem tokenBehind_of_quiet {todo : List ClientAction} (quiet : ∀ action ∈ todo, action.Quiet)
    (token : String) : tokenBehind token todo = token := by
  induction todo with
  | nil => rfl
  | cons action rest ih =>
      rw [tokenBehind, List.foldl_cons, (quiet action List.mem_cons_self).2]
      exact ih fun other member => quiet other (List.mem_cons_of_mem _ member)

/-- What holds of a client and its past between any two steps. -/
structure Sound (reconnectToken : String) (run : ClientRun) : Prop where
  mailbox : ∃ put, Mailbox.Ledger kindOf put run.client.incomingMessages run.taken ∧
    put ++ pushes run.client.receiverTodo = run.arrived.filter Queued
  token : tokenBehind run.client.reconnectToken run.client.receiverTodo =
    lastToken reconnectToken run.arrived
  lasting : ∀ action ∈ run.client.receiverTodo, action.Lasting
  window : ∀ action ∈ run.client.windowTodo, action.Quiet ∧ action.Lasting
  ended : (∃ message ∈ run.arrived, Closes message) →
    (¬ run.client.point.Reconnects ∧ run.client.point ≠ .outer) ∧
      (run.client.Over ∨ ∃ action ∈ run.client.receiverTodo, action.Ends)
  assigned : run.client.point.Reconnects → run.client.flags .playerAssigned = true
  apart : run.client.point.Apart →
    run.client.receiverTodo = [] ∧ run.client.flags .connected = false
  finished : run.client.point = .finished →
    run.client.receiverTodo = [.store .connected false] ∨
      run.client.receiverTodo = [] ∧ run.client.flags .connected = false

theorem sound_start (reconnectToken username : String) :
    Sound reconnectToken { client := .connectedAs reconnectToken username } where
  mailbox := ⟨[], .empty, rfl⟩
  token := rfl
  lasting := fun _ member => absurd member List.not_mem_nil
  window := fun _ member => absurd member List.not_mem_nil
  ended := fun closed => by
    obtain ⟨_, member, _⟩ := closed
    exact absurd member List.not_mem_nil
  assigned := fun reconnects => absurd reconnects id
  apart := fun apart => absurd apart id
  finished := fun ended => by cases ended

section Steps

variable {reconnectToken : String} {run : ClientRun}

/-- **An action of the receiving thread.** -/
theorem Sound.receive_action (sound : Sound reconnectToken run) {action : ClientAction}
    {rest : List ClientAction} (todo : run.client.receiverTodo = action :: rest) (io : Io) :
    Sound reconnectToken (run.step (.receive io)) := by
  obtain ⟨client, arrived, taken, dials⟩ := run
  dsimp only at todo
  have place := act_place client action
  have noneRead : reads client io = [] := by
    unfold reads
    rw [todo]
  have noneDialed : dialed client = [] := by
    unfold dialed
    rw [todo]
  have received : client.receive io =
      { (client.act action).2 with receiverTodo := (client.act action).1 ++ rest } := by
    rw [receive, todo]
  have moved : step ⟨client, arrived, taken, dials⟩ (.receive io) =
      ⟨{ (client.act action).2 with receiverTodo := (client.act action).1 ++ rest },
        arrived, taken, dials⟩ := by
    rw [step, received, noneRead, noneDialed, List.append_nil, List.append_nil]
  have lasting : action.Lasting := sound.lasting action (by rw [todo]; exact List.mem_cons_self)
  have kept := act_lasting client lasting
  have added : ∀ other ∈ (client.act action).1, other.Quiet := fun other member =>
    (act_added client action member).1
  rw [moved]
  constructor
  · obtain ⟨put, ledger, delivered⟩ := sound.mailbox
    dsimp only at delivered ledger
    rw [todo] at delivered
    dsimp only
    rw [act_incomingMessages, pushes, List.filterMap_append]
    have nothing : (client.act action).1.filterMap pushed = [] := pushes_of_quiet added
    rw [nothing, List.nil_append]
    rw [pushes, List.filterMap_cons] at delivered
    cases isPush : action.pushed with
    | none =>
        rw [isPush] at delivered
        rw [Option.toList_none, List.append_nil]
        exact ⟨put, ledger, delivered⟩
    | some message =>
        rw [isPush] at delivered
        refine ⟨put ++ [message], ledger.push message, ?_⟩
        rw [List.append_assoc]
        exact delivered
  · have before := sound.token
    dsimp only at before
    rw [todo, tokenBehind, List.foldl_cons] at before
    dsimp only
    rw [act_reconnectToken, tokenBehind, List.foldl_append]
    have unchanged := tokenBehind_of_quiet added (action.tokenAfter client.reconnectToken)
    rw [tokenBehind] at unchanged
    rw [unchanged]
    exact before
  · intro other member
    rcases List.mem_append.mp member with new | old
    · exact (act_added client action new).2
    · exact sound.lasting other (by rw [todo]; exact List.mem_cons_of_mem _ old)
  · dsimp only
    rw [place.2.2]
    exact sound.window
  · intro closed
    dsimp only
    rw [place.1]
    obtain ⟨away, isOver⟩ := sound.ended closed
    refine ⟨away, ?_⟩
    rcases isOver with already | ⟨other, member, ends⟩
    · exact .inl (kept.2.1 already)
    · rw [todo] at member
      rcases List.mem_cons.mp member with rfl | later
      · exact .inl (act_ends ends)
      · exact .inr ⟨other, List.mem_append_right _ later, ends⟩
  · dsimp only
    rw [place.1]
    exact fun reconnects => kept.1 (sound.assigned reconnects)
  · dsimp only
    rw [place.1]
    intro apart
    have empty := (sound.apart apart).1
    dsimp only at empty
    rw [todo] at empty
    cases empty
  · dsimp only
    rw [place.1]
    intro ended
    rcases sound.finished ended with last | ⟨empty, _⟩
    · dsimp only at last
      rw [todo] at last
      obtain ⟨rfl, rfl⟩ := List.cons.inj last
      exact .inr ⟨rfl, rfl⟩
    · dsimp only at empty
      rw [todo] at empty
      cases empty

/-- The receiving thread goes on to a point, with quiet and lasting actions before. -/
theorem Sound.goes (sound : Sound reconnectToken run) (empty : run.client.receiverTodo = [])
    {point : ReceiverPoint} {todo : List ClientAction}
    (quiet : ∀ action ∈ todo, action.Quiet ∧ action.Lasting)
    (away : ¬ run.client.point.Reconnects ∧ run.client.point ≠ .outer → run.client.Over →
      ¬ point.Reconnects ∧ point ≠ .outer)
    (assigned : point.Reconnects → run.client.flags .playerAssigned = true)
    (apart : point.Apart → todo = [] ∧ run.client.flags .connected = false)
    (finished : point = .finished → todo = [.store .connected false])
    (dials : List String) :
    Sound reconnectToken { run with client := run.client.goTo point todo, dials := dials } where
  mailbox := by
    obtain ⟨put, ledger, delivered⟩ := sound.mailbox
    refine ⟨put, ledger, ?_⟩
    rw [empty] at delivered
    dsimp only [goTo]
    rw [pushes_of_quiet fun action member => (quiet action member).1]
    exact delivered
  token := by
    have before := sound.token
    rw [empty] at before
    dsimp only [goTo]
    rw [tokenBehind_of_quiet fun action member => (quiet action member).1]
    exact before
  lasting := fun action member => (quiet action member).2
  window := sound.window
  ended := by
    intro closed
    obtain ⟨before, isOver⟩ := sound.ended closed
    rcases isOver with already | ⟨_, member, _⟩
    · exact ⟨away before already, .inl already⟩
    · rw [empty] at member
      exact absurd member List.not_mem_nil
  assigned := assigned
  apart := apart
  finished := fun ended => .inl (finished ended)

theorem quiet_nil : ∀ action ∈ ([] : List ClientAction), action.Quiet ∧ action.Lasting :=
  fun _ member => absurd member List.not_mem_nil

theorem quiet_singleton (action : ClientAction) (quiet : action.Quiet) (lasting : action.Lasting) :
    ∀ other ∈ [action], other.Quiet ∧ other.Lasting := by
  intro other member
  rw [List.mem_singleton.mp member]
  exact ⟨quiet, lasting⟩

theorem quiet_markConnectionLost (error : String) :
    ∀ action ∈ markConnectionLost error, action.Quiet ∧ action.Lasting := by
  intro action member
  simp only [markConnectionLost, List.mem_cons, List.not_mem_nil, or_false] at member
  rcases member with rfl | rfl | rfl
  · exact ⟨⟨rfl, fun _ => rfl⟩, rfl⟩
  · exact ⟨⟨rfl, fun _ => rfl⟩, trivial⟩
  · exact ⟨⟨rfl, fun _ => rfl⟩, trivial⟩

/-- What the actions for a message do: they put it into the queue, or keep the token it
assigns. -/
theorem handling_ok {message : Message} {actions : List ClientAction}
    (handled : handling message = .ok actions) :
    pushes actions = [message].filter Queued ∧
      (∀ token, tokenBehind token actions =
        if Assigns message then message.reconnectToken else token) ∧
      ∀ action ∈ actions, action.Lasting := by
  cases type : message.type with
  | playerAssigned =>
      simp only [handling, type] at handled
      have notQueued : [message].filter Queued = [] := by
        rw [List.filter_cons_of_neg (by simp only [Queued, type]; decide), List.filter_nil]
      split at handled
      · next white =>
          cases handled
          refine ⟨notQueued.symm ▸ rfl, fun token => ?_, ?_⟩
          · rw [if_pos (by simp only [Assigns, type, white]; decide)]
            rfl
          · simp only [List.forall_mem_cons, List.not_mem_nil, false_implies, implies_true,
              and_true, Lasting]
      · split at handled
        · next black =>
            cases handled
            refine ⟨notQueued.symm ▸ rfl, fun token => ?_, ?_⟩
            · rw [if_pos (by simp only [Assigns, type, black]; decide)]
              rfl
            · simp only [List.forall_mem_cons, List.not_mem_nil, false_implies, implies_true,
                and_true, Lasting]
        · cases handled
  | _ =>
      simp only [handling, type, Except.ok.injEq] at handled
      subst handled
      have queued : [message].filter Queued = [message] := by
        rw [List.filter_cons_of_pos (by simp only [Queued, type]; decide), List.filter_nil]
      have plain : Assigns message = false := by
        simp only [Assigns, type]
        rfl
      refine ⟨queued.symm ▸ rfl, fun token => ?_, ?_⟩
      · rw [plain, if_neg Bool.false_ne_true]
        rfl
      · simp only [List.forall_mem_cons, List.not_mem_nil, false_implies, implies_true, and_true,
          Lasting]

/-- A message that closes the game raises a flag of its end. -/
theorem handling_closes {message : Message} (closes : Closes message) :
    ∃ actions, handling message = .ok actions ∧ ∃ action ∈ actions, action.Ends := by
  rcases closes with type | type
  · refine ⟨_, by rw [handling, type], .store .gameFull true, ?_, .inl rfl⟩
    simp only [List.mem_cons, true_or, or_true]
  · refine ⟨_, by rw [handling, type], .store .gameClosed true, ?_, .inr rfl⟩
    simp only [List.mem_cons, true_or, or_true]

/-- An exception is thrown for an assignment of no colour alone. -/
theorem handling_error {message : Message} {error : String}
    (thrown : handling message = .error error) :
    message.type = .playerAssigned ∧ Assigns message = false := by
  cases type : message.type with
  | playerAssigned =>
      simp only [handling, type] at thrown
      split at thrown
      · cases thrown
      · next notWhite =>
          split at thrown
          · cases thrown
          · next notBlack =>
              refine ⟨rfl, ?_⟩
              simp only [Assigns, type, notWhite, notBlack, decide_false, Bool.or_false,
                Bool.and_false]
  | _ =>
      simp only [handling, type, reduceCtorEq] at thrown

/-- A step that reads no message only moves the receiving thread. -/
theorem step_goes {io : Io} (empty : run.client.receiverTodo = [])
    {point : ReceiverPoint} {todo : List ClientAction}
    (advances : run.client.advance io = run.client.goTo point todo)
    (silent : reads run.client io = []) :
    run.step (.receive io) =
      { run with
        client := run.client.goTo point todo
        dials := run.dials ++ dialed run.client } := by
  have received : run.client.receive io = run.client.goTo point todo := by
    rw [receive, empty]
    exact advances
  rw [step, received, silent, List.append_nil]

/-- Only a message that is read counts as arrived. -/
theorem reads_eq_nil {client : GameClient} {io : Io}
    (away : client.point ≠ .reading ∨ ∀ message, io ≠ .message message) :
    reads client io = [] := by
  unfold reads
  split
  · next message _ isReading =>
      rcases away with elsewhere | other
      · exact absurd isReading elsewhere
      · exact absurd rfl (other message)
  · rfl

/-- **A message that is read.** -/
theorem Sound.reads_message (sound : Sound reconnectToken run)
    (empty : run.client.receiverTodo = []) (reading : run.client.point = .reading)
    (message : Message) : Sound reconnectToken (run.step (.receive (.message message))) := by
  obtain ⟨client, arrived, taken, dials⟩ := run
  dsimp only at empty reading
  have isRead : reads client (.message message) = [message] := by
    unfold reads
    rw [empty, reading]
  have noneDialed : dialed client = [] := by
    unfold dialed
    rw [empty, reading]
  obtain ⟨point, todo, received, pushed, kept, lasting, closes, goesOn⟩ :
      ∃ point todo, client.receive (.message message) = client.goTo point todo ∧
        pushes todo = [message].filter Queued ∧
        (∀ token, tokenBehind token todo =
          if Assigns message then message.reconnectToken else token) ∧
        (∀ action ∈ todo, action.Lasting) ∧
        (Closes message → ∃ action ∈ todo, action.Ends) ∧
        (point = .inner ∨ ∃ error, point = .caught error) := by
    rw [receive, empty, advance, reading]
    dsimp only
    cases handled : handling message with
    | ok actions =>
        obtain ⟨pushed, kept, lasting⟩ := handling_ok handled
        refine ⟨.inner, .recordNames message :: actions, rfl, pushed, kept, ?_, ?_, .inl rfl⟩
        · intro action member
          rcases List.mem_cons.mp member with rfl | later
          · trivial
          · exact lasting action later
        · intro closing
          obtain ⟨others, same, action, member, ends⟩ := handling_closes closing
          cases handled.symm.trans same
          exact ⟨action, List.mem_cons_of_mem _ member, ends⟩
    | error error =>
        obtain ⟨type, plain⟩ := handling_error handled
        refine ⟨.caught error, [.recordNames message], rfl, ?_, ?_, ?_, ?_, .inr ⟨error, rfl⟩⟩
        · rw [List.filter_cons_of_neg (by simp only [Queued, type]; decide), List.filter_nil]
          rfl
        · intro token
          rw [plain, if_neg Bool.false_ne_true]
          rfl
        · intro action member
          rw [List.mem_singleton.mp member]
          trivial
        · intro closing
          simp only [Closes, type, reduceCtorEq, or_self] at closing
  have moved : step ⟨client, arrived, taken, dials⟩ (.receive (.message message)) =
      ⟨client.goTo point todo, arrived ++ [message], taken, dials⟩ := by
    rw [step, received, isRead, noneDialed, List.append_nil]
  have away : ¬ point.Reconnects ∧ ¬ point.Apart ∧ point ≠ .outer ∧ point ≠ .finished := by
    rcases goesOn with rfl | ⟨error, rfl⟩
    · exact ⟨id, id, ReceiverPoint.noConfusion, ReceiverPoint.noConfusion⟩
    · exact ⟨id, id, ReceiverPoint.noConfusion, ReceiverPoint.noConfusion⟩
  rw [moved]
  constructor
  · obtain ⟨put, ledger, delivered⟩ := sound.mailbox
    refine ⟨put, ledger, ?_⟩
    dsimp only at delivered
    rw [empty] at delivered
    have already : put = arrived.filter Queued := (List.append_nil put).symm.trans delivered
    dsimp only [goTo]
    rw [pushed, List.filter_append, already]
  · have before := sound.token
    dsimp only at before
    rw [empty] at before
    dsimp only [goTo]
    rw [kept, lastToken_append, ← before]
    rfl
  · exact lasting
  · exact sound.window
  · rintro ⟨closing, member, closed⟩
    refine ⟨⟨away.1, away.2.2.1⟩, ?_⟩
    rcases List.mem_append.mp member with earlier | new
    · obtain ⟨_, isOver⟩ := sound.ended ⟨closing, earlier, closed⟩
      rcases isOver with already | ⟨_, pending, _⟩
      · exact .inl already
      · dsimp only at pending
        rw [empty] at pending
        exact absurd pending List.not_mem_nil
    · rw [List.mem_singleton.mp new] at closed
      exact .inr (closes closed)
  · exact fun reconnects => absurd reconnects away.1
  · exact fun apart => absurd apart away.2.1
  · exact fun ended => absurd ended away.2.2.2

/-- A step of the receiving thread that stays where it is. -/
theorem Sound.stays (sound : Sound reconnectToken run) {io : Io}
    (empty : run.client.receiverTodo = []) (still : run.client.advance io = run.client)
    (silent : reads run.client io = []) (noDial : dialed run.client = []) :
    Sound reconnectToken (run.step (.receive io)) := by
  have same : run.client.receive io = run.client := by
    rw [receive, empty]
    exact still
  rw [step, same, silent, noDial, List.append_nil, List.append_nil]
  exact sound

/-- Dialing starts where the token is copied, and nowhere else. -/
theorem dialed_eq_nil {client : GameClient} (away : client.point ≠ .copying) :
    dialed client = [] := by
  unfold dialed
  split
  · next isCopying => exact absurd isCopying away
  · rfl

/-- The points behind a message, before the loop over attempts. -/
def Plain (point : ReceiverPoint) : Prop :=
  ¬ point.Reconnects ∧ ¬ point.Apart ∧ point ≠ .outer ∧ point ≠ .finished

theorem plain_ite {condition : Prop} [Decidable condition] {first second : ReceiverPoint}
    (isPlain : Plain first) (isPlainToo : Plain second) :
    Plain (if condition then first else second) := by
  split
  · exact isPlain
  · exact isPlainToo

/-- The receiving thread goes to a plain point. -/
theorem Sound.goes_plain (sound : Sound reconnectToken run)
    (empty : run.client.receiverTodo = []) {io : Io} (silent : reads run.client io = [])
    {point : ReceiverPoint} (plain : Plain point) {todo : List ClientAction}
    (quiet : ∀ action ∈ todo, action.Quiet ∧ action.Lasting)
    (advances : run.client.advance io = run.client.goTo point todo) :
    Sound reconnectToken (run.step (.receive io)) := by
  rw [step_goes empty advances silent]
  exact sound.goes empty quiet (fun _ _ => ⟨plain.1, plain.2.2.1⟩)
    (fun reconnects => absurd reconnects plain.1) (fun apart => absurd apart plain.2.1)
    (fun ended => absurd ended plain.2.2.2) _

/-- The receiving thread moves in the loop over attempts, or leaves it. -/
theorem Sound.goes_reconnecting (sound : Sound reconnectToken run)
    (empty : run.client.receiverTodo = []) {io : Io} (reconnects : run.client.point.Reconnects)
    {point : ReceiverPoint} {todo : List ClientAction}
    (quiet : ∀ action ∈ todo, action.Quiet ∧ action.Lasting)
    (apart : point.Apart → todo = [] ∧ run.client.flags .connected = false)
    (onward : point ≠ .finished)
    (advances : run.client.advance io = run.client.goTo point todo) :
    Sound reconnectToken (run.step (.receive io)) := by
  have elsewhere : run.client.point ≠ .reading := by
    intro isReading
    rw [isReading] at reconnects
    exact reconnects
  rw [step_goes empty advances (reads_eq_nil (.inl elsewhere))]
  exact sound.goes empty quiet (fun away _ => absurd reconnects away.1)
    (fun _ => sound.assigned reconnects) apart (fun ended => absurd ended onward) _

/-- The section in which the new connection takes the place of the old one. -/
theorem Sound.adopts (sound : Sound reconnectToken run) (empty : run.client.receiverTodo = [])
    (adopting : run.client.point = .adopting) (free : run.client.sendingLocked = false)
    (io : Io) : Sound reconnectToken (run.step (.receive io)) := by
  obtain ⟨client, arrived, taken, dials⟩ := run
  dsimp only at empty adopting free
  have received : client.receive io =
      (client.store .connected true).goTo .outer [.recordError ""] := by
    rw [receive, empty]
    unfold GameClient.advance
    rw [adopting]
    exact if_neg (by rw [free]; exact Bool.false_ne_true)
  have moved : step ⟨client, arrived, taken, dials⟩ (.receive io) =
      ⟨(client.store .connected true).goTo .outer [.recordError ""], arrived, taken, dials⟩ := by
    rw [step, received, reads_eq_nil (.inl (by rw [adopting]; exact ReceiverPoint.noConfusion)),
      dialed_eq_nil (by rw [adopting]; exact ReceiverPoint.noConfusion), List.append_nil,
      List.append_nil]
  rw [moved]
  constructor
  · obtain ⟨put, ledger, delivered⟩ := sound.mailbox
    dsimp only at delivered
    rw [empty] at delivered
    exact ⟨put, ledger, delivered⟩
  · have before := sound.token
    dsimp only at before
    rw [empty] at before
    exact before
  · intro action member
    rw [List.mem_singleton.mp member]
    trivial
  · exact sound.window
  · intro closed
    obtain ⟨away, _⟩ := sound.ended closed
    dsimp only at away
    rw [adopting] at away
    exact absurd trivial away.1
  · exact fun reconnects => absurd reconnects id
  · exact fun apart => absurd apart id
  · exact ReceiverPoint.noConfusion

/-- **The receiving thread between two actions.** By cases on where it is. -/
theorem Sound.advance (sound : Sound reconnectToken run)
    (empty : run.client.receiverTodo = []) (io : Io) :
    Sound reconnectToken (run.step (.receive io)) := by
  have plain : Plain .inner ∧ Plain .innerStop ∧ Plain .reading ∧ Plain .deciding ∧
      Plain .ending ∧ ∀ error, Plain (.caught error) := by
    simp only [Plain, ReceiverPoint.Reconnects, ReceiverPoint.Apart, ne_eq, reduceCtorEq,
      not_false_eq_true, and_self, implies_true]
  obtain ⟨inner, innerStop, reading, deciding, ending, caught⟩ := plain
  cases place : run.client.point with
  | outer =>
      have silent : reads run.client io = [] :=
        reads_eq_nil (.inl (by rw [place]; exact ReceiverPoint.noConfusion))
      exact sound.goes_plain empty silent (plain_ite ending inner) quiet_nil
        (by unfold GameClient.advance; rw [place])
  | inner =>
      have silent : reads run.client io = [] :=
        reads_eq_nil (.inl (by rw [place]; exact ReceiverPoint.noConfusion))
      exact sound.goes_plain empty silent (plain_ite innerStop deciding) quiet_nil
        (by unfold GameClient.advance; rw [place])
  | innerStop =>
      have silent : reads run.client io = [] :=
        reads_eq_nil (.inl (by rw [place]; exact ReceiverPoint.noConfusion))
      exact sound.goes_plain empty silent (plain_ite deciding reading) quiet_nil
        (by unfold GameClient.advance; rw [place])
  | reading =>
      cases io with
      | message message => exact sound.reads_message empty place message
      | quiet =>
          exact sound.goes_plain empty (reads_eq_nil (.inr fun _ => Io.noConfusion)) inner
            quiet_nil (by unfold GameClient.advance; rw [place])
      | closed =>
          exact sound.goes_plain empty (reads_eq_nil (.inr fun _ => Io.noConfusion)) deciding
            (quiet_markConnectionLost _) (by unfold GameClient.advance; rw [place])
      | failed error =>
          exact sound.goes_plain empty (reads_eq_nil (.inr fun _ => Io.noConfusion))
            (caught error) quiet_nil (by unfold GameClient.advance; rw [place])
      | succeeded =>
          exact sound.stays empty (by unfold GameClient.advance; rw [place])
            (reads_eq_nil (.inr fun _ => Io.noConfusion))
            (dialed_eq_nil (by rw [place]; exact ReceiverPoint.noConfusion))
  | caught error =>
      have silent : reads run.client io = [] :=
        reads_eq_nil (.inl (by rw [place]; exact ReceiverPoint.noConfusion))
      refine sound.goes_plain empty silent deciding ?_ (by unfold GameClient.advance; rw [place])
      split
      · exact quiet_nil
      · exact quiet_markConnectionLost error
  | deciding =>
      have advances : run.client.advance io = run.client.goTo
          (if run.client.flags .stopRequested || run.client.flags .gameFull ||
              run.client.flags .gameClosed || !run.client.flags .playerAssigned then .ending
            else .tryingAgain) := by
        unfold GameClient.advance
        rw [place]
      have silent : reads run.client io = [] :=
        reads_eq_nil (.inl (by rw [place]; exact ReceiverPoint.noConfusion))
      -- The one door to the loop over attempts: a closed or full game, or a client without
      -- a colour, does not pass it.
      cases decided : run.client.flags .stopRequested || run.client.flags .gameFull ||
          run.client.flags .gameClosed || !run.client.flags .playerAssigned with
      | true =>
          rw [decided, if_pos rfl] at advances
          exact sound.goes_plain empty silent ending quiet_nil advances
      | false =>
          rw [decided, if_neg Bool.false_ne_true] at advances
          simp only [Bool.or_eq_false_iff, Bool.not_eq_false'] at decided
          obtain ⟨⟨⟨_, full⟩, closed⟩, assigned⟩ := decided
          rw [step_goes empty advances silent]
          refine sound.goes empty quiet_nil ?_ (fun _ => assigned) (fun apart => absurd apart id)
            ReceiverPoint.noConfusion _
          rintro _ (isFull | isClosed)
          · rw [full] at isFull
            cases isFull
          · rw [closed] at isClosed
            cases isClosed
  | tryingAgain =>
      exact sound.goes_reconnecting empty (by rw [place]; trivial)
        (quiet_singleton (.store .tryingToReconnect true) ⟨rfl, fun _ => rfl⟩ trivial)
        (fun apart => absurd apart id)
        ReceiverPoint.noConfusion (by unfold GameClient.advance; rw [place])
  | retry =>
      refine sound.goes_reconnecting empty (by rw [place]; trivial) quiet_nil ?_ ?_
        (by unfold GameClient.advance; rw [place])
      · split <;> exact fun apart => absurd apart id
      · split <;> exact ReceiverPoint.noConfusion
  | retryConnected =>
      refine sound.goes_reconnecting empty (by rw [place]; trivial) quiet_nil ?_ ?_
        (by unfold GameClient.advance; rw [place])
      · split
        · exact fun apart => absurd apart id
        · next unconnected => exact fun _ => ⟨rfl, Bool.eq_false_iff.mpr unconnected⟩
      · split <;> exact ReceiverPoint.noConfusion
  | pausing =>
      have unconnected := (sound.apart (by rw [place]; trivial)).2
      refine sound.goes_reconnecting empty (by rw [place]; trivial) quiet_nil
        (fun _ => ⟨rfl, unconnected⟩) ?_ (by unfold GameClient.advance; rw [place])
      split <;> exact ReceiverPoint.noConfusion
  | copying =>
      have unconnected := (sound.apart (by rw [place]; trivial)).2
      exact sound.goes_reconnecting empty (by rw [place]; trivial) quiet_nil
        (fun _ => ⟨rfl, unconnected⟩) ReceiverPoint.noConfusion
        (by unfold GameClient.advance; rw [place])
  | dialing token =>
      have unconnected := (sound.apart (by rw [place]; trivial)).2
      have silent : reads run.client io = [] :=
        reads_eq_nil (.inl (by rw [place]; exact ReceiverPoint.noConfusion))
      have noDial : dialed run.client = [] :=
        dialed_eq_nil (by rw [place]; exact ReceiverPoint.noConfusion)
      cases io with
      | succeeded =>
          exact sound.goes_reconnecting empty (by rw [place]; trivial) quiet_nil
            (fun _ => ⟨rfl, unconnected⟩) ReceiverPoint.noConfusion
            (by unfold GameClient.advance; rw [place])
      | failed error =>
          exact sound.goes_reconnecting empty (by rw [place]; trivial)
            (quiet_singleton (.recordError error) ⟨rfl, fun _ => rfl⟩ trivial)
            (fun apart => absurd apart id) ReceiverPoint.noConfusion
            (by unfold GameClient.advance; rw [place])
      | quiet => exact sound.stays empty (by unfold GameClient.advance; rw [place]) silent noDial
      | message message =>
          exact sound.stays empty (by unfold GameClient.advance; rw [place]) silent noDial
      | closed => exact sound.stays empty (by unfold GameClient.advance; rw [place]) silent noDial
  | dialed =>
      have unconnected := (sound.apart (by rw [place]; trivial)).2
      refine sound.goes_reconnecting empty (by rw [place]; trivial) quiet_nil
        (fun _ => ⟨rfl, unconnected⟩) ?_ (by unfold GameClient.advance; rw [place])
      split <;> exact ReceiverPoint.noConfusion
  | adopting =>
      cases free : run.client.sendingLocked with
      | false => exact sound.adopts empty place free io
      | true =>
          refine sound.stays empty ?_
            (reads_eq_nil (.inl (by rw [place]; exact ReceiverPoint.noConfusion)))
            (dialed_eq_nil (by rw [place]; exact ReceiverPoint.noConfusion))
          unfold GameClient.advance
          rw [place]
          exact if_pos free
  | ending =>
      have silent : reads run.client io = [] :=
        reads_eq_nil (.inl (by rw [place]; exact ReceiverPoint.noConfusion))
      have advances : run.client.advance io =
          run.client.goTo .finished [.store .connected false] := by
        unfold GameClient.advance
        rw [place]
      rw [step_goes empty advances silent]
      exact sound.goes empty
        (quiet_singleton (.store .connected false) ⟨rfl, fun _ => rfl⟩ rfl)
        (fun _ _ => ⟨id, ReceiverPoint.noConfusion⟩) (fun reconnects => absurd reconnects id)
        (fun apart => absurd apart id) (fun _ => rfl) _
  | finished =>
      exact sound.stays empty (by unfold GameClient.advance; rw [place])
        (reads_eq_nil (.inl (by rw [place]; exact ReceiverPoint.noConfusion)))
        (dialed_eq_nil (by rw [place]; exact ReceiverPoint.noConfusion))

/-- **A step of the window's thread.** -/
theorem Sound.work (sound : Sound reconnectToken run) :
    Sound reconnectToken (run.step .work) := by
  obtain ⟨client, arrived, taken, dials⟩ := run
  cases todo : client.windowTodo with
  | nil =>
      have still : client.work = client := by
        unfold GameClient.work
        rw [todo]
      rw [step, still]
      exact sound
  | cons action rest =>
      have moved : step ⟨client, arrived, taken, dials⟩ .work =
          ⟨{ (client.act action).2 with windowTodo := (client.act action).1 ++ rest },
            arrived, taken, dials⟩ := by
        rw [step]
        unfold GameClient.work
        rw [todo]
      obtain ⟨point, receiverTodo, _⟩ := act_place client action
      have mild := sound.window action (by rw [todo]; exact List.mem_cons_self)
      have kept := act_lasting client mild.2
      rw [moved]
      constructor
      · obtain ⟨put, ledger, delivered⟩ := sound.mailbox
        dsimp only
        rw [act_incomingMessages, mild.1.1, Option.toList_none, List.append_nil, receiverTodo]
        exact ⟨put, ledger, delivered⟩
      · dsimp only
        rw [act_reconnectToken, mild.1.2, receiverTodo]
        exact sound.token
      · dsimp only
        rw [receiverTodo]
        exact sound.lasting
      · intro other member
        rcases List.mem_append.mp member with new | old
        · exact act_added client action new
        · exact sound.window other (by rw [todo]; exact List.mem_cons_of_mem _ old)
      · intro closed
        dsimp only
        rw [point, receiverTodo]
        obtain ⟨away, isOver⟩ := sound.ended closed
        exact ⟨away, isOver.imp_left kept.2.1⟩
      · dsimp only
        rw [point]
        exact fun reconnects => kept.1 (sound.assigned reconnects)
      · dsimp only
        rw [point, receiverTodo]
        exact fun apart => (sound.apart apart).imp_right kept.2.2
      · dsimp only
        rw [point, receiverTodo]
        exact fun ended => (sound.finished ended).imp_right fun both => both.imp_right kept.2.2

/-- **Every step keeps a sound client sound.** -/
theorem Sound.step (sound : Sound reconnectToken run) (taken : Step) :
    Sound reconnectToken (run.step taken) := by
  cases taken with
  | receive io =>
      cases todo : run.client.receiverTodo with
      | nil => exact sound.advance todo io
      | cons action rest => exact sound.receive_action todo io
  | work => exact sound.work
  | disconnect =>
      rw [ClientRun.step, GameClient.disconnect]
      split
      · refine ⟨sound.mailbox, sound.token, sound.lasting, ?_, sound.ended, sound.assigned,
          sound.apart, sound.finished⟩
        simp only [List.forall_mem_cons, List.not_mem_nil, false_implies, implies_true, and_true]
        exact ⟨⟨⟨rfl, fun _ => rfl⟩, trivial⟩, ⟨⟨rfl, fun _ => rfl⟩, trivial⟩,
          ⟨⟨rfl, fun _ => rfl⟩, trivial⟩, ⟨⟨rfl, fun _ => rfl⟩, trivial⟩, ⟨rfl, fun _ => rfl⟩, rfl⟩
      · exact sound
  | sendFails =>
      rw [ClientRun.step, GameClient.sendFails]
      split
      · refine ⟨sound.mailbox, sound.token, sound.lasting, ?_, sound.ended, sound.assigned,
          sound.apart, sound.finished⟩
        intro action member
        rcases List.mem_append.mp member with marking | last
        · exact quiet_markConnectionLost _ action marking
        · exact quiet_singleton .unlockSending ⟨rfl, fun _ => rfl⟩ trivial action last
      · exact sound
  | createSequence =>
      exact ⟨sound.mailbox, sound.token, sound.lasting, sound.window, sound.ended, sound.assigned,
        sound.apart, sound.finished⟩
  | takeMessage kind =>
      obtain ⟨put, ledger, delivered⟩ := sound.mailbox
      rw [ClientRun.step, GameClient.takeMessage]
      cases found : Mailbox.oldest kindOf kind run.client.incomingMessages with
      | none =>
          dsimp only
          rw [Option.toList_none, List.append_nil]
          exact sound
      | some message =>
          exact ⟨⟨put, ledger.take found, delivered⟩, sound.token, sound.lasting, sound.window,
            sound.ended, sound.assigned, sound.apart, sound.finished⟩

end Steps

variable (reconnectToken username : String)

theorem after_sound (steps : List Step) :
    Sound reconnectToken (after reconnectToken username steps) :=
  Trace.run_invariant (fun _ taken sound => sound.step taken) steps
    (sound_start reconnectToken username)

/-- **No message is lost, doubled or overtaken by one of its kind.** In every order of
the steps of both threads, and for the updates as for the responses to each request:
what the window took, what waits in the queue and what the receiving thread is about to
put there are together the messages of the kind that arrived, in their order. -/
theorem after_mailbox (steps : List Step) (kind : Option Nat) :
    Mailbox.ofKind kindOf kind (after reconnectToken username steps).taken ++
      Mailbox.ofKind kindOf kind (after reconnectToken username steps).client.incomingMessages ++
      Mailbox.ofKind kindOf kind
        (pushes (after reconnectToken username steps).client.receiverTodo) =
    Mailbox.ofKind kindOf kind
      ((after reconnectToken username steps).arrived.filter Queued) := by
  obtain ⟨put, ledger, delivered⟩ := (after_sound reconnectToken username steps).mailbox
  rw [ledger.balance, ← delivered]
  exact (List.filter_append ..).symm

/-- A client whose game was closed or full keeps that message, and does not dial. -/
theorem Sound.closed_step {reconnectToken : String} {run : ClientRun}
    (sound : Sound reconnectToken run) (closed : ∃ message ∈ run.arrived, Closes message)
    (taken : Step) :
    (∃ message ∈ (run.step taken).arrived, Closes message) ∧
      (run.step taken).dials = run.dials := by
  cases taken with
  | receive io =>
      have none : dialed run.client = [] := by
        refine dialed_eq_nil fun copying => (sound.ended closed).1.1 ?_
        rw [copying]
        trivial
      obtain ⟨message, member, closes⟩ := closed
      exact ⟨⟨message, List.mem_append_left _ member, closes⟩,
        (congrArg (run.dials ++ ·) none).trans (List.append_nil _)⟩
  | _ => exact ⟨closed, rfl⟩

theorem Sound.closed_run {reconnectToken : String} {run : ClientRun}
    (sound : Sound reconnectToken run) (closed : ∃ message ∈ run.arrived, Closes message)
    (more : List Step) : (Trace.run ClientRun.step run more).dials = run.dials := by
  refine (Trace.run_invariant (motive := fun next : ClientRun => Sound reconnectToken next ∧
    (∃ message ∈ next.arrived, Closes message) ∧ next.dials = run.dials) ?_ more
      ⟨sound, closed, rfl⟩).2.2
  rintro next taken ⟨still, stillClosed, same⟩
  obtain ⟨keeps, dials⟩ := still.closed_step stillClosed taken
  exact ⟨still.step taken, keeps, dials.trans same⟩

/-- **How the client reconnects.** In every order of the steps of both threads: it dials
with the token of the last assignment that arrived; while it does, it is not connected
and has been assigned a colour; once a message has closed the game or called it full, it
never dials again; and a receiving thread that has finished leaves it disconnected. -/
theorem after_reconnects (steps : List Step) :
    (∀ token ∈ dialed (after reconnectToken username steps).client,
      token = lastToken reconnectToken (after reconnectToken username steps).arrived ∧
      (after reconnectToken username steps).client.flags .connected = false ∧
      (after reconnectToken username steps).client.flags .playerAssigned = true) ∧
    ((∃ message ∈ (after reconnectToken username steps).arrived, Closes message) →
      ∀ more, (after reconnectToken username (steps ++ more)).dials =
        (after reconnectToken username steps).dials) ∧
    ((after reconnectToken username steps).client.point = .finished →
      (after reconnectToken username steps).client.receiverTodo = [] →
      (after reconnectToken username steps).client.flags .connected = false) := by
  have sound := after_sound reconnectToken username steps
  refine ⟨?_, ?_, ?_⟩
  · intro token member
    unfold dialed at member
    split at member
    · next empty copying =>
        rw [List.mem_singleton.mp member]
        have current := sound.token
        rw [empty] at current
        refine ⟨current, (sound.apart ?_).2, sound.assigned ?_⟩
        · rw [copying]
          trivial
        · rw [copying]
          trivial
    · exact absurd member List.not_mem_nil
  · intro closed more
    rw [after, Trace.run_append]
    exact sound.closed_run closed more
  · intro ended empty
    rcases sound.finished ended with last | ⟨_, disconnected⟩
    · rw [empty] at last
      cases last
    · exact disconnected

end ClientRun

end KungFuChess
