import KungFuChess.Network.RoundTrip

/-!
# Framing

A connection carries one message a line: `sendMessage` ends the text of a message
with a newline, `receiveMessage` reads byte by byte up to the next one. How much of a
text one call of `send` takes, and in which pieces the bytes arrive, is up to the
network.
-/

set_option autoImplicit false

namespace KungFuChess

open JsonText Protocol

namespace TcpConnection

def maxMessageBytes : Nat := 1024 * 1024

/-! ## Sending -/

/-- The loop over partial sends; `taken` tells how many of the remaining bytes a call
of `send` takes. The result is what went out. -/
def sendAll (taken : Nat → Nat) (data : Text) : Except String Text :=
  if data = [] then .ok []
  else if _failed : taken data.length = 0 then .error "TcpConnection: send failed"
  else (data.take (taken data.length) ++ ·) <$> sendAll taken (data.drop (taken data.length))
termination_by data.length
decreasing_by
  have := List.length_pos_of_ne_nil ‹data ≠ []›
  rw [List.length_drop]
  omega

def sendMessage (isOpen : Bool) (taken : Nat → Nat) (json : Text) : Except String Text := do
  require isOpen "TcpConnection: socket is not open"
  require (json.length ≤ maxMessageBytes) "TcpConnection: message is too large"
  sendAll taken (json ++ ['\n'])

/-- Messages sent one after another. -/
def sendMessages (taken : Nat → Nat → Nat) : List Text → Except String Text
  | [] => .ok []
  | json :: texts => do
      let first ← sendMessage true (taken texts.length) json
      let others ← sendMessages taken texts
      return first ++ others

/-! ## Receiving -/

/-- The next byte of what arrives piece by piece; none when the other side has closed
the connection. -/
def recv : List Text → Option (Char × List Text)
  | [] => none
  | [] :: pieces => recv pieces
  | (character :: piece) :: pieces => some (character, piece :: pieces)

/-- A byte that was received is the first of what arrives. -/
theorem recv_some {pieces rest : List Text} {character : Char}
    (received : recv pieces = some (character, rest)) :
    pieces.flatten = character :: rest.flatten := by
  fun_induction recv pieces with
  | case1 => cases received
  | case2 pieces ih => exact ih received
  | case3 =>
      cases received
      rfl

/-- As long as bytes arrive, one is received. -/
theorem recv_of_flatten {pieces : List Text} {character : Char} {stream : Text}
    (arrives : pieces.flatten = character :: stream) :
    ∃ rest, recv pieces = some (character, rest) ∧ rest.flatten = stream := by
  fun_induction recv pieces with
  | case1 => cases arrives
  | case2 pieces ih => exact ih arrives
  | case3 first piece pieces =>
      obtain ⟨rfl, rfl⟩ := List.cons.inj arrives
      exact ⟨_, rfl, rfl⟩

theorem recv_none {pieces : List Text} (ended : pieces.flatten = []) : recv pieces = none := by
  cases received : recv pieces with
  | none => rfl
  | some next => exact absurd (ended.symm.trans (recv_some received)) (List.cons_ne_nil _ _).symm

/-- The loop of `receiveMessage`, with the bytes of the message received so far. -/
def receiveFrom (message : Text) (pieces : List Text) : Except String (Text × List Text) :=
  match _received : recv pieces with
  | none => .ok ([], [])
  | some (character, rest) =>
      if character = '\n' then .ok (message, rest)
      else if maxMessageBytes < (message ++ [character]).length then
        .error "TcpConnection: message is too large"
      else receiveFrom (message ++ [character]) rest
termination_by pieces.flatten.length
decreasing_by
  rw [recv_some _received]
  exact Nat.lt_succ_self _

/-- One message, and what arrives behind it. -/
def receiveMessage (isOpen : Bool) (pieces : List Text) : Except String (Text × List Text) := do
  require isOpen "TcpConnection: socket is not open"
  receiveFrom [] pieces

/-- As many messages as were sent. -/
def receiveMessages : Nat → List Text → Except String (List Text × List Text)
  | 0, pieces => .ok ([], pieces)
  | count + 1, pieces => do
      let (json, behind) ← receiveMessage true pieces
      let (texts, rest) ← receiveMessages count behind
      return (json :: texts, rest)

/-! ## Lines -/

/-- However the network takes it, everything is sent. -/
theorem sendAll_eq {taken : Nat → Nat} (takes : ∀ remaining, 0 < remaining → 0 < taken remaining)
    (data : Text) : sendAll taken data = .ok data := by
  fun_induction sendAll taken data with
  | case1 => rfl
  | case2 data more failed => exact absurd failed (takes _ (List.length_pos_of_ne_nil more)).ne'
  | case3 data _ _ ih => rw [ih, Except.ok_map, List.take_append_drop]

theorem receiveFrom_byte {message : Text} {pieces rest : List Text} {character : Char}
    (received : recv pieces = some (character, rest)) :
    receiveFrom message pieces =
      if character = '\n' then .ok (message, rest)
      else if maxMessageBytes < (message ++ [character]).length then
        .error "TcpConnection: message is too large"
      else receiveFrom (message ++ [character]) rest := by
  rw [receiveFrom]
  split
  · next nothing =>
      rw [received] at nothing
      cases nothing
  · next something =>
      rw [received] at something
      cases something
      rfl

/-- A line is received up to its newline. -/
theorem receiveFrom_line {line stream message : Text} {pieces : List Text} (oneLine : '\n' ∉ line)
    (fits : message.length + line.length ≤ maxMessageBytes)
    (arrives : pieces.flatten = line ++ '\n' :: stream) :
    ∃ rest, receiveFrom message pieces = .ok (message ++ line, rest) ∧ rest.flatten = stream := by
  induction line generalizing message pieces with
  | nil =>
      obtain ⟨rest, received, behind⟩ := recv_of_flatten arrives
      exact ⟨rest, by rw [receiveFrom_byte received, if_pos rfl, List.append_nil], behind⟩
  | cons character line ih =>
      obtain ⟨rest, received, behind⟩ := recv_of_flatten arrives
      obtain ⟨notNewline, others⟩ := List.ne_and_not_mem_of_not_mem_cons oneLine
      rw [List.length_cons] at fits
      have grown : (message ++ [character]).length = message.length + 1 := by
        rw [List.length_append, List.length_singleton]
      have fitsBehind : (message ++ [character]).length + line.length ≤ maxMessageBytes := by omega
      obtain ⟨remaining, later, ended⟩ := ih others fitsBehind behind
      refine ⟨remaining, ?_, ended⟩
      rw [receiveFrom_byte received, if_neg notNewline.symm, if_neg (by omega), later,
        List.append_assoc, List.singleton_append]

/-- A line that is too long is refused before its end. -/
theorem receiveFrom_tooLong {line stream message : Text} {pieces : List Text}
    (oneLine : '\n' ∉ line) (room : message.length ≤ maxMessageBytes)
    (tooLong : maxMessageBytes < message.length + line.length)
    (arrives : pieces.flatten = line ++ stream) :
    receiveFrom message pieces = .error "TcpConnection: message is too large" := by
  induction line generalizing message pieces with
  | nil => exact absurd tooLong (not_lt.mpr room)
  | cons character line ih =>
      obtain ⟨rest, received, behind⟩ := recv_of_flatten arrives
      obtain ⟨notNewline, others⟩ := List.ne_and_not_mem_of_not_mem_cons oneLine
      rw [receiveFrom_byte received, if_neg notNewline.symm]
      split
      · rfl
      · next fits =>
          refine ih others (not_lt.mp fits) ?_ behind
          rw [List.length_append, List.length_singleton]
          rw [List.length_cons] at tooLong
          omega

/-- Nothing more is received at the end of the stream. -/
theorem receiveMessage_ended {pieces : List Text} (ended : pieces.flatten = []) :
    receiveMessage true pieces = .ok ([], []) := by
  rw [receiveMessage, require_ok rfl, Except.ok_bind, receiveFrom]
  split
  · rfl
  · next received =>
      rw [recv_none ended] at received
      cases received

/-- The texts that can be framed. -/
def Framed (texts : List Text) : Prop :=
  ∀ json ∈ texts, '\n' ∉ json ∧ json.length ≤ maxMessageBytes

/-- Sending writes the texts, each as a line. -/
theorem sendMessages_eq {taken : Nat → Nat → Nat}
    (takes : ∀ left remaining, 0 < remaining → 0 < taken left remaining) {texts : List Text}
    (framed : Framed texts) :
    sendMessages taken texts = .ok (texts.flatMap fun json => json ++ ['\n']) := by
  induction texts with
  | nil => rfl
  | cons json texts ih =>
      rw [sendMessages, sendMessage, require_ok rfl, Except.ok_bind,
        require_ok (framed json (List.mem_cons_self ..)).2, Except.ok_bind,
        sendAll_eq (takes texts.length), Except.ok_bind,
        ih fun other member => framed other (List.mem_cons_of_mem _ member)]
      rfl

/-- Receiving splits the lines, however they arrive. -/
theorem receiveMessages_eq {texts : List Text} (framed : Framed texts) {pieces : List Text}
    {stream : Text}
    (arrives : pieces.flatten = (texts.flatMap fun json => json ++ ['\n']) ++ stream) :
    ∃ rest, receiveMessages texts.length pieces = .ok (texts, rest) ∧ rest.flatten = stream := by
  induction texts generalizing pieces with
  | nil => exact ⟨pieces, rfl, arrives⟩
  | cons json texts ih =>
      obtain ⟨oneLine, fits⟩ := framed json (List.mem_cons_self ..)
      rw [List.flatMap_cons, List.append_assoc, List.append_assoc, List.singleton_append] at arrives
      have fitsAlone : ([] : Text).length + json.length ≤ maxMessageBytes := by
        rw [List.length_nil, Nat.zero_add]
        exact fits
      obtain ⟨behind, received, follows⟩ := receiveFrom_line oneLine fitsAlone arrives
      obtain ⟨rest, others, ended⟩ :=
        ih (fun other member => framed other (List.mem_cons_of_mem _ member)) follows
      refine ⟨rest, ?_, ended⟩
      rw [List.length_cons, receiveMessages, receiveMessage, require_ok rfl, Except.ok_bind,
        received]
      simp only [Except.ok_bind, others, List.nil_append]
      rfl

end TcpConnection

namespace Protocol

/-- **Protocol round trip and framing.** Every well-formed message is written as one line
and read back, and a list of such lines is split by the receiver into the messages
that were sent, however the network cuts the stream. -/
theorem round_trip :
    (∀ message : Message, message.WellFormed →
      ∃ json, serialize message = .ok json ∧ deserialize json = .ok message ∧ '\n' ∉ json) ∧
    ∀ (messages : List Message) (texts : List Text),
      (∀ message ∈ messages, message.WellFormed) → messages.mapM serialize = .ok texts →
      (∀ json ∈ texts, json.length ≤ TcpConnection.maxMessageBytes) →
      ∀ taken : Nat → Nat → Nat,
        (∀ left remaining, 0 < remaining → 0 < taken left remaining) →
        ∃ stream, TcpConnection.sendMessages taken texts = .ok stream ∧
          ∀ pieces : List Text, pieces.flatten = stream →
            ∃ rest, TcpConnection.receiveMessages messages.length pieces = .ok (texts, rest) ∧
              texts.mapM deserialize = .ok messages ∧
              TcpConnection.receiveMessage true rest = .ok ([], []) := by
  have carried : ∀ message : Message, message.WellFormed →
      ∃ json, serialize message = .ok json ∧ deserialize json = .ok message ∧ '\n' ∉ json := by
    intro message wellFormed
    obtain ⟨members, written, clean, reads⟩ := carries_message wellFormed
    exact ⟨object members, written, reads, clean.object.visible.not_newline⟩
  refine ⟨carried, fun messages texts wellFormed written fits taken takes => ?_⟩
  have sent := (List.forall₂_and_left _ _).mpr ⟨wellFormed, Except.mapM_eq_ok.mp written⟩
  have each : List.Forall₂ (fun json message => '\n' ∉ json ∧ deserialize json = .ok message)
      texts messages := by
    refine (sent.imp fun message json ⟨valid, wrote⟩ => ?_).flip
    obtain ⟨_, same, reads, oneLine⟩ := carried message valid
    cases wrote.symm.trans same
    exact ⟨oneLine, reads⟩
  obtain ⟨lines, decoded⟩ := (List.forall₂_and_left _ _).mp each
  have framed : TcpConnection.Framed texts := fun json isText =>
    ⟨lines json isText, fits json isText⟩
  refine ⟨_, TcpConnection.sendMessages_eq takes framed, fun pieces arrives => ?_⟩
  obtain ⟨rest, received, ended⟩ :=
    TcpConnection.receiveMessages_eq framed (arrives.trans (List.append_nil _).symm)
  exact ⟨rest, decoded.length_eq ▸ received, Except.mapM_eq_ok.mpr decoded,
    TcpConnection.receiveMessage_ended ended⟩

/-- A name made of delimiters, escapes and a key of the message itself. -/
def delimiterName : Message where
  type := .reconnectRequest
  username := "\"\x7d,\\\"reason\":\n["
  createdAtMs := 1

theorem delimiterName_wellFormed : delimiterName.WellFormed where
  sequence := by decide
  source := .inl rfl
  destination := .inl rfl
  reason := by decide
  playerColor := by decide
  reconnectToken := by decide
  username := by decide
  whiteUsername := by decide
  blackUsername := by decide
  secondsRemaining := by decide
  createdAt := by decide
  sent := fun shown => absurd shown (by decide)
  notSent := fun _ => rfl

def delimiterText : Text := (serialize delimiterName).toOption.getD []

/-- It is read back, and its line arrives whole in pieces of two bytes and the rest. -/
theorem round_trip_delimiterName :
    (∃ json, serialize delimiterName = .ok json ∧ deserialize json = .ok delimiterName ∧
      '\n' ∉ json) ∧
    ∃ stream, TcpConnection.sendMessages (fun _ _ => 3) [delimiterText] = .ok stream ∧
      ∃ rest, TcpConnection.receiveMessages 1 [stream.take 2, stream.drop 2] =
          .ok ([delimiterText], rest) ∧
        [delimiterText].mapM deserialize = .ok [delimiterName] ∧
        TcpConnection.receiveMessage true rest = .ok ([], []) := by
  refine ⟨round_trip.1 delimiterName delimiterName_wellFormed, ?_⟩
  obtain ⟨stream, sent, received⟩ := round_trip.2 [delimiterName] [delimiterText]
    (List.forall_mem_singleton.mpr delimiterName_wellFormed) (by decide +kernel)
    (by decide +kernel) (fun _ _ => 3) (fun _ _ _ => by decide)
  exact ⟨stream, sent, received _ (by simp)⟩

end Protocol

end KungFuChess
