import KungFuChess.Library.Trace
import Mathlib.Data.List.Induction
import Mathlib.Data.Sum.Basic

/-!
# A server behind two queues

Requests wait in one queue for a server, and what the server says waits in another
for the client. The client may send ahead and read late, and the server may change
and speak without being asked. Whatever the order of these moves, nothing is lost,
doubled or reordered: the server has met the requests in the order they were sent,
and what was read together with what still waits is exactly what it said.
-/

set_option autoImplicit false

namespace Pipeline

variable {σ ι ω ε : Type*}

/-- A move of one of the two parties. -/
inductive Move (ι ε : Type*) where
  | send (request : ι)
  | serve
  | act (event : ε)
  | receive

/-- The server, the two queues and what the client has read. -/
structure Line (σ ι ω : Type*) where
  server : σ
  requests : List ι := []
  responses : List ω := []
  received : List ω := []

variable (serve : σ → ι → ω × σ) (act : σ → ε → List ω × σ)

/-- One move; serving and receiving do nothing at an empty queue. -/
def step (line : Line σ ι ω) : Move ι ε → Line σ ι ω
  | .send request => { line with requests := line.requests ++ [request] }
  | .serve =>
      match line.requests with
      | [] => line
      | request :: rest =>
          { line with
            server := (serve line.server request).2
            requests := rest
            responses := line.responses ++ [(serve line.server request).1] }
  | .act event =>
      { line with
        server := (act line.server event).2
        responses := line.responses ++ (act line.server event).1 }
  | .receive =>
      match line.responses with
      | [] => line
      | response :: rest =>
          { line with responses := rest, received := line.received ++ [response] }

/-- The request a move sends. -/
def Move.request? : Move ι ε → Option ι
  | .send request => some request
  | _ => none

/-- The event of a move. -/
def Move.event? : Move ι ε → Option ε
  | .act event => some event
  | _ => none

def sent (moves : List (Move ι ε)) : List ι := moves.filterMap Move.request?

def acted (moves : List (Move ι ε)) : List ε := moves.filterMap Move.event?

/-- What the server does with a request or an event: what it says, and its next state. -/
def respond (server : σ) : ι ⊕ ε → List ω × σ
  | .inl request => ([(serve server request).1], (serve server request).2)
  | .inr event => act server event

/-- All that a server says to what it meets. -/
def said (server : σ) (met : List (ι ⊕ ε)) : List ω :=
  (Trace.visits (fun state input => (respond serve act state input).2) server met).flatMap
    fun visit => (respond serve act visit.1 visit.2).1

/-- The server after what it meets. -/
def after (server : σ) (met : List (ι ⊕ ε)) : σ :=
  Trace.run (fun state input => (respond serve act state input).2) server met

theorem after_append (server : σ) (met more : List (ι ⊕ ε)) :
    after serve act server (met ++ more) = after serve act (after serve act server met) more :=
  Trace.run_append _ _ _ _

theorem said_append (server : σ) (met more : List (ι ⊕ ε)) :
    said serve act server (met ++ more) =
      said serve act server met ++ said serve act (after serve act server met) more := by
  unfold said after
  rw [Trace.visits_append, List.flatMap_append]

/-- How a line accounts for a server, the requests sent to it and the events it met. -/
structure Accounts (start : σ) (requests : List ι) (events : List ε) (met : List (ι ⊕ ε))
    (line : Line σ ι ω) : Prop where
  requests : met.filterMap Sum.getLeft? ++ line.requests = requests
  events : met.filterMap Sum.getRight? = events
  server : line.server = after serve act start met
  responses : line.received ++ line.responses = said serve act start met

variable {serve act}

/-- One more input that the server meets. -/
theorem Accounts.meet {start : σ} {requests : List ι} {events : List ε} {met : List (ι ⊕ ε)}
    {line : Line σ ι ω} (accounts : Accounts serve act start requests events met line)
    (next : Line σ ι ω) (input : ι ⊕ ε) (same : next.received = line.received)
    (server : next.server = (respond serve act line.server input).2)
    (responses : next.responses = line.responses ++ (respond serve act line.server input).1) :
    next.server = after serve act start (met ++ [input]) ∧
      next.received ++ next.responses = said serve act start (met ++ [input]) := by
  constructor
  · rw [server, accounts.server, after_append]
    rfl
  · rw [same, responses, ← List.append_assoc, accounts.responses, said_append, ← accounts.server]
    simp only [said, Trace.visits, List.flatMap_cons, List.flatMap_nil, List.append_nil]

/-- One move keeps the account. -/
theorem Accounts.step {start : σ} {requests : List ι} {events : List ε} {met : List (ι ⊕ ε)}
    {line : Line σ ι ω} (accounts : Accounts serve act start requests events met line)
    (move : Move ι ε) :
    ∃ more, Accounts serve act start (requests ++ sent [move]) (events ++ acted [move])
      (met ++ more) (step serve act line move) := by
  cases move with
  | send request =>
      refine ⟨[], ?_, ?_, ?_, ?_⟩
      · rw [List.append_nil, ← accounts.requests]
        exact (List.append_assoc ..).symm
      · rw [List.append_nil]
        exact accounts.events.trans (List.append_nil _).symm
      · rw [List.append_nil]
        exact accounts.server
      · rw [List.append_nil]
        exact accounts.responses
  | serve =>
      cases waiting : line.requests with
      | nil =>
          have still : Pipeline.step serve act line .serve = line := by
            rw [Pipeline.step, waiting]
          refine ⟨[], ?_⟩
          rw [still, List.append_nil]
          exact ⟨accounts.requests.trans (List.append_nil _).symm,
            accounts.events.trans (List.append_nil _).symm, accounts.server, accounts.responses⟩
      | cons request rest =>
          have moved : Pipeline.step serve act line .serve =
              { line with
                server := (serve line.server request).2
                requests := rest
                responses := line.responses ++ [(serve line.server request).1] } := by
            rw [Pipeline.step, waiting]
          obtain ⟨server, responses⟩ := accounts.meet (Pipeline.step serve act line .serve)
            (.inl request) (by rw [moved]) (by rw [moved]; rfl) (by rw [moved]; rfl)
          refine ⟨[.inl request], ?_, ?_, server, responses⟩
          · rw [moved, List.filterMap_append, List.append_assoc]
            refine Eq.trans ?_ (List.append_nil _).symm
            rw [← accounts.requests, waiting]
            rfl
          · rw [List.filterMap_append]
            exact congrArg (· ++ []) accounts.events
  | act event =>
      obtain ⟨server, responses⟩ := accounts.meet (Pipeline.step serve act line (.act event))
        (.inr event) rfl rfl rfl
      refine ⟨[.inr event], ?_, ?_, server, responses⟩
      · rw [List.filterMap_append, List.append_assoc]
        exact accounts.requests.trans (List.append_nil _).symm
      · rw [List.filterMap_append, accounts.events]
        rfl
  | receive =>
      refine ⟨[], ?_⟩
      rw [List.append_nil]
      cases waiting : line.responses with
      | nil =>
          have still : Pipeline.step serve act line .receive = line := by
            rw [Pipeline.step, waiting]
          rw [still]
          exact ⟨accounts.requests.trans (List.append_nil _).symm,
            accounts.events.trans (List.append_nil _).symm, accounts.server, accounts.responses⟩
      | cons response rest =>
          have moved : Pipeline.step serve act line .receive =
              { line with responses := rest, received := line.received ++ [response] } := by
            rw [Pipeline.step, waiting]
          rw [moved]
          refine ⟨accounts.requests.trans (List.append_nil _).symm,
            accounts.events.trans (List.append_nil _).symm, accounts.server, ?_⟩
          rw [← accounts.responses, waiting, List.append_assoc]
          rfl

/-- **Nothing is lost, doubled or reordered**, in any order of the moves. -/
theorem accounts (start : σ) (moves : List (Move ι ε)) :
    ∃ met, Accounts serve act start (sent moves) (acted moves) met
      (Trace.run (step serve act) { server := start } moves) := by
  induction moves using List.reverseRecOn with
  | nil => exact ⟨[], rfl, rfl, rfl, rfl⟩
  | append_singleton moves move ih =>
      obtain ⟨met, holds⟩ := ih
      obtain ⟨more, onward⟩ := holds.step move
      refine ⟨met ++ more, ?_⟩
      rw [Trace.run_append, sent, acted, List.filterMap_append, List.filterMap_append]
      exact onward

end Pipeline
