import KungFuChess.Gateway.Snapshots

/-!
# Results of moves and jumps

The pending actions of both players of a match share one table, keyed by colour and
sequence number. The game server answers each request once and on the connection it
came from; its answers come back mixed with its broadcasts. A result goes to the web
socket that registered the colour and the sequence number, once for each call.

The lines of both connections are handled here in any order, which includes the
order in which each connection delivers them.
-/

set_option autoImplicit false

namespace KungFuChess

/-- An accepted call of `move` or `jump`, numbered in the order of the sections. -/
abbrev CallId := Nat

structure AcceptedCall where
  color : String
  sequence : Int
  websocket : ConnectionId
  deriving DecidableEq, Repr

/-- The key under which a call is registered. -/
def AcceptedCall.key (call : AcceptedCall) : String × Int := (call.color, call.sequence)

/-- A line that the server has sent and the gateway has not handled yet; `answers` is the
call whose request it answers. -/
structure ServerLine where
  color : String
  message : Message
  answers : Option CallId
  deriving DecidableEq, Repr

/-- A result that was given to a web socket while a line was handled. -/
structure RoutedResult where
  websocket : ConnectionId
  color : String
  sequence : Int
  call : Option CallId
  deriving DecidableEq, Repr

/-- One match: its place in the table, the calls it has accepted, those whose requests the
server has not answered, the lines on their way back and the results delivered. -/
structure MatchTraffic where
  roomId : RoomId
  manager : MatchManager
  calls : List AcceptedCall := []
  pending : List CallId := []
  lines : List ServerLine := []
  results : List RoutedResult := []

inductive TrafficStep where
  /-- A client calls `move` or `jump`. -/
  | call (now : Int) (userId : UserId) (websocket : ConnectionId) (sequence : Int)
      (notAPlayer duplicate : String)
  /-- The server answers one of the requests. -/
  | answer (index : Nat) (message : Message)
  /-- The server sends something else. -/
  | broadcast (color : String) (message : Message)
  /-- The read loop of a connection handles a line. -/
  | handle (index : Nat)
  /-- The match is finished, or cleaned up after a disconnect. -/
  | finish
  /-- A section of another match. -/
  | elsewhere (input : ManagerStep)

namespace Message

/-- The types of the answers to requests. -/
def IsResult (message : Message) : Prop :=
  message.type = .moveAccepted ∨ message.type = .moveRejected

instance (message : Message) : Decidable message.IsResult :=
  inferInstanceAs (Decidable (_ ∨ _))

end Message

namespace ManagerStep

/-- A section of another room. -/
def Elsewhere (roomId : RoomId) : ManagerStep → Prop
  | .register room _ | .pop room | .claimSequence _ room .. | .bridgeEvent room .. =>
      room ≠ roomId

instance (roomId : RoomId) : ∀ input, Decidable (Elsewhere roomId input)
  | .register room _ | .pop room | .claimSequence _ room .. | .bridgeEvent room .. =>
      inferInstanceAs (Decidable (room ≠ roomId))

end ManagerStep

/-- The result among the deliveries of a line. -/
def Delivery.result? (line : ServerLine) (delivery : Delivery) : Option RoutedResult :=
  match delivery.message with
  | .moveResult _ sequence _ _ => some ⟨delivery.websocket, line.color, sequence, line.answers⟩
  | .matchState .. => none

namespace MatchTraffic

/-- The server answers each request once, on its connection and with its number; an `answer`
or a `broadcast` that does not is none. -/
def step (traffic : MatchTraffic) : TrafficStep → MatchTraffic
  | .call now userId websocket sequence notAPlayer duplicate =>
      match traffic.manager.claimSequence now traffic.roomId userId websocket sequence notAPlayer
          duplicate with
      | .error _ => traffic
      | .ok (color, claimed) =>
          { traffic with
            manager := claimed
            calls := traffic.calls ++ [⟨color, sequence, websocket⟩]
            pending := traffic.pending ++ [traffic.calls.length] }
  | .answer index message =>
      match traffic.pending[index]? with
      | none => traffic
      | some call =>
          match traffic.calls[call]? with
          | none => traffic
          | some known =>
              if message.IsResult ∧ message.sequence = known.sequence then
                { traffic with
                  pending := traffic.pending.eraseIdx index
                  lines := traffic.lines ++ [⟨known.color, message, some call⟩] }
              else traffic
  | .broadcast color message =>
      if message.IsResult then traffic
      else { traffic with lines := traffic.lines ++ [⟨color, message, none⟩] }
  | .handle index =>
      match traffic.lines[index]? with
      | none => traffic
      | some line =>
          let (outcome, manager) :=
            traffic.manager.handleBridgeEvent traffic.roomId line.color line.message
          { traffic with
            manager := manager
            lines := traffic.lines.eraseIdx index
            results := traffic.results ++ outcome.deliveries.filterMap (Delivery.result? line) }
  | .finish => { traffic with manager := (traffic.manager.pop traffic.roomId).2 }
  | .elsewhere input =>
      if input.Elsewhere traffic.roomId then
        { traffic with manager := traffic.manager.step input }
      else traffic

/-! ## What is on its way -/

/-- The calls whose result is still to come. -/
def outstanding (traffic : MatchTraffic) : List CallId :=
  traffic.pending ++ traffic.lines.filterMap ServerLine.answers

/-- The sequence numbers that are taken, while the match is in the table. -/
def owners (traffic : MatchTraffic) : Option (AList fun _ : String × Int => ConnectionId) :=
  (traffic.manager.matches_.lookup traffic.roomId).map ActiveMatch.sequenceOwners

/-- A line is a broadcast, or the answer to a call on the connection of its colour. -/
def ProperLine (calls : List AcceptedCall) (line : ServerLine) : Prop :=
  match line.answers with
  | none => ¬ line.message.IsResult
  | some call => line.message.IsResult ∧
      ∃ known, calls[call]? = some known ∧ known.key = (line.color, (line.message.sequence : Int))

/-- A result went where it belongs. -/
def ProperResult (calls : List AcceptedCall) (routed : RoutedResult) : Prop :=
  ∃ call known, routed.call = some call ∧ calls[call]? = some known ∧
    known.key = (routed.color, routed.sequence) ∧ known.websocket = routed.websocket

/-- **What holds between the table and the traffic.** Each call comes back at most once, no
two calls on their way share a key, and each owns its key. -/
structure Sound (owners : Option (AList fun _ : String × Int => ConnectionId))
    (calls : List AcceptedCall) (outstanding : List CallId) (lines : List ServerLine)
    (results : List RoutedResult) : Prop where
  once : (outstanding.map some ++ results.map RoutedResult.call).Nodup
  known : ∀ call ∈ outstanding, call < calls.length
  apart : (outstanding.map fun call => calls[call]?.map AcceptedCall.key).Nodup
  owned : ∀ table, owners = some table → ∀ call ∈ outstanding, ∀ known,
    calls[call]? = some known → table.lookup known.key = some known.websocket
  lines : ∀ line ∈ lines, ProperLine calls line
  results : ∀ routed ∈ results, ProperResult calls routed

end MatchTraffic

/-! ## The sections -/

namespace MatchManager

variable {manager : MatchManager} {roomId : RoomId} {found : ActiveMatch} {line : ServerLine}

theorem owners_storeSnapshot (found : ActiveMatch) (roomId : RoomId) (message : Message) :
    (found.storeSnapshot roomId message).2.sequenceOwners = found.sequenceOwners := by
  rw [ActiveMatch.storeSnapshot]
  split <;> rfl

/-- The updates of a snapshot are no results. -/
theorem results_storeSnapshot (found : ActiveMatch) (roomId : RoomId) (message : Message)
    (line : ServerLine) :
    (found.storeSnapshot roomId message).1.filterMap (Delivery.result? line) = [] := by
  rw [ActiveMatch.storeSnapshot]
  split
  · rw [List.filterMap_map]
    exact List.filterMap_eq_nil_iff.mpr fun participant _ => rfl
  · rfl

/-- A broadcast gives nobody a result and frees no sequence number. -/
theorem handleBridgeEvent_broadcast (active : manager.matches_.lookup roomId = some found)
    (broadcast : ¬ line.message.IsResult) :
    (manager.handleBridgeEvent roomId line.color line.message).1.deliveries.filterMap
        (Delivery.result? line) = [] ∧
      ∃ stored, (manager.handleBridgeEvent roomId line.color line.message).2.matches_.lookup
        roomId = some stored ∧ stored.sequenceOwners = found.sequenceOwners := by
  have resolved : found.resolveSequence roomId line.color line.message = ([], found) :=
    if_neg broadcast
  simp only [handleBridgeEvent, active, resolved, List.nil_append]
  exact ⟨results_storeSnapshot found roomId line.message line, _, AList.lookup_insert _,
    owners_storeSnapshot found roomId line.message⟩

/-- An answer gives its result to the owner of the sequence number, and frees the number. -/
theorem handleBridgeEvent_answer (active : manager.matches_.lookup roomId = some found)
    (answer : line.message.IsResult) {owner : ConnectionId}
    (owned : found.sequenceOwners.lookup (line.color, (line.message.sequence : Int)) =
      some owner) :
    (manager.handleBridgeEvent roomId line.color line.message).1.deliveries.filterMap
        (Delivery.result? line) =
        [⟨owner, line.color, line.message.sequence, line.answers⟩] ∧
      ∃ stored, (manager.handleBridgeEvent roomId line.color line.message).2.matches_.lookup
        roomId = some stored ∧
        stored.sequenceOwners =
          found.sequenceOwners.erase (line.color, (line.message.sequence : Int)) := by
  have resolved : found.resolveSequence roomId line.color line.message =
      ([⟨owner, .moveResult roomId line.message.sequence line.message.accepted
          line.message.reason⟩],
        { found with sequenceOwners :=
            found.sequenceOwners.erase (line.color, (line.message.sequence : Int)) }) := by
    refine (if_pos answer).trans ?_
    rw [owned]
  simp only [handleBridgeEvent, active, resolved]
  refine ⟨?_, _, AList.lookup_insert _, owners_storeSnapshot _ roomId line.message⟩
  rw [List.filterMap_append, results_storeSnapshot, List.append_nil]
  rfl

/-- The sections of other rooms leave a match as it is. -/
theorem lookup_step_elsewhere (manager : MatchManager) {input : ManagerStep}
    (elsewhere : input.Elsewhere roomId) :
    (manager.step input).matches_.lookup roomId = manager.matches_.lookup roomId := by
  cases input with
  | register room started => exact AList.lookup_insert_ne (Ne.symm elsewhere)
  | pop room => exact AList.lookup_erase_ne (Ne.symm elsewhere)
  | claimSequence now room userId websocket sequence notAPlayer duplicate =>
      simp only [step]
      split
      · next accepted =>
          obtain ⟨found, -, -, rfl⟩ := claimSequence_ok accepted
          exact AList.lookup_insert_ne (Ne.symm elsewhere)
      · rfl
  | bridgeEvent room color message =>
      simp only [step, handleBridgeEvent]
      split
      · rfl
      · exact AList.lookup_insert_ne (Ne.symm elsewhere)

end MatchManager

/-! ## Preservation -/

namespace MatchTraffic

/-- A call keeps its number. -/
theorem call_append {calls : List AcceptedCall} {call : CallId} {known : AcceptedCall}
    (is : calls[call]? = some known) (more : List AcceptedCall) :
    (calls ++ more)[call]? = some known :=
  (List.getElem?_append_left (List.getElem?_eq_some_iff.mp is).1).trans is

theorem ProperLine.append {calls : List AcceptedCall} {line : ServerLine}
    (proper : ProperLine calls line) (more : List AcceptedCall) :
    ProperLine (calls ++ more) line := by
  rw [ProperLine] at proper ⊢
  split
  · next broadcast => rwa [broadcast] at proper
  · next call answers =>
      rw [answers] at proper
      obtain ⟨result, known, is, key⟩ := proper
      exact ⟨result, known, call_append is more, key⟩

theorem ProperResult.append {calls : List AcceptedCall} {routed : RoutedResult}
    (proper : ProperResult calls routed) (more : List AcceptedCall) :
    ProperResult (calls ++ more) routed := by
  obtain ⟨call, known, answers, is, rest⟩ := proper
  exact ⟨call, known, answers, call_append is more, rest⟩

namespace Sound

variable {table : AList fun _ : String × Int => ConnectionId}
  {owners : Option (AList fun _ : String × Int => ConnectionId)} {calls : List AcceptedCall}
  {outstanding rest : List CallId} {lines shorter : List ServerLine}
  {results : List RoutedResult}

/-- The order of the calls on their way does not matter. -/
theorem perm (sound : Sound owners calls outstanding lines results)
    (same : outstanding.Perm rest) : Sound owners calls rest lines results where
  once := ((same.map _).append_right _).nodup_iff.mp sound.once
  known := fun call member => sound.known call (same.mem_iff.mpr member)
  apart := (same.map _).nodup_iff.mp sound.apart
  owned := fun table is call member => sound.owned table is call (same.mem_iff.mpr member)
  lines := sound.lines
  results := sound.results

/-- Lines that are handled need no care any more. -/
theorem fewer (sound : Sound owners calls outstanding lines results)
    (sub : ∀ line ∈ shorter, line ∈ lines) : Sound owners calls outstanding shorter results :=
  { sound with lines := fun line member => sound.lines line (sub line member) }

theorem more (sound : Sound owners calls outstanding lines results) {line : ServerLine}
    (proper : ProperLine calls line) :
    Sound owners calls outstanding (lines ++ [line]) results :=
  { sound with
    lines := fun other member => (List.mem_append.mp member).elim (sound.lines other)
      fun new => List.mem_singleton.mp new ▸ proper }

/-- A result that nobody receives. -/
theorem lost {call : CallId} (sound : Sound owners calls (call :: outstanding) lines results) :
    Sound owners calls outstanding lines results where
  once := (List.nodup_cons.mp sound.once).2
  known := fun other member => sound.known other (List.mem_cons_of_mem _ member)
  apart := (List.nodup_cons.mp sound.apart).2
  owned := fun table is other member => sound.owned table is other (List.mem_cons_of_mem _ member)
  lines := sound.lines
  results := sound.results

/-- **A call is accepted**: its key was free, so no call on its way has it. -/
theorem accept (sound : Sound (some table) calls outstanding lines results)
    {new : AcceptedCall} (free : new.key ∉ table) :
    Sound (some (table.insert new.key new.websocket)) (calls ++ [new])
      (calls.length :: outstanding) lines results := by
  have older : ∀ call ∈ outstanding, (calls ++ [new])[call]? = calls[call]? :=
    fun call member => List.getElem?_append_left (sound.known call member)
  have newest : (calls ++ [new])[calls.length]? = some new := List.getElem?_concat_length
  have distinct : ∀ call ∈ outstanding, ∀ known, calls[call]? = some known →
      known.key ≠ new.key := by
    intro call member known is same
    have owned := sound.owned table rfl call member known is
    rw [same, AList.lookup_eq_none.mpr free] at owned
    cases owned
  refine ⟨?_, ?_, ?_, ?_, fun line member => (sound.lines line member).append _,
    fun routed member => (sound.results routed member).append _⟩
  · refine List.nodup_cons.mpr ⟨fun member => ?_, sound.once⟩
    rcases List.mem_append.mp member with onItsWay | answered
    · obtain ⟨call, member, same⟩ := List.mem_map.mp onItsWay
      exact (sound.known call member).ne (Option.some.inj same)
    · obtain ⟨routed, member, same⟩ := List.mem_map.mp answered
      obtain ⟨call, known, answers, is, -⟩ := sound.results routed member
      rw [answers, Option.some.injEq] at same
      exact (List.getElem?_eq_some_iff.mp is).1.ne same
  · intro call member
    rw [List.length_append]
    rcases List.mem_cons.mp member with rfl | member
    · exact Nat.lt_succ_self _
    · exact Nat.lt_succ_of_lt (sound.known call member)
  · rw [List.map_cons, List.map_congr_left fun call member => by rw [older call member], newest]
    refine List.nodup_cons.mpr ⟨fun member => ?_, sound.apart⟩
    obtain ⟨call, member, same⟩ := List.mem_map.mp member
    rw [Option.map_some, Option.map_eq_some_iff] at same
    obtain ⟨known, is, key⟩ := same
    exact distinct call member known is key
  · rintro other ⟨⟩ call member known is
    rw [ReverseIndex.lookup_insert]
    rcases List.mem_cons.mp member with rfl | member
    · rw [newest, Option.some.injEq] at is
      rw [← is, if_pos rfl]
    · rw [older call member] at is
      rw [if_neg (distinct call member known is)]
      exact sound.owned table rfl call member known is

/-- **An answer is handled**: the call receives its result, and its key is free again. -/
theorem answer {call : CallId}
    (sound : Sound (some table) calls (call :: outstanding) lines results)
    {known : AcceptedCall} (is : calls[call]? = some known) :
    Sound (some (table.erase known.key)) calls outstanding lines
      (results ++ [⟨known.websocket, known.color, known.sequence, some call⟩]) where
  once := by
    have once := sound.once
    rw [List.map_append, ← List.append_assoc]
    exact List.nodup_append_comm.mp once
  known := sound.lost.known
  apart := sound.lost.apart
  owned := by
    rintro other ⟨⟩ later member known' is'
    have distinct : known'.key ≠ known.key := by
      intro same
      refine (List.nodup_cons.mp sound.apart).1 (List.mem_map.mpr ⟨later, member, ?_⟩)
      dsimp only
      rw [is, is', Option.map_some, Option.map_some, same]
    rw [ReverseIndex.lookup_erase, if_neg distinct]
    exact sound.owned table rfl later (List.mem_cons_of_mem _ member) known' is'
  lines := sound.lines
  results := fun routed member => (List.mem_append.mp member).elim (sound.results routed)
    fun new => List.mem_singleton.mp new ▸ ⟨call, known, rfl, is, rfl, rfl⟩

end Sound

/-- The traffic of a match as a whole. -/
def Coherent (traffic : MatchTraffic) : Prop :=
  Sound traffic.owners traffic.calls traffic.outstanding traffic.lines traffic.results

namespace Coherent

variable {traffic : MatchTraffic}

/-- A line of a list comes out, and the others stay. -/
theorem lines_perm {line : ServerLine} {index : Nat} (found : traffic.lines[index]? = some line) :
    traffic.outstanding.Perm (line.answers.toList ++
      (traffic.pending ++ (traffic.lines.eraseIdx index).filterMap ServerLine.answers)) := by
  obtain ⟨inside, here⟩ := List.getElem?_eq_some_iff.mp found
  have split : traffic.lines.Perm (line :: traffic.lines.eraseIdx index) := by
    rw [← here]
    exact (List.getElem_cons_eraseIdx_perm inside).symm
  have answers : (line :: traffic.lines.eraseIdx index).filterMap ServerLine.answers =
      line.answers.toList ++ (traffic.lines.eraseIdx index).filterMap ServerLine.answers := by
    rw [List.filterMap_cons]
    cases line.answers <;> rfl
  rw [outstanding]
  refine ((split.filterMap _).append_left _).trans ?_
  rw [answers, ← List.append_assoc, ← List.append_assoc]
  exact List.perm_append_comm.append_right _

theorem handle (coherent : traffic.Coherent) (index : Nat) :
    (traffic.step (.handle index)).Coherent := by
  simp only [MatchTraffic.step]
  split
  · exact coherent
  · next line found =>
      have proper := coherent.lines line (List.mem_of_getElem? found)
      have fewer : ∀ other ∈ traffic.lines.eraseIdx index, other ∈ traffic.lines :=
        fun other member => List.mem_of_mem_eraseIdx member
      have sound := (Sound.perm coherent (lines_perm found)).fewer fewer
      rw [ProperLine] at proper
      cases active : traffic.manager.matches_.lookup traffic.roomId with
      | none =>
          simp only [MatchManager.handleBridgeEvent_absent active]
          rw [Coherent, outstanding]
          simp only [List.filterMap_nil, List.append_nil]
          cases answers : line.answers with
          | none =>
              rw [answers] at sound
              exact sound
          | some call =>
              rw [answers] at sound
              exact sound.lost
      | some match_ =>
          have owners : traffic.owners = some match_.sequenceOwners := by
            rw [MatchTraffic.owners, active]
            rfl
          rw [owners] at sound
          cases answers : line.answers with
          | none =>
              rw [answers] at sound proper
              obtain ⟨results, stored, next, same⟩ :=
                MatchManager.handleBridgeEvent_broadcast active proper
              rw [Coherent, MatchTraffic.owners]
              simp only [next, results, List.append_nil, Option.map_some, same]
              exact sound
          | some call =>
              rw [answers] at sound proper
              obtain ⟨result, known, is, key⟩ := proper
              have owned := sound.owned _ rfl call List.mem_cons_self known is
              rw [key] at owned
              obtain ⟨results, stored, next, same⟩ :=
                MatchManager.handleBridgeEvent_answer active result owned
              have routed := sound.answer is
              rw [Coherent, MatchTraffic.owners]
              simp only [next, results, Option.map_some, same, answers]
              obtain ⟨color, sequence⟩ := Prod.mk.inj key
              rw [key, color, sequence] at routed
              exact routed

theorem call (coherent : traffic.Coherent) (now : Int) (userId : UserId)
    (websocket : ConnectionId) (sequence : Int) (notAPlayer duplicate : String) :
    (traffic.step (.call now userId websocket sequence notAPlayer duplicate)).Coherent := by
  simp only [MatchTraffic.step]
  split
  · exact coherent
  · next color claimed accepted =>
      obtain ⟨found, active, free, rfl⟩ := MatchManager.claimSequence_ok accepted
      have owners : traffic.owners = some found.sequenceOwners := by
        rw [MatchTraffic.owners, active]
        rfl
      rw [Coherent, owners] at coherent
      rw [Coherent, MatchTraffic.owners]
      simp only [MatchManager.register, AList.lookup_insert, Option.map_some]
      have key : (⟨color, sequence, websocket⟩ : AcceptedCall).key ∉ found.sequenceOwners := free
      refine (coherent.accept key).perm ?_
      rw [outstanding, outstanding, List.append_assoc]
      exact List.perm_middle.symm

theorem answer (coherent : traffic.Coherent) (index : Nat) (message : Message) :
    (traffic.step (.answer index message)).Coherent := by
  simp only [MatchTraffic.step]
  split
  · exact coherent
  · next call found =>
      split
      · exact coherent
      · next known is =>
          split
          · next fits =>
              obtain ⟨inside, here⟩ := List.getElem?_eq_some_iff.mp found
              have split : traffic.pending.Perm (call :: traffic.pending.eraseIdx index) := by
                rw [← here]
                exact (List.getElem_cons_eraseIdx_perm inside).symm
              have proper : ProperLine traffic.calls ⟨known.color, message, some call⟩ :=
                ⟨fits.1, known, is, Prod.ext rfl fits.2.symm⟩
              refine (Sound.more coherent proper).perm ?_
              rw [outstanding, outstanding, List.filterMap_append]
              refine (split.append_right _).trans ?_
              rw [← List.append_assoc]
              exact (List.perm_append_singleton _ _).symm
          · exact coherent

theorem step (coherent : traffic.Coherent) (input : TrafficStep) :
    (traffic.step input).Coherent := by
  cases input with
  | call now userId websocket sequence notAPlayer duplicate =>
      exact coherent.call now userId websocket sequence notAPlayer duplicate
  | answer index message => exact coherent.answer index message
  | broadcast color message =>
      simp only [MatchTraffic.step]
      split
      · exact coherent
      · next broadcast =>
          have proper : ProperLine traffic.calls ⟨color, message, none⟩ := broadcast
          refine (Sound.more coherent proper).perm ?_
          rw [outstanding, outstanding, List.filterMap_append]
          exact .of_eq (by rw [List.filterMap_cons_none rfl, List.filterMap_nil, List.append_nil])
  | handle index => exact coherent.handle index
  | finish =>
      have gone : (traffic.step .finish).owners = none := by
        simp only [MatchTraffic.step, owners, MatchManager.pop, AList.lookup_erase]
        rfl
      rw [Coherent, gone]
      exact { coherent with owned := fun table is => absurd is (Option.some_ne_none table).symm }
  | elsewhere input =>
      simp only [MatchTraffic.step]
      split
      · next other =>
          have same := MatchManager.lookup_step_elsewhere traffic.manager other
          rw [Coherent, MatchTraffic.owners]
          simp only [same]
          exact coherent
      · exact coherent

end Coherent

/-- **Each result goes to the web socket whose call it answers**: the call was accepted with
this colour and this sequence number, and no other result answers it. -/
theorem run_results (roomId : RoomId) (manager : MatchManager) (steps : List TrafficStep) :
    (∀ routed ∈ (Trace.run step ⟨roomId, manager, [], [], [], []⟩ steps).results,
      ∃ call known, routed.call = some call ∧
        (Trace.run step ⟨roomId, manager, [], [], [], []⟩ steps).calls[call]? = some known ∧
        known.key = (routed.color, routed.sequence) ∧ known.websocket = routed.websocket) ∧
      ((Trace.run step ⟨roomId, manager, [], [], [], []⟩ steps).results.map
        RoutedResult.call).Nodup := by
  have coherent : (Trace.run step ⟨roomId, manager, [], [], [], []⟩ steps).Coherent := by
    refine Trace.run_invariant (motive := Coherent) (fun _ input coherent => coherent.step input)
      steps ⟨List.nodup_nil, ?_, List.nodup_nil, ?_, ?_, ?_⟩
    · exact fun call none => absurd none List.not_mem_nil
    · exact fun table is call none => absurd none List.not_mem_nil
    · exact fun line none => absurd none List.not_mem_nil
    · exact fun routed none => absurd none List.not_mem_nil
  exact ⟨coherent.results, (List.nodup_append.mp coherent.once).2.1⟩

/-- Both players use the number 1, and Black is answered first. -/
example :
    (Trace.run step ⟨7, MatchManager.register {} 7 MatchManager.annAgainstBob, [], [], [], []⟩
      [.call 1 1 11 1 "" "", .call 1 2 12 1 "" "", .answer 1 { sequence := 1 },
        .answer 0 { type := .moveAccepted, sequence := 1, accepted := true }, .handle 0,
        .handle 0]).results =
      [⟨12, "black", 1, some 1⟩, ⟨11, "white", 1, some 0⟩] := by decide

end MatchTraffic

end KungFuChess
