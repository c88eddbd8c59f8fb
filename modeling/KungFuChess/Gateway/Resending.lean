import KungFuChess.Gateway.Results

/-!
# Numbers that are sent again

A sequence number is refused while it is in the table of pending actions, from which the
answer of the game server takes it. A client that sends the same action again after that,
because the answer never reached it, has the action executed a second time.

An action counts as forwarded when it is handed to the bridge.
-/

set_option autoImplicit false

namespace KungFuChess

/-- A step of the traffic, or a change of the room that a match was started in. -/
inductive MatchStep where
  | traffic (input : TrafficStep)
  | roomChanged (room : GameRoom)

namespace MatchTraffic

def changeRoom (traffic : MatchTraffic) (room : GameRoom) : MatchTraffic :=
  match traffic.manager.matches_.lookup traffic.roomId with
  | none => traffic
  | some found =>
      { traffic with
        manager := traffic.manager.register traffic.roomId { found with room := room } }

def advance (traffic : MatchTraffic) : MatchStep → MatchTraffic
  | .traffic input => traffic.step input
  | .roomChanged room => traffic.changeRoom room

/-- The colours and numbers of the actions that were forwarded. -/
def forwarded (traffic : MatchTraffic) : List (String × Int) :=
  traffic.calls.map AcceptedCall.key

/-- The answer to an action with this colour and number has been handled. -/
def Answered (traffic : MatchTraffic) (key : String × Int) : Prop :=
  ∃ call known, traffic.calls[call]? = some known ∧ known.key = key ∧ call ∉ traffic.outstanding

/-- A player of the running match sends a number again whose answer has been handled. -/
def Resends (traffic : MatchTraffic) : MatchStep → Prop
  | .traffic (.call now userId _ sequence _ _) =>
      ∃ found color, traffic.manager.matches_.lookup traffic.roomId = some found ∧
        found.gameStartsAt ≤ now ∧ found.room.colorOf userId = some color ∧
        traffic.Answered (color, sequence)
  | _ => False

/-- A key of the table that was forwarded belongs to an action that is still on its way. -/
def Claimed (traffic : MatchTraffic) : Prop :=
  ∀ table, traffic.owners = some table → ∀ key ∈ traffic.forwarded, key ∈ table →
    ∃ (call : CallId) (known : AcceptedCall), traffic.calls[call]? = some known ∧
      known.key = key ∧ call ∈ traffic.outstanding

/-- **What a step does to the numbers**: nothing, or the match is gone, or an action is
forwarded under a free key, or an answer frees the key of its action. -/
inductive Effect (before : MatchTraffic) (input : MatchStep) (after : MatchTraffic) : Prop where
  | idle (calls : after.calls = before.calls)
      (outstanding : ∀ call ∈ before.outstanding, call ∈ after.outstanding)
      (owners : after.owners = before.owners)
  | gone (calls : after.calls = before.calls) (owners : after.owners = none)
  | accepts (now : Int) (userId : UserId) (notAPlayer duplicate : String) (new : AcceptedCall)
      (table : AList fun _ : String × Int => ConnectionId)
      (asked : input = .traffic (.call now userId new.websocket new.sequence notAPlayer duplicate))
      (claimable : before.manager.Claimable now before.roomId userId new.sequence new.color)
      (active : before.owners = some table) (free : new.key ∉ table)
      (calls : after.calls = before.calls ++ [new])
      (outstanding : after.outstanding.Perm (before.calls.length :: before.outstanding))
      (owners : after.owners = some (table.insert new.key new.websocket))
  | settles (call : CallId) (known : AcceptedCall)
      (table : AList fun _ : String × Int => ConnectionId) (active : before.owners = some table)
      (is : before.calls[call]? = some known) (calls : after.calls = before.calls)
      (outstanding : before.outstanding.Perm (call :: after.outstanding))
      (owners : after.owners = some (table.erase known.key))

section Steps

variable {traffic : MatchTraffic}

theorem mem_forwarded {key : String × Int} :
    key ∈ traffic.forwarded ↔ ∃ (call : CallId) (known : AcceptedCall),
      traffic.calls[call]? = some known ∧ known.key = key := by
  rw [forwarded, List.mem_map]
  constructor
  · rintro ⟨known, member, same⟩
    obtain ⟨call, is⟩ := List.mem_iff_getElem?.mp member
    exact ⟨call, known, is, same⟩
  · rintro ⟨call, known, is, same⟩
    exact ⟨known, List.mem_of_getElem? is, same⟩

theorem owners_eq {found : ActiveMatch}
    (stored : traffic.manager.matches_.lookup traffic.roomId = some found) :
    traffic.owners = some found.sequenceOwners := by
  rw [owners, stored]
  rfl

/-! ## What one step does -/

theorem effect_call (now : Int) (userId : UserId) (websocket : ConnectionId) (sequence : Int)
    (notAPlayer duplicate : String) :
    Effect traffic (.traffic (.call now userId websocket sequence notAPlayer duplicate))
      (traffic.step (.call now userId websocket sequence notAPlayer duplicate)) := by
  simp only [step]
  split
  · exact .idle rfl (fun _ => id) rfl
  · next color claimed accepted =>
      have claimable := MatchManager.claimSequence_ok_iff.mp ⟨claimed, accepted⟩
      obtain ⟨found, stored, free, rfl⟩ := MatchManager.claimSequence_ok accepted
      refine .accepts now userId notAPlayer duplicate ⟨color, sequence, websocket⟩
        found.sequenceOwners rfl claimable (owners_eq stored) free rfl ?_ ?_
      · rw [outstanding, outstanding, List.append_assoc]
        exact List.perm_middle
      · rw [owners]
        simp only [MatchManager.register, AList.lookup_insert]
        rfl

theorem effect_handle (coherent : traffic.Coherent) (index : Nat) :
    Effect traffic (.traffic (.handle index)) (traffic.step (.handle index)) := by
  simp only [step]
  split
  · exact .idle rfl (fun _ => id) rfl
  · next line here =>
      have proper := coherent.lines line (List.mem_of_getElem? here)
      have split := Coherent.lines_perm here
      cases stored : traffic.manager.matches_.lookup traffic.roomId with
      | none =>
          rw [MatchManager.handleBridgeEvent_absent stored]
          exact .gone rfl (by rw [owners, stored]; rfl)
      | some found =>
          rw [ProperLine] at proper
          cases answers : line.answers with
          | none =>
              rw [answers] at proper split
              obtain ⟨-, after, next, same⟩ :=
                MatchManager.handleBridgeEvent_broadcast stored proper
              refine .idle rfl (fun call member => split.mem_iff.mp member) ?_
              rw [owners_eq stored, owners]
              simp only [next, Option.map_some, same]
          | some call =>
              rw [answers] at proper split
              obtain ⟨result, known, is, key⟩ := proper
              have member : call ∈ traffic.outstanding := split.mem_iff.mpr List.mem_cons_self
              have owned := coherent.owned _ (owners_eq stored) call member known is
              rw [key] at owned
              obtain ⟨-, after, next, same⟩ :=
                MatchManager.handleBridgeEvent_answer stored result owned
              refine .settles call known found.sequenceOwners (owners_eq stored) is rfl split ?_
              rw [owners]
              simp only [next, Option.map_some, same, key]

theorem effect_answer (index : Nat) (message : Message) :
    Effect traffic (.traffic (.answer index message)) (traffic.step (.answer index message)) := by
  simp only [step]
  split
  · exact .idle rfl (fun _ => id) rfl
  · next call here =>
      split
      · exact .idle rfl (fun _ => id) rfl
      · split
        · refine .idle rfl (fun other member => ?_) rfl
          obtain ⟨inside, is⟩ := List.getElem?_eq_some_iff.mp here
          have split : traffic.pending.Perm (call :: traffic.pending.eraseIdx index) := by
            rw [← is]
            exact (List.getElem_cons_eraseIdx_perm inside).symm
          rw [outstanding, List.mem_append, split.mem_iff, List.mem_cons] at member
          rw [outstanding, List.filterMap_append, List.mem_append, List.mem_append]
          rcases member with (rfl | member) | member
          · exact .inr (.inr (List.mem_singleton_self _))
          · exact .inl member
          · exact .inr (.inl member)
        · exact .idle rfl (fun _ => id) rfl

theorem effect_advance (coherent : traffic.Coherent) (input : MatchStep) :
    Effect traffic input (traffic.advance input) := by
  cases input with
  | roomChanged room =>
      simp only [advance, changeRoom]
      split
      · exact .idle rfl (fun _ => id) rfl
      · next found stored =>
          refine .idle rfl (fun _ => id) ?_
          rw [owners_eq stored, owners]
          simp only [MatchManager.register, AList.lookup_insert]
          rfl
  | traffic input =>
      rw [advance]
      cases input with
      | call now userId websocket sequence notAPlayer duplicate => exact effect_call ..
      | answer index message => exact effect_answer ..
      | broadcast color message =>
          simp only [step]
          split
          · exact .idle rfl (fun _ => id) rfl
          · refine .idle rfl (fun other member => ?_) rfl
            rw [outstanding] at member ⊢
            rw [List.filterMap_append, ← List.append_assoc]
            exact List.mem_append_left _ member
      | handle index => exact effect_handle coherent index
      | finish =>
          refine .gone rfl ?_
          simp only [step, owners, MatchManager.pop, AList.lookup_erase]
          rfl
      | elsewhere input =>
          simp only [step]
          split
          · next other =>
              refine .idle rfl (fun _ => id) ?_
              simp only [owners, MatchManager.lookup_step_elsewhere traffic.manager other]
          · exact .idle rfl (fun _ => id) rfl

end Steps

/-- Two actions with one key were forwarded at one place. -/
theorem call_eq {traffic : MatchTraffic} (distinct : traffic.forwarded.Nodup)
    {first second : CallId} {left right : AcceptedCall}
    (isLeft : traffic.calls[first]? = some left) (isRight : traffic.calls[second]? = some right)
    (same : left.key = right.key) : first = second := by
  have keys : traffic.forwarded[first]? = traffic.forwarded[second]? := by
    rw [forwarded, List.getElem?_map, List.getElem?_map, isLeft, isRight, Option.map_some,
      Option.map_some, same]
  have inside : first < traffic.forwarded.length := by
    rw [forwarded, List.length_map]
    exact (List.getElem?_eq_some_iff.mp isLeft).1
  exact (List.getElem?_inj inside distinct).mp keys

/-! ## What a run keeps -/

theorem Coherent.advance {traffic : MatchTraffic} (coherent : traffic.Coherent)
    (input : MatchStep) : (traffic.advance input).Coherent := by
  cases input with
  | traffic input => exact coherent.step input
  | roomChanged room =>
      simp only [MatchTraffic.advance, changeRoom]
      split
      · exact coherent
      · next found stored =>
          rw [Coherent, owners_eq stored] at coherent
          rw [Coherent, owners]
          simp only [MatchManager.register, AList.lookup_insert]
          exact coherent

theorem Claimed.effect {before after : MatchTraffic} {input : MatchStep}
    (claimed : before.Claimed) (effect : Effect before input after) : after.Claimed := by
  cases effect with
  | idle calls outstanding owners =>
      rw [Claimed, owners, forwarded, calls]
      intro table active key member inside
      obtain ⟨call, known, is, same, onItsWay⟩ := claimed table active key member inside
      exact ⟨call, known, is, same, outstanding call onItsWay⟩
  | gone calls owners =>
      intro table active
      rw [owners] at active
      cases active
  | accepts _ _ _ _ new table _ _ active free calls outstanding owners =>
      rintro _ here key member inside
      rw [owners, Option.some.injEq] at here
      subst here
      rw [forwarded, calls, List.map_append, List.mem_append] at member
      by_cases newest : key = new.key
      · refine ⟨before.calls.length, new, ?_, newest.symm, outstanding.mem_iff.mpr
          List.mem_cons_self⟩
        rw [calls]
        exact List.getElem?_concat_length
      · have older : key ∈ before.forwarded :=
          member.resolve_right fun last => newest (List.mem_singleton.mp last)
        obtain ⟨call, known, is, same, onItsWay⟩ := claimed table active key older
          ((AList.mem_insert _).mp inside |>.resolve_left newest)
        refine ⟨call, known, ?_, same, outstanding.mem_iff.mpr (List.mem_cons_of_mem _ onItsWay)⟩
        rw [calls]
        exact call_append is _
  | settles call known table active is calls outstanding owners =>
      rintro _ here key member inside
      rw [owners, Option.some.injEq] at here
      subst here
      obtain ⟨distinct, inside⟩ := AList.mem_erase.mp inside
      rw [forwarded, calls] at member
      obtain ⟨other, its, isOther, same, onItsWay⟩ := claimed table active key member inside
      refine ⟨other, its, by rwa [calls], same, ?_⟩
      refine (List.mem_cons.mp (outstanding.mem_iff.mp onItsWay)).resolve_left fun settled => ?_
      rw [settled, is, Option.some.injEq] at isOther
      rw [← isOther] at same
      exact distinct same.symm

/-- No forwarded action is forgotten. -/
theorem Effect.calls_extend {before after : MatchTraffic} {input : MatchStep}
    (effect : Effect before input after) : before.calls <+: after.calls := by
  cases effect with
  | idle calls _ _ | gone calls _ | settles _ _ _ _ _ calls _ _ =>
      rw [calls]
  | accepts _ _ _ _ new _ _ _ _ _ calls _ _ =>
      rw [calls]
      exact List.prefix_append _ _

theorem forwarded_extend {before after : MatchTraffic} (extend : before.calls <+: after.calls)
    (distinct : after.forwarded.Nodup) : before.forwarded.Nodup :=
  distinct.sublist (extend.sublist.map _)

/-- An action whose number is not sent again is forwarded under a new key. -/
theorem Effect.nodup {before after : MatchTraffic} {input : MatchStep}
    (effect : Effect before input after) (coherent : before.Coherent)
    (fresh : ¬ before.Resends input) (distinct : before.forwarded.Nodup) :
    after.forwarded.Nodup := by
  cases effect with
  | idle calls _ _ | gone calls _ | settles _ _ _ _ _ calls _ _ =>
      rwa [forwarded, calls]
  | accepts now userId notAPlayer duplicate new table asked claimable active free calls _ _ =>
      rw [forwarded, calls, List.map_append]
      refine distinct.append (List.nodup_singleton _) fun key member last => ?_
      obtain ⟨call, known, is, same⟩ := mem_forwarded.mp member
      have isNew : key = new.key := List.mem_singleton.mp last
      by_cases onItsWay : call ∈ before.outstanding
      · have owned := coherent.owned table active call onItsWay known is
        rw [same, isNew, AList.lookup_eq_none.mpr free] at owned
        cases owned
      · obtain ⟨found, stored, begun, plays, -⟩ := claimable
        rw [asked] at fresh
        exact fresh ⟨found, new.color, stored, begun, plays, call, known, is, same.trans isNew,
          onItsWay⟩

/-- A number that is sent again belongs to two forwarded actions afterwards. -/
theorem Resends.not_nodup {before : MatchTraffic} {input : MatchStep}
    (resends : before.Resends input) (coherent : before.Coherent) (claimed : before.Claimed) :
    ¬ (before.advance input).forwarded.Nodup := by
  intro distinct
  cases input with
  | roomChanged room => exact resends
  | traffic input =>
      cases input with
      | answer _ _ | broadcast _ _ | handle _ | finish | elsewhere _ => exact resends
      | call now userId websocket sequence notAPlayer duplicate =>
          obtain ⟨found, color, stored, begun, plays, call, known, is, key, handled⟩ := resends
          by_cases taken : (color, sequence) ∈ found.sequenceOwners
          · have older := forwarded_extend (effect_advance coherent _).calls_extend distinct
            obtain ⟨other, its, isOther, same, onItsWay⟩ := claimed _ (owners_eq stored)
              (color, sequence) (mem_forwarded.mpr ⟨call, known, is, key⟩) taken
            rw [← call_eq older is isOther (key.trans same.symm)] at onItsWay
            exact handled onItsWay
          · have claimable : before.manager.Claimable now before.roomId userId sequence color :=
              ⟨found, stored, begun, plays, taken⟩
            obtain ⟨claimed, accepted⟩ : ∃ claimed, before.manager.claimSequence now before.roomId
                userId websocket sequence notAPlayer duplicate = .ok (color, claimed) :=
              MatchManager.claimSequence_ok_iff.mpr claimable
            have calls : (before.step (.call now userId websocket sequence notAPlayer
                duplicate)).calls = before.calls ++ [⟨color, sequence, websocket⟩] := by
              simp only [step, accepted]
            rw [advance, forwarded, calls, List.map_append] at distinct
            exact (List.nodup_append.mp distinct).2.2 (color, sequence)
              (mem_forwarded.mpr ⟨call, known, is, key⟩) _ (List.mem_singleton_self _) rfl

/-! ## Runs -/

/-- The match has just begun. -/
def opened (roomId : RoomId) (manager : MatchManager) : MatchTraffic :=
  ⟨roomId, manager, [], [], [], []⟩

theorem opened_sound (roomId : RoomId) (manager : MatchManager) :
    (opened roomId manager).Coherent ∧ (opened roomId manager).Claimed := by
  refine ⟨⟨List.nodup_nil, ?_, List.nodup_nil, ?_, ?_, ?_⟩, fun _ _ key none => ?_⟩
  · exact fun call none => absurd none List.not_mem_nil
  · exact fun table is call none => absurd none List.not_mem_nil
  · exact fun line none => absurd none List.not_mem_nil
  · exact fun routed none => absurd none List.not_mem_nil
  · exact absurd none List.not_mem_nil

theorem run_sound {traffic : MatchTraffic} (sound : traffic.Coherent ∧ traffic.Claimed)
    (steps : List MatchStep) :
    (Trace.run advance traffic steps).Coherent ∧ (Trace.run advance traffic steps).Claimed :=
  Trace.run_invariant (motive := fun traffic : MatchTraffic => traffic.Coherent ∧ traffic.Claimed)
    (fun _ input sound => ⟨sound.1.advance input, sound.2.effect (effect_advance sound.1 input)⟩)
    steps sound

theorem run_extend {traffic : MatchTraffic} (coherent : traffic.Coherent)
    (steps : List MatchStep) : traffic.calls <+: (Trace.run advance traffic steps).calls :=
  (Trace.run_invariant
    (motive := fun later : MatchTraffic => later.Coherent ∧ traffic.calls <+: later.calls)
    (fun _ input holds => ⟨holds.1.advance input,
      holds.2.trans (effect_advance holds.1 input).calls_extend⟩)
    steps ⟨coherent, List.prefix_rfl⟩).2

/-- **When no action is forwarded twice**: no two actions of a match have one colour and one
number just if no player sends a number again whose answer has been handled. -/
theorem run_unrepeated_iff (roomId : RoomId) (manager : MatchManager) (steps : List MatchStep) :
    (Trace.run advance (opened roomId manager) steps).forwarded.Nodup ↔
      ∀ visit ∈ Trace.visits advance (opened roomId manager) steps, ¬ visit.1.Resends visit.2 := by
  have start := opened_sound roomId manager
  constructor
  · intro distinct visit member resends
    obtain ⟨before, after, rfl, same⟩ := Trace.visits_split member
    have sound := run_sound start before
    rw [← same] at sound
    rw [Trace.run_append, Trace.run_cons, ← same] at distinct
    have extend := run_extend (sound.1.advance visit.2) after
    exact resends.not_nodup sound.1 sound.2 (forwarded_extend extend distinct)
  · intro fresh
    exact (Trace.run_rule
      (motive := fun traffic : MatchTraffic => traffic.Coherent ∧ traffic.forwarded.Nodup)
      (fun traffic input => ¬ traffic.Resends input)
      (fun _ input fresh holds => ⟨holds.1.advance input,
        (effect_advance holds.1 input).nodup holds.1 fresh holds.2⟩)
      steps _ fresh ⟨start.1, List.nodup_nil⟩).2

/-- White plays with the number 1, and the answer is handled, but the web socket of White is
gone by then; White sends the action again. -/
def lostAnswer : List MatchStep :=
  [.traffic (.call 1 1 11 1 "" ""), .traffic (.answer 0 { type := .moveAccepted, sequence := 1 }),
    .traffic (.handle 0), .traffic (.call 2 1 21 1 "" "")]

theorem lostAnswer_forwardedTwice :
    (Trace.run advance (opened 7 (MatchManager.register {} 7 MatchManager.annAgainstBob))
        lostAnswer).forwarded = [("white", 1), ("white", 1)] ∧
      ¬ (Trace.run advance (opened 7 (MatchManager.register {} 7 MatchManager.annAgainstBob))
        lostAnswer).forwarded.Nodup := by
  decide

end MatchTraffic

end KungFuChess
