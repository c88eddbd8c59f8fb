import KungFuChess.Gateway.Matches
import KungFuChess.Library.Trace
import Mathlib.Data.List.Chain

/-!
# The stored snapshot

Every update of a game reaches the gateway twice, once on the connection of each
player, and both copies are written into the one snapshot of the match. Each
connection delivers in the order in which the server sends, but one may run ahead
of the other: a late copy then replaces a newer snapshot.

The steps are the sections of `MatchManager`, of any rooms and in any order.
-/

set_option autoImplicit false

namespace KungFuChess

/-- A section of `MatchManager` that writes the table. -/
inductive ManagerStep where
  | register (roomId : RoomId) (started : ActiveMatch)
  | pop (roomId : RoomId)
  | claimSequence (now : Int) (roomId : RoomId) (userId : UserId) (websocket : ConnectionId)
      (sequence : Int) (notAPlayer duplicate : String)
  | bridgeEvent (roomId : RoomId) (color : String) (message : Message)

/-- A snapshot and the connection it came on. -/
structure Update where
  color : String
  snapshot : GameStateSnapshot
  deriving DecidableEq, Repr

namespace ManagerStep

/-- The update that a section writes into the match of a room. -/
def update? (roomId : RoomId) : ManagerStep → Option Update
  | .bridgeEvent room color message =>
      if room = roomId ∧ message.hasSnapshot then some ⟨color, message.snapshot⟩ else none
  | _ => none

/-- A section neither starts nor ends the match of a room. -/
def Leaves (roomId : RoomId) : ManagerStep → Prop
  | .register room _ | .pop room => room ≠ roomId
  | .claimSequence .. | .bridgeEvent .. => True

instance (roomId : RoomId) : ∀ input, Decidable (Leaves roomId input)
  | .register room _ | .pop room => inferInstanceAs (Decidable (room ≠ roomId))
  | .claimSequence .. | .bridgeEvent .. => .isTrue trivial

/-- The updates of the match of a room, in the order in which they are handled. -/
def updates (roomId : RoomId) (steps : List ManagerStep) : List Update :=
  steps.filterMap (update? roomId)

end ManagerStep

/-- A snapshot may come after another: time does not run back, and a game that is over stays
over. -/
def GameStateSnapshot.Follows (first second : GameStateSnapshot) : Prop :=
  first.serverTimeMs ≤ second.serverTimeMs ∧ (first.gameOver = true → second.gameOver = true)

instance (first second : GameStateSnapshot) : Decidable (first.Follows second) :=
  inferInstanceAs (Decidable (_ ∧ (_ → _)))

namespace GameStateSnapshot

theorem Follows.refl (snapshot : GameStateSnapshot) : snapshot.Follows snapshot :=
  ⟨le_rfl, id⟩

instance : Std.Refl Follows where
  refl := .refl

instance : Trans Follows Follows Follows where
  trans first second := ⟨first.1.trans second.1, second.2 ∘ first.2⟩

end GameStateSnapshot

namespace MatchManager

open GameStateSnapshot (Follows)

def step (manager : MatchManager) : ManagerStep → MatchManager
  | .register roomId started => manager.register roomId started
  | .pop roomId => (manager.pop roomId).2
  | .claimSequence now roomId userId websocket sequence notAPlayer duplicate =>
      match manager.claimSequence now roomId userId websocket sequence notAPlayer duplicate with
      | .ok (_, claimed) => claimed
      | .error _ => manager
  | .bridgeEvent roomId color message => (manager.handleBridgeEvent roomId color message).2

variable (manager : MatchManager)

/-- The stored snapshot of the match of a room. -/
def snapshotOf (roomId : RoomId) : Option GameStateSnapshot :=
  (manager.matches_.lookup roomId).map ActiveMatch.snapshot

/-! ## One section -/

theorem snapshot_resolveSequence (found : ActiveMatch) (roomId : RoomId) (color : String)
    (message : Message) :
    (found.resolveSequence roomId color message).2.snapshot = found.snapshot := by
  rw [ActiveMatch.resolveSequence]
  split
  · split <;> rfl
  · rfl

/-- Whether it is new or not, the snapshot of a message is the one that is stored. -/
theorem snapshot_storeSnapshot (found : ActiveMatch) (roomId : RoomId) (message : Message) :
    (found.storeSnapshot roomId message).2.snapshot =
      if message.hasSnapshot then message.snapshot else found.snapshot := by
  rw [ActiveMatch.storeSnapshot]
  by_cases carries : message.hasSnapshot = true
  · by_cases same : message.snapshot = found.snapshot
    · rw [if_neg fun new => new.2 same, if_pos carries]
      exact same.symm
    · rw [if_pos ⟨carries, same⟩, if_pos carries]
  · rw [if_neg fun new => carries new.1, if_neg carries]

theorem snapshotOf_handleBridgeEvent (room roomId : RoomId) (color : String)
    (message : Message) :
    (manager.handleBridgeEvent room color message).2.snapshotOf roomId =
      if room = roomId ∧ message.hasSnapshot then
        (manager.snapshotOf roomId).map fun _ => message.snapshot
      else manager.snapshotOf roomId := by
  rw [handleBridgeEvent]
  cases stored : manager.matches_.lookup room with
  | none =>
      dsimp only
      split
      · next here =>
          rw [snapshotOf, ← here.1, stored]
          rfl
      · rfl
  | some found =>
      simp only [snapshotOf, ReverseIndex.lookup_insert]
      by_cases here : roomId = room
      · subst here
        rw [if_pos rfl, stored, Option.map_some, Option.map_some, snapshot_storeSnapshot,
          snapshot_resolveSequence]
        by_cases carries : message.hasSnapshot = true
        · rw [if_pos carries, if_pos ⟨rfl, carries⟩]
          rfl
        · rw [if_neg carries, if_neg fun new => carries new.2]
      · rw [if_neg here, if_neg fun new => here new.1.symm]

theorem snapshotOf_claimSequence {now : Int} {room : RoomId} {userId : UserId}
    {websocket : ConnectionId} {sequence : Int} {notAPlayer duplicate color : String}
    {claimed : MatchManager}
    (accepted : manager.claimSequence now room userId websocket sequence notAPlayer duplicate =
      .ok (color, claimed)) (roomId : RoomId) :
    claimed.snapshotOf roomId = manager.snapshotOf roomId := by
  obtain ⟨found, stored, -, rfl⟩ := claimSequence_ok accepted
  simp only [snapshotOf, register, ReverseIndex.lookup_insert]
  split
  · next here =>
      rw [here, stored]
      rfl
  · rfl

/-- A section that leaves a match alone changes its snapshot by an update only. -/
theorem snapshotOf_step {roomId : RoomId} {input : ManagerStep} (leaves : input.Leaves roomId) :
    (manager.step input).snapshotOf roomId =
      match input.update? roomId with
      | some update => (manager.snapshotOf roomId).map fun _ => update.snapshot
      | none => manager.snapshotOf roomId := by
  cases input with
  | register room started =>
      simp only [step, register, snapshotOf, ManagerStep.update?, ReverseIndex.lookup_insert]
      rw [if_neg (Ne.symm leaves)]
  | pop room =>
      simp only [step, pop, snapshotOf, ManagerStep.update?, ReverseIndex.lookup_erase]
      rw [if_neg (Ne.symm leaves)]
  | claimSequence now room userId websocket sequence notAPlayer duplicate =>
      simp only [step, ManagerStep.update?]
      split
      · next accepted => exact manager.snapshotOf_claimSequence accepted roomId
      · rfl
  | bridgeEvent room color message =>
      simp only [step, ManagerStep.update?, snapshotOf_handleBridgeEvent]
      split <;> rfl

/-- A message of the game server exchanges no match of the table. -/
theorem same_handleBridgeEvent (roomId : RoomId) (color : String) (message : Message)
    (other : RoomId) (found : ActiveMatch)
    (here : (manager.handleBridgeEvent roomId color message).2.matches_.lookup other =
      some found) :
    ∃ before, manager.matches_.lookup other = some before ∧
      before.start = found.start ∧ before.room = found.room := by
  rw [handleBridgeEvent] at here
  split at here
  · exact ⟨found, here, rfl, rfl⟩
  · next before stored =>
      simp only [ReverseIndex.lookup_insert] at here
      split at here
      · next same =>
          cases here
          refine ⟨before, same ▸ stored, ?_⟩
          rw [ActiveMatch.storeSnapshot, ActiveMatch.resolveSequence]
          split <;> split <;> first | exact ⟨rfl, rfl⟩ | (split <;> exact ⟨rfl, rfl⟩)
      · exact ⟨found, here, rfl, rfl⟩

/-- Neither does an action. -/
theorem same_claimSequence (now : Int) (roomId : RoomId) (userId : UserId)
    (websocket : ConnectionId) (sequence : Int) (notAPlayer duplicate : String)
    (other : RoomId) (found : ActiveMatch)
    (here : (manager.step (.claimSequence now roomId userId websocket sequence notAPlayer
      duplicate)).matches_.lookup other = some found) :
    ∃ before, manager.matches_.lookup other = some before ∧
      before.start = found.start ∧ before.room = found.room := by
  simp only [step] at here
  split at here
  · next accepted =>
      obtain ⟨before, stored, -, rfl⟩ := claimSequence_ok accepted
      rw [register, ReverseIndex.lookup_insert] at here
      split at here
      · next same =>
          cases here
          exact ⟨before, same ▸ stored, rfl, rfl⟩
      · exact ⟨found, here, rfl, rfl⟩
  · exact ⟨found, here, rfl, rfl⟩

/-! ## Runs -/

/-- No section of a run takes the stored snapshot back. -/
def NeverBack (roomId : RoomId) (steps : List ManagerStep) : Prop :=
  ∀ visit ∈ Trace.visits step manager steps, ∀ before after,
    visit.1.snapshotOf roomId = some before →
      (visit.1.step visit.2).snapshotOf roomId = some after → before.Follows after

/-- The stored snapshots are the one of the start and those of the updates. -/
theorem neverBack_iff {roomId : RoomId} (steps : List ManagerStep) :
    ∀ (manager : MatchManager) (stored : GameStateSnapshot),
      (∀ input ∈ steps, input.Leaves roomId) → manager.snapshotOf roomId = some stored →
        (manager.NeverBack roomId steps ↔
          (stored :: (ManagerStep.updates roomId steps).map Update.snapshot).IsChain Follows) := by
  induction steps with
  | nil =>
      intro manager stored leaves is
      exact iff_of_true (fun visit none => absurd none List.not_mem_nil) (.singleton _)
  | cons input rest ih =>
      intro manager stored leaves is
      have here := manager.snapshotOf_step (leaves input List.mem_cons_self)
      have later := fun other member => leaves other (List.mem_cons_of_mem _ member)
      have split : manager.NeverBack roomId (input :: rest) ↔
          (∀ after, (manager.step input).snapshotOf roomId = some after → stored.Follows after) ∧
            (manager.step input).NeverBack roomId rest := by
        constructor
        · intro never
          exact ⟨fun after next => never _ List.mem_cons_self stored after is next,
            fun visit member => never visit (List.mem_cons_of_mem _ member)⟩
        · rintro ⟨first, never⟩ visit member before after held next
          rcases List.mem_cons.mp member with rfl | member
          · exact Option.some.inj (is.symm.trans held) ▸ first after next
          · exact never visit member before after held next
      rw [split, ManagerStep.updates]
      cases changed : input.update? roomId with
      | none =>
          rw [changed] at here
          rw [List.filterMap_cons_none changed, ih _ stored later (here.trans is)]
          refine and_iff_right fun after next => ?_
          rw [Option.some.inj ((here.trans is).symm.trans next)]
          exact .refl after
      | some update =>
          simp only [changed, is, Option.map_some] at here
          rw [List.filterMap_cons_some changed, List.map_cons, List.isChain_cons_cons,
            ih _ update.snapshot later here]
          refine and_congr_left' ⟨fun first => first _ here, fun follows after next => ?_⟩
          rwa [← Option.some.inj (here.symm.trans next)]

/-- The snapshot that is stored in the end. -/
theorem snapshotOf_run {roomId : RoomId} (steps : List ManagerStep) :
    ∀ (manager : MatchManager) (stored : GameStateSnapshot),
      (∀ input ∈ steps, input.Leaves roomId) → manager.snapshotOf roomId = some stored →
        (Trace.run step manager steps).snapshotOf roomId =
          some ((stored :: (ManagerStep.updates roomId steps).map Update.snapshot).getLast
            (List.cons_ne_nil _ _)) := by
  induction steps with
  | nil => exact fun _ _ _ is => is
  | cons input rest ih =>
      intro manager stored leaves is
      have here := manager.snapshotOf_step (leaves input List.mem_cons_self)
      have later := fun other member => leaves other (List.mem_cons_of_mem _ member)
      rw [Trace.run_cons]
      simp only [ManagerStep.updates]
      cases changed : input.update? roomId with
      | none =>
          rw [changed] at here
          simp only [List.filterMap_cons_none changed]
          exact ih _ stored later (here.trans is)
      | some update =>
          simp only [changed, is, Option.map_some] at here
          simp only [List.filterMap_cons_some changed, List.map_cons]
          rw [List.getLast_cons (List.cons_ne_nil _ _)]
          exact ih _ update.snapshot later here

/-- The finish path sees the game that was over. -/
def FinishSees (roomId : RoomId) (start : Update) (steps : List ManagerStep) : Prop :=
  ∀ update ∈ start :: ManagerStep.updates roomId steps, update.snapshot.gameOver = true →
    ∀ finished, ((Trace.run step manager steps).pop roomId).1 = some finished →
      finished.snapshot.gameOver = true

/-- **The gateway goes back just when one connection overtakes the other.** The snapshots of
each connection are in order, the one the match started with (`origin` sent it) among them; the
stored one then never goes back, and the finish path sees the finished game, if and only if no
snapshot is handled after one of the other connection that it does not follow. -/
theorem run_neverBack {manager : MatchManager} {roomId : RoomId} {started : ActiveMatch}
    (active : manager.matches_.lookup roomId = some started) {steps : List ManagerStep}
    (leaves : ∀ input ∈ steps, input.Leaves roomId) (origin : String)
    (inOrder : (⟨origin, started.snapshot⟩ :: ManagerStep.updates roomId steps).Pairwise
      fun first second => first.color = second.color → first.snapshot.Follows second.snapshot) :
    (manager.NeverBack roomId steps ∧
        manager.FinishSees roomId ⟨origin, started.snapshot⟩ steps) ↔
      (⟨origin, started.snapshot⟩ :: ManagerStep.updates roomId steps).Pairwise
        fun first second => first.color ≠ second.color →
          first.snapshot.Follows second.snapshot := by
  have is : manager.snapshotOf roomId = some started.snapshot := by
    rw [snapshotOf, active]
    rfl
  have ordered : manager.NeverBack roomId steps ↔
      ((⟨origin, started.snapshot⟩ :: ManagerStep.updates roomId steps).map
        Update.snapshot).Pairwise Follows := by
    rw [neverBack_iff steps manager started.snapshot leaves is, List.isChain_iff_pairwise]
    rfl
  rw [ordered]
  constructor
  · intro both
    refine List.Pairwise.imp ?_ (List.pairwise_map.mp both.1)
    exact fun follows _ => follows
  · intro across
    have pairwise : (⟨origin, started.snapshot⟩ :: ManagerStep.updates roomId steps).Pairwise
        fun first second => first.snapshot.Follows second.snapshot := by
      refine List.pairwise_iff_forall_sublist.mpr fun {first second} sub => ?_
      by_cases same : first.color = second.color
      · exact List.pairwise_iff_forall_sublist.mp inOrder sub same
      · exact List.pairwise_iff_forall_sublist.mp across sub same
    refine ⟨List.pairwise_map.mpr pairwise, fun update member isOver finished popped => ?_⟩
    have last := snapshotOf_run steps manager started.snapshot leaves is
    have found : (Trace.run step manager steps).matches_.lookup roomId = some finished := popped
    rw [snapshotOf, found] at last
    rw [Option.some.inj last]
    exact ((List.pairwise_map.mpr pairwise).rel_getLast (List.mem_map_of_mem member)).2 isOver

/-- A match between Ann and Bob. -/
def annAgainstBob : ActiveMatch where
  room := { roomId := 7, name := "Quick Match", visibility := .visible,
            host := { userId := 1, websocket := 11 },
            white := some { userId := 1, websocket := 11 },
            black := some { userId := 2, websocket := 12 } }
  gameStartsAt := 0
  shard := ⟨"localhost", 9000⟩

/-- An update of their game comes in on the connection of a colour. -/
def updateOn (color : String) (serverTimeMs : Int) (gameOver : Bool) : ManagerStep :=
  .bridgeEvent 7 color
    { type := .gameStateUpdated, hasSnapshot := true,
      snapshot := { serverTimeMs := serverTimeMs, gameOver := gameOver } }

/-- Both connections deliver in step. -/
def inStep : List ManagerStep :=
  [updateOn "white" 100 false, updateOn "black" 100 false, updateOn "black" 200 true,
    updateOn "white" 200 true]

theorem run_neverBack_inStep :
    (NeverBack (register {} 7 annAgainstBob) 7 inStep ∧
        FinishSees (register {} 7 annAgainstBob) 7 ⟨"white", {}⟩ inStep) ↔
      (⟨"white", {}⟩ :: ManagerStep.updates 7 inStep).Pairwise
        fun first second => first.color ≠ second.color →
          first.snapshot.Follows second.snapshot :=
  have active : (register {} 7 annAgainstBob).matches_.lookup 7 = some annAgainstBob := rfl
  run_neverBack active (by decide) "white" (by decide)

/-- The copies on the black connection come late. -/
def overtaken : List ManagerStep :=
  [updateOn "white" 100 false, updateOn "white" 200 true, updateOn "black" 100 false]

/-- Each connection is in order, but the snapshot goes back and the finish path sees a game
that is not over. -/
theorem overtaken_back :
    (⟨"white", {}⟩ :: ManagerStep.updates 7 overtaken).Pairwise
        (fun first second => first.color = second.color →
          first.snapshot.Follows second.snapshot) ∧
      ¬ NeverBack (register {} 7 annAgainstBob) 7 overtaken ∧
      ¬ FinishSees (register {} 7 annAgainstBob) 7 ⟨"white", {}⟩ overtaken := by
  refine ⟨by decide, fun never => ?_, fun sees => ?_⟩
  · have last : (Trace.run step (register {} 7 annAgainstBob) (overtaken.take 2),
        updateOn "black" 100 false) ∈
        Trace.visits step (register {} 7 annAgainstBob) overtaken := by
      exact .tail _ (.tail _ (.head _))
    have back := never _ last _ _ rfl rfl
    exact absurd back.1 (by decide)
  · have seen := sees ⟨"white", { serverTimeMs := 200, gameOver := true }⟩ (by decide) rfl _ rfl
    exact absurd seen (by decide)

end MatchManager

end KungFuChess
