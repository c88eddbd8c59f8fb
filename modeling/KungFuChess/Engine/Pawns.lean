import KungFuChess.Engine.Histories

/-!
# Pawns

A request for a pawn is judged by what the grid shows when it is made: a pawn steps
straight onto empty cells and diagonally onto an opponent. A step that is due later
is not judged again: like every piece a pawn captures the opponent it then meets, and
goes on to a cell that it finds clear. So the entries of the pawns are right exactly
in the runs in which no step of a pawn finds the opposite of what its request found.
-/

set_option autoImplicit false

namespace KungFuChess

/-! ## The motions of pawns -/

/-- What a pawn may be asked for: a straight move or one diagonal step. -/
theorem PieceRules.canMoveLikePawn_shape {board : Board} {pieces : Heap}
    {source destination : Position} {color : PieceColor}
    (legal : canMoveLikePawn board pieces source destination color = true) :
    destination.col = source.col ∨
      ((destination.row - source.row).natAbs = 1 ∧ (destination.col - source.col).natAbs = 1) := by
  have unit : (if color = .white then (-1 : Int) else 1).natAbs = 1 := by split <;> rfl
  simp only [canMoveLikePawn] at legal
  generalize (if color = .white then (-1 : Int) else 1) = direction at unit legal
  generalize (if color = .white then board.height - 2 else 1) = startRow at legal
  split at legal
  · cases legal
  · split at legal
    · next single => exact .inl (by omega)
    · split at legal
      · next double => exact .inl (by omega)
      · split at legal
        · next diagonal => exact .inr ⟨diagonal.1 ▸ unit, diagonal.2⟩
        · cases legal

namespace Motion

/-- The motion of a pawn: it stays in its column, or it is a diagonal step that has not been
taken yet. -/
inductive Pawnlike (motion : Motion) : Prop
  | straight (column : motion.destination.col = motion.source.col)
      (here : motion.currentCell.col = motion.source.col) (onward : motion.colStep = 0)
      (stepwise : motion.directMove = false) : Pawnlike motion
  | diagonal (start : motion.currentCell = motion.source)
      (reaches : motion.nextCell = motion.destination)
      (aside : motion.destination.col ≠ motion.source.col) : Pawnlike motion

/-- A pawn is in the column it started from until its motion ends. -/
theorem Pawnlike.column {motion : Motion} (pawnlike : motion.Pawnlike) :
    motion.currentCell.col = motion.source.col := by
  cases pawnlike with
  | straight column here onward stepwise => exact here
  | diagonal start reaches aside => rw [start]

/-- A pawn that does not reach its destination goes straight. -/
theorem Pawnlike.onward {motion : Motion} (pawnlike : motion.Pawnlike)
    (short : motion.nextCell ≠ motion.destination) :
    motion.nextCell.col = motion.source.col ∧ (motion.moveOn motion.nextCell).Pawnlike := by
  cases pawnlike with
  | straight column here onward stepwise =>
      have next : motion.nextCell.col = motion.source.col := by
        rw [nextCell, if_neg (by rw [stepwise]; decide), onward, here]
        exact Int.add_zero _
      exact ⟨next, .straight column next onward stepwise⟩
  | diagonal start reaches aside => exact absurd reaches short

end Motion

/-- A unit step towards the neighbouring coordinate reaches it. -/
theorem RealTimeArbiter.add_signValue {first last : Int} (near : (last - first).natAbs = 1) :
    first + signValue (last - first) = last := by
  unfold signValue
  split
  · omega
  · split <;> omega

/-- **The motion that starts for a pawn.** -/
theorem RealTimeArbiter.newMotion_pawnlike (arbiter : RealTimeArbiter) (piece : PieceId)
    {source destination : Position} (stepDurationMs : Int)
    (shape : destination.col = source.col ∨
      ((destination.row - source.row).natAbs = 1 ∧ (destination.col - source.col).natAbs = 1)) :
    (arbiter.newMotion piece .pawn source destination stepDurationMs false).Pawnlike := by
  rcases shape with straight | ⟨row, col⟩
  · refine .straight straight rfl ?_ rfl
    simp only [newMotion, straight, Int.sub_self]
    rfl
  · refine .diagonal rfl ?_ fun straight => ?_
    · simp only [Motion.nextCell, newMotion, reduceCtorEq, decide_false, Bool.or_false,
        Bool.false_eq_true, if_false, add_signValue row, add_signValue col]
    · have straight : destination.col = source.col := straight
      omega

namespace Table

/-- The motions of pawns are those of pawns, and no castle holds one. -/
structure PawnsInLine (table : Table) : Prop where
  pawns : ∀ motion ∈ table.motions, table.kindOf motion.piece = .pawn → motion.Pawnlike
  castlers : ∀ castle ∈ table.castles, ∀ part ∈ castle.parts, table.kindOf part.1 ≠ .pawn

variable {table : Table} {event : StepEvent} {verdict : StepVerdict}

/-- A motion after a step event is a motion before it, or the one that moves on. -/
theorem Judged.motion_cases (judged : table.Judged event verdict) (coherent : table.Coherent)
    {motion : Motion} (member : motion ∈ (table.apply event verdict).motions) :
    motion ∈ table.motions ∨ ∃ before, table.Stepping event before ∧
      ¬ event.reachedDestination ∧ motion = before.moveOn event.toCell := by
  cases judged with
  | ignored resting => exact .inl member
  | castled moving pending part =>
      exact .inl ((finishCastle_retires coherent pending _).sublist.subset member)
  | @slid before stepping inside clear onward =>
      obtain ⟨other, present, rfl⟩ := coherent.mem_slide.mp member
      by_cases own : other.piece = event.piece
      · rw [if_pos own]
        have same := coherent.motion_unique present stepping.member
          (own.trans stepping.piece)
        exact .inr ⟨before, stepping, onward, by rw [same]⟩
      · rw [if_neg own]
        exact .inl present
  | arrived stepping inside clear reached => exact .inl (List.mem_of_mem_filter member)
  | halted stepping blocked => exact .inl (List.mem_of_mem_filter member)
  | lost stepping inside other met enemy airborne => exact .inl (List.mem_of_mem_filter member)
  | captured stepping inside other met enemy grounded =>
      exact .inl (List.mem_of_mem_filter (List.mem_of_mem_filter member))

/-- No step event adds a castle. -/
theorem Judged.castle_stood (judged : table.Judged event verdict) {castle : PendingCastle}
    (pending : castle ∈ (table.apply event verdict).castles) : castle ∈ table.castles := by
  cases judged with
  | castled moving stood part => exact List.mem_of_mem_erase pending
  | _ => exact pending

/-- **A step event keeps the pawns in line.** -/
theorem PawnsInLine.apply (inLine : table.PawnsInLine) (judged : table.Judged event verdict)
    (coherent : table.Coherent) : (table.apply event verdict).PawnsInLine where
  pawns := fun motion member pawn => by
    have wasPawn := table.pawn_of_apply _ pawn
    rcases judged.motion_cases coherent member with before | ⟨before, stepping, onward, rfl⟩
    · exact inLine.pawns motion before wasPawn
    · have pawnlike := inLine.pawns before stepping.member wasPawn
      rw [stepping.step] at onward ⊢
      exact (pawnlike.onward fun reached => onward (decide_eq_true reached)).2
  castlers := fun castle pending part isPart pawn =>
    inLine.castlers castle (judged.castle_stood pending) part isPart (table.pawn_of_apply _ pawn)

/-- Operations that start and end no motion and change no kind. -/
theorem PawnsInLine.keep (inLine : table.PawnsInLine) {next : Table}
    (motions : next.motions = table.motions) (castles : next.castles = table.castles)
    (kinds : ∀ piece, next.kindOf piece = table.kindOf piece) : next.PawnsInLine where
  pawns := fun motion member pawn =>
    inLine.pawns motion (motions ▸ member) ((kinds _).symm.trans pawn)
  castlers := fun castle pending part isPart pawn =>
    inLine.castlers castle (castles ▸ pending) part isPart ((kinds _).symm.trans pawn)

theorem PawnsInLine.mark (inLine : table.PawnsInLine) (piece : PieceId) :
    (table.mark piece).PawnsInLine :=
  inLine.keep rfl rfl fun _ => kindOf_mark ..

/-- A motion starts. -/
theorem PawnsInLine.depart (inLine : table.PawnsInLine) {motion : Motion}
    (starts : table.kindOf motion.piece = .pawn → motion.Pawnlike) :
    (table.depart motion).PawnsInLine where
  pawns := fun other member pawn => by
    have pawn := (kindOf_depart ..).symm.trans pawn
    rcases List.mem_append.mp member with before | own
    · exact inLine.pawns other before pawn
    · rw [List.mem_singleton.mp own] at pawn ⊢
      exact starts pawn
  castlers := fun castle pending part isPart pawn =>
    inLine.castlers castle pending part isPart ((kindOf_depart ..).symm.trans pawn)

/-- A castle is begun. -/
theorem PawnsInLine.pend (inLine : table.PawnsInLine) {castle : PendingCastle}
    (unpawned : ∀ part ∈ castle.parts, table.kindOf part.1 ≠ .pawn) :
    (table.pend castle).PawnsInLine where
  pawns := inLine.pawns
  castlers := fun other pending part isPart => by
    rcases List.mem_append.mp pending with before | own
    · exact inLine.castlers other before part isPart
    · rw [List.mem_singleton.mp own] at isPart
      exact unpawned part isPart

end Table

/-! ## What the steps of pawns enter -/

/-- A move of a pawn is a capture exactly when it changes the column. -/
def MoveHistoryEntry.Honest (entry : MoveHistoryEntry) : Prop :=
  entry.pieceKind = .pawn →
    (entry.wasCapture = true ↔ entry.destination.col ≠ entry.source.col)

instance : DecidablePred MoveHistoryEntry.Honest := fun _ => inferInstanceAs (Decidable (_ → _))

namespace Moment

/-- The next event is the step of a pawn that finds the opposite of what it was asked for: a
straight step that meets an opponent on the ground, or a diagonal step that meets nobody. -/
def SurprisesPawn : Moment → Prop
  | ⟨engine, event :: _, _⟩ =>
      engine.stateOf event.piece = .moving ∧ engine.kindOf event.piece = .pawn ∧
        engine.board.isInside event.toCell ∧
          match engine.findPieceAtRealOrVirtualCell event.toCell event.piece with
          | some target => event.toCell.col = event.source.col ∧
              engine.colorOf target ≠ engine.colorOf event.piece ∧
              engine.stateOf target ≠ .airborne
          | none => event.toCell.col ≠ event.source.col
  | ⟨_, [], _⟩ => False

/-- **The entry of a moment is honest unless the moment surprises a pawn.** -/
theorem entry_honest_iff {moment : Moment} (running : moment.Running)
    (inLine : moment.table.PawnsInLine) :
    (∀ entry ∈ moment.entry, entry.Honest) ↔ ¬ moment.SurprisesPawn := by
  obtain ⟨engine, steps, landings⟩ := moment
  cases steps with
  | nil =>
      refine iff_of_true ?_ id
      cases landings with
      | nil => exact fun _ absent => by cases absent
      | cons event landings =>
          intro entry entered
          simp only [Moment.entry] at entered
          split at entered
          · cases entered
            exact fun _ => ⟨Bool.noConfusion, fun aside => absurd rfl aside⟩
          · cases entered
  | cons event steps =>
      have timely := running.timely event (List.mem_cons_self ..)
      simp only [Moment.entry, SurprisesPawn, GameEngine.verdict]
      by_cases moving : engine.stateOf event.piece = .moving
      · rw [if_neg (not_not.mpr moving)]
        cases found : engine.castleOf event with
        | some castle =>
            obtain ⟨pending, isPart⟩ := GameEngine.castleOf_eq_some found
            obtain ⟨part, member, own⟩ := List.mem_map.mp isPart
            have unpawned : engine.kindOf event.piece ≠ .pawn :=
              own ▸ inLine.castlers castle pending part member
            refine iff_of_true ?_ fun surprised => unpawned surprised.2.1
            intro entry entered
            cases entered
            exact PieceKind.noConfusion
        | none =>
            obtain ⟨motion, member, step, first⟩ :=
              GameEngine.find_motion running.coherent timely moving
            have source : event.source = motion.source := by rw [step]; rfl
            have column : engine.kindOf event.piece = .pawn →
                event.fromCell.col = motion.source.col := fun pawn => by
              rw [step] at pawn ⊢
              exact (inLine.pawns motion member pawn).column
            -- a step that does not happen leaves the pawn in its column
            have halted : ∀ entry ∈ engine.stepEntry event (.stopped motion.source event.fromCell),
                entry.Honest := fun entry entered pawn => by
              cases entered
              exact iff_of_false Bool.false_ne_true fun aside => aside (column pawn)
            simp only [first, source]
            split
            · next outside =>
                exact iff_of_true halted fun surprised => outside surprised.2.2.1
            · next within =>
                have inside := not_not.mp within
                cases engine.findPieceAtRealOrVirtualCell event.toCell event.piece with
                | none =>
                    simp only
                    split
                    · constructor
                      · rintro honest ⟨_, pawn, _, aside⟩
                        exact Bool.false_ne_true ((honest _ rfl pawn).mpr aside)
                      · intro calm entry entered pawn
                        cases entered
                        exact iff_of_false Bool.false_ne_true fun aside =>
                          calm ⟨moving, pawn, inside, aside⟩
                    · next short =>
                        refine iff_of_true (fun _ absent => by cases absent) ?_
                        rintro ⟨_, pawn, _, aside⟩
                        rw [step] at pawn short aside
                        have pawnlike := inLine.pawns motion member pawn
                        exact aside (pawnlike.onward fun reached =>
                          short (decide_eq_true reached)).1
                | some target =>
                    simp only
                    split
                    · next friend => exact iff_of_true halted fun surprised =>
                        surprised.2.2.2.2.1 friend
                    · next enemy =>
                        split
                        · next airborne =>
                            exact iff_of_true (fun _ absent => by cases absent)
                              fun surprised => surprised.2.2.2.2.2 airborne
                        · next grounded =>
                            constructor
                            · rintro honest ⟨_, pawn, _, straight, _⟩
                              exact (honest _ rfl pawn).mp rfl straight
                            · intro calm entry entered pawn
                              cases entered
                              exact iff_of_true rfl fun straight =>
                                calm ⟨moving, pawn, inside, straight, enemy, grounded⟩
      · rw [if_pos moving]
        exact iff_of_true (fun _ absent => by cases absent) fun surprised => moving surprised.1

end Moment

/-! ## Runs -/

namespace GameEngine

variable {load : PieceConfigReader}

/-- Requests and advances of the clock keep the pawns in line. -/
theorem silent_inLine {admitted : GameEngine → Call → Prop} {first next : Moment}
    (silent : Moment.Silent load admitted first next) (running : first.Running)
    (inLine : first.table.PawnsInLine) : next.Running ∧ next.table.PawnsInLine := by
  refine silent_rule load (motive := fun moment => moment.table.PawnsInLine) ?_ ?_ ?_ ?_ silent
    running inLine
  · intro engine piece source destination _ checked before
    have started := view_startMove load engine piece source destination
    change ((engine.startMove load piece source destination).view []).PawnsInLine
    rw [started]
    refine (before.mark piece).depart fun pawn => ?_
    have pawn : engine.kindOf piece = .pawn := (Table.kindOf_mark ..).symm.trans pawn
    have legal := checked.legal.2.2
    have kind : (engine.pieces.get piece).kind = .pawn := pawn
    simp only [RuleEngine.isLegalByPieceKind, checked.here, kind] at legal
    rw [moveMotion, pawn]
    exact RealTimeArbiter.newMotion_pawnlike _ _ _ (PieceRules.canMoveLikePawn_shape legal)
  · intro engine castle _ _ _ _ _ _ checked before
    obtain ⟨king, rook, kingPiece, _, _, rookPiece, _, _, started⟩ :=
      view_startCastle load engine castle
    change ((engine.startCastle load castle).view []).PawnsInLine
    rw [started]
    have kept : ∀ piece, (((engine.view []).mark castle.king).mark castle.rook).kindOf piece =
        engine.kindOf piece := fun piece => (Table.kindOf_mark ..).trans (Table.kindOf_mark ..)
    have before : (engine.view []).PawnsInLine := before
    have kingKind := checked.kingKind
    have rookKind := checked.rookKind
    refine (((((before.mark _).mark _).depart fun pawn => ?_).depart fun pawn => ?_).pend
      fun part isPart pawn => ?_)
    · rw [kingPiece, kept, kingKind] at pawn
      cases pawn
    · rw [rookPiece, Table.kindOf_depart, kept, rookKind] at pawn
      cases pawn
    · rw [Table.kindOf_depart, Table.kindOf_depart, kept] at pawn
      rcases PendingCastle.mem_pieces.mp (List.mem_map_of_mem isPart) with own | own
      · rw [own, kingKind] at pawn
        cases pawn
      · rw [own, rookKind] at pawn
        cases pawn
  · intro engine piece cell _ _ before
    have started := view_startJump engine load piece cell
    change ((engine.startJump load piece cell).view []).PawnsInLine
    rw [started]
    exact before.keep rfl rfl fun _ => Table.kindOf_lift ..
  · intro engine ms elapsed coherent before
    obtain ⟨flights, _, advanced⟩ := Moment.advance_table coherent elapsed
    rw [advanced]
    exact before.keep rfl rfl fun _ => rfl

/-- Processing an event keeps them in line. -/
theorem process_inLine {moment : Moment} (running : moment.Running)
    (inLine : moment.table.PawnsInLine) : (moment.process load).table.PawnsInLine := by
  have processed := running.processed load
  generalize (moment.process load).table = next at processed ⊢
  cases processed with
  | stepped _ judged => exact inLine.apply judged running.coherent
  | landed _ _ _ _ _ => exact inLine.keep rfl rfl fun _ => Table.kindOf_land ..
  | dropped _ _ => exact inLine.keep rfl rfl fun _ => rfl
  | unchanged => exact inLine

/-- **The pawns' moves are captures exactly when they change the column, in the runs in which
no moment surprises a pawn, and in no other.** -/
theorem pawnMoves_honest_iff (load : PieceConfigReader) (layout : Layout)
    (eventBus : Option EventBus) (calls : List Call) :
    (∀ side, ∀ entry ∈ ((new layout eventBus).run load calls).moveHistory side, entry.Honest) ↔
      ∀ moment ∈ (new layout eventBus).runMoments load calls, ¬ moment.SurprisesPawn := by
  have coherent := new_coherent layout eventBus
  have sound := (full_journey load coherent calls).visited_rule
    (motive := fun moment => moment.Running ∧ moment.table.PawnsInLine)
    (fun _ _ silent before => silent_inLine silent before.1 before.2)
    (fun first next (processes : Moment.Processes load first next) before =>
      ⟨processes.running before.1, processes ▸ process_inLine before.1 before.2⟩)
    ⟨Moment.of_landings coherent, ⟨fun _ absent => absurd absent List.not_mem_nil,
      fun _ absent => absurd absent List.not_mem_nil⟩⟩
  have entered : ∀ side, ((new layout eventBus).run load calls).moveHistory side =
      ((new layout eventBus).runMoments load calls).flatMap fun moment =>
        entriesOf side moment.entry := fun side => by
    rw [run_moveHistory load coherent calls side]
    cases side <;> exact List.nil_append _
  constructor
  · intro honest moment member
    obtain ⟨running, inLine⟩ := sound moment member
    refine (Moment.entry_honest_iff running inLine).mp fun entry own => ?_
    refine honest entry.color entry ?_
    rw [entered]
    exact List.mem_flatMap.mpr ⟨moment, member, mem_entriesOf.mpr ⟨own, rfl⟩⟩
  · intro calm side entry listed
    rw [entered] at listed
    obtain ⟨moment, member, own⟩ := List.mem_flatMap.mp listed
    obtain ⟨running, inLine⟩ := sound moment member
    exact (Moment.entry_honest_iff running inLine).mpr (calm moment member) entry
      (mem_entriesOf.mp own).1

/-- White's pawn goes two steps to a cell on which a black knight has come down. -/
def pawnMeetsKnight : List Call :=
  [.requestMove ⟨0, 6⟩ ⟨2, 5⟩, .wait 60000, .requestMove ⟨6, 4⟩ ⟨4, 4⟩,
    .requestMove ⟨2, 5⟩ ⟨4, 4⟩, .wait 60000]

/-- It captures the knight straight ahead. -/
theorem pawnMeetsKnight_dishonest :
    ¬ ∀ load calls side, ∀ entry ∈ ((new createInitialBoard none).run load calls).moveHistory side,
      entry.Honest := by
  intro honest
  have white := honest .fallback pawnMeetsKnight .white
  exact absurd white (by decide +kernel)

end GameEngine

end KungFuChess
