import KungFuChess.Engine.Runs

/-!
# Pieces in the air

A piece in the air stays on its cell, and its flight ends when it lands there. So a
piece in the air that the grid shows is in flight over its cell, and without
motions and flights every piece on the grid is idle.
-/

set_option autoImplicit false

namespace KungFuChess

namespace Table

/-- A piece in the air that the grid shows is in flight over its cell. -/
def Perched (table : Table) : Prop :=
  ∀ piece cell, table.stateOf piece = .airborne → table.board.getPieceAt cell = some piece →
    (⟨piece, cell⟩ : Flight) ∈ table.flights

variable {table : Table}

theorem flights_apply (event : StepEvent) (verdict : StepVerdict) :
    (table.apply event verdict).flights = table.flights := by
  cases verdict <;> rfl

/-- No verdict lifts a piece. -/
theorem Perched.apply (perched : table.Perched) (coherent : table.Coherent) {event : StepEvent}
    {verdict : StepVerdict} (judged : table.Judged event verdict) :
    (table.apply event verdict).Perched := by
  intro piece cell airborne here
  rw [flights_apply]
  by_cases touched : piece ∈ verdict.touched event
  · rcases judged.settles coherent touched with ⟨idle, _⟩ | captured
    · rw [airborne] at idle
      cases idle
    · rw [airborne] at captured
      cases captured
  · exact perched piece cell ((judged.frame coherent touched).1 ▸ airborne)
      (judged.origin coherent touched here)

theorem Perched.mark (perched : table.Perched) (piece : PieceId) : (table.mark piece).Perched :=
  fun other cell airborne here => perched other cell (stateOf_mark table piece other ▸ airborne)
    here

theorem Perched.depart (perched : table.Perched) (motion : Motion) :
    (table.depart motion).Perched := by
  intro piece cell airborne here
  rw [stateOf_depart] at airborne
  split at airborne
  · cases airborne
  · exact perched piece cell airborne here

theorem Perched.lift (perched : table.Perched) (coherent : table.Coherent) {flight : Flight}
    (above : table.board.getPieceAt flight.cell = some flight.piece) :
    (table.lift flight).Perched := by
  intro piece cell airborne here
  rw [stateOf_lift] at airborne
  split at airborne
  · next own =>
      subst own
      have same := coherent.oneCell here above
      subst same
      exact List.mem_append_right _ (List.mem_singleton.mpr rfl)
  · exact List.mem_append_left _ (perched piece cell airborne here)

theorem Perched.land (perched : table.Perched) (flight : Flight)
    (eventTimeMs shortCooldownMs : Int) :
    (table.land flight eventTimeMs shortCooldownMs).Perched := by
  intro piece cell airborne here
  rw [stateOf_land] at airborne
  split at airborne
  · cases airborne
  · next other =>
      refine (List.mem_erase_of_ne fun same => other ?_).mpr (perched piece cell airborne here)
      exact congrArg Flight.piece same

theorem Perched.dropFlight (perched : table.Perched) {flight : Flight}
    (lost : ¬ (table.stateOf flight.piece = .airborne ∧
      table.board.getPieceAt flight.cell = some flight.piece)) :
    (table.dropFlight flight).Perched := by
  intro piece cell airborne here
  refine (List.mem_erase_of_ne ?_).mpr (perched piece cell airborne here)
  rintro rfl
  exact lost ⟨airborne, here⟩

end Table

namespace GameEngine

variable {load : PieceConfigReader}

theorem process_perched {moment : Moment} (running : moment.Running)
    (perched : moment.table.Perched) : (moment.process load).table.Perched := by
  have processed := running.processed load
  generalize (moment.process load).table = next at processed ⊢
  cases processed with
  | stepped _ judged => exact perched.apply running.coherent judged
  | landed _ _ _ eventTimeMs shortCooldownMs => exact perched.land _ _ _
  | dropped _ lost => exact perched.dropFlight lost
  | unchanged => exact perched

theorem silent_perched {admitted : GameEngine → Call → Prop} {first next : Moment}
    (silent : Moment.Silent load admitted first next) (running : first.Running)
    (perched : first.table.Perched) : next.Running ∧ next.table.Perched := by
  refine silent_rule load (motive := fun moment => moment.table.Perched) ?_ ?_ ?_ ?_ silent running
    perched
  · intro engine piece source destination _ _ before
    have started := view_startMove load engine piece source destination
    change ((engine.startMove load piece source destination).view []).Perched
    rw [started]
    exact (Table.Perched.mark before piece).depart _
  · intro engine castle _ _ _ _ _ _ _ before
    obtain ⟨king, rook, _, _, _, _, _, _, started⟩ := view_startCastle load engine castle
    change ((engine.startCastle load castle).view []).Perched
    rw [started]
    exact (((Table.Perched.mark before castle.king).mark castle.rook).depart king).depart rook
  · intro engine piece cell coherent checked before
    have started := view_startJump engine load piece cell
    change ((engine.startJump load piece cell).view []).Perched
    rw [started]
    exact Table.Perched.lift before coherent checked.here
  · intro engine ms elapsed coherent before
    obtain ⟨flights, perm, advanced⟩ := Moment.advance_table coherent elapsed
    rw [advanced]
    exact fun piece cell airborne here => perm.mem_iff.mpr (before piece cell airborne here)

/-- **In every run a piece in the air that the grid shows is in flight.** -/
theorem run_perched (load : PieceConfigReader) (layout : Layout) (eventBus : Option EventBus)
    (calls : List Call) : (((new layout eventBus).run load calls).view []).Perched := by
  refine run_rule load (motive := fun moment => moment.table.Perched) (fun _ => True)
    (fun _ _ => True) (fun _ _ silent running before => silent_perched silent running before)
    (fun _ running _ before => process_perched running before)
    (new_coherent layout eventBus) (fun _ _ => trivial) (fun _ _ => trivial) ?_
  intro piece cell airborne
  have idle : ((Moment.quiet (new layout eventBus)).table).stateOf piece = .idle :=
    layout.idle piece
  rw [idle] at airborne
  cases airborne

/-- Without motions and flights, every piece on the grid is idle. -/
theorem idle_of_still {engine : GameEngine} (coherent : (engine.view []).Coherent)
    (perched : (engine.view []).Perched) (motions : engine.realTime.activeMotions = [])
    (jumps : engine.realTime.activeJumps = []) {cell : Position} {piece : PieceId}
    (here : engine.board.getPieceAt cell = some piece) : engine.stateOf piece = .idle := by
  cases state : engine.stateOf piece with
  | idle => rfl
  | moving =>
      obtain ⟨motion, member, _⟩ := (coherent.moving piece).mp state
      have member : motion ∈ engine.realTime.activeMotions := member
      rw [motions] at member
      exact absurd member List.not_mem_nil
  | airborne =>
      have member := perched piece cell state here
      simp only [view, jumps, List.map_nil, List.append_nil] at member
      exact absurd member List.not_mem_nil
  | captured => exact absurd here (coherent.offBoard piece state cell)

end GameEngine

end KungFuChess
