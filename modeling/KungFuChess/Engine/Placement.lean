import KungFuChess.Engine.Runs

/-!
# Placement without castling

In a run without castles every live piece has a place of its own. Two facts about
a table carry this. It is spread out: no two motions pass the same cell, and a
cell a motion passes holds no resting piece. And its pieces are grounded: a
resting piece stands on the grid, and a piece in the air is in flight over the
cell that holds it. On a spread table no verdict buries a resting piece, so
grounded pieces stay grounded.
-/

set_option autoImplicit false

namespace KungFuChess

namespace Table

/-- Motions keep apart from each other and from resting pieces. -/
structure Spread (table : Table) : Prop where
  apart : ∀ first ∈ table.motions, ∀ second ∈ table.motions,
    first.currentCell = second.currentCell → first.piece = second.piece
  above : ∀ motion ∈ table.motions, ∀ piece,
    table.board.getPieceAt motion.currentCell = some piece → table.stateOf piece = .moving
  noCastles : table.castles = []

/-- A resting piece stands on the grid, a piece in the air over its cell. -/
structure Grounded (table : Table) (piece : PieceId) : Prop where
  idle : table.stateOf piece = .idle → ∃ cell, table.board.getPieceAt cell = some piece
  airborne : table.stateOf piece = .airborne → ∃ flight ∈ table.flights, flight.piece = piece ∧
    table.board.getPieceAt flight.cell = some piece

/-- A live piece that does not move. -/
def Rests (table : Table) (piece : PieceId) : Prop :=
  table.stateOf piece = .idle ∨ table.stateOf piece = .airborne

theorem Rests.not_moving {table : Table} {piece : PieceId} (rests : table.Rests piece) :
    table.stateOf piece ≠ .moving := by
  rcases rests with idle | airborne
  · simp only [idle, ne_eq, reduceCtorEq, not_false_eq_true]
  · simp only [airborne, ne_eq, reduceCtorEq, not_false_eq_true]

/-! ## No resting piece is buried -/

/-- A resting piece is not where a motion passes. -/
theorem Spread.not_above {table : Table} (spread : table.Spread) {motion : Motion}
    (member : motion ∈ table.motions) {piece : PieceId} (rests : table.Rests piece) :
    table.board.getPieceAt motion.currentCell ≠ some piece :=
  fun here => rests.not_moving (spread.above motion member piece here)

/-- **On a spread table no verdict buries a resting piece.** -/
theorem Judged.spares {table : Table} {event : StepEvent} {verdict : StepVerdict}
    (judged : table.Judged event verdict) (spread : table.Spread) {piece : PieceId}
    (rests : table.Rests piece) : ¬ table.Buries event verdict piece := by
  rintro ⟨untouched, cell, written, here⟩
  cases judged with
  | ignored resting => exact absurd written List.not_mem_nil
  | slid stepping inside clear onward => exact absurd written List.not_mem_nil
  | lost stepping inside other met enemy airborne => exact absurd written List.not_mem_nil
  | castled moving pending part =>
      rw [spread.noCastles] at pending
      exact absurd pending List.not_mem_nil
  | arrived stepping inside clear reached =>
      rw [List.mem_singleton.mp written] at here
      exact clear piece (List.mem_singleton.not.mp untouched) (.inr ⟨rests.not_moving, here⟩)
  | halted stepping blocked =>
      rw [List.mem_singleton.mp written, stepping.fromCell] at here
      exact spread.not_above stepping.member rests here
  | captured stepping inside other met enemy grounded =>
      rw [List.mem_singleton.mp written] at here
      rcases met with ⟨motion, member, _, current⟩ | ⟨_, there⟩
      · exact spread.not_above member rests (current ▸ here)
      · have same := Option.some.inj (here.symm.trans there)
        exact untouched (same ▸ List.mem_cons_of_mem _ (List.mem_cons_self ..))

/-! ## Spread tables stay spread -/

/-- Ending motions keeps a table spread when no piece is put down where another
motion passes. -/
theorem Spread.retire {table next : Table} {gone : PieceId → Prop} (spread : table.Spread)
    (retires : Retires table next gone)
    (clear : ∀ motion ∈ next.motions, ∀ piece, gone piece →
      next.board.getPieceAt motion.currentCell ≠ some piece) : next.Spread where
  apart := fun first firstMember second secondMember =>
    spread.apart first ((retires.motions first).mp firstMember).1 second
      ((retires.motions second).mp secondMember).1
  above := by
    intro motion member piece here
    have stays : ¬ gone piece := fun isGone => clear motion member piece isGone here
    rw [retires.others piece stays]
    exact spread.above motion ((retires.motions motion).mp member).1 piece
      (retires.kept _ piece stays here)
  noCastles := List.sublist_nil.mp (spread.noCastles ▸ retires.castles)

/-- Putting a piece down away from the other motions. -/
theorem Spread.stop {table : Table} (spread : table.Spread) (coherent : table.Coherent)
    {event : StepEvent} {motion : Motion} (stepping : table.Stepping event motion)
    {cell : Position} (inside : table.board.isInside cell)
    (elsewhere : ∀ other ∈ table.motions, other.piece ≠ event.piece → other.currentCell ≠ cell) :
    (table.stop event.piece motion.source cell event.eventTimeMs).Spread := by
  refine spread.retire (stepping.retires coherent inside) ?_
  rintro other member piece rfl here
  have before := ((stepping.retires coherent inside).motions other).mp member
  rw [stepping.piece, getPieceAt_stop coherent stepping.member inside,
    if_neg (elsewhere other before.1 before.2)] at here
  split at here
  · cases here
  · next absent => exact absurd here absent

theorem Spread.remove {table : Table} (spread : table.Spread) (coherent : table.Coherent)
    {target : PieceId} (grounded : table.stateOf target ≠ .airborne) :
    (table.remove target).Spread := by
  refine spread.retire (remove_retires coherent grounded) ?_
  rintro motion _ piece rfl here
  exact (getPieceAt_remove coherent here).1 rfl

/-- Sliding into a clear cell. -/
theorem Spread.slide {table : Table} (spread : table.Spread) (coherent : table.Coherent)
    {piece : PieceId} (moving : table.stateOf piece = .moving) {cell : Position}
    (clear : table.Clear piece cell) : (table.slide piece cell).Spread where
  apart := by
    intro first firstMember second secondMember same
    obtain ⟨one, oneMember, onePiece, _, oneCell⟩ := coherent.of_mem_slide firstMember
    obtain ⟨two, twoMember, twoPiece, _, twoCell⟩ := coherent.of_mem_slide secondMember
    rw [oneCell, twoCell] at same
    by_cases firstOwn : first.piece = piece
    · by_cases secondOwn : second.piece = piece
      · exact firstOwn.trans secondOwn.symm
      · rw [if_pos firstOwn, if_neg secondOwn] at same
        exact absurd (.inl ⟨two, twoMember, twoPiece, same.symm⟩) (clear second.piece secondOwn)
    · by_cases secondOwn : second.piece = piece
      · rw [if_neg firstOwn, if_pos secondOwn] at same
        exact absurd (.inl ⟨one, oneMember, onePiece, same⟩) (clear first.piece firstOwn)
      · rw [if_neg firstOwn, if_neg secondOwn] at same
        exact onePiece.symm.trans ((spread.apart one oneMember two twoMember same).trans twoPiece)
  above := by
    intro motion member other here
    obtain ⟨before, present, _, _, current⟩ := coherent.of_mem_slide member
    rw [current] at here
    rw [stateOf_slide]
    split at here
    · by_cases own : other = piece
      · exact own ▸ moving
      · by_contra resting
        exact clear other own (.inr ⟨resting, here⟩)
    · exact spread.above before present other here
  noCastles := spread.noCastles

/-- **Processing an event keeps a table spread.** -/
theorem Judged.spread {table : Table} {event : StepEvent} {verdict : StepVerdict}
    (judged : table.Judged event verdict) (coherent : table.Coherent) (spread : table.Spread) :
    (table.apply event verdict).Spread := by
  cases judged with
  | ignored resting => exact spread
  | castled moving pending part =>
      rw [spread.noCastles] at pending
      exact absurd pending List.not_mem_nil
  | slid stepping inside clear onward =>
      exact spread.slide coherent (stepping.piece ▸ coherent.stateOf_motion stepping.member) clear
  | arrived stepping inside clear reached =>
      exact spread.stop coherent stepping inside fun other member distinct current =>
        clear other.piece distinct (.inl ⟨other, member, rfl, current⟩)
  | halted stepping blocked =>
      refine spread.stop coherent stepping (stepping.fromInside coherent)
        fun other member distinct current => distinct ?_
      rw [stepping.piece]
      exact spread.apart other member _ stepping.member (current.trans stepping.fromCell)
  | lost stepping inside other met enemy airborne =>
      refine spread.remove coherent ?_
      rw [stepping.piece, coherent.stateOf_motion stepping.member]
      simp only [ne_eq, reduceCtorEq, not_false_eq_true]
  | captured stepping inside other met enemy grounded =>
      refine (spread.remove coherent grounded).stop
        (coherent.retire (remove_retires coherent grounded)) (stepping.remove other)
        ((Board.isInside_takeOff _ _ _).mpr inside) ?_
      intro third member _ current
      obtain ⟨present, notTarget⟩ := mem_filter_piece.mp member
      rcases met with ⟨motion, moves, own, there⟩ | ⟨resting, there⟩
      · exact notTarget ((spread.apart third present motion moves
          (current.trans there.symm)).trans own)
      · exact resting (spread.above third present _ (current ▸ there))

/-! ## Grounded pieces stay grounded -/

theorem Grounded.of_idle {table : Table} {piece : PieceId} (idle : table.stateOf piece = .idle)
    {cell : Position} (here : table.board.getPieceAt cell = some piece) :
    table.Grounded piece where
  idle := fun _ => ⟨cell, here⟩
  airborne := fun airborne => by
    rw [idle] at airborne
    cases airborne

/-- A piece that does not rest is grounded. -/
theorem Grounded.of_gone {table : Table} {piece : PieceId} (gone : ¬ table.Rests piece) :
    table.Grounded piece where
  idle := fun idle => absurd (.inl idle) gone
  airborne := fun airborne => absurd (.inr airborne) gone

/-- **Processing an event keeps a piece grounded**, unless it buries it. -/
theorem Judged.grounded {table : Table} {event : StepEvent} {verdict : StepVerdict}
    (judged : table.Judged event verdict) (coherent : table.Coherent) {piece : PieceId}
    (spared : table.Rests piece → ¬ table.Buries event verdict piece)
    (grounded : table.Grounded piece) : (table.apply event verdict).Grounded piece := by
  by_cases touched : piece ∈ verdict.touched event
  · rcases judged.settles coherent touched with ⟨idle, cell, _, here⟩ | captured
    · exact .of_idle idle here
    · exact .of_gone (by simp only [Rests, captured, reduceCtorEq, or_self, not_false_eq_true])
  · obtain ⟨state, kept⟩ := judged.frame coherent touched
    refine ⟨?_, ?_⟩
    · intro idle
      rw [state] at idle
      obtain ⟨cell, here⟩ := grounded.idle idle
      exact ⟨cell, kept (spared (.inl idle)) cell here⟩
    · intro airborne
      rw [state] at airborne
      obtain ⟨flight, member, own, here⟩ := grounded.airborne airborne
      have flights : (table.apply event verdict).flights = table.flights := by
        cases verdict <;> rfl
      exact ⟨flight, flights ▸ member, own, kept (spared (.inr airborne)) _ here⟩

/-! ## Departures, jumps and landings -/

section Requests

variable {table : Table}

theorem Spread.mark (spread : table.Spread) (piece : PieceId) : (table.mark piece).Spread where
  apart := spread.apart
  above := fun motion member other here => by
    rw [stateOf_mark]
    exact spread.above motion member other here
  noCastles := spread.noCastles

/-- A departing piece rested on its cell, so no motion passes there. -/
theorem Spread.depart (spread : table.Spread) {motion : Motion}
    (idle : table.stateOf motion.piece = .idle)
    (here : table.board.getPieceAt motion.source = some motion.piece)
    (starts : motion.currentCell = motion.source) : (table.depart motion).Spread := by
  have elsewhere : ∀ other ∈ table.motions, other.currentCell ≠ motion.currentCell := by
    intro other member same
    refine spread.not_above member (.inl idle) ?_
    rw [same, starts]
    exact here
  refine ⟨?_, ?_, spread.noCastles⟩
  · intro first firstMember second secondMember same
    rcases List.mem_append.mp firstMember with firstOld | firstNew
    · rcases List.mem_append.mp secondMember with secondOld | secondNew
      · exact spread.apart first firstOld second secondOld same
      · rw [List.mem_singleton.mp secondNew] at same
        exact absurd same (elsewhere first firstOld)
    · rcases List.mem_append.mp secondMember with secondOld | secondNew
      · rw [List.mem_singleton.mp firstNew] at same
        exact absurd same.symm (elsewhere second secondOld)
      · rw [List.mem_singleton.mp firstNew, List.mem_singleton.mp secondNew]
  · intro other member piece found
    rw [stateOf_depart]
    split
    · rfl
    · next apart =>
        rcases List.mem_append.mp member with old | new
        · exact spread.above other old piece found
        · rw [List.mem_singleton.mp new, starts] at found
          exact absurd (Option.some.inj (found.symm.trans here)) apart

theorem Spread.lift (spread : table.Spread) {flight : Flight}
    (idle : table.stateOf flight.piece = .idle) : (table.lift flight).Spread where
  apart := spread.apart
  above := by
    intro motion member piece here
    have moving := spread.above motion member piece here
    rw [stateOf_lift, if_neg]
    · exact moving
    · rintro rfl
      rw [idle] at moving
      cases moving
  noCastles := spread.noCastles

theorem Spread.land (spread : table.Spread) {flight : Flight}
    (airborne : table.stateOf flight.piece = .airborne) (eventTimeMs shortCooldownMs : Int) :
    (table.land flight eventTimeMs shortCooldownMs).Spread where
  apart := spread.apart
  above := by
    intro motion member piece here
    have moving := spread.above motion member piece here
    rw [stateOf_land, if_neg]
    · exact moving
    · rintro rfl
      rw [airborne] at moving
      cases moving
  noCastles := spread.noCastles

theorem Grounded.mark {piece : PieceId} (grounded : table.Grounded piece) (other : PieceId) :
    (table.mark other).Grounded piece where
  idle := fun idle => grounded.idle (by rwa [stateOf_mark] at idle)
  airborne := fun airborne => grounded.airborne (by rwa [stateOf_mark] at airborne)

theorem Grounded.depart {piece : PieceId} (grounded : table.Grounded piece) (motion : Motion) :
    (table.depart motion).Grounded piece := by
  by_cases own : piece = motion.piece
  · refine .of_gone ?_
    simp only [Rests, stateOf_depart, own, if_true, reduceCtorEq, or_self, not_false_eq_true]
  · exact ⟨fun idle => grounded.idle (by rwa [stateOf_depart, if_neg own] at idle),
      fun airborne => grounded.airborne (by rwa [stateOf_depart, if_neg own] at airborne)⟩

theorem Grounded.lift {piece : PieceId} (grounded : table.Grounded piece) {flight : Flight}
    (here : table.board.getPieceAt flight.cell = some flight.piece) :
    (table.lift flight).Grounded piece := by
  have rises : flight ∈ (table.lift flight).flights :=
    List.mem_append_right _ (List.mem_singleton.mpr rfl)
  by_cases own : piece = flight.piece
  · refine ⟨fun idle => ?_, fun _ => ⟨flight, rises, own.symm, own ▸ here⟩⟩
    rw [stateOf_lift, if_pos own] at idle
    cases idle
  · refine ⟨fun idle => grounded.idle (by rwa [stateOf_lift, if_neg own] at idle),
      fun airborne => ?_⟩
    rw [stateOf_lift, if_neg own] at airborne
    obtain ⟨other, member, same, there⟩ := grounded.airborne airborne
    exact ⟨other, List.mem_append_left _ member, same, there⟩

theorem Grounded.land {piece : PieceId} (grounded : table.Grounded piece) {flight : Flight}
    (here : table.board.getPieceAt flight.cell = some flight.piece)
    (eventTimeMs shortCooldownMs : Int) :
    (table.land flight eventTimeMs shortCooldownMs).Grounded piece := by
  by_cases own : piece = flight.piece
  · have lands : (table.land flight eventTimeMs shortCooldownMs).stateOf piece = .idle := by
      rw [stateOf_land, if_pos own]
    exact .of_idle lands (own ▸ here)
  · refine ⟨fun idle => grounded.idle (by rwa [stateOf_land, if_neg own] at idle),
      fun airborne => ?_⟩
    rw [stateOf_land, if_neg own] at airborne
    obtain ⟨other, member, same, there⟩ := grounded.airborne airborne
    refine ⟨other, (List.mem_erase_of_ne ?_).mpr member, same, there⟩
    rintro rfl
    exact own same.symm

/-- A flight that is dropped was not the flight of a grounded piece. -/
theorem Grounded.dropFlight {piece : PieceId} (grounded : table.Grounded piece)
    (coherent : table.Coherent) {flight : Flight} (member : flight ∈ table.flights)
    (lost : ¬ (table.stateOf flight.piece = .airborne ∧
      table.board.getPieceAt flight.cell = some flight.piece)) :
    (table.dropFlight flight).Grounded piece := by
  refine ⟨grounded.idle, fun airborne => ?_⟩
  obtain ⟨other, present, same, there⟩ := grounded.airborne airborne
  refine ⟨other, (List.mem_erase_of_ne ?_).mpr present, same, there⟩
  rintro rfl
  exact lost ⟨coherent.flying other member, same ▸ there⟩

theorem Grounded.reorder {piece : PieceId} (grounded : table.Grounded piece)
    {flights : List Flight} (perm : flights.Perm table.flights) :
    Grounded { table with flights := flights } piece where
  idle := grounded.idle
  airborne := fun airborne => by
    obtain ⟨flight, member, same, there⟩ := grounded.airborne airborne
    exact ⟨flight, perm.mem_iff.mpr member, same, there⟩

end Requests

end Table

/-! ## Runs without castling -/

/-- Every piece of the layout has a place, and nothing is in its way. -/
structure Moment.Placed (layout : Layout) (moment : Moment) : Prop where
  spread : moment.table.Spread
  grounded : ∀ piece, layout.Holds piece → moment.table.Grounded piece

theorem Moment.Placed.process {layout : Layout} {moment : Moment} (placed : moment.Placed layout)
    (running : moment.Running) (load : PieceConfigReader) :
    (moment.process load).Placed layout := by
  obtain ⟨spread, grounded⟩ := placed
  have processed := running.processed load
  suffices (moment.process load).table.Spread ∧
      ∀ piece, layout.Holds piece → (moment.process load).table.Grounded piece from
    ⟨this.1, this.2⟩
  generalize (moment.process load).table = next at processed ⊢
  cases processed with
  | stepped _ judged =>
      exact ⟨judged.spread running.coherent spread, fun piece held =>
        judged.grounded running.coherent (judged.spares spread) (grounded piece held)⟩
  | landed member airborne here eventTimeMs shortCooldownMs =>
      exact ⟨spread.land airborne _ _, fun piece held => (grounded piece held).land here _ _⟩
  | dropped member lost =>
      exact ⟨⟨spread.apart, spread.above, spread.noCastles⟩, fun piece held =>
        (grounded piece held).dropFlight running.coherent member lost⟩
  | unchanged => exact ⟨spread, grounded⟩

theorem Moment.Placed.advance {layout : Layout} {engine : GameEngine}
    (placed : (Moment.quiet engine).Placed layout) (coherent : (engine.view []).Coherent)
    {ms : Int} (elapsed : 0 ≤ ms) : (Moment.advance engine ms).Placed layout := by
  obtain ⟨flights, perm, kept⟩ := Moment.advance_table coherent elapsed
  refine ⟨?_, fun piece held => ?_⟩
  · rw [kept]
    exact ⟨placed.spread.apart, placed.spread.above, placed.spread.noCastles⟩
  · rw [kept]
    exact (placed.grounded piece held).reorder perm

namespace GameEngine

/-- The cell a live piece takes up: the cell its motion has reached, or else its
cell on the grid. -/
def EffectiveCell (engine : GameEngine) (piece : PieceId) (cell : Position) : Prop :=
  match engine.stateOf piece with
  | .moving => ∃ motion ∈ engine.realTime.activeMotions,
      motion.piece = piece ∧ motion.currentCell = cell
  | .captured => False
  | _ => engine.board.getPieceAt cell = some piece

/-- The call starts a castle. -/
def StartsCastle (load : PieceConfigReader) (engine : GameEngine) : Call → Prop
  | .requestMove source destination => engine.AcceptsCastle load source destination
  | _ => False

/-- No move request of the run is accepted through the castling branch. -/
def NoCastling (load : PieceConfigReader) (engine : GameEngine) (calls : List Call) : Prop :=
  ∀ visit ∈ Trace.visits (perform load) engine calls, ¬ visit.1.StartsCastle load visit.2

instance (load : PieceConfigReader) (engine : GameEngine) (source destination : Position) :
    Decidable (engine.AcceptsCastle load source destination) :=
  inferInstanceAs (Decidable (_ ∧ _))

instance (load : PieceConfigReader) (engine : GameEngine) (call : Call) :
    Decidable (engine.StartsCastle load call) :=
  match call with
  | .requestMove source destination =>
      inferInstanceAs (Decidable (engine.AcceptsCastle load source destination))
  | .requestJump _ => inferInstanceAs (Decidable False)
  | .wait _ => inferInstanceAs (Decidable False)

instance (load : PieceConfigReader) (engine : GameEngine) (calls : List Call) :
    Decidable (engine.NoCastling load calls) :=
  inferInstanceAs (Decidable (∀ visit ∈ _, ¬ _))

/-- **The representation invariant** of an engine that plays with `pieces`. -/
structure Represented (engine : GameEngine) (pieces : PieceId → Prop) : Prop where
  moving : ∀ piece, engine.stateOf piece = .moving ↔
    ∃ motion, (engine.realTime.activeMotions.filter fun motion => motion.piece = piece) = [motion]
  airborne : ∀ piece, pieces piece → (engine.stateOf piece = .airborne ↔
    ∃ jump, (engine.realTime.activeJumps.filter fun jump => jump.piece = piece) = [jump] ∧
      engine.board.getPieceAt jump.cell = some piece)
  standing : ∀ piece, pieces piece →
    engine.stateOf piece = .idle ∨ engine.stateOf piece = .airborne →
      ∃! cell, engine.board.getPieceAt cell = some piece
  leaving : ∀ motion ∈ engine.realTime.activeMotions, ∀ cell,
    engine.board.getPieceAt cell = some motion.piece → cell = motion.source
  captured : ∀ piece, engine.stateOf piece = .captured →
    (∀ cell, engine.board.getPieceAt cell ≠ some piece) ∧
      (∀ motion ∈ engine.realTime.activeMotions, motion.piece ≠ piece) ∧
        ∀ jump ∈ engine.realTime.activeJumps, jump.piece ≠ piece
  located : ∀ piece, pieces piece → engine.stateOf piece ≠ .captured →
    ∃! cell, engine.EffectiveCell piece cell
  inside : ∀ piece cell, engine.EffectiveCell piece cell → engine.board.isInside cell
  apart : ∀ first second cell, engine.EffectiveCell first cell →
    engine.EffectiveCell second cell → first = second

section Represented

variable {engine : GameEngine}

/-- A list without repetition in a projection has at most one entry for a value. -/
theorem filter_eq_singleton {α β : Type} [DecidableEq β] {entries : List α} {key : α → β}
    (distinct : (entries.map key).Nodup) {entry : α} (member : entry ∈ entries) :
    (entries.filter fun other => key other = key entry) = [entry] := by
  induction entries with
  | nil => exact absurd member List.not_mem_nil
  | cons head rest ih =>
      rw [List.map_cons, List.nodup_cons] at distinct
      rcases List.mem_cons.mp member with rfl | later
      · have others : (rest.filter fun other => key other = key entry) = [] := by
          rw [List.filter_eq_nil_iff]
          intro other present same
          exact distinct.1 (of_decide_eq_true same ▸ List.mem_map_of_mem present)
        rw [List.filter_cons_of_pos (by simp only [decide_true]), others]
      · have other : key head ≠ key entry := fun same =>
          distinct.1 (same ▸ List.mem_map_of_mem later)
        rw [List.filter_cons_of_neg (by simpa only [decide_eq_true_eq] using other)]
        exact ih distinct.2 later

theorem occupies_of_effectiveCell {piece : PieceId} {cell : Position}
    (effective : engine.EffectiveCell piece cell) : (engine.view []).Occupies piece cell := by
  unfold EffectiveCell at effective
  split at effective
  · exact .inl effective
  · exact effective.elim
  · next resting _ => exact .inr ⟨resting, effective⟩

/-- Coherence and places for all pieces make an engine represented. -/
theorem Represented.of_placed {layout : Layout} (coherent : (engine.view []).Coherent)
    (placed : (Moment.quiet engine).Placed layout) : engine.Represented layout.Holds := by
  have flights : (engine.view []).flights = engine.realTime.activeJumps.map Jump.flight :=
    List.append_nil _
  have jumps : (engine.realTime.activeJumps.map Jump.piece).Nodup := by
    have distinct := coherent.airborne
    rwa [flights, List.map_map] at distinct
  have flying : ∀ jump ∈ engine.realTime.activeJumps, engine.stateOf jump.piece = .airborne := by
    intro jump member
    refine coherent.flying jump.flight ?_
    rw [flights]
    exact List.mem_map_of_mem member
  have stand : ∀ piece, layout.Holds piece → (engine.view []).Rests piece →
      ∃ cell, engine.board.getPieceAt cell = some piece := by
    rintro piece held (idle | airborne)
    · exact (placed.grounded piece held).idle idle
    · obtain ⟨flight, _, _, here⟩ := (placed.grounded piece held).airborne airborne
      exact ⟨flight.cell, here⟩
  refine
    { moving := ?_, airborne := ?_, standing := ?_, leaving := coherent.atSource, captured := ?_
      located := ?_, inside := ?_, apart := ?_ }
  · intro piece
    refine (coherent.moving piece).trans ⟨?_, ?_⟩
    · rintro ⟨motion, member, rfl⟩
      exact ⟨motion, filter_eq_singleton coherent.distinct member⟩
    · rintro ⟨motion, only⟩
      have member : motion ∈ engine.realTime.activeMotions.filter
          fun motion => motion.piece = piece := only ▸ List.mem_singleton.mpr rfl
      exact ⟨motion, (List.mem_filter.mp member).1, of_decide_eq_true (List.mem_filter.mp member).2⟩
  · intro piece held
    constructor
    · intro airborne
      obtain ⟨flight, member, own, here⟩ := (placed.grounded piece held).airborne airborne
      have lifted : flight ∈ engine.realTime.activeJumps.map Jump.flight := flights ▸ member
      obtain ⟨jump, present, rfl⟩ := List.mem_map.mp lifted
      subst own
      exact ⟨jump, filter_eq_singleton jumps present, here⟩
    · rintro ⟨jump, only, _⟩
      have member : jump ∈ engine.realTime.activeJumps.filter
          fun jump => jump.piece = piece := only ▸ List.mem_singleton.mpr rfl
      rw [← of_decide_eq_true (List.mem_filter.mp member).2]
      exact flying jump (List.mem_filter.mp member).1
  · intro piece held rests
    obtain ⟨cell, here⟩ := stand piece held rests
    exact ⟨cell, here, fun other there => coherent.oneCell there here⟩
  · intro piece captured
    refine ⟨coherent.offBoard piece captured, ?_, ?_⟩
    · rintro motion member rfl
      have moving := coherent.stateOf_motion member
      rw [show (engine.view []).stateOf motion.piece = .captured from captured] at moving
      cases moving
    · rintro jump member rfl
      have airborne := flying jump member
      rw [captured] at airborne
      cases airborne
  · intro piece held live
    simp only [EffectiveCell]
    cases state : engine.stateOf piece with
    | captured => exact absurd state live
    | moving =>
        obtain ⟨motion, member, own⟩ := (coherent.moving piece).mp state
        refine ⟨motion.currentCell, ⟨motion, member, own, rfl⟩, ?_⟩
        rintro cell ⟨other, present, same, rfl⟩
        rw [coherent.motion_unique present member (same.trans own.symm)]
    | idle =>
        obtain ⟨cell, here⟩ := stand piece held (.inl state)
        exact ⟨cell, here, fun other there => coherent.oneCell there here⟩
    | airborne =>
        obtain ⟨cell, here⟩ := stand piece held (.inr state)
        exact ⟨cell, here, fun other there => coherent.oneCell there here⟩
  · intro piece cell effective
    rcases occupies_of_effectiveCell effective with ⟨motion, member, _, rfl⟩ | ⟨_, here⟩
    · exact coherent.within motion member
    · exact Board.isInside_of_getPieceAt here
  · intro first second cell firstThere secondThere
    rcases occupies_of_effectiveCell firstThere with
      ⟨one, oneMember, rfl, oneCell⟩ | ⟨firstRests, here⟩
    · rcases occupies_of_effectiveCell secondThere with
        ⟨two, twoMember, rfl, twoCell⟩ | ⟨secondRests, there⟩
      · exact placed.spread.apart one oneMember two twoMember (oneCell.trans twoCell.symm)
      · exact absurd (placed.spread.above one oneMember second (oneCell ▸ there)) secondRests
    · rcases occupies_of_effectiveCell secondThere with
        ⟨two, twoMember, rfl, twoCell⟩ | ⟨secondRests, there⟩
      · exact absurd (placed.spread.above two twoMember first (twoCell ▸ here)) firstRests
      · exact Option.some.inj (here.symm.trans there)

end Represented

/-- **Every engine a run without castling reaches is represented**: from every
layout, so from every board the parser builds and from the initial board. -/
theorem run_represented (load : PieceConfigReader) (layout : Layout) (eventBus : Option EventBus)
    (calls : List Call) (noCastling : (new layout eventBus).NoCastling load calls) :
    ((new layout eventBus).run load calls).Represented layout.Holds := by
  refine .of_placed (run_coherent load layout eventBus calls) ?_
  refine run_rule load (fun _ => True) (fun engine call => ¬ engine.StartsCastle load call)
    (fun first next => silent_rule load ?_ ?_ ?_ ?_)
    (fun moment running _ placed => placed.process running load)
    (new_coherent layout eventBus) noCastling (fun _ _ => trivial) ?_
  · intro engine piece source destination _ checked placed
    have started := view_startMove load engine piece source destination
    refine ⟨?_, fun other held => ?_⟩
    · change ((engine.startMove load piece source destination).view []).Spread
      rw [started]
      exact (placed.spread.mark piece).depart ((Table.stateOf_mark ..).trans checked.idle)
        checked.here rfl
    · change ((engine.startMove load piece source destination).view []).Grounded other
      rw [started]
      exact ((placed.grounded other held).mark piece).depart _
  · intro engine castle source destination admitted _ _ accepts _ _
    exact absurd accepts admitted
  · intro engine piece cell _ checked placed
    have started := view_startJump engine load piece cell
    refine ⟨?_, fun other held => ?_⟩
    · change ((engine.startJump load piece cell).view []).Spread
      rw [started]
      exact placed.spread.lift checked.idle
    · change ((engine.startJump load piece cell).view []).Grounded other
      rw [started]
      exact (placed.grounded other held).lift checked.here
  · exact fun engine ms elapsed coherent placed => placed.advance coherent elapsed
  · refine ⟨⟨?_, ?_, rfl⟩, ?_⟩
    · exact fun _ member => absurd member List.not_mem_nil
    · exact fun _ member => absurd member List.not_mem_nil
    · rintro piece ⟨cell, here⟩
      exact .of_idle (layout.idle piece) here

/-- A double step, a jump and a capture in flight from the initial board. -/
theorem run_represented_opening :
    ((new createInitialBoard none).run PieceConfigReader.fallback
      [.requestMove ⟨6, 4⟩ ⟨4, 4⟩, .requestMove ⟨1, 3⟩ ⟨3, 3⟩, .requestJump ⟨7, 0⟩, .wait 2000,
        .wait 2000, .requestMove ⟨4, 4⟩ ⟨3, 3⟩, .wait 1000]).Represented createInitialBoard.Holds :=
  run_represented PieceConfigReader.fallback createInitialBoard none _ (by decide +kernel)

end GameEngine

end KungFuChess
