import KungFuChess.Library.Trace
import Mathlib.Data.Finset.Basic
import Mathlib.Data.List.Perm.Basic
import Mathlib.Algebra.Order.Ring.Int

/-!
# The shard pool

`ShardPoolAllocator` hands out the shards of a static pool and starts further ones
with the launcher. Its calls interleave at their awaits: `acquire` gives up the lock
while the launcher starts a shard, `release` while it stops one.

A lease is one call of `acquire` that was not refused, with the holder it returns to
and the one `release` of that holder. It moves through the phases of `LeasePhase`. A
call that is cancelled, or whose launcher fails to stop the shard, takes no further step.
-/

set_option autoImplicit false

namespace KungFuChess

structure GameServerShard where
  host : String
  port : Nat
  deriving DecidableEq, Repr

/-- The fields of the allocator. -/
structure ShardPoolAllocator where
  available : List GameServerShard
  hasLauncher : Bool := false
  maxDynamicShards : Nat := 50
  dynamicCount : Int := 0
  dynamicShards : Finset GameServerShard := ∅

/-- What the first section of `acquire` decides. -/
inductive Acquisition where
  | reserved (shard : GameServerShard)
  | spawn
  | unavailable (message : String)
  deriving DecidableEq, Repr

namespace ShardPoolAllocator

def new (shards : List GameServerShard) (hasLauncher : Bool) (maxDynamicShards : Nat) :
    Except String ShardPoolAllocator :=
  if shards = [] then .error "At least one game server shard is required."
  else
    .ok { available := shards, hasLauncher := hasLauncher, maxDynamicShards := maxDynamicShards }

/-- The section in which `acquire` chooses. -/
def acquire (allocator : ShardPoolAllocator) : Acquisition × ShardPoolAllocator :=
  match allocator.available.getLast? with
  | some shard => (.reserved shard, { allocator with available := allocator.available.dropLast })
  | none =>
      if allocator.hasLauncher ∧ allocator.dynamicCount < allocator.maxDynamicShards then
        (.spawn, { allocator with dynamicCount := allocator.dynamicCount + 1 })
      else (.unavailable "All game server shards are already hosting a match.", allocator)

/-- The section after a spawn that raised, and the one after a shard was stopped. -/
def lowerCount (allocator : ShardPoolAllocator) : ShardPoolAllocator :=
  { allocator with dynamicCount := allocator.dynamicCount - 1 }

/-- The section after a spawn. -/
def addDynamic (allocator : ShardPoolAllocator) (shard : GameServerShard) : ShardPoolAllocator :=
  { allocator with dynamicShards := insert shard allocator.dynamicShards }

/-- The first section of `release`: whether the launcher has to stop the shard. -/
def release (allocator : ShardPoolAllocator) (shard : GameServerShard) :
    Bool × ShardPoolAllocator :=
  (shard ∈ allocator.dynamicShards,
    { allocator with dynamicShards := allocator.dynamicShards.erase shard })

/-- The last section of the `release` of a shard of the static pool. -/
def giveBack (allocator : ShardPoolAllocator) (shard : GameServerShard) : ShardPoolAllocator :=
  { allocator with available := allocator.available ++ [shard] }

end ShardPoolAllocator

/-- How far a lease has come. -/
inductive LeasePhase where
  /-- `acquire` waits for the launcher. -/
  | spawning
  /-- The launcher has raised; `acquire` waits for the lock. -/
  | spawnFailed
  /-- The launcher has started a shard; `acquire` waits for the lock. -/
  | spawned (shard : GameServerShard)
  /-- `acquire` has returned. -/
  | held (shard : GameServerShard)
  /-- `release` waits for the launcher. -/
  | retiring (shard : GameServerShard)
  /-- The launcher has stopped the shard; `release` waits for the lock. -/
  | retired
  /-- `release` waits for the lock to give the shard back. -/
  | returning (shard : GameServerShard)
  | ended
  deriving DecidableEq, Repr

namespace LeasePhase

/-- The shard that a lease keeps from all others. -/
def shard? : LeasePhase → Option GameServerShard
  | .spawned shard | .held shard | .returning shard => some shard
  | .spawning | .spawnFailed | .retiring _ | .retired | .ended => none

/-- A dynamic shard that is live or being spawned. -/
def isLive (static : List GameServerShard) : LeasePhase → Bool
  | .spawning | .spawned _ | .retiring _ => true
  | .held shard => shard ∉ static
  | .spawnFailed | .retired | .returning _ | .ended => false

/-- The leases that the count of the allocator includes. -/
def isCounted (static : List GameServerShard) (phase : LeasePhase) : Bool :=
  phase.isLive static || phase = .spawnFailed || phase = .retired

theorem isCounted_held (static : List GameServerShard) (shard : GameServerShard) :
    isCounted static (.held shard) = true ↔ shard ∉ static := by
  simp [isCounted, isLive]

end LeasePhase

/-- An allocator and the leases of its callers. -/
structure ShardPool where
  allocator : ShardPoolAllocator
  leases : List LeasePhase := []

inductive PoolStep where
  | acquire
  | spawn (lease : Nat) (shard : GameServerShard)
  | failSpawn (lease : Nat)
  | addDynamic (lease : Nat)
  | dropFailed (lease : Nat)
  | release (lease : Nat)
  | stop (lease : Nat)
  | retire (lease : Nat)
  | giveBack (lease : Nat)
  deriving DecidableEq, Repr

namespace ShardPool

/-- The shards that are held, once for each holder. -/
def inUse (leases : List LeasePhase) : List GameServerShard :=
  leases.filterMap LeasePhase.shard?

/-- A step of a lease that is not in the phase the step starts from does not exist; it is
modelled by doing nothing. -/
def step (pool : ShardPool) : PoolStep → ShardPool
  | .acquire =>
      match pool.allocator.acquire with
      | (.reserved shard, allocator) => ⟨allocator, pool.leases ++ [.held shard]⟩
      | (.spawn, allocator) => ⟨allocator, pool.leases ++ [.spawning]⟩
      | (.unavailable _, _) => pool
  | .spawn lease shard =>
      match pool.leases[lease]? with
      | some .spawning => { pool with leases := pool.leases.set lease (.spawned shard) }
      | _ => pool
  | .failSpawn lease =>
      match pool.leases[lease]? with
      | some .spawning => { pool with leases := pool.leases.set lease .spawnFailed }
      | _ => pool
  | .addDynamic lease =>
      match pool.leases[lease]? with
      | some (.spawned shard) =>
          ⟨pool.allocator.addDynamic shard, pool.leases.set lease (.held shard)⟩
      | _ => pool
  | .dropFailed lease =>
      match pool.leases[lease]? with
      | some .spawnFailed => ⟨pool.allocator.lowerCount, pool.leases.set lease .ended⟩
      | _ => pool
  | .release lease =>
      match pool.leases[lease]? with
      | some (.held shard) =>
          let (isDynamic, allocator) := pool.allocator.release shard
          ⟨allocator, pool.leases.set lease (if isDynamic then .retiring shard
            else .returning shard)⟩
      | _ => pool
  | .stop lease =>
      match pool.leases[lease]? with
      | some (.retiring _) => { pool with leases := pool.leases.set lease .retired }
      | _ => pool
  | .retire lease =>
      match pool.leases[lease]? with
      | some .retired => ⟨pool.allocator.lowerCount, pool.leases.set lease .ended⟩
      | _ => pool
  | .giveBack lease =>
      match pool.leases[lease]? with
      | some (.returning shard) =>
          ⟨pool.allocator.giveBack shard, pool.leases.set lease .ended⟩
      | _ => pool

/-! ## The invariant -/

/-- A spawned shard is not of the static pool, and only those are given back. -/
def ProperPhase (static : List GameServerShard) : LeasePhase → Prop
  | .spawned shard => shard ∉ static
  | .returning shard => shard ∈ static
  | _ => True

/-- **What holds between the allocator and its leases.** Each shard of the static pool is in
one place, the dynamic ones that are held are known, and the count is that of the leases. -/
structure Sound (static : List GameServerShard) (allocator : ShardPoolAllocator)
    (leases : List LeasePhase) : Prop where
  once : (allocator.available ++ inUse leases).Nodup
  free : ∀ shard ∈ allocator.available, shard ∈ static
  placed : ∀ shard ∈ static, shard ∈ allocator.available ∨ shard ∈ inUse leases
  proper : ∀ phase ∈ leases, ProperPhase static phase
  known : ∀ shard, shard ∈ allocator.dynamicShards ↔ .held shard ∈ leases ∧ shard ∉ static
  counted : allocator.dynamicCount = leases.countP (LeasePhase.isCounted static)
  bounded : allocator.dynamicCount ≤ allocator.maxDynamicShards

namespace Sound

variable {static : List GameServerShard} {allocator next : ShardPoolAllocator}
  {leases rest : List LeasePhase} {shard : GameServerShard}

/-- The order of the leases does not matter. -/
theorem perm (sound : Sound static allocator leases) (same : leases.Perm rest) :
    Sound static allocator rest where
  once := (((same.filterMap _).append_left _).nodup_iff).mp sound.once
  free := sound.free
  placed := fun shard member =>
    (sound.placed shard member).imp_right (same.filterMap _).mem_iff.mp
  proper := fun phase member => sound.proper phase (same.mem_iff.mpr member)
  known := fun shard => (sound.known shard).trans (and_congr_left' same.mem_iff)
  counted := sound.counted.trans (congrArg _ (same.countP_eq _))
  bounded := sound.bounded

/-- **One lease moves on**: it is enough to look at it beside the others. -/
theorem move (sound : Sound static allocator leases) {lease : Nat} {old new : LeasePhase}
    (found : leases[lease]? = some old)
    (moved : ∀ rest, leases.Perm (old :: rest) → Sound static allocator (old :: rest) →
      Sound static next (new :: rest)) :
    Sound static next (leases.set lease new) := by
  obtain ⟨inside, here⟩ := List.getElem?_eq_some_iff.mp found
  have before : leases.Perm (old :: leases.eraseIdx lease) := by
    rw [← here]
    exact (List.getElem_cons_eraseIdx_perm inside).symm
  exact (moved _ before (sound.perm before)).perm (List.set_perm_cons_eraseIdx inside new).symm

theorem mem_inUse {phase : LeasePhase} (member : phase ∈ leases)
    (keeps : phase.shard? = some shard) : shard ∈ inUse leases :=
  List.mem_filterMap.mpr ⟨phase, member, keeps⟩

/-- A lease that neither gains nor loses a shard, and is counted as before. -/
theorem pass {old new : LeasePhase} (sound : Sound static allocator (old :: rest))
    (shard : new.shard? = old.shard?)
    (counts : new.isCounted static = old.isCounted static) (proper : ProperPhase static new)
    (held : ∀ shard, old ≠ .held shard ∧ new ≠ .held shard) :
    Sound static allocator (new :: rest) where
  once := by
    have once := sound.once
    rw [inUse, List.filterMap_cons] at once ⊢
    rwa [shard]
  free := sound.free
  placed := by
    have placed := sound.placed
    rw [inUse, List.filterMap_cons] at placed ⊢
    rwa [shard]
  proper := List.forall_mem_cons.mpr ⟨proper, (List.forall_mem_cons.mp sound.proper).2⟩
  known := fun shard => by
    rw [sound.known shard, List.mem_cons, List.mem_cons,
      or_iff_right (held shard).1.symm, or_iff_right (held shard).2.symm]
  counted := by rw [sound.counted, List.countP_cons, List.countP_cons, counts]
  bounded := sound.bounded

/-- A shard of the pool is taken. -/
theorem reserve (sound : Sound static allocator leases)
    (last : allocator.available.getLast? = some shard) :
    Sound static { allocator with available := allocator.available.dropLast }
      (.held shard :: leases) := by
  have split : allocator.available = allocator.available.dropLast ++ [shard] :=
    (List.dropLast_append_getLast? shard last).symm
  have static : shard ∈ static := sound.free shard (by rw [split]; exact List.mem_append_cons_self)
  have once := sound.once
  have placed := sound.placed
  rw [split] at once placed
  refine ⟨?_, ?_, ?_, ?_, ?_, ?_, sound.bounded⟩
  · rwa [List.append_assoc] at once
  · exact fun other member => sound.free other (List.mem_of_mem_dropLast member)
  · intro other member
    have here := placed other member
    rw [List.mem_append, List.mem_singleton, or_assoc] at here
    exact here.imp_right List.mem_cons.mpr
  · exact List.forall_mem_cons.mpr ⟨trivial, sound.proper⟩
  · intro other
    rw [sound.known other, List.mem_cons, LeasePhase.held.injEq]
    refine and_congr_left fun dynamic => (or_iff_right fun same => dynamic ?_).symm
    rwa [same]
  · rw [sound.counted, List.countP_cons_of_neg]
    rwa [LeasePhase.isCounted_held, not_not]

/-- A spawn is begun. -/
theorem begin (sound : Sound static allocator leases)
    (room : allocator.dynamicCount < allocator.maxDynamicShards) :
    Sound static { allocator with dynamicCount := allocator.dynamicCount + 1 }
      (.spawning :: leases) where
  once := sound.once
  free := sound.free
  placed := sound.placed
  proper := List.forall_mem_cons.mpr ⟨trivial, sound.proper⟩
  known := fun shard => by
    rw [sound.known shard, List.mem_cons, or_iff_right LeasePhase.noConfusion]
  counted := by
    rw [List.countP_cons_of_pos rfl, Nat.cast_add, ← sound.counted]
    rfl
  bounded := room

/-- The launcher answers with a shard that nobody holds. -/
theorem spawned (sound : Sound static allocator (.spawning :: rest)) (dynamic : shard ∉ static)
    (fresh : shard ∉ inUse rest) : Sound static allocator (.spawned shard :: rest) where
  once := by
    have apart : shard ∉ allocator.available ++ inUse rest := fun member =>
      (List.mem_append.mp member).elim (fun free => dynamic (sound.free shard free)) fresh
    exact List.nodup_middle.mpr (List.nodup_cons.mpr ⟨apart, sound.once⟩)
  free := sound.free
  placed := fun other member => (sound.placed other member).imp_right (List.mem_cons_of_mem _)
  proper := List.forall_mem_cons.mpr ⟨dynamic, (List.forall_mem_cons.mp sound.proper).2⟩
  known := fun other => by
    rw [sound.known other, List.mem_cons, List.mem_cons, or_iff_right LeasePhase.noConfusion,
      or_iff_right LeasePhase.noConfusion]
  counted := sound.counted
  bounded := sound.bounded

/-- A spawned shard becomes known. -/
theorem addDynamic (sound : Sound static allocator (.spawned shard :: rest)) :
    Sound static (allocator.addDynamic shard) (.held shard :: rest) := by
  have dynamic : shard ∉ static := (List.forall_mem_cons.mp sound.proper).1
  refine ⟨sound.once, sound.free, sound.placed, ?_, fun other => ?_, ?_, sound.bounded⟩
  · exact List.forall_mem_cons.mpr ⟨trivial, (List.forall_mem_cons.mp sound.proper).2⟩
  · have known := sound.known other
    rw [List.mem_cons, or_iff_right LeasePhase.noConfusion] at known
    rw [ShardPoolAllocator.addDynamic, Finset.mem_insert, known, List.mem_cons,
      LeasePhase.held.injEq, or_and_right]
    refine or_congr_left (and_iff_left_of_imp fun same => ?_).symm
    rwa [same]
  · have counted := sound.counted
    rw [List.countP_cons_of_pos rfl] at counted
    rw [List.countP_cons_of_pos ((LeasePhase.isCounted_held static shard).mpr dynamic)]
    exact counted

/-- A lease that was counted ends, and the count is lowered. -/
theorem lowerCount {old : LeasePhase} (sound : Sound static allocator (old :: rest))
    (done : old = .spawnFailed ∨ old = .retired) :
    Sound static allocator.lowerCount (.ended :: rest) := by
  have idle : old.shard? = none ∧ old.isCounted static = true ∧ ∀ shard, old ≠ .held shard := by
    rcases done with rfl | rfl <;> exact ⟨rfl, rfl, fun _ => LeasePhase.noConfusion⟩
  have counted := sound.counted
  rw [List.countP_cons_of_pos idle.2.1] at counted
  have once := sound.once
  have placed := sound.placed
  rw [inUse, List.filterMap_cons_none idle.1] at once placed
  refine ⟨once, sound.free, placed, ?_, fun shard => ?_, ?_, ?_⟩
  · exact List.forall_mem_cons.mpr ⟨trivial, (List.forall_mem_cons.mp sound.proper).2⟩
  · rw [ShardPoolAllocator.lowerCount, sound.known shard, List.mem_cons, List.mem_cons,
      or_iff_right (idle.2.2 shard).symm, or_iff_right LeasePhase.noConfusion]
  · have uncounted : ¬ LeasePhase.isCounted static .ended = true := Bool.false_ne_true
    rw [List.countP_cons_of_neg uncounted, ShardPoolAllocator.lowerCount, counted]
    simp
  · exact (sub_le_self _ zero_le_one).trans sound.bounded

/-- A shard is handed to `release`: the launcher has to stop it just in case it was spawned. -/
theorem release (sound : Sound static allocator (.held shard :: rest)) :
    Sound static (allocator.release shard).2
      ((if (allocator.release shard).1 then .retiring shard else .returning shard) :: rest) := by
  have others : ∀ other, .held other ∈ rest → other ≠ shard := by
    intro other member same
    have once := (List.nodup_append.mp sound.once).2.1
    exact (List.nodup_cons.mp once).1 (mem_inUse member (congrArg some same))
  have known := sound.known shard
  rw [List.mem_cons, and_iff_right (Or.inl rfl)] at known
  have remaining : ∀ phase : LeasePhase, (∀ other, phase ≠ .held other) → ∀ other,
      other ∈ allocator.dynamicShards.erase shard ↔
        .held other ∈ phase :: rest ∧ other ∉ static := by
    intro phase given other
    rw [Finset.mem_erase, sound.known other, List.mem_cons, List.mem_cons,
      or_iff_right (given other).symm, LeasePhase.held.injEq]
    constructor
    · rintro ⟨distinct, here, dynamic⟩
      exact ⟨here.resolve_left distinct, dynamic⟩
    · rintro ⟨here, dynamic⟩
      exact ⟨others other here, .inr here, dynamic⟩
  rw [ShardPoolAllocator.release]
  by_cases dynamic : shard ∈ static
  · have stays : shard ∉ allocator.dynamicShards := fun member => known.mp member dynamic
    rw [decide_eq_false stays, if_neg Bool.false_ne_true]
    refine ⟨sound.once, sound.free, sound.placed, ?_,
      remaining _ fun _ => LeasePhase.noConfusion, ?_, sound.bounded⟩
    · exact List.forall_mem_cons.mpr ⟨dynamic, (List.forall_mem_cons.mp sound.proper).2⟩
    · have uncounted : ¬ LeasePhase.isCounted static (.held shard) = true := by
        rwa [LeasePhase.isCounted_held, not_not]
      have counted := sound.counted
      rw [List.countP_cons_of_neg uncounted] at counted
      rw [List.countP_cons_of_neg Bool.false_ne_true]
      exact counted
  · rw [decide_eq_true (known.mpr dynamic), if_pos rfl]
    refine ⟨?_, sound.free, ?_, ?_, remaining _ fun _ => LeasePhase.noConfusion, ?_,
      sound.bounded⟩
    · exact (List.nodup_cons.mp (List.nodup_middle.mp sound.once)).2
    · intro other member
      refine (sound.placed other member).imp_right fun here => ?_
      exact (List.mem_cons.mp here).resolve_left fun same => dynamic (same ▸ member)
    · exact List.forall_mem_cons.mpr ⟨trivial, (List.forall_mem_cons.mp sound.proper).2⟩
    · have counted := sound.counted
      rw [List.countP_cons_of_pos ((LeasePhase.isCounted_held static shard).mpr dynamic)]
        at counted
      rw [List.countP_cons_of_pos rfl]
      exact counted

/-- A shard of the static pool is free again. -/
theorem giveBack (sound : Sound static allocator (.returning shard :: rest)) :
    Sound static (allocator.giveBack shard) (.ended :: rest) := by
  have static : shard ∈ static := (List.forall_mem_cons.mp sound.proper).1
  have appended : (allocator.giveBack shard).available = allocator.available ++ [shard] := rfl
  refine ⟨?_, ?_, fun other member => ?_, ?_, fun other => ?_, ?_, sound.bounded⟩
  · rw [appended, List.append_assoc]
    exact sound.once
  · rw [appended]
    exact fun other member => (List.mem_append.mp member).elim (sound.free other) fun same => by
      rwa [List.mem_singleton.mp same]
  · rw [appended, List.mem_append, List.mem_singleton, or_assoc]
    exact (sound.placed other member).imp_right List.mem_cons.mp
  · exact List.forall_mem_cons.mpr ⟨trivial, (List.forall_mem_cons.mp sound.proper).2⟩
  · rw [ShardPoolAllocator.giveBack, sound.known other, List.mem_cons, List.mem_cons,
      or_iff_right LeasePhase.noConfusion, or_iff_right LeasePhase.noConfusion]
  · have counted := sound.counted
    rw [List.countP_cons_of_neg Bool.false_ne_true] at counted
    rw [List.countP_cons_of_neg Bool.false_ne_true]
    exact counted

end Sound

/-! ## Runs -/

/-- What the launcher promises: a spawned shard is not of the static pool, and nobody holds
it. -/
def Fresh (static : List GameServerShard) (pool : ShardPool) : PoolStep → Prop
  | .spawn _ shard => shard ∉ static ∧ shard ∉ inUse pool.leases
  | _ => True

instance (static : List GameServerShard) (pool : ShardPool) :
    ∀ input, Decidable (pool.Fresh static input)
  | .spawn .. => inferInstanceAs (Decidable (_ ∧ _))
  | .acquire | .failSpawn _ | .addDynamic _ | .dropFailed _ | .release _ | .stop _ | .retire _
  | .giveBack _ => .isTrue trivial

variable {static : List GameServerShard} {pool : ShardPool}

theorem Sound.step (sound : Sound static pool.allocator pool.leases) (input : PoolStep)
    (fresh : pool.Fresh static input) :
    Sound static (pool.step input).allocator (pool.step input).leases := by
  cases input with
  | acquire =>
      simp only [ShardPool.step, ShardPoolAllocator.acquire]
      split
      · next shard allocator acquired =>
          split at acquired
          · next last =>
              cases acquired
              exact (sound.reserve last).perm (List.perm_append_singleton _ _).symm
          · split at acquired <;> cases acquired
      · next allocator acquired =>
          split at acquired
          · cases acquired
          · split at acquired
            · next room =>
                cases acquired
                exact (sound.begin room.2).perm (List.perm_append_singleton _ _).symm
            · cases acquired
      · exact sound
  | spawn lease shard =>
      simp only [ShardPool.step]
      split
      · next found =>
          refine sound.move found fun rest same sound => sound.spawned fresh.1 fun member => ?_
          exact fresh.2 ((same.filterMap _).mem_iff.mpr member)
      · exact sound
  | failSpawn lease =>
      simp only [ShardPool.step]
      split
      · next found =>
          exact sound.move found fun rest _ sound =>
            sound.pass rfl rfl trivial fun _ => ⟨LeasePhase.noConfusion, LeasePhase.noConfusion⟩
      · exact sound
  | addDynamic lease =>
      simp only [ShardPool.step]
      split
      · next found => exact sound.move found fun rest _ sound => sound.addDynamic
      · exact sound
  | dropFailed lease =>
      simp only [ShardPool.step]
      split
      · next found => exact sound.move found fun rest _ sound => sound.lowerCount (.inl rfl)
      · exact sound
  | release lease =>
      simp only [ShardPool.step]
      split
      · next found => exact sound.move found fun rest _ sound => sound.release
      · exact sound
  | stop lease =>
      simp only [ShardPool.step]
      split
      · next found =>
          exact sound.move found fun rest _ sound =>
            sound.pass rfl rfl trivial fun _ => ⟨LeasePhase.noConfusion, LeasePhase.noConfusion⟩
      · exact sound
  | retire lease =>
      simp only [ShardPool.step]
      split
      · next found => exact sound.move found fun rest _ sound => sound.lowerCount (.inr rfl)
      · exact sound
  | giveBack lease =>
      simp only [ShardPool.step]
      split
      · next found => exact sound.move found fun rest _ sound => sound.giveBack
      · exact sound

/-- No step changes how the pool was set up. -/
theorem step_settings (pool : ShardPool) (input : PoolStep) :
    (pool.step input).allocator.hasLauncher = pool.allocator.hasLauncher ∧
      (pool.step input).allocator.maxDynamicShards = pool.allocator.maxDynamicShards := by
  cases input with
  | acquire =>
      simp only [step, ShardPoolAllocator.acquire]
      cases pool.allocator.available.getLast? with
      | some shard => exact ⟨rfl, rfl⟩
      | none =>
          by_cases room : pool.allocator.hasLauncher ∧
              pool.allocator.dynamicCount < pool.allocator.maxDynamicShards
          · simp only [if_pos room, and_self]
          · simp only [if_neg room, and_self]
  | _ =>
      simp only [step]
      split <;> exact ⟨rfl, rfl⟩

/-- A lease keeps a shard. -/
def Holds (pool : ShardPool) (lease : Nat) (shard : GameServerShard) : Prop :=
  ∃ phase, pool.leases[lease]? = some phase ∧ phase.shard? = some shard

theorem exists_holds {shard : GameServerShard} :
    (∃ lease, pool.Holds lease shard) ↔ shard ∈ inUse pool.leases := by
  rw [inUse, List.mem_filterMap]
  constructor
  · rintro ⟨lease, phase, found, keeps⟩
    exact ⟨phase, List.mem_of_getElem? found, keeps⟩
  · rintro ⟨phase, member, keeps⟩
    obtain ⟨lease, found⟩ := List.mem_iff_getElem?.mp member
    exact ⟨lease, phase, found, keeps⟩

/-- A shard that is listed once has one holder. -/
theorem Holds.unique (once : (inUse pool.leases).Nodup) {first second : Nat}
    {shard : GameServerShard} (left : pool.Holds first shard) (right : pool.Holds second shard) :
    first = second := by
  obtain ⟨leftPhase, leftFound, leftKeeps⟩ := left
  obtain ⟨rightPhase, rightFound, rightKeeps⟩ := right
  obtain ⟨leftInside, rfl⟩ := List.getElem?_eq_some_iff.mp leftFound
  obtain ⟨rightInside, rfl⟩ := List.getElem?_eq_some_iff.mp rightFound
  have apart := List.pairwise_iff_getElem.mp (List.pairwise_filterMap.mp once)
  rcases lt_trichotomy first second with before | same | after
  · exact absurd rfl (apart _ _ leftInside rightInside before _ leftKeeps _ rightKeeps)
  · exact same
  · exact absurd rfl (apart _ _ rightInside leftInside after _ rightKeeps _ leftKeeps)

/-- **Exclusive shards, bounded capacity**: no shard has two holders, a shard of the static
pool is free just when nobody holds it, and no more dynamic shards live or start than the
limit allows. -/
theorem run_exclusive {static : List GameServerShard} {hasLauncher : Bool}
    {maxDynamicShards : Nat} {allocator : ShardPoolAllocator}
    (made : ShardPoolAllocator.new static hasLauncher maxDynamicShards = .ok allocator)
    (distinct : static.Nodup) (steps : List PoolStep)
    (fresh : ∀ visit ∈ Trace.visits step ⟨allocator, []⟩ steps, visit.1.Fresh static visit.2)
    {pool : ShardPool} (reached : pool = Trace.run step ⟨allocator, []⟩ steps) :
    (∀ first second shard, pool.Holds first shard → pool.Holds second shard → first = second) ∧
      (∀ shard ∈ static, shard ∈ pool.allocator.available ↔ ¬ ∃ lease, pool.Holds lease shard) ∧
      pool.leases.countP (LeasePhase.isLive static) ≤ maxDynamicShards := by
  rw [ShardPoolAllocator.new] at made
  split at made
  · cases made
  cases made
  have start : Sound static
      { available := static, hasLauncher := hasLauncher, maxDynamicShards := maxDynamicShards }
      [] := by
    refine ⟨?_, fun _ member => member, fun _ member => .inl member, ?_, ?_, rfl,
      Int.natCast_nonneg _⟩
    · rwa [inUse, List.filterMap_nil, List.append_nil]
    · exact fun _ impossible => absurd impossible List.not_mem_nil
    · exact fun _ => iff_of_false (Finset.notMem_empty _) fun held => List.not_mem_nil held.1
  have sound : Sound static pool.allocator pool.leases := by
    rw [reached]
    exact Trace.run_rule (motive := fun pool : ShardPool => Sound static pool.allocator pool.leases)
      (fun pool input => pool.Fresh static input)
      (fun _ input fresh sound => sound.step input fresh) steps _ fresh start
  have limit : pool.allocator.maxDynamicShards = maxDynamicShards := by
    rw [reached]
    exact Trace.run_invariant
      (motive := fun pool : ShardPool => pool.allocator.maxDynamicShards = maxDynamicShards)
      (fun pool input same => (pool.step_settings input).2.trans same) steps rfl
  have once := List.nodup_append.mp sound.once
  refine ⟨fun first second shard => Holds.unique once.2.1, fun shard member => ?_, ?_⟩
  · rw [exists_holds]
    exact ⟨fun free held => once.2.2 shard free shard held rfl,
      (sound.placed shard member).resolve_right⟩
  · have live : pool.leases.countP (LeasePhase.isLive static) ≤
        pool.leases.countP (LeasePhase.isCounted static) :=
      List.countP_mono_left fun phase _ live => by
        rw [LeasePhase.isCounted, live, Bool.true_or, Bool.true_or]
    have counted := sound.bounded
    rw [sound.counted, limit, Nat.cast_le] at counted
    exact live.trans counted

/-- Two static shards and a launcher that may start one more. -/
def smallPool : ShardPoolAllocator where
  available := [⟨"local", 9000⟩, ⟨"local", 9001⟩]
  hasLauncher := true
  maxDynamicShards := 1

/-- Three players acquire, the third a spawned shard, and two of them release. -/
def busyPool : List PoolStep :=
  [.acquire, .acquire, .acquire, .acquire, .release 0, .spawn 2 ⟨"launched", 5000⟩,
    .addDynamic 2, .giveBack 0, .release 2, .acquire, .stop 2]

theorem run_exclusive_busyPool :
    (∀ first second shard, (Trace.run step ⟨smallPool, []⟩ busyPool).Holds first shard →
        (Trace.run step ⟨smallPool, []⟩ busyPool).Holds second shard → first = second) ∧
      (∀ shard ∈ smallPool.available,
        shard ∈ (Trace.run step ⟨smallPool, []⟩ busyPool).allocator.available ↔
          ¬ ∃ lease, (Trace.run step ⟨smallPool, []⟩ busyPool).Holds lease shard) ∧
      (Trace.run step ⟨smallPool, []⟩ busyPool).leases.countP
        (LeasePhase.isLive smallPool.available) ≤ 1 :=
  run_exclusive rfl (by decide) busyPool (by decide) rfl

end ShardPool

end KungFuChess
