import KungFuChess.Gateway.Allocator
import Mathlib.Data.Finset.Card

/-!
# The count of dynamic shards

The allocator under any calls: `release` may be called with any shard at any time, not
only once by whoever holds it, and the launcher may raise whenever it is asked. The count
then runs ahead of the recorded shards by the calls that are in progress and by the steps
that `leaks` names, which nothing makes good.
-/

set_option autoImplicit false

namespace KungFuChess

namespace LeasePhase

/-- The call of `acquire` or `release` has not ended. -/
def inProgress : LeasePhase → Bool
  | .spawning | .spawnFailed | .spawned _ | .retiring _ | .retired | .returning _ => true
  | .held _ | .ended => false

/-- The count includes the call, and the recorded shards do not show it. -/
def isUnsettled : LeasePhase → Bool
  | .spawning | .spawnFailed | .spawned _ | .retiring _ | .retired => true
  | .held _ | .returning _ | .ended => false

theorem inProgress_of_isUnsettled {phase : LeasePhase} (unsettled : phase.isUnsettled = true) :
    phase.inProgress = true := by
  cases phase with
  | held _ | returning _ | ended => cases unsettled
  | spawning | spawnFailed | spawned _ | retiring _ | retired => rfl

end LeasePhase

/-- The steps of a pool whose shards anybody may release and whose launcher may raise. -/
inductive PoolCall where
  | lease (input : PoolStep)
  /-- The first section of a `release` of any shard. -/
  | release (shard : GameServerShard)
  /-- The await of `spawn` ends in a `CancelledError`, which is no `Exception`. -/
  | cancelSpawn (lease : Nat)
  /-- The `release` of the launcher raises. -/
  | failStop (lease : Nat)
  deriving DecidableEq, Repr

namespace ShardPool

/-- The steps of `step`, and those that it leaves out. -/
def call (pool : ShardPool) : PoolCall → ShardPool
  | .lease input => pool.step input
  | .release shard =>
      let (isDynamic, allocator) := pool.allocator.release shard
      ⟨allocator, pool.leases ++ [if isDynamic then .retiring shard else .returning shard]⟩
  | .cancelSpawn lease =>
      match pool.leases[lease]? with
      | some .spawning => { pool with leases := pool.leases.set lease .ended }
      | _ => pool
  | .failStop lease =>
      match pool.leases[lease]? with
      | some (.retiring _) => { pool with leases := pool.leases.set lease .ended }
      | _ => pool

/-- No `acquire` and no `release` is in progress. -/
def Idle (pool : ShardPool) : Prop := ∀ phase ∈ pool.leases, phase.inProgress = false

instance (pool : ShardPool) : Decidable pool.Idle :=
  inferInstanceAs (Decidable (∀ phase ∈ pool.leases, phase.inProgress = false))

/-- The steps after which the count stays one too high: a cancelled spawn, a shard that the
launcher fails to stop, and a spawned shard that was recorded already. -/
def leaks (visit : ShardPool × PoolCall) : Bool :=
  match visit.2 with
  | .lease (.addDynamic lease) =>
      match visit.1.leases[lease]? with
      | some (.spawned shard) => shard ∈ visit.1.allocator.dynamicShards
      | _ => false
  | .cancelSpawn lease => visit.1.leases[lease]? = some .spawning
  | .failStop lease =>
      match visit.1.leases[lease]? with
      | some (.retiring _) => true
      | _ => false
  | _ => false

/-- How far the count is ahead of the recorded shards and the calls in progress. -/
def excess (pool : ShardPool) : Int :=
  pool.allocator.dynamicCount - pool.allocator.dynamicShards.card -
    pool.leases.countP LeasePhase.isUnsettled

/-! ## What a step changes -/

variable {pool : ShardPool}

/-- One call moves on: the count of the others stays. -/
theorem excess_set {lease : Nat} {old : LeasePhase} (found : pool.leases[lease]? = some old)
    (allocator : ShardPoolAllocator) (new : LeasePhase) :
    excess ⟨allocator, pool.leases.set lease new⟩ =
      pool.excess + (allocator.dynamicCount - pool.allocator.dynamicCount) -
        (allocator.dynamicShards.card - pool.allocator.dynamicShards.card) +
        (if old.isUnsettled then 1 else 0) - if new.isUnsettled then 1 else 0 := by
  obtain ⟨inside, here⟩ := List.getElem?_eq_some_iff.mp found
  have before : pool.leases.Perm (old :: pool.leases.eraseIdx lease) := by
    rw [← here]
    exact (List.getElem_cons_eraseIdx_perm inside).symm
  have after := List.set_perm_cons_eraseIdx inside new
  simp only [excess, before.countP_eq, after.countP_eq, List.countP_cons]
  split <;> split <;> omega

/-- A call begins. -/
theorem excess_append (allocator : ShardPoolAllocator) (new : LeasePhase) :
    excess ⟨allocator, pool.leases ++ [new]⟩ =
      pool.excess + (allocator.dynamicCount - pool.allocator.dynamicCount) -
        (allocator.dynamicShards.card - pool.allocator.dynamicShards.card) -
        if new.isUnsettled then 1 else 0 := by
  simp only [excess, List.countP_append, List.countP_singleton]
  split <;> omega

/-- The first section of `release` takes a shard off the record just if it has to be stopped. -/
theorem card_release (allocator : ShardPoolAllocator) (shard : GameServerShard) :
    ((allocator.release shard).2.dynamicShards.card : Int) =
      allocator.dynamicShards.card - if (allocator.release shard).1 then 1 else 0 := by
  simp only [ShardPoolAllocator.release, decide_eq_true_eq]
  split
  · next known =>
      have lowered := Finset.card_erase_add_one known
      omega
  · next unknown => rw [Finset.erase_eq_of_notMem unknown, sub_zero]

theorem unsettled_release (allocator : ShardPoolAllocator) (shard : GameServerShard) :
    LeasePhase.isUnsettled (if (allocator.release shard).1 then .retiring shard
      else .returning shard) = (allocator.release shard).1 := by
  cases (allocator.release shard).1 <;> rfl

/-- The steps of the pool leak only a shard that is recorded twice. -/
theorem excess_step (pool : ShardPool) (input : PoolStep) :
    (pool.step input).excess = pool.excess + if leaks (pool, .lease input) then 1 else 0 := by
  cases input with
  | acquire =>
      simp only [step, ShardPoolAllocator.acquire, leaks]
      cases pool.allocator.available.getLast? with
      | some shard =>
          rw [excess_append]
          simp [LeasePhase.isUnsettled]
      | none =>
          by_cases room : pool.allocator.hasLauncher ∧
              pool.allocator.dynamicCount < pool.allocator.maxDynamicShards
          · simp only [if_pos room]
            rw [excess_append]
            simp [LeasePhase.isUnsettled]
          · simp [if_neg room]
  | spawn lease shard =>
      simp only [step, leaks]
      split
      · next found =>
          rw [excess_set found]
          simp [LeasePhase.isUnsettled]
      · simp
  | failSpawn lease =>
      simp only [step, leaks]
      split
      · next found =>
          rw [excess_set found]
          simp [LeasePhase.isUnsettled]
      · simp
  | addDynamic lease =>
      cases found : pool.leases[lease]? with
      | none => simp [step, leaks, found]
      | some phase =>
          cases phase with
          | spawned shard =>
              simp only [step, leaks, found]
              rw [excess_set found]
              by_cases known : shard ∈ pool.allocator.dynamicShards
              · simp [LeasePhase.isUnsettled, ShardPoolAllocator.addDynamic, known]
              · simp [LeasePhase.isUnsettled, ShardPoolAllocator.addDynamic, known]
          | _ => simp [step, leaks, found]
  | dropFailed lease =>
      simp only [step, leaks]
      split
      · next found =>
          rw [excess_set found]
          simp [LeasePhase.isUnsettled, ShardPoolAllocator.lowerCount]
      · simp
  | release lease =>
      simp only [step, leaks]
      split
      · next shard found =>
          have same : (pool.allocator.release shard).2.dynamicCount =
            pool.allocator.dynamicCount := rfl
          rw [excess_set found, card_release, unsettled_release, same]
          simp [LeasePhase.isUnsettled]
      · simp
  | stop lease =>
      simp only [step, leaks]
      split
      · next found =>
          rw [excess_set found]
          simp [LeasePhase.isUnsettled]
      · simp
  | retire lease =>
      simp only [step, leaks]
      split
      · next found =>
          rw [excess_set found]
          simp [LeasePhase.isUnsettled, ShardPoolAllocator.lowerCount]
      · simp
  | giveBack lease =>
      simp only [step, leaks]
      split
      · next found =>
          rw [excess_set found]
          simp [LeasePhase.isUnsettled, ShardPoolAllocator.giveBack]
      · simp

theorem excess_call (pool : ShardPool) (input : PoolCall) :
    (pool.call input).excess = pool.excess + if leaks (pool, input) then 1 else 0 := by
  cases input with
  | lease input => exact pool.excess_step input
  | release shard =>
      have same : (pool.allocator.release shard).2.dynamicCount =
        pool.allocator.dynamicCount := rfl
      simp only [call, leaks]
      rw [excess_append, card_release, unsettled_release, same]
      simp
  | cancelSpawn lease =>
      simp only [call, leaks]
      split
      · next found =>
          rw [excess_set found]
          simp [LeasePhase.isUnsettled, found]
      · next other =>
          have elsewhere : pool.leases[lease]? ≠ some .spawning := other
          simp [elsewhere]
  | failStop lease =>
      cases found : pool.leases[lease]? with
      | none => simp [call, leaks, found]
      | some phase =>
          cases phase with
          | retiring shard =>
              simp only [call, leaks, found]
              rw [excess_set found]
              simp [LeasePhase.isUnsettled]
          | _ => simp [call, leaks, found]

/-! ## Runs -/

theorem Idle.excess_eq (idle : pool.Idle) :
    pool.excess = pool.allocator.dynamicCount - pool.allocator.dynamicShards.card := by
  have settled : pool.leases.countP LeasePhase.isUnsettled = 0 :=
    List.countP_eq_zero.mpr fun phase member unsettled => by
      have running := LeasePhase.inProgress_of_isUnsettled unsettled
      rw [idle phase member] at running
      cases running
  rw [excess, settled, Nat.cast_zero, sub_zero]

/-- The launcher and the limit stay. -/
theorem call_settings (pool : ShardPool) (input : PoolCall) :
    (pool.call input).allocator.hasLauncher = pool.allocator.hasLauncher ∧
      (pool.call input).allocator.maxDynamicShards = pool.allocator.maxDynamicShards := by
  cases input with
  | lease input => exact pool.step_settings input
  | release shard => exact ⟨rfl, rfl⟩
  | cancelSpawn lease | failStop lease =>
      simp only [call]
      split <;> exact ⟨rfl, rfl⟩

theorem acquire_spawns_iff (allocator : ShardPoolAllocator) :
    allocator.acquire.1 = .spawn ↔ allocator.available = [] ∧ allocator.hasLauncher = true ∧
      allocator.dynamicCount < allocator.maxDynamicShards := by
  rw [ShardPoolAllocator.acquire]
  split
  · next shard last =>
      refine iff_of_false Acquisition.noConfusion fun empty => ?_
      rw [empty.1] at last
      cases last
  · next none =>
      rw [and_iff_right (List.getLast?_eq_none_iff.mp none)]
      split
      · next room => exact iff_of_true rfl room
      · next full => exact iff_of_false Acquisition.noConfusion full

theorem new_settings {static : List GameServerShard} {hasLauncher : Bool}
    {maxDynamicShards : Nat} {allocator : ShardPoolAllocator}
    (made : ShardPoolAllocator.new static hasLauncher maxDynamicShards = .ok allocator) :
    allocator.hasLauncher = hasLauncher ∧ allocator.maxDynamicShards = maxDynamicShards ∧
      excess ⟨allocator, []⟩ = 0 := by
  rw [ShardPoolAllocator.new] at made
  split at made
  · cases made
  · cases made
    exact ⟨rfl, rfl, rfl⟩

/-- **What the count of the allocator says**: with no call in progress it is the number of
recorded shards just if no step of the run has leaked, and each that has takes one shard from
the limit for good. -/
theorem run_counts_iff {static : List GameServerShard} {hasLauncher : Bool}
    {maxDynamicShards : Nat} {allocator : ShardPoolAllocator}
    (made : ShardPoolAllocator.new static hasLauncher maxDynamicShards = .ok allocator)
    (calls : List PoolCall) {pool : ShardPool}
    (reached : pool = Trace.run call ⟨allocator, []⟩ calls) (idle : pool.Idle) :
    (pool.allocator.dynamicCount = pool.allocator.dynamicShards.card ↔
        ∀ visit ∈ Trace.visits call ⟨allocator, []⟩ calls, leaks visit = false) ∧
      (pool.allocator.acquire.1 = .spawn ↔
        pool.allocator.available = [] ∧ hasLauncher = true ∧
          pool.allocator.dynamicShards.card +
            (Trace.visits call ⟨allocator, []⟩ calls).countP leaks < maxDynamicShards) := by
  obtain ⟨launcher, limit, start⟩ := new_settings made
  have accounts := Trace.run_count leaks excess_call calls ⟨allocator, []⟩
  have settings : pool.allocator.hasLauncher = hasLauncher ∧
      pool.allocator.maxDynamicShards = maxDynamicShards := by
    rw [reached]
    refine Trace.run_invariant (motive := fun pool : ShardPool =>
      pool.allocator.hasLauncher = hasLauncher ∧
        pool.allocator.maxDynamicShards = maxDynamicShards) (fun pool input kept => ?_) calls
      ⟨launcher, limit⟩
    exact ⟨(pool.call_settings input).1.trans kept.1, (pool.call_settings input).2.trans kept.2⟩
  rw [← reached, idle.excess_eq, start, zero_add] at accounts
  constructor
  · rw [← sub_eq_zero, accounts, Nat.cast_eq_zero, List.countP_eq_zero]
    simp only [Bool.not_eq_true]
  · rw [acquire_spawns_iff, settings.1, settings.2]
    refine and_congr_right fun _ => and_congr_right fun _ => ?_
    omega

/-- One static shard, and a launcher that may start one more. -/
def oneMore : ShardPoolAllocator where
  available := [⟨"local", 9000⟩]
  hasLauncher := true
  maxDynamicShards := 1

/-- The static shard is taken, a spawn fails and a second one does not. -/
def failedSpawn : List PoolCall :=
  [.lease .acquire, .lease .acquire, .lease (.failSpawn 1), .lease (.dropFailed 1),
    .lease .acquire, .lease (.spawn 2 ⟨"launched", 5000⟩), .lease (.addDynamic 2)]

/-- A failed spawn costs nothing. -/
theorem run_counts_iff_failedSpawn :
    ((Trace.run call ⟨oneMore, []⟩ failedSpawn).allocator.dynamicCount =
          (Trace.run call ⟨oneMore, []⟩ failedSpawn).allocator.dynamicShards.card ↔
        ∀ visit ∈ Trace.visits call ⟨oneMore, []⟩ failedSpawn, leaks visit = false) ∧
      ((Trace.run call ⟨oneMore, []⟩ failedSpawn).allocator.acquire.1 = .spawn ↔
        (Trace.run call ⟨oneMore, []⟩ failedSpawn).allocator.available = [] ∧ true = true ∧
          (Trace.run call ⟨oneMore, []⟩ failedSpawn).allocator.dynamicShards.card +
            (Trace.visits call ⟨oneMore, []⟩ failedSpawn).countP leaks < 1) :=
  have made : ShardPoolAllocator.new [⟨"local", 9000⟩] true 1 = .ok oneMore := rfl
  run_counts_iff made failedSpawn rfl (by decide)

/-- The launcher fails to stop the only shard it may start. -/
def failedStop : List PoolCall :=
  [.lease .acquire, .lease .acquire, .lease (.spawn 1 ⟨"launched", 5000⟩),
    .lease (.addDynamic 1), .lease (.release 1), .failStop 1]

/-- Nothing is in progress and no shard is recorded, but the count is at the limit, and the
next player is told that all shards host a match. -/
theorem failedStop_counted :
    (Trace.run call ⟨oneMore, []⟩ failedStop).Idle ∧
      (Trace.run call ⟨oneMore, []⟩ failedStop).allocator.dynamicShards = ∅ ∧
      (Trace.run call ⟨oneMore, []⟩ failedStop).allocator.dynamicCount = 1 ∧
      (Trace.run call ⟨oneMore, []⟩ failedStop).allocator.acquire.1 =
        .unavailable "All game server shards are already hosting a match." := by
  decide

end ShardPool

end KungFuChess
