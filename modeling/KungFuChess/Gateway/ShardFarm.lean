import KungFuChess.Gateway.Allocator
import KungFuChess.Gateway.ShardLauncher

/-!
# The allocator and the launcher together

A lease that needs a dynamic shard sends the launcher a request and waits for the port.
Requests and answers travel on connections of their own: the caller may have given up
before the launcher gets to its request, or before the answer comes, and the launcher
may stop a shard long after the caller has stopped waiting.

Every process that runs is the business of exactly one party: a call of `spawn` that has
not handed it over, a lease, or a request to stop it. The launcher never gives two
holders one shard, which is all that the allocator asks of it.
-/

set_option autoImplicit false

namespace KungFuChess

/-- A call of `spawn` in the launcher, for a lease. -/
structure SpawnCall where
  lease : Nat
  process : Nat
  port : Nat
  phase : SpawnPhase := .starting
  deriving DecidableEq, Repr

namespace SpawnCall

/-- The port that a call has not handed over. -/
def port? (call : SpawnCall) : Option Nat :=
  match call.phase with
  | .starting | .answered => some call.port
  | .failed | .raised | .delivered => none

end SpawnCall

structure ShardFarm where
  pool : ShardPool
  launcher : ShardLauncher := {}
  calls : List SpawnCall := []
  /-- The leases whose requests for a shard the launcher has not handled. -/
  requests : List Nat := []
  /-- The ports that the launcher has been asked to stop. -/
  releases : List Nat := []

inductive FarmStep where
  /-- A section of the allocator, but for those that end a call of the launcher. -/
  | client (input : PoolStep)
  /-- The launcher handles a request for a shard, and picks a port. -/
  | launch (lease port : Nat)
  | poll (call : Nat) (expired listening : Bool)
  /-- The answer to a request reaches the lease. -/
  | deliver (call : Nat)
  /-- The launcher handles a request to stop a shard. -/
  | stop (port : Nat)
  deriving DecidableEq, Repr

namespace ShardFarm

/-- The requests for a shard after a section of the allocator. -/
def requestsAfter (farm : ShardFarm) : PoolStep → List Nat
  | .acquire =>
      if farm.pool.allocator.acquire.1 = .spawn then farm.requests ++ [farm.pool.leases.length]
      else farm.requests
  | _ => farm.requests

/-- The ports to be stopped after a section of the allocator. -/
def releasesAfter (farm : ShardFarm) : PoolStep → List Nat
  | .release lease =>
      match farm.pool.leases[lease]? with
      | some (.held shard) =>
          if (farm.pool.allocator.release shard).1 then farm.releases ++ [shard.port]
          else farm.releases
      | _ => farm.releases
  | _ => farm.releases

/-- `host` is that of the launcher. A lease that has given up does not see its answer. -/
def step (host : String) (farm : ShardFarm) : FarmStep → ShardFarm
  | .client (.spawn ..) => farm
  | .client input =>
      { farm with
        pool := farm.pool.step input
        requests := farm.requestsAfter input
        releases := farm.releasesAfter input }
  | .launch lease port =>
      if lease ∈ farm.requests then
        { farm with
          launcher := farm.launcher.launch port
          calls := farm.calls ++
            [{ lease := lease, process := farm.launcher.started.length, port := port }]
          requests := farm.requests.erase lease }
      else farm
  | .poll call expired listening =>
      match farm.calls[call]? with
      | some ⟨lease, process, port, .starting⟩ =>
          let (phase, launcher) := farm.launcher.poll process port expired listening
          { farm with
            launcher := launcher
            calls := farm.calls.set call ⟨lease, process, port, phase⟩ }
      | _ => farm
  | .deliver call =>
      match farm.calls[call]? with
      | some ⟨lease, process, port, .answered⟩ =>
          if farm.pool.leases[lease]? = some .spawning then
            { farm with
              pool := farm.pool.step (.spawn lease ⟨host, port⟩)
              calls := farm.calls.set call ⟨lease, process, port, .delivered⟩ }
          else farm
      | some ⟨lease, _, _, .failed⟩ | some ⟨lease, _, _, .raised⟩ =>
          { farm with pool := farm.pool.step (.failSpawn lease) }
      | _ => farm
  | .stop port =>
      if port ∈ farm.releases then
        { farm with
          launcher := farm.launcher.release port
          releases := farm.releases.erase port }
      else farm

/-! ## Who is answerable for a port -/

/-- The port of a dynamic shard that a lease keeps. -/
def leasePort? (static : List GameServerShard) : LeasePhase → Option Nat
  | .spawned shard => some shard.port
  | .held shard => if shard ∈ static then none else some shard.port
  | .spawning | .spawnFailed | .retiring _ | .retired | .returning _ | .ended => none

/-- The ports of the calls, the leases and the requests to stop, once for each. -/
def claimed (static : List GameServerShard) (farm : ShardFarm) : List Nat :=
  farm.calls.filterMap SpawnCall.port? ++ farm.pool.leases.filterMap (leasePort? static) ++
    farm.releases

/-- What holds between the allocator, the launcher and the processes. -/
structure Tracked (host : String) (static : List GameServerShard) (farm : ShardFarm) : Prop where
  sound : ShardPool.Sound static farm.pool.allocator farm.pool.leases
  exact_ : farm.launcher.Exact
  /-- Each port of the table has one party that is answerable for it. -/
  claimed : farm.launcher.processes.keys.Perm (farm.claimed static)
  own : ∀ call ∈ farm.calls, call.phase = .starting →
    farm.launcher.processes.lookup call.port = some call.process
  dynamic : ∀ call ∈ farm.calls, ∀ port ∈ call.port?, (⟨host, port⟩ : GameServerShard) ∉ static
  quiet : ∀ call ∈ farm.calls, call.phase ≠ .raised

/-- Where one element of a list is exchanged, what it contributes is exchanged. -/
theorem count_filterMap_set {α β : Type*} [DecidableEq β] (select : α → Option β) {list : List α}
    {place : Nat} {old : α} (found : list[place]? = some old) (new : α) (value : β) :
    ((list.set place new).filterMap select).count value + (select old).toList.count value =
      (list.filterMap select).count value + (select new).toList.count value := by
  obtain ⟨inside, here⟩ := List.getElem?_eq_some_iff.mp found
  have before : list.Perm (old :: list.eraseIdx place) := by
    rw [← here]
    exact (List.getElem_cons_eraseIdx_perm inside).symm
  have after : (list.set place new).Perm (new :: list.eraseIdx place) :=
    List.set_perm_cons_eraseIdx inside new
  have contributes : ∀ first : α, ((first :: list.eraseIdx place).filterMap select).count value =
      (select first).toList.count value + ((list.eraseIdx place).filterMap select).count value := by
    intro first
    rw [List.filterMap_cons]
    cases select first with
    | none => rw [Option.toList_none, List.count_nil, Nat.zero_add]
    | some chosen =>
        rw [Option.toList_some, List.count_cons, List.count_singleton, Nat.add_comm]
  rw [(before.filterMap select).count_eq, (after.filterMap select).count_eq, contributes,
    contributes]
  omega

variable {host : String} {static : List GameServerShard} {farm : ShardFarm}

theorem count_claimed (port : Nat) : (farm.claimed static).count port =
    (farm.calls.filterMap SpawnCall.port?).count port +
      (farm.pool.leases.filterMap (leasePort? static)).count port + farm.releases.count port := by
  rw [ShardFarm.claimed, List.count_append, List.count_append]

/-! ## The allocator's sections -/

/-- **The ports of the leases and of the requests to stop change hands** in a section of the
allocator: none is gained, and none lost. -/
theorem count_client (sound : ShardPool.Sound static farm.pool.allocator farm.pool.leases)
    {input : PoolStep} (other : ∀ lease shard, input ≠ .spawn lease shard) (port : Nat) :
    ((farm.pool.step input).leases.filterMap (leasePort? static)).count port +
        (farm.releasesAfter input).count port =
      (farm.pool.leases.filterMap (leasePort? static)).count port + farm.releases.count port := by
  cases input with
  | spawn lease shard => exact absurd rfl (other lease shard)
  | acquire =>
      simp only [ShardPool.step, ShardPoolAllocator.acquire, releasesAfter]
      split
      · next shard allocator acquired =>
          split at acquired
          · next last =>
              cases acquired
              have pooled : shard ∈ static := sound.free shard (List.mem_of_getLast? last)
              have unclaimed : leasePort? static (.held shard) = none := if_pos pooled
              rw [List.filterMap_append, List.filterMap_cons_none unclaimed, List.filterMap_nil,
                List.append_nil]
          · split at acquired <;> cases acquired
      · rw [List.filterMap_append, List.filterMap_cons_none rfl, List.filterMap_nil,
          List.append_nil]
      · rfl
  | failSpawn lease | dropFailed lease | stop lease | retire lease | giveBack lease =>
      simp only [ShardPool.step, releasesAfter]
      split
      · next found =>
          exact congrArg (· + farm.releases.count port)
            (count_filterMap_set (leasePort? static) found _ port)
      · rfl
  | addDynamic lease =>
      simp only [ShardPool.step, releasesAfter]
      split
      · next shard found =>
          have spawned : shard ∉ static :=
            sound.proper (.spawned shard) (List.mem_of_getElem? found)
          have kept := count_filterMap_set (leasePort? static) found (.held shard) port
          rw [leasePort?, leasePort?, if_neg spawned, Nat.add_right_cancel_iff] at kept
          rw [kept]
      · rfl
  | release lease =>
      simp only [ShardPool.step, releasesAfter, ShardPoolAllocator.release]
      cases found : farm.pool.leases[lease]? with
      | none => rfl
      | some phase =>
          cases phase with
          | held shard =>
              have known : shard ∈ farm.pool.allocator.dynamicShards ↔ shard ∉ static :=
                (sound.known shard).trans
                  (and_iff_right (List.mem_of_getElem? found))
              by_cases pooled : shard ∈ static
              · have kept := count_filterMap_set (leasePort? static) found (.returning shard) port
                rw [leasePort?, leasePort?, if_pos pooled, Nat.add_right_cancel_iff] at kept
                simp only [known, pooled, not_true_eq_false, decide_false, Bool.false_eq_true,
                  if_false, kept]
              · have lost := count_filterMap_set (leasePort? static) found (.retiring shard) port
                rw [leasePort?, leasePort?, if_neg pooled, Option.toList_none, List.count_nil,
                  Option.toList_some] at lost
                simp only [known, pooled, not_false_eq_true, decide_true, if_true,
                  List.count_append]
                omega
          | spawning | spawnFailed | spawned | retiring | retired | returning | ended => rfl

/-- The allocator may end a lease as it likes: the processes stay tracked. -/
theorem Tracked.client (tracked : farm.Tracked host static) {input : PoolStep}
    (other : ∀ lease shard, input ≠ .spawn lease shard) :
    (farm.step host (.client input)).Tracked host static := by
  have same : farm.step host (.client input) =
      { farm with
        pool := farm.pool.step input
        requests := farm.requestsAfter input
        releases := farm.releasesAfter input } := by
    cases input with
    | spawn lease shard => exact absurd rfl (other lease shard)
    | acquire | failSpawn | addDynamic | dropFailed | release | stop | retire | giveBack => rfl
  have fresh : farm.pool.Fresh static input := by
    cases input with
    | spawn lease shard => exact absurd rfl (other lease shard)
    | acquire | failSpawn | addDynamic | dropFailed | release | stop | retire | giveBack =>
        trivial
  rw [same]
  refine { tracked with
    sound := tracked.sound.step input fresh
    claimed := tracked.claimed.trans (List.perm_iff_count.mpr fun port => ?_) }
  have moved := count_client tracked.sound other port
  rw [count_claimed, count_claimed, Nat.add_assoc, Nat.add_assoc, moved]

/-! ## The launcher's sections -/

namespace Tracked

variable (tracked : farm.Tracked host static)

include tracked

theorem nodup_claimed : (farm.claimed static).Nodup :=
  tracked.claimed.nodup_iff.mp (AList.keys_nodup _)

/-- A port that a party is answerable for is in the table. -/
theorem stored {port : Nat} (claims : port ∈ farm.claimed static) :
    port ∈ farm.launcher.processes :=
  AList.mem_keys.mpr (tracked.claimed.mem_iff.mpr claims)

theorem launch {lease port : Nat} (free : port ∉ farm.launcher.processes)
    (apart : (⟨host, port⟩ : GameServerShard) ∉ static) :
    (farm.step host (.launch lease port)).Tracked host static := by
  rw [step]
  split
  · refine { tracked with
      exact_ := tracked.exact_.launch free
      claimed := ?_
      own := fun call member starting => ?_
      dynamic := fun call member => ?_
      quiet := fun call member => ?_ }
    · refine List.perm_iff_count.mpr fun other => ?_
      have before := tracked.claimed.count_eq other
      rw [count_claimed] at before ⊢
      rw [ShardLauncher.launch, AList.keys_insert,
        List.erase_of_not_mem (AList.mem_keys.not.mp free), List.count_cons, before,
        List.filterMap_append, List.count_append,
        List.filterMap_cons_some (f := SpawnCall.port?) rfl, List.filterMap_nil,
        List.count_singleton]
      dsimp only
      omega
    · rcases List.mem_append.mp member with old | new
      · have here := tracked.own call old starting
        have other : call.port ≠ port := by
          rintro rfl
          exact free (AList.lookup_isSome.mp (Option.isSome_of_eq_some here))
        exact (AList.lookup_insert_ne other).trans here
      · rw [List.mem_singleton.mp new]
        exact AList.lookup_insert _
    · rcases List.mem_append.mp member with old | new
      · exact tracked.dynamic call old
      · rw [List.mem_singleton.mp new]
        exact fun _ same => Option.some.inj same ▸ apart
    · rcases List.mem_append.mp member with old | new
      · exact tracked.quiet call old
      · rw [List.mem_singleton.mp new]
        exact SpawnPhase.noConfusion
  · exact tracked

/-- A port goes off the table, and its party with it: the other calls keep their processes. -/
theorem own_erase {port : Nat} {after : ShardFarm}
    (processes : after.launcher.processes = farm.launcher.processes.erase port)
    (claimed : after.launcher.processes.keys.Perm (after.claimed static))
    (calls : ∀ call ∈ after.calls, call.phase = .starting → call ∈ farm.calls) :
    ∀ call ∈ after.calls, call.phase = .starting →
      after.launcher.processes.lookup call.port = some call.process := by
  intro call member starting
  have claims : call.port ∈ after.claimed static :=
    List.mem_append_left _ (List.mem_append_left _ (List.mem_filterMap.mpr
      ⟨call, member, by rw [SpawnCall.port?, starting]⟩))
  have kept := claimed.mem_iff.mpr claims
  rw [processes, AList.keys_erase, farm.launcher.processes.keys_nodup.mem_erase_iff] at kept
  rw [processes, AList.lookup_erase_ne kept.1]
  exact tracked.own call (calls call member starting) starting

theorem stop (port : Nat) : (farm.step host (.stop port)).Tracked host static := by
  rw [step]
  split
  · next asked =>
      have claimed : (farm.launcher.release port).processes.keys.Perm
          (ShardFarm.claimed static { farm with
            launcher := farm.launcher.release port
            releases := farm.releases.erase port }) := by
        refine List.perm_iff_count.mpr fun other => ?_
        have before := tracked.claimed.count_eq other
        rw [count_claimed] at before ⊢
        rw [ShardLauncher.keys_release, List.count_erase, before, List.count_erase]
        split
        · next same =>
            have positive : 0 < farm.releases.count port := List.count_pos_iff.mpr asked
            rw [beq_iff_eq] at same
            subst same
            dsimp only
            omega
        · rfl
      have stored : port ∈ farm.launcher.processes :=
        tracked.stored (List.mem_append_right _ asked)
      obtain ⟨process, found⟩ := Option.isSome_iff_exists.mp (AList.lookup_isSome.mpr stored)
      exact { tracked with
        exact_ := tracked.exact_.release port
        claimed := claimed
        own := tracked.own_erase (by rw [ShardLauncher.release, found]) claimed
          fun _ member _ => member }
  · exact tracked

/-- A call that did not see its process listen in time gives up its port. -/
theorem expire {call lease process port : Nat}
    (here : farm.calls[call]? = some ⟨lease, process, port, .starting⟩) :
    { farm with
      launcher :=
        { farm.launcher.terminate process with
          processes := farm.launcher.processes.erase port }
      calls := farm.calls.set call ⟨lease, process, port, .failed⟩ : ShardFarm }.Tracked
        host static := by
  have found : farm.launcher.processes.lookup port = some process :=
    tracked.own _ (List.mem_of_getElem? here) rfl
  have members : ∀ known ∈ farm.calls.set call ⟨lease, process, port, .failed⟩,
      known ∈ farm.calls ∨ known = ⟨lease, process, port, .failed⟩ :=
    fun known => List.mem_or_eq_of_mem_set
  have claimed : (farm.launcher.processes.erase port).keys.Perm
      (ShardFarm.claimed static { farm with
        calls := farm.calls.set call ⟨lease, process, port, .failed⟩ }) := by
    refine List.perm_iff_count.mpr fun other => ?_
    have before := tracked.claimed.count_eq other
    have given := count_filterMap_set SpawnCall.port? here ⟨lease, process, port, .failed⟩ other
    have had : SpawnCall.port? ⟨lease, process, port, .starting⟩ = some port := rfl
    have has : SpawnCall.port? ⟨lease, process, port, .failed⟩ = none := rfl
    rw [had, has, Option.toList_some, Option.toList_none, List.count_nil,
      List.count_singleton] at given
    rw [count_claimed] at before ⊢
    rw [AList.keys_erase, List.count_erase, before]
    dsimp only
    omega
  refine { tracked with
    exact_ := tracked.exact_.stop found
    claimed := claimed
    own := tracked.own_erase rfl claimed fun known member starting => ?_
    dynamic := fun known member => ?_
    quiet := fun known member => ?_ }
  · refine (members known member).resolve_right ?_
    rintro rfl
    cases starting
  · rcases members known member with old | rfl
    · exact tracked.dynamic known old
    · exact fun _ none => absurd none.symm (Option.some_ne_none _)
  · rcases members known member with old | rfl
    · exact tracked.quiet known old
    · exact SpawnPhase.noConfusion

/-- A call goes on, and keeps its port. -/
theorem wait {call lease process port : Nat} {phase : SpawnPhase}
    (here : farm.calls[call]? = some ⟨lease, process, port, .starting⟩)
    (keeps : SpawnCall.port? ⟨lease, process, port, phase⟩ = some port) :
    { farm with calls := farm.calls.set call ⟨lease, process, port, phase⟩ : ShardFarm }.Tracked
      host static := by
  have member := List.mem_of_getElem? here
  have members : ∀ known ∈ farm.calls.set call ⟨lease, process, port, phase⟩,
      known ∈ farm.calls ∨ known = ⟨lease, process, port, phase⟩ :=
    fun known => List.mem_or_eq_of_mem_set
  refine { tracked with
    claimed := tracked.claimed.trans (List.perm_iff_count.mpr fun other => ?_)
    own := fun known here' starting => ?_
    dynamic := fun known here' => ?_
    quiet := fun known here' => ?_ }
  · have kept := count_filterMap_set SpawnCall.port? here ⟨lease, process, port, phase⟩ other
    rw [keeps, SpawnCall.port?, Nat.add_right_cancel_iff] at kept
    rw [count_claimed, count_claimed, kept]
  · rcases members known here' with old | rfl
    · exact tracked.own known old starting
    · have own := tracked.own _ member rfl
      exact own
  · rcases members known here' with old | rfl
    · exact tracked.dynamic known old
    · rw [keeps]
      exact tracked.dynamic _ member
  · rcases members known here' with old | rfl
    · exact tracked.quiet known old
    · rintro rfl
      cases keeps

theorem poll (call : Nat) (expired listening : Bool) :
    (farm.step host (.poll call expired listening)).Tracked host static := by
  rw [step]
  split
  · next lease process port here =>
      have found : farm.launcher.processes.lookup port = some process :=
        tracked.own _ (List.mem_of_getElem? here) rfl
      have stored : port ∈ (farm.launcher.terminate process).processes :=
        AList.lookup_isSome.mp (Option.isSome_of_eq_some found)
      simp only [ShardLauncher.poll, if_pos stored]
      cases expired with
      | true => exact tracked.expire here
      | false =>
          cases listening with
          | true => exact tracked.wait here rfl
          | false => exact tracked.wait here rfl
  · exact tracked

/-- The launcher keeps its promise to the allocator. -/
theorem fresh {call lease process port : Nat}
    (here : farm.calls[call]? = some ⟨lease, process, port, .answered⟩) :
    farm.pool.Fresh static (.spawn lease ⟨host, port⟩) := by
  have member := List.mem_of_getElem? here
  have dynamic : (⟨host, port⟩ : GameServerShard) ∉ static := tracked.dynamic _ member port rfl
  have waits : port ∈ farm.calls.filterMap SpawnCall.port? :=
    List.mem_filterMap.mpr ⟨_, member, rfl⟩
  refine ⟨dynamic, fun inUse => ?_⟩
  obtain ⟨phase, lease', keeps⟩ := List.mem_filterMap.mp inUse
  -- A lease that keeps the shard would be answerable for the port, too.
  have kept : leasePort? static phase = some port := by
    cases phase with
    | spawned shard =>
        cases keeps
        rfl
    | held shard =>
        cases keeps
        exact if_neg dynamic
    | returning shard =>
        cases keeps
        exact absurd (tracked.sound.proper _ lease') dynamic
    | spawning | spawnFailed | retiring | retired | ended => cases keeps
  have disjoint := (List.nodup_append.mp (List.nodup_append.mp tracked.nodup_claimed).1).2.2
  exact disjoint port waits port (List.mem_filterMap.mpr ⟨phase, lease', kept⟩) rfl

theorem deliver (call : Nat) : (farm.step host (.deliver call)).Tracked host static := by
  rw [step]
  split
  · next lease process port here =>
      split
      · next waiting =>
          have fresh := tracked.fresh here
          refine { tracked with
            sound := tracked.sound.step _ fresh
            claimed := tracked.claimed.trans (List.perm_iff_count.mpr fun other => ?_)
            own := fun known member starting => ?_
            dynamic := fun known member => ?_
            quiet := fun known member => ?_ }
          · have given := count_filterMap_set SpawnCall.port? here
              ⟨lease, process, port, .delivered⟩ other
            have taken := count_filterMap_set (leasePort? static) waiting
              (.spawned ⟨host, port⟩) other
            have had : SpawnCall.port? ⟨lease, process, port, .answered⟩ = some port := rfl
            have has : SpawnCall.port? ⟨lease, process, port, .delivered⟩ = none := rfl
            rw [had, has, Option.toList_none, List.count_nil] at given
            have keeps : leasePort? static (.spawned ⟨host, port⟩) = some port := rfl
            rw [keeps, leasePort?, Option.toList_none, List.count_nil] at taken
            rw [count_claimed, count_claimed]
            simp only [ShardPool.step, waiting]
            omega
          all_goals rcases List.mem_or_eq_of_mem_set member with old | rfl
          · exact tracked.own known old starting
          · cases starting
          · exact tracked.dynamic known old
          · exact fun _ none => absurd none.symm (Option.some_ne_none _)
          · exact tracked.quiet known old
          · exact SpawnPhase.noConfusion
      · exact tracked
  · next lease _ _ _ =>
      have ended : (farm.step host (.client (.failSpawn lease))).Tracked host static :=
        tracked.client fun _ _ => PoolStep.noConfusion
      exact ended
  · next lease _ _ _ =>
      have ended : (farm.step host (.client (.failSpawn lease))).Tracked host static :=
        tracked.client fun _ _ => PoolStep.noConfusion
      exact ended
  · exact tracked

end Tracked

/-! ## Runs -/

/-- What is asked of the system: a port that is picked is not one that the launcher has in its
table, nor that of a static shard. This is more than `pick_free_port` finds out, to which the
port of a process that has not bound it yet looks free. -/
def Picks (host : String) (static : List GameServerShard) (farm : ShardFarm) : FarmStep → Prop
  | .launch _ port =>
      port ∉ farm.launcher.processes ∧ (⟨host, port⟩ : GameServerShard) ∉ static
  | _ => True

instance (host : String) (static : List GameServerShard) (farm : ShardFarm) :
    ∀ input, Decidable (farm.Picks host static input)
  | .launch .. => inferInstanceAs (Decidable (_ ∧ _))
  | .client _ | .poll .. | .deliver _ | .stop _ => .isTrue trivial

theorem Tracked.step (tracked : farm.Tracked host static) (input : FarmStep)
    (picks : farm.Picks host static input) : (farm.step host input).Tracked host static := by
  cases input with
  | client input =>
      cases input with
      | spawn => exact tracked
      | acquire | failSpawn | addDynamic | dropFailed | release | stop | retire | giveBack =>
          exact tracked.client fun _ _ => PoolStep.noConfusion
  | launch lease port => exact tracked.launch picks.1 picks.2
  | poll call expired listening => exact tracked.poll call expired listening
  | deliver call => exact tracked.deliver call
  | stop port => exact tracked.stop port

theorem tracked_start {hasLauncher : Bool} {maxDynamicShards : Nat}
    {allocator : ShardPoolAllocator}
    (made : ShardPoolAllocator.new static hasLauncher maxDynamicShards = .ok allocator)
    (distinct : static.Nodup) : Tracked host static { pool := ⟨allocator, []⟩ } := by
  rw [ShardPoolAllocator.new] at made
  split at made
  · cases made
  cases made
  constructor
  case sound =>
    refine ⟨?_, fun _ member => member, fun _ member => .inl member, ?_, ?_, rfl,
      Int.natCast_nonneg _⟩
    · rwa [ShardPool.inUse, List.filterMap_nil, List.append_nil]
    · exact fun _ impossible => absurd impossible List.not_mem_nil
    · exact fun _ => iff_of_false (Finset.notMem_empty _) fun held => List.not_mem_nil held.1
  case exact_ => exact ShardLauncher.exact_empty
  case claimed => exact .refl _
  case own | dynamic | quiet => exact fun _ impossible => absurd impossible List.not_mem_nil

/-- What the users of the farm rely on. -/
structure Orderly (static : List GameServerShard) (farm : ShardFarm) : Prop where
  /-- No shard has two holders. -/
  exclusive : ∀ first second shard, farm.pool.Holds first shard → farm.pool.Holds second shard →
    first = second
  /-- A dynamic shard that is held has its process. -/
  runs : ∀ (lease : Nat) (shard : GameServerShard), farm.pool.leases[lease]? = some (.held shard) →
    shard ∉ static → ∃ process, farm.launcher.Runs shard.port process
  /-- At most one process runs on a port. -/
  alone : ∀ port process other, farm.launcher.Runs port process → farm.launcher.Runs port other →
    process = other
  /-- One call, lease or request to stop is answerable for each process that runs. -/
  answerable : ∀ port process, farm.launcher.Runs port process →
    (farm.claimed static).count port = 1
  /-- No call of `spawn` finds its port gone. -/
  quiet : ∀ call ∈ farm.calls, call.phase ≠ .raised
  /-- Shutting the launcher down stops every process that was ever started. -/
  shutdown : ∀ server ∈ farm.launcher.shutdown.started, server.stopped = true

theorem Tracked.orderly (tracked : farm.Tracked host static) : farm.Orderly static where
  exclusive _ _ _ := ShardPool.Holds.unique (List.nodup_append.mp tracked.sound.once).2.1
  runs lease shard held dynamic := by
    have claims : shard.port ∈ farm.claimed static :=
      List.mem_append_left _ (List.mem_append_right _ (List.mem_filterMap.mpr
        ⟨_, List.mem_of_getElem? held, if_neg dynamic⟩))
    obtain ⟨process, found⟩ :=
      Option.isSome_iff_exists.mp (AList.lookup_isSome.mpr (tracked.stored claims))
    exact ⟨process, (tracked.exact_ shard.port process).mp found⟩
  alone _ _ _ first second := Option.some.inj
    (((tracked.exact_ _ _).mpr first).symm.trans ((tracked.exact_ _ _).mpr second))
  answerable port process runs := by
    have found := (tracked.exact_ port process).mpr runs
    have stored := AList.lookup_isSome.mp (Option.isSome_of_eq_some found)
    exact List.count_eq_one_of_mem tracked.nodup_claimed
      (tracked.claimed.mem_iff.mp (AList.mem_keys.mp stored))
  quiet := tracked.quiet
  shutdown := tracked.exact_.shutdown

/-- One static shard, and a launcher. -/
def lonePool : ShardPoolAllocator where
  available := [⟨"local", 9000⟩]
  hasLauncher := true
  maxDynamicShards := 2

/-- Two leases ask for a shard; the second gives up, and its process is nobody's but the
call's. The first plays on its shard and gives it back. -/
def impatient : List FarmStep :=
  [.client .acquire, .client .acquire, .client .acquire, .launch 1 5000, .poll 0 false false,
    .client (.failSpawn 2), .client (.dropFailed 2), .launch 2 5001, .poll 1 false true,
    .deliver 1, .poll 0 false true, .deliver 0, .client (.addDynamic 1), .client (.release 1),
    .stop 5000, .client (.stop 1)]

end ShardFarm

end KungFuChess
