import KungFuChess.Library.ReverseIndex
import Mathlib.Data.List.Basic

/-!
# The shard launcher

`ShardLauncher` starts server processes and stops them on request, and keeps a table of
them by port. The calls of `spawn` interleave at their sleeps, with each other and with
`release`, which does not wait.

The system's side is `started`, all processes that were ever started. A process stands
in it for its `Popen` object, and is stopped once it has been told to terminate.
-/

set_option autoImplicit false

namespace KungFuChess

open ReverseIndex

/-- A server process. -/
structure ServerProcess where
  port : Nat
  stopped : Bool := false
  deriving DecidableEq, Repr

structure ShardLauncher where
  /-- The table `_processes`: the place of each process among those started. -/
  processes : AList fun _ : Nat => Nat := ∅
  started : List ServerProcess := []

/-- Where a call of `spawn` is. -/
inductive SpawnPhase where
  /-- It waits for the process to listen. -/
  | starting
  | answered
  /-- The process did not listen in time. -/
  | failed
  /-- The port was not in the table any more. -/
  | raised
  /-- The caller has got the port. -/
  | delivered
  deriving DecidableEq, Repr

namespace ShardLauncher

/-- The first section of `spawn`, on the port that was picked. -/
def launch (launcher : ShardLauncher) (port : Nat) : ShardLauncher where
  processes := launcher.processes.insert port launcher.started.length
  started := launcher.started ++ [{ port := port }]

def terminate (launcher : ShardLauncher) (process : Nat) : ShardLauncher :=
  { launcher with
    started := launcher.started.modify process fun server => { server with stopped := true } }

/-- A turn of the loop of `spawn`: whether its time is up, and else whether something listens
on the port. -/
def poll (launcher : ShardLauncher) (process port : Nat) (expired listening : Bool) :
    SpawnPhase × ShardLauncher :=
  if expired then
    let launcher := launcher.terminate process
    if port ∈ launcher.processes then
      (.failed, { launcher with processes := launcher.processes.erase port })
    else (.raised, launcher)
  else if listening then (.answered, launcher)
  else (.starting, launcher)

def release (launcher : ShardLauncher) (port : Nat) : ShardLauncher :=
  match launcher.processes.lookup port with
  | none => launcher
  | some process =>
      { launcher.terminate process with processes := launcher.processes.erase port }

def shutdown (launcher : ShardLauncher) : ShardLauncher :=
  launcher.processes.keys.foldl release launcher

/-! ## The table and the processes -/

/-- A process runs on a port. -/
def Runs (launcher : ShardLauncher) (port process : Nat) : Prop :=
  launcher.started[process]? = some { port := port }

/-- The table has exactly the processes that run, under their ports. -/
def Exact (launcher : ShardLauncher) : Prop := Indexes launcher.processes launcher.Runs

variable {launcher : ShardLauncher}

theorem exact_empty : ({} : ShardLauncher).Exact :=
  Indexes.empty fun _ _ runs => Option.some_ne_none _ runs.symm

theorem runs_terminate (process other port : Nat) :
    (launcher.terminate process).Runs port other ↔ launcher.Runs port other ∧ other ≠ process := by
  rw [Runs, terminate, List.getElem?_modify, Runs]
  by_cases same : process = other
  · subst same
    simp only [if_true, ne_eq, not_true_eq_false, and_false, iff_false]
    intro stopped
    obtain ⟨server, -, impossible⟩ := Option.map_eq_some_iff.mp stopped
    cases impossible
  · simp only [same, if_false, Option.map_eq_map, Option.map_id_fun', id_eq]
    exact (and_iff_left (Ne.symm same)).symm

/-- Two processes of the table run on two ports. -/
theorem Runs.port_unique {port other process : Nat} (runs : launcher.Runs port process)
    (runs' : launcher.Runs other process) : port = other :=
  congrArg ServerProcess.port (Option.some.inj (runs.symm.trans runs'))

theorem keys_release (port : Nat) :
    (launcher.release port).processes.keys = launcher.processes.keys.erase port := by
  rw [release]
  split
  · next absent => rw [List.erase_of_not_mem (AList.lookup_eq_none.mp absent)]
  · exact AList.keys_erase port launcher.processes

/-- Releasing ports one after another takes them all off the table. -/
theorem mem_foldl_release (ports : List Nat) : ∀ (launcher : ShardLauncher) (port : Nat),
    port ∈ (ports.foldl release launcher).processes ↔
      port ∈ launcher.processes ∧ port ∉ ports := by
  induction ports with
  | nil => exact fun launcher port => (and_iff_left List.not_mem_nil).symm
  | cons first rest ih =>
      intro launcher port
      rw [List.foldl_cons, ih, AList.mem_keys, keys_release,
        launcher.processes.keys_nodup.mem_erase_iff, ← AList.mem_keys, List.mem_cons, not_or]
      tauto

namespace Exact

variable (exact_ : launcher.Exact)

include exact_

theorem launch {port : Nat} (free : port ∉ launcher.processes) : (launcher.launch port).Exact := by
  refine (exact_.insert free launcher.started.length).congr fun other process => ?_
  rw [Runs, Runs, ShardLauncher.launch, List.getElem?_append]
  split
  · next inside => exact or_iff_left fun new => Nat.ne_of_lt inside new.2
  · next outside =>
      rw [List.getElem?_eq_none (Nat.le_of_not_lt outside),
        or_iff_right (Option.some_ne_none _ ∘ Eq.symm), List.getElem?_singleton]
      split
      · next first =>
          rw [Option.some.injEq, ServerProcess.mk.injEq, and_iff_left rfl, eq_comm,
            and_iff_left (by omega)]
      · next later =>
          refine iff_of_false ?_ (Option.some_ne_none _ ∘ Eq.symm)
          rintro ⟨-, rfl⟩
          exact later (Nat.sub_self _)

/-- A process that is stopped goes off the table. -/
theorem stop {port process : Nat} (found : launcher.processes.lookup port = some process) :
    { launcher.terminate process with
      processes := launcher.processes.erase port : ShardLauncher }.Exact := by
  have runs := (exact_ port process).mp found
  refine (exact_.erase port).congr fun other running => ?_
  refine Iff.trans ?_ (runs_terminate process running other).symm
  refine and_congr_right fun here => not_congr ?_
  constructor
  · rintro rfl
    exact Option.some.inj (((exact_ other running).mpr here).symm.trans found)
  · rintro rfl
    exact here.port_unique runs

theorem release (port : Nat) : (launcher.release port).Exact := by
  rw [ShardLauncher.release]
  split
  · exact exact_
  · next process found => exact exact_.stop found

/-- A call whose process is in the table does not raise `KeyError`. -/
theorem poll {port process : Nat} (found : launcher.processes.lookup port = some process)
    (expired listening : Bool) : (launcher.poll process port expired listening).2.Exact ∧
      (launcher.poll process port expired listening).1 ≠ .raised := by
  have stored : port ∈ (launcher.terminate process).processes :=
    AList.lookup_isSome.mp (by rw [terminate, found]; rfl)
  rw [ShardLauncher.poll]
  split
  · rw [if_pos stored]
    exact ⟨exact_.stop found, SpawnPhase.noConfusion⟩
  · split
    · exact ⟨exact_, SpawnPhase.noConfusion⟩
    · exact ⟨exact_, SpawnPhase.noConfusion⟩

/-- **Shutting down stops every process.** -/
theorem shutdown : ∀ server ∈ launcher.shutdown.started, server.stopped = true := by
  have kept : launcher.shutdown.Exact :=
    List.foldlRecOn launcher.processes.keys ShardLauncher.release exact_
      fun _ holds port _ => Exact.release holds port
  intro server member
  obtain ⟨process, found⟩ := List.mem_iff_getElem?.mp member
  obtain ⟨port, stopped⟩ := server
  cases stopped with
  | true => rfl
  | false =>
      have stored := AList.lookup_isSome.mp (Option.isSome_of_eq_some ((kept port process).mpr found))
      have gone := (mem_foldl_release _ launcher port).mp stored
      exact absurd (AList.mem_keys.mp gone.1) gone.2

end Exact

end ShardLauncher

end KungFuChess
