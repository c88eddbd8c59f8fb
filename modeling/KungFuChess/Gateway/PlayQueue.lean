import KungFuChess.Gateway.RoomManager
import KungFuChess.Library.Trace
import Mathlib.Algebra.Order.Group.Unbundled.Abs
import Mathlib.Algebra.Order.Group.Int

/-!
# The play queue

Players who look for an opponent wait in the order in which they came. Nobody
joins the queue while somebody in range is waiting, so the ratings of those who
wait lie apart (`Spread`), whoever comes, leaves or is timed out.

Each waiting player has a timer, a task of its own. A timer that is cancelled
does not fire any more: the one that fires always belongs to a player who has
waited since it was set (`Timed`).
-/

set_option autoImplicit false

namespace KungFuChess

/-- The identity of a task of the event loop. -/
abbrev TaskId := Nat

structure QueueEntry where
  user : ConnectedUser
  timeoutTask : TaskId
  deriving DecidableEq, Repr

/-- A sleeping `_expire` task. -/
structure Timer where
  task : TaskId
  userId : UserId
  deriving DecidableEq, Repr

/-- The queue, a dictionary in the order of insertion, and the tasks that time it out. -/
structure PlayQueue where
  waiting : List QueueEntry
  timers : List Timer
  nextTask : TaskId
  distinct : (waiting.map fun entry => entry.user.userId).Nodup

namespace QueueEntry

def timer (entry : QueueEntry) : Timer where
  task := entry.timeoutTask
  userId := entry.user.userId

end QueueEntry

namespace PlayQueue

def ratingRange : Int := 100

def empty : PlayQueue where
  waiting := []
  timers := []
  nextTask := 0
  distinct := List.nodup_nil

/-- How far the rating of a waiting player is from that of a user. -/
def distance (user : ConnectedUser) (entry : QueueEntry) : Int :=
  |entry.user.rating - user.rating|

/-- One turn of the scan: a candidate in range that is closer than the best one so far
replaces it. -/
def closer (user : ConnectedUser) (best : Option QueueEntry) (candidate : QueueEntry) :
    Option QueueEntry :=
  if distance user candidate ≤ ratingRange ∧
      best.all fun found => distance user candidate < distance user found then
    some candidate
  else best

def best (queue : PlayQueue) (user : ConnectedUser) : Option QueueEntry :=
  queue.waiting.foldl (closer user) none

def lookup (queue : PlayQueue) (userId : UserId) : Option QueueEntry :=
  queue.waiting.find? fun entry => entry.user.userId = userId

def IsWaiting (queue : PlayQueue) (userId : UserId) : Prop :=
  ∃ entry ∈ queue.waiting, entry.user.userId = userId

instance (queue : PlayQueue) (userId : UserId) : Decidable (queue.IsWaiting userId) :=
  inferInstanceAs (Decidable (∃ entry ∈ queue.waiting, _))

/-- Remove the entry of a user. -/
def pop (queue : PlayQueue) (userId : UserId) : PlayQueue :=
  { queue with
    waiting := queue.waiting.filter fun entry => entry.user.userId ≠ userId
    distinct := queue.distinct.sublist (List.filter_sublist.map _) }

/-- A cancelled task never comes to its section; neither does one that has ended. -/
def cancel (queue : PlayQueue) (task : TaskId) : PlayQueue :=
  { queue with timers := queue.timers.filter fun timer => timer.task ≠ task }

/-- Add a user at the end, with a timer. -/
def enqueue (queue : PlayQueue) (user : ConnectedUser) (new : ¬ queue.IsWaiting user.userId) :
    PlayQueue where
  waiting := queue.waiting ++ [⟨user, queue.nextTask⟩]
  timers := queue.timers ++ [⟨queue.nextTask, user.userId⟩]
  nextTask := queue.nextTask + 1
  distinct := by
    rw [List.map_append, List.nodup_append]
    refine ⟨queue.distinct, List.nodup_singleton _, ?_⟩
    intro userId waiting other added same
    obtain ⟨entry, member, own⟩ := List.mem_map.mp waiting
    exact new ⟨entry, member, own.trans (same.trans (List.mem_singleton.mp added))⟩

def findMatch (queue : PlayQueue) (user : ConnectedUser) : Option ConnectedUser × PlayQueue :=
  if waiting : queue.IsWaiting user.userId then (none, queue)
  else
    match queue.best user with
    | some entry => (some entry.user, (queue.pop entry.user.userId).cancel entry.timeoutTask)
    | none => (none, queue.enqueue user waiting)

/-- The section of `_expire`: the user whose search has ended, if there is one. -/
def expire (queue : PlayQueue) (task : TaskId) : Option ConnectedUser × PlayQueue :=
  match queue.timers.find? fun timer => timer.task = task with
  | none => (none, queue)
  | some timer =>
      ((queue.lookup timer.userId).map QueueEntry.user, (queue.cancel task).pop timer.userId)

def leave (queue : PlayQueue) (userId : UserId) : Bool × PlayQueue :=
  match queue.lookup userId with
  | none => (false, queue)
  | some entry => (true, (queue.pop userId).cancel entry.timeoutTask)

end PlayQueue

inductive QueueStep where
  | findMatch (user : ConnectedUser)
  | expire (task : TaskId)
  | leave (userId : UserId)
  deriving DecidableEq, Repr

namespace PlayQueue

def step (queue : PlayQueue) : QueueStep → PlayQueue
  | .findMatch user => (queue.findMatch user).2
  | .expire task => (queue.expire task).2
  | .leave userId => (queue.leave userId).2

/-! ## The choice of an opponent -/

variable {queue : PlayQueue} {user : ConnectedUser}

def InRange (user : ConnectedUser) (entry : QueueEntry) : Prop :=
  distance user entry ≤ ratingRange

/-- Nobody before the chosen entry is as close, and nobody after it is closer. -/
structure Closest (user : ConnectedUser) (before : List QueueEntry) (chosen : QueueEntry)
    (after : List QueueEntry) : Prop where
  inRange : InRange user chosen
  before : ∀ entry ∈ before, distance user chosen < distance user entry
  after : ∀ entry ∈ after, distance user chosen ≤ distance user entry

/-- What a scan of these entries has found. -/
def Found (user : ConnectedUser) (entries : List QueueEntry) : Option QueueEntry → Prop
  | none => ∀ entry ∈ entries, ¬ InRange user entry
  | some chosen => ∃ before after, entries = before ++ chosen :: after ∧
      Closest user before chosen after

/-- One turn of the scan. -/
theorem Found.closer {entries : List QueueEntry} {best : Option QueueEntry}
    (found : Found user entries best) (candidate : QueueEntry) :
    Found user (entries ++ [candidate]) (closer user best candidate) := by
  rw [PlayQueue.closer]
  split
  · next better =>
      refine ⟨entries, [], rfl, better.1, ?_, fun entry none => absurd none List.not_mem_nil⟩
      intro entry member
      cases best with
      | none => exact lt_of_le_of_lt better.1 (not_le.mp (found entry member))
      | some chosen =>
          obtain ⟨before, after, rfl, closest⟩ := found
          have nearer : distance user candidate < distance user chosen := by
            simpa only [Option.all_some, decide_eq_true_eq] using better.2
          rcases List.mem_append.mp member with earlier | later
          · exact nearer.trans (closest.before entry earlier)
          · rcases List.mem_cons.mp later with rfl | later
            · exact nearer
            · exact nearer.trans_le (closest.after entry later)
  · next worse =>
      cases best with
      | none =>
          intro entry member
          rcases List.mem_append.mp member with earlier | last
          · exact found entry earlier
          · rw [List.mem_singleton.mp last]
            exact fun inRange => worse ⟨inRange, rfl⟩
      | some chosen =>
          obtain ⟨before, after, rfl, closest⟩ := found
          refine ⟨before, after ++ [candidate], ?_, closest.inRange, closest.before, ?_⟩
          · rw [List.append_assoc, List.cons_append]
          · intro entry member
            rcases List.mem_append.mp member with later | last
            · exact closest.after entry later
            · rw [List.mem_singleton.mp last]
              refine not_lt.mp fun nearer => worse ⟨nearer.le.trans closest.inRange, ?_⟩
              rw [Option.all_some]
              exact decide_eq_true nearer

/-- The scan finds the closest entry in range, the first one among equals. -/
theorem found_best (queue : PlayQueue) (user : ConnectedUser) :
    Found user queue.waiting (queue.best user) := by
  rw [best]
  induction queue.waiting using List.reverseRecOn with
  | nil => exact fun entry none => absurd none List.not_mem_nil
  | append_singleton entries candidate found =>
      rw [List.foldl_append]
      exact found.closer candidate

/-- In a queue with one entry a user, removing a user removes this entry alone. -/
theorem pop_split {before after : List QueueEntry} {chosen : QueueEntry}
    (split : queue.waiting = before ++ chosen :: after) :
    (queue.pop chosen.user.userId).waiting = before ++ after := by
  have distinct := queue.distinct
  rw [split, List.map_append, List.map_cons, List.nodup_middle, List.nodup_cons,
    ← List.map_append] at distinct
  have others : ∀ entry ∈ before ++ after, entry.user.userId ≠ chosen.user.userId :=
    fun entry member same => distinct.1 (List.mem_map.mpr ⟨entry, member, same⟩)
  simp only [pop, split]
  rw [List.filter_append, List.filter_cons_of_neg (by simp only [ne_eq, not_true, decide_false,
    Bool.false_eq_true, not_false_iff]), ← List.filter_append]
  exact List.filter_eq_self.mpr fun entry member => decide_eq_true (others entry member)

/-! ## The ratings of those who wait -/

/-- The ratings of the waiting players differ pairwise by more than the range. -/
def Spread (queue : PlayQueue) : Prop :=
  queue.waiting.Pairwise fun first second =>
    ratingRange < |first.user.rating - second.user.rating|

theorem Spread.pop (spread : queue.Spread) (userId : UserId) : (queue.pop userId).Spread :=
  spread.sublist List.filter_sublist

/-- Who finds nobody in range keeps the distance to all. -/
theorem Spread.enqueue (spread : queue.Spread) (new : ¬ queue.IsWaiting user.userId)
    (nobody : ∀ entry ∈ queue.waiting, ¬ InRange user entry) :
    (queue.enqueue user new).Spread := by
  refine List.pairwise_append.mpr ⟨spread, List.pairwise_singleton .., ?_⟩
  intro entry member last added
  rw [List.mem_singleton.mp added]
  exact not_le.mp (nobody entry member)

theorem Spread.step (spread : queue.Spread) (input : QueueStep) : (queue.step input).Spread := by
  cases input with
  | findMatch user =>
      simp only [PlayQueue.step, findMatch]
      have found := found_best queue user
      split
      · exact spread
      · next new =>
          cases chosen : queue.best user with
          | none =>
              rw [chosen] at found
              exact spread.enqueue new found
          | some entry => exact spread.pop entry.user.userId
  | expire task =>
      simp only [PlayQueue.step, expire]
      split
      · exact spread
      · next timer _ => exact spread.pop timer.userId
  | leave userId =>
      simp only [PlayQueue.step, leave]
      split
      · exact spread
      · exact spread.pop userId

/-- What a search does: it takes the closest player in range off the queue, or puts the user
at its end. -/
def Pairs (queue : PlayQueue) (user : ConnectedUser) : Prop :=
  (∃ before chosen after, queue.waiting = before ++ chosen :: after ∧
    Closest user before chosen after ∧ (queue.findMatch user).1 = some chosen.user ∧
    (queue.findMatch user).2.waiting = before ++ after) ∨
  ((∀ entry ∈ queue.waiting, ¬ InRange user entry) ∧ (queue.findMatch user).1 = none ∧
    (queue.findMatch user).2.waiting = queue.waiting ++ [⟨user, queue.nextTask⟩])

theorem findMatch_pairs (new : ¬ queue.IsWaiting user.userId) : queue.Pairs user := by
  have found := found_best queue user
  rw [Pairs, findMatch, dif_neg new]
  cases chosen : queue.best user with
  | none =>
      rw [chosen] at found
      exact .inr ⟨found, rfl, rfl⟩
  | some entry =>
      rw [chosen] at found
      obtain ⟨before, after, split, closest⟩ := found
      exact .inl ⟨before, entry, after, split, closest, rfl, pop_split split⟩

/-- Nobody is paired with themselves. -/
theorem findMatch_distinct {opponent : ConnectedUser}
    (chosen : (queue.findMatch user).1 = some opponent) : user.userId ≠ opponent.userId := by
  rw [findMatch] at chosen
  split at chosen
  · cases chosen
  · next new =>
      have found := found_best queue user
      cases best : queue.best user with
      | none =>
          rw [best] at chosen
          cases chosen
      | some entry =>
          rw [best] at chosen found
          cases chosen
          obtain ⟨before, after, split, -⟩ := found
          exact fun same => new ⟨entry, split ▸ List.mem_append_cons_self, same.symm⟩

/-- **The play queue**: in every state it reaches the ratings lie apart, and a user who does
not wait is paired with the closest player in range, or waits. -/
theorem run_findMatch (steps : List QueueStep) :
    (Trace.run step empty steps).Spread ∧
      ∀ user, ¬ (Trace.run step empty steps).IsWaiting user.userId →
        (Trace.run step empty steps).Pairs user :=
  ⟨Trace.run_invariant (motive := Spread) (fun _ input spread => spread.step input) steps
    List.Pairwise.nil, fun _ => findMatch_pairs⟩

/-- Ann and Bob wait, Cem leaves and comes back with another rating. -/
def searches : List QueueStep :=
  [.findMatch ⟨1, "ann", 11, 1200⟩, .findMatch ⟨2, "bob", 12, 1400⟩,
    .findMatch ⟨3, "cem", 13, 1000⟩, .leave 3, .findMatch ⟨3, "cem", 13, 1580⟩]

theorem run_findMatch_searches :
    (Trace.run step empty searches).Spread ∧
      (Trace.run step empty searches).Pairs ⟨4, "dan", 14, 1490⟩ :=
  have reached := run_findMatch searches
  ⟨reached.1, reached.2 ⟨4, "dan", 14, 1490⟩ (by decide)⟩

/-! ## The timers -/

/-- The waiting players and the sleeping timers are in step. -/
structure Timed (queue : PlayQueue) : Prop where
  timers : queue.timers = queue.waiting.map QueueEntry.timer
  numbered : ∀ entry ∈ queue.waiting, entry.timeoutTask < queue.nextTask
  distinct : (queue.waiting.map QueueEntry.timeoutTask).Nodup

namespace Timed

variable (timed : queue.Timed)

include timed

/-- A player leaves with the timer. -/
theorem remove {entry : QueueEntry} (member : entry ∈ queue.waiting) :
    ((queue.pop entry.user.userId).cancel entry.timeoutTask).Timed where
  timers := by
    simp only [cancel, pop, timed.timers, List.filter_map]
    refine congrArg _ (List.filter_congr fun other waiting => ?_)
    refine decide_eq_decide.mpr (not_congr ⟨fun same => ?_, fun same => ?_⟩)
    · rw [List.inj_on_of_nodup_map timed.distinct waiting member same]
    · rw [List.inj_on_of_nodup_map queue.distinct waiting member same]
      rfl
  numbered := fun other kept => timed.numbered other (List.mem_of_mem_filter kept)
  distinct := timed.distinct.sublist (List.filter_sublist.map _)

theorem enqueue (new : ¬ queue.IsWaiting user.userId) : (queue.enqueue user new).Timed where
  timers := by
    simp only [PlayQueue.enqueue, timed.timers, List.map_append]
    rfl
  numbered := by
    intro entry member
    rcases List.mem_append.mp member with earlier | last
    · exact Nat.lt_succ_of_lt (timed.numbered entry earlier)
    · rw [List.mem_singleton.mp last]
      exact Nat.lt_succ_self _
  distinct := by
    simp only [PlayQueue.enqueue, List.map_append]
    refine List.nodup_append.mpr ⟨timed.distinct, List.nodup_singleton _, ?_⟩
    intro task earlier other last same
    obtain ⟨entry, member, own⟩ := List.mem_map.mp earlier
    have before := timed.numbered entry member
    rw [own, same, List.mem_singleton.mp last] at before
    exact lt_irrefl _ before

/-- The timer that fires is that of a waiting player. -/
theorem of_find {task : TaskId} {timer : Timer}
    (found : (queue.timers.find? fun timer => timer.task = task) = some timer) :
    ∃ entry ∈ queue.waiting, entry.timer = timer ∧ entry.timeoutTask = task := by
  have member := List.mem_of_find?_eq_some found
  have fires : timer.task = task := by simpa using List.find?_some found
  rw [timed.timers] at member
  obtain ⟨entry, waiting, rfl⟩ := List.mem_map.mp member
  exact ⟨entry, waiting, rfl, fires⟩

theorem step (input : QueueStep) : (queue.step input).Timed := by
  cases input with
  | findMatch user =>
      simp only [PlayQueue.step, findMatch]
      have found := found_best queue user
      split
      · exact timed
      · next new =>
          cases chosen : queue.best user with
          | none => exact timed.enqueue new
          | some entry =>
              rw [chosen] at found
              obtain ⟨before, after, split, -⟩ := found
              exact timed.remove (split ▸ List.mem_append_cons_self)
  | expire task =>
      simp only [PlayQueue.step, expire]
      split
      · exact timed
      · next timer found =>
          obtain ⟨entry, waiting, rfl, rfl⟩ := timed.of_find found
          exact timed.remove waiting
  | leave userId =>
      simp only [PlayQueue.step, leave, PlayQueue.lookup]
      split
      · exact timed
      · next entry found =>
          have own : entry.user.userId = userId := by simpa using List.find?_some found
          rw [← own]
          exact timed.remove (List.mem_of_find?_eq_some found)

end Timed

/-- **A timer ends the search it was set for**: no other player is ever timed out by it. -/
theorem run_expire (steps : List QueueStep) (task : TaskId) {queue : PlayQueue}
    (reached : queue = Trace.run step empty steps) :
    queue.expire task = (none, queue) ∨
      ∃ before entry after, queue.waiting = before ++ entry :: after ∧
        entry.timeoutTask = task ∧ (queue.expire task).1 = some entry.user ∧
        (queue.expire task).2.waiting = before ++ after := by
  have timed : queue.Timed := by
    rw [reached]
    exact Trace.run_invariant (motive := Timed) (fun _ input timed => timed.step input) steps
      ⟨rfl, fun entry none => absurd none List.not_mem_nil, List.nodup_nil⟩
  rw [expire]
  split
  · exact .inl rfl
  · next timer found =>
      obtain ⟨entry, waiting, rfl, fires⟩ := timed.of_find found
      obtain ⟨before, after, split⟩ := List.append_of_mem waiting
      refine .inr ⟨before, entry, after, split, fires, ?_, pop_split split⟩
      cases looked : queue.lookup entry.timer.userId with
      | none => exact absurd (decide_eq_true rfl) (List.find?_eq_none.mp looked entry waiting)
      | some other =>
          have own : other.user.userId = entry.user.userId :=
            of_decide_eq_true (List.find?_some (p := fun other : QueueEntry =>
              decide (other.user.userId = entry.timer.userId)) looked)
          have member := List.mem_of_find?_eq_some looked
          rw [List.inj_on_of_nodup_map queue.distinct member waiting own]
          rfl

end PlayQueue

end KungFuChess
