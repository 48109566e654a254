/-
**The combat log.**

The log keeps the latest combats in a ring buffer of fixed capacity.  Its readers go back from the
position of the next write, each with an index computation of its own.  What they show is a list:
the events that were appended since the log was cleared, as far as they fit.

Main definitions:

* `My4X.CombatEvent`, `My4X.CombatLog` — an event, and the log with its readers;
* `My4X.LogOp`, `My4X.sinceClear` — what is done to a log, and the events since it was cleared;
* `My4X.CombatLog.Shows` — all readers show the same list of events.

Main results:

* `My4X.CombatLog.shows_allEvents` — the readers of every log show the same list;
* `My4X.CombatLog.run_shows` — **after any operations it is the list of the latest events**.
-/

import My4X.Unit
import My4X.Lib.RingBuffer

set_option relaxedAutoImplicit false
set_option autoImplicit false

namespace My4X

/-! ### The log -/

/-- What happened in a combat, or in the capture of a city. -/
structure CombatEvent where
  attackerUnitIndex : ℕ := 0
  defenderUnitIndex : ℕ := 0
  attackerFactionId : FactionId := 0
  defenderFactionId : FactionId := 0
  damageToDefender : ℤ := 0
  damageToAttacker : ℤ := 0
  defenderDied : Bool := false
  attackerDied : Bool := false
  turn : ℤ := 0
  tileRow : ℤ := 0
  tileCol : ℤ := 0
  defenderTerrain : TerrainType := .plains
  attackerName : String := ""
  defenderName : String := ""
  attackerFactionName : String := ""
  defenderFactionName : String := ""
  isCaptureEvent : Bool := false
  capturedCityName : String := ""
  deriving DecidableEq, Repr

/-- The log: a ring of events, the position of the next write, and the number of valid entries.  To
a log without capacity nothing can be appended. -/
structure CombatLog where
  buffer : List CombatEvent
  capacity : ℕ
  head : ℕ
  count : ℕ
  buffer_length : buffer.length = capacity
  head_lt : head < capacity
  count_le : count ≤ capacity

namespace CombatLog

/-- The constructor. -/
def create (capacity : ℕ) (h : 0 < capacity) : CombatLog where
  buffer := List.replicate capacity {}
  capacity := capacity
  head := 0
  count := 0
  buffer_length := List.length_replicate
  head_lt := h
  count_le := Nat.zero_le _

/-- Appends an event, in place of the oldest one if the log is full. -/
def append (log : CombatLog) (event : CombatEvent) : CombatLog where
  buffer := log.buffer.set log.head event
  capacity := log.capacity
  head := (log.head + 1) % log.capacity
  count := if log.count < log.capacity then log.count + 1 else log.count
  buffer_length := by rw [List.length_set, log.buffer_length]
  head_lt := Nat.mod_lt _ (Nat.zero_lt_of_lt log.head_lt)
  count_le := by
    have hle := log.count_le
    split
    · omega
    · omega

def size (log : CombatLog) : ℕ := log.count

def empty (log : CombatLog) : Bool := log.count = 0

/-- The latest events, the oldest of them first. -/
def recentEvents (log : CombatLog) (count : ℕ) : List CombatEvent :=
  let resultCount := min count log.count
  (List.range resultCount).map fun i =>
    let idx := (log.head + log.capacity - resultCount + i) % log.capacity
    log.buffer.getD idx {}

/-- The events of a turn, the oldest first. -/
def eventsForTurn (log : CombatLog) (turn : ℤ) : List CombatEvent :=
  let start := (log.head + log.capacity - log.count) % log.capacity
  (List.range log.count).filterMap fun i =>
    let idx := (start + i) % log.capacity
    if (log.buffer.getD idx {}).turn = turn then some (log.buffer.getD idx {}) else none

def allEvents (log : CombatLog) : List CombatEvent := log.recentEvents log.count

/-- Forgets all events. -/
def clear (log : CombatLog) : CombatLog where
  buffer := log.buffer
  capacity := log.capacity
  head := 0
  count := 0
  buffer_length := log.buffer_length
  head_lt := Nat.zero_lt_of_lt log.head_lt
  count_le := Nat.zero_le _

/-! ### What the readers show -/

@[simp] theorem allEvents_length (log : CombatLog) : log.allEvents.length = log.count := by
  rw [allEvents, recentEvents, List.length_map, List.length_range, Nat.min_self]

/-- The ring holds what the log shows. -/
theorem holds_allEvents (log : CombatLog) :
    RingBuffer.Holds log.buffer log.head log.allEvents where
  head_lt := by rw [log.buffer_length]; exact log.head_lt
  length_le := by rw [log.buffer_length, allEvents_length]; exact log.count_le
  cell i hi := by
    rw [allEvents_length] at hi ⊢
    have hidx : (log.head + log.capacity - log.count + i) % log.capacity < log.buffer.length := by
      rw [log.buffer_length]
      exact Nat.mod_lt _ (Nat.zero_lt_of_lt log.head_lt)
    rw [allEvents, recentEvents, Nat.min_self, List.getElem?_map, List.getElem?_range hi,
      Option.map_some, log.buffer_length]
    dsimp only
    rw [List.getD_eq_getElem?_getD, List.getElem?_eq_getElem hidx, Option.getD_some]

/-- **All readers show the same list of events.** -/
structure Shows (log : CombatLog) (events : List CombatEvent) : Prop where
  allEvents : log.allEvents = events
  recentEvents : ∀ k, log.recentEvents k = events.rtake k
  eventsForTurn : ∀ t, log.eventsForTurn t = events.filter (·.turn = t)
  size : log.size = events.length

theorem recentEvents_eq (log : CombatLog) (k : ℕ) : log.recentEvents k = log.allEvents.rtake k := by
  have hlatest := log.holds_allEvents.latest {} (n := min k log.count)
    (by rw [allEvents_length]; exact Nat.min_le_right _ _)
  rw [log.buffer_length] at hlatest
  refine hlatest.trans ?_
  rw [List.rtake, List.rtake, allEvents_length]
  congr 1
  omega

theorem eventsForTurn_eq (log : CombatLog) (t : ℤ) :
    log.eventsForTurn t = log.allEvents.filter (·.turn = t) := by
  have hfilter : ∀ (f : ℕ → CombatEvent) (is : List ℕ),
      (is.filterMap fun i => if (f i).turn = t then some (f i) else none) =
        (is.map f).filter (·.turn = t) := by
    intro f is
    induction is with
    | nil => rfl
    | cons i is ih =>
        rw [List.filterMap_cons, List.map_cons, List.filter_cons, ← ih]
        by_cases ht : (f i).turn = t
        · rw [if_pos ht, if_pos (decide_eq_true ht)]
        · rw [if_neg ht, if_neg (by simp [ht])]
  rw [eventsForTurn, allEvents, recentEvents, Nat.min_self]
  refine (hfilter (fun i => log.buffer.getD
    (((log.head + log.capacity - log.count) % log.capacity + i) % log.capacity) {}) _).trans ?_
  refine congrArg (List.filter _) (List.map_congr_left fun i _ => ?_)
  rw [Nat.mod_add_mod]

/-- The readers of every log show the same list. -/
theorem shows_allEvents (log : CombatLog) : log.Shows log.allEvents where
  allEvents := rfl
  recentEvents := log.recentEvents_eq
  eventsForTurn := log.eventsForTurn_eq
  size := log.allEvents_length.symm

/-! ### Appending and clearing -/

/-- **Appending an event** to a full log forgets the oldest one. -/
theorem allEvents_append (log : CombatLog) (event : CombatEvent) :
    (log.append event).allEvents = (log.allEvents ++ [event]).rtake log.capacity := by
  have hpush := log.holds_allEvents.push event
  rw [log.buffer_length] at hpush
  refine hpush.eq (log.append event).holds_allEvents ?_
  have hle := log.count_le
  rw [allEvents_length, List.rtake, List.length_drop, List.length_append, allEvents_length,
    List.length_singleton]
  change (if log.count < log.capacity then log.count + 1 else log.count) = _
  split
  · omega
  · omega

theorem allEvents_clear (log : CombatLog) : log.clear.allEvents = [] := rfl

/-- What is done to a log. -/
inductive LogOp
  | append (event : CombatEvent)
  | clear

/-- The log after an operation. -/
def apply (log : CombatLog) : LogOp → CombatLog
  | .append event => log.append event
  | .clear => log.clear

end CombatLog

/-- The events that were appended since the log was last cleared. -/
def sinceClear (ops : List CombatLog.LogOp) : List CombatEvent :=
  ops.foldl (fun events op =>
    match op with
    | .append event => events ++ [event]
    | .clear => []) []

/-- The latest items of a list, and one more item. -/
theorem rtake_rtake_append {α : Type} (l : List α) (a : α) (n : ℕ) :
    (l.rtake n ++ [a]).rtake n = (l ++ [a]).rtake n := by
  cases n with
  | zero => rw [List.rtake_zero, List.rtake_zero]
  | succ n =>
      rw [List.rtake_concat_succ, List.rtake_concat_succ]
      congr 1
      rw [List.rtake, List.rtake, List.rtake, List.length_drop, List.drop_drop]
      congr 1
      omega

namespace CombatLog

theorem apply_capacity (log : CombatLog) (op : LogOp) : (log.apply op).capacity = log.capacity := by
  cases op with
  | append event => rfl
  | clear => rfl

/-- **The combat log is a bounded list**: after any operations its readers show the events since it
was last cleared, as many of the latest ones as it has room for. -/
theorem run_shows (capacity : ℕ) (hcapacity : 0 < capacity) (ops : List LogOp) :
    (ops.foldl apply (create capacity hcapacity)).Shows ((sinceClear ops).rtake capacity) := by
  -- from the last operation back: the capacity stays, and every operation acts on the list
  have hrun : (ops.foldl apply (create capacity hcapacity)).capacity = capacity ∧
      (ops.foldl apply (create capacity hcapacity)).allEvents =
        (sinceClear ops).rtake capacity := by
    induction ops using List.reverseRecOn with
    | nil => exact ⟨rfl, (List.rtake_nil capacity).symm⟩
    | append_singleton ops op ih =>
        obtain ⟨hsize, hevents⟩ := ih
        rw [List.foldl_append, List.foldl_cons, List.foldl_nil, sinceClear, List.foldl_append,
          List.foldl_cons, List.foldl_nil]
        refine ⟨by rw [apply_capacity, hsize], ?_⟩
        cases op with
        | append event =>
            rw [apply, allEvents_append, hsize, hevents]
            exact rtake_rtake_append _ event capacity
        | clear =>
            rw [apply, allEvents_clear]
            exact (List.rtake_nil capacity).symm
  rw [← hrun.2]
  exact shows_allEvents _

/-- A log of two events to which three are appended. -/
theorem three_in_two :
    ([LogOp.append { turn := 1 }, .append { turn := 2 }, .append { turn := 3 }].foldl apply
      (create 2 (by decide))).Shows [{ turn := 2 }, { turn := 3 }] :=
  run_shows 2 (by decide) _

end CombatLog

end My4X
