import Criteria.Event.Tally
import Criteria.Proofs.Compilation.Framing
import Mathlib.Algebra.Ring.Nat

/-!
# What a tally counts

A counter shows how many of its events were told, modulo the range of its numbers. Every counter is
either of the parts of a compilation or of the frame around them; those of parts count what can be
read back from the events.
-/

namespace Criteria

/-! ## Events of a counter -/

namespace Counter

variable (counter : Counter)

/-- How many events there are for a counter. -/
def count (events : List Event) : Nat := events.countP (·.counter? = some counter)

@[simp] theorem count_append (before after : List Event) :
    counter.count (before ++ after) = counter.count before + counter.count after :=
  List.countP_append

theorem count_cons (event : Event) (rest : List Event) :
    counter.count (event :: rest) = counter.count [event] + counter.count rest :=
  counter.count_append [event] rest

theorem count_singleton (event : Event) :
    counter.count [event] = if event.counter? = some counter then 1 else 0 := by
  simp [count, List.countP_singleton]

theorem count_le_length (events : List Event) : counter.count events ≤ events.length :=
  List.countP_le_length

end Counter

/-! ## Numbers on counters -/

namespace Tally

variable (tally : Tally) (counter : Counter)

theorem get_increment (moved : Counter) : (tally.increment moved).get counter =
    if moved = counter then tally.get counter + 1 else tally.get counter := by
  cases moved <;> cases counter <;> rfl

@[simp] theorem get_zero : zero.get counter = 0 := by
  cases counter <;> rfl

theorem get_count (event : Event) :
    (tally.count event).get counter = tally.get counter + .ofNat (counter.count [event]) := by
  rw [count, Counter.count_singleton]
  cases event.counter? with
  | none => exact (UInt64.add_zero _).symm
  | some moved =>
    simp only [get_increment, Option.some.injEq]
    split
    · rfl
    · exact (UInt64.add_zero _).symm

/-- A counter moves on by the number of its events. -/
theorem get_countAll (events : List Event) :
    (tally.countAll events).get counter = tally.get counter + .ofNat (counter.count events) := by
  induction events generalizing tally with
  | nil => exact (UInt64.add_zero _).symm
  | cons event rest ih =>
    calc ((tally.count event).countAll rest).get counter
        = tally.get counter + .ofNat (counter.count [event]) + .ofNat (counter.count rest) := by
          rw [ih, get_count]
      _ = tally.get counter + .ofNat (counter.count (event :: rest)) := by
          rw [UInt64.add_assoc, counter.count_cons event rest, UInt64.ofNat_add]

/-- Before any counter has begun again, it shows the number of its events. -/
theorem toNat_get_countAll_zero {events : List Event} (few : events.length < 2 ^ 64) :
    ((zero.countAll events).get counter).toNat = counter.count events := by
  rw [get_countAll, get_zero, UInt64.zero_add]
  exact UInt64.toNat_ofNat_of_lt' ((counter.count_le_length events).trans_lt few)

end Tally

/-! ## Counters of parts -/

namespace Counter

variable {counter : Counter} {events : List Event} {β : Type}

theorem count_eq_length_filterMap {read : Event → Option β}
    (reads : ∀ event, (read event).isSome ↔ event.counter? = some counter) :
    counter.count events = (events.filterMap read).length := by
  rw [List.length_filterMap_eq_countP]
  exact List.countP_congr fun event _ => by simp [reads]

theorem count_predicates (events : List Event) :
    predicates.count events = (events.filterMap Event.built?).length := by
  refine count_eq_length_filterMap fun event => ?_
  cases event with
  | joined move => cases move <;> simp [Event.built?, Event.counter?]
  | _ => simp [Event.built?, Event.counter?]

theorem count_fieldsSkipped (events : List Event) :
    fieldsSkipped.count events = (events.filterMap Event.skipped?).length := by
  refine count_eq_length_filterMap fun event => ?_
  cases event with
  | joined move => cases move <;> simp [Event.skipped?, Event.counter?]
  | _ => simp [Event.skipped?, Event.counter?]

theorem count_joinsCreated (events : List Event) :
    joinsCreated.count events = (events.filterMap Event.created?).length := by
  refine count_eq_length_filterMap fun event => ?_
  cases event with
  | joined move => cases move <;> simp [Event.created?, JoinMove.created?, Event.counter?]
  | _ => simp [Event.created?, Event.counter?]

/-- Whether a counter is of parts of a compilation. -/
def isOfPart : Counter → Bool
  | predicates | joinsCreated | joinsReused | fieldsSkipped => true
  | _ => false

theorem isOfPart_of_counter? {event : Event} (part : event.isOfPart)
    (counted : event.counter? = some counter) : counter.isOfPart := by
  cases event with
  | joined move => cases move <;> (obtain rfl := Option.some.inj counted; rfl)
  | predicateBuilt | fieldSkipped => obtain rfl := Option.some.inj counted; rfl
  | _ => cases part

/-- Parts of a compilation move no other counters. -/
theorem count_eq_zero_of_parts (parts : ∀ event ∈ events, event.isOfPart)
    (other : counter.isOfPart = false) : counter.count events = 0 := by
  refine List.countP_eq_zero.mpr fun event mem counted => ?_
  rw [isOfPart_of_counter? (parts event mem) (of_decide_eq_true counted)] at other
  cases other

end Counter

end Criteria
