import Criteria.Event.Basic

/-!
# Counting events

A tally counts the events that end something or make something. Starts are not counted. A counter
has 64 bits and begins again from zero after its last number.
-/

namespace Criteria

/-- What is counted. -/
inductive Counter where
  | compiles
  | failures
  | predicates
  | joinsCreated
  | joinsReused
  | fieldsSkipped
  | cacheHits
  | cacheMisses
  | queries
deriving DecidableEq, Repr

namespace Counter

def all : List Counter :=
  [compiles, failures, predicates, joinsCreated, joinsReused, fieldsSkipped, cacheHits,
    cacheMisses, queries]

def name : Counter → String
  | compiles => "compiles"
  | failures => "failures"
  | predicates => "predicates"
  | joinsCreated => "joins_created"
  | joinsReused => "joins_reused"
  | fieldsSkipped => "fields_skipped"
  | cacheHits => "cache_hits"
  | cacheMisses => "cache_misses"
  | queries => "queries"

end Counter

/-- The counter of an event, if it is counted. -/
def Event.counter? : Event → Option Counter
  | compileFinish .. => some .compiles
  | compileFailed .. => some .failures
  | predicateBuilt .. => some .predicates
  | joined (.created ..) => some .joinsCreated
  | joined (.reused ..) => some .joinsReused
  | fieldSkipped .. => some .fieldsSkipped
  | layoutFound _ => some .cacheHits
  | layoutMade _ => some .cacheMisses
  | queryFinish .. => some .queries
  | compileStart .. | queryStart .. => none

/-- How often each counted thing has happened. -/
structure Tally where
  compiles : UInt64
  failures : UInt64
  predicates : UInt64
  joinsCreated : UInt64
  joinsReused : UInt64
  fieldsSkipped : UInt64
  cacheHits : UInt64
  cacheMisses : UInt64
  queries : UInt64
deriving DecidableEq, Repr

namespace Tally

def zero : Tally := ⟨0, 0, 0, 0, 0, 0, 0, 0, 0⟩

instance : Inhabited Tally := ⟨zero⟩

/-- The number on a counter. -/
def get (tally : Tally) : Counter → UInt64
  | .compiles => tally.compiles
  | .failures => tally.failures
  | .predicates => tally.predicates
  | .joinsCreated => tally.joinsCreated
  | .joinsReused => tally.joinsReused
  | .fieldsSkipped => tally.fieldsSkipped
  | .cacheHits => tally.cacheHits
  | .cacheMisses => tally.cacheMisses
  | .queries => tally.queries

/-- The tally with one counter moved on by one. -/
def increment (tally : Tally) : Counter → Tally
  | .compiles => { tally with compiles := tally.compiles + 1 }
  | .failures => { tally with failures := tally.failures + 1 }
  | .predicates => { tally with predicates := tally.predicates + 1 }
  | .joinsCreated => { tally with joinsCreated := tally.joinsCreated + 1 }
  | .joinsReused => { tally with joinsReused := tally.joinsReused + 1 }
  | .fieldsSkipped => { tally with fieldsSkipped := tally.fieldsSkipped + 1 }
  | .cacheHits => { tally with cacheHits := tally.cacheHits + 1 }
  | .cacheMisses => { tally with cacheMisses := tally.cacheMisses + 1 }
  | .queries => { tally with queries := tally.queries + 1 }

/-- The counters by name. -/
def entries (tally : Tally) : List (String × Nat) :=
  Counter.all.map fun counter => (counter.name, (tally.get counter).toNat)

/-- The tally with one more event. -/
def count (tally : Tally) (event : Event) : Tally :=
  match event.counter? with
  | some counter => tally.increment counter
  | none => tally

/-- The tally with more events. -/
def countAll (tally : Tally) (events : List Event) : Tally := events.foldl count tally

end Tally

end Criteria
