import Criteria.Event.Basic

/-!
# Log records

An event as a record for a log: how much it matters, what it says, and its details as named texts.
-/

namespace Criteria

/-- How much a record matters. -/
inductive Severity where
  | warn
  | info
  | debug
  | trace
deriving DecidableEq, Repr

def Severity.name : Severity → String
  | warn => "WARN"
  | info => "INFO"
  | debug => "DEBUG"
  | trace => "TRACE"

def SkipReason.name : SkipReason → String
  | ignored => "Ignored"
  | unset => "Unset"

def QueryKind.name : QueryKind → String
  | find => "Find"
  | count => "Count"

/-- A record, with its details in order. -/
structure Record where
  severity : Severity
  message : String
  details : List (String × String)
deriving DecidableEq, Repr

namespace Record

/-- The part of a program that all records are filed under. -/
def target : String := "sifter"

/-- The number and size of a page as details. -/
def pageDetails : Option PageRequest → List (String × String)
  | some page => [("page", page.number.toNat.repr), ("size", page.size.toNat.repr)]
  | none => []

/-- The record of an event. -/
def ofEvent : Event → Record
  | .compileStart filter entity =>
    ⟨.debug, "compile start", [("filter", filter), ("entity", entity)]⟩
  | .compileFinish filter entity predicates joins =>
    ⟨.debug, "compile finish",
      [("filter", filter), ("entity", entity), ("predicates", predicates.repr),
        ("joins", joins.repr)]⟩
  | .compileFailed filter entity error =>
    ⟨.warn, "compile failed",
      [("filter", filter), ("entity", entity), ("error", error.message)]⟩
  | .layoutFound model => ⟨.trace, "filter model cache hit", [("filter", model)]⟩
  | .layoutMade model => ⟨.debug, "filter model cache miss", [("filter", model)]⟩
  | .fieldSkipped field reason =>
    ⟨.trace, "field skipped", [("field", field), ("reason", reason.name)]⟩
  | .joined (.created owner association path) =>
    ⟨.trace, "join created",
      [("owner", owner), ("association", association), ("path", path)]⟩
  | .joined (.reused owner association) =>
    ⟨.trace, "join reused", [("owner", owner), ("association", association)]⟩
  | .predicateBuilt field operator column =>
    ⟨.trace, "predicate built",
      [("field", field), ("op", operator.name), ("column", column)]⟩
  | .queryStart kind entity page =>
    ⟨.info, "query start", [("kind", kind.name), ("entity", entity)] ++ pageDetails page⟩
  | .queryFinish kind entity rows =>
    ⟨.info, "query finish",
      [("kind", kind.name), ("entity", entity), ("rows", rows.toNat.repr)]⟩

end Record

end Criteria
