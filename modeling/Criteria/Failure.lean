import Criteria.Config.Basic
import Criteria.Error
import Criteria.Schema.Registry

/-!
# Failures as callers see them

Whatever goes wrong becomes a failure: one of five kinds, which stay the same, and a message.
-/

namespace Criteria

/-- Where a failure comes from: the declaration of a filter, the schema or a path, an operator, the
configuration, or the execution with its pages. -/
inductive FailureKind where
  | metadata
  | schema
  | operator
  | config
  | execute
deriving DecidableEq, Repr

namespace FailureKind

def name : FailureKind → String
  | metadata => "Metadata"
  | schema => "Schema"
  | operator => "Operator"
  | config => "Config"
  | execute => "Execute"

def all : List FailureKind := [metadata, schema, operator, config, execute]

/-- The kind of exactly this name. -/
def ofName? (name : String) : Option FailureKind := all.find? (·.name = name)

end FailureKind

/-- A failure. -/
structure Failure where
  kind : FailureKind
  message : String
deriving DecidableEq, Repr

namespace Failure

/-- A failure of the engine. -/
def execute (message : String) : Failure := ⟨.execute, message⟩

def ofQuery (error : QueryError) : Failure where
  kind :=
    match error with
    | .filter _ => .metadata
    | .path _ => .schema
    | .operator _ => .operator
    | .emptyPage => .execute
  message := error.message

def ofSchema (error : SchemaError) : Failure := ⟨.schema, error.message⟩

def ofConfig (error : ConfigError) : Failure := ⟨.config, error.message⟩

/-- The kind and the message. -/
def text (failure : Failure) : String := failure.kind.name ++ ": " ++ failure.message

end Failure

end Criteria
