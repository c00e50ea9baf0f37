import Criteria.Join
import Criteria.Value.Printer

/-!
# Predicates

A predicate speaks of one column, reached from the root of a query or from one of its joins. All
predicates of a query hold together; there is no other way to combine them.
-/

namespace Criteria

/-- A column: where it hangs, its name, and the names from the root on with dots between them. -/
structure Column where
  source : Source
  name : String
  path : String
deriving DecidableEq, Repr

namespace Column

/-- A column of the root entity. -/
def root (name : String) : Column := ⟨.root, name, name⟩

/-- A column that hangs from a source of the given dotted path. -/
def under (source : Source) (parent : Option String) (name : String) : Column :=
  ⟨source, name, dotted parent name⟩

/-- A column that hangs from a source of a plan. -/
def ofPlan (plan : JoinPlan) (source : Source) (name : String) : Column :=
  under source (plan.pathOf source) name

end Column

/-- How a column is compared with an operand. -/
inductive Relation where
  | equal
  | notEqual
  | less
  | greater
  | among
  | like
deriving DecidableEq, Repr

/-- The symbol of a comparison. -/
def Relation.symbol : Relation → String
  | equal => "="
  | notEqual => "<>"
  | less => "<"
  | greater => ">"
  | among => "IN"
  | like => "LIKE"

/-- What a column is compared with, and how. The escape character belongs to a pattern. -/
structure Comparison where
  relation : Relation
  operand : Value
  escape : Option Char

/-- A condition on one column. -/
inductive Predicate where
  | compare (column : Column) (comparison : Comparison)
  | isNull (column : Column)
  | isNotNull (column : Column)

/-- The clause that names an escape character; a quote is written twice. -/
def escapeClause : Option Char → String
  | none => ""
  | some '\'' => " ESCAPE ''''"
  | some c => " ESCAPE '" ++ String.singleton c ++ "'"

/-- A comparison as text: its symbol, the literal of its operand, its escape character. -/
def Comparison.text (comparison : Comparison) : String :=
  comparison.relation.symbol ++ " " ++ comparison.operand.literal ++
    escapeClause comparison.escape

namespace Predicate

def column : Predicate → Column
  | compare column _ => column
  | isNull column => column
  | isNotNull column => column

/-- The comparison that a predicate makes, if it makes one. -/
def comparison? : Predicate → Option Comparison
  | compare _ comparison => some comparison
  | _ => none

/-- A predicate as text. -/
def text : Predicate → String
  | compare column comparison => column.path ++ " " ++ comparison.text
  | isNull column => column.path ++ " IS NULL"
  | isNotNull column => column.path ++ " IS NOT NULL"

end Predicate

end Criteria
