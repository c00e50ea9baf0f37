import Criteria.Binary64.Printer
import Criteria.Value.Basic

/-!
# Texts of values

A value has a literal, shown wherever a predicate is explained. A text or a number has besides a
search form: the text that a substring search looks for.
-/

namespace Criteria

/-- A variant with the path of its enumeration in front, when there is one. -/
def Tag.literal (tag : Tag) : String :=
  match tag.path with
  | some path => path ++ "::" ++ tag.variant
  | none => tag.variant

namespace Value

/-- A quote in a text is written twice. -/
def doubled : List Char → List Char
  | [] => []
  | '\'' :: cs => '\'' :: '\'' :: doubled cs
  | c :: cs => c :: doubled cs

mutual

/-- The literal of a value. -/
def literal : Value → String
  | .null => "NULL"
  | .bool b => if b then "true" else "false"
  | .int n => n.toInt.repr
  | .uint n => n.toNat.repr
  | .float x => x.plainText
  | .text s => "'" ++ String.ofList (doubled s.toList) ++ "'"
  | .tagged tag => tag.literal
  | .list items => "(" ++ itemsLiteral items ++ ")"
  | .map entries => "\x7b" ++ entriesLiteral entries ++ "\x7d"

/-- The items of a list, with a comma and a space between them. -/
def itemsLiteral : List Value → String
  | [] => ""
  | [v] => v.literal
  | v :: vs => v.literal ++ ", " ++ itemsLiteral vs

/-- The entries of a map, each a key, a colon and a value. -/
def entriesLiteral : List (Value × Value) → String
  | [] => ""
  | [(k, v)] => k.literal ++ ": " ++ v.literal
  | (k, v) :: rest => k.literal ++ ": " ++ v.literal ++ ", " ++ entriesLiteral rest

end

/-- The text that a substring search looks for; only texts and numbers have one. -/
def searchText? : Value → Option String
  | .text s => some s
  | .int n => some n.toInt.repr
  | .uint n => some n.toNat.repr
  | .float x => some x.exactText
  | _ => none

/-- A text is looked for as it is. -/
@[simp]
theorem searchText?_text (s : String) : (text s).searchText? = some s := rfl

/-- An unsigned integer is looked for by its decimal digits. -/
theorem searchText?_uint (n : UInt64) :
    (uint n).searchText? = some (String.ofList (Nat.toDigits 10 n.toNat)) := rfl

/-- An integer is looked for by the decimal digits of its magnitude, after a sign if it is
negative. -/
theorem searchText?_int (n : Int64) : (int n).searchText? =
    some ((if n.toInt < 0 then "-" else "") ++
      String.ofList (Nat.toDigits 10 n.toInt.natAbs)) := by
  rw [searchText?]
  cases n.toInt with
  | ofNat m =>
    have : ¬ (m : Int) < 0 := Int.not_lt.mpr (Int.natCast_nonneg m)
    simp [Int.repr, Nat.repr_eq_ofList_toDigits, this]
  | negSucc m => simp [Int.repr, Nat.repr_eq_ofList_toDigits]

end Value

end Criteria
