/-!
# Documents of lists and objects

What travels between programs: texts, decimal numbers, truth values, null, and lists and objects of
such.
-/

namespace Criteria

/-- A document. A number is its digits, read as an integer, with so many places after the point. -/
inductive Wire where
  | null
  | bool (b : Bool)
  | number (digits : Int) (places : Nat)
  | text (s : String)
  | list (items : List Wire)
  | object (fields : List (String × Wire))
deriving Repr, Inhabited

namespace Wire

/-- A whole number. -/
def nat (n : Nat) : Wire := number n 0

/-- A list of texts. -/
def texts (items : List String) : Wire := list (items.map text)

/-- Something or null. -/
def option {α : Type} (write : α → Wire) (x : Option α) : Wire := x.elim null write

/-- A name with what belongs to it. -/
def tagged (name : String) (content : Wire) : Wire := object [(name, content)]

/-! ## Reading -/

/-- A text. -/
def text? : Wire → Option String
  | text s => some s
  | _ => none

/-- The name that a document says: a text, or an object that gives nothing but null to a name. -/
def name? : Wire → Option String
  | text name => some name
  | object [(name, null)] => some name
  | _ => none

/-- The values of the named fields of a record: of an object, whose other fields are passed over, or
of the list of exactly these values. -/
def record? (names : List String) : Wire → Option (List Wire)
  | object fields => names.mapM fun name => fields.lookup name
  | list items => if items.length = names.length then some items else none
  | _ => none

end Wire

end Criteria
