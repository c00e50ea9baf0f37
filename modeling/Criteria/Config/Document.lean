/-!
# Settings documents

A settings document is a TOML document in which every line sets a key to a text, an integer or a
truth value. Other documents are refused as a whole: tables, arrays, dotted keys, floats and dates
have nothing to say about a setting.

Every function that reads takes the characters that are left and gives back those that are left
after it.
-/

namespace Criteria.Document

/-- What a key is set to. -/
inductive Scalar where
  | text (s : String)
  | integer (n : Int)
  | boolean (b : Bool)
deriving DecidableEq, Repr

/-! ## Characters -/

/-- The space and the tab. -/
def isBlank (c : Char) : Bool := c = ' ' || c = '\t'

/-- The characters that comments and texts hold as they are: all but the controls, the tab
excepted. -/
def isPlain (c : Char) : Bool := c = '\t' || (' ' ≤ c && c ≠ '\x7f')

/-- The characters of a key without quotes. -/
def isKeyChar (c : Char) : Bool := c.isAlphanum || c = '_' || c = '-'

/-- The characters of a value without quotes. -/
def isTokenChar (c : Char) : Bool := isKeyChar c || c = '+' || c = '.' || c = ':'

/-- The worth of a digit in bases up to sixteen. -/
def digit? (c : Char) : Option Nat :=
  if '0' ≤ c ∧ c ≤ '9' then some (c.toNat - '0'.toNat)
  else if 'a' ≤ c ∧ c ≤ 'f' then some (c.toNat - 'a'.toNat + 10)
  else if 'A' ≤ c ∧ c ≤ 'F' then some (c.toNat - 'A'.toNat + 10)
  else none

/-! ## Integers -/

/-- The number that digits of a base write; there has to be one. -/
def number? (base : Nat) : List Char → Option Nat
  | [] => none
  | digits => digits.foldlM (fun n c => do
      let d ← digit? c
      if d < base then some (n * base + d) else none) 0

/-- Digits with single underscores between some of them. -/
def grouped? (base : Nat) (digits : List Char) : Option Nat :=
  if (digits.splitOn '_').any (·.isEmpty) then none else number? base (digits.filter (· ≠ '_'))

/-- A decimal number without needless zeros in front. -/
def decimal? : List Char → Option Nat
  | ['0'] => some 0
  | '0' :: _ => none
  | digits => grouped? 10 digits

/-- An integer: decimal with a sign or without, or in base sixteen, eight or two. -/
def integer? : List Char → Option Int
  | '+' :: digits => (decimal? digits).map Int.ofNat
  | '-' :: digits => (decimal? digits).map fun n => -Int.ofNat n
  | '0' :: 'x' :: digits => (grouped? 16 digits).map Int.ofNat
  | '0' :: 'o' :: digits => (grouped? 8 digits).map Int.ofNat
  | '0' :: 'b' :: digits => (grouped? 2 digits).map Int.ofNat
  | digits => (decimal? digits).map Int.ofNat

/-! ## Texts -/

/-- The character with the code point that hexadecimal digits write. -/
def codePoint? (digits : List Char) : Option Char := do
  let n ← number? 16 digits
  if h : n.isValidChar then some (.ofNatAux n h) else none

/-- The character that a backslash and one letter stand for. -/
def shortEscape? : Char → Option Char
  | 'b' => some '\x08'
  | 't' => some '\t'
  | 'n' => some '\n'
  | 'f' => some '\x0c'
  | 'r' => some '\r'
  | 'e' => some '\x1b'
  | '"' => some '"'
  | '\\' => some '\\'
  | _ => none

/-- A character in front of what is read after it. -/
def prepend (c : Char) : List Char × List Char → List Char × List Char
  | (text, rest) => (c :: text, rest)

/-- The rest of a text up to its double quote, with its escapes resolved. -/
def quotedText : List Char → Option (List Char × List Char)
  | [] => none
  | '"' :: rest => some ([], rest)
  | '\\' :: 'x' :: a :: b :: rest => do
    let c ← codePoint? [a, b]
    return prepend c (← quotedText rest)
  | '\\' :: 'u' :: a :: b :: c :: d :: rest => do
    let c ← codePoint? [a, b, c, d]
    return prepend c (← quotedText rest)
  | '\\' :: 'U' :: a :: b :: c :: d :: e :: f :: g :: h :: rest => do
    let c ← codePoint? [a, b, c, d, e, f, g, h]
    return prepend c (← quotedText rest)
  | '\\' :: c :: rest => do
    let c ← shortEscape? c
    return prepend c (← quotedText rest)
  | c :: rest => if isPlain c then (quotedText rest).map (prepend c) else none

/-- The rest of a text up to its single quote. -/
def rawText : List Char → Option (List Char × List Char)
  | [] => none
  | '\'' :: rest => some ([], rest)
  | c :: rest => if isPlain c then (rawText rest).map (prepend c) else none

/-- After three closing quotes up to two more may stand, which belong to the text. -/
def closing (quote : Char) : List Char → List Char × List Char
  | a :: b :: rest =>
    if a = quote then if b = quote then ([a, b], rest) else ([a], b :: rest) else ([], a :: b :: rest)
  | [a] => if a = quote then ([a], []) else ([], [a])
  | [] => ([], [])

/-- Whether a line ends here, blanks aside. -/
def atLineEnd (rest : List Char) : Bool :=
  match rest.dropWhile isBlank with
  | '\n' :: _ | '\r' :: '\n' :: _ => true
  | _ => false

/-- The rest of a text of several lines up to its three double quotes. A backslash at the end of a
line takes away all blanks and line ends after it, which are passed while `trimming`. -/
def quotedLines (trimming : Bool) : List Char → Option (List Char × List Char)
  | [] => none
  | '"' :: '"' :: '"' :: rest => some (closing '"' rest)
  | '\r' :: '\n' :: rest =>
    if trimming then quotedLines true rest
    else (quotedLines false rest).map fun read => prepend '\r' (prepend '\n' read)
  | '\\' :: 'x' :: a :: b :: rest => do
    let c ← codePoint? [a, b]
    return prepend c (← quotedLines false rest)
  | '\\' :: 'u' :: a :: b :: c :: d :: rest => do
    let c ← codePoint? [a, b, c, d]
    return prepend c (← quotedLines false rest)
  | '\\' :: 'U' :: a :: b :: c :: d :: e :: f :: g :: h :: rest => do
    let c ← codePoint? [a, b, c, d, e, f, g, h]
    return prepend c (← quotedLines false rest)
  | '\\' :: c :: rest =>
    if atLineEnd (c :: rest) then quotedLines true (c :: rest)
    else do
      let c ← shortEscape? c
      return prepend c (← quotedLines false rest)
  | c :: rest =>
    if trimming && (isBlank c || c = '\n') then quotedLines true rest
    else if isPlain c || c = '\n' then (quotedLines false rest).map (prepend c)
    else none

/-- The rest of a text of several lines up to its three single quotes. -/
def rawLines : List Char → Option (List Char × List Char)
  | [] => none
  | '\'' :: '\'' :: '\'' :: rest => some (closing '\'' rest)
  | '\r' :: '\n' :: rest => (rawLines rest).map fun read => prepend '\r' (prepend '\n' read)
  | c :: rest => if isPlain c || c = '\n' then (rawLines rest).map (prepend c) else none

/-- A line end right after the opening quotes does not belong to a text of several lines. -/
def dropLineEnd : List Char → List Char
  | '\n' :: rest => rest
  | '\r' :: '\n' :: rest => rest
  | rest => rest

/-! ## Keys, values and lines -/

/-- A key, bare or in quotes. -/
def key : List Char → Option (String × List Char)
  | '"' :: rest => (quotedText rest).map fun (text, rest) => (.ofList text, rest)
  | '\'' :: rest => (rawText rest).map fun (text, rest) => (.ofList text, rest)
  | input =>
    let name := input.takeWhile isKeyChar
    if name.isEmpty then none else some (.ofList name, input.dropWhile isKeyChar)

/-- A value without quotes: a truth value or an integer. -/
def token? (token : List Char) : Option Scalar :=
  if token = "true".toList then some (.boolean true)
  else if token = "false".toList then some (.boolean false)
  else (integer? token).map .integer

/-- A value. -/
def value : List Char → Option (Scalar × List Char)
  | '"' :: '"' :: '"' :: rest => (quotedLines false (dropLineEnd rest)).map ofText
  | '"' :: rest => (quotedText rest).map ofText
  | '\'' :: '\'' :: '\'' :: rest => (rawLines (dropLineEnd rest)).map ofText
  | '\'' :: rest => (rawText rest).map ofText
  | input => (token? (input.takeWhile isTokenChar)).map fun scalar =>
      (scalar, input.dropWhile isTokenChar)
where
  ofText : List Char × List Char → Scalar × List Char
    | (text, rest) => (.text (.ofList text), rest)

/-- A key, an equals sign and a value. -/
def setting (input : List Char) : Option ((String × Scalar) × List Char) := do
  let (name, rest) ← key input
  match rest.dropWhile isBlank with
  | '=' :: rest =>
    let (scalar, rest) ← value (rest.dropWhile isBlank)
    return ((name, scalar), rest)
  | _ => none

/-- The end of a line, after blanks and perhaps a comment. -/
def lineEnd (input : List Char) : Option (List Char) :=
  let rest := input.dropWhile isBlank
  let rest :=
    match rest with
    | '#' :: comment => comment.dropWhile isPlain
    | rest => rest
  match rest with
  | [] => some []
  | '\n' :: rest => some rest
  | '\r' :: '\n' :: rest => some rest
  | _ => none

/-- A line: a setting or nothing, and its end. -/
def line (input : List Char) : Option (Option (String × Scalar) × List Char) :=
  match lineEnd input with
  | some rest => some (none, rest)
  | none => do
    let (entry, rest) ← setting (input.dropWhile isBlank)
    return (some entry, ← lineEnd rest)

/-- The settings of at most so many lines. -/
def lines : Nat → List Char → Option (List (String × Scalar))
  | _, [] => some []
  | 0, _ => none
  | count + 1, input => do
    let (entry, rest) ← line input
    return entry.toList ++ (← lines count rest)

/-- The settings of a document, in order. A byte order mark may stand in front. Every line takes
one character at least, so there are no more lines than characters. -/
def settings (text : String) : Option (List (String × Scalar)) :=
  let input :=
    match text.toList with
    | '\ufeff' :: rest => rest
    | input => input
  lines input.length input

end Criteria.Document
