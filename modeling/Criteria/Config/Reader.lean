import Criteria.Config.Basic
import Criteria.Config.Document
import Criteria.Names

/-!
# Reading a configuration

A document sets some of the settings, each at most once and each to a scalar of its type; the others
keep their standard values. What comes out is checked.
-/

namespace Criteria.Config

open Document (Scalar)

/-- A text of one character. -/
def character? : Scalar → Option Char
  | .text s =>
    match s.toList with
    | [c] => some c
    | _ => none
  | _ => none

/-- An integer of 32 bits without a sign. -/
def size? : Scalar → Option UInt32
  | .integer n => if 0 ≤ n ∧ n.toNat < Nat.pow 2 32 then some (.ofNat n.toNat) else none
  | _ => none

def boolean? : Scalar → Option Bool
  | .boolean b => some b
  | _ => none

/-- The configuration with one setting changed, if the key is that of a setting and the scalar is of
its type. -/
def set? (config : Config) (key : String) (scalar : Scalar) : Option Config :=
  if key = Setting.separator.key then
    (character? scalar).map fun c => { config with separator := c }
  else if key = Setting.escape.key then
    (character? scalar).map fun c => { config with escape := c }
  else if key = Setting.rememberLayouts.key then
    (boolean? scalar).map fun b => { config with rememberLayouts := b }
  else if key = Setting.defaultPageSize.key then
    (size? scalar).map fun n => { config with defaultPageSize := n }
  else if key = Setting.maxPageSize.key then
    (size? scalar).map fun n => { config with maxPageSize := n }
  else none

/-- The standard configuration with the settings of a document. -/
def ofSettings? (settings : List (String × Scalar)) : Option Config :=
  match Names.repeated? (settings.map (·.1)) with
  | some _ => none
  | none => settings.foldlM (fun config entry => config.set? entry.1 entry.2) standard

/-- The configuration that a document says. -/
def ofDocument (text : String) : Except ConfigError Config :=
  match (Document.settings text).bind ofSettings? with
  | none => .error .malformed
  | some config => config.check.map fun _ => config

/-- The configuration of a file, given its bytes if it exists. They have to be UTF-8. -/
def ofFile (bytes : Option ByteArray) : Except ConfigError Config :=
  match bytes.bind String.fromUTF8? with
  | none => .error .unreadable
  | some text => ofDocument text

end Criteria.Config
