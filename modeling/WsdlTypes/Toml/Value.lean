import WsdlTypes.Text.Position
/-!
# TOML values

What a configuration file in TOML holds: a table of named values, which may be tables
themselves. A table remembers how it came to be, for that decides what may be added to it
further down in the file.
-/

namespace WsdlTypes.Toml

/-- How a table came to be. -/
inductive Origin where
  /-- Under a header of its own, or as the whole file. -/
  | headed
  /-- On the way to a table with a header. -/
  | implied
  /-- On the way to a value whose key has dots. -/
  | dotted
  /-- Between braces, as a value. -/
  | braced
deriving DecidableEq, Repr

/-- A value. Numbers with a fraction and points in time are kept as they are written. -/
inductive Value where
  | string (text : String)
  | integer (value : Int)
  | float (text : String)
  | boolean (value : Bool)
  | moment (text : String)
  | array (items : List Value)
  | table (origin : Origin) (members : List (String × Value))
  /-- The tables of one header in double brackets. -/
  | tables (items : List (List (String × Value)))
deriving Repr

/-- The members of a table, in order. -/
abbrev Members := List (String × Value)

/-- Why a text is not in the notation. -/
inductive Error where
  | unreadable (p : Text.Position)
  | redefined (key : String)
deriving DecidableEq, Repr

/-- The cause in words. -/
def Error.message : Error → String
  | unreadable p => "cannot be read at " ++ p.render
  | redefined key => "the key '" ++ key ++ "' cannot be defined here"

end WsdlTypes.Toml
