/-!
# JSON

Values and their text, laid out with one member or item to a line, each level indented by
two blanks. Only the two quoting characters and control characters are escaped.
-/

namespace WsdlTypes

/-- A value of the notation, as far as results need it. -/
inductive Json where
  | bool (value : Bool)
  | number (value : Nat)
  | string (value : String)
  | array (items : List Json)
  | object (members : List (String × Json))
deriving Repr, Inhabited

namespace Json

/-- A digit of a hexadecimal number. -/
def hexDigit (n : Nat) : Char := if n < 10 then Char.ofNat (48 + n) else Char.ofNat (87 + n)

/-- A character inside a string. -/
def escape (c : Char) : List Char :=
  match c with
  | '"' => ['\\', '"']
  | '\\' => ['\\', '\\']
  | '\n' => ['\\', 'n']
  | '\r' => ['\\', 'r']
  | '\t' => ['\\', 't']
  | '\x08' => ['\\', 'b']
  | '\x0c' => ['\\', 'f']
  | c =>
    if c.toNat < 0x20 then
      ['\\', 'u', '0', '0', hexDigit (c.toNat / 16), hexDigit (c.toNat % 16)]
    else [c]

/-- A text between quotes. -/
def quoted (text : String) : String :=
  "\"" ++ String.ofList (text.toList.flatMap escape) ++ "\""

/-- The break before a line of a depth. -/
def lineBreak (depth : Nat) : String := "\n" ++ String.ofList (List.replicate (2 * depth) ' ')

mutual

/-- The text of a value inside as many others. -/
def layout (depth : Nat) : Json → String
  | bool value => if value then "true" else "false"
  | number value => toString value
  | string value => quoted value
  | array [] => "[]"
  | array (item :: rest) =>
    "[" ++ lineBreak (depth + 1) ++ layout (depth + 1) item ++ layoutItems depth rest
      ++ lineBreak depth ++ "]"
  | object [] => "\x7b\x7d"
  | object (member :: rest) =>
    "\x7b" ++ lineBreak (depth + 1) ++ layoutMember depth member ++ layoutMembers depth rest
      ++ lineBreak depth ++ "\x7d"

/-- The text of the items behind the first one. -/
def layoutItems (depth : Nat) : List Json → String
  | [] => ""
  | item :: rest =>
    "," ++ lineBreak (depth + 1) ++ layout (depth + 1) item ++ layoutItems depth rest

/-- The text of a member. -/
def layoutMember (depth : Nat) : String × Json → String
  | (name, value) => quoted name ++ ": " ++ layout (depth + 1) value

/-- The text of the members behind the first one. -/
def layoutMembers (depth : Nat) : List (String × Json) → String
  | [] => ""
  | member :: rest =>
    "," ++ lineBreak (depth + 1) ++ layoutMember depth member ++ layoutMembers depth rest

end

/-- The text of a value. -/
def render (value : Json) : String := layout 0 value

end Json

end WsdlTypes
