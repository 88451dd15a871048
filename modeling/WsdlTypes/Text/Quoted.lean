import WsdlTypes.Text.Printable
/-!
# Quoted text

How a message shows a text or a character that came from its input: between quotes, with
the quote and the backslash escaped, the four common controls by their letter, and every
other character that does not show on its own by its code point.
-/

namespace WsdlTypes.Text

/-- A natural number in hexadecimal, lower case, without leading zeros. -/
def hexadecimal (n : Nat) : String := String.ofList (Nat.toDigits 16 n)

/-- A character as it stands between quotes of the given kind. -/
def escaped (quote c : Char) : String :=
  match c with
  | '\x00' => "\\0"
  | '\t' => "\\t"
  | '\r' => "\\r"
  | '\n' => "\\n"
  | '\\' => "\\\\"
  | c =>
    if c = quote then "\\" ++ c.toString
    else if isPrintable c then c.toString
    else "\\u\x7b" ++ hexadecimal c.toNat ++ "\x7d"

/-- A text between double quotes. -/
def quoted (s : String) : String := "\"" ++ String.join (s.toList.map (escaped '"')) ++ "\""

/-- A character between single quotes. -/
def quotedChar (c : Char) : String := "'" ++ escaped '\'' c ++ "'"

end WsdlTypes.Text
