import WsdlTypes.Text.Scan
import WsdlTypes.Toml.Number
import WsdlTypes.Toml.Table
/-!
# Reading TOML

A file is read line by line: headers, keys with their values, and lines without either. A
value may stretch over several lines where it is an array or a text in triple quotes.
-/

namespace WsdlTypes.Toml

open Text (Cursor Position)
open Text.Scan

/-- A reading of the front of a file. -/
abbrev Scan (α : Type) : Type := Text.Scan Error α

namespace Scan

/-- Refuses the text at the next character. -/
def refuse {α : Type} : Scan α := failHere .unreadable

/-- The next character, which must be there. -/
def next : Scan Char := do
  match ← peek? with
  | some c => done c
  | none => refuse

/-- Takes the character that must come next. -/
def char (expected : Char) : Scan Unit := do
  if (← next) = expected then skip 1 else refuse

/-- Whether a character may stand in a text or a comment. -/
def isPlain (c : Char) : Bool := c == '\t' || (0x20 ≤ c.toNat && c.toNat != 0x7f)

/-- Whether a line ends here. -/
def atLineEnd : List Char → Bool
  | '\n' :: _ => true
  | '\r' :: '\n' :: _ => true
  | _ => false

/-- Takes blanks and tabs. -/
def blanks : Scan Unit := do
  let _ ← takeWhile fun c => c == ' ' || c == '\t'

/-- Takes the end of a line. -/
def lineEnd : Scan Unit := do
  if ← startsWith "\r\n" then skip 2
  else char '\n'

/-- Takes a comment, if one comes. -/
def comment : Scan Unit := do
  if ← startsWith "#" then
    let _ ← takeWhile isPlain

/-- Takes what may follow on a line, and its end. -/
def trailing : Scan Unit := do
  blanks
  comment
  match ← peek? with
  | some _ => lineEnd
  | none => done ()

/-- Takes blanks, comments and ends of lines. -/
def gap : Scan Unit := do
  blanks
  let _ ← many (fun rest => rest.head? == some '#' || atLineEnd rest) do
    comment
    lineEnd
    blanks

/-! ## Texts -/

/-- Reads a character that is written as a number in some hexadecimal digits. -/
def numbered (width : Nat) : Scan (List Char) := do
  let c ← cursor
  match (c.rest.take width).mapM (Number.digit? 16) with
  | none => refuse
  | some digits =>
    let code := Number.ofDigits 16 digits
    if digits.length = width ∧ code.isValidChar then
      skip width
      done [Char.ofNat code]
    else refuse

/-- Reads an escape behind its backslash. -/
def escape : Scan (List Char) := do
  let c ← next
  skip 1
  match c with
  | 'b' => done ['\x08']
  | 't' => done ['\t']
  | 'n' => done ['\n']
  | 'f' => done ['\x0c']
  | 'r' => done ['\r']
  | '"' => done ['"']
  | '\\' => done ['\\']
  | 'u' => numbered 4
  | 'U' => numbered 8
  | _ => refuse

/-- Reads a character of a text on one line, or an escape. -/
def oneLinePiece (escapes : Bool) : Scan (List Char) := do
  let c ← next
  if escapes && c == '\\' then
    skip 1
    escape
  else if isPlain c then
    skip 1
    done [c]
  else refuse

/-- Reads a text on one line behind its opening quote. -/
def oneLine (quote : Char) : Scan String := do
  let pieces ← many (fun rest => rest.head? != some quote) (oneLinePiece (quote == '"'))
  char quote
  done (String.ofList pieces.flatten)

/-- Reads a part of a text in triple quotes. A backslash at the end of a line takes all blanks
and ends of lines behind it away. -/
def piece (escapes : Bool) : Scan (List Char) := do
  let c ← cursor
  if atLineEnd c.rest then
    lineEnd
    done ['\n']
  else if escapes && (← startsWith "\\")
      && atLineEnd ((c.rest.drop 1).dropWhile fun c => c == ' ' || c == '\t') then
    skip 1
    -- The line goes on where the next text begins.
    let _ ← many (fun rest => rest.head? == some ' ' || rest.head? == some '\t' || atLineEnd rest)
      (do if atLineEnd (← cursor).rest then lineEnd else skip 1)
    done []
  else oneLinePiece escapes

/-- Reads a text in triple quotes behind the opening ones. Up to two quotes may stand before
the closing ones. -/
def multiLine (quote : Char) : Scan String := do
  if atLineEnd (← cursor).rest then lineEnd
  let closing := List.replicate 3 quote
  let pieces ← many (fun rest => !closing.isPrefixOf rest) (piece (quote == '"'))
  -- Quotes in front of the closing three belong to the text.
  let quotes ← takeWhile (· == quote)
  if 3 ≤ quotes.length ∧ quotes.length ≤ 5 then
    done (String.ofList (pieces.flatten ++ quotes.drop 3))
  else refuse

/-- Reads a text between quotes of either kind. -/
def quoted (quote : Char) : Scan String := do
  if ← startsWith (String.ofList (List.replicate 3 quote)) then
    skip 3
    multiLine quote
  else
    skip 1
    oneLine quote

/-! ## Keys -/

/-- Whether a character may stand in a key without quotes. -/
def isBare (c : Char) : Bool := c.isAlphanum || c == '_' || c == '-'

/-- Reads one part of a key. -/
def keyPart : Scan String := do
  let c ← next
  if c = '"' ∨ c = '\'' then
    skip 1
    oneLine c
  else if isBare c then done (String.ofList (← takeWhile isBare))
  else refuse

/-- The number that neither the parts of a key nor the brackets around a value reach. -/
def nestingBound : Nat := 80

/-- Reads a key and the blanks around it. -/
def key : Scan (List String) := do
  blanks
  let first ← keyPart
  blanks
  let more ← many (·.head? == some '.') do
    skip 1
    blanks
    let part ← keyPart
    blanks
    done part
  if more.length + 1 < nestingBound then done (first :: more) else refuse

/-! ## Values -/

/-- Whether a character may stand in a value without quotes or brackets. -/
def isSpelling (c : Char) : Bool := isBare c || c == '+' || c == '.' || c == ':'

/-- Reads a value without quotes or brackets. A blank may stand between a date and a time. -/
def spelled : Scan Value := do
  let spelling ← takeWhile isSpelling
  let c ← cursor
  let time := (c.rest.drop 1).takeWhile isSpelling
  if Number.isDate spelling && (← startsWith " ") && Number.isZonedTime time then
    skip (time.length + 1)
    done (.moment (String.ofList (spelling ++ ' ' :: time)))
  else
    match Number.value? spelling with
    | some value => done value
    | none => refuse

/-- Reads a value that is not made of others. -/
def simple : Scan Value := do
  let c ← next
  if c = '"' ∨ c = '\'' then done (.string (← quoted c)) else spelled

/-- Reads an array behind its opening bracket; a comma may follow the last item. -/
def array (item : Scan Value) : Scan Value := do
  gap
  let items ← many (·.head? != some ']') do
    let value ← item
    gap
    if (← next) ≠ ']' then
      char ','
      gap
    done value
  char ']'
  done (.array items)

/-- Reads a key with its value. -/
def pair (item : Scan Value) : Scan (List String × Value) := do
  let path ← key
  char '='
  blanks
  done (path, ← item)

/-- Reads a key with its value, and the blanks behind. -/
def member (item : Scan Value) : Scan (List String × Value) := do
  let found ← pair item
  blanks
  done found

/-- Reads a table behind its opening brace; it stands on one line. -/
def table (item : Scan Value) : Scan Value := do
  blanks
  let first ← if (← next) = '}' then done [] else done [← member item]
  let more ← many (·.head? == some ',') do
    skip 1
    member item
  char '}'
  match Members.assignAll [] (first ++ more) with
  | .ok members => done (.table .braced members)
  | .error e => fail e

/-- Reads a value inside brackets that may be opened so often again. -/
def value : (depth : Nat) → Scan Value
  | 0 => simple
  | depth + 1 => do
    let c ← next
    if c = '[' then
      skip 1
      array (value depth)
    else if c = '{' then
      skip 1
      table (value depth)
    else simple

/-! ## Lines -/

/-- What a line says. -/
inductive Line where
  | void
  | header (header : Header)
  | pair (path : List String) (value : Value)

/-- Reads a header behind its bracket. -/
def header : Scan Header := do
  if ← startsWith "[" then
    skip 1
    let path ← key
    char ']'
    char ']'
    done (.tables path)
  else
    let path ← key
    char ']'
    done (.table path)

/-- Reads a line. -/
def line : Scan Line := do
  blanks
  let c ← cursor
  if c.rest.isEmpty || c.rest.head? == some '#' || atLineEnd c.rest then
    trailing
    done .void
  else if ← startsWith "[" then
    skip 1
    let found ← header
    trailing
    done (.header found)
  else
    let (path, found) ← pair (value (nestingBound - 1))
    trailing
    done (.pair path found)

/-- Reads the lines of a file, which may begin with a byte order mark. -/
def lines : Scan (List Line) := do
  if ← startsWith "\ufeff" then skip 1
  many (!·.isEmpty) line

end Scan

/-- The values before the first header, and what stands under each header. -/
def sections : List Scan.Line →
    List (List String × Value) × List (Header × List (List String × Value))
  | [] => ([], [])
  | .void :: rest => sections rest
  | .pair path value :: rest =>
    let (pairs, headed) := sections rest
    ((path, value) :: pairs, headed)
  | .header header :: rest =>
    let (pairs, headed) := sections rest
    ([], (header, pairs) :: headed)

/-- The members of the table that a file is. -/
def read (text : String) : Except Error Members := do
  let step ← Scan.lines (.start text.toList)
  let (pairs, headed) := sections step.value
  let root ← Members.assignAll [] pairs
  headed.foldlM (fun members (header, pairs) => members.enter header pairs) root

end WsdlTypes.Toml
