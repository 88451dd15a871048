import WsdlTypes.Text.Scan
import WsdlTypes.Xml.Error
import WsdlTypes.Xml.Name
/-!
# Reading the parts of a document

What the tokens of a document are made of: names, white space, quoted values, and runs of
characters that end before a mark. Each reading refuses the text with the error that the
first character out of place calls for.
-/

namespace WsdlTypes.Xml

open Text (Cursor Position)

/-- A reading of the front of a document. -/
abbrev Scan (α : Type) : Type := Text.Scan Error α

namespace Scan

open Text.Scan

/-- The next character, which must be there. -/
def peek : Scan Char := do
  match ← peek? with
  | some c => done c
  | none => fail .unexpectedEnd

/-- Takes the one character that may come next. -/
def char (expected : Char) : Scan Unit := do
  let c ← peek
  if c = expected then skip 1
  else failHere (.unexpectedChar ("'" ++ expected.toString ++ "'") c)

/-- Takes the text that must come next. -/
def text (expected : String) : Scan Unit := do
  if ← startsWith expected then skip expected.length
  else failHere (.missingText expected)

/-- Takes white space, if there is any. -/
def spaces : Scan Unit := do
  let _ ← takeWhile isSpace

/-- Takes white space, of which there must be some. -/
def someSpaces : Scan Unit := do
  let c ← peek
  if isSpace c then spaces else failHere (.unexpectedChar "a whitespace" c)

/-- Takes an opening quote of either kind. -/
def quote : Scan Char := do
  let c ← peek
  if c = '"' || c = '\'' then
    skip 1
    done c
  else failHere (.unexpectedChar "a quote" c)

/-- What comes before the first place that a test accepts, where every character may stand
in a document. -/
def runBefore (stop : List Char → Bool) : List Char → List Char
  | [] => []
  | c :: rest => if !isXmlChar c || stop (c :: rest) then [] else c :: runBefore stop rest

/-- Takes the characters before the first place that a test accepts; each must be one that
may stand in a document. -/
def charsBefore (stop : List Char → Bool) : Scan (List Char) := do
  let c ← cursor
  let run := runBefore stop c.rest
  skip run.length
  match ← peek? with
  | some c => if isXmlChar c then done run else failHere (.notXmlChar c)
  | none => done run

/-- Takes the characters before a text, and the text, which must come. -/
def through (stop : String) : Scan (List Char) := do
  let run ← charsBefore (stop.toList.isPrefixOf ·)
  text stop
  done run

/-- Takes a name without parts. -/
def plainName : Scan String := do
  let start ← position
  match ← peek? with
  | some c =>
    if isNameStart c then
      done (String.ofList (← takeWhile isNameChar))
    else fail (.invalidName start)
  | none => fail (.invalidName start)

/-- Takes a name without parts, unless the text is at its end. -/
def nameUnlessEnd : Scan Unit := do
  match ← peek? with
  | some _ => let _ ← plainName
  | none => done ()

/-- Takes the rest of a name that began at a position with some characters. -/
def nameFrom (start : Position) (begun : List Char) : Scan Name := do
  let more ← takeWhile isNameChar
  match Name.ofChars? (begun ++ more) with
  | some name => done name
  | none => fail (.invalidName start)

/-- Takes a name, with or without a prefix. -/
def name : Scan Name := do
  nameFrom (← position) []

/-- Takes an equals sign and a value between quotes, and gives the value with its place. -/
def assigned : Scan Cursor := do
  spaces
  char '='
  spaces
  let q ← quote
  let start ← position
  let value ← charsBefore fun rest => rest.head? == some q || rest.head? == some '<'
  char q
  done ⟨value, start⟩

end Scan

end WsdlTypes.Xml
