import WsdlTypes.Xml.Scan
/-!
# References in text and values

Inside a run of text or an attribute's value, a reference stands for a character given by
its number, for one of five characters with names, or for an entity that the document
type declares. The pieces of a run are its characters and its references, in order; the
last piece is the one behind which the run ends. A reference that cannot be read is the
last piece of its run.
-/

namespace WsdlTypes.Xml

open Text (Cursor Position)

/-- A part of a run that is read as a whole. -/
inductive Piece where
  | char (c : Char)
  /-- A character given by its number or its name; the position is the ampersand's. -/
  | reference (c : Char) (p : Position)
  /-- A declared entity; the positions are those of the ampersand and of what follows. -/
  | entity (name : String) (p behind : Position)
  | malformed (p : Position)
deriving DecidableEq, Repr

namespace Piece

/-- The character of a number as a reference gives it. A number that is no character's
gives the replacement character, one beyond 32 bits or of a control gives none. -/
def charOfNumber? (n : Nat) : Option Char :=
  if n < 0x100000000 then
    let c := if n.isValidChar then Char.ofNat n else Text.replacement
    if isXmlChar c then some c else none
  else none

/-- The value of a digit, of a radix up to sixteen. -/
def digitValue (c : Char) : Nat :=
  if c.isDigit then c.toNat - '0'.toNat else c.toLower.toNat - 'a'.toNat + 10

/-- Whether a character is a hexadecimal digit. -/
def isHexDigit (c : Char) : Bool :=
  c.isDigit || ('a' ≤ c && c ≤ 'f') || ('A' ≤ c && c ≤ 'F')

/-- The number that digits spell; there must be one. -/
def number? (radix : Nat) (digits : List Char) : Option Nat :=
  if digits.isEmpty then none
  else some (digits.foldl (fun n c => n * radix + digitValue c) 0)

/-- The character of a predefined name. -/
def predefined? (name : String) : Option Char :=
  [("quot", '"'), ("amp", '&'), ("apos", '\''), ("lt", '<'), ("gt", '>')].lookup name

open Scan Text.Scan

/-- Reads a reference behind its ampersand. -/
def read (p : Position) : Scan Piece := do
  if (← peek?) = some '#' then
    skip 1
    -- A number: hexadecimal behind an x, else decimal.
    let hex := (← peek?) = some 'x'
    if hex then skip 1
    let digits ← takeWhile (if hex then isHexDigit else Char.isDigit)
    match (number? (if hex then 16 else 10) digits).bind charOfNumber? with
    | some c =>
      Scan.char ';'
      done (.reference c p)
    | none => fail (.malformedReference p)
  else
    let name ← plainName
    Scan.char ';'
    match predefined? name with
    | some c => done (.reference c p)
    | none => done (.entity name p (← position))

/-- The pieces of a run. -/
def ofRun (run : Cursor) : List Piece :=
  match _h : run.rest with
  | [] => []
  | c :: _ =>
    if c = '&' then
      match read run.position (run.drop 1) with
      | .error _ => [.malformed run.position]
      | .ok step => step.value :: ofRun step.next
    else .char c :: ofRun (run.drop 1)
termination_by run.size
decreasing_by
  · have hle := step.le
    have hpos : 0 < run.size := by simp [Cursor.size, _h]
    rw [Cursor.size_drop] at hle
    omega
  · have hpos : 0 < run.size := by simp [Cursor.size, _h]
    rw [Cursor.size_drop]
    omega

end Piece

end WsdlTypes.Xml
