import WsdlTypes.Text.Split
import WsdlTypes.Xml.Scan
/-!
# Tokens of a document

A document is read as a list of tokens: the start of a tag, each of its attributes, its
end, closing tags, and runs of text. Comments and processing instructions are checked and
leave no token. A text that goes wrong somewhere gives the tokens before that place and
the error; so whoever consumes the tokens may refuse an earlier one first.

The text of an entity is read the same way, from the middle of an element
(`Token.ofContent`); it ends early where it closes an element that it did not open.
-/

namespace WsdlTypes.Xml

open Text (Cursor Position)

/-- A part of a document that matters to its structure. Values and runs of text keep their
references unread. -/
inductive Token where
  /-- A tag begins; the position is that of its angle bracket. -/
  | tagStart (name : Name) (p : Position)
  | attribute (name : Name) (value : Cursor) (p : Position)
  | tagEnd (isEmpty : Bool)
  | close (name : Name) (p : Position)
  | text (run : Cursor)
  | cdata (run : List Char)
  | entity (name : String) (value : Cursor)
deriving DecidableEq, Repr

/-- The tokens of a text, and what stopped their reading short of its end. -/
structure Tokens where
  tokens : List Token
  failure : Option Error
deriving DecidableEq, Repr

namespace Token

/-- What is being read. -/
inductive Source where
  /-- A whole document, which may have a document type or not. -/
  | document (doctypes : Bool)
  /-- The text of an entity. -/
  | entity
deriving DecidableEq, Repr

/-- Where in the structure of a text a reading stands. A depth is the number of elements
of this text that are open. -/
inductive Place where
  | prolog (doctypeRead : Bool)
  /-- Inside a document type that began at the position. -/
  | subset (start : Position) (spaced : Bool)
  | tag (depth : Nat) (spaced : Bool)
  | content (depth : Nat)
  | epilog
  | over
deriving DecidableEq, Repr

/-- Where a reading stands behind an element that lies at a depth. -/
def Source.behindElement (source : Source) (depth : Nat) : Place :=
  match source, depth with
  | .document _, 0 => .epilog
  | _, depth => .content depth

/-- Where a reading stands behind a closing tag met at a depth. -/
def Source.behindClosing (source : Source) (depth : Nat) : Place :=
  match depth with
  | 0 => .over
  | outer + 1 => source.behindElement outer

/-- What is wrong with a text that ends at a place. -/
def Place.endError? (place : Place) (p : Position) : Option Error :=
  match place with
  | .tag _ true => some .unexpectedEnd
  | .subset _ true => some (.unknownToken p)
  | _ => none

open Scan Text.Scan

/-- Reads a comment behind its opening; its start is given for the error. -/
def comment (start : Position) : Scan Unit := do
  let run ← through "-->"
  if Text.occursIn ['-', '-'] run || run.getLast? == some '-' then fail (.doubleHyphen start)
  else done ()

/-- Reads a processing instruction behind its opening. -/
def instruction : Scan Unit := do
  let _ ← plainName
  spaces
  let _ ← through "?>"

/-- Reads a processing instruction from behind the angle bracket. -/
def instructionTag (start : Position) : Scan Unit := do
  if ← startsWith "?xml " then fail (.misplacedDeclaration start)
  else
    skip 1
    instruction

/-- Reads a quoted text of which nothing is kept. -/
def literal : Scan Unit := do
  let q ← quote
  let _ ← takeWhile (· ≠ q)
  char q

/-- Reads a reference to something outside the document, if one comes. -/
def externalId : Scan Bool := do
  let system ← startsWith "SYSTEM"
  let pub ← startsWith "PUBLIC"
  if system || pub then
    skip 6
    someSpaces
    literal
    if pub then
      someSpaces
      literal
    done true
  else done false

/-- Reads the value of an entity; one that lies outside the document has none. -/
def entityValue (general : Bool) : Scan (Option Cursor) := do
  let c ← peek
  if c = '"' || c = '\'' then
    skip 1
    let start ← position
    let value ← takeWhile (· ≠ c)
    char c
    done (some ⟨value, start⟩)
  else if c = 'S' || c = 'P' then
    if ← externalId then
      if general then
        spaces
        if ← startsWith "NDATA" then
          skip 5
          someSpaces
          nameUnlessEnd
      done none
    else failHere .invalidExternalId
  else failHere (.unexpectedChar "a quote, SYSTEM or PUBLIC" c)

/-- Reads the declaration of an entity behind its keyword. -/
def entityDeclaration : Scan (List Token) := do
  someSpaces
  let general := (← peek?) != some '%'
  if !general then
    skip 1
    someSpaces
  let name ← plainName
  someSpaces
  let value ← entityValue general
  spaces
  char '>'
  done (value.toList.map (Token.entity name))

/-- Reads a document type behind its keyword, up to its internal part or its end. -/
def doctype (start : Position) : Scan Place := do
  someSpaces
  nameUnlessEnd
  spaces
  let _ ← externalId
  spaces
  let c ← peek
  if c = '>' then
    skip 1
    done (.prolog true)
  else if c = '[' then
    skip 1
    done (.subset start false)
  else failHere (.unexpectedChar "'[' or '>'" c)

/-- Reads on inside a document type, behind the first character. -/
def inSubset (start : Position) (p : Position) (first : Char) : Scan (List Token × Place) := do
  if isSpace first then done ([], .subset start true)
  -- The internal part ends, and with it the document type.
  else if first = ']' then
    spaces
    char '>'
    done ([], .prolog true)
  else if first = '<' then
    if ← startsWith "!ENTITY" then
      skip 7
      done (← entityDeclaration, .subset start false)
    else if ← startsWith "!--" then
      skip 3
      comment p
      done ([], .subset start false)
    else if ← startsWith "?" then
      instructionTag p
      done ([], .subset start false)
    else if (← startsWith "!ELEMENT") || (← startsWith "!ATTLIST") || (← startsWith "!NOTATION")
    then
      let _ ← takeWhile (· ≠ '>')
      match ← peek? with
      | some _ =>
        skip 1
        done ([], .subset start false)
      | none => fail (.unknownToken start)
    else fail (.unknownToken p)
  else fail (.unknownToken p)

/-- Reads on outside the root element, behind the first character. -/
def outsideRoot (source : Source) (place : Place) (p : Position) (first : Char) :
    Scan (List Token × Place) := do
  if isSpace first then done ([], place)
  else if first = '<' then
    if ← startsWith "!--" then
      skip 3
      comment p
      done ([], place)
    else if ← startsWith "?" then
      instructionTag p
      done ([], place)
    else if place = .prolog false && (← startsWith "!DOCTYPE") then
      if source = .document true then
        skip 8
        done ([], ← doctype p)
      else fail .doctypeRefused
    else if place = .epilog then fail (.unknownToken p)
    else done ([.tagStart (← name) p], .tag 0 false)
  else fail (.unknownToken p)

/-- Reads on inside a tag, behind the first character. -/
def inTag (source : Source) (depth : Nat) (spaced : Bool) (p : Position) (first : Char) :
    Scan (List Token × Place) := do
  if isSpace first then done ([], .tag depth true)
  else if first = '/' then
    char '>'
    done ([.tagEnd true], source.behindElement depth)
  else if first = '>' then done ([.tagEnd false], .content (depth + 1))
  else if !spaced then fail (.unexpectedChar "a whitespace" first p)
  else if !isNameChar first then fail (.invalidName p)
  else
    let name ← nameFrom p [first]
    let value ← assigned
    done ([.attribute name value p], .tag depth false)

/-- Reads on inside an element, behind the first character. -/
def inContent (source : Source) (depth : Nat) (p : Position) (first : Char) :
    Scan (List Token × Place) := do
  if first = '<' then
    match ← peek? with
    | none => fail (.unknownToken p)
    | some '!' =>
      if ← startsWith "!--" then
        skip 3
        comment p
        done ([], .content depth)
      else if ← startsWith "![CDATA[" then
        skip 8
        done ([.cdata (← through "]]>")], .content depth)
      else fail (.unknownToken p)
    | some '?' =>
      instructionTag p
      done ([], .content depth)
    | some '/' =>
      skip 1
      let closed ← name
      spaces
      char '>'
      done ([.close closed p], source.behindClosing depth)
    | some _ => done ([.tagStart (← name) p], .tag depth false)
  else if !isXmlChar first then fail (.notXmlChar first p)
  else
    let more ← charsBefore fun rest => rest.head? == some '<'
    -- What would end a section must not stand outside one.
    if Text.occursIn [']', ']', '>'] (first :: more) then failHere .strayCdataEnd
    else done ([.text ⟨first :: more, p⟩], .content depth)

/-- Reads on behind the first character at a place. -/
def readAt (source : Source) (place : Place) (p : Position) (first : Char) :
    Scan (List Token × Place) :=
  match place with
  | .subset start _ => inSubset start p first
  | .tag depth spaced => inTag source depth spaced p first
  | .content depth => inContent source depth p first
  | place => outsideRoot source place p first

/-- The tokens of the rest of a text, read from a place. -/
def readFrom (source : Source) (place : Place) (c : Cursor) : Tokens :=
  match _h : c.rest with
  | [] => ⟨[], place.endError? c.position⟩
  | first :: _ =>
    if place = .over then ⟨[], none⟩
    else
      match readAt source place c.position first (c.drop 1) with
      | .error e => ⟨[], some e⟩
      | .ok step =>
        -- A later error does not take back the tokens read so far.
        let more := readFrom source step.value.2 step.next
        ⟨step.value.1 ++ more.tokens, more.failure⟩
termination_by c.size
decreasing_by
  have hle := step.le
  have hpos : 0 < c.size := by simp [Cursor.size, _h]
  rw [Cursor.size_drop] at hle
  omega

/-- Reads white space in a declaration, which may be missing before its end and before that
of the text. -/
def declarationSpaces : Scan Unit := do
  match ← peek? with
  | some c =>
    if isSpace c then spaces
    else if ← startsWith "?>" then done ()
    else failHere (.unexpectedChar "a whitespace" c)
  | none => done ()

/-- Reads an assignment whose name is known to come next. -/
def declarationPart : Scan Unit := do
  let _ ← name
  let _ ← assigned

/-- Reads the declaration at the front of a document. -/
def declaration : Scan Unit := do
  skip 5
  declarationSpaces
  if ← startsWith "version" then declarationPart
  else failHere (.missingText "version")
  declarationSpaces
  if ← startsWith "encoding" then
    declarationPart
    declarationSpaces
  if ← startsWith "standalone" then declarationPart
  spaces
  Scan.text "?>"

/-- The tokens of a document. A byte order mark at its front is passed over. -/
def ofDocument (doctypes : Bool) (cs : List Char) : Tokens :=
  let whole := Cursor.start cs
  let c := if cs.head? = some '\ufeff' then whole.drop 1 else whole
  let source := Source.document doctypes
  if c.startsWith "<?xml " then
    match declaration c with
    | .error e => ⟨[], some e⟩
    | .ok step => readFrom source (.prolog false) step.next
  else readFrom source (.prolog false) c

/-- The tokens of an entity's text. -/
def ofContent (value : Cursor) : Tokens := readFrom .entity (.content 0) value

end Token

end WsdlTypes.Xml
