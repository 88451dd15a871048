import WsdlTypes.Text.Utf8
import WsdlTypes.Xml.Element
import WsdlTypes.Xml.Reference
import WsdlTypes.Xml.Token
/-!
# Documents

How the tokens of a text make a tree. Tokens are taken one after the other by a growing
tree (`Growth`), which checks what the tokens alone do not show: that tags match, that
prefixes are declared, that no attribute comes twice. References to entities are
replaced on the way, to a depth of ten; the text of an entity may hold markup.

`Element.parse` is the whole way from a text to its root element.
-/

namespace WsdlTypes.Xml

open Text (Cursor Position)

/-- The namespace that the prefix `xmlns` stands for and nothing else may. -/
def xmlnsUri : String := "http://www.w3.org/2000/xmlns/"

/-- How deep entities may refer to entities. -/
def entityDepth : Nat := 10

/-- How many references may be followed inside one reference. -/
def entityReferences : Nat := 255

/-- An element whose end tag has not come. -/
structure OpenElement where
  written : Name
  start : StartTag
  /-- What it holds so far, the latest first. -/
  held : List (String ⊕ Element) := []

/-- The element, once its end tag has come. -/
def OpenElement.close (o : OpenElement) : Element :=
  .mk o.start (.ofList o.held.reverse)

/-- A tree on its way. -/
structure Growth where
  /-- The entities in the order of their declarations. -/
  entities : List (String × Cursor) := []
  /-- How many references the outermost reference has led to. -/
  references : Nat := 0
  /-- The tag begun last in the text that is being read, with its position. -/
  tag : Option (Name × Position) := none
  /-- The prefixes that the tag declares, in order. -/
  declared : Scope := []
  /-- The attributes of the tag, in order. -/
  attributes : List (Name × String × Position) := []
  /-- The elements that are open, innermost first. -/
  opened : List OpenElement := []
  /-- The complete elements outside all others, the latest first. -/
  roots : List Element := []

namespace Growth

/-- The prefixes in scope where the tree grows. -/
def scope (g : Growth) : Scope :=
  match g.opened with
  | [] => []
  | o :: _ => o.start.scope

/-- The tree with a complete element at the place where it grows. -/
def addElement (g : Growth) (e : Element) : Growth :=
  match g.opened with
  | [] => { g with roots := e :: g.roots }
  | o :: outer => { g with opened := { o with held := .inr e :: o.held } :: outer }

/-- The tree with a text, given backwards, at the place where it grows. -/
def addText (g : Growth) (backwards : List Char) : Growth :=
  match g.opened, backwards with
  | [], _ => g
  | _, [] => g
  | o :: outer, cs =>
    { g with opened := { o with held := .inl (String.ofList cs.reverse) :: o.held } :: outer }

/-! ## References

Functions below take how much deeper references may still lead; at the outermost level
that is the whole depth. -/

/-- Counts a reference that is followed: those at the outermost level are free. -/
def follow (g : Growth) (remaining : Nat) (behind : Position) : Except Error Growth :=
  if remaining = entityDepth then .ok g
  else if g.references = entityReferences then .error (.entityLoop behind)
  else .ok { g with references := g.references + 1 }

/-- Ends a reference that was followed. -/
def unfollow (g : Growth) (remaining : Nat) : Growth :=
  if remaining = entityDepth then { g with references := 0 } else g

/-! ## Values of attributes

A value is collected backwards. -/

/-- A value with one more character: white space turns into a space, and a line end of two
characters into one. -/
def valueWith (value : List Char) (c : Char) (next : Option Piece) : List Char :=
  if c = '\r' && next == some (.char '\n') then value
  else if c = '\n' || c = '\r' || c = '\t' then ' ' :: value
  else c :: value

/-- Collects what pieces spell; `expand` collects an entity. -/
def spell (expand : Growth → Cursor → Position → List Char → Except Error (Growth × List Char))
    (nested : Bool) (g : Growth) (value : List Char) :
    List Piece → Except Error (Growth × List Char)
  | [] => .ok (g, value)
  | .char c :: rest => spell expand nested g (valueWith value c rest.head?) rest
  | .reference c p :: rest =>
    if !nested then spell expand nested g (c :: value) rest
    else if c = '<' then .error (.bareLessThan p)
    else spell expand nested g (valueWith value c none) rest
  | .entity name p behind :: rest =>
    match g.entities.lookup name with
    | none => .error (.unknownEntity name p)
    | some run =>
      match expand g run behind value with
      | .error e => .error e
      | .ok (g, value) => spell expand nested g value rest
  | .malformed p :: _ => .error (.malformedReference p)

/-- Collects an entity in a value. -/
def expandValue : Nat → Growth → Cursor → Position → List Char →
    Except Error (Growth × List Char)
  | 0, _, _, behind, _ => .error (.entityLoop behind)
  | deeper + 1, g, run, behind, value => do
    let g ← g.follow (deeper + 1) behind
    let (g, value) ← spell (expandValue deeper) true g value (Piece.ofRun run)
    return (g.unfollow (deeper + 1), value)

/-- The value that a run spells. -/
def valueOf (remaining : Nat) (g : Growth) (run : Cursor) : Except Error (Growth × String) := do
  let (g, value) ←
    spell (expandValue remaining) (remaining != entityDepth) g [] (Piece.ofRun run)
  return (g, String.ofList value.reverse)

/-! ## Text

A text is collected backwards. Every line end in it becomes a line feed; a character
given by a reference, and the one behind it, stand as they are. -/

/-- A text with one more character, which may be the last of its run. -/
def textWith (text : List Char) (c : Char) (isLast : Bool) : List Char :=
  match text with
  | '\r' :: before =>
    if isLast && c = '\r' then '\n' :: '\n' :: before
    else if c = '\n' then '\n' :: before
    else c :: '\n' :: before
  | text => if isLast && c = '\r' then '\n' :: text else c :: text

/-- The tree with the text that pieces spell; `expand` adds what an entity holds. -/
def addPieces (expand : Growth → Cursor → Position → Except Error Growth) (nested : Bool)
    (g : Growth) (text : List Char) (asIs : Bool) : List Piece → Except Error Growth
  | [] => .ok (g.addText text)
  | .char c :: rest =>
    addPieces expand nested g (if asIs then c :: text else textWith text c rest.isEmpty) false
      rest
  -- Outside entities the character stands as it is, and so does the next one.
  | .reference c _ :: rest =>
    if nested then addPieces expand nested g (textWith text c rest.isEmpty) asIs rest
    else addPieces expand nested g (c :: text) true rest
  | .entity name p behind :: rest =>
    match g.entities.lookup name with
    | none => .error (.unknownEntity name p)
    | some run =>
      match expand (g.addText text) run behind with
      | .error e => .error e
      | .ok g => addPieces expand nested g [] false rest
  | .malformed p :: _ => .error (.malformedReference p)

/-- The tree with the text of a section that holds no references. -/
def addSection (g : Growth) (text : List Char) : List Char → Growth
  | [] => g.addText text
  | c :: rest => addSection g (textWith text c rest.isEmpty) rest

/-! ## Tags -/

/-- Takes an attribute whose value is known: a declaration of a prefix, or one that waits
for the end of the tag. -/
def takeAttribute (g : Growth) (name : Name) (value : String) (p : Position) :
    Except Error Growth :=
  if name.nsPrefix = "xmlns" then
    if value = xmlnsUri then .error (.reservedXmlnsUri p)
    else if name.name = "xml" && value ≠ xmlUri then .error (.wrongXmlUri p)
    else if name.name ≠ "xml" && value = xmlUri then .error (.reservedXmlUri p)
    else if (g.declared.uri? name.name).isSome then .error (.duplicatePrefix name.name p)
    else if value = xmlUri then .ok g
    else .ok { g with declared := g.declared ++ [(name.name, value)] }
  else if name.name = "xmlns" then
    if value = xmlUri then .error (.reservedXmlUri p)
    else if value = xmlnsUri then .error (.reservedXmlnsUri p)
    else .ok { g with declared := g.declared ++ [("", value)] }
  else .ok { g with attributes := g.attributes ++ [(name, value, p)] }

/-- The prefixes in scope inside a tag: those it declares, and those it does not hide. -/
def scopeWithin (declared outer : Scope) : Scope :=
  declared ++ outer.filter fun binding => (declared.uri? binding.1).isNone

/-- The namespace of a name with a prefix that must be bound. -/
def uriOf (scope : Scope) (name : Name) (p : Position) : Except Error (Option String) :=
  match scope.uri? name.nsPrefix with
  | some uri => .ok (some uri)
  | none => if name.nsPrefix.isEmpty then .ok none else .error (.unknownPrefix name.nsPrefix p)

/-- The namespace of an attribute: without a prefix it has none. -/
def attributeUri (scope : Scope) (name : Name) (p : Position) : Except Error (Option String) :=
  if name.nsPrefix.isEmpty then .ok none
  else if name.nsPrefix = "xml" then .ok (some xmlUri)
  else uriOf scope name p

/-- The attributes of a tag behind those that are done, with their namespaces; none may
come twice. -/
def expandAttributes (scope : Scope) (before : List Attribute) :
    List (Name × String × Position) → Except Error (List Attribute)
  | [] => .ok before
  | (name, value, p) :: rest => do
    let uri ← attributeUri scope name p
    if before.any fun a => a.uri = uri && a.name = name.name then
      throw (.duplicateAttribute name.name p)
    expandAttributes scope (before ++ [⟨uri, name.name, value⟩]) rest

/-- The prefixes in scope at the end of a tag, and the attributes that wait for it. -/
def waiting (g : Growth) : Except Error (Scope × List Attribute) := do
  let scope := scopeWithin g.declared g.scope
  return (scope, ← expandAttributes scope [] g.attributes)

/-- Takes the end of a start tag. -/
def endTag (g : Growth) (isEmpty : Bool) : Except Error Growth :=
  match g.tag with
  | none => .ok g
  | some (name, p) => do
    -- The attributes are looked at before the element itself.
    let (scope, attributes) ← g.waiting
    let uri ← uriOf scope name (p.after '<')
    let start : StartTag := { uri, name := name.name, attributes, scope, line := p.row }
    let g := { g with declared := [], attributes := [] }
    return if isEmpty then g.addElement (.mk start .nil)
      else { g with opened := { written := name, start } :: g.opened }

/-- Takes a closing tag, which must match the element that was opened last. Attributes still
wait where an entity stopped inside its own start tag. -/
def close (g : Growth) (name : Name) (p : Position) : Except Error Growth :=
  match g.tag, g.opened with
  | some _, o :: outer => do
    let _ ← g.waiting
    if o.written = name then
      return { g with opened := outer, declared := [], attributes := [] }.addElement o.close
    else throw (.mismatchedTag o.written.render name.render p)
  | _, _ => .error (.strayClosingTag p)

/-- Takes a token; `expand` adds what an entity holds. -/
def take (expand : Growth → Cursor → Position → Except Error Growth) (remaining : Nat)
    (g : Growth) : Token → Except Error Growth
  | .tagStart name p =>
    if name.nsPrefix = "xmlns" then .error (.reservedElementPrefix (p.after '<'))
    else .ok { g with tag := some (name, p) }
  | .attribute name value p => do
    let (g, value) ← g.valueOf remaining value
    g.takeAttribute name value p
  | .tagEnd isEmpty => g.endTag isEmpty
  | .close name p => g.close name p
  | .text run => addPieces expand (remaining != entityDepth) g [] false (Piece.ofRun run)
  | .cdata run => .ok (g.addSection [] run)
  | .entity name value => .ok { g with entities := g.entities ++ [(name, value)] }

/-- Takes the tokens of a text, and refuses it for what stopped their reading. -/
def takeAll (expand : Growth → Cursor → Position → Except Error Growth) (remaining : Nat)
    (g : Growth) (tokens : Tokens) : Except Error Growth := do
  let g ← tokens.tokens.foldlM (take expand remaining) g
  match tokens.failure with
  | some e => throw e
  | none => return g

/-- Adds what an entity in a text holds. -/
def expandText : Nat → Growth → Cursor → Position → Except Error Growth
  | 0, _, _, behind => .error (.entityLoop behind)
  | deeper + 1, g, run, behind => do
    let g ← g.follow (deeper + 1) behind
    -- Inside the entity no tag has begun: it cannot close one that it did not open.
    let grown ← takeAll (expandText deeper) deeper { g with tag := none } (Token.ofContent run)
    return { grown with tag := g.tag }.unfollow (deeper + 1)

/-- The root of a tree that has come to its end. -/
def root (g : Growth) : Except Error Element :=
  match g.opened, g.roots.getLast? with
  | _ :: _, _ => .error .unclosedRoot
  | [], none => .error .noRoot
  | [], some root => .ok root

end Growth

/-- The root element of a text. Unless document types are allowed, a text that has one is
refused. -/
def Element.parse (doctypes : Bool) (text : String) : Except Error Element := do
  let tokens := Token.ofDocument doctypes (Text.chars text)
  (← Growth.takeAll (Growth.expandText entityDepth) entityDepth {} tokens).root

end WsdlTypes.Xml
