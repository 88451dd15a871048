import WsdlTypes.References
import WsdlTypes.Service
import WsdlTypes.Traversal
import WsdlTypes.Walk
/-!
# Sessions

A session resolves documents one after the other into one map of types. Resolving a
location brings its document in with all that it leads to, walks the declarations of what is
new, checks what these refer to, and resolves the operations. Only the document at the
location itself has to be there; what is wrong further on is noted and does not stop the
session.

A location that is asked for again changes nothing, nor does one whose document cannot be
brought in, except that it counts as tried.
-/

namespace WsdlTypes

/-- What was resolved so far. -/
structure Session where
  config : Config
  library : Library
  /-- The namespaces that documents take over from those that include them. -/
  inherited : List (Nat × String) := []
  types : TypeMap := .empty
  operations : List Operation := []
  findings : List Finding := []

/-- All that came of a session. -/
structure Resolution where
  soapVersion : SoapVersion
  types : TypeMap
  operations : List Operation
  diagnostics : List Diagnostic

namespace Session

/-- A session that has resolved nothing. -/
def new (config : Config) : Session :=
  { config, library := { doctypes := config.doctypes } }

/-- The catalog of all documents, also of those that came in earlier. -/
def catalog (session : Session) : Catalog :=
  .ofDocuments session.library.documents (session.inherited.lookup ·)

/-- The types and the operations once the declarations of some documents are taken in. -/
def survey (session : Session) (order : List Nat) : Report (TypeMap × List Operation) := do
  let walk ← Walk.documents session.config session.catalog session.types order
  References.check walk.types walk.fresh
  let operations ←
    Service.operationsOf session.config.naming session.catalog walk.types order
  return (walk.types, session.operations ++ operations)

/-- The session with the declarations of some documents taken in. -/
def takeIn (session : Session) (order : List Nat) : Session :=
  let report := session.survey order
  { session with
    types := report.value.1
    operations := report.value.2
    findings := session.findings ++ report.findings }

/-- The session with a document that just came in, and with all that it leads to. -/
def absorb (session : Session) (tree : File.Tree) (document : Document) : Session :=
  -- All documents come in before the first declaration is walked.
  let t := Traversal.run tree (.ofRoot session.library session.inherited document)
  { session with
    library := t.library
    inherited := t.inherited
    findings := session.findings ++ t.findings }.takeIn t.order

/-- Resolves the document at a location. -/
def load (session : Session) (tree : File.Tree) (location : Location) :
    Session × Except LoadError LoadOutcome :=
  let (library, result) := session.library.load tree location
  let session := { session with library }
  match result with
  | .ok (.loaded document) => (session.absorb tree document, result)
  | _ => (session, result)

/-- Resolves the document at a location that a text names. -/
def resolve (session : Session) (tree : File.Tree) (source : String) :
    Session × Except LoadError LoadOutcome :=
  match Location.parse source with
  | .ok location => session.load tree location
  | .error cause => (session, .error cause)

/-- What was noted, in words. -/
def diagnostics (session : Session) : List Diagnostic :=
  session.findings.map (Finding.diagnostic session.config.naming)

/-- Whether anything was noted. -/
def hasErrors (session : Session) : Bool := !session.findings.isEmpty

/-- What came of the session. -/
def finish (session : Session) : Resolution where
  soapVersion := session.config.soapVersion
  types := session.types
  operations := session.operations
  diagnostics := session.diagnostics

end Session

/-- Resolves the document at a location in a session of its own. -/
def resolve (config : Config) (tree : File.Tree) (source : String) :
    Except LoadError Resolution :=
  match (Session.new config).resolve tree source with
  | (session, .ok _) => .ok session.finish
  | (_, .error cause) => .error cause

end WsdlTypes
