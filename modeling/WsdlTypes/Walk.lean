import WsdlTypes.Declaration
/-!
# Walking schemas

The declarations of a schema enter the map of types one after the other: elements first,
then complex types, then simple types. A declaration under a name that is taken is reported
and merged into the type that is there; a type with a simple value keeps no parent then.
-/

namespace WsdlTypes

/-- How far a walk has come: the types, and the names that were new to it, in order. -/
structure Walk where
  types : TypeMap := .empty
  fresh : List ExpandedName := []

namespace Walk

variable (config : Config) (catalog : Catalog)

/-- Reports and drops the parent of a type that has a simple value, too. -/
def dropParent (schema : Schema) (e : Xml.Element) (type : TypeDescriptor) :
    Report TypeDescriptor :=
  match type.property? config.valueName, type.parent with
  | some _, some parent => do
    schema.report e (.simpleContentParent type.key parent)
    return { type with parent := none }
  | _, _ => pure type

/-- Enters the descriptor of a declaration. -/
def enter (schema : Schema) (e : Xml.Element) (walk : Walk) (type : TypeDescriptor) :
    Report Walk :=
  match walk.types.get? type.key with
  | none => pure {
      types := walk.types.insert type.key type
      fresh := walk.fresh ++ [type.key] }
  | some older => do
    -- The report names the newer declaration, also where it changes nothing.
    schema.report e (.duplicateType type.key type.location)
    let merged ← dropParent config schema e (older.merge type)
    return { walk with types := walk.types.insert type.key merged }

/-- Enters what a declaration is described by, if by anything. -/
def enterDescribed (describe : Schema → Xml.Element → Report (Option TypeDescriptor))
    (schema : Schema) (walk : Walk) (e : Xml.Element) : Report Walk := do
  match ← describe schema e with
  | some type => enter config schema e walk type
  | none => return walk

/-- Walks the declarations of a schema. -/
def schema (walk : Walk) (schema : Schema) : Report Walk := do
  let declarations := schema.element.children schemaUri
  let walk ← Report.fold
    (enterDescribed config (Declaration.describeElement config catalog) schema)
    walk (declarations "element")
  let walk ← Report.fold
    (enterDescribed config (Declaration.describeType config catalog) schema)
    walk (declarations "complexType")
  Report.fold
    (enterDescribed config (Declaration.describeType config catalog) schema)
    walk (declarations "simpleType")

/-- Walks the schemas of some documents, in the order in which the documents are given. -/
def documents (types : TypeMap) (documents : List Nat) : Report Walk :=
  Report.fold (schema config catalog) { types } (catalog.schemasOf documents)

end Walk

end WsdlTypes
