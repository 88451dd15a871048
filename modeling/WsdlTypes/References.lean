import WsdlTypes.Inheritance
import WsdlTypes.Report
/-!
# Checking references

Once the types of some documents are in the map, what they refer to has to be there, and no
type may inherit from itself. What is wrong is reported for the type that refers, without a
line.
-/

namespace WsdlTypes.References

/-- What a type refers to: its parent and the types of its properties, each with who refers. -/
def ofType (type : TypeDescriptor) : List (String × ExpandedName) :=
  type.parent.toList.map (("parent", ·))
    ++ type.properties.filterMap fun property =>
      property.type.reference?.map (property.name, ·)

/-- Reports what a type refers to and is not there, and whether it inherits from itself. -/
def checkType (types : TypeMap) (key : ExpandedName) (type : TypeDescriptor) : Report Unit := do
  let missing := (ofType type).filter fun reference => !types.contains reference.2
  let _ ← Report.each
    (fun (referrer, target) =>
      .finding (.undeclaredReference target referrer type.name) type.location 0)
    missing
  match types.parentCycle? key with
  | some closedBy => .finding (.inheritanceLoop type.name closedBy) type.location 0
  | none => pure ()

/-- Checks the types of some names. -/
def check (types : TypeMap) (keys : List ExpandedName) : Report Unit := do
  let _ ← Report.each
    (fun key =>
      match types.get? key with
      | some type => checkType types key type
      | none => pure ())
    keys

end WsdlTypes.References
