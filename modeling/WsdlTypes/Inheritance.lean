import WsdlTypes.Operation
import WsdlTypes.Problem
import WsdlTypes.Unvisited
/-!
# Inheritance

Following the parents of a type ends at a type without one, at a name that is not declared,
or at a name that was met before. `parentCycle?` finds out about the last of these.
`ancestry` is the way itself, where it ends at a type without a parent, and `flatten`
collects the properties on it, the nearest one of each name.
-/

namespace WsdlTypes.TypeMap

/-- The parent that the type of a name has. -/
def parent? (types : TypeMap) (key : ExpandedName) : Option ExpandedName :=
  (types.get? key).bind TypeDescriptor.parent

theorem mem_keys_of_parent? {types : TypeMap} {key parent : ExpandedName}
    (h : types.parent? key = some parent) : key ∈ types.keys := by
  obtain ⟨type, hget, -⟩ := Option.bind_eq_some_iff.1 h
  exact SortedMap.contains_iff.1 (by simp [SortedMap.contains, hget])

/-- The first name that is met again on the way up from a name, when others were met before. -/
def cycleFrom? (types : TypeMap) (visited : List ExpandedName) (key : ExpandedName) :
    Option ExpandedName :=
  if _hnew : key ∈ visited then some key
  else
    match _hparent : types.parent? key with
    | none => none
    | some parent => types.cycleFrom? (key :: visited) parent
termination_by unvisited types.keys visited
decreasing_by exact unvisited_cons_lt (mem_keys_of_parent? _hparent) _hnew

/-- The first name that is met again on the way up from a name. -/
def parentCycle? (types : TypeMap) (key : ExpandedName) : Option ExpandedName :=
  types.cycleFrom? [] key

theorem mem_values_of_get? {types : TypeMap} {key : ExpandedName} {type : TypeDescriptor}
    (h : types.get? key = some type) : type ∈ types.values :=
  List.mem_map.2 ⟨(key, type), SortedMap.get?_eq_some_iff.1 h, rfl⟩

/-- A type and what it inherits from, when types of other names were met before. Every type
that may be met carries one of the names `all`. -/
def ancestryFrom (types : TypeMap) (all visited : List ExpandedName) (type : TypeDescriptor)
    (_hall : type.key ∈ all) (hvalues : ∀ t ∈ types.values, t.key ∈ all) :
    Except OperationError (List TypeDescriptor) :=
  if _hnew : type.key ∈ visited then .error (.inheritanceLoop type.key)
  else
    match type.parent with
    | none => .ok [type]
    | some parent =>
      match _hget : types.get? parent with
      | none => .error (.unknownType parent)
      | some next =>
        -- The parent is one of the types of the map, so its name is among all.
        (types.ancestryFrom all (type.key :: visited) next
          (hvalues next (mem_values_of_get? _hget)) hvalues).map (type :: ·)
termination_by unvisited all visited
decreasing_by exact unvisited_cons_lt _hall _hnew

/-- A type and all that it inherits from, nearest first. -/
def ancestry (types : TypeMap) (type : TypeDescriptor) :
    Except OperationError (List TypeDescriptor) :=
  types.ancestryFrom ((type :: types.values).map TypeDescriptor.key) [] type
    List.mem_cons_self fun _ ht => List.mem_cons_of_mem _ (List.mem_map_of_mem ht)

/-- The parameters, and behind them one for a property whose name is new. -/
def addParameter (parameters : List Parameter) (property : Property) : List Parameter :=
  if parameters.any fun parameter => parameter.name = property.name then parameters
  else parameters ++ [⟨property.name, property.type⟩]

/-- The properties of a type and of all that it inherits from, the nearest one of each name,
in the order in which they are met. -/
def flatten (types : TypeMap) (type : TypeDescriptor) : Except OperationError (List Parameter) :=
  (types.ancestry type).map fun chain =>
    (chain.flatMap TypeDescriptor.properties).foldl addParameter []

end WsdlTypes.TypeMap
