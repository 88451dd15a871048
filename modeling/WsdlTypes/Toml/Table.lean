import WsdlTypes.Toml.Value
/-!
# Building tables

A file fills its tables from the front to the back. A key is set once. A dotted key makes
the tables on its way and may add to tables that dotted keys have made, but not to those
with a header; a header makes the tables on its way, too, and may claim one that was only
on the way to another. A table between braces is complete at once.
-/

namespace WsdlTypes.Toml

/-- What a header opens. -/
inductive Header where
  | table (path : List String)
  /-- One more of the tables of a name. -/
  | tables (path : List String)
deriving DecidableEq, Repr

namespace Members

/-- Members with the value of a key replaced. -/
def replace (members : Members) (key : String) (value : Value) : Members :=
  members.map fun member => if member.1 = key then (key, value) else member

/-- Members with a change made to the table at the end of a path. Tables that are missing on
the way are made. `origin` is that of the table whose members these are, `made` that of the
tables on the way. -/
def change (made : Origin) (f : Origin → Members → Except Error Members) :
    (path : List String) → (origin : Origin) → Members → Except Error Members
  | [], origin, members => f origin members
  | key :: path, _, members =>
    match members.lookup key with
    | none => do
      let inner ← change made f path made []
      return members ++ [(key, .table made inner)]
    | some (.table .braced _) => throw (.redefined key)
    | some (.table origin inner) =>
      -- A dotted key does not reach into a table with a header.
      if made = .dotted ∧ origin = .headed then throw (.redefined key)
      else do
        let inner ← change made f path origin inner
        return members.replace key (.table origin inner)
    -- Of several tables of one header the last one is meant.
    | some (.tables items) =>
      match items.getLast? with
      | none => throw (.redefined key)
      | some last => do
        let last ← change made f path .headed last
        return members.replace key (.tables (items.dropLast ++ [last]))
    | some _ => throw (.redefined key)

/-- Members with one more, whose key is new. Behind a dotted key stands a table that dotted
keys have made. -/
def add (key : String) (value : Value) (dotted : Bool) (origin : Origin) (members : Members) :
    Except Error Members :=
  if decide (origin = .dotted) ≠ dotted ∨ (members.lookup key).isSome then throw (.redefined key)
  else return members ++ [(key, value)]

/-- Members with the value of a key, which may be dotted. -/
def assign (members : Members) (path : List String) (value : Value) : Except Error Members :=
  match path.getLast? with
  | none => return members
  | some key =>
    let way := path.dropLast
    change .dotted (add key value !way.isEmpty) way .headed members

/-- Members with the values of some keys. -/
def assignAll (members : Members) (pairs : List (List String × Value)) : Except Error Members :=
  pairs.foldlM (fun members pair => members.assign pair.1 pair.2) members

/-- Members with the table of a header. -/
def claim (key : String) (pairs : List (List String × Value)) (members : Members) :
    Except Error Members :=
  match members.lookup key with
  | none => do
    return members ++ [(key, .table .headed (← assignAll [] pairs))]
  | some (.table .implied inner) => do
    return members.replace key (.table .headed (← assignAll inner pairs))
  | some _ => throw (.redefined key)

/-- Members with one more of the tables of a header. -/
def append (key : String) (pairs : List (List String × Value)) (members : Members) :
    Except Error Members :=
  match members.lookup key with
  | none => do
    return members ++ [(key, .tables [← assignAll [] pairs])]
  | some (.tables items) => do
    return members.replace key (.tables (items ++ [← assignAll [] pairs]))
  | some _ => throw (.redefined key)

/-- Members with what stands under a header. -/
def enter (members : Members) (header : Header) (pairs : List (List String × Value)) :
    Except Error Members :=
  let (path, put) :=
    match header with
    | .table path => (path, claim)
    | .tables path => (path, append)
  match path.getLast? with
  | none => return members
  | some key => change .implied (fun _ => put key pairs) path.dropLast .headed members

end Members

end WsdlTypes.Toml
