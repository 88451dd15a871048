import WsdlTypes.Proofs.Traversal.Order
import WsdlTypes.Session
/-!
# Calls on a session

A session is asked for one location after the other, and the files may change between two
calls. A call does one of two things (`call_outcome`): it brings no document in, and then only
what counts as tried may change; or the document at its location comes in with all that it
leads to, and the declarations of these are taken in. What holds of a session that resolved
nothing and is kept by every call holds of every session there is (`calls_induction`).
-/

namespace WsdlTypes

/-- A call on a session: the files that are there when it is made, and the location that is
asked for. -/
structure Call where
  tree : File.Tree
  source : String

/-- A directory that holds some texts by name. -/
def File.Tree.ofTexts (texts : List (String × String)) : File.Tree where
  entries := texts.map fun (name, text) => ([name], .file (some text))
  working := []

/-- The text of a schema with some attributes and some content. -/
def Schema.text (attributes content : String) : String :=
  "<s:schema xmlns:s='" ++ schemaUri ++ "'" ++ attributes ++ ">" ++ content ++ "</s:schema>"

namespace Session

variable {session : Session} {c : Call}

/-- The session after a call. -/
def call (session : Session) (c : Call) : Session := (session.resolve c.tree c.source).1

/-- The session after some calls. -/
def calls (session : Session) (l : List Call) : Session := l.foldl call session

@[simp] theorem calls_nil (session : Session) : session.calls [] = session := rfl

@[simp] theorem calls_cons (session : Session) (c : Call) (l : List Call) :
    session.calls (c :: l) = (session.call c).calls l := rfl

theorem calls_append (session : Session) (l l' : List Call) :
    session.calls (l ++ l') = (session.calls l).calls l' := List.foldl_append

/-- **What every call keeps holds after any calls.** -/
theorem calls_induction {P : Session → Prop}
    (hcall : ∀ {s : Session} {c : Call}, P s → P (s.call c)) (h : P session) (l : List Call) :
    P (session.calls l) := by
  induction l generalizing session with
  | nil => exact h
  | cons c rest ih => exact ih (hcall h)

/-! ## One call -/

/-- The session with the documents of a traversal, before their declarations are walked. -/
def arrived (session : Session) (t : Traversal) : Session :=
  { session with
    library := t.library
    inherited := t.inherited
    findings := session.findings ++ t.findings }

/-- The traversal that a document starts which came into the library. -/
def traversal (session : Session) (tree : File.Tree) (library : Library) (root : Document) :
    Traversal :=
  Traversal.run tree (.ofRoot library session.inherited root)

/-- The documents whose declarations a call takes in, in the order in which they are walked;
none where the call brings no document in. -/
def order (session : Session) (c : Call) : List Nat :=
  match Location.parse c.source with
  | .error _ => []
  | .ok location =>
    match session.library.load c.tree location with
    | (library, .ok (.loaded root)) => (session.traversal c.tree library root).order
    | _ => []

/-- The orders of some calls, one behind the other. -/
def orders (session : Session) : List Call → List (List Nat)
  | [] => []
  | c :: rest => session.order c :: (session.call c).orders rest

theorem order_of_loaded {location : Location} {library : Library} {root : Document}
    (hparse : Location.parse c.source = .ok location)
    (hload : session.library.load c.tree location = (library, .ok (.loaded root))) :
    session.order c = (session.traversal c.tree library root).order := by
  simp only [order, hparse, hload]

/-- What a call may come to. -/
inductive Outcome (session : Session) (c : Call) : Session → Prop where
  /-- No document comes in. -/
  | quiet (horder : session.order c = []) (visited : List String) :
      Outcome session c { session with library := { session.library with visited } }
  /-- A document comes in with all that it leads to, and its declarations and theirs are
  taken in. -/
  | absorbed {location : Location} {library : Library} {root : Document}
      (hparse : Location.parse c.source = .ok location)
      (hload : session.library.load c.tree location = (library, .ok (.loaded root))) :
      Outcome session c
        ((session.arrived (session.traversal c.tree library root)).takeIn
          (session.traversal c.tree library root).order)

theorem call_eq_of_loaded {location : Location} {library : Library} {root : Document}
    (hparse : Location.parse c.source = .ok location)
    (hload : session.library.load c.tree location = (library, .ok (.loaded root))) :
    session.call c = (session.arrived (session.traversal c.tree library root)).takeIn
      (session.traversal c.tree library root).order := by
  simp only [call, resolve, hparse, load, hload]
  rfl

/-- **A call comes to one of the two.** -/
theorem call_outcome (session : Session) (c : Call) : Outcome session c (session.call c) := by
  cases hparse : Location.parse c.source with
  | error cause =>
    have horder : session.order c = [] := by simp only [order, hparse]
    simp only [call, resolve, hparse]
    exact Outcome.quiet horder session.library.visited
  | ok location =>
    rcases hload : session.library.load c.tree location with ⟨library, outcome⟩
    match outcome with
    | .ok (.loaded root) =>
      rw [call_eq_of_loaded hparse hload]
      exact Outcome.absorbed hparse hload
    | .ok .alreadyLoaded =>
      have horder : session.order c = [] := by simp only [order, hparse, hload]
      obtain ⟨-, rfl⟩ := Library.load_eq_alreadyLoaded hload
      simp only [call, resolve, hparse, load, hload]
      exact Outcome.quiet horder session.library.visited
    | .error cause =>
      have horder : session.order c = [] := by simp only [order, hparse, hload]
      obtain ⟨-, -, rfl⟩ := Library.load_eq_error hload
      simp only [call, resolve, hparse, load, hload]
      exact Outcome.quiet horder _

@[simp] theorem library_arrived (session : Session) (t : Traversal) :
    (session.arrived t).library = t.library := rfl

@[simp] theorem inherited_arrived (session : Session) (t : Traversal) :
    (session.arrived t).inherited = t.inherited := rfl

@[simp] theorem library_takeIn (session : Session) (order : List Nat) :
    (session.takeIn order).library = session.library := rfl

@[simp] theorem inherited_takeIn (session : Session) (order : List Nat) :
    (session.takeIn order).inherited = session.inherited := rfl

@[simp] theorem config_takeIn (session : Session) (order : List Nat) :
    (session.takeIn order).config = session.config := rfl

@[simp] theorem config_call (session : Session) (c : Call) :
    (session.call c).config = session.config := by
  have houtcome := call_outcome session c
  generalize session.call c = next at houtcome
  cases houtcome with
  | quiet | absorbed => rfl

theorem config_calls (session : Session) (l : List Call) :
    (session.calls l).config = session.config :=
  calls_induction (P := fun s => s.config = session.config)
    (fun h => (config_call _ _).trans h) rfl l

/-! ## Taking declarations in -/

/-- The walk over the declarations of some documents. -/
def walk (session : Session) (order : List Nat) : Report Walk :=
  Walk.documents session.config session.catalog session.types order

@[simp] theorem catalog_takeIn (session : Session) (order : List Nat) :
    (session.takeIn order).catalog = session.catalog := rfl

@[simp] theorem types_takeIn (session : Session) (order : List Nat) :
    (session.takeIn order).types = (session.walk order).value.types := rfl

theorem operations_takeIn (session : Session) (order : List Nat) :
    (session.takeIn order).operations = session.operations
      ++ (Service.operationsOf session.config.naming session.catalog
        (session.walk order).value.types order).value := rfl

/-- What taking declarations in reports: what the walk does, then the check of what is new,
then the operations. -/
theorem findings_takeIn (session : Session) (order : List Nat) :
    (session.takeIn order).findings = session.findings
      ++ ((session.walk order).findings
      ++ ((References.check (session.walk order).value.types
          (session.walk order).value.fresh).findings
      ++ (Service.operationsOf session.config.naming session.catalog
          (session.walk order).value.types order).findings)) := by
  simp only [takeIn, survey, Report.findings_bind, Report.value_bind, Report.findings_pure,
    List.append_nil]
  rfl

end Session

end WsdlTypes
