import WsdlTypes.Text.Position
/-!
# Reading from the front of a text

A scan takes something off the front of a text or says why it is not there. Whatever it
takes, it never leaves more than it was given; every step carries that fact with it, and
so a loop that takes a character before each scan comes to an end.
-/

namespace WsdlTypes.Text

/-- What a scan took from a cursor, and where it stopped. -/
structure Step (α : Type) (c : Cursor) where
  value : α
  next : Cursor
  le : next.size ≤ c.size

/-- A reading of the front of a text, which may come to an error. -/
def Scan (ε α : Type) : Type := (c : Cursor) → Except ε (Step α c)

namespace Scan

variable {ε α β : Type}

/-- Takes nothing. -/
def done (a : α) : Scan ε α := fun c => .ok ⟨a, c, Nat.le_refl _⟩

/-- Takes one thing, and then what it calls for. -/
def andThen (s : Scan ε α) (f : α → Scan ε β) : Scan ε β := fun c =>
  match s c with
  | .error e => .error e
  | .ok one =>
    match f one.value one.next with
    | .error e => .error e
    | .ok two => .ok ⟨two.value, two.next, Nat.le_trans two.le one.le⟩

instance : Monad (Scan ε) where
  pure := done
  bind := andThen

/-- Refuses the text. -/
def fail (e : ε) : Scan ε α := fun _ => .error e

/-- Refuses the text for something noticed at the next character. -/
def failHere (e : Position → ε) : Scan ε α := fun c => .error (e c.position)

/-- The position of the next character. -/
def position : Scan ε Position := fun c => .ok ⟨c.position, c, Nat.le_refl _⟩

/-- The cursor itself. -/
def cursor : Scan ε Cursor := fun c => .ok ⟨c, c, Nat.le_refl _⟩

/-- The next character, if any is left. -/
def peek? : Scan ε (Option Char) := fun c => .ok ⟨c.rest.head?, c, Nat.le_refl _⟩

/-- Whether a text comes next. -/
def startsWith (text : String) : Scan ε Bool := fun c =>
  .ok ⟨c.startsWith text, c, Nat.le_refl _⟩

/-- Takes a number of characters, or what is left. -/
def skip (n : Nat) : Scan ε Unit := fun c => .ok ⟨(), c.drop n, c.size_drop_le n⟩

/-- Takes the leading characters that pass a test. -/
def takeWhile (p : Char → Bool) : Scan ε (List Char) := fun c =>
  .ok ⟨c.rest.takeWhile p, c.dropWhile p, c.size_dropWhile_le p⟩

/-- Reads again and again as long as what comes next passes a test and something is taken. -/
def many (more : List Char → Bool) (s : Scan ε α) : Scan ε (List α) := fun c =>
  if more c.rest then
    match s c with
    | .error e => .error e
    | .ok one =>
      if _hless : one.next.size < c.size then
        match many more s one.next with
        | .error e => .error e
        | .ok rest => .ok ⟨one.value :: rest.value, rest.next, Nat.le_trans rest.le one.le⟩
      else .ok ⟨[one.value], one.next, one.le⟩
  else .ok ⟨[], c, Nat.le_refl _⟩
termination_by c => c.size

end Scan

end WsdlTypes.Text
