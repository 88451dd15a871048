/-!
# Positions in a text

A position counts lines and characters from one; a line ends at a line feed and nowhere
else. A cursor is what is left of a text together with the position it starts at, so a
piece cut out of a document still knows where it stood.
-/

namespace WsdlTypes.Text

/-- A line and a character on it, both counted from one. -/
structure Position where
  row : Nat
  column : Nat
deriving DecidableEq, Repr, Inhabited

namespace Position

/-- The position of a text's first character. -/
def first : Position := ⟨1, 1⟩

/-- The position behind a character. -/
def after (p : Position) (c : Char) : Position :=
  if c = '\n' then ⟨p.row + 1, 1⟩ else ⟨p.row, p.column + 1⟩

/-- The position behind a run of characters. -/
def afterAll (p : Position) (cs : List Char) : Position := cs.foldl after p

/-- Row and column, with a colon between. -/
def render (p : Position) : String := toString p.row ++ ":" ++ toString p.column

end Position

/-- The rest of a text and where it starts. -/
structure Cursor where
  rest : List Char
  position : Position
deriving DecidableEq, Repr, Inhabited

namespace Cursor

/-- The whole of a text. -/
def start (cs : List Char) : Cursor := ⟨cs, .first⟩

/-- How many characters are left. -/
def size (c : Cursor) : Nat := c.rest.length

/-- The cursor some characters further on. -/
def drop (c : Cursor) (n : Nat) : Cursor := ⟨c.rest.drop n, c.position.afterAll (c.rest.take n)⟩

/-- The cursor behind the leading characters that pass a test. -/
def dropWhile (c : Cursor) (p : Char → Bool) : Cursor :=
  ⟨c.rest.dropWhile p, c.position.afterAll (c.rest.takeWhile p)⟩

/-- Whether a text comes next. -/
def startsWith (c : Cursor) (text : String) : Bool := text.toList.isPrefixOf c.rest

theorem size_drop (c : Cursor) (n : Nat) : (c.drop n).size = c.size - n := by
  simp [size, drop]

theorem size_drop_le (c : Cursor) (n : Nat) : (c.drop n).size ≤ c.size := by
  rw [size_drop]; omega

theorem length_dropWhile_le {α : Type} (p : α → Bool) (l : List α) :
    (l.dropWhile p).length ≤ l.length :=
  (List.dropWhile_suffix p).length_le

theorem size_dropWhile_le (c : Cursor) (p : Char → Bool) : (c.dropWhile p).size ≤ c.size :=
  length_dropWhile_le p c.rest

end Cursor

end WsdlTypes.Text
