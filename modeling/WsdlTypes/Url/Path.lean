import WsdlTypes.Url.Basic
/-!
# Paths of URLs

A path is a row of segments, each behind a slash. Its dots are followed while it is read:
one dot stays where it is, two dots go back over a segment. A segment of a letter and a
colon is a drive, which two dots do not leave.

The path that has been read is kept in reverse order, so that its end is at hand.
-/

namespace WsdlTypes.Url

/-- Whether a character counts in a URL; tabs and line ends do not. -/
def counts (c : Char) : Bool := c ≠ '\t' && c ≠ '\n' && c ≠ '\r'

/-- Whether a character separates segments of a path. -/
def isSlash (scheme : String) (c : Char) : Bool := c == '/' || (c == '\\' && isSpecial scheme)

/-- The texts between the slashes of a path. -/
def slashed (scheme : String) (cs : List Char) : List (List Char) :=
  Text.segments '/' (cs.map fun c => if isSlash scheme c then '/' else c)

/-- The runs of a text between the characters that do not count. -/
def runs (cs : List Char) : List (List Char) :=
  (Text.segments '\n' (cs.map fun c => if counts c then c else '\n')).filter (!·.isEmpty)

/-- A segment with its encoded dots written as dots. -/
def plainDots : List Char → List Char
  | '%' :: '2' :: 'e' :: rest => '.' :: plainDots rest
  | '%' :: '2' :: 'E' :: rest => '.' :: plainDots rest
  | c :: rest => c :: plainDots rest
  | [] => []

/-- Whether a segment names a drive: a letter and a colon, or a bar for the colon. -/
def isDrive (segment : List Char) : Bool :=
  match segment with
  | [letter, mark] => letter.isAlpha && (mark == ':' || mark == '|')
  | _ => false

/-- Whether a text starts with a drive and nothing else stands in its first segment. A
backslash ends the segment as well. -/
def startsWithDrive (cs : List Char) : Bool :=
  isDrive (cs.take 2) && !(cs.drop 2).head?.any fun c => c != '/' && c != '\\'

/-- The last segment of a path in reverse order. -/
def lastSegment (path : List Char) : List Char := (path.takeWhile (· ≠ '/')).reverse

/-- A path in reverse order without its last segment. A drive that is written with a colon
stays at the end of a `file` path. -/
def popped (scheme : String) (path : List Char) : List Char :=
  let last := lastSegment path
  if scheme == "file" && isDrive last && last.getLast? == some ':' then path
  else path.dropWhile (· ≠ '/')

/-- The path that two dots lead to, both in reverse order: back over the last segment, the
slash behind it included, unless that is a drive. -/
def climb (path : List Char) : List Char :=
  match path with
  | '/' :: before =>
    if before.contains '/' && !startsWithDrive (lastSegment before ++ ['/']) then
      before.dropWhile (· ≠ '/')
    else path
  | path => path

/-- A path in reverse order with a slash at its end. -/
def withSlash (path : List Char) : List Char :=
  if path.head? = some '/' then path else '/' :: path

/-- A path that has been read up to some place. -/
structure PathReading where
  /-- What is read of the path before the present segment, in reverse order. -/
  before : List Char
  /-- What is read of the present segment, in reverse order. -/
  segment : List Char := []
  /-- Whether a drive was found at the front of the path. -/
  hasDrive : Bool := false

namespace PathReading

/-- A drive alone is closed by a slash before anything is read behind it. -/
def closeDrive (r : PathReading) : PathReading :=
  match r.before, r.segment with
  | [':', letter, '/'], [] => if letter.isAlpha then { r with before := '/' :: r.before } else r
  | ['/'], [':', letter] =>
    -- The segment goes on with the colon.
    if letter.isAlpha then { r with before := [letter, '/'], segment := ['/', ':'] } else r
  | _, _ => r

/-- Reads a run of characters into the present segment. -/
def push (scheme : String) (r : PathReading) (run : List Char) : PathReading :=
  let r := if scheme == "file" then r.closeDrive else r
  { r with segment := (percentEncode outsidePath run).reverse ++ r.segment }

/-- Ends the present segment, with or without a slash. -/
def close (scheme : String) (slash : Bool) (r : PathReading) : PathReading :=
  let name := r.segment.reverse
  let plain := plainDots name
  if plain == ['.', '.'] then
    let path := climb r.before
    { r with before := if slash then withSlash path else path, segment := [] }
  else if plain == ['.'] then { r with before := withSlash r.before, segment := [] }
  else
    let isFirstDrive := scheme == "file" && r.before == ['/'] && isDrive name
    let path := (if isFirstDrive then ':' :: name.take 1 else r.segment) ++ r.before
    { before := if slash then '/' :: path else path
      hasDrive := r.hasDrive || isFirstDrive }

/-- Reads the segments that are left. -/
def follow (scheme : String) (r : PathReading) : List (List Char) → PathReading
  | [] => r
  | segment :: rest =>
    let read := (runs segment).foldl (push scheme) r
    follow scheme (read.close scheme !rest.isEmpty) rest

end PathReading

/-- The path that a text leads to from the path at which it starts, this in reverse order,
and whether it names a drive at its front. A `file` path has one slash at its front. -/
def pathFrom (scheme : String) (start cs : List Char) : String × Bool :=
  let read := PathReading.follow scheme { before := start } (slashed scheme cs)
  let path := read.before.reverse
  let path := if scheme == "file" then '/' :: path.dropWhile (· == '/') else path
  (String.ofList path, read.hasDrive)

end WsdlTypes.Url
