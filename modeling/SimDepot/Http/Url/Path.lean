import SimDepot.Http.Percent
import SimDepot.Text.Parts

/-!
# Paths of addresses

A path consists of segments behind slashes. A segment `.` is left out, and a segment `..` takes the
one before it away, unless that is the name of a drive. In the path of a file, a drive at the very
beginning has a colon, and slashes at the beginning count as one.
-/

namespace SimDepot.Url

/-- A segment that stands for the place it is in. -/
def isDot (segment : List Char) : Bool :=
  [".", "%2e"].contains (String.ofList (segment.map Char.toLower))

/-- A segment that stands for the place above. -/
def isDoubleDot (segment : List Char) : Bool :=
  ["..", "%2e.", ".%2e", "%2e%2e"].contains (String.ofList (segment.map Char.toLower))

/-- The name of a drive: a letter with a colon or a bar behind it. -/
def isDrive : List Char → Bool
  | [letter, sign] => letter.isAlpha && (sign == ':' || sign == '|')
  | _ => false

/-- A segment that begins with the name of a drive, up to its end or a backslash. -/
def isDriveSegment (segment : List Char) : Bool :=
  isDrive (segment.take 2) && ((segment.drop 2).head?.all (· == '\\'))

/-- The name of a drive with a colon; any other segment as it is. -/
def settleDrive (segment : List Char) : List Char :=
  if isDrive segment then segment.take 1 ++ [':'] else segment

/-- The segments with dots resolved, behind those of `done`, which are in reverse order. Where the
last one is resolved away, an empty one is left. -/
def resolve (isFile : Bool) (done : List (List Char)) : List (List Char) → List (List Char)
  | [] => done.reverse
  | segment :: rest =>
    if isDoubleDot segment then
      let done := match done with
        | [] => []
        | last :: before => if isDriveSegment last then last :: before else before
      if rest.isEmpty then ([] :: done).reverse else resolve isFile done rest
    else if isDot segment then
      if rest.isEmpty then ([] :: done).reverse else resolve isFile done rest
    else
      let segment := if isFile && done.isEmpty then settleDrive segment else segment
      resolve isFile (segment :: done) rest

/-- The segments of a text. -/
def segments (isFile : Bool) (text : List Char) : List (List Char) :=
  resolve isFile [] ((Text.parts '/' text).map (Percent.encode Percent.inPath))

/-- The path with these segments. -/
def pathOf (segments : List (List Char)) : List Char := segments.flatMap ('/' :: ·)

/-- The path behind a slash. -/
def plainPath (text : List Char) : String := String.ofList (pathOf (segments false text))

/-- The path of a file behind a slash, and whether it begins with a drive. -/
def filePath (text : List Char) : String × Bool :=
  let found := segments true text
  (String.ofList ('/' :: (pathOf found).dropWhile (· == '/')), found.head?.any isDrive)

end SimDepot.Url
