import Decouple.Text.Parts
import Decouple.Text.Utf8

/-!
# Paths of the local file system

A path is kept as it was written.  Its normal form has no empty and no `.` components; two leading
slashes, and no other number, are kept as two.
-/

namespace Decouple

namespace FilePath

/-- The components that count: neither empty nor `.`. -/
def components (path : Text) : List Text :=
  (Text.splitOn '/' path).filter fun c => c ≠ [] && c ≠ ("." : Text)

/-- The leading slashes that count. -/
def root (path : Text) : Text :=
  match (path.takeWhile (CodePoint.is '/')).length with
  | 0 => []
  | 2 => "//"
  | _ => "/"

/-- The normal form. -/
def normal (path : Text) : Text :=
  let shown := root path ++ Text.join "/" (components path)
  if shown.isEmpty then "." else shown

/-- The last component; empty if there is none. -/
def name (path : Text) : Text := (components path).getLastD []

/-- The last component cut at its last dot, which is neither its first nor its last code point. -/
def stemAndSuffix (path : Text) : Text × Text :=
  let last := name path
  let extension := Text.afterLast '.' last
  let stem := last.take (last.length - extension.length - 1)
  if last.contains '.' && !stem.isEmpty && !extension.isEmpty then
    (stem, last.drop stem.length)
  else (last, [])

/-- The last component without its suffix. -/
def stem (path : Text) : Text := (stemAndSuffix path).1

/-- Whether a surrogate stands for a byte of a path that is not UTF-8. -/
def standsForByte (c : CodePoint) : Bool := 0xDC80 ≤ c.val && c.val ≤ 0xDCFF

/-- The first run of surrogates that no path on a disk can have. -/
def unwritable? (path : Text) : Option Utf8.Unwritable :=
  let isFine (c : CodePoint) : Bool := !c.isSurrogate || standsForByte c
  match path.dropWhile isFine with
  | [] => none
  | c :: rest =>
    some ⟨(path.takeWhile isFine).length, c, (rest.takeWhile CodePoint.isSurrogate).length + 1⟩

/-- Whether a name has more bytes than a name on a disk can have. -/
def isTooLongName (name : Text) : Bool := 255 < (Utf8.encodeAll name).length

/-- Whether a path has more bytes than a disk takes. -/
def isTooLong (path : Text) : Bool := 4095 < (Utf8.encodeAll (normal path)).length

/-- The path of `child` inside `parent`. -/
def inside (parent child : Text) : Text :=
  if Text.startsWith child "/" then normal child
  else
    let parent := normal parent
    if parent = ("." : Text) then normal child
    else if parent = ("/" : Text) || parent = ("//" : Text) then normal (parent ++ child)
    else normal (parent ++ "/" ++ child)

end FilePath

end Decouple
