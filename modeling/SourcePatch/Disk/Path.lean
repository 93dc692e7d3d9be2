/-!
# Paths

Paths are texts; their components are what stands between slashes. A `Location` is the list of
names that leads from the root of a tree to one of its entries, without links and without the
names `.` and `..`.

* `Path.join` places a path below another one.
* `Path.isWithin` says whether a path lies under another one, component by component.
-/

namespace SourcePatch

/-- The names from the root of a tree to an entry. -/
abbrev Location := List String

namespace Path

def isAbsolute (path : String) : Bool := path.toList.head? = some '/'

/-- The parts between slashes, empty ones left out. -/
def components (path : String) : List String :=
  ((path.toList.splitOn '/').filter fun part => !part.isEmpty).map String.ofList

/-- Places `path` below `base`; an absolute path stays what it is. -/
def join (base path : String) : String :=
  if isAbsolute path || base.isEmpty then path
  else if base.toList.getLast? = some '/' then base ++ path
  else base ++ "/" ++ path

/-- The text of a location. -/
def ofLocation (loc : Location) : String := "/" ++ "/".intercalate loc

/-- Is `root` the path itself or one that leads to it, component by component? Both are resolved
paths. -/
def isWithin (root path : String) : Bool := (components root).isPrefixOf (components path)

/-- Does the path end in a slash or in `/.`, and so ask for a directory? -/
def asksForDirectory (path : String) : Bool :=
  match path.toList.reverse with
  | '/' :: _ => true
  | '.' :: '/' :: _ => true
  | _ => false

/-- The last component and the path before it. -/
def splitLast (path : String) : String × String :=
  let cs := path.toList.reverse.dropWhile (· = '/')
  let name := (cs.takeWhile (· != '/')).reverse
  let parent := cs.dropWhile (· != '/')
  let dir := parent.dropWhile (· = '/')
  let dir := if dir.isEmpty && !parent.isEmpty then ['/'] else dir
  (String.ofList dir.reverse, String.ofList name)

/-- The path of the directory that an entry is in; the current one where the path names none. -/
def parentOf (path : String) : String :=
  let dir := (splitLast path).1
  if dir.isEmpty then "." else dir

end Path

end SourcePatch
