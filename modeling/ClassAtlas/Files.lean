/-!
# Files

The library reads no file by itself.  Whoever calls it says what stands at each path.
-/

namespace ClassAtlas

/-- What can stand at a path. -/
inductive FileEntry where
  | file (content : ByteArray)
  /-- Something that cannot be read, such as a directory. -/
  | unreadable

/-- What stands at each path, if anything does. -/
abbrev Files :=
  String → Option FileEntry

namespace Files

/-- No file at all. -/
def none : Files :=
  fun _ => .none

/-- Whether there is anything at a path. -/
def hasPath (files : Files) (path : String) : Bool :=
  (files path).isSome

/-- The content of a file. -/
def bytes? (files : Files) (path : String) : Option ByteArray :=
  match files path with
  | some (.file content) => some content
  | _ => .none

/-- The content of a file that holds text. -/
def text? (files : Files) (path : String) : Option String :=
  (files.bytes? path).bind String.fromUTF8?

/-- A path as seen from a directory.  An absolute path stays as it is. -/
def join (directory path : String) : String :=
  if path.toList.head? = some '/' then path
  else if directory.toList.getLast? = some '/' then directory ++ path
  else directory ++ "/" ++ path

end Files

end ClassAtlas
