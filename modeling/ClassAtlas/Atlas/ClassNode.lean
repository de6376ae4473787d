import ClassAtlas.Atlas.Annot
import ClassAtlas.Atlas.TypeRef
import ClassAtlas.Digest.Md5
import ClassAtlas.Files
import ClassAtlas.Record.Class
import ClassAtlas.TypeName.Descriptor

/-!
# Classes

A linked class, or the stub of a class that is only mentioned: a stub has its names and nothing
else.

* `Source` — where a class was read from, with a checksum.
* `ClassNode` — a class.
-/

namespace ClassAtlas

/-- The checksum of the file a class was read from. -/
inductive Checksum where
  /-- No checksums are wanted. -/
  | disabled
  /-- The file could not be read. -/
  | undetermined
  | md5 (digest : List UInt8)
deriving DecidableEq, Repr, Inhabited

/-- The text of a checksum. -/
def Checksum.text : Checksum → String
  | .disabled => "DISABLED"
  | .undetermined => "UNDETERMINED"
  | .md5 digest => Digest.hex digest

/-- Where a class was read from. -/
structure Source where
  uri : String
  fileName : Option String
  checksum : Checksum
deriving DecidableEq, Repr, Inhabited

/-- The path of a location: what follows the first `file://` at its start. -/
def Source.path (uri : String) : String :=
  let scheme := "file://".toList
  if scheme.isPrefixOf uri.toList then String.ofList (uri.toList.drop scheme.length) else uri

/-- The checksum of the file at a location. -/
def Source.checksumOf (files : Files) (uri : String) : Checksum :=
  match files.bytes? (Source.path uri) with
  | some content => .md5 (Digest.Md5.digest content.toList)
  | none => .undetermined

/-- A recorded location, with a checksum if one is wanted. -/
def Source.ofOrigin (files : Files) (checksums : Bool) (o : Record.Origin) : Source :=
  { uri := o.uri
    fileName := o.fileName
    checksum := if checksums then Source.checksumOf files o.uri else .disabled }

/-- A class, interface, enum, annotation type, record, array or primitive type. -/
structure ClassNode where
  id : ClassId
  /-- The type; all names of the class follow from it. -/
  type : Descriptor
  kind : ClassKind := .cls
  modifiers : Modifiers := .none
  /-- Whether the class has a record; a stub has none. -/
  imported : Bool := false
  /-- The component of an array. -/
  component : Option ClassId := none
  superclass : Option TypeRef := none
  interfaces : List TypeRef := []
  typeParameters : List VarId := []
  /-- The classes that have this one as superclass or interface. -/
  subclasses : List ClassId := []
  enclosingClass : Option ClassId := none
  members : List MemberId := []
  annotations : List Annot := []
  source : Option Source := none
deriving Inhabited

namespace ClassNode

/-- The binary name. -/
def name (c : ClassNode) : String :=
  c.type.name

/-- The canonical name. -/
def fullName (c : ClassNode) : String :=
  c.type.fullName

/-- The simple name. -/
def simpleName (c : ClassNode) : String :=
  c.type.simpleName

/-- The package. -/
def packageName (c : ClassNode) : String :=
  c.type.packageName

/-- Whether the class is primitive. -/
def isPrimitive (c : ClassNode) : Bool :=
  c.type.isPrimitive

/-- Whether the class is an array. -/
def isArray (c : ClassNode) : Bool :=
  c.type.isArray

/-- Whether another class encloses the class. -/
def isNested (c : ClassNode) : Bool :=
  c.enclosingClass.isSome

/-- Whether the class is nested and not static. -/
def isInner (c : ClassNode) : Bool :=
  c.isNested && !c.modifiers.has .static

/-- Whether the class is nested and has no simple name. -/
def isAnonymous (c : ClassNode) : Bool :=
  c.isNested && c.simpleName.isEmpty

/-- Whether the class is declared inside a block, such as `Outer$1Local`. -/
def isLocal (c : ClassNode) : Bool :=
  c.isNested && !c.simpleName.isEmpty &&
    match Text.beforeLast '$' c.name.toList, Text.afterLast '$' c.name.toList with
    | some _, first :: _ => first.isDigit
    | _, _ => false

/-- The class of the superclass. -/
def rawSuperclass (c : ClassNode) : Option ClassId :=
  c.superclass.bind TypeRef.rawClass?

/-- The classes of the interfaces, in order. -/
def rawInterfaces (c : ClassNode) : List ClassId :=
  c.interfaces.filterMap TypeRef.rawClass?

/-- The classes of the superclass and the interfaces. -/
def rawSupertypes (c : ClassNode) : List ClassId :=
  c.rawSuperclass.toList ++ c.rawInterfaces

/-- The simple name of the outermost class, by the name alone. -/
def outermostSimpleName (c : ClassNode) : String :=
  let inPackage := Text.afterLast '.' c.name.toList
  match Text.beforeFirst '$' inPackage with
  | [] => String.ofList inPackage
  | outer => String.ofList outer

/-- The source file: the recorded one, or the one named after the outermost class. -/
def sourceFileName (c : ClassNode) : String :=
  (c.source.bind (·.fileName)).getD (c.outermostSimpleName ++ ".java")

/-- The class in words. -/
def description (c : ClassNode) : String :=
  "Class <" ++ c.name ++ ">"

end ClassNode

end ClassAtlas
