import ClassAtlas.TypeName.Primitive
import ClassAtlas.Text.Cut
import ClassAtlas.Text.Letter

/-!
# Type descriptors

A type is a primitive, a class, or an array of a type.  Its names follow from that.

* `Descriptor.name` — the binary name; an array has the form of the class file,
  `[Ljava.lang.Object;`.
* `Descriptor.fullName` — the canonical name, `java.lang.Object[]` for an array.
* `Descriptor.simpleName`, `Descriptor.packageName` — the parts of the name.
* `Descriptor.base` — the type inside all array layers.
-/

namespace ClassAtlas

/-- The simple name of a class with this binary name: what follows the last `.` and then the last
`$`, from its first letter, `_` or `$` on.  An anonymous class has none. -/
def simpleNameOf (name : String) : String :=
  let inner := Text.afterLast '$' (Text.afterLast '.' name.toList)
  String.ofList (inner.dropWhile fun c => !(Text.isLetter c || c == '_' || c == '$'))

/-- The package of a class with this binary name: what precedes the last `.`. -/
def packageNameOf (name : String) : String :=
  String.ofList ((Text.beforeLast '.' name.toList).getD [])

/-- A type as its name describes it. -/
inductive Descriptor where
  | primitive (type : Primitive)
  | object (className : String)
  | array (component : Descriptor)
deriving DecidableEq, Repr, Inhabited

namespace Descriptor

/-- The binary name.  An array is its component behind a `[`: a primitive by its letter, a class
between `L` and `;`. -/
def name : Descriptor → String
  | .primitive p => p.keyword
  | .object className => className
  | .array (.primitive p) => "[" ++ p.code.toString
  | .array (.object className) => "[L" ++ className ++ ";"
  | .array (.array component) => "[" ++ name (.array component)

/-- The canonical name. -/
def fullName : Descriptor → String
  | .primitive p => p.keyword
  | .object className => className
  | .array component => component.fullName ++ "[]"

/-- The simple name. -/
def simpleName : Descriptor → String
  | .primitive p => p.keyword
  | .object className => simpleNameOf className
  | .array component => component.simpleName ++ "[]"

/-- The package; primitives belong to `java.lang`. -/
def packageName : Descriptor → String
  | .primitive _ => "java.lang"
  | .object className => packageNameOf className
  | .array component => component.packageName

/-- The type inside all array layers. -/
def base : Descriptor → Descriptor
  | .array component => component.base
  | d => d

/-- The component type of an array. -/
def component? : Descriptor → Option Descriptor
  | .array component => some component
  | _ => none

/-- Whether the type is primitive. -/
def isPrimitive : Descriptor → Bool
  | .primitive _ => true
  | _ => false

/-- Whether the type is an array. -/
def isArray : Descriptor → Bool
  | .array _ => true
  | _ => false

end Descriptor

end ClassAtlas
