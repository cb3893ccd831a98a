import TwinTree.Text.Split
import TwinTree.Text.Utf8.Basic

/-!
# Paths

A path keeps its bytes as they were written; what it means is its list of components. Repeated
slashes, a slash at the end and a `.` that is not the first segment carry no component, so
`a//b/.` and `a/b` are different texts with the same components. `Path.Same` compares components.
Operations that shorten a path also drop what carries no component at the new ends, and leave the
rest of the text alone.
-/
namespace TwinTree

/-- A file name or a piece of a path between slashes. -/
abbrev Name := List UInt8

structure Path where
  bytes : List UInt8
  deriving DecidableEq, Inhabited, Repr

inductive Component where
  /-- The slash that starts an absolute path. -/
  | root
  /-- A leading `.`. -/
  | current
  /-- A `..`, wherever it stands. -/
  | parent
  | name (name : Name)
  deriving DecidableEq, Repr

def slash : UInt8 := 0x2F

/-- The name `.`. -/
def dot : Name := [0x2E]

/-- The name `..`. -/
def dotDot : Name := [0x2E, 0x2E]

/-- The longest name a directory holds, in bytes. -/
def nameLimit : Nat := 255

/-- A name that a directory can hold: not one of those with a meaning of their own, and without
the bytes that end a name. -/
structure IsOrdinary (name : Name) : Prop where
  ne_nil : name ≠ []
  ne_dot : name ≠ dot
  ne_dotDot : name ≠ dotDot
  slash_notMem : slash ∉ name
  nul_notMem : 0 ∉ name
  length_le : name.length ≤ nameLimit

instance (name : Name) : Decidable (IsOrdinary name) :=
  decidable_of_iff (name ≠ [] ∧ name ≠ dot ∧ name ≠ dotDot ∧ slash ∉ name ∧ 0 ∉ name ∧
      name.length ≤ nameLimit)
    ⟨fun ⟨nonempty, notDot, notUp, noSlash, noNul, short⟩ =>
      ⟨nonempty, notDot, notUp, noSlash, noNul, short⟩,
    fun ⟨nonempty, notDot, notUp, noSlash, noNul, short⟩ =>
      ⟨nonempty, notDot, notUp, noSlash, noNul, short⟩⟩

namespace Component

/-- The component a segment carries when it is not the first one. -/
def ofSegment? (segment : Name) : Option Component :=
  if segment = [] ∨ segment = dot then none
  else if segment = dotDot then some parent
  else some (name segment)

def toName : Component → Name
  | root => [slash]
  | current => dot
  | parent => dotDot
  | name segment => segment

end Component

namespace Path

def ofText (text : List Char) : Path := ⟨Utf8.encode text⟩

def ofString (text : String) : Path := ofText text.toList

/-- The path as shown, ill-formed parts as U+FFFD. -/
def text (path : Path) : List Char := Utf8.lossy path.bytes

def display (path : Path) : String := String.ofList path.text

def isAbsolute (path : Path) : Bool := path.bytes.head? == some slash

/-! ### Segments -/

/-- The segment before the first slash: empty in an absolute path. -/
def head (path : Path) : Name := (splitOn slash path.bytes).1

/-- The segments behind the first one. -/
def body (path : Path) : List Name := (splitOn slash path.bytes).2

/-- A path from its segments. An absolute path without components behind its root is one slash. -/
def ofSegments (head : Name) (body : List Name) (absolute : Bool) : Path :=
  if absolute && body.isEmpty then ⟨[slash]⟩ else ⟨head ++ joinWith slash body⟩

/-- An empty segment and `.` carry no component, unless they come first. -/
def isBlank (segment : Name) : Bool := segment == [] || segment == dot

/-- Drops blank segments from the end. -/
def trimEnd (segments : List Name) : List Name :=
  (segments.reverse.dropWhile isBlank).reverse

/-! ### Components -/

/-- What comes before the body: the root, or the component of the first segment. -/
def leading (path : Path) : List Component :=
  if path.isAbsolute then [.root]
  else if path.head = [] then []
  else if path.head = dot then [.current]
  else (Component.ofSegment? path.head).toList

def components (path : Path) : List Component :=
  path.leading ++ path.body.filterMap Component.ofSegment?

/-- Paths are the same when their components are. -/
def Same (left right : Path) : Prop := left.components = right.components

instance (left right : Path) : Decidable (Same left right) :=
  inferInstanceAs (Decidable (left.components = right.components))

def startsWith (path start : Path) : Bool := start.components.isPrefixOf path.components

def endsWith (path final : Path) : Bool := final.components.isSuffixOf path.components

/-- The last component, when it is an ordinary name. -/
def fileName? (path : Path) : Option Name :=
  match path.components.getLast? with
  | some (.name name) => some name
  | _ => none

/-- The path without its last component; a root and the empty path have none to give up. -/
def parent? (path : Path) : Option Path :=
  match path.body.reverse.dropWhile isBlank with
  | _ :: others => some (ofSegments path.head (trimEnd others.reverse) path.isAbsolute)
  | [] => if path.isAbsolute || path.head = [] then none else some ⟨[]⟩

/-! ### Joining and stripping -/

/-- An absolute path joined to another replaces it; otherwise a slash comes between them where
there is none. -/
def join (path other : Path) : Path :=
  if other.isAbsolute then other
  else if path.bytes.isEmpty || path.bytes.getLast? == some slash then
    ⟨path.bytes ++ other.bytes⟩
  else ⟨path.bytes ++ slash :: other.bytes⟩

/-- Drops segments up to the given number of components. -/
def dropComponents : Nat → List Name → List Name
  | 0, segments => segments
  | _, [] => []
  | count + 1, segment :: rest =>
    if isBlank segment then dropComponents (count + 1) rest else dropComponents count rest

/-- A relative path made of segments, blank ones at either end dropped. -/
def ofRelativeSegments (segments : List Name) : Path :=
  match (trimEnd segments).dropWhile isBlank with
  | [] => ⟨[]⟩
  | first :: rest => ⟨first ++ joinWith slash rest⟩

/-- What follows `start` in the path, when the path starts with it. -/
def stripStart? (path start : Path) : Option Path :=
  if path.startsWith start then
    match start.components.length with
    | 0 => some (ofSegments path.head (trimEnd path.body) path.isAbsolute)
    | count + 1 => some (ofRelativeSegments (dropComponents count path.body))
  else none

/-- The path and the paths above it, each the parent of the one before. The parent's text is
shorter, so the length of the text is enough steps. -/
def ancestors (path : Path) : List Path := go path.bytes.length path
where
  go : Nat → Path → List Path
    | 0, path => [path]
    | steps + 1, path =>
      match path.parent? with
      | some parent => path :: go steps parent
      | none => [path]

end Path

end TwinTree
