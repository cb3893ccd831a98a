import TwinTree.Proofs.FileSystem.Likeness

/-!
# Views of what files hold

A view makes something else of the content of each file and leaves all else alone. No access but
reading a text looks into files: each gives through a view what it gives on the file system, but for
the content that is shown (`stat_through`, `checkSafe_through`), and it changes both alike
(`writeFile_through`). So two file systems that a view shows alike are told apart by reading only
(`likeness_seenAlike`).
-/
namespace TwinTree

/-- An object through a view of what a file holds. -/
def Object.through (view : List UInt8 → List UInt8) : Object → Object
  | .file content mode => .file (view content) mode
  | object => object

namespace Object

variable {view : List UInt8 → List UInt8}

@[simp]
theorem isDirectory_through (object : Object) :
    (object.through view).isDirectory = object.isDirectory := by
  cases object <;> rfl

@[simp]
theorem isLink_through (object : Object) : (object.through view).isLink = object.isLink := by
  cases object <;> rfl

@[simp]
theorem isRegular_through (object : Object) :
    (object.through view).isRegular = object.isRegular := by
  cases object <;> rfl

@[simp]
theorem mode_through (object : Object) : (object.through view).mode = object.mode := by
  cases object <;> rfl

@[simp]
theorem through_eq_directory_iff {object : Object} :
    object.through view = .directory ↔ object = .directory := by
  cases object <;> simp [through]

/-- Objects that a view shows alike are the same, or files with the same mode. -/
theorem eq_or_of_through_eq {left right : Object} (same : left.through view = right.through view) :
    left = right ∨ ∃ content content' mode, left = .file content mode ∧
      right = .file content' mode ∧ view content = view content' := by
  cases left with
  | file content mode =>
    cases right with
    | file content' mode' =>
      obtain ⟨shown, rfl⟩ := Object.file.inj same
      exact .inr ⟨content, content', mode, rfl, rfl, shown⟩
    | _ => cases same
  | _ => cases right <;> first | exact .inl same | cases same

end Object

namespace FileSystem

/-- A file system through a view of what files hold. -/
def through (view : List UInt8 → List UInt8) (fs : FileSystem) : FileSystem :=
  { fs with entries := fs.entries.map fun entry => (entry.1, entry.2.through view) }

variable {view : List UInt8 → List UInt8} {fs : FileSystem} {path : Path} {location : Location}

/-- Seeing everything changes nothing. -/
@[simp]
theorem through_id (fs : FileSystem) : fs.through id = fs := by
  have whole : ∀ object : Object, object.through id = object := by
    intro object
    cases object <;> rfl
  simp [through, whole]

theorem find?_through (entries : List (Location × Object)) (location : Location) :
    find? (entries.map fun entry => (entry.1, entry.2.through view)) location =
      (find? entries location).map (Object.through view) := by
  induction entries with
  | nil => rfl
  | cons entry rest ih =>
    rw [List.map_cons, find?, find?, ih]
    split <;> rfl

@[simp]
theorem get?_through (location : Location) :
    (fs.through view).get? location = (fs.get? location).map (Object.through view) := by
  cases location with
  | nil => rfl
  | cons => exact find?_through ..

theorem children_through (location : Location) :
    (fs.through view).children location =
      (fs.children location).map fun found => (found.1, found.2.through view) := by
  rw [children, children, through, List.filterMap_map, List.map_filterMap]
  congr 1
  funext entry
  obtain ⟨inner, object⟩ := entry
  cases inner with
  | nil => rfl
  | cons name above =>
    simp only [Function.comp_apply]
    split <;> rfl

theorem place_through (entries : List (Location × Object)) (location : Location)
    (object : Object) :
    (place entries location object).map (fun entry => (entry.1, entry.2.through view)) =
      place (entries.map fun entry => (entry.1, entry.2.through view)) location
        (object.through view) := by
  induction entries with
  | nil => rfl
  | cons entry rest ih =>
    rw [List.map_cons, place, place, ← ih]
    split <;> rfl

theorem insert_through (location : Location) (object : Object) :
    (fs.insert location object).through view =
      (fs.through view).insert location (object.through view) := by
  rw [insert, insert, through, through, place_through]

/-! ### Where paths lead -/

theorem walk_through (onLink : List Name → Location → Except Failure Location)
    (followLast : Bool) (segments : List Name) (here : Location) :
    (fs.through view).walk onLink followLast segments here =
      fs.walk onLink followLast segments here := by
  induction segments generalizing here with
  | nil => rfl
  | cons segment rest ih =>
    rw [walk, walk, get?_through, get?_through]
    cases fs.get? here with
    | none => rfl
    | some object =>
      -- The walk asks whether an object is a directory or a link, and never what a file holds.
      cases object with
      | directory =>
        simp only [Option.map_some, Object.through, ih]
        cases fs.get? (segment :: here) with
        | none => rfl
        | some entry => cases entry <;> rfl
      | _ => rfl

theorem resolve_through (followLast : Bool) (links : Nat) :
    (fs.through view).resolve followLast links = fs.resolve followLast links := by
  induction links with
  | zero =>
    funext segments here
    exact walk_through ..
  | succ links ih =>
    funext segments here
    rw [resolve, resolve, ih, walk_through]

@[simp]
theorem locate_through (path : Path) (followLast : Bool) :
    (fs.through view).locate path followLast = fs.locate path followLast := by
  rw [locate, locate, resolve_through]
  rfl

@[simp]
theorem locateParent_through (path : Path) :
    (fs.through view).locateParent path = fs.locateParent path := by
  rw [locateParent, locateParent, resolve_through]
  rfl

/-! ### What paths show -/

@[simp]
theorem require_through (location : Location) :
    (fs.through view).require location = (fs.require location).map (Object.through view) := by
  rw [require, require, get?_through]
  cases fs.get? location <;> rfl

theorem stat_through (path : Path) :
    (fs.through view).stat path = (fs.stat path).map (Object.through view) := by
  rw [stat, stat, locate_through]
  cases fs.locate path true with
  | error => rfl
  | ok location => exact require_through location

theorem lstat_through (path : Path) :
    (fs.through view).lstat path = (fs.lstat path).map (Object.through view) := by
  rw [lstat, lstat, locate_through]
  cases fs.locate path false with
  | error => rfl
  | ok location => exact require_through location

@[simp]
theorem isDirectory_through (path : Path) :
    (fs.through view).isDirectory path = fs.isDirectory path := by
  rw [isDirectory, isDirectory, stat_through]
  cases fs.stat path with
  | error => rfl
  | ok object => exact object.isDirectory_through

theorem readDirectory_through (path : Path) :
    (fs.through view).readDirectory path =
      (fs.readDirectory path).map (·.map fun found => (found.1, found.2.through view)) := by
  rw [readDirectory, readDirectory, locate_through]
  cases fs.locate path true with
  | error => rfl
  | ok location =>
    simp only [bind, Except.bind, require_through, children_through]
    cases fs.require location with
    | error => rfl
    | ok object => cases object <;> rfl

theorem inspect_through (path : Path) (components : List Component) :
    (fs.through view).inspect path components = fs.inspect path components := by
  induction components generalizing path with
  | nil => rfl
  | cons component rest ih =>
    rw [inspect, inspect, lstat_through]
    cases fs.lstat (path.join ⟨component.toName⟩) with
    | error failure => cases failure <;> rfl
    | ok object => cases object <;> first | rfl | exact ih _

@[simp]
theorem checkSafe_through (item root : Path) :
    (fs.through view).checkSafe item root = fs.checkSafe item root := by
  have same : ∀ path, (fs.through view).absolutize path = fs.absolutize path := fun _ => rfl
  rw [checkSafe, checkSafe, same, same]
  cases (fs.absolutize item).stripStart? (fs.absolutize root) with
  | none => rfl
  | some inner => exact inspect_through ..

/-! ### Changes -/

theorem makeDirectory_through (path : Path) :
    (fs.through view).makeDirectory path = (fs.makeDirectory path).map (through view) := by
  rw [makeDirectory, makeDirectory, locateParent_through]
  cases fs.locateParent path with
  | error => rfl
  | ok found =>
    obtain ⟨above, last⟩ := found
    cases last with
    | none => rfl
    | some last =>
      simp only [bind, Except.bind, get?_through]
      split
      next => rfl
      split
      next => rfl
      cases fs.get? (last :: above) with
      | some => rfl
      | none =>
        exact congrArg Except.ok (insert_through (last :: above) .directory).symm

theorem settle_through (path : Path) (result : Except Failure FileSystem) :
    (fs.through view).settle path (result.map (through view)) =
      ((fs.settle path result).1.through view, (fs.settle path result).2) := by
  cases result with
  | ok => rfl
  | error failure => rw [settle, Except.map, settle, isDirectory_through]

theorem createDirectoriesFrom_through (paths : List Path) :
    createDirectoriesFrom paths (fs.through view) =
      ((createDirectoriesFrom paths fs).1.through view, (createDirectoriesFrom paths fs).2) := by
  induction paths with
  | nil => rfl
  | cons path above ih =>
    rw [createDirectoriesFrom, createDirectoriesFrom, makeDirectory_through, ih]
    split
    next => rfl
    -- Only where the parent is missing are the paths above it made first.
    cases made : fs.makeDirectory path with
    | ok => rfl
    | error failure =>
      cases failure with
      | notFound =>
        simp only [Except.map]
        cases createDirectoriesFrom above fs with
        | mk higher outcome =>
          cases outcome with
          | error => rfl
          | ok =>
            simp only [makeDirectory_through]
            exact settle_through path _
      | _ => exact settle_through path (.error _)

theorem createDirectories_through (path : Path) :
    (fs.through view).createDirectories path =
      ((fs.createDirectories path).1.through view, (fs.createDirectories path).2) :=
  createDirectoriesFrom_through path.ancestors

theorem setMode_through (path : Path) (mode : Nat) :
    (fs.through view).setMode path mode = (fs.setMode path mode).map (through view) := by
  rw [setMode, setMode, locate_through]
  cases fs.locate path true with
  | error => rfl
  | ok location =>
    simp only [bind, Except.bind, require_through]
    cases fs.require location with
    | error => rfl
    | ok object =>
      cases object with
      | file content old =>
        exact congrArg Except.ok (insert_through location (.file content mode)).symm
      | _ => rfl

theorem ensureWritable_through (path : Path) :
    (fs.through view).ensureWritable path = (fs.ensureWritable path).map (through view) := by
  rw [ensureWritable, ensureWritable, lstat_through]
  cases fs.lstat path with
  | error failure => cases failure <;> rfl
  | ok object =>
    cases object with
    | file content mode => exact setMode_through path _
    | _ => rfl

/-- What is written is seen through the view. -/
theorem writeFile_through (path : Path) (content : List UInt8) :
    (fs.through view).writeFile path (view content) =
      (fs.writeFile path content).map (through view) := by
  rw [writeFile, writeFile, locateParent_through]
  cases fs.locateParent path with
  | error => rfl
  | ok found =>
    obtain ⟨above, last⟩ := found
    cases last with
    | none => rfl
    | some last =>
      simp only [bind, Except.bind, locate_through]
      split
      next => rfl
      cases fs.locate path true with
      | error => rfl
      | ok location =>
        simp only [get?_through]
        cases fs.get? location with
        | none =>
          exact congrArg Except.ok (insert_through location (.file content newFileMode)).symm
        | some object =>
          cases object with
          | file old mode =>
            exact congrArg Except.ok (insert_through location (.file content mode)).symm
          | _ => rfl

theorem copyMode_through (source destination : Path) :
    (fs.through view).copyMode source destination =
      (fs.copyMode source destination).map (through view) := by
  rw [copyMode, copyMode, stat_through]
  cases fs.stat source with
  | error => rfl
  | ok object =>
    simp only [bind, Except.bind, Except.map, Object.mode_through, setMode_through]

/-! ### Reading -/

/-- A view that shows whether a content is text leaves it to the content what is read, but not
whether anything is. -/
theorem readText_alongside {other : FileSystem} {path' : Path}
    (readable : ∀ {content content'}, view content' = view content →
      (Utf8.decode? content').isSome = (Utf8.decode? content).isSome)
    (seen : (other.stat path').map (Object.through view) =
      (fs.stat path).map (Object.through view)) :
    Alongside (fun text text' => ∃ content content', view content' = view content ∧
      Utf8.decode? content = some text ∧ Utf8.decode? content' = some text')
      (fs.readText path) (other.readText path') := by
  have alike := Alongside.of_map_eq seen
  unfold readText
  generalize fs.stat path = result at alike
  generalize other.stat path' = result' at alike
  cases alike with
  | error => exact .error
  | @ok object object' shown =>
    rcases Object.eq_or_of_through_eq shown.2.2 with
      rfl | ⟨content', content, mode, rfl, rfl, viewed⟩
    · cases object' with
      | file content mode =>
        simp only [bind, Except.bind]
        cases found : Utf8.decode? content with
        | none => exact .error
        | some text => exact .ok ⟨content, content, rfl, found, found⟩
      | fifo | device | link => exact .ok ⟨[], [], rfl, rfl, rfl⟩
      | _ => exact .error
    · have same := readable viewed
      simp only [bind, Except.bind]
      cases found : Utf8.decode? content with
      | none =>
        cases found' : Utf8.decode? content' with
        | none => exact .error
        | some => simp [found, found'] at same
      | some text =>
        cases found' : Utf8.decode? content' with
        | none => simp [found, found'] at same
        | some text' => exact .ok ⟨content, content', viewed, found, found'⟩

/-! ### File systems seen alike -/

/-- A view shows two file systems alike. -/
def SeenAlike (view : List UInt8 → List UInt8) (fs other : FileSystem) : Prop :=
  other.through view = fs.through view

namespace SeenAlike

variable {other : FileSystem} (alike : SeenAlike view fs other)

include alike

/-- File systems that are seen alike differ only in what files hold. -/
theorem get?_eq_or (location : Location) : other.get? location = fs.get? location ∨
    ∃ content content' mode, fs.get? location = some (.file content mode) ∧
      other.get? location = some (.file content' mode) ∧ view content' = view content := by
  have seen : (other.get? location).map (Object.through view) =
      (fs.get? location).map (Object.through view) := by
    rw [← get?_through, alike, get?_through]
  cases found : other.get? location with
  | none =>
    rw [found] at seen
    exact .inl (Option.map_eq_none_iff.1 seen.symm).symm
  | some object =>
    rw [found] at seen
    obtain ⟨object', found', same⟩ := Option.map_eq_some_iff.1 seen.symm
    rw [found']
    rcases Object.eq_or_of_through_eq same.symm with
      rfl | ⟨content', content, mode, rfl, rfl, shown⟩
    · exact .inl rfl
    · exact .inr ⟨content, content', mode, rfl, rfl, shown⟩

theorem stat (path : Path) :
    (other.stat path).map (Object.through view) = (fs.stat path).map (Object.through view) := by
  rw [← stat_through, alike, stat_through]

theorem isDirectory (path : Path) : other.isDirectory path = fs.isDirectory path := by
  rw [← isDirectory_through, alike, isDirectory_through]

theorem readDirectory (path : Path) :
    (other.readDirectory path).map (·.map fun found => (found.1, found.2.through view)) =
      (fs.readDirectory path).map (·.map fun found => (found.1, found.2.through view)) := by
  rw [← readDirectory_through, alike, readDirectory_through]

omit alike in
theorem alongside {result result' : Except Failure FileSystem}
    (same : result'.map (through view) = result.map (through view)) :
    Alongside (SeenAlike view) result result' := by
  refine (Alongside.of_map_eq same).mono fun made made' seen => ?_
  exact seen.2.2

end SeenAlike

/-- No access but reading looks into files, so none tells apart what a view shows alike. -/
theorem likeness_seenAlike (view : List UInt8 → List UInt8) :
    Likeness (SeenAlike view) fun content content' => view content' = view content where
  isRegular {fs other} alike path := by
    have regular : ∀ result : Except Failure Object,
        (result.map (Object.through view)).map Object.isRegular =
          result.map Object.isRegular := by
      intro result
      cases result with
      | error => rfl
      | ok object => exact congrArg Except.ok object.isRegular_through
    rw [← regular, alike.stat, regular]
  checkSafe {fs other} alike item root := by
    rw [← checkSafe_through, alike, checkSafe_through]
  createDirectories {fs other} alike path := by
    have made : (fs.through view).createDirectories path = _ := createDirectories_through path
    rw [← show other.through view = fs.through view from alike, createDirectories_through] at made
    exact Prod.mk.inj made
  ensureWritable {fs other} alike path := SeenAlike.alongside <| by
    rw [← ensureWritable_through, alike, ensureWritable_through]
  writeFile {fs other} alike path content content' same := SeenAlike.alongside <| by
    rw [← writeFile_through, alike, same, writeFile_through]
  copyMode {fs other} alike source destination := SeenAlike.alongside <| by
    rw [← copyMode_through, alike, copyMode_through]

end FileSystem

end TwinTree
