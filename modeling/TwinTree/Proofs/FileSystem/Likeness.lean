import TwinTree.Destination

/-!
# File systems that accesses take for the same

A relation between file systems is a likeness if no access that a pass makes, but for listing and
reading, tells related ones apart: each gives the same answer on both, and changes both so that they
stay related.
-/
namespace TwinTree.FileSystem

/-- Two accesses succeed with related results, or fail for the same reason. -/
inductive Alongside {α β : Type} (related : α → β → Prop) :
    Except Failure α → Except Failure β → Prop
  | ok {result : α} {result' : β} : related result result' →
      Alongside related (.ok result) (.ok result')
  | error {failure : Failure} : Alongside related (.error failure) (.error failure)

theorem Alongside.mono {α β : Type} {related weaker : α → β → Prop} {result : Except Failure α}
    {result' : Except Failure β} (alongside : Alongside related result result')
    (onSuccess : ∀ value value', related value value' → weaker value value') :
    Alongside weaker result result' := by
  cases alongside with
  | ok holds => exact .ok (onSuccess _ _ holds)
  | error => exact .error

/-- Results that look the same go alongside each other. -/
theorem Alongside.of_map_eq {α β γ : Type} {view : α → γ} {view' : β → γ}
    {result : Except Failure α} {result' : Except Failure β}
    (alike : result'.map view' = result.map view) :
    Alongside (fun value value' => result = .ok value ∧ result' = .ok value' ∧
      view' value' = view value) result result' := by
  cases result with
  | ok value =>
    cases result' with
    | ok value' => exact .ok ⟨rfl, rfl, Except.ok.inj alike⟩
    | error => cases alike
  | error failure =>
    cases result' with
    | ok => cases alike
    | error failure' =>
      cases alike
      exact .error

/-- Accesses that change files do so alike, where the contents that are written are related. -/
structure Likeness (Files : FileSystem → FileSystem → Prop)
    (Contents : List UInt8 → List UInt8 → Prop) : Prop where
  isRegular : ∀ {fs fs'}, Files fs fs' → ∀ path,
    (fs'.stat path).map Object.isRegular = (fs.stat path).map Object.isRegular
  checkSafe : ∀ {fs fs'}, Files fs fs' → ∀ item root,
    fs'.checkSafe item root = fs.checkSafe item root
  createDirectories : ∀ {fs fs'}, Files fs fs' → ∀ path,
    Files (fs.createDirectories path).1 (fs'.createDirectories path).1 ∧
      (fs'.createDirectories path).2 = (fs.createDirectories path).2
  ensureWritable : ∀ {fs fs'}, Files fs fs' → ∀ path,
    Alongside Files (fs.ensureWritable path) (fs'.ensureWritable path)
  writeFile : ∀ {fs fs'}, Files fs fs' → ∀ path {content content'}, Contents content content' →
    Alongside Files (fs.writeFile path content) (fs'.writeFile path content')
  copyMode : ∀ {fs fs'}, Files fs fs' → ∀ source destination,
    Alongside Files (fs.copyMode source destination) (fs'.copyMode source destination)

end TwinTree.FileSystem
