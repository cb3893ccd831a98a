import TwinTree.Proofs.FileSystem.View

/-!
# Outlines

The outline of a file system is what is left of it when nobody looks into the files: what is seen
through the view that shows nothing of them. So two file systems with one outline cannot be told
apart without reading (`likeness_sameOutline`).
-/
namespace TwinTree

/-- An object without the content of a file. -/
def Object.outline : Object → Object
  | .file _ mode => .file [] mode
  | object => object

namespace Object

theorem outline_eq_through (object : Object) : object.outline = object.through fun _ => [] := by
  cases object <;> rfl

@[simp]
theorem isLink_outline (object : Object) : object.outline.isLink = object.isLink := by
  cases object <;> rfl

end Object

namespace FileSystem

def outline (fs : FileSystem) : FileSystem :=
  { fs with entries := fs.entries.map fun entry => (entry.1, entry.2.outline) }

variable {fs other : FileSystem}

theorem outline_eq_through (fs : FileSystem) : fs.outline = fs.through fun _ => [] := by
  simp only [outline, through, Object.outline_eq_through]

theorem readDirectory_outline (path : Path) :
    fs.outline.readDirectory path =
      (fs.readDirectory path).map (·.map fun found => (found.1, found.2.outline)) := by
  simp only [outline_eq_through, readDirectory_through, Object.outline_eq_through]

/-! ### File systems with one outline -/

def SameOutline (fs other : FileSystem) : Prop := other.outline = fs.outline

theorem sameOutline_eq : SameOutline = SeenAlike fun _ => [] := by
  funext fs other
  rw [SameOutline, SeenAlike, outline_eq_through, outline_eq_through]

/-- File systems with one outline differ only in what files hold. -/
theorem get?_eq_or_of_outline_eq (same : SameOutline fs other) (location : Location) :
    other.get? location = fs.get? location ∨
      ∃ content content' mode, fs.get? location = some (.file content mode) ∧
        other.get? location = some (.file content' mode) := by
  rw [sameOutline_eq] at same
  rcases same.get?_eq_or location with equal | ⟨content, content', mode, found, found', _⟩
  · exact .inl equal
  · exact .inr ⟨content, content', mode, found, found'⟩

/-- No access but reading looks into files, so none tells what they hold. -/
theorem likeness_sameOutline : Likeness SameOutline fun _ _ => True := by
  have blind := likeness_seenAlike fun _ => []
  rw [← sameOutline_eq] at blind
  exact { blind with writeFile := fun same path _ _ _ => blind.writeFile same path rfl }

end FileSystem

end TwinTree
