import TwinTree.Proofs.Pass.Reach
import TwinTree.Proofs.Placement

/-!
# How positions correspond

A directory of the source and the directory that stands for it in the twin go on from the two roots
by the same names, however the roots are spelled. So different directories have different places,
and what swaps the roots one way swaps them back the other way. A file stands in the place of its
directory, under the name that the first fitting renaming gives it (`positions_correspond`).
-/
namespace TwinTree

/-- What the first renaming that fits makes of a name, or the name itself if none fits. -/
inductive Renaming.Yields (renamings : List Renaming) (name : List Char) : List Char → Prop where
  | fitting {front behind : List Renaming} {first : Renaming} :
      renamings = front ++ first :: behind →
      (∀ earlier ∈ front, ¬ earlier.suffix.toList <:+ name) → first.suffix.toList <:+ name →
      Yields renamings name first.replacement.toList
  | kept : (∀ change ∈ renamings, ¬ change.suffix.toList <:+ name) → Yields renamings name name

theorem Renaming.yields_rename (renamings : List Renaming) (name : List Char) :
    Yields renamings name (rename renamings name) := by
  unfold rename
  split
  next first found =>
    obtain ⟨fits, front, behind, split, passed⟩ := List.find?_eq_some_iff_append.1 found
    refine .fitting split ?_ (List.isSuffixOf_iff_suffix.1 fits)
    intro earlier member ends
    have passed := passed earlier member
    simp [List.isSuffixOf_iff_suffix.2 ends] at passed
  next missed =>
    refine .kept ?_
    intro change member ends
    have passed := List.find?_eq_none.1 missed change member
    simp [List.isSuffixOf_iff_suffix.2 ends] at passed

namespace Path

variable {path source : Path} {names : List Name}

/-- What is beneath the source is found to start with it. -/
theorem Beneath.isSome_stripStart? (beneath : Beneath path source names) :
    (path.stripStart? source).isSome = true := by
  obtain ⟨behind, found, _⟩ := exists_stripStart? beneath.components_eq
  simp [found]

end Path

namespace Placement

variable {source twin path : Path} {names : List Name}

/-- The way into the twin and back leads to the same directory. -/
theorem directory_directory (beneath : Path.Beneath path source names) :
    (directory twin source (directory source twin path)).Same path := by
  have there : Path.Beneath (directory source twin path) twin names := beneath_directory beneath
  have back : Path.Beneath (directory twin source (directory source twin path)) source names :=
    beneath_directory there
  exact back.components_eq.trans beneath.components_eq.symm

/-- Different directories have different places. -/
theorem directory_same_iff {path' : Path} {others : List Name}
    (beneath : Path.Beneath path source names) (beneath' : Path.Beneath path' source others) :
    (directory source twin path).Same (directory source twin path') ↔ path.Same path' := by
  have place : Path.Beneath (directory source twin path) twin names := beneath_directory beneath
  have place' : Path.Beneath (directory source twin path') twin others :=
    beneath_directory beneath'
  have same_iff : ∀ {first second root : Path}, Path.Beneath first root names →
      Path.Beneath second root others → (first.Same second ↔ names = others) := by
    intro first second root below below'
    refine ⟨fun same => below.unique ⟨below'.plain, same.trans below'.components_eq⟩, ?_⟩
    rintro rfl
    exact below.components_eq.trans below'.components_eq.symm
  rw [same_iff place place', same_iff beneath beneath']

/-- A file stands in the place of its directory. -/
theorem exists_parent?_file_same {renamings : List Renaming} {name : Name}
    (replaced : PlainRenamings renamings) (beneath : Path.Beneath path source names)
    (plain : IsPlain name) :
    (∃ parent, (file source twin renamings (path.join ⟨name⟩)).parent? = some parent ∧
      parent.Same (directory source twin path)) ∧
    (file source twin renamings (path.join ⟨name⟩)).fileName? =
      some (fileName renamings name) := by
  have place : Path.Beneath (directory source twin path) twin names := beneath_directory beneath
  have whole : Path.Beneath (file source twin renamings (path.join ⟨name⟩)) twin
      (names ++ [fileName renamings name]) := beneath_file replaced (beneath.join plain)
  have split : (file source twin renamings (path.join ⟨name⟩)).components =
      (twin.components ++ names.map .name) ++ [.name (fileName renamings name)] := by
    simpa using whole.components_eq
  obtain ⟨name_eq, parent, found, parent_eq⟩ := Path.exists_parent?_of_name split
  exact ⟨⟨parent, found, parent_eq.trans place.components_eq.symm⟩, name_eq⟩

end Placement

/-- However the two roots are spelled, a directory some names beneath the source is found to start
with it, and its place is beneath the twin by the same names; different directories have different
places, and the way back leads to the directory itself. A file stands in the place of its
directory, under the name that the renamings yield. A walk comes to such directories only. -/
theorem positions_correspond (source twin : Path) {names : List Name}
    (plain : ∀ name ∈ names, IsPlain name) :
    ((source.extend names).stripStart? source).isSome = true ∧
    (Placement.directory source twin (source.extend names)).components =
      twin.components ++ names.map .name ∧
    (∀ others : List Name, (∀ name ∈ others, IsPlain name) →
      ¬ (source.extend names).Same (source.extend others) →
      ¬ (Placement.directory source twin (source.extend names)).Same
        (Placement.directory source twin (source.extend others))) ∧
    (Placement.directory twin source
      (Placement.directory source twin (source.extend names))).Same (source.extend names) ∧
    (∀ (text : List Char) (renamings : List Renaming), IsPlain (Utf8.encode text) →
      PlainRenamings renamings →
      let place :=
        Placement.file source twin renamings ((source.extend names).join ⟨Utf8.encode text⟩)
      (∃ parent, place.parent? = some parent ∧
        parent.Same (Placement.directory source twin (source.extend names))) ∧
      ∃ renamed, Renaming.Yields renamings text renamed ∧
        place.fileName? = some (Utf8.encode renamed)) ∧
    ∀ (fs : FileSystem) (options : Options) (policy : Policy) (visits : List Visit)
      (report : Report) (after : State), fs.WellFormed →
      EStateM.run (Pass.runWitnessed source twin options policy) { fileSystem := fs } =
        .ok (visits, report) after →
      ∀ visit ∈ visits, (∃ trail : List Name, (∀ name ∈ trail, IsPlain name) ∧
        visit.directory = source.extend trail) ∧
        (visit.directory.stripStart? source).isSome = true := by
  have beneath : Path.Beneath (source.extend names) source names := .extend plain
  refine ⟨beneath.isSome_stripStart?, (Placement.beneath_directory beneath).components_eq, ?_,
    Placement.directory_directory beneath, ?_, ?_⟩
  · intro others plain' different same
    exact different ((Placement.directory_same_iff beneath (.extend plain')).1 same)
  · intro text renamings own replaced
    obtain ⟨parent, name_eq⟩ :=
      @Placement.exists_parent?_file_same _ twin _ _ _ _ replaced beneath own
    refine ⟨parent, _, Renaming.yields_rename renamings text, ?_⟩
    rw [name_eq, Placement.fileName, Utf8.lossy_encode]
  · -- A walk joins the names that it meets, so it comes to nothing but such directories.
    intro fs options policy visits report after wellFormed ended visit member
    have reaches : Pass.Meets (Pass.runWitnessed source twin options policy) _ _ _ :=
      Pass.runWitnessed_reaches wellFormed
    obtain ⟨trail, plain, directory_eq⟩ := (reaches.of_run ended visit member).trail
    refine ⟨⟨trail, plain, directory_eq⟩, ?_⟩
    rw [directory_eq]
    exact (Path.Beneath.extend plain).isSome_stripStart?

/-- A source and a twin with spare dots and slashes, a directory two levels down, and a header in it
that is renamed. -/
theorem positions_correspond_spelled :
    let source := Path.ofString "./s/."
    let twin := Path.ofString "d//"
    let names : List Name := [[0x61], [0x62]]
    let header : List Char := "hazel.h".toList
    (∀ name ∈ names, IsPlain name) ∧ IsPlain (Utf8.encode header) ∧
    PlainRenamings ({} : Options).renamings ∧
    ((source.extend names).stripStart? source).isSome = true ∧
    (Placement.directory source twin (source.extend names)).components =
      [.name [0x64], .name [0x61], .name [0x62]] ∧
    ¬ (Placement.directory source twin (source.extend names)).Same
      (Placement.directory source twin source) ∧
    (Placement.directory twin source
      (Placement.directory source twin (source.extend names))).Same (source.extend names) ∧
    ∃ renamed, Renaming.Yields ({} : Options).renamings header renamed ∧
      (Placement.file source twin ({} : Options).renamings
        ((source.extend names).join ⟨Utf8.encode header⟩)).fileName? =
          some (Utf8.encode renamed) := by
  have plain : ∀ name ∈ ([[0x61], [0x62]] : List Name), IsPlain name := by decide
  have own : IsPlain (Utf8.encode "hazel.h".toList) := by decide
  have replaced : PlainRenamings ({} : Options).renamings := by decide
  obtain ⟨starts, place, apart, back, files, _⟩ :=
    positions_correspond (.ofString "./s/.") (.ofString "d//") plain
  refine ⟨plain, own, replaced, starts, ?_, ?_, back, (files _ _ own replaced).2⟩
  · rw [place]
    decide
  · exact apart [] (by simp) (by decide)

end TwinTree
