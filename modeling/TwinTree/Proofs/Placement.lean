import TwinTree.Placement
import TwinTree.Proofs.Path.Shortening
import TwinTree.Proofs.Text.ShownName

/-!
# Positions kept in the twin

What is beneath the source by certain names is beneath the twin by the same names; only the name of
a file may be another one.
-/
namespace TwinTree

/-- Every name that a renaming gives is one component of a path. -/
def PlainRenamings (renamings : List Renaming) : Prop :=
  ∀ change ∈ renamings, IsPlain (Utf8.encode change.replacement.toList)

instance (renamings : List Renaming) : Decidable (PlainRenamings renamings) :=
  inferInstanceAs (Decidable (∀ change ∈ renamings, _))

/-- The standard renamings give a name to the umbrella header and one to the main file. -/
theorem rename_standard (name : List Char) : Renaming.rename ({} : Options).renamings name =
    if "hazel.h".toList <:+ name then "HazelInternalTests.h".toList
    else if "maininternaltests.c".toList <:+ name then "main.c".toList
    else name := by
  simp only [Renaming.rename, List.find?_cons, List.find?_nil, ← List.isSuffixOf_iff_suffix]
  cases "hazel.h".toList.isSuffixOf name with
  | true => rfl
  | false => cases "maininternaltests.c".toList.isSuffixOf name <;> rfl

namespace Placement

variable {source twin path : Path} {renamings : List Renaming} {names : List Name} {name : Name}

/-- The name of a file in the twin. -/
def fileName (renamings : List Renaming) (name : Name) : Name :=
  Utf8.encode (Renaming.rename renamings (Utf8.lossy name))

theorem isPlain_fileName (replaced : PlainRenamings renamings) (plain : IsPlain name) :
    IsPlain (fileName renamings name) := by
  unfold fileName Renaming.rename
  split
  next fitting found => exact replaced fitting (List.mem_of_find?_eq_some found)
  next => exact isPlain_encode_lossy plain

theorem lossy_fileName (renamings : List Renaming) (name : Name) :
    Utf8.lossy (fileName renamings name) = Renaming.rename renamings (Utf8.lossy name) :=
  Utf8.lossy_encode _

/-- The root of the twin stands for the source itself. -/
theorem directory_self (source twin : Path) : directory source twin source = twin := by
  obtain ⟨inner, found, _, _, _, empty⟩ :=
    Path.exists_stripStart? (Path.Beneath.refl source).components_eq
  rw [directory, found]
  simp [empty.2 rfl]

theorem beneath_directory (beneath : Path.Beneath path source names) :
    Path.Beneath (directory source twin path) twin names where
  plain := beneath.plain
  components_eq := by
    obtain ⟨behind, found, components_eq, relative, head_ne, empty⟩ :=
      Path.exists_stripStart? beneath.components_eq
    rw [directory, found]
    simp only
    by_cases nothing : behind.bytes = []
    · simp [nothing, empty.1 nothing]
    · rw [if_neg (by simpa using nothing)]
      by_cases rootless : twin.bytes = []
      · have joined : twin.join behind = behind := by simp [Path.join, relative, rootless]
        rw [joined, components_eq, Path.components_eq_nil_iff.2 rootless, List.nil_append]
      · rw [Path.components_join_of_relative rootless relative, ← components_eq,
          Path.components_of_relative relative head_ne]

/-- No directory of the twin ends in `.`, unless its root does. -/
theorem not_endsInDot_directory (beneath : Path.Beneath path source names)
    (nonempty : source.bytes ≠ []) (solid : names = [] → ¬ twin.EndsInDot) :
    ¬ (directory source twin path).EndsInDot := by
  obtain ⟨behind, found, components_eq, relative, _, empty⟩ :=
    Path.exists_stripStart? beneath.components_eq
  have final : ¬ behind.EndsInDot := Path.not_endsInDot_of_stripStart? nonempty found
  rw [directory, found]
  simp only
  by_cases nothing : behind.bytes = []
  · rw [if_pos (by simpa using nothing)]
    exact solid (empty.1 nothing)
  · rw [if_neg (by simpa using nothing)]
    -- The last segment is one of those behind the root, as there is a name among them.
    have some_left : behind.names ≠ [] := by
      intro none_left
      have route : behind.route = names := by
        rw [Path.route_eq, components_eq, Path.filterMap_step?_names]
      rw [Path.route, none_left] at route
      exact nothing (empty.2 route.symm)
    rw [Path.EndsInDot, Path.names_join relative, List.getLast?_append_of_ne_nil _ some_left]
    exact final

/-- A file keeps its directory and takes the name that the renamings give it. -/
theorem exists_file_eq (beneath : Path.Beneath path source (names ++ [name])) :
    ∃ above, file source twin renamings path = above.join ⟨fileName renamings name⟩ ∧
      Path.Beneath above twin names := by
  have last : path.components = (source.components ++ names.map .name) ++ [.name name] := by
    simpa using beneath.components_eq
  obtain ⟨name_eq, above, parent, above_eq⟩ := Path.exists_parent?_of_name last
  refine ⟨directory source twin above, ?_, ?_⟩
  · rw [file, name_eq, parent]
    rfl
  · exact beneath_directory ⟨(List.forall_mem_append.1 beneath.plain).1, above_eq⟩

theorem beneath_file (replaced : PlainRenamings renamings)
    (beneath : Path.Beneath path source (names ++ [name])) :
    Path.Beneath (file source twin renamings path) twin (names ++ [fileName renamings name]) := by
  obtain ⟨above, place, higher⟩ :
      ∃ above, file source twin renamings path = above.join ⟨fileName renamings name⟩ ∧
        Path.Beneath above twin names := exists_file_eq beneath
  rw [place]
  exact higher.join (isPlain_fileName replaced (beneath.plain name (by simp)))

theorem exists_parent?_file (replaced : PlainRenamings renamings)
    (beneath : Path.Beneath path source (names ++ [name])) :
    ∃ parent, (file source twin renamings path).parent? = some parent ∧
      Path.Beneath parent twin names := by
  have whole : Path.Beneath (file source twin renamings path) twin
      (names ++ [fileName renamings name]) := beneath_file replaced beneath
  have split : (file source twin renamings path).components =
      (twin.components ++ names.map .name) ++ [.name (fileName renamings name)] := by
    simpa using whole.components_eq
  obtain ⟨_, parent, found, parent_eq⟩ := Path.exists_parent?_of_name split
  exact ⟨parent, found, (List.forall_mem_append.1 beneath.plain).1, parent_eq⟩

end Placement

end TwinTree
