import TwinTree.Proofs.Destination.Acceptance
import TwinTree.Proofs.FileSystem.Repetition

/-!
# Accesses to places where nothing is

In a directory that is there, a directory can be made under any name that nothing has, provided that
the path names it last (`createDirectories_of_missing`), and a file can be written
(`writeFile_join_of_missing`). A fresh path has its place under such a name
(`Fresh.exists_vacancy`).
-/
namespace TwinTree.FileSystem

variable {fs : FileSystem} {path above : Path} {names : List Name} {name : Name} {here : Location}
  {left : Nat} {content : List UInt8}

/-! ### Directories -/

theorem makeDirectory_of_missing {front : List Name} (names_eq : path.names = front ++ [name])
    (accepted : checkText path pathLimit = .ok ())
    (leads : Leads fs linkLimit front (fs.origin path) left here)
    (enclosed : fs.get? here = some .directory) (ordinary : IsOrdinary name)
    (missing : fs.get? (name :: here) = none) :
    fs.makeDirectory path = .ok (fs.insert (name :: here) .directory) := by
  have found : fs.locateParent path = .ok (here, some name) := by
    refine locateParent_eq_ok_iff.2 ⟨accepted, enclosed, ⟨left, ?_⟩, ?_⟩
    · rwa [names_eq, List.dropLast_concat]
    · rw [names_eq, List.getLast?_concat]
  rw [makeDirectory, found]
  simp [bind, Except.bind, pure, Except.pure, ordinary.ne_dot, ordinary.ne_dotDot,
    Nat.not_lt.2 ordinary.length_le, missing]

section Beneath

variable (wellFormed : fs.WellFormed) (beneath : Path.Beneath path above (names ++ [name]))
  (solid : ¬ path.EndsInDot) (leads : Leads fs linkLimit above.names (fs.origin above) left here)
  (enclosed : fs.get? (names.reverse ++ here) = some .directory)

include wellFormed beneath solid leads enclosed

/-- Whatever is written between the names, the way in front of the last one leads to its
directory. -/
theorem exists_leads_front : ∃ front, path.names = front ++ [name] ∧
    Leads fs linkLimit front (fs.origin path) left (names.reverse ++ here) := by
  have route := beneath.route_eq
  rw [← List.append_assoc] at route
  obtain ⟨others, names_eq, same⟩ := Path.exists_names_eq solid route
  refine ⟨others, names_eq, ?_⟩
  have standing : fs.get? here = some .directory := wellFormed.directory_of_append enclosed
  have down : Leads fs left names here left (names.reverse ++ here) :=
    wellFormed.leads_down enclosed
  have whole := leads.append (by simp [standing]) down
  have plain : names.filter (· ≠ dot) = names :=
    Path.filter_eq_self_of_isPlain (List.forall_mem_append.1 beneath.plain).1
  have alike : (above.names ++ names).filter (· ≠ dot) = others.filter (· ≠ dot) := by
    rw [List.filter_append, plain, same]
    rfl
  rw [origin, beneath.isAbsolute_eq]
  exact whole.of_filter_eq enclosed alike

variable (ordinary : IsOrdinary name) (missing : fs.get? (name :: (names.reverse ++ here)) = none)

include ordinary missing

/-- A directory beneath a place that is there, where only the last name is missing. -/
theorem createDirectories_of_missing (accepted : checkText path pathLimit = .ok ()) :
    fs.createDirectories path =
      (fs.insert (name :: (names.reverse ++ here)) .directory, .ok ()) := by
  obtain ⟨front, names_eq, way⟩ := exists_leads_front wellFormed beneath solid leads enclosed
  rw [createDirectories_eq,
    makeDirectory_of_missing names_eq accepted way enclosed ordinary missing,
    if_neg (by simpa using (checkText_eq_ok_iff.1 accepted).2.1)]
  rfl

theorem lstat_ne_ok_of_missing (object : Object) : fs.lstat path ≠ .ok object := by
  obtain ⟨front, names_eq, way⟩ := exists_leads_front wellFormed beneath solid leads enclosed
  intro shown
  obtain ⟨location, located, required⟩ := bind_eq_ok_iff.1 shown
  obtain ⟨_, _, resolved⟩ := bind_eq_ok_iff.1 located
  have steps_eq : ∃ behind, path.steps = front ++ name :: behind := by
    unfold Path.steps
    split
    · exact ⟨[dot], by simp [names_eq]⟩
    · exact ⟨[], names_eq⟩
  obtain ⟨behind, steps_eq⟩ := steps_eq
  rw [steps_eq, way.resolve_append (.inl (by simp)), resolve_eq_walk, walk, enclosed] at resolved
  simp only [ordinary.ne_dot, ordinary.ne_dotDot, Nat.not_lt.2 ordinary.length_le, missing,
    if_false] at resolved
  split at resolved
  · cases resolved
    cases missing.symm.trans (require_eq_ok_iff.1 required)
  · cases resolved

end Beneath

/-! ### Files -/

section File

variable (ordinary : IsOrdinary name) (accepted : checkText (path.join ⟨name⟩) pathLimit = .ok ())
  (enclosed : fs.get? here = some .directory)
  (leads : Leads fs linkLimit path.names (fs.origin path) left here)
  (missing : fs.get? (name :: here) = none)

include ordinary accepted enclosed leads missing

theorem ensureWritable_join_of_missing : fs.ensureWritable (path.join ⟨name⟩) = .ok fs := by
  have shown : fs.lstat (path.join ⟨name⟩) = .error .notFound := by
    rw [lstat_join ordinary.isPlain enclosed leads, accepted]
    simp [bind, Except.bind, Nat.not_lt.2 ordinary.length_le, require, missing]
  rw [ensureWritable, shown]

theorem writeFile_join_of_missing : fs.writeFile (path.join ⟨name⟩) content =
    .ok (fs.insert (name :: here) (.file content newFileMode)) := by
  have found : fs.locate (path.join ⟨name⟩) true = .ok (name :: here) := by
    refine locate_eq_ok_iff.2 ⟨accepted, left, ?_⟩
    rw [Path.steps_join_name ordinary.isPlain, origin_join_name ordinary.isPlain]
    exact leads.append (by simp [enclosed])
      (.vacant enclosed ordinary.ne_dot ordinary.ne_dotDot ordinary.length_le missing)
  rw [writeFile, locateParent_join ordinary accepted enclosed leads, found]
  simp [bind, Except.bind, Path.endsInSlash_join ordinary.isPlain, ordinary.ne_dot,
    ordinary.ne_dotDot, missing, pure, Except.pure]

end File

/-! ### Fresh paths -/

/-- Nothing has the name of a path, in a directory that is there. -/
def Fresh (fs : FileSystem) (path : Path) : Prop :=
  ∃ above name, path.parent? = some above ∧ path.fileName? = some name ∧
    (above.bytes = [] ∨ fs.isDirectory above = true) ∧
    fs.lstat (above.join ⟨name⟩) = .error .notFound

/-- The place of a fresh path is in a directory, under a name that is missing there. -/
structure Vacancy (fs : FileSystem) (path : Path) (name : Name) (here : Location) : Prop where
  way : ∃ above left, Path.Beneath path above [name] ∧
    Leads fs linkLimit above.names (fs.origin above) left here
  enclosed : fs.get? here = some .directory
  missing : fs.get? (name :: here) = none
  ordinary : IsOrdinary name
  absent : 0 ∉ path.bytes

theorem Fresh.exists_vacancy (fresh : fs.Fresh path) (wellFormed : fs.WellFormed) :
    ∃ name here, Vacancy fs path name here := by
  obtain ⟨above, name, parent, named, there, shown⟩ := fresh
  obtain ⟨front, split⟩ : ∃ front, path.components = front ++ [.name name] := by
    unfold Path.fileName? at named
    split at named
    next found =>
      cases named
      exact List.getLast?_eq_some_iff.1 found
    next => cases named
  obtain ⟨_, _, found, rfl⟩ := Path.exists_parent?_of_name split
  cases parent.symm.trans found
  have final : .name name ∈ path.components := by simp [split]
  have plain := Path.isPlain_of_name_mem final
  have beneath : Path.Beneath path above [name] := ⟨by simpa using plain, split⟩
  obtain ⟨left, here, leads, enclosed⟩ : ∃ left here,
      Leads fs linkLimit above.names (fs.origin above) left here ∧
        fs.get? here = some .directory := by
    rcases there with empty | isDirectory
    · obtain rfl : above = ⟨[]⟩ := by
        cases above
        exact congrArg Path.mk empty
      exact ⟨linkLimit, _, .done, get?_origin wellFormed _⟩
    · obtain ⟨_, left, here, leads, directory⟩ := isDirectory_iff.1 isDirectory
      exact ⟨left, here, leads, directory⟩
  rcases lstat_join_cases plain enclosed leads with
    ⟨⟨accepted, short⟩, _⟩ | ⟨_, failure, other, refused⟩
  · have absent := (checkText_eq_ok_iff.1 accepted).1
    have names_eq : (above.join ⟨name⟩).names = above.names ++ [name] := Path.names_join_name plain
    refine ⟨name, here, ⟨above, left, beneath, leads⟩, enclosed,
      missing_of_lstat plain enclosed leads shown, ?_, ?_⟩
    · exact Path.isOrdinary_of_mem_names (by simp [names_eq]) plain.ne_dot plain.ne_dotDot absent
        short
    · -- The path has the names of its parent joined with the last name, but for dots.
      refine nul_notMem_of_route fun segment member within => ?_
      rw [beneath.route_eq] at member
      have onRoute : segment ∈ (above.join ⟨name⟩).names :=
        names_eq ▸ (List.filter_sublist.append_right [name]).subset member
      exact absent (subset_of_mem_pieces (Path.mem_names.1 onRoute).1 within)
  · cases shown.symm.trans refused
    exact absurd rfl other

namespace Vacancy

variable (vacancy : Vacancy fs path name here) (wellFormed : fs.WellFormed)

include vacancy

theorem nonempty : path.bytes ≠ [] := by
  obtain ⟨_, _, beneath, _⟩ := vacancy.way
  have split := beneath.components_eq
  intro empty
  rw [Path.components_eq_nil_iff.2 empty] at split
  simp at split

include wellFormed

theorem prospect_eq : fs.prospect path = name :: here := by
  obtain ⟨above, left, beneath, leads⟩ := vacancy.way
  have stops : StopsAt fs path here [name] := by
    refine ⟨⟨above.names, left, ?_, beneath.route_eq⟩, vacancy.enclosed, beneath.plain, name, [],
      rfl, vacancy.missing⟩
    rwa [origin, beneath.isAbsolute_eq]
  exact stops.prospect_eq wellFormed

variable (solid : ¬ path.EndsInDot)

include solid

theorem lstat_ne_ok (object : Object) : fs.lstat path ≠ .ok object := by
  obtain ⟨above, left, beneath, leads⟩ := vacancy.way
  have inside : Path.Beneath path above ([] ++ [name]) := beneath
  exact lstat_ne_ok_of_missing wellFormed inside solid leads vacancy.enclosed vacancy.ordinary
    vacancy.missing object

theorem createDirectories_eq (short : path.bytes.length ≤ pathLimit) :
    fs.createDirectories path = (fs.insert (name :: here) .directory, .ok ()) := by
  obtain ⟨above, left, beneath, leads⟩ := vacancy.way
  have inside : Path.Beneath path above ([] ++ [name]) := beneath
  have accepted := checkText_eq_ok_iff.2 ⟨vacancy.absent, vacancy.nonempty, short⟩
  exact createDirectories_of_missing wellFormed inside solid leads vacancy.enclosed
    vacancy.ordinary vacancy.missing accepted

end Vacancy

end TwinTree.FileSystem
