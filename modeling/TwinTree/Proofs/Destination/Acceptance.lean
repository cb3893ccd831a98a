import TwinTree.Proofs.Destination.Safety

/-!
# When a place is safe

Where the directory that holds a place exists, whether the place is safe depends on two things
only: on the texts of the paths that are inspected on the way to it (`Accepted`), which no change of
the file system affects, and on there being no link in the place itself
(`checkSafe_eq_ok_iff`).
-/
namespace TwinTree

open FileSystem

/-- No access refuses the text of a path that goes on from the given one by some of the names. -/
def Path.Accepted (path : Path) : List Name → Prop
  | [] => True
  | name :: rest =>
    (checkText (path.join ⟨name⟩) pathLimit = .ok () ∧ name.length ≤ nameLimit) ∧
      (path.join ⟨name⟩).Accepted rest

theorem Path.length_le_extend {path : Path} {names : List Name}
    (plain : ∀ name ∈ names, IsPlain name) :
    path.bytes.length ≤ (path.extend names).bytes.length := by
  induction names generalizing path with
  | nil => exact Nat.le_refl _
  | cons name rest ih =>
    rw [List.forall_mem_cons] at plain
    exact (Nat.le_of_lt (length_join_name plain.1)).trans (ih plain.2)

/-- Where names can be held and the longest text is short enough, all the texts are. -/
theorem Path.accepted_of_extend {path : Path} {names : List Name} (absent : 0 ∉ path.bytes)
    (ordinary : ∀ name ∈ names, IsOrdinary name)
    (short : (path.extend names).bytes.length ≤ pathLimit) : path.Accepted names := by
  induction names generalizing path with
  | nil => trivial
  | cons name rest ih =>
    rw [List.forall_mem_cons] at ordinary
    have plain : ∀ name ∈ rest, IsPlain name := fun other member =>
      (ordinary.2 other member).isPlain
    have joined : 0 ∉ (path.join ⟨name⟩).bytes :=
      nul_notMem_join_name ordinary.1.isPlain absent ordinary.1.nul_notMem
    have within : (path.join ⟨name⟩).bytes.length ≤ pathLimit :=
      (length_le_extend plain).trans short
    refine ⟨⟨checkText_eq_ok_iff.2 ⟨joined, ?_, within⟩, ordinary.1.length_le⟩, ?_⟩
    · exact bytes_join_name ordinary.1.isPlain
    · exact ih joined ordinary.2 short

namespace FileSystem

variable {fs : FileSystem} {path item twin : Path} {here : Location} {left : Nat} {name : Name}
  {names : List Name}

/-- What a path shows in a directory is what stands there, unless its text is refused. -/
theorem lstat_join_cases (plain : IsPlain name) (directory : fs.get? here = some .directory)
    (leads : Leads fs linkLimit path.names (fs.origin path) left here) :
    ((checkText (path.join ⟨name⟩) pathLimit = .ok () ∧ name.length ≤ nameLimit) ∧
        fs.lstat (path.join ⟨name⟩) = fs.require (name :: here)) ∨
      ¬ (checkText (path.join ⟨name⟩) pathLimit = .ok () ∧ name.length ≤ nameLimit) ∧
        ∃ failure, failure ≠ .notFound ∧ fs.lstat (path.join ⟨name⟩) = .error failure := by
  rw [lstat_join plain directory leads]
  cases accepted : checkText (path.join ⟨name⟩) pathLimit with
  | error failure =>
    refine .inr ⟨by simp, failure, ?_, rfl⟩
    rintro rfl
    exact checkText_ne_notFound (Path.bytes_join_name plain) accepted
  | ok =>
    by_cases short : name.length ≤ nameLimit
    · left
      simp [short, Nat.not_lt.2 short, bind, Except.bind]
    · right
      simp [short, Nat.lt_of_not_le short, bind, Except.bind]

variable {component : Component} {below : List Component} {there : Location} {failure : Failure}

/-- Of all failures the inspection passes over a missing object only. -/
theorem inspect_cons_ne_ok (shown : fs.lstat (path.join ⟨component.toName⟩) = .error failure)
    (other : failure ≠ .notFound) : fs.inspect path (component :: below) ≠ .ok () := by
  intro passed
  rw [inspect, shown] at passed
  cases failure <;> first | exact absurd rfl other | cases passed

/-- A piece that is inspected without complaint is no link, and the inspection goes on from it if it
exists. -/
theorem of_inspect_cons (shown : fs.lstat (path.join ⟨component.toName⟩) = fs.require there)
    (passed : fs.inspect path (component :: below) = .ok ()) :
    (∀ target, fs.get? there ≠ some (.link target)) ∧
      (fs.get? there ≠ none → fs.inspect (path.join ⟨component.toName⟩) below = .ok ()) := by
  rw [inspect, shown] at passed
  have noLink : ∀ target, fs.get? there ≠ some (.link target) := by
    intro target link
    rw [require_eq_ok_iff.2 link] at passed
    cases passed
  refine ⟨noLink, fun existing => ?_⟩
  obtain ⟨object, found⟩ := Option.ne_none_iff_exists'.1 existing
  rw [require_eq_ok_iff.2 found] at passed
  cases object <;> first | exact passed | exact absurd found (noLink _)

/-- What is inspected where the directories on the way exist. -/
theorem inspect_eq_ok_iff (wellFormed : fs.WellFormed) (plain : ∀ name ∈ names, IsPlain name)
    (absolute : path.isAbsolute = true)
    (enclosed : fs.get? (names.dropLast.reverse ++ here) = some .directory)
    (leads : Leads fs linkLimit path.names [] left here) :
    fs.inspect path (names.map .name) = .ok () ↔
      path.Accepted names ∧ ∀ target, fs.get? (names.reverse ++ here) ≠ some (.link target) := by
  induction names generalizing path here left with
  | nil =>
    have directory : fs.get? here = some .directory := enclosed
    simp [inspect, Path.Accepted, directory]
  | cons name rest ih =>
    rw [List.forall_mem_cons] at plain
    have directory : fs.get? here = some .directory := wellFormed.directory_of_append enclosed
    have origin_eq : fs.origin path = [] := origin_of_isAbsolute absolute
    have leads' : Leads fs linkLimit path.names (fs.origin path) left here := origin_eq ▸ leads
    rw [List.map_cons, inspect, Path.Accepted]
    simp only [Component.toName]
    rcases lstat_join_cases plain.1 directory leads' with
      ⟨accepted, shown⟩ | ⟨refused, failure, other, shown⟩
    · rw [shown]
      -- A link counts in the last place only; on the way there is a directory at each step.
      by_cases last : rest = []
      · subst last
        have place_eq : [name].reverse ++ here = name :: here := rfl
        rw [place_eq, require]
        cases fs.get? (name :: here) with
        | none => simp [accepted, Path.Accepted]
        | some object => cases object <;> simp [accepted, inspect, Path.Accepted]
      · have deeper : fs.get? (rest.dropLast.reverse ++ name :: here) = some .directory := by
          rw [List.dropLast_cons_of_ne_nil last, List.reverse_cons, List.append_assoc] at enclosed
          exact enclosed
        have standing : fs.get? (name :: here) = some .directory :=
          wellFormed.directory_of_append deeper
        have ordinary := wellFormed.isOrdinary standing name List.mem_cons_self
        have further : Leads fs linkLimit (path.join ⟨name⟩).names [] left (name :: here) := by
          rw [Path.names_join_name plain.1]
          exact leads.append (by simp [directory]) (.enter directory ordinary.ne_dot
            ordinary.ne_dotDot ordinary.length_le standing rfl .done)
        have absolute' : (path.join ⟨name⟩).isAbsolute = true := by
          rw [Path.isAbsolute_join (Path.isAbsolute_of_name plain.1), absolute]
        have onward := ih plain.2 absolute' deeper further
        rw [require_eq_ok_iff.2 standing]
        simp only [accepted, and_self, true_and, List.reverse_cons, List.append_assoc,
          List.singleton_append]
        exact onward
    · -- Of all failures the inspection passes over a missing object only, and this is none.
      rw [shown]
      cases failure <;> first | exact absurd rfl other | simp [refused]

/-- A place whose directory exists is safe if the texts on the way are accepted and there is no link
in it. -/
theorem checkSafe_eq_ok_iff (wellFormed : fs.WellFormed) (beneath : Path.Beneath item twin names)
    (enclosed : fs.get? (names.dropLast.reverse ++ here) = some .directory)
    (leads : Leads fs linkLimit twin.names (fs.origin twin) left here) :
    fs.checkSafe item twin = .ok () ↔ (fs.absolutize twin).Accepted names ∧
      ∀ target, fs.get? (names.reverse ++ here) ≠ some (.link target) := by
  obtain ⟨inner, found, components_eq, _⟩ :=
    Path.exists_stripStart? (beneath_absolutize fs beneath).components_eq
  rw [checkSafe, found]
  simp only [components_eq]
  exact inspect_eq_ok_iff wellFormed beneath.plain (isAbsolute_absolutize fs twin) enclosed
    (leads.absolutize wellFormed)

end FileSystem

end TwinTree
