import TwinTree.Path.Basic

/-!
# Components of joined paths

Main statements: joining a relative path to another adds its components, however the two are
spelled (`components_join_of_relative`), and joining a plain name adds that name
(`components_join`).
-/
namespace TwinTree

/-- A name that is one component of a path, and is taken literally there. -/
structure IsPlain (name : Name) : Prop where
  ne_nil : name ≠ []
  ne_dot : name ≠ dot
  ne_dotDot : name ≠ dotDot
  slash_notMem : slash ∉ name

instance (name : Name) : Decidable (IsPlain name) :=
  decidable_of_iff (name ≠ [] ∧ name ≠ dot ∧ name ≠ dotDot ∧ slash ∉ name)
    ⟨fun ⟨one, two, three, four⟩ => ⟨one, two, three, four⟩,
     fun ⟨one, two, three, four⟩ => ⟨one, two, three, four⟩⟩

theorem IsOrdinary.isPlain {name : Name} (ordinary : IsOrdinary name) : IsPlain name :=
  ⟨ordinary.ne_nil, ordinary.ne_dot, ordinary.ne_dotDot, ordinary.slash_notMem⟩

namespace IsPlain

variable {name : Name}

theorem ofSegment?_eq (plain : IsPlain name) :
    Component.ofSegment? name = some (.name name) := by
  simp [Component.ofSegment?, plain.ne_nil, plain.ne_dot, plain.ne_dotDot]

theorem head?_ne_slash (plain : IsPlain name) : name.head? ≠ some slash :=
  fun first => plain.slash_notMem (List.mem_of_mem_head? first)

theorem splitOn_eq (plain : IsPlain name) : splitOn slash name = (name, []) :=
  splitOn_of_notMem plain.slash_notMem

end IsPlain

namespace Path

/-- The components of segments none of which is the first of a path. -/
def inner (segments : List Name) : List Component := segments.filterMap Component.ofSegment?

theorem splitOn_bytes (path : Path) : splitOn slash path.bytes = (path.head, path.body) := rfl

theorem head_of_isAbsolute {path : Path} (absolute : path.isAbsolute = true) : path.head = [] := by
  obtain ⟨bytes⟩ := path
  cases bytes with
  | nil => rfl
  | cons first rest =>
    obtain rfl : first = slash := by simpa [isAbsolute] using absolute
    simp [head, splitOn]

theorem bytes_of_head_eq_nil {path : Path} (relative : path.isAbsolute = false)
    (empty : path.head = []) : path.bytes = [] := by
  obtain ⟨bytes⟩ := path
  cases bytes with
  | nil => rfl
  | cons first rest =>
    have different : first ≠ slash := by simpa [isAbsolute] using relative
    simp [head, splitOn, different] at empty

/-- A path that starts with an ordinary segment is the components of its segments. -/
theorem components_of_relative {path : Path} (relative : path.isAbsolute = false)
    (ordinary : path.head ≠ dot) :
    path.components = inner (pieces slash path.bytes) := by
  by_cases empty : path.head = []
  · have bytes := bytes_of_head_eq_nil relative empty
    obtain rfl : path = ⟨[]⟩ := by cases path; simp_all
    rfl
  · rw [components, leading, if_neg (by simp [relative]), if_neg empty, if_neg ordinary, inner,
      pieces, List.filterMap_cons]
    cases found : Component.ofSegment? path.head <;>
      simp only [splitOn_bytes, found, Option.toList] <;> rfl

theorem components_of_name {name : Name} (plain : IsPlain name) :
    (Path.mk name).components = [.name name] := by
  simp [components, leading, isAbsolute, head, body, plain.splitOn_eq, plain.head?_ne_slash,
    plain.ne_nil, plain.ne_dot, plain.ofSegment?_eq]

/-- What follows a slash adds only the components of its own segments. -/
theorem components_append_slash_cons {bytes behind : List UInt8} (nonempty : bytes ≠ []) :
    (Path.mk (bytes ++ slash :: behind)).components =
      (Path.mk bytes).components ++ inner (pieces slash behind) := by
  have split := splitOn_append_separator slash bytes behind
  have first : (bytes ++ slash :: behind).head? = bytes.head? := by
    cases bytes with
    | nil => contradiction
    | cons => rfl
  have leads : (Path.mk (bytes ++ slash :: behind)).leading = (Path.mk bytes).leading := by
    unfold leading isAbsolute head
    rw [split, first]
  simp only [components, leads, body, split, inner, List.filterMap_append, List.append_assoc]

/-- A slash at the end of a path carries no component. -/
theorem components_append_slash {bytes : List UInt8} (nonempty : bytes ≠ []) :
    (Path.mk (bytes ++ [slash])).components = (Path.mk bytes).components := by
  rw [components_append_slash_cons nonempty]
  exact List.append_nil _

theorem components_empty : (Path.mk []).components = [] := by decide

theorem components_slash_cons (behind : List UInt8) :
    (Path.mk (slash :: behind)).components = .root :: inner (pieces slash behind) := by
  simp [components, leading, isAbsolute, body, TwinTree.splitOn, inner, pieces]

theorem components_join_of_relative {path other : Path} (nonempty : path.bytes ≠ [])
    (relative : other.isAbsolute = false) :
    (path.join other).components = path.components ++ inner (pieces slash other.bytes) := by
  obtain ⟨bytes⟩ := path
  rcases List.eq_nil_or_concat bytes with rfl | ⟨front, last, rfl⟩
  · contradiction
  rw [List.concat_eq_append]
  by_cases ends : last = slash
  · have joined : (Path.mk (front ++ [last])).join other = ⟨front ++ slash :: other.bytes⟩ := by
      simp [join, relative, ends]
    rw [joined, ends]
    by_cases empty : front = []
    · subst empty
      exact (components_slash_cons other.bytes).trans rfl
    · rw [components_append_slash_cons empty, components_append_slash empty]
  · have joined : (Path.mk (front ++ [last])).join other =
        ⟨(front ++ [last]) ++ slash :: other.bytes⟩ := by
      simp [join, relative, ends]
    rw [joined, components_append_slash_cons (by simp)]

theorem components_join {path : Path} {name : Name} (plain : IsPlain name) :
    (path.join ⟨name⟩).components = path.components ++ [.name name] := by
  have relative : (Path.mk name).isAbsolute = false := by
    simp [isAbsolute, plain.head?_ne_slash]
  by_cases empty : path.bytes = []
  · have joined : path.join ⟨name⟩ = ⟨name⟩ := by simp [join, relative, empty]
    obtain rfl : path = ⟨[]⟩ := by cases path; simp_all
    rw [joined, components_of_name plain, components_empty]
    rfl
  · rw [components_join_of_relative empty relative]
    simp [inner, pieces, plain.splitOn_eq, plain.ofSegment?_eq]

end Path

end TwinTree
