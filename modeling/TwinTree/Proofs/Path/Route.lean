import Mathlib.Data.List.Basic
import Mathlib.Data.List.Infix
import TwinTree.FileSystem.Resolution
import TwinTree.Path.Lemmas

/-!
# Routes

The route of a path is the names that resolution goes through, without those that lead nowhere. It
depends on the components of the path only, so paths that are the same have one route, and joining,
shortening and stripping act on routes as on lists.
-/
namespace TwinTree

/-- The name that resolution looks up for a component. -/
def Component.step? : Component → Option Name
  | root => none
  | current => none
  | parent => some dotDot
  | name segment => some segment

namespace Path

/-- The names of a path that lead somewhere. -/
def route (path : Path) : List Name := path.names.filter (· ≠ dot)

theorem filterMap_step?_inner (segments : List Name) :
    (inner segments).filterMap Component.step? =
      (segments.filter (!·.isEmpty)).filter (· ≠ dot) := by
  induction segments with
  | nil => rfl
  | cons segment rest ih =>
    rw [inner] at ih ⊢
    by_cases empty : segment = []
    · subst empty
      simpa [Component.ofSegment?] using ih
    by_cases isDot : segment = dot
    · subst isDot
      simpa [Component.ofSegment?, dot] using ih
    by_cases isDotDot : segment = dotDot
    · subst isDotDot
      simpa [Component.ofSegment?, Component.step?, dot, dotDot] using ih
    · simpa [Component.ofSegment?, Component.step?, empty, isDot, isDotDot] using ih

theorem route_eq (path : Path) : path.route = path.components.filterMap Component.step? := by
  have behind := filterMap_step?_inner path.body
  rw [inner] at behind
  rw [route, names, components, List.filterMap_append, behind, leading]
  split
  next absolute => simp [head_of_isAbsolute absolute, Component.step?]
  split
  next empty => simp [empty]
  split
  next isDot => simp [isDot, dot, Component.step?]
  next isDot =>
    have first := filterMap_step?_inner [path.head]
    simp only [inner, List.filterMap_cons, List.filterMap_nil] at first
    rw [← List.singleton_append, List.filter_append, List.filter_append, ← first]
    cases Component.ofSegment? path.head <;> rfl

/-- Names are looked up as they are. -/
theorem filterMap_step?_names (names : List Name) :
    (names.map Component.name).filterMap Component.step? = names := by
  rw [List.filterMap_map]
  exact List.filterMap_some

theorem head?_components (path : Path) : path.isAbsolute = true ↔
    path.components.head? = some .root := by
  constructor
  · intro absolute
    simp [components, leading, absolute]
  · intro first
    by_contra relative
    rw [Bool.not_eq_true] at relative
    have member : Component.root ∈ path.components := List.mem_of_mem_head? first
    have notSegment : ∀ segment, Component.ofSegment? segment ≠ some .root := by
      intro segment
      unfold Component.ofSegment?
      split_ifs <;> simp
    simp only [components, leading, relative, List.mem_append, List.mem_filterMap] at member
    rcases member with member | ⟨segment, _, made⟩
    · split_ifs at member <;> simp_all
    · exact notSegment segment made

/-- A component that is a name is a piece of the path, and plain. -/
theorem isPlain_of_name_mem {path : Path} {name : Name} (member : .name name ∈ path.components) :
    IsPlain name := by
  have plain : ∀ segment ∈ pieces slash path.bytes,
      Component.ofSegment? segment = some (.name name) → IsPlain name := by
    intro segment piece made
    unfold Component.ofSegment? at made
    split_ifs at made with blank up
    · cases made
    · obtain rfl := Component.name.inj (Option.some.inj made)
      rw [not_or] at blank
      exact ⟨blank.1, blank.2, up, notMem_of_mem_pieces piece⟩
  simp only [components, leading, List.mem_append, List.mem_filterMap] at member
  rcases member with member | ⟨segment, within, made⟩
  · split_ifs at member
    · simp at member
    · simp at member
    · simp at member
    · exact plain path.head List.mem_cons_self (by simpa using member)
  · exact plain segment (List.mem_cons_of_mem _ within) made

/-- A path without a way up goes through plain names only. -/
theorem isPlain_of_mem_route {path : Path} (descends : .parent ∉ path.components) :
    ∀ name ∈ path.route, IsPlain name := by
  intro name member
  rw [route_eq, List.mem_filterMap] at member
  obtain ⟨component, within, step⟩ := member
  cases component with
  | root => cases step
  | current => cases step
  | parent => exact absurd within descends
  | name segment =>
    cases step
    exact isPlain_of_name_mem within

/-! ### Joining -/

theorem isAbsolute_join {path other : Path} (relative : other.isAbsolute = false) :
    (path.join other).isAbsolute = path.isAbsolute := by
  obtain ⟨bytes⟩ := path
  cases bytes with
  | nil => simpa [join, relative, isAbsolute] using relative
  | cons first rest =>
    simp only [join, relative, Bool.false_eq_true, if_false]
    split <;> rfl

theorem names_append_slash_cons (front behind : List UInt8) :
    (Path.mk (front ++ slash :: behind)).names =
      (Path.mk front).names ++ (Path.mk behind).names := by
  simp only [names, head, body, splitOn_append_separator, pieces, ← List.cons_append,
    List.filter_append]

theorem names_join {path other : Path} (relative : other.isAbsolute = false) :
    (path.join other).names = path.names ++ other.names := by
  obtain ⟨bytes⟩ := path
  rcases List.eq_nil_or_concat bytes with rfl | ⟨front, last, rfl⟩
  · have joined : (Path.mk []).join other = other := by simp [join, relative]
    rw [joined]
    rfl
  rw [List.concat_eq_append]
  by_cases ends : last = slash
  · have joined : (Path.mk (front ++ [last])).join other = ⟨front ++ slash :: other.bytes⟩ := by
      simp [join, relative, ends]
    have before := names_append_slash_cons front []
    rw [joined, names_append_slash_cons, ends, before]
    simp [names, head, body, splitOn]
  · have joined : (Path.mk (front ++ [last])).join other =
        ⟨(front ++ [last]) ++ slash :: other.bytes⟩ := by
      simp [join, relative, ends]
    rw [joined, names_append_slash_cons]

theorem isAbsolute_of_name {name : Name} (plain : IsPlain name) :
    (Path.mk name).isAbsolute = false := by
  simp [isAbsolute, plain.head?_ne_slash]

theorem names_of_name {name : Name} (plain : IsPlain name) : (Path.mk name).names = [name] := by
  simp [names, head, body, plain.splitOn_eq, plain.ne_nil]

/-- A plain name goes somewhere. -/
theorem filter_eq_self_of_isPlain {names : List Name} (plain : ∀ name ∈ names, IsPlain name) :
    names.filter (· ≠ dot) = names :=
  List.filter_eq_self.2 fun name member => by simp [(plain name member).ne_dot]

/-! ### Going down -/

/-- The path with names put behind it, one beneath the other. -/
def extend (path : Path) (names : List Name) : Path :=
  names.foldl (fun path name => path.join ⟨name⟩) path

theorem extend_append_singleton (path : Path) (names : List Name) (name : Name) :
    path.extend (names ++ [name]) = (path.extend names).join ⟨name⟩ := by
  simp [extend]

theorem components_extend {path : Path} {names : List Name}
    (plain : ∀ name ∈ names, IsPlain name) :
    (path.extend names).components = path.components ++ names.map .name := by
  induction names generalizing path with
  | nil => simp [extend]
  | cons name rest ih =>
    rw [List.forall_mem_cons] at plain
    rw [extend, List.foldl_cons]
    refine (ih plain.2).trans ?_
    rw [components_join plain.1]
    simp

/-- A path goes on from another one by plain names, however the two are spelled. -/
structure Beneath (path above : Path) (names : List Name) : Prop where
  plain : ∀ name ∈ names, IsPlain name
  components_eq : path.components = above.components ++ names.map .name

namespace Beneath

variable {path above : Path} {names : List Name} {name : Name}

theorem refl (path : Path) : Beneath path path [] := ⟨by simp, by simp⟩

theorem join (beneath : Beneath path above names) (plain : IsPlain name) :
    Beneath (path.join ⟨name⟩) above (names ++ [name]) where
  plain := List.forall_mem_append.2 ⟨beneath.plain, by simpa using plain⟩
  components_eq := by
    rw [components_join plain, beneath.components_eq]
    simp

theorem extend (plain : ∀ name ∈ names, IsPlain name) : Beneath (path.extend names) path names :=
  ⟨plain, components_extend plain⟩

theorem route_eq (beneath : Beneath path above names) : path.route = above.route ++ names := by
  rw [Path.route_eq, Path.route_eq, beneath.components_eq, List.filterMap_append,
    filterMap_step?_names]

theorem isAbsolute_eq (beneath : Beneath path above names) :
    path.isAbsolute = above.isAbsolute := by
  rw [Bool.eq_iff_iff, head?_components, head?_components, beneath.components_eq]
  cases above.components with
  | cons => rfl
  | nil => cases names <;> simp

/-- The names are determined by the two paths. -/
theorem unique {others : List Name} (beneath : Beneath path above names)
    (alike : Beneath path above others) : names = others := by
  have same := List.append_cancel_left (beneath.components_eq.symm.trans alike.components_eq)
  exact List.map_injective_iff.2 (fun _ _ => Component.name.inj) same

end Beneath

/-- A file is in the directory that names lead to from another path: its own name follows, and the
path is spelled as a walk from there spells it. -/
def LiesIn (path above : Path) (names : List Name) : Prop :=
  ∃ name, (∀ part ∈ names ++ [name], IsPlain part) ∧ path = (above.extend names).join ⟨name⟩

/-- A file is in one directory only. -/
theorem LiesIn.unique {path above : Path} {names others : List Name}
    (inside : path.LiesIn above names) (alike : path.LiesIn above others) : names = others := by
  obtain ⟨name, plain, rfl⟩ := inside
  obtain ⟨other, plain', same⟩ := alike
  have below : Beneath ((above.extend names).join ⟨name⟩) above (names ++ [name]) := by
    rw [← extend_append_singleton]
    exact .extend plain
  have below' : Beneath ((above.extend names).join ⟨name⟩) above (others ++ [other]) := by
    rw [same, ← extend_append_singleton]
    exact .extend plain'
  exact (List.append_singleton_inj.1 (below.unique below')).1

/-! ### Absolute paths -/

/-- Segments that stay where they are carry no component behind the first one. -/
theorem inner_filter_ne (segments : List Name) :
    inner ((segments.filter (!·.isEmpty)).filter (· ≠ dot)) = inner segments := by
  induction segments with
  | nil => rfl
  | cons segment rest ih =>
    by_cases empty : segment = []
    · simpa [empty, inner, Component.ofSegment?] using ih
    by_cases isDot : segment = dot
    · simpa [isDot, inner, Component.ofSegment?, dot] using ih
    · rw [List.filter_cons_of_pos (by simpa using empty),
        List.filter_cons_of_pos (by simpa using isDot), inner, inner, List.filterMap_cons,
        List.filterMap_cons, ← inner, ← inner, ih]

theorem inner_of_isPlain {names : List Name} (plain : ∀ name ∈ names, IsPlain name) :
    inner names = names.map .name := by
  induction names with
  | nil => rfl
  | cons name rest ih =>
    rw [List.forall_mem_cons] at plain
    rw [inner, List.filterMap_cons, plain.1.ofSegment?_eq]
    exact congrArg _ (ih plain.2)

/-- An absolute path is its route behind the root. -/
theorem components_of_isAbsolute {path : Path} (absolute : path.isAbsolute = true) :
    path.components = .root :: inner path.route := by
  have names_eq : path.names = path.body.filter (!·.isEmpty) := by
    simp [names, head_of_isAbsolute absolute]
  rw [components, leading, if_pos absolute, route, names_eq, inner_filter_ne]
  rfl

/-- A route holds no segment that stays where it is. -/
theorem filterMap_step?_inner_route {path : Path} {front : List Name}
    (within : front ⊆ path.route) : (inner front).filterMap Component.step? = front := by
  have moves : ∀ name ∈ front, name ≠ [] ∧ name ≠ dot := by
    intro name member
    have held := within member
    rw [route, List.mem_filter, names, List.mem_filter] at held
    simpa using And.intro held.1.2 held.2
  have whole : front.filter (!·.isEmpty) = front :=
    List.filter_eq_self.2 fun name member => by simpa using (moves name member).1
  rw [filterMap_step?_inner, whole]
  exact List.filter_eq_self.2 fun name member => by simpa using (moves name member).2

end Path

end TwinTree
