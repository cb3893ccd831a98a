import Mathlib.Data.List.Lex
import TwinTree.Proofs.Pass.Stability

/-!
# Tours of the source

The directories that a walk is to visit are those that are reached from the root of the source
through directories that are entered. A tour has each of them once, in lexicographic order of their
names; it grows by one subdirectory after the other (`Tour.append`).
-/
namespace TwinTree

open FileSystem

/-- The order in which the names of a directory are gone through. -/
def Precedes (first second : Name) : Prop :=
  NotAfter (Utf8.lossy first) (Utf8.lossy second) ∧ first ≠ second

variable {task : Task} {before : FileSystem} {names trail : List Name} {name : Name}

/-! ### The entries of a directory -/

theorem FileSystem.WellFormed.children_pairwise {fs : FileSystem} (wellFormed : fs.WellFormed)
    (location : Location) :
    (fs.children location).Pairwise fun first second => first.1 ≠ second.1 := by
  have different := List.pairwise_map.1 wellFormed.nodup
  refine List.pairwise_filterMap.2 (different.imp fun {first second} distinct => ?_)
  intro shown isShown other isOther same
  obtain ⟨first, _⟩ := first
  obtain ⟨second, _⟩ := second
  cases first with
  | nil => cases isShown
  | cons =>
    cases second with
    | nil => cases isOther
    | cons =>
      simp only [Option.ite_none_right_eq_some, Option.some.injEq] at isShown isOther
      obtain ⟨rfl, rfl⟩ := isShown
      obtain ⟨rfl, rfl⟩ := isOther
      exact distinct (congrArg (· :: _) same)

namespace Task

/-- The entries of a source directory that count as of one kind, in the order of their names. -/
def listed (task : Task) (before : FileSystem) (names : List Name) (kind : SourceEntry.Kind) :
    List (Name × Object) :=
  SourceEntry.listed before (task.source.extend names) kind
    (before.children (task.stand before names))

theorem listed_pairwise (task : Task) (wellFormed : before.WellFormed) (names : List Name)
    (kind : SourceEntry.Kind) :
    (task.listed before names kind).Pairwise fun first second => Precedes first.1 second.1 := by
  rw [listed, SourceEntry.listed]
  let ordered : Name × Object → Name × Object → Prop := fun first second =>
    NotAfter (Utf8.lossy first.1) (Utf8.lossy second.1)
  have total : Std.Total ordered := ⟨fun _ _ => NotAfter.total _ _⟩
  have transitive : IsTrans _ ordered := ⟨fun _ _ _ => NotAfter.trans⟩
  refine List.Pairwise.and (List.pairwise_insertionSort ordered _) ?_
  refine (List.Perm.pairwise_iff (fun different => different.symm)
    (List.perm_insertionSort _ _)).2 ?_
  exact (wellFormed.children_pairwise _).sublist List.filter_sublist

theorem mem_listed_iff {kind : SourceEntry.Kind} {found : Name × Object}
    (wellFormed : before.WellFormed) :
    found ∈ task.listed before names kind ↔
      before.get? (task.stand before (names ++ [found.1])) = some found.2 ∧
        SourceEntry.kind before ((task.source.extend names).join ⟨found.1⟩) found.2 = kind := by
  obtain ⟨name, object⟩ := found
  rw [listed, SourceEntry.mem_listed, mem_children, stand_append_singleton]
  exact and_congr_left fun _ => ⟨find?_of_mem wellFormed.nodup, mem_of_find?⟩

/-- The directory that names lead to is reached from the one that the first of them lead to. -/
def Reaches (task : Task) (before : FileSystem) (names trail : List Name) : Prop :=
  ∃ more, trail = names ++ more ∧ before.get? (task.stand before trail) = some .directory ∧
    ∀ name ∈ more, task.Enters (Utf8.lossy name)

end Task

/-! ### Tours -/

/-- The directories that are reached and covered, each once and in order. -/
structure Tour (task : Task) (before : FileSystem) (names : List Name)
    (covered : List Name → Prop) (trails : List (List Name)) : Prop where
  mem_iff : ∀ trail, trail ∈ trails ↔ task.Reaches before names trail ∧ covered trail
  sorted : trails.Pairwise (List.Lex Precedes)

/-- A directory itself and what is beneath some of the names in it. -/
def Covered (names done trail : List Name) : Prop :=
  trail = names ∨ ∃ name ∈ done, names ++ [name] <+: trail

namespace Tour

variable {done : List Name} {trails inner : List (List Name)}

theorem start (standing : before.get? (task.stand before names) = some .directory) :
    Tour task before names (Covered names []) [names] where
  mem_iff trail := by
    rw [List.mem_singleton]
    constructor
    · rintro rfl
      exact ⟨⟨[], by simp, standing, by simp⟩, .inl rfl⟩
    · rintro ⟨_, same | ⟨name, member, _⟩⟩
      · exact same
      · cases member
  sorted := List.pairwise_singleton _ _

/-- A subdirectory that is entered is toured as a whole. -/
theorem entered (enters : task.Enters (Utf8.lossy name))
    (tour : Tour task before (names ++ [name]) (fun _ => True) inner) :
    Tour task before names (names ++ [name] <+: ·) inner where
  mem_iff trail := by
    rw [tour.mem_iff, and_true]
    constructor
    · rintro ⟨more, rfl, standing, admitted⟩
      refine ⟨⟨name :: more, by simp, standing, ?_⟩, List.prefix_append _ _⟩
      exact List.forall_mem_cons.2 ⟨enters, admitted⟩
    · rintro ⟨⟨more, same, standing, admitted⟩, rest, rfl⟩
      rw [List.append_assoc, List.append_cancel_left_eq] at same
      subst same
      exact ⟨rest, rfl, standing, (List.forall_mem_append.1 admitted).2⟩
  sorted := tour.sorted

/-- An entry that is not entered, or no directory, has nothing beneath it to tour. -/
theorem passed (wellFormed : before.WellFormed)
    (refused : task.Enters (Utf8.lossy name) →
      before.get? (task.stand before (names ++ [name])) ≠ some .directory) :
    Tour task before names (names ++ [name] <+: ·) [] where
  mem_iff trail := by
    refine iff_of_false List.not_mem_nil ?_
    rintro ⟨⟨more, same, standing, admitted⟩, rest, rfl⟩
    rw [List.append_assoc, List.append_cancel_left_eq] at same
    subst same
    refine refused ((List.forall_mem_append.1 admitted).1 name List.mem_cons_self) ?_
    rw [Task.stand, List.reverse_append, List.append_assoc] at standing
    exact wellFormed.directory_of_append standing
  sorted := .nil

/-- A tour goes on with the next subdirectory. -/
theorem append (tour : Tour task before names (Covered names done) trails)
    (behind : Tour task before names (names ++ [name] <+: ·) inner)
    (later : ∀ other ∈ done, Precedes other name) :
    Tour task before names (Covered names (done ++ [name])) (trails ++ inner) where
  mem_iff trail := by
    rw [List.mem_append, tour.mem_iff, behind.mem_iff, ← and_or_left]
    refine and_congr_right fun _ => ?_
    simp only [Covered, List.mem_append, List.mem_singleton, or_and_right, exists_or,
      exists_eq_left, or_assoc]
  sorted := by
    refine List.pairwise_append.2 ⟨tour.sorted, behind.sorted, ?_⟩
    intro first isFirst second isSecond
    obtain ⟨rest, rfl⟩ := ((behind.mem_iff second).1 isSecond).2
    rw [List.append_assoc]
    rcases ((tour.mem_iff first).1 isFirst).2 with rfl | ⟨other, member, further, rfl⟩
    · simpa using List.Lex.append_left Precedes List.Lex.nil first
    · rw [List.append_assoc]
      exact List.Lex.append_left Precedes (List.Lex.rel (later other member)) names

/-- A tour is finished when all subdirectories have been gone through. -/
theorem finish (wellFormed : before.WellFormed)
    (tour : Tour task before names (Covered names done) trails)
    (all : ∀ name, before.get? (task.stand before (names ++ [name])) = some .directory →
      name ∈ done) :
    Tour task before names (fun _ => True) trails where
  mem_iff trail := by
    rw [tour.mem_iff, and_true]
    refine and_iff_left_of_imp ?_
    rintro ⟨more, rfl, standing, admitted⟩
    cases more with
    | nil => exact .inl (List.append_nil _)
    | cons name rest =>
      refine .inr ⟨name, all name ?_, rest, by simp⟩
      have split : task.stand before (names ++ name :: rest) =
          rest.reverse ++ task.stand before (names ++ [name]) := by simp [Task.stand]
      rw [split] at standing
      exact wellFormed.directory_of_append standing
  sorted := tour.sorted

end Tour

end TwinTree
