import TwinTree.Proofs.Pass.Catalog
import TwinTree.Proofs.Pass.Visits

/-!
# How far a walk reaches

Whatever the file system holds and wherever the twin is, a walk comes only to directories whose
paths are that of the source with plain names joined to it, one after the other
(`walkWitnessed_reaches`). What it meets there has a plain name as well.
-/
namespace TwinTree

open FileSystem

/-- A visit of the source itself or of a directory some plain names further down, in which all
entries have plain names. -/
structure Visit.Reached (source : Path) (visit : Visit) : Prop where
  trail : ∃ names : List Name, (∀ name ∈ names, IsPlain name) ∧
    visit.directory = source.extend names
  plain : ∀ found ∈ visit.entries, IsPlain found.1

/-- What has been met in such a visit is joined to the directory by a plain name. -/
theorem Visit.Reached.exists_of_met {source : Path} {visit : Visit} {kind : SourceEntry.Kind}
    {entry : SourceEntry} (reached : visit.Reached source) (member : entry ∈ visit.met kind) :
    ∃ names name, (∀ part ∈ names ++ [name], IsPlain part) ∧
      entry.path = source.extend (names ++ [name]) := by
  obtain ⟨names, plain, directory_eq⟩ := reached.trail
  obtain ⟨found, within, rfl⟩ := List.mem_map.1 member
  have own : IsPlain found.1 := reached.plain found (List.mem_of_mem_filter within)
  refine ⟨names, found.1, List.forall_mem_append.2 ⟨plain, by simpa using own⟩, ?_⟩
  rw [Path.extend_append_singleton, ← directory_eq]
  rfl

namespace Pass

variable {task : Task} {state : State} {names : List Name} {directory : Path}

/-- Reading a directory gives plain names only. -/
theorem plain_of_readDirectory {fs : FileSystem} {entries : List (Name × Object)}
    (named : fs.NamesPlain) (read : fs.readDirectory directory = .ok entries) :
    ∀ found ∈ entries, IsPlain found.1 := by
  obtain ⟨location, _, _, rfl⟩ := exists_of_readDirectory read
  exact fun found => named.children

theorem turns_catalogued {files : List SourceEntry} (plain : ∀ part ∈ names, IsPlain part)
    (listed : ∀ entry ∈ files, ∃ name object, IsPlain name ∧
      entry = .ofEntry (task.source.extend names) (name, object))
    (catalogued : Catalogued task state) :
    Meets (files.foldlM (takeTurn task (task.source.extend names)) []) state
      (fun _ => Catalogued task) fun _ => True := by
  let invariant : List SourceEntry → List (SourceEntry × Except Failure Object) → State → Prop :=
    fun _ _ => Catalogued task
  have kept : Meets (files.foldlM (takeTurn task (task.source.extend names)) []) state
      (invariant files) fun _ => True := by
    refine meets_foldlM catalogued ?_
    intro done entry behind split turns state catalogued
    obtain ⟨name, object, own, rfl⟩ := listed entry (by simp [split])
    have further : ∀ part ∈ names ++ [name], IsPlain part :=
      List.forall_mem_append.2 ⟨plain, by simpa using own⟩
    apply meets_fileSystem_bind
    exact (handleFile_catalogued further catalogued).bind fun _ _ catalogued =>
      meets_pure catalogued
  exact kept

/-- A walk visits directories beneath the source only. -/
theorem walkWitnessed_reaches {depth : Nat} (plain : ∀ part ∈ names, IsPlain part)
    (catalogued : Catalogued task state) :
    Meets (walkWitnessed task depth (task.source.extend names)) state
      (fun visits after => (∀ visit ∈ visits, visit.Reached task.source) ∧ Catalogued task after)
      fun _ => True := by
  induction depth generalizing state names with
  | zero => exact meets_throw trivial
  | succ depth ih =>
    unfold walkWitnessed
    refine (materialize_catalogued catalogued).bind fun _ ready catalogued => ?_
    apply meets_fileSystem_bind
    have lists : Meets (list (task.source.extend names)) ready _ fun _ => True :=
      list_meets trivial
    refine ((list_catalogued catalogued).and lists).forget.bind ?_
    rintro listing listed ⟨⟨named, catalogued'⟩, _, entries, read, _, _⟩
    obtain ⟨files, directories⟩ := List.forall_mem_append.1 named
    refine (turns_catalogued plain files catalogued').bind fun turns handled catalogued' => ?_
    -- The directory itself is the first visit, and each subdirectory adds those made in it.
    let invariant : List SourceEntry → List Visit → State → Prop := fun _ visits after =>
      (∀ visit ∈ visits, visit.Reached task.source) ∧ Catalogued task after
    have here : Visit.Reached task.source ⟨task.source.extend names, ready.fileSystem, turns⟩ := by
      refine ⟨⟨names, plain, rfl⟩, ?_⟩
      rw [Visit.entries, read]
      exact plain_of_readDirectory catalogued.named read
    have started : invariant [] [⟨task.source.extend names, ready.fileSystem, turns⟩] handled :=
      ⟨by simpa using here, catalogued'⟩
    refine (meets_foldlM started ?_ : Meets _ _ (invariant listing.directories) _)
    rintro done entry behind split visits state ⟨reached, catalogued⟩
    obtain ⟨name, object, own, rfl⟩ := directories entry (by simp [split])
    have further : ∀ part ∈ names ++ [name], IsPlain part :=
      List.forall_mem_append.2 ⟨plain, by simpa using own⟩
    refine Meets.bind (admits_keeps (fun routine holds => holds.routine routine) catalogued) ?_
    intro admitted asked catalogued
    split
    next =>
      have deeper := ih further catalogued
      rw [Path.extend_append_singleton] at deeper
      refine deeper.bind ?_
      rintro inner after ⟨reached', catalogued⟩
      exact meets_pure ⟨List.forall_mem_append.2 ⟨reached, reached'⟩, catalogued⟩
    next => exact meets_pure ⟨reached, catalogued⟩

/-- A whole pass visits directories beneath the source only. -/
theorem runWitnessed_reaches {source twin : Path} {options : Options} {policy : Policy}
    {fs : FileSystem} (wellFormed : fs.WellFormed) :
    Meets (runWitnessed source twin options policy) { fileSystem := fs }
      (fun result _ => ∀ visit ∈ result.1, visit.Reached source) fun _ => True := by
  unfold runWitnessed
  refine (checkArguments_meets trivial).bind ?_
  rintro _ _ ⟨rfl, _, _⟩
  cases prepared : prepare source twin options policy with
  | error reason => exact meets_throw trivial
  | ok task =>
    obtain ⟨rfl, rfl, rfl, rfl, _⟩ := eq_of_prepare prepared
    have begun : Catalogued task { fileSystem := fs } :=
      ⟨wellFormed.namesPlain, by simp, fun _ => rfl⟩
    refine (prepareRoot_catalogued begun).bind fun _ ready catalogued => ?_
    have walks : Meets (walkWitnessed task depthLimit (task.source.extend [])) ready _ _ :=
      walkWitnessed_reaches (by simp) catalogued
    exact walks.bind fun visits after ⟨reached, _⟩ => reached

end Pass

end TwinTree
