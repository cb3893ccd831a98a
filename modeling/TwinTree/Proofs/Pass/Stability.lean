import TwinTree.Proofs.Pass.Handling

/-!
# What a pass reads stays as it was

A pass reads the source while it changes the twin. What it reads is what was there at the start,
provided that no link of the source leads through something that the pass may change
(`Undisturbed`): accesses to the source then give at every moment what they gave before
(`Sound.stat_eq`).
-/
namespace TwinTree

open FileSystem

/-- Where a pass may change something: beneath the root of the twin, and where the root or a
directory on the way to it is missing. -/
def FileSystem.MayChange (fs : FileSystem) (root location : Location) : Prop :=
  (root <:+ location ∧ location ≠ root) ∨ (location <:+ root ∧ fs.get? location = none)

instance (fs : FileSystem) (root location : Location) : Decidable (fs.MayChange root location) :=
  inferInstanceAs (Decidable (_ ∨ _))

/-- No link of the source leads through something that a pass may change. -/
def Undisturbed (fs : FileSystem) (source twin : Path) : Prop :=
  ∀ directory name target, fs.prospect source <:+ directory →
    fs.get? (name :: directory) = some (.link target) →
    ∀ seen, fs.LooksAt linkLimit [name] directory seen → ¬ fs.MayChange (fs.prospect twin) seen

/-- Where there are no links, none leads anywhere. -/
theorem undisturbed_of_not_isLink {fs : FileSystem} {source twin : Path}
    (plain : ∀ entry ∈ fs.entries, entry.2.isLink = false) : Undisturbed fs source twin := by
  intro directory name target _ link
  cases plain _ (mem_of_find? link)

/-- A directory `s` with a header `a.h`, a link `l.h` to it, a directory `b` with a read-only
header, and a repository. -/
def smallTree : FileSystem where
  entries :=
    [([[0x73]], .directory),
     ([[0x61, 0x2E, 0x68], [0x73]], .file [0x78] 0o600),
     ([[0x6C, 0x2E, 0x68], [0x73]], .link [0x61, 0x2E, 0x68]),
     ([[0x62], [0x73]], .directory),
     ([[0x63, 0x2E, 0x68], [0x62], [0x73]], .file [] 0o444),
     ([[0x2E, 0x67, 0x69, 0x74], [0x73]], .directory),
     ([[0x67, 0x2E, 0x68], [0x2E, 0x67, 0x69, 0x74], [0x73]], .file [] 0o644)]
  workingDirectory := []

theorem undisturbed_smallTree : Undisturbed smallTree (.ofString "s") (.ofString "d") := by
  intro directory name target inside link seen looks
  have member : (name :: directory, Object.link target) ∈ smallTree.entries := mem_of_find? link
  simp [smallTree] at member
  obtain ⟨⟨rfl, rfl⟩, rfl⟩ := member
  cases looks with
  | here => decide
  | entry => decide
  | enter _ _ _ _ found noLink =>
    cases link.symm.trans found
    cases noLink
  | follow _ _ _ _ found further =>
    cases link.symm.trans found
    have steps : (Path.mk [0x61, 0x2E, 0x68]).steps ++ [] = [[0x61, 0x2E, 0x68]] := by decide
    have regular : smallTree.get? [[0x61, 0x2E, 0x68], [0x73]] = some (.file [0x78] 0o600) := by
      decide
    rw [steps] at further
    have noLink : ∀ target, smallTree.get? [[0x61, 0x2E, 0x68], [0x73]] ≠ some (.link target) := by
      simp [regular]
    rcases further.eq_or_eq (by decide) (by decide) noLink with rfl | rfl
    · decide
    · decide

variable {task : Task} {before : FileSystem} {state : State} {directory : Path}
  {names : List Name} {name : Name} {location : Location} {object : Object}

namespace Sound

theorem get?_eq_of_not_mayChange (sound : Sound task before state)
    (kept : ¬ before.MayChange (task.root before) location) :
    state.fileSystem.get? location = before.get? location := by
  rcases sound.evolves.changed location with same | ⟨object, made, mirrored⟩
  · exact same
  have outside : ¬ task.root before <:+ location ∨ location = task.root before := by
    by_contra inside
    rw [not_or, not_not] at inside
    exact kept (.inl inside)
  obtain ⟨higher, rfl⟩ := mirrored.eq_directory outside
  rcases (sound.evolves.developed location).of_directory made with there | missing
  · exact made.trans there.symm
  · exact absurd (.inr ⟨higher, missing⟩) kept

/-- What an entry of the source leads to stays the same. -/
theorem stat_eq (sound : Sound task before state) (grounded : Grounded task before)
    (undisturbed : Undisturbed before task.source task.twin)
    (beneath : Path.Beneath directory task.source names)
    (standing : before.get? (name :: task.stand before names) = some object) :
    state.fileSystem.stat (directory.join ⟨name⟩) = before.stat (directory.join ⟨name⟩) := by
  have ordinary := grounded.wellFormed.isOrdinary standing name List.mem_cons_self
  have enclosed : before.get? (task.stand before names) = some .directory :=
    grounded.wellFormed.get?_tail standing
  obtain ⟨left, first, later⟩ := sound.leads_stand grounded beneath enclosed
  have inside : task.home before <:+ task.stand before names := List.suffix_append ..
  have alike : ∀ seen, before.LooksAt left [name] (task.stand before names) seen →
      state.fileSystem.get? seen = before.get? seen := by
    intro seen looks
    by_cases link : ∃ target, before.get? (name :: task.stand before names) = some (.link target)
    · obtain ⟨target, found⟩ := link
      exact sound.get?_eq_of_not_mayChange
        (undisturbed _ name target inside found seen (looks.mono first.le))
    · have noLink : ∀ target, before.get? (name :: task.stand before names) ≠ some (.link target) :=
        fun target found => link ⟨target, found⟩
      rcases looks.eq_or_eq ordinary.ne_dot ordinary.ne_dotDot noLink with rfl | rfl
      · exact sound.get?_eq grounded inside
      · exact sound.get?_eq grounded (inside.trans (List.suffix_cons ..))
  rw [stat_join ordinary.isPlain first, stat_join ordinary.isPlain later, resolve_congr alike]
  cases found : before.resolve true left [name] (task.stand before names) with
  | error => rfl
  | ok there =>
    -- The end of the way is looked at too, so the same object stands there.
    obtain ⟨_, leads⟩ := resolve_eq_ok_iff.1 found
    have same := alike there leads.looksAt
    change (do checkText _ _; state.fileSystem.require there) =
      (do checkText _ _; before.require there)
    rw [require, require, same]

theorem isDirectory_eq (sound : Sound task before state) (grounded : Grounded task before)
    (undisturbed : Undisturbed before task.source task.twin)
    (beneath : Path.Beneath directory task.source names)
    (standing : before.get? (name :: task.stand before names) = some object) :
    state.fileSystem.isDirectory (directory.join ⟨name⟩) =
      before.isDirectory (directory.join ⟨name⟩) := by
  rw [isDirectory, isDirectory, sound.stat_eq grounded undisturbed beneath standing]

/-- The entries of a source directory count as of the kinds that they were of. -/
theorem ofKind_eq (sound : Sound task before state) (grounded : Grounded task before)
    (undisturbed : Undisturbed before task.source task.twin)
    (beneath : Path.Beneath directory task.source names) (kind : SourceEntry.Kind) :
    SourceEntry.ofKind state.fileSystem directory kind
        (before.children (task.stand before names)) =
      SourceEntry.ofKind before directory kind (before.children (task.stand before names)) := by
  rw [SourceEntry.ofKind, SourceEntry.ofKind]
  refine List.filter_congr fun found member => ?_
  obtain ⟨name, object⟩ := found
  have standing : before.get? (name :: task.stand before names) = some object :=
    find?_of_mem grounded.wellFormed.nodup (mem_children.1 member)
  have same : SourceEntry.kind state.fileSystem (directory.join ⟨name⟩) object =
      SourceEntry.kind before (directory.join ⟨name⟩) object := by
    cases object with
    | link target =>
      rw [SourceEntry.kind, SourceEntry.kind,
        sound.isDirectory_eq grounded undisturbed beneath standing]
    | _ => rfl
  simp only [same]

/-- They are listed as they were. -/
theorem listed_eq (sound : Sound task before state) (grounded : Grounded task before)
    (undisturbed : Undisturbed before task.source task.twin)
    (beneath : Path.Beneath directory task.source names) (kind : SourceEntry.Kind) :
    SourceEntry.listed state.fileSystem directory kind
        (before.children (task.stand before names)) =
      SourceEntry.listed before directory kind (before.children (task.stand before names)) := by
  rw [SourceEntry.listed, SourceEntry.listed, sound.ofKind_eq grounded undisturbed beneath]

theorem hasContent_iff (sound : Sound task before state) (grounded : Grounded task before)
    (undisturbed : Undisturbed before task.source task.twin)
    (beneath : Path.Beneath directory task.source names)
    (standing : before.get? (name :: task.stand before names) = some object) :
    (SourceEntry.ofEntry directory (name, object)).HasContent state.fileSystem ↔
      (SourceEntry.ofEntry directory (name, object)).HasContent before := by
  rw [SourceEntry.HasContent, SourceEntry.HasContent, SourceEntry.ofEntry,
    sound.stat_eq grounded undisturbed beneath standing]

theorem takes_iff (sound : Sound task before state) (grounded : Grounded task before)
    (undisturbed : Undisturbed before task.source task.twin)
    (beneath : Path.Beneath directory task.source names)
    (standing : before.get? (name :: task.stand before names) = some object) :
    task.Takes state.fileSystem (.ofEntry directory (name, object)) ↔
      task.Takes before (.ofEntry directory (name, object)) :=
  and_congr_right fun _ => sound.hasContent_iff grounded undisturbed beneath standing

end Sound

end TwinTree
