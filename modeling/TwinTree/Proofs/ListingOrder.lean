import Mathlib.Data.List.Dedup
import TwinTree.Proofs.FileSystem.Reordering
import TwinTree.Proofs.PolicyEffect

/-!
# The order of listings

In which order a file system lists the entries of a directory is not seen in what a pass does
(`listing_order_irrelevant`): the entries that matter are sorted by their names, which are told
apart as long as they are text, and the warnings of the others are all that is left of the order.
-/
namespace TwinTree

open FileSystem

/-- What a report says, except in its warnings. -/
def Report.withoutWarnings (report : Report) : Report := { report with warnings := [] }

/-- Reports that differ at most in the order of their warnings. -/
structure Report.Rearranged (report report' : Report) : Prop where
  others : report'.withoutWarnings = report.withoutWarnings
  warnings : report'.warnings.Perm report.warnings

/-- Journals that differ at most in the order of their warnings and of their lines. -/
structure Journal.Rearranged (journal journal' : Journal) : Prop where
  report : journal.report.Rearranged journal'.report
  log : journal'.log.Perm journal.log

/-- A pass ends with the same error or with the same report up to the order of warnings, it emits
the same lines up to their order, and it leaves the same objects at the same locations. -/
structure Outcome.Rearranged (outcome outcome' : Outcome) : Prop where
  result : (∃ error, outcome.result = .error error ∧ outcome'.result = .error error) ∨
    ∃ report report', outcome.result = .ok report ∧ outcome'.result = .ok report' ∧
      report.Rearranged report'
  log : outcome'.log.Perm outcome.log
  files : outcome.fileSystem.Reordered outcome'.fileSystem

namespace Journal.Rearranged

variable {journal journal' : Journal}

theorem refl (journal : Journal) : Rearranged journal journal :=
  ⟨⟨rfl, .refl _⟩, .refl _⟩

theorem count {change : Report → Report} (rearranged : Rearranged journal journal')
    (others : ∀ report, (change report).withoutWarnings = change report.withoutWarnings)
    (warnings : ∀ report, (change report).warnings = report.warnings) :
    Rearranged (journal.count change) (journal'.count change) where
  report.others := by
    change (change journal'.report).withoutWarnings = (change journal.report).withoutWarnings
    rw [others, others, rearranged.report.others]
  report.warnings := by
    change (change journal'.report).warnings.Perm (change journal.report).warnings
    rw [warnings, warnings]
    exact rearranged.report.warnings
  log := rearranged.log

theorem note (rearranged : Rearranged journal journal') (level : Log.Level) (message : String) :
    Rearranged (journal.note level message) (journal'.note level message) :=
  ⟨rearranged.report, rearranged.log.append_right _⟩

theorem warnAll {warnings warnings' : List String} (rearranged : Rearranged journal journal')
    (perm : warnings'.Perm warnings) :
    Rearranged (journal.warnAll warnings) (journal'.warnAll warnings') where
  report.others := rearranged.report.others
  report.warnings := rearranged.report.warnings.append perm
  log := rearranged.log.append (perm.map _)

theorem routine {change : Journal → Journal} (routine : Journal.Routine change)
    (rearranged : Rearranged journal journal') :
    Rearranged (change journal) (change journal') := by
  cases routine with
  | scanned => exact rearranged.count (fun _ => rfl) fun _ => rfl
  | matched => exact rearranged.count (fun _ => rfl) fun _ => rfl
  | skipped => exact rearranged.count (fun _ => rfl) fun _ => rfl
  | note level message => exact rearranged.note level message
  | warn warning => exact rearranged.warnAll (.refl [warning])

end Journal.Rearranged

/-! ### Choosing an order -/

theorem flatMap_ite_eq {α β : Type} [DecidableEq α] {items : List α} (nodup : items.Nodup)
    (item : α) (give : α → List β) (absent : item ∉ items → give item = []) :
    (items.flatMap fun other => if other = item then give other else []) = give item := by
  induction items with
  | nil => exact (absent List.not_mem_nil).symm
  | cons first rest ih =>
    rw [List.nodup_cons] at nodup
    rw [List.flatMap_cons]
    split
    next same =>
      subst same
      have none : (rest.flatMap fun other => if other = first then give other else []) = [] := by
        refine List.flatMap_eq_nil_iff.2 fun other member => if_neg ?_
        exact fun same => nodup.1 (same ▸ member)
      rw [none, List.append_nil]
    next different =>
      refine (List.nil_append _).trans (ih nodup.2 fun missing => absent fun member => ?_)
      exact (List.mem_cons.1 member).elim (fun same => different same.symm) missing

namespace FileSystem

variable {fs : FileSystem} {order : Location → List (Name × Object)}

/-- The same file system with one directory after the other, each in the order chosen for it. -/
def arranged (fs : FileSystem) (order : Location → List (Name × Object)) : FileSystem where
  entries := (fs.entries.map fun entry => entry.1.tail).dedup.flatMap fun above =>
    (order above).map fun found => (found.1 :: above, found.2)
  workingDirectory := fs.workingDirectory

theorem mem_arranged (wellFormed : fs.WellFormed)
    (chosen : ∀ location, (order location).Perm (fs.children location))
    {entry : Location × Object} : entry ∈ (fs.arranged order).entries ↔ entry ∈ fs.entries := by
  obtain ⟨location, object⟩ := entry
  simp only [arranged, List.mem_flatMap, List.mem_dedup, List.mem_map]
  constructor
  · rintro ⟨above, _, ⟨name, found⟩, listed, same⟩
    obtain ⟨rfl, rfl⟩ := Prod.mk.inj same
    exact mem_children.1 ((chosen above).mem_iff.1 listed)
  · intro member
    obtain ⟨name, above, rfl⟩ := List.exists_cons_of_ne_nil (wellFormed.named _ member)
    exact ⟨above, ⟨_, member, rfl⟩, ⟨name, object⟩,
      (chosen above).mem_iff.2 (mem_children.2 member), rfl⟩

theorem nodup_arranged (wellFormed : fs.WellFormed)
    (chosen : ∀ location, (order location).Perm (fs.children location)) :
    (fs.arranged order).entries.Nodup := by
  refine List.nodup_flatMap.2 ⟨fun above _ => ?_, (List.nodup_dedup _).imp ?_⟩
  · have distinct : (order above).Nodup :=
      (chosen above).nodup_iff.2 ((wellFormed.children_pairwise above).imp fun different same =>
        different (congrArg Prod.fst same))
    refine distinct.map ?_
    rintro ⟨_, _⟩ ⟨_, _⟩ same
    simpa using same
  · intro above above' different entry first second
    obtain ⟨_, _, rfl⟩ := List.mem_map.1 first
    obtain ⟨_, _, same⟩ := List.mem_map.1 second
    exact different (congrArg (fun entry : Location × Object => entry.1.tail) same).symm

/-- Every choice of the orders in which directories list their entries comes about. -/
theorem reordered_arranged (wellFormed : fs.WellFormed)
    (chosen : ∀ location, (order location).Perm (fs.children location)) :
    fs.Reordered (fs.arranged order) where
  entries := (List.perm_ext_iff_of_nodup (nodup_arranged wellFormed chosen)
    (.of_map _ wellFormed.nodup)).2 fun _ => mem_arranged wellFormed chosen
  working := rfl
  nodup := wellFormed.nodup

theorem children_arranged (chosen : ∀ location, (order location).Perm (fs.children location))
    (location : Location) : (fs.arranged order).children location = order location := by
  rw [children, arranged, List.filterMap_flatMap]
  refine Eq.trans (List.flatMap_congr fun above _ => ?_)
    (flatMap_ite_eq (List.nodup_dedup _) location order fun missing => ?_)
  · rw [List.filterMap_map]
    split
    next same => simp [same]
    next different => simp [different]
  · refine List.eq_nil_iff_forall_not_mem.2 fun found listed => missing (List.mem_dedup.2 ?_)
    exact List.mem_map.2 ⟨_, mem_children.1 ((chosen location).mem_iff.1 listed), rfl⟩

end FileSystem

namespace Pass

variable {task : Task} {before fs other : FileSystem} {state state' : State}
  {source twin directory : Path} {options : Options} {policy : Policy} {names : List Name}
  {entries entries' : List (Name × Object)}

/-! ### Sorting -/

theorem kind_reordered (same : fs.Reordered other) :
    SourceEntry.kind other = SourceEntry.kind fs := by
  funext path object
  cases object <;> simp only [SourceEntry.kind, same.isDirectory]

/-- Entries whose names can be told apart are sorted in one way. -/
theorem listed_eq_of_perm (same : fs.Reordered other) (perm : entries'.Perm entries)
    (distinct : entries.Pairwise fun first second => first.1 ≠ second.1)
    (readable : ∀ found ∈ entries, (Utf8.decode? found.1).isSome = true) (directory : Path)
    (kind : SourceEntry.Kind) :
    SourceEntry.listed other directory kind entries' =
      SourceEntry.listed fs directory kind entries := by
  let ordered : Name × Object → Name × Object → Prop := fun first second =>
    NotAfter (Utf8.lossy first.1) (Utf8.lossy second.1)
  have total : Std.Total ordered := ⟨fun _ _ => NotAfter.total _ _⟩
  have transitive : IsTrans _ ordered := ⟨fun _ _ _ => NotAfter.trans⟩
  have permuted : (SourceEntry.listed other directory kind entries').Perm
      (SourceEntry.listed fs directory kind entries) := by
    refine (SourceEntry.listed_perm ..).trans (.trans ?_ (SourceEntry.listed_perm ..).symm)
    rw [SourceEntry.ofKind, kind_reordered same]
    exact perm.filter _
  refine List.Perm.eq_of_pairwise ?_ (List.pairwise_insertionSort ordered _)
    (List.pairwise_insertionSort ordered _) permuted
  intro first second isFirst isSecond early late
  have isFirst := (SourceEntry.mem_listed.1 (permuted.mem_iff.1 isFirst)).1
  have isSecond := (SourceEntry.mem_listed.1 isSecond).1
  have names_eq := eq_of_lossy_eq (readable first isFirst) (readable second isSecond)
    (early.antisymm late)
  exact List.inj_on_of_nodup_map (List.pairwise_map.2 distinct) isFirst isSecond names_eq

/-- What stands in a directory of the source has a name that is text. -/
theorem readable_children (grounded : Grounded task before)
    (readable : NamesReadable before task.source) {found : Name × Object}
    (member : found ∈ before.children (task.stand before names)) :
    (Utf8.decode? found.1).isSome = true := by
  have standing : before.get? (found.1 :: task.stand before names) = some found.2 :=
    find?_of_mem grounded.wellFormed.nodup (mem_children.1 member)
  exact readable (found.1 :: names.reverse) found.2 standing found.1 List.mem_cons_self

theorem list_reordered (grounded : Grounded task before)
    (readable : NamesReadable before task.source)
    (alike : Attuned Reordered Journal.Rearranged state state') (sound : Sound task before state)
    (beneath : Path.Beneath directory task.source names)
    (standing : before.get? (task.stand before names) = some .directory) :
    Together (list directory) (list directory) state state'
      (fun _ => Attuned Reordered Journal.Rearranged) (Attuned Reordered Journal.Rearranged) := by
  unfold Together Beside
  rw [run_list, run_list]
  rcases alike.files.readDirectory directory with
    ⟨entries, entries', read, read', perm⟩ | ⟨failure, read, read'⟩
  · rw [read, read']
    have children := readDirectory_eq_children grounded sound beneath standing read
    have listed_eq := listed_eq_of_perm alike.files perm
      (children ▸ grounded.wellFormed.children_pairwise _)
      (fun found member => readable_children grounded readable (children ▸ member)) directory
    have warned : (specialWarnings state'.fileSystem directory entries').Perm
        (specialWarnings state.fileSystem directory entries) := by
      rw [specialWarnings, SourceEntry.ofKind, kind_reordered alike.files]
      exact (perm.filter _).map _
    refine ⟨?_, alike.files, alike.known, alike.journal.warnAll warned⟩
    rw [listing, listed_eq, listed_eq]
    rfl
  · rw [read, read']
    exact ⟨rfl, alike⟩

/-! ### Whole walks -/

theorem unison_reordered (task : Task) :
    Unison task task.policy Reordered Eq Journal.Rearranged where
  likeness := likeness_reordered
  adapted _ _ := rfl
  routine := .routine
  directory rearranged := rearranged.count (fun _ => rfl) fun _ => rfl
  planned _ _ _ rearranged := rearranged.count (fun _ => rfl) fun _ => rfl
  copied _ _ _ rearranged := rearranged.count (fun _ => rfl) fun _ => rfl

theorem duet_reordered (grounded : Grounded task before)
    (readable : NamesReadable before task.source) :
    Duet task task.policy before Reordered Eq Journal.Rearranged fun _ => True where
  toUnison := unison_reordered task
  grounded := grounded
  lists := list_reordered grounded readable
  reads alike _ _ _ _ := alike.files.readText _
  quiet _ _ := trivial
  materializes _ _ _ := meets_trivial
  copies _ _ _ _ := meets_trivial

/-! ### Whole passes -/

theorem checkArguments_reordered (files : state.fileSystem.Reordered state'.fileSystem) :
    Together (checkArguments source twin) (checkArguments source twin) state state'
      (fun _ after after' => after = state ∧ after' = state')
      (fun after after' => after = state ∧ after' = state') := by
  have refused : ∀ error : Error, Together (throw error : Pass Unit) (throw error) state state'
      (fun _ after after' => after = state ∧ after' = state')
      (fun after after' => after = state ∧ after' = state') :=
    fun _ => together_throw ⟨rfl, rfl⟩
  unfold checkArguments
  refine together_fileSystem_bind ?_
  rw [files.isDirectory, files.overlaps, files.lstat]
  cases state.fileSystem.isDirectory source with
  | false => exact refused _
  | true =>
    cases state.fileSystem.overlaps source twin with
    | true => exact refused _
    | false =>
      simp only [Bool.not_true, Bool.false_eq_true, if_false]
      split
      next => exact refused _
      next => exact together_pure ⟨rfl, rfl⟩

/-- Passes over file systems that list in different orders end alike, also when they fail. -/
theorem perform_reordered (wellFormed : fs.WellFormed) (readable : NamesReadable fs source)
    (reordered : fs.Reordered other) (descends : .parent ∉ twin.components)
    (replaced : PlainRenamings options.renamings) :
    Together (perform source twin options policy) (perform source twin options policy)
      { fileSystem := fs } { fileSystem := other }
      (fun _ => Attuned Reordered Journal.Rearranged) (Attuned Reordered Journal.Rearranged) := by
  have started : Attuned Reordered Journal.Rearranged { fileSystem := fs }
      { fileSystem := other } := ⟨reordered, rfl, .refl _⟩
  unfold perform
  have checked : Together (checkArguments source twin) (checkArguments source twin)
      { fileSystem := fs } { fileSystem := other } _ _ := checkArguments_reordered reordered
  refine Together.bind ((checked.knowing (checkArguments_meets trivial)
    (checkArguments_meets trivial)).mono (fun _ _ _ => id) ?_) ?_
  · rintro _ _ ⟨rfl, rfl⟩
    exact started
  rintro _ _ _ ⟨⟨-, isDirectory, apart⟩, -, rfl, rfl⟩
  cases prepared : prepare source twin options policy with
  | error => exact together_throw started
  | ok task =>
    obtain ⟨rfl, rfl, rfl, rfl, _⟩ := eq_of_prepare prepared
    refine Together.bind (.knowing prepareRoot_meets.forget meets_trivial
      ((unison_reordered task).prepareRoot started)) ?_
    rintro _ ready ready' ⟨prepared', -, alike⟩
    obtain ⟨grounded, _⟩ :=
      grounded_of_prepared wellFormed (anchored_of_descends wellFormed descends) replaced
        isDirectory apart prepared'
    refine Together.mono ((duet_reordered grounded readable).walk
      ⟨alike, sound_of_prepared grounded prepared', trivial⟩ (.refl _) grounded.source) ?_
      fun _ _ => id
    exact fun _ _ _ paired => paired.alike

end Pass

variable {fs other : FileSystem} {source twin : Path} {options : Options} {policy : Policy}

/-- Whatever the order in which directories list their entries, a pass ends the same way and leaves
the same files, as long as the names in the source are text. -/
theorem listing_order_irrelevant (wellFormed : fs.WellFormed) (readable : NamesReadable fs source)
    (reordered : fs.Reordered other) (descends : .parent ∉ twin.components)
    (replaced : PlainRenamings options.renamings) :
    (deriveWith fs source twin options policy).Rearranged
      (deriveWith other source twin options policy) := by
  have together : Pass.Together (Pass.perform source twin options policy)
      (Pass.perform source twin options policy) { fileSystem := fs } { fileSystem := other } _ _ :=
    Pass.perform_reordered wellFormed readable reordered descends replaced
  unfold Pass.Together Pass.Beside at together
  rw [deriveWith_eq, deriveWith_eq]
  split at together
  next ended ended' =>
    rw [ended, ended']
    obtain ⟨_, files, _, journal⟩ := together
    exact ⟨.inr ⟨_, _, rfl, rfl, journal.report⟩, journal.log, files⟩
  next ended ended' =>
    rw [ended, ended']
    obtain ⟨rfl, files, _, journal⟩ := together
    exact ⟨.inl ⟨_, rfl, rfl⟩, journal.log, files⟩
  next => exact together.elim

/-- A directory `s` with a header and two pipes. -/
def pipeTree : FileSystem where
  entries :=
    [([[0x73]], .directory),
     ([[0x70], [0x73]], .fifo),
     ([[0x61, 0x2E, 0x68], [0x73]], .file [0x78] 0o644),
     ([[0x71], [0x73]], .fifo)]
  workingDirectory := []

theorem reordered_reverse (nodup : (fs.entries.map Prod.fst).Nodup) :
    fs.Reordered { fs with entries := fs.entries.reverse } :=
  ⟨List.reverse_perm _, rfl, nodup⟩

/-- Listed the other way around, the pipes are warned of the other way around, and that is the
whole difference. -/
theorem listing_order_irrelevant_pipeTree :
    (deriveWith pipeTree (.ofString "s") (.ofString "d") {} fun _ => true).Rearranged
      (deriveWith { pipeTree with entries := pipeTree.entries.reverse } (.ofString "s")
        (.ofString "d") {} fun _ => true) ∧
    (deriveWith pipeTree (.ofString "s") (.ofString "d") {} fun _ => true).log ≠
      (deriveWith { pipeTree with entries := pipeTree.entries.reverse } (.ofString "s")
        (.ofString "d") {} fun _ => true).log := by
  refine ⟨?_, by decide +kernel⟩
  exact listing_order_irrelevant (by decide) (namesReadable_of_entries (by decide))
    (reordered_reverse (by decide)) (by decide) (by decide)

end TwinTree
