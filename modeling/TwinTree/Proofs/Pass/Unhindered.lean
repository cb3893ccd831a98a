import TwinTree.Proofs.Pass.Building
import TwinTree.Proofs.Pass.Ending
import TwinTree.Proofs.Rerun

/-!
# Steps that only content can stop

A walk that builds a twin from nothing makes every directory it comes to (`materialize_ends`), lists
every directory it visits (`list_ends`), and writes every file it has read, so a step of it ends in
an error only where a selected file cannot be read (`handleFile_ends`).
-/
namespace TwinTree

open FileSystem

/-- A selected file that has no text: a link that leads nowhere, or a file, itself or behind a link,
whose content is not UTF-8. -/
def Task.Unreadable (task : Task) (before : FileSystem) (file : SourceFile) : Prop :=
  task.Visits before file.names ∧
    Selection.ofName task.options task.excludedFiles (Utf8.lossy file.name) = .selected ∧
    ∃ object, before.get? (file.name :: task.stand before file.names) = some object ∧
      ((object.isLink = true ∧ ∃ failure, before.stat (task.path file) = .error failure) ∨
        ∃ raw mode, before.stat (task.path file) = .ok (.file raw mode) ∧
          Utf8.decode? raw = none)

/-- A file that is copied is unreadable only if it is no text. -/
theorem Task.Gathers.unreadable_iff {task : Task} {before : FileSystem} {file : SourceFile}
    {raw : List UInt8} {mode : Nat} (gathers : task.Gathers before file)
    (wellFormed : before.WellFormed)
    (shown : before.stat (task.path file) = .ok (.file raw mode)) :
    task.Unreadable before file ↔ Utf8.decode? raw = none := by
  obtain ⟨visits, taken⟩ := gathers
  obtain ⟨_, selected, object, standing, _⟩ := (task.mem_taken_iff wellFormed).1 taken
  constructor
  · rintro ⟨_, _, _, _, ⟨_, failure, broken⟩ | ⟨other, _, regular, illFormed⟩⟩
    · cases shown.symm.trans broken
    · cases shown.symm.trans regular
      exact illFormed
  · intro illFormed
    exact ⟨visits, selected, object, standing, .inr ⟨raw, mode, shown, illFormed⟩⟩

/-- The error that a file raises because it cannot be read. -/
def Task.Blames (task : Task) (before : FileSystem) (file : SourceFile) (error : Error) : Prop :=
  task.Unreadable before file ∧ ∃ reason, error = .fileNotRead (task.path file) reason

namespace Pass

variable {task : Task} {before : FileSystem} {state after : State} {names : List Name}
  {file : SourceFile} {path source : Path} {name : Name} {object : Object} {here : Location}
  {left : Nat} {content : List UInt8} {raised : Error → Prop} {entry : SourceEntry}

/-! ### What has to be there -/

/-- Whatever is read from a directory that is there, it can be read. -/
theorem exists_readDirectory {fs : FileSystem} (isDirectory : fs.isDirectory path = true) :
    ∃ entries, fs.readDirectory path = .ok entries := by
  obtain ⟨accepted, left, there, leads, directory⟩ := isDirectory_iff.1 isDirectory
  have found : fs.locate path true = .ok there :=
    locate_eq_ok_iff.2 ⟨accepted, left, (leads_steps_iff directory).2 leads⟩
  refine ⟨fs.children there, bind_eq_ok_iff.2 ⟨there, found, ?_⟩⟩
  exact bind_eq_ok_iff.2 ⟨.directory, require_eq_ok_iff.2 directory, rfl⟩

/-- A file can be written in a directory that is there, under a name that nothing has, or something
that can be written to. -/
theorem write_ends (wellFormed : state.fileSystem.WellFormed) (ordinary : IsOrdinary name)
    (accepted : checkText (path.join ⟨name⟩) pathLimit = .ok ())
    (enclosed : state.fileSystem.get? here = some .directory)
    (leads : Leads state.fileSystem linkLimit path.names (state.fileSystem.origin path) left here)
    (free : state.fileSystem.get? (name :: here) = none ∨ ∃ former mode old,
      state.fileSystem.get? (name :: here) = some ((Object.file former mode).inPlaceOf old))
    (shown : state.fileSystem.stat source = .ok object) :
    Ends (write source (path.join ⟨name⟩) content) state (fun _ _ => True) raised := by
  rcases free with missing | ⟨former, mode, old, standing⟩
  · have wrote : state.fileSystem.writeFile (path.join ⟨name⟩) content = .ok _ :=
      writeFile_join_of_missing ordinary accepted enclosed leads missing
    obtain ⟨done, copied⟩ := copyMode_of_writeFile shown wrote
    unfold write
    refine (ends_change
      (ensureWritable_join_of_missing ordinary accepted enclosed leads missing)).bind ?_
    rintro _ _ rfl
    refine (ends_change wrote).bind ?_
    rintro _ _ rfl
    exact (ends_change copied).mono (fun _ _ _ => trivial) fun _ => id
  · -- When its mode is asked for, the source still shows something.
    have develops : Developed (state.fileSystem.get? (name :: here))
        (some ((Object.file content (mode ||| ownerWrite)).inPlaceOf old)) :=
      standing ▸ .refilled old
    obtain ⟨later, asked⟩ := exists_stat_insert develops shown
    exact ends_of_run (run_write wellFormed accepted leads standing asked) trivial

/-- A directory is made where the one above it is there, if its place is safe and nothing else
stands in it. -/
theorem materialize_ends_of_free (sound : Sound task before state)
    (real : task.options.dryRun = false) (beneath : Path.Beneath path task.twin names)
    (ordinary : ∀ name ∈ names, IsOrdinary name) (accepted : checkText path pathLimit = .ok ())
    (safe : state.fileSystem.checkSafe path task.twin = .ok ())
    (enclosed : state.fileSystem.get? (task.place before names.dropLast) = some .directory)
    (free : state.fileSystem.get? (task.place before names) = none ∨
      state.fileSystem.get? (task.place before names) = some .directory)
    (solid : ¬ path.EndsInDot ∨
      state.fileSystem.get? (task.place before names) = some .directory) :
    Ends (materialize task path) state (fun _ _ => True) raised := by
  have wellFormed := sound.wellFormed
  obtain ⟨root, left, leads⟩ := sound.root real
  have created : ∃ made, state.fileSystem.createDirectories path = (made, .ok ()) := by
    rcases free with missing | there
    · -- The root is there, so what is missing has a name, the last one of the path.
      rcases List.eq_nil_or_concat names with rfl | ⟨front, name, rfl⟩
      · cases missing.symm.trans root
      · rw [List.concat_eq_append] at *
        rw [List.dropLast_concat] at enclosed
        have named : ¬ path.EndsInDot := solid.resolve_right (by simp [missing])
        have place_eq : task.place before (front ++ [name]) =
            name :: (front.reverse ++ task.root before) := by simp [Task.place]
        exact ⟨_, createDirectories_of_missing wellFormed beneath named leads enclosed
          (ordinary name (by simp)) (place_eq ▸ missing) accepted⟩
    · exact ⟨_, createDirectories_of_isDirectory (isDirectory_iff.2
        ⟨accepted, left, _, leads.beneath wellFormed beneath there, there⟩)⟩
  obtain ⟨made, created⟩ := created
  unfold materialize
  apply ends_isMaterialized_bind
  rintro known -
  split
  next => exact ends_pure trivial
  next =>
    apply ends_requireSafe_bind safe
    rw [if_neg (by simp [real])]
    refine (ends_ensureDirectory created).bind fun isNew _ _ => ?_
    split
    next => exact ends_modify_bind (ends_modify trivial)
    next => exact ends_pure trivial

/-- The copy of a file is written in a directory that is there, if nothing stands in its place that
cannot be written to. -/
theorem store_ends_of_free (sound : Sound task before state) (real : task.options.dryRun = false)
    (below : Path.Beneath (task.path file) task.source (file.names ++ [file.name]))
    (named : IsOrdinary (Placement.fileName task.options.renamings file.name))
    (accepted : checkText (task.record file).destination pathLimit = .ok ())
    (enclosed : state.fileSystem.get? (task.place before file.names) = some .directory)
    (free : state.fileSystem.get? (task.goal before file) = none ∨ ∃ former mode old,
      state.fileSystem.get? (task.goal before file) =
        some ((Object.file former mode).inPlaceOf old))
    (shown : state.fileSystem.stat (task.path file) = .ok object) :
    Ends (write (task.path file) (task.record file).destination content) state (fun _ _ => True)
      raised := by
  obtain ⟨above, left, destination_eq, leads⟩ := sound.exists_leads_file real below enclosed
  rw [task.goal_eq] at free
  rw [destination_eq] at accepted ⊢
  exact write_ends sound.wellFormed named accepted enclosed leads free shown

variable (site : Site task before) (building : Building task before state)

include site building

/-! ### One step -/

/-- A directory that a walk visits can be made, if the one above it is there. -/
theorem materialize_ends (visits : task.Visits before names)
    (beneath : Path.Beneath path task.twin names) (short : path.bytes.length ≤ pathLimit)
    (short' : ((before.absolutize task.twin).extend names).bytes.length ≤ pathLimit)
    (enclosed : state.fileSystem.get? (task.place before names.dropLast) = some .directory)
    (solid : ¬ path.EndsInDot ∨
      state.fileSystem.get? (task.place before names) = some .directory) :
    Ends (materialize task path) state
      (fun _ after => Building task before after ∧
        after.fileSystem.get? (task.place before names) = some .directory ∧
        Evolves (fun _ _ => True) state.fileSystem after.fileSystem) raised := by
  have ordinary := visits.isOrdinary site.grounded.wellFormed
  have accepted := building.accepted site beneath ordinary short
  have free := building.place_free site visits
  have noLink : ∀ target,
      state.fileSystem.get? (task.place before names) ≠ some (.link target) := by
    intro target link
    rcases free with missing | there
    · cases missing.symm.trans link
    · cases there.symm.trans link
  have safe := building.checkSafe site beneath ordinary short' enclosed noLink
  refine (Ends.knowing (materialize_meets site.grounded building.sound visits.1 beneath).forget
    (materialize_ends_of_free building.sound site.real beneath ordinary accepted safe enclosed free
      solid)).mono ?_ fun _ => id
  rintro _ after ⟨⟨kept, there⟩, _⟩
  refine ⟨building.evolve kept.sound (kept.evolves.mono fun _ _ made => .directory visits made),
    there site.real, kept.evolves.mono fun _ _ _ => trivial⟩

/-- A directory that a walk visits can be read, and is as it was at the start. -/
theorem list_ends (visits : task.Visits before names) :
    Ends (list (task.source.extend names)) state
      (fun listing after => Building task before after ∧
        after.fileSystem = state.fileSystem ∧
        listing.directories =
          (task.listed before names .directory).map (.ofEntry (task.source.extend names)) ∧
        listing.files =
          (task.listed before names .file).map (.ofEntry (task.source.extend names))) raised := by
  have grounded := site.grounded
  have inside : Path.Beneath (task.source.extend names) task.source names :=
    .extend (visits.isPlain grounded.wellFormed)
  obtain ⟨left, _, leads⟩ := building.sound.leads_stand grounded inside visits.1
  have there : state.fileSystem.get? (task.stand before names) = some .directory := by
    have within : task.home before <:+ task.stand before names := List.suffix_append ..
    rw [building.sound.get?_eq grounded within, visits.1]
  have nonempty : (task.source.extend names).bytes ≠ [] := by
    have longer : task.source.bytes.length ≤ (task.source.extend names).bytes.length :=
      Path.length_le_extend (visits.isPlain grounded.wellFormed)
    have some_text := List.length_pos_of_ne_nil site.source_ne_nil
    exact List.ne_nil_of_length_pos (some_text.trans_le longer)
  have accepted : checkText (task.source.extend names) pathLimit = .ok () := by
    refine checkText_eq_ok_iff.2 ⟨?_, nonempty, (site.fits.directories names visits).1⟩
    exact nul_notMem_of_names (leads.nul_notMem building.sound.wellFormed (by simp [there]))
  obtain ⟨entries, read⟩ :=
    exists_readDirectory (isDirectory_iff.2 ⟨accepted, left, _, leads, there⟩)
  have succeeds : Ends (list (task.source.extend names)) state (fun _ _ => True) raised := by
    have ended := run_list (task.source.extend names) state
    rw [read] at ended
    exact ends_of_run ended trivial
  refine (Ends.knowing (list_meets trivial) succeeds).mono ?_ fun _ => id
  rintro listing after ⟨⟨quiet, others, found, directories, files⟩, _⟩
  rw [readDirectory_eq_children grounded building.sound inside visits.1 found,
    building.sound.listed_eq grounded site.undisturbed inside] at directories files
  exact ⟨building.congr quiet.files quiet.known, quiet.files, directories, files⟩

/-- Whether a selected file has content can be told, unless it is a link that leads nowhere. -/
theorem hasContent_ends (visits : task.Visits before names)
    (selected : Selection.ofName task.options task.excludedFiles (Utf8.lossy name) = .selected)
    (listed : (name, object) ∈ task.listed before names .file) :
    Ends (hasContent (.ofEntry (task.source.extend names) (name, object))) state
      (fun has after => Building task before after ∧ after.fileSystem = state.fileSystem ∧
        (has = true → task.Gathers before ⟨names, name⟩) ∧
        (has = false → ¬ task.Unreadable before ⟨names, name⟩))
      (task.Blames before ⟨names, name⟩) := by
  have grounded := site.grounded
  obtain ⟨standing, _⟩ := (task.mem_listed_iff grounded.wellFormed).1 listed
  rw [task.stand_append_singleton] at standing
  have inside : Path.Beneath (task.source.extend names) task.source names :=
    .extend (visits.isPlain grounded.wellFormed)
  have same : state.fileSystem.stat (task.path ⟨names, name⟩) =
      before.stat (task.path ⟨names, name⟩) :=
    building.sound.stat_eq grounded site.undisturbed inside standing
  have tells : Ends (hasContent (.ofEntry (task.source.extend names) (name, object))) state
      (fun has _ => has = false → ¬ task.Unreadable before ⟨names, name⟩)
      (task.Blames before ⟨names, name⟩) := by
    unfold hasContent
    split
    next => exact ends_pure nofun
    next link =>
      refine ends_ask_bind (fun target found => ?_) fun failure found => ?_
      · split
        next => exact ends_pure nofun
        next special =>
          refine ends_modify_bind (ends_modify_bind (ends_pure fun _ => ?_))
          have shown : before.stat (task.path ⟨names, name⟩) = .ok target := same.symm.trans found
          rintro ⟨_, _, _, _, ⟨_, failure, broken⟩ | ⟨raw, mode, regular, _⟩⟩
          · cases shown.symm.trans broken
          · cases shown.symm.trans regular
            exact special rfl
      · have broken : before.stat (task.path ⟨names, name⟩) = .error failure :=
          same.symm.trans found
        have isLink : object.isLink = true := by simpa [SourceEntry.ofEntry] using link
        exact ⟨⟨visits, selected, object, standing, .inl ⟨isLink, failure, broken⟩⟩, _, rfl⟩
  refine (Ends.knowing (hasContent_meets trivial) tells).mono ?_ fun _ => id
  rintro has after ⟨⟨quiet, content⟩, holds⟩
  refine ⟨building.congr quiet.files quiet.known, quiet.files, fun found => ⟨visits, ?_⟩, holds⟩
  have takes : task.Takes state.fileSystem (.ofEntry (task.source.extend names) (name, object)) :=
    ⟨selected, content.1 found⟩
  exact task.mem_taken_of_takes listed
    ((building.sound.takes_iff grounded site.undisturbed inside standing).1 takes)

omit building in
/-- A file that is copied leads to a regular file. -/
theorem exists_stat (gathers : task.Gathers before file) :
    ∃ raw mode, before.stat (task.path file) = .ok (.file raw mode) := by
  have wellFormed := site.grounded.wellFormed
  obtain ⟨_, _, object, standing, regular | ⟨_, target, shown, regular⟩⟩ :=
    (task.mem_taken_iff wellFormed).1 gathers.2
  · obtain ⟨raw, mode, rfl⟩ : ∃ raw mode, object = .file raw mode := by
      cases object <;> first | exact ⟨_, _, rfl⟩ | cases regular
    have ordinary := wellFormed.isOrdinary standing file.name List.mem_cons_self
    have inside : Path.Beneath (task.source.extend file.names) task.source file.names :=
      .extend (gathers.1.isPlain wellFormed)
    obtain ⟨left, leads⟩ := site.grounded.leads_stand inside gathers.1.1
    have absent := nul_notMem_of_names (leads.nul_notMem wellFormed (by simp [gathers.1.1]))
    have accepted : checkText (task.path file) pathLimit = .ok () :=
      checkText_eq_ok_iff.2 ⟨Path.nul_notMem_join_name ordinary.isPlain absent ordinary.nul_notMem,
        Path.bytes_join_name ordinary.isPlain, (site.fits.files file gathers).1⟩
    have found := locate_join ordinary accepted gathers.1.1 leads standing rfl
    exact ⟨raw, mode, bind_eq_ok_iff.2 ⟨_, found, require_eq_ok_iff.2 standing⟩⟩
  · cases target <;> first | exact ⟨_, _, shown⟩ | cases regular

/-- The copy of a file can be written, whatever it holds. -/
theorem store_ends (gathers : task.Gathers before file)
    (enclosed : state.fileSystem.get? (task.place before file.names) = some .directory)
    (shown : state.fileSystem.stat (task.path file) = .ok object) :
    Ends (write (task.path file) (task.record file).destination content) state (fun _ _ => True)
      raised := by
  have grounded := site.grounded
  have below := task.beneath_of_mem_taken grounded.wellFormed gathers.2
  have beneath : Path.Beneath (task.record file).destination task.twin
      (task.renamed file.names file.name) := Placement.beneath_file grounded.replaced below
  have ordinary := gathers.isOrdinary_renamed site
  have accepted := building.accepted site beneath ordinary (site.fits.files file gathers).2.1
  have named : IsOrdinary (Placement.fileName task.options.renamings file.name) :=
    ordinary _ (List.mem_append_right _ List.mem_cons_self)
  refine store_ends_of_free building.sound site.real below named accepted enclosed ?_ shown
  exact (building.goal_free site gathers).imp_right fun ⟨former, mode, standing⟩ =>
    ⟨former, mode, none, standing⟩

/-- A file that is text is copied. -/
theorem copy_ends (gathers : task.Gathers before file)
    (enclosed : state.fileSystem.get? (task.place before file.names) = some .directory) :
    Ends (copy task (task.source.extend file.names) (task.path file)) state
      (fun _ _ => ¬ task.Unreadable before file) (task.Blames before file) := by
  have grounded := site.grounded
  obtain ⟨object, standing, _⟩ :=
    task.exists_standing_of_mem_taken grounded.wellFormed gathers.2
  have inside : Path.Beneath (task.source.extend file.names) task.source file.names :=
    .extend (gathers.1.isPlain grounded.wellFormed)
  obtain ⟨parent, found, above⟩ : ∃ parent, (Placement.file task.source task.twin
      task.options.renamings (task.path file)).parent? = some parent ∧
      Path.Beneath parent task.twin file.names :=
    Placement.exists_parent?_file grounded.replaced
      (task.beneath_of_mem_taken grounded.wellFormed gathers.2)
  have shorter : parent.bytes.length ≤ pathLimit :=
    (Nat.le_of_lt (Path.parent?_spec found).2.2).trans (site.fits.files file gathers).2.1
  rw [copy_eq task _ _ parent found]
  -- The directory of the copy has been made before its files are handled.
  refine (materialize_ends site building gathers.1 above shorter
    (site.fits.directories file.names gathers.1).2.2
    (directory_place_dropLast building.sound.wellFormed enclosed) (.inr enclosed)).bind ?_
  rintro _ ready ⟨building, enclosed, _⟩
  apply ends_requireSafe_bind (building.checkSafe_copy site gathers enclosed)
  obtain ⟨raw, mode, shown⟩ := exists_stat site gathers
  have asked : ready.fileSystem.stat (task.path file) = .ok (.file raw mode) :=
    (building.sound.stat_eq grounded site.undisturbed inside standing).trans shown
  have unreadable_iff := gathers.unreadable_iff grounded.wellFormed shown
  cases decoded : Utf8.decode? raw with
  | none =>
    refine ends_ask_bind (fun text read => ?_) fun failure _ => ?_
    · cases decoded.symm.trans (decode?_of_readText asked read)
    · exact ⟨unreadable_iff.2 decoded, _, rfl⟩
  | some text =>
    have readable : ¬ task.Unreadable before file := by simp [unreadable_iff, decoded]
    have read : ready.fileSystem.readText (task.path file) = .ok text :=
      bind_eq_ok_iff.2 ⟨_, asked, by simp [decoded, pure, Except.pure]⟩
    refine ends_ask_bind (fun other _ => ?_) fun failure refused => ?_
    · rw [finish_of_real site.real]
      apply ends_modify_bind
      refine Ends.bind (store_ends site (building.congr rfl rfl) gathers enclosed asked) ?_
      exact fun _ _ _ => ends_modify readable
    · cases read.symm.trans refused

/-- A file entry is handled, unless it is a selected file that cannot be read. -/
theorem handleFile_ends (visits : task.Visits before names)
    (listed : (name, object) ∈ task.listed before names .file)
    (enclosed : state.fileSystem.get? (task.place before names) = some .directory) :
    Ends
      (handleFile task (task.source.extend names)
        (.ofEntry (task.source.extend names) (name, object))) state
      (fun _ after => Building task before after ∧
        Evolves (fun _ _ => True) state.fileSystem after.fileSystem ∧
        ¬ task.Unreadable before ⟨names, name⟩)
      (task.Blames before ⟨names, name⟩) := by
  have grounded := site.grounded
  obtain ⟨standing, kind⟩ := (task.mem_listed_iff grounded.wellFormed).1 listed
  have inside : Path.Beneath (task.source.extend names) task.source names :=
    .extend (visits.isPlain grounded.wellFormed)
  -- What holds of the file is told step by step; what the steps do is known already.
  have tells : Ends
      (handleFile task (task.source.extend names)
        (.ofEntry (task.source.extend names) (name, object))) state
      (fun _ _ => ¬ task.Unreadable before ⟨names, name⟩)
      (task.Blames before ⟨names, name⟩) := by
    have counted : ∀ journal : Journal, Building task before { state with journal := journal } :=
      fun _ => building.congr rfl rfl
    unfold handleFile
    apply ends_modify_bind
    split
    next unrecognized =>
      refine ends_pure fun unreadable => ?_
      cases unrecognized.symm.trans unreadable.2.1
    next skipped =>
      refine ends_modify_bind (ends_modify fun unreadable => ?_)
      cases skipped.symm.trans unreadable.2.1
    next selected =>
      apply ends_modify_bind
      refine Ends.bind (hasContent_ends site (counted _) visits selected listed) ?_
      rintro has asked ⟨building, same, gathers, passed⟩
      split
      next holds =>
        have there : asked.fileSystem.get? (task.place before names) = some .directory := by
          rw [same]
          exact enclosed
        have copies := copy_ends site building (gathers holds) there
        exact copies
      next none_held => exact ends_pure (passed (by simpa using none_held))
  refine (Ends.knowing (handleFile_meets grounded building.sound standing
    (isDirectory_eq_false_of_kind kind) inside rfl).forget tells).mono ?_ fun _ => id
  rintro _ after ⟨handled, readable⟩
  refine ⟨?_, handled.evolves building.sound, readable⟩
  cases handled with
  | passed _ quiet => exact building.congr quiet.files quiet.known
  | copied takes copied =>
    rw [task.stand_append_singleton] at standing
    have gathers : task.Gathers before ⟨names, name⟩ :=
      ⟨visits, task.mem_taken_of_takes listed
        ((building.sound.takes_iff grounded site.undisturbed inside standing).1 takes)⟩
    refine building.evolve copied.sound (copied.evolves.mono fun _ _ made => ?_)
    rcases made with directory | written
    · exact .directory visits directory
    · exact .file gathers written

end Pass

end TwinTree
