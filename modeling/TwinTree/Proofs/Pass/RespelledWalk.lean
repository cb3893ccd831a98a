import TwinTree.Proofs.Pass.Respelling

/-!
# Walks under two spellings of the source

A walk asks for the components of the source everywhere but in two places: the policy looks at the
text of a directory, and a text may be too long to be accepted. So two walks that begin with
different spellings of one source go side by side (`walk_beside`), up to what the policy says, or
the first one meets a text that is too long in one of the spellings.
-/
namespace TwinTree.Pass

open FileSystem

variable {α β : Type} {task : Task} {source' path path' destination : Path}
  {held : List Name → Prop} {view : List UInt8 → List UInt8} {state state' : State}
  {home location : Location} {names : List Name} {name : Name} {content content' : List UInt8}
  {action : Pass α} {action' : Pass β}

/-! ### Copying -/

/-- A name beneath the source that is short enough under both spellings. -/
structure Fits (source source' : Path) (held : List Name → Prop) (names : List Name)
    (name : Name) : Prop where
  held : held names
  plain : ∀ part ∈ names, IsPlain part
  own : IsPlain name
  short : ((source.extend names).join ⟨name⟩).bytes.length ≤ pathLimit
  short' : ((source'.extend names).join ⟨name⟩).bytes.length ≤ pathLimit

section

variable (level : Level task source' held view state state')
  (stands : Respelled state.fileSystem location (task.source.extend names) (source'.extend names))
  (fits : Fits task.source source' held names name)

include level stands fits

theorem stat_respelled :
    (state'.fileSystem.stat ((source'.extend names).join ⟨name⟩)).map (Object.through view) =
      (state.fileSystem.stat ((task.source.extend names).join ⟨name⟩)).map
        (Object.through view) := by
  rw [← stands.stat fits.own fits.short fits.short']
  exact level.files.stat _

theorem hasContent_beside {object : Object} :
    Beside (hasContent (.ofEntry (task.source.extend names) (name, object)))
      (hasContent (.ofEntry (source'.extend names) (name, object))) state state'
      (fun has has' after after' => has' = has ∧ Level task source' held view after after')
      (Stopped (Level task source' held view)) := by
  have same : ((source'.extend names).join ⟨name⟩).Same ((task.source.extend names).join ⟨name⟩) :=
    stands.same.join fits.own
  unfold hasContent SourceEntry.ofEntry
  split
  next => exact beside_pure ⟨rfl, level⟩
  refine beside_ask_bind (.of_map_eq (stat_respelled level stands fits)) ?_
    fun reason => ⟨.file _ same, level⟩
  rintro target target' ⟨_, _, shown⟩
  have regular : target'.isRegular = target.isRegular := by
    rw [← @Object.isRegular_through view, shown, Object.isRegular_through]
  rw [regular]
  split
  next => exact beside_pure ⟨rfl, level⟩
  next =>
    -- The warning names the path, so it is not the same, but it is one more on both sides.
    refine beside_modify_bind (beside_modify_bind (beside_pure ⟨rfl, ?_⟩))
    exact (level.warn _ _).take .skipped

theorem write_beside (orderly : state.fileSystem.Orderly) (shown : view content' = view content) :
    Beside (write ((task.source.extend names).join ⟨name⟩) destination content)
      (write ((source'.extend names).join ⟨name⟩) destination content') state state'
      (fun _ _ => Level task source' held view) (Stopped (Level task source' held view)) := by
  have likeness := likeness_seenAlike view
  have changes : ∀ {state state' access access'}, Level task source' held view state state' →
      Alongside (SeenAlike view) (access state.fileSystem) (access' state'.fileSystem) →
      Beside (change access (.fileNotWritten destination))
        (change access' (.fileNotWritten destination)) state state'
        (fun _ _ => Level task source' held view) (Stopped (Level task source' held view)) :=
    fun level alongside => beside_change alongside
      (fun _ _ files => ⟨files, level.known, level.journal⟩) fun _ => ⟨.refl _, level⟩
  unfold write
  refine Beside.bind (.growing (.change fun orderly => ensureWritable_extends orderly) orderly
    (changes level (likeness.ensureWritable level.files _))) ?_
  rintro _ _ ready ready' ⟨extended, level⟩
  refine Beside.bind (.growing (.change fun orderly => writeFile_extends orderly) extended.orderly
    (changes level (likeness.writeFile level.files _ shown))) ?_
  rintro _ _ written written' ⟨further, level⟩
  -- The source is still where it was, so it is looked up alike.
  have stands := (stands.kept extended).kept further
  refine changes level ?_
  rw [← stands.copyMode fits.own fits.short fits.short']
  exact likeness.copyMode level.files _ _

end

/-- Whether a file is taken does not depend on how its directory is spelled. -/
theorem selection_respelled (task : Task) (source' path path' : Path) (name : Name)
    (object : Object) :
    Selection.ofName (task.respelled source').options (task.respelled source').excludedFiles
        (SourceEntry.ofEntry path' (name, object)).name =
      Selection.ofName task.options task.excludedFiles
        (SourceEntry.ofEntry path (name, object)).name := rfl

variable (spelled : Spelled task.source source' task.policy held view)
  (fits : Fits task.source source' held names name)

include spelled fits

theorem recorded (place : Path) :
    Record.Respelled task.source source' task.policy held
      ⟨(task.source.extend names).join ⟨name⟩, place, task.policy (task.source.extend names)⟩
      ⟨(source'.extend names).join ⟨name⟩, place, task.policy (source'.extend names)⟩ where
  same := (spelled.same.extend fits.plain).join fits.own
  destination := rfl
  judged := by
    have plain : ∀ part ∈ names ++ [name], IsPlain part :=
      List.forall_mem_append.2 ⟨fits.plain, by simpa using fits.own⟩
    exact ⟨names, fits.held, ⟨name, plain, rfl⟩, ⟨name, plain, rfl⟩, rfl, rfl⟩

theorem finish_beside (level : Level task source' held view state state')
    (stands : Respelled state.fileSystem location (task.source.extend names)
      (source'.extend names))
    (orderly : state.fileSystem.Orderly) (shown : view content' = view content) :
    Beside
      (finish task ((task.source.extend names).join ⟨name⟩) destination content
        (task.policy (task.source.extend names)))
      (finish (task.respelled source') ((source'.extend names).join ⟨name⟩) destination content'
        (task.policy (source'.extend names)))
      state state' (fun _ _ => Level task source' held view)
      (Stopped (Level task source' held view)) := by
  have recorded := recorded spelled fits destination
  cases dry : task.options.dryRun with
  | true =>
    have dry' : (task.respelled source').options.dryRun = true := dry
    rw [finish_of_dry dry, finish_of_dry dry']
    refine beside_modify_bind (beside_modify ?_)
    exact ⟨level.files, level.known, Report.Respelled.addPlanned level.journal recorded⟩
  | false =>
    have real' : (task.respelled source').options.dryRun = false := dry
    rw [finish_of_real dry, finish_of_real real']
    refine beside_modify_bind ?_
    refine (write_beside (level.note _ _ _) stands fits orderly shown).bind
      fun _ _ _ _ level => beside_modify ?_
    exact ⟨level.files, level.known, Report.Respelled.addCopied level.journal recorded⟩

/-- A file is written side by side once its directory is ready. -/
theorem fill_beside (level : Level task source' held view state state')
    (stands : Respelled state.fileSystem location (task.source.extend names)
      (source'.extend names)) (orderly : state.fileSystem.Orderly) (place : Path) :
    Beside (do
        requireSafe task place
        let text ← ask (·.readText ((task.source.extend names).join ⟨name⟩))
          (.fileNotRead ((task.source.extend names).join ⟨name⟩))
        finish task ((task.source.extend names).join ⟨name⟩) place
          (Utf8.encode (adapt task.rules (task.policy (task.source.extend names)) text))
          (task.policy (task.source.extend names))) (do
        requireSafe (task.respelled source') place
        let text ← ask (·.readText ((source'.extend names).join ⟨name⟩))
          (.fileNotRead ((source'.extend names).join ⟨name⟩))
        finish (task.respelled source') ((source'.extend names).join ⟨name⟩) place
          (Utf8.encode (adapt task.rules (task.policy (source'.extend names)) text))
          (task.policy (source'.extend names))) state state'
      (fun _ _ => Level task source' held view) (Stopped (Level task source' held view)) := by
  have likeness := likeness_seenAlike view
  refine beside_requireSafe_bind (likeness.checkSafe level.files place task.twin) (fun _ => ?_)
    fun _ => ⟨.refl _, level⟩
  refine beside_ask_bind (readText_alongside spelled.readable (stat_respelled level stands fits))
    ?_ fun _ => ⟨.file _ (stands.same.join fits.own), level⟩
  rintro text text' ⟨content, content', shown, decoded, decoded'⟩
  exact finish_beside spelled fits level stands orderly
    (spelled.adapted task.rules fits.held fits.plain shown decoded decoded')

theorem copy_beside (level : Level task source' held view state state')
    (stands : Respelled state.fileSystem location (task.source.extend names)
      (source'.extend names)) (orderly : state.fileSystem.Orderly) :
    Beside
      (copy task (task.source.extend names) ((task.source.extend names).join ⟨name⟩))
      (copy (task.respelled source') (source'.extend names) ((source'.extend names).join ⟨name⟩))
      state state' (fun _ _ => Level task source' held view)
      (Stopped (Level task source' held view)) := by
  have place_eq : Placement.file (task.respelled source').source (task.respelled source').twin
      (task.respelled source').options.renamings ((source'.extend names).join ⟨name⟩) =
      Placement.file task.source task.twin task.options.renamings
        ((task.source.extend names).join ⟨name⟩) :=
    Placement.file_respelled spelled.same spelled.nonempty fits.plain fits.own
  unfold copy
  dsimp only
  rw [place_eq]
  generalize Placement.file task.source task.twin task.options.renamings
    ((task.source.extend names).join ⟨name⟩) = place
  cases place.parent? with
  | none => exact fill_beside spelled fits level stands orderly place
  | some parent =>
    refine Beside.bind (.growing (covers_expands _).materialize orderly
      (beside_of_together ((concord_respelled task source' held view).materialize level))) ?_
    rintro _ _ ready ready' ⟨extended, _, level⟩
    exact fill_beside spelled fits level (stands.kept extended) extended.orderly place

theorem handleFile_beside {object : Object} (level : Level task source' held view state state')
    (stands : Respelled state.fileSystem location (task.source.extend names)
      (source'.extend names)) (orderly : state.fileSystem.Orderly) :
    Beside
      (handleFile task (task.source.extend names)
        (.ofEntry (task.source.extend names) (name, object)))
      (handleFile (task.respelled source') (source'.extend names)
        (.ofEntry (source'.extend names) (name, object)))
      state state' (fun _ _ => Level task source' held view)
      (Stopped (Level task source' held view)) := by
  have level := level.take .scanned
  unfold handleFile
  refine beside_modify_bind ?_
  rw [selection_respelled task source' (task.source.extend names)]
  cases Selection.ofName task.options task.excludedFiles
    (SourceEntry.ofEntry (task.source.extend names) (name, object)).name with
  | unrecognized => exact beside_pure level
  | skipped => exact beside_modify_bind (beside_modify ((level.note _ _ _).take .skipped))
  | selected =>
    refine beside_modify_bind ?_
    have level := level.take .matched
    refine Beside.bind (.growing (covers_expands true).hasContent orderly
      (hasContent_beside level stands fits)) ?_
    rintro _ has asked asked' ⟨extended, rfl, level⟩
    cases has with
    | true => exact copy_beside spelled fits level (stands.kept extended) extended.orderly
    | false => exact beside_pure level

omit spelled fits in
theorem admits_beside {found : Name × Object} (level : Level task source' held view state state') :
    Beside (admits task (.ofEntry path found))
      (admits (task.respelled source') (.ofEntry path' found)) state state'
      (fun admitted admitted' after after' => (admitted' = admitted ∧
        (admitted = true → found.2.isLink = false) ∧ after.fileSystem = state.fileSystem) ∧
        Level task source' held view after after') (Stopped (Level task source' held view)) := by
  unfold admits SourceEntry.ofEntry
  split
  next => exact beside_modify_bind (beside_pure ⟨⟨rfl, nofun, rfl⟩, level.note _ _ _⟩)
  change Beside (if task.excludedDirectories.excludes _ = true then _ else _)
    (if task.excludedDirectories.excludes _ = true then _ else _) _ _ _ _
  split
  next => exact beside_modify_bind (beside_pure ⟨⟨rfl, nofun, rfl⟩, level.note _ _ _⟩)
  split
  next => exact beside_modify_bind (beside_pure ⟨⟨rfl, nofun, rfl⟩, level.warn _ _⟩)
  next plain => exact beside_pure ⟨⟨rfl, fun _ => by simpa using plain, rfl⟩, level⟩

/-! ### Whole walks -/

/-- States side by side, when the first walk has extended a file system. -/
def LevelSince (task : Task) (source' : Path) (held : List Name → Prop)
    (view : List UInt8 → List UInt8) (before : FileSystem) (state state' : State) : Prop :=
  Extends before state.fileSystem ∧ Level task source' held view state state'

omit spelled fits in
/-- Actions that start side by side since some file system end so. -/
theorem Beside.since {before : FileSystem} (expands : Expands action)
    (extended : Extends before state.fileSystem)
    (beside : Beside action action' state state' (fun _ _ => Level task source' held view)
      (Stopped (Level task source' held view))) :
    Beside action action' state state' (fun _ _ => LevelSince task source' held view before)
      (Stopped (Level task source' held view)) :=
  (beside.growing expands extended.orderly).mono
    (fun _ _ _ _ ⟨further, level⟩ => ⟨extended.trans further, level⟩) fun _ _ _ _ => id

omit fits in
/-- All files of a directory are handled side by side. -/
theorem files_beside {before : FileSystem} {files : List (Name × Object)}
    (plain : ∀ name ∈ names, IsPlain name) (orderly : before.Orderly)
    (foreseen : Foreseen task.source source' held home before)
    (stands : Respelled before (names.reverse ++ home) (task.source.extend names)
      (source'.extend names))
    (standing : ∀ found ∈ files, before.get? (found.1 :: (names.reverse ++ home)) = some found.2)
    (start : LevelSince task source' held view before state state') :
    Beside
      (files.forM fun found => handleFile task (task.source.extend names)
        (.ofEntry (task.source.extend names) found))
      (files.forM fun found => handleFile (task.respelled source') (source'.extend names)
        (.ofEntry (source'.extend names) found))
      state state' (fun _ _ => LevelSince task source' held view before)
      (Stopped (Level task source' held view)) := by
  refine beside_forM start fun found member state state' ⟨extended, level⟩ => ?_
  obtain ⟨own, _⟩ := orderly.holds (standing found member) _ List.mem_cons_self
  obtain ⟨short, short'⟩ := foreseen.within.join (standing found member)
  have fits : Fits task.source source' held names found.1 :=
    ⟨foreseen.held names stands.directory, plain, own, short, short'⟩
  exact (handleFile_beside spelled fits level (stands.kept extended) extended.orderly).since
    (covers_expands _).handleFile extended

omit fits in
/-- Walks under two spellings of the source go side by side, unless the first one comes to leave
something whose text is too long in one of them. -/
theorem walk_beside {depth : Nat} (plain : ∀ name ∈ names, IsPlain name)
    (level : Level task source' held view state state')
    (stands : Respelled state.fileSystem (names.reverse ++ home) (task.source.extend names)
      (source'.extend names)) (orderly : state.fileSystem.Orderly) :
    Beside (walk task depth (task.source.extend names))
      (walk (task.respelled source') depth (source'.extend names)) state state'
      (fun _ _ => Level task source' held view) (Stopped (Level task source' held view)) ∨
    Meets (walk task depth (task.source.extend names)) state
      (fun _ => Unforeseen task.source source' held home)
      (Unforeseen task.source source' held home) := by
  have covers := covers_expands task.options.dryRun
  -- The induction is on the depth, so it holds of every directory that is entered.
  induction depth generalizing state state' names with
  | zero => exact .inl (beside_throw ⟨.directory _ stands.same, level⟩)
  | succ depth ih =>
    have place_eq : Placement.directory (task.respelled source').source
        (task.respelled source').twin (source'.extend names) =
        Placement.directory task.source task.twin (task.source.extend names) :=
      Placement.directory_respelled spelled.same spelled.nonempty plain
    have entering : ∀ entry, Expands (do
        if ← admits task entry then walk task depth entry.path) := fun entry =>
      covers.bind covers.admits fun admitted => by
        split
        · exact covers.walk depth
        · exact covers.pure _
    unfold walk
    rw [place_eq]
    refine Beside.bind_or (.growing covers.materialize orderly
      (beside_of_together ((concord_respelled task source' held view).materialize level))) ?_
    rintro _ _ ready ready' ⟨extended, _, level⟩
    have stands := stands.kept extended
    have orderly := extended.orderly
    -- Preparing the directory may have made one in the source with a text that is too long.
    by_cases foreseen : Foreseen task.source source' held home ready.fileSystem
    · refine Beside.bind_or (list_beside level orderly foreseen.within stands) ?_
      rintro listing listing' listed listed' ⟨files_eq, level, alike⟩
      obtain ⟨⟨inner, inner_eq, inner_eq', directories⟩, ⟨files, found, found', standing⟩⟩ := alike
      have start : LevelSince task source' held view ready.fileSystem listed listed' :=
        ⟨files_eq.symm ▸ .refl orderly, level⟩
      rw [inner_eq, inner_eq', found, found', forM_map, forM_map, forM_map, forM_map]
      have handled := files_beside spelled plain orderly foreseen stands standing start
      refine handled.bind_or fun _ _ done done' kept => ?_
      -- Among the subdirectories the walks may part, but what has been lost by then stays lost.
      refine (beside_forM_or kept (fun entry member state state' kept => ?_)
        fun entry _ state unforeseen => (entering _).unforeseen unforeseen).imp_left fun beside =>
          beside.mono (fun _ _ _ _ kept => kept.2) fun _ _ _ _ => id
      obtain ⟨extended, level⟩ := kept
      refine Beside.bind_or (admits_beside level) ?_
      rintro _ admitted asked asked' ⟨⟨rfl, enters, unchanged⟩, level⟩
      have extended : Extends ready.fileSystem asked.fileSystem := unchanged.symm ▸ extended
      cases admitted with
      | false => exact .inl (beside_pure ⟨extended, level⟩)
      | true =>
        obtain ⟨standing, directory⟩ := directories entry member
        rw [directory (enters rfl)] at standing
        obtain ⟨own, _⟩ := orderly.holds standing _ List.mem_cons_self
        have plain : ∀ name ∈ names ++ [entry.1], IsPlain name :=
          List.forall_mem_append.2 ⟨plain, by simpa using own⟩
        have deeper : Respelled asked.fileSystem ((names ++ [entry.1]).reverse ++ home)
            (task.source.extend (names ++ [entry.1])) (source'.extend (names ++ [entry.1])) := by
          rw [Path.extend_append_singleton, Path.extend_append_singleton, List.reverse_append]
          exact (stands.enter orderly standing).kept extended
        have walked := ih plain level deeper extended.orderly
        rw [Path.extend_append_singleton, Path.extend_append_singleton] at walked
        exact walked.imp_left (·.since (covers.walk depth) extended)
    · have rest : Expands (do
          let listing ← list (task.source.extend names)
          listing.files.forM (handleFile task (task.source.extend names))
          listing.directories.forM fun entry => do
            if ← admits task entry then walk task depth entry.path) :=
        covers.bind covers.list fun listing =>
          covers.bind (covers.forM fun _ => covers.handleFile) fun _ => covers.forM entering
      exact .inr (rest.unforeseen ⟨orderly, foreseen⟩)

end TwinTree.Pass
