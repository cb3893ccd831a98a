import TwinTree.Proofs.Pass.Reach
import TwinTree.Proofs.Text.ShownPath

/-!
# What a log tells

A log tells of a pass what its report tells: the warnings and the records in order, a line for each
file entry left out, and a line for each directory of the twin but its root (`log_tells`).
-/
namespace TwinTree

/-- The messages of one level, in the order in which they have been emitted. -/
def Log.messages (level : Log.Level) (log : List Log.Entry) : List String :=
  (log.filter fun entry => entry.level = level).map Log.Entry.message

@[simp]
theorem Log.messages_append (level : Log.Level) (log later : List Log.Entry) :
    messages level (log ++ later) = messages level log ++ messages level later := by
  simp [messages]

/-- What is said of a file that is copied, or that a dry run would copy. -/
def Record.announcement (dryRun : Bool) (record : Record) : String :=
  (if dryRun then "Would copy " else "Copying ") ++ record.source.display ++ " -> " ++
    record.destination.display

/-- What is said of a file entry that is left out. -/
def SourceEntry.leftOutLine (entry : SourceEntry) : String := "Skipped " ++ entry.path.display

/-- What is said of a directory of the twin that is made. -/
def madeLine (path : Path) : String := "Materialized " ++ path.display

/-- A line that says that a directory is made. -/
def isMadeLine (line : String) : Bool := "Materialized ".toList.isPrefixOf line.toList

namespace Task

/-- The lines about the file entries that are left out. -/
def leftOutLines (task : Task) (files : List SourceEntry) : List String :=
  (files.filter fun entry =>
    Selection.ofName task.options task.excludedFiles entry.name = .skipped).map
      SourceEntry.leftOutLine

/-- What is said of a subdirectory whose name keeps it from being entered. -/
def passedByLine? (task : Task) (entry : SourceEntry) : Option String :=
  if isVersionControl entry.name then some ("Skipped VCS metadata " ++ entry.path.display)
  else if task.excludedDirectories.excludes entry.name then
    some ("Excluded " ++ entry.path.display)
  else none

end Task

/-- A journal whose log and report agree, when these file entries and subdirectories have been met.
The root of the twin is counted without a word. -/
structure Narrates (task : Task) (files directories : List SourceEntry) (journal : Journal) :
    Prop where
  warned : Log.messages .warn journal.log = journal.report.warnings
  announced : Log.messages .info journal.log =
    journal.report.records.map (·.announcement task.options.dryRun)
  remarked : ∃ made : List Path,
    (Log.messages .debug journal.log).Perm (task.leftOutLines files ++
      (directories.filterMap task.passedByLine? ++ made.map madeLine)) ∧
    if task.options.dryRun then made = [] else journal.report.directories = made.length + 1

namespace Narrates

variable {task : Task} {files directories : List SourceEntry} {journal : Journal}
  {entry : SourceEntry}

/-- Only which entries have been met matters, and not their order. -/
theorem perm {files' directories' : List SourceEntry}
    (narrates : Narrates task files directories journal) (sameFiles : files.Perm files')
    (sameDirectories : directories.Perm directories') :
    Narrates task files' directories' journal where
  warned := narrates.warned
  announced := narrates.announced
  remarked := by
    obtain ⟨made, lines, counted⟩ := narrates.remarked
    refine ⟨made, lines.trans ?_, counted⟩
    exact ((sameFiles.filter _).map _).append ((sameDirectories.filterMap _).append_right _)

/-! ### Counting without a word -/

/-- A counter that no line belongs to may change. -/
theorem count {change : Report → Report} (narrates : Narrates task files directories journal)
    (warnings : (change journal.report).warnings = journal.report.warnings)
    (records : (change journal.report).records = journal.report.records)
    (counted : (change journal.report).directories = journal.report.directories) :
    Narrates task files directories (journal.count change) where
  warned := narrates.warned.trans warnings.symm
  announced := by
    change _ = (change journal.report).records.map _
    rw [records]
    exact narrates.announced
  remarked := by
    obtain ⟨made, lines, made_eq⟩ := narrates.remarked
    have same : (journal.count change).report.directories = journal.report.directories := counted
    exact ⟨made, lines, by rwa [same]⟩

/-- A dry run counts the directories of the twin without a word. -/
theorem addDirectory (dry : task.options.dryRun = true)
    (narrates : Narrates task files directories journal) :
    Narrates task files directories (journal.count .addDirectory) where
  warned := narrates.warned
  announced := narrates.announced
  remarked := by
    obtain ⟨made, lines, none⟩ := narrates.remarked
    rw [if_pos dry] at none
    exact ⟨made, lines, by rwa [if_pos dry]⟩

/-! ### Lines -/

theorem warnAll (narrates : Narrates task files directories journal) (warnings : List String) :
    Narrates task files directories (journal.warnAll warnings) where
  warned := by
    have each : Log.messages .warn (warnings.map fun warning => ⟨.warn, .report, warning⟩) =
        warnings := by
      induction warnings with
      | nil => rfl
      | cons warning rest ih => exact congrArg (warning :: ·) ih
    simp [Journal.warnAll, each, narrates.warned]
  announced := by
    have none : Log.messages .info (warnings.map fun warning => ⟨.warn, .report, warning⟩) =
        [] := by
      simp [Log.messages]
    simp [Journal.warnAll, none, narrates.announced]
  remarked := by
    have none : Log.messages .debug (warnings.map fun warning => ⟨.warn, .report, warning⟩) =
        [] := by
      simp [Log.messages]
    simpa [Journal.warnAll, none] using narrates.remarked

theorem warn (narrates : Narrates task files directories journal) (warning : String) :
    Narrates task files directories (journal.warn warning) :=
  narrates.warnAll [warning]

/-- A remark adds a line to those about entries or about directories made. -/
theorem remark {files' directories' : List SourceEntry} {line : String}
    (narrates : Narrates task files directories journal)
    (added : (task.leftOutLines files ++ (directories.filterMap task.passedByLine? ++ [line])).Perm
      (task.leftOutLines files' ++ directories'.filterMap task.passedByLine?)) :
    Narrates task files' directories' (journal.note .debug line) where
  warned := by simpa [Journal.note, Log.messages] using narrates.warned
  announced := by simpa [Journal.note, Log.messages] using narrates.announced
  remarked := by
    obtain ⟨made, lines, counted⟩ := narrates.remarked
    refine ⟨made, ?_, counted⟩
    have noted : Log.messages .debug (journal.note .debug line).log =
        Log.messages .debug journal.log ++ [line] := by
      simp [Journal.note, Log.messages]
    rw [noted, ← List.append_assoc (task.leftOutLines files')]
    refine .trans ?_ (added.append_right _)
    refine (lines.append_right [line]).trans ?_
    simp only [List.append_assoc]
    exact ((List.perm_append_comm.append_left _).append_left _)

theorem skipFile (narrates : Narrates task files directories journal)
    (skipped : Selection.ofName task.options task.excludedFiles entry.name = .skipped) :
    Narrates task (files ++ [entry]) directories (journal.note .debug entry.leftOutLine) := by
  refine narrates.remark ?_
  have one : task.leftOutLines (files ++ [entry]) =
      task.leftOutLines files ++ [entry.leftOutLine] := by
    simp [Task.leftOutLines, skipped]
  rw [one, List.append_assoc]
  exact List.perm_append_comm.append_left _

theorem takeFile (narrates : Narrates task files directories journal)
    (taken : Selection.ofName task.options task.excludedFiles entry.name ≠ .skipped) :
    Narrates task (files ++ [entry]) directories journal where
  __ := narrates
  remarked := by
    have none : task.leftOutLines (files ++ [entry]) = task.leftOutLines files := by
      simp [Task.leftOutLines, taken]
    rw [none]
    exact narrates.remarked

theorem passBy {line : String} (narrates : Narrates task files directories journal)
    (passed : task.passedByLine? entry = some line) :
    Narrates task files (directories ++ [entry]) (journal.note .debug line) := by
  refine narrates.remark ?_
  simp [List.filterMap_append, passed]

theorem consider (narrates : Narrates task files directories journal)
    (considered : task.passedByLine? entry = none) :
    Narrates task files (directories ++ [entry]) journal where
  __ := narrates
  remarked := by
    have none : (directories ++ [entry]).filterMap task.passedByLine? =
        directories.filterMap task.passedByLine? := by
      simp [List.filterMap_append, considered]
    rw [none]
    exact narrates.remarked

/-- A real pass says which directory of the twin it makes. -/
theorem make (real : task.options.dryRun = false)
    (narrates : Narrates task files directories journal) (path : Path) :
    Narrates task files directories
      ((journal.note .debug (madeLine path)).count .addDirectory) where
  warned := by
    simpa [Journal.note, Journal.count, Log.messages, Report.addDirectory] using narrates.warned
  announced := by
    simpa [Journal.note, Journal.count, Log.messages, Report.addDirectory] using narrates.announced
  remarked := by
    obtain ⟨made, lines, counted⟩ := narrates.remarked
    rw [if_neg (by simp [real])] at counted
    refine ⟨made ++ [path], ?_, ?_⟩
    · have noted : Log.messages .debug
          ((journal.note .debug (madeLine path)).count .addDirectory).log =
          Log.messages .debug journal.log ++ [madeLine path] := by
        simp [Journal.note, Journal.count, Log.messages]
      rw [noted, List.map_append]
      simpa using lines.append_right [madeLine path]
    · rw [if_neg (by simp [real]), List.length_append]
      exact congrArg (· + 1) counted

/-- A record and the line about it come together. -/
theorem record (change : Report → Report) (narrates : Narrates task files directories journal)
    (added : Record) (warnings : (change journal.report).warnings = journal.report.warnings)
    (records : (change journal.report).records = journal.report.records ++ [added])
    (counted : (change journal.report).directories = journal.report.directories) :
    Narrates task files directories
      ((journal.note .info (added.announcement task.options.dryRun)).count change) where
  warned := by
    change _ = (change journal.report).warnings
    simpa [Journal.note, Journal.count, Log.messages, warnings] using narrates.warned
  announced := by
    change _ = (change journal.report).records.map _
    simpa [Journal.note, Journal.count, Log.messages, records] using narrates.announced
  remarked := by
    obtain ⟨made, lines, made_eq⟩ := narrates.remarked
    refine ⟨made, by simpa [Journal.note, Journal.count, Log.messages] using lines, ?_⟩
    have same : ((journal.note .info (added.announcement task.options.dryRun)).count
        change).report.directories = journal.report.directories := counted
    rwa [same]

end Narrates

namespace Pass

variable {task : Task} {files directories : List SourceEntry} {state : State}
  {directory path : Path} {entry : SourceEntry}

/-! ### What the steps of a pass tell -/

theorem materialize_narrates (narrates : Narrates task files directories state.journal) :
    Meets (materialize task path) state (fun _ after => Narrates task files directories
      after.journal) fun _ => True := by
  unfold materialize
  apply meets_isMaterialized_bind
  split
  next => exact meets_pure narrates
  next unknown =>
    refine meets_requireSafe_bind (fun _ => ?_) trivial
    split
    next dry =>
      apply meets_modify_bind
      exact meets_modify (narrates.addDirectory dry)
    next notDry =>
      have real : task.options.dryRun = false := by simpa using notDry
      refine (ensureDirectory_meets (by simpa using unknown) trivial).bind ?_
      rintro _ after ⟨rfl, _, _, same⟩
      rw [← same] at narrates
      apply meets_modify_bind
      exact meets_modify (narrates.make real path)

theorem finish_narrates {destination : Path} {content : List UInt8} {stripping : Bool}
    (narrates : Narrates task files directories state.journal) :
    Meets (finish task path destination content stripping) state
      (fun _ after => Narrates task files directories after.journal) fun _ => True := by
  cases dry : task.options.dryRun with
  | true =>
    have told := narrates.record (·.addPlanned ⟨path, destination, stripping⟩)
      ⟨path, destination, stripping⟩ rfl rfl rfl
    rw [dry] at told
    rw [finish_of_dry dry]
    apply meets_modify_bind
    exact meets_modify told
  | false =>
    have told := narrates.record (·.addCopied ⟨path, destination, stripping⟩)
      ⟨path, destination, stripping⟩ rfl rfl rfl
    rw [dry] at told
    rw [finish_of_real dry]
    apply meets_modify_bind
    -- The line comes before the file is written and the record after it, which notes nothing.
    refine write_meets_journal.bind ?_
    rintro _ after ⟨same, _⟩
    apply meets_modify
    rw [same]
    exact told

theorem copy_narrates (narrates : Narrates task files directories state.journal) :
    Meets (copy task directory path) state
      (fun _ after => Narrates task files directories after.journal) fun _ => True := by
  refine meets_copy (fun _ => materialize_narrates narrates) narrates (fun _ _ => trivial) ?_
  exact fun _ _ narrates _ => finish_narrates narrates

theorem hasContent_narrates (narrates : Narrates task files directories state.journal) :
    Meets (hasContent entry) state
      (fun _ after => Narrates task files directories after.journal) fun _ => True := by
  unfold hasContent
  split
  next => exact meets_pure narrates
  next =>
    refine meets_ask_bind (fun target _ => ?_) trivial
    split
    next => exact meets_pure narrates
    next =>
      apply meets_modify_bind
      apply meets_modify_bind
      exact meets_pure ((narrates.warn _).count rfl rfl rfl)

theorem handleFile_narrates (narrates : Narrates task files directories state.journal) :
    Meets (handleFile task directory entry) state
      (fun _ after => Narrates task (files ++ [entry]) directories after.journal)
      fun _ => True := by
  unfold handleFile
  apply meets_modify_bind
  have scanned : Narrates task files directories (state.journal.count .addScanned) :=
    narrates.count rfl rfl rfl
  split
  next unrecognized => exact meets_pure (scanned.takeFile (by simp [unrecognized]))
  next skipped =>
    apply meets_modify_bind
    exact meets_modify ((scanned.skipFile skipped).count rfl rfl rfl)
  next selected =>
    apply meets_modify_bind
    have matched : Narrates task (files ++ [entry]) directories
        ((state.journal.count .addScanned).count .addMatched) :=
      (scanned.takeFile (by simp [selected])).count rfl rfl rfl
    refine (hasContent_narrates matched).bind fun has asked narrates => ?_
    split
    next => exact copy_narrates narrates
    next => exact meets_pure narrates

theorem admits_narrates (narrates : Narrates task files directories state.journal) :
    Meets (admits task entry) state
      (fun _ after => Narrates task files (directories ++ [entry]) after.journal)
      fun _ => True := by
  unfold admits
  split
  next known =>
    apply meets_modify_bind
    exact meets_pure (narrates.passBy (by simp [Task.passedByLine?, known]))
  next known =>
  split
  next excluded =>
    apply meets_modify_bind
    exact meets_pure (narrates.passBy (by simp [Task.passedByLine?, known, excluded]))
  next excluded =>
  have considered : Narrates task files (directories ++ [entry]) state.journal :=
    narrates.consider (by simp [Task.passedByLine?, known, excluded])
  split
  next =>
    apply meets_modify_bind
    exact meets_pure (considered.warn _)
  next => exact meets_pure considered

/-! ### Walks -/

theorem turns_narrate (listed : List SourceEntry)
    (narrates : Narrates task files directories state.journal) :
    Meets (listed.foldlM (takeTurn task directory) []) state
      (fun turns after => turns.map Prod.fst = listed ∧
        Narrates task (files ++ listed) directories after.journal) fun _ => True := by
  let invariant : List SourceEntry → List (SourceEntry × Except Failure Object) → State → Prop :=
    fun done turns after => turns.map Prod.fst = done ∧
      Narrates task (files ++ done) directories after.journal
  have started : invariant [] [] state := ⟨rfl, by simpa using narrates⟩
  refine meets_foldlM started ?_
  rintro done entry _ _ turns state ⟨rfl, narrates⟩
  apply meets_fileSystem_bind
  refine (handleFile_narrates narrates).bind fun _ after narrates => meets_pure ⟨by simp, ?_⟩
  rwa [List.append_assoc] at narrates

/-- What has been met in a number of visits. -/
def metIn (kind : SourceEntry.Kind) (visits : List Visit) : List SourceEntry :=
  visits.flatMap (Visit.met · kind)

/-- The log that an action adds tells of the entries met in the visits that it gives. -/
def NarratesVisits (task : Task) (action : Pass (List Visit)) : Prop :=
  ∀ ⦃files directories state⦄, Narrates task files directories state.journal →
    Meets action state
      (fun visits after => (∀ visit ∈ visits, visit.Complete) ∧
        Narrates task (files ++ metIn .file visits) (directories ++ metIn .directory visits)
          after.journal) fun _ => True

theorem directories_narrate {depth : Nat} {visit : Visit} (listed : List SourceEntry)
    (deeper : ∀ directory, NarratesVisits task (walkWitnessed task depth directory))
    (narrates : Narrates task files directories state.journal) :
    Meets (listed.foldlM (fun visits entry => do
        if ← admits task entry then
          let inner ← walkWitnessed task depth entry.path
          return visits ++ inner
        else return visits) [visit]) state
      (fun visits after => ∃ inner, visits = visit :: inner ∧ (∀ visit ∈ inner, visit.Complete) ∧
        Narrates task (files ++ metIn .file inner) (directories ++ listed ++ metIn .directory inner)
          after.journal) fun _ => True := by
  let invariant : List SourceEntry → List Visit → State → Prop := fun done visits after =>
    ∃ inner, visits = visit :: inner ∧ (∀ visit ∈ inner, visit.Complete) ∧
      Narrates task (files ++ metIn .file inner) (directories ++ done ++ metIn .directory inner)
        after.journal
  have started : invariant [] [visit] state := ⟨[], rfl, by simp, by simpa [metIn] using narrates⟩
  refine meets_foldlM started ?_
  rintro done entry _ _ _ state ⟨inner, rfl, completed, narrates⟩
  refine (admits_narrates narrates).bind fun admitted asked narrates => ?_
  -- The subdirectory is met before what is met beneath it, whatever was met further up.
  have counted : Narrates task (files ++ metIn .file inner)
      (directories ++ (done ++ [entry]) ++ metIn .directory inner) asked.journal := by
    refine narrates.perm (.refl _) ?_
    simp only [List.append_assoc]
    exact (List.perm_append_comm.append_left _).append_left _
  split
  next =>
    refine (deeper _ counted).bind fun further after ⟨completed', narrates⟩ => meets_pure ?_
    refine ⟨inner ++ further, rfl, List.forall_mem_append.2 ⟨completed, completed'⟩, ?_⟩
    simpa [metIn, List.append_assoc] using narrates
  next => exact meets_pure ⟨inner, rfl, completed, counted⟩

theorem walkWitnessed_narrates (depth : Nat) (directory : Path) :
    NarratesVisits task (walkWitnessed task depth directory) := by
  induction depth generalizing directory with
  | zero => exact fun _ _ _ _ => meets_throw trivial
  | succ depth ih =>
    intro files directories state narrates
    unfold walkWitnessed
    refine (materialize_narrates narrates).bind fun _ ready narrates => ?_
    apply meets_fileSystem_bind
    have lists : Meets (list directory) ready (fun listing after => ∃ entries,
        ready.fileSystem.readDirectory directory = .ok entries ∧
        listing = Pass.listing ready.fileSystem directory entries ∧
        Narrates task files directories after.journal) fun _ => True := by
      unfold Meets
      rw [run_list]
      cases ready.fileSystem.readDirectory directory with
      | error => exact trivial
      | ok entries => exact ⟨entries, rfl, rfl, narrates.warnAll _⟩
    refine lists.bind ?_
    rintro _ listed ⟨entries, read, rfl, narrates⟩
    refine (turns_narrate _ narrates).bind ?_
    rintro turns handled ⟨had, narrates⟩
    refine (directories_narrate _ ih narrates).mono ?_ fun _ => id
    rintro _ after ⟨inner, rfl, completed, narrates⟩
    have complete : (Visit.mk directory ready.fileSystem turns).Complete :=
      Visit.complete_of_listed read had
    refine ⟨List.forall_mem_cons.2 ⟨complete, completed⟩, ?_⟩
    -- A visit meets what has been listed, in another order.
    have met : ∀ kind,
        ((SourceEntry.listed ready.fileSystem directory kind entries).map (.ofEntry directory)).Perm
          ((Visit.mk directory ready.fileSystem turns).met kind) := by
      intro kind
      rw [Visit.met_of_readDirectory read]
      exact (SourceEntry.listed_perm ..).map _
    refine narrates.perm ?_ ?_
    · simpa [metIn, listing, List.append_assoc] using
        ((met .file).append_right _).append_left _
    · simpa [metIn, listing, List.append_assoc] using
        ((met .directory).append_right _).append_left _

/-- A real pass counts the root of the twin and says nothing about it. -/
theorem prepareRoot_narrates {fs : FileSystem} :
    Meets (prepareRoot path task.options.dryRun) { fileSystem := fs }
      (fun _ after => Narrates task [] [] after.journal) fun _ => True := by
  cases dry : task.options.dryRun with
  | true =>
    refine meets_pure ⟨rfl, rfl, [], .refl _, ?_⟩
    rw [if_pos dry]
  | false =>
    refine prepareRoot_meets_journal.mono (fun _ after ⟨_, _, journal⟩ => ?_) fun _ => id
    rw [journal]
    refine ⟨rfl, rfl, [], .refl _, ?_⟩
    rw [if_neg (by simp [dry])]
    rfl

theorem runWitnessed_narrates {source twin : Path} {options : Options} {policy : Policy}
    {fs : FileSystem} :
    Meets (runWitnessed source twin options policy) { fileSystem := fs }
      (fun result after => ∃ task, prepare source twin options policy = .ok task ∧
        (∀ visit ∈ result.1, visit.Complete) ∧ result.2 = after.journal.report ∧
        Narrates task (metIn .file result.1) (metIn .directory result.1) after.journal)
      fun _ => True := by
  unfold runWitnessed
  refine (checkArguments_meets trivial).bind ?_
  rintro _ _ ⟨rfl, _, _⟩
  cases prepared : prepare source twin options policy with
  | error reason => exact meets_throw trivial
  | ok task =>
    obtain ⟨rfl, rfl, rfl, rfl, _⟩ := eq_of_prepare prepared
    refine prepareRoot_narrates.bind fun _ ready narrates => ?_
    refine (walkWitnessed_narrates _ _ narrates).bind ?_
    rintro visits after ⟨complete, narrates⟩
    exact ⟨task, rfl, complete, rfl, narrates⟩

end Pass

/-! ### Telling lines apart -/

variable {task : Task} {source : Path} {file directory : SourceEntry} {line : String}

/-- An entry somewhere beneath the source. -/
def SourceEntry.IsInside (source : Path) (entry : SourceEntry) : Prop :=
  ∃ names : List Name, names ≠ [] ∧ (∀ name ∈ names, IsPlain name) ∧
    entry.path = source.extend names

/-- No line about a subdirectory reads like one about a file that is left out. -/
theorem leftOutLine_ne_of_passedBy (nonempty : source.bytes ≠ []) (inside : file.IsInside source)
    (inside' : directory.IsInside source) (passed : task.passedByLine? directory = some line) :
    line ≠ file.leftOutLine := by
  rintro rfl
  obtain ⟨names, further, plain, path_eq⟩ := inside
  obtain ⟨names', further', plain', path_eq'⟩ := inside'
  obtain ⟨behind, shown⟩ := Path.exists_text_extend nonempty plain further
  obtain ⟨behind', shown'⟩ := Path.exists_text_extend nonempty plain' further'
  unfold Task.passedByLine? at passed
  split at passed
  next =>
    have same := congrArg String.toList (Option.some.inj passed)
    simp only [SourceEntry.leftOutLine, Path.display, String.toList_append, String.toList_ofList,
      path_eq, path_eq', shown, shown'] at same
    -- Both paths begin with the source, so their first slashes are equally far from their ends.
    have noSlash : '/' ∉ Utf8.lossy source.head := by
      apply Utf8.slash_notMem_lossy
      exact notMem_of_mem_pieces (List.mem_cons_self : source.head ∈ pieces slash source.bytes)
    have first : ∀ {word : List Char} (rest : List Char), '/' ∉ word →
        (splitOn '/' (word ++ '/' :: rest)).1 = word := by
      intro word rest absent
      rw [splitOn_append_separator, splitOn_of_notMem absent]
    rw [← List.append_assoc, ← List.append_assoc] at same
    have ends := congrArg (fun text => (splitOn '/' text).1) same
    rw [first _ (by simpa using noSlash), first _ (by simpa using noSlash)] at ends
    have lengths := congrArg List.length ends
    simp only [List.length_append] at lengths
    have longer : "Skipped ".toList.length < "Skipped VCS metadata ".toList.length := by decide
    omega
  next =>
    split at passed
    next =>
      have same := congrArg String.toList (Option.some.inj passed)
      simp [SourceEntry.leftOutLine] at same
    next => cases passed

theorem isMadeLine_madeLine (path : Path) : isMadeLine (madeLine path) = true := by
  simp [isMadeLine, madeLine]

theorem isMadeLine_leftOutLine (entry : SourceEntry) : isMadeLine entry.leftOutLine = false := by
  simp [isMadeLine, SourceEntry.leftOutLine, List.isPrefixOf]

theorem isMadeLine_of_passedBy (passed : task.passedByLine? directory = some line) :
    isMadeLine line = false := by
  unfold Task.passedByLine? at passed
  split at passed
  next =>
    cases passed
    simp [isMadeLine, List.isPrefixOf]
  next =>
    split at passed
    next =>
      cases passed
      simp [isMadeLine, List.isPrefixOf]
    next => cases passed

theorem madeLine_ne_leftOutLine (path : Path) (entry : SourceEntry) :
    madeLine path ≠ entry.leftOutLine := by
  intro same
  have made := isMadeLine_madeLine path
  rw [same, isMadeLine_leftOutLine] at made
  cases made

namespace Narrates

variable {files directories : List SourceEntry} {journal : Journal}

/-- The lines that tell of files are as many as the file entries left out. -/
theorem countP_leftOut (narrates : Narrates task files directories journal)
    (nonempty : source.bytes ≠ []) (inside : ∀ entry ∈ files, entry.IsInside source)
    (inside' : ∀ entry ∈ directories, entry.IsInside source) :
    (Log.messages .debug journal.log).countP
        (fun line => line ∈ files.map SourceEntry.leftOutLine) =
      files.countP fun entry =>
        Selection.ofName task.options task.excludedFiles entry.name = .skipped := by
  obtain ⟨made, lines, _⟩ := narrates.remarked
  have told : ∀ line ∈ task.leftOutLines files, line ∈ files.map SourceEntry.leftOutLine := by
    intro line member
    obtain ⟨entry, kept, rfl⟩ := List.mem_map.1 member
    exact List.mem_map_of_mem (List.mem_of_mem_filter kept)
  have passed : ∀ line ∈ directories.filterMap task.passedByLine?,
      line ∉ files.map SourceEntry.leftOutLine := by
    intro line member about
    obtain ⟨directory, isDirectory, passed⟩ := List.mem_filterMap.1 member
    obtain ⟨file, isFile, same⟩ := List.mem_map.1 about
    exact leftOutLine_ne_of_passedBy nonempty (inside file isFile) (inside' directory isDirectory)
      passed same.symm
  have other : ∀ line ∈ made.map madeLine, line ∉ files.map SourceEntry.leftOutLine := by
    intro line member about
    obtain ⟨path, _, rfl⟩ := List.mem_map.1 member
    obtain ⟨file, _, same⟩ := List.mem_map.1 about
    exact madeLine_ne_leftOutLine path file same.symm
  -- The log holds lines of three kinds in some order, and those of one kind are counted.
  rw [lines.countP_eq, List.countP_append, List.countP_append,
    List.countP_eq_length.2 (by simpa using told), List.countP_eq_zero.2 (by simpa using passed),
    List.countP_eq_zero.2 (by simpa using other), Task.leftOutLines, List.length_map,
    List.countP_eq_length_filter]
  rfl

/-- The lines about directories made are as many as the directories counted, but for the root. -/
theorem countP_made (narrates : Narrates task files directories journal) :
    (Log.messages .debug journal.log).countP isMadeLine =
        (if task.options.dryRun then 0 else journal.report.directories - 1) ∧
      (task.options.dryRun = false → 1 ≤ journal.report.directories) := by
  obtain ⟨made, lines, counted⟩ := narrates.remarked
  have left : ∀ line ∈ task.leftOutLines files, isMadeLine line = false := by
    intro line member
    obtain ⟨entry, _, rfl⟩ := List.mem_map.1 member
    exact isMadeLine_leftOutLine entry
  have passed : ∀ line ∈ directories.filterMap task.passedByLine?, isMadeLine line = false := by
    intro line member
    obtain ⟨_, _, passed⟩ := List.mem_filterMap.1 member
    exact isMadeLine_of_passedBy passed
  have said : ∀ line ∈ made.map madeLine, isMadeLine line = true := by
    intro line member
    obtain ⟨path, _, rfl⟩ := List.mem_map.1 member
    exact isMadeLine_madeLine path
  have total : (Log.messages .debug journal.log).countP isMadeLine = made.length := by
    rw [lines.countP_eq, List.countP_append, List.countP_append,
      List.countP_eq_zero.2 (by simpa using left), List.countP_eq_zero.2 (by simpa using passed),
      List.countP_eq_length.2 said, List.length_map]
    omega
  rw [total]
  cases dry : task.options.dryRun with
  | true =>
    rw [dry, if_pos rfl] at counted
    simp [counted]
  | false =>
    rw [dry, if_neg (by decide)] at counted
    simp [counted]

end Narrates

/-! ### Whole passes -/

variable {fs : FileSystem} {twin : Path} {options : Options} {policy : Policy} {report : Report}

/-- A log that tells what the report of a pass over these file entries tells: the warnings and the
records in order, each file entry left out, and each directory made but the root of the twin. -/
structure Log.Tells (task : Task) (files : List SourceEntry) (report : Report)
    (log : List Log.Entry) : Prop where
  warned : messages .warn log = report.warnings
  announced : messages .info log = report.records.map (·.announcement task.options.dryRun)
  leftOut : (messages .debug log).countP (fun line => line ∈ files.map SourceEntry.leftOutLine) =
    files.countP fun entry =>
      Selection.ofName task.options task.excludedFiles entry.name = .skipped
  made : (messages .debug log).countP isMadeLine =
    if task.options.dryRun then 0 else report.directories - 1
  root : task.options.dryRun = false → 1 ≤ report.directories

/-- Wherever a pass succeeds, a dry one or a real one, its log tells what its report tells. -/
theorem log_tells (wellFormed : fs.WellFormed)
    (succeeded : (deriveWith fs source twin options policy).result = .ok report) :
    ∃ task visits after, Pass.prepare source twin options policy = .ok task ∧
      EStateM.run (Pass.runWitnessed source twin options policy) { fileSystem := fs } =
        .ok (visits, report) after ∧
      (∀ visit ∈ visits, visit.Complete) ∧
      Log.Tells task (Pass.metIn .file visits) report
        (deriveWith fs source twin options policy).log := by
  obtain ⟨after, ended⟩ := exists_run_of_deriveWith succeeded
  have nonempty : source.bytes ≠ [] := by
    obtain ⟨_, _, _, _, stages⟩ := Pass.run_eq_ok_iff.1 ended
    obtain ⟨_, isDirectory, _⟩ := Pass.run_checkArguments_eq_ok_iff.1 stages.checked
    exact (FileSystem.checkText_eq_ok_iff.1
      (FileSystem.isDirectory_iff.1 isDirectory).1).2.1
  have log_eq : (deriveWith fs source twin options policy).log = after.journal.log := by
    rw [deriveWith_of_run ended]
  rw [Pass.run_eq_witnessed] at ended
  obtain ⟨⟨visits, counted⟩, last, begun, rest⟩ := Pass.run_bind_eq_ok_iff.1 ended
  cases rest
  obtain ⟨task, prepared, complete, report_eq, narrates⟩ := Pass.runWitnessed_narrates.of_run begun
  have report_eq : report = after.journal.report := report_eq
  have reaches : Pass.Meets (Pass.runWitnessed source twin options policy) _ _ _ :=
    Pass.runWitnessed_reaches wellFormed
  have reached := reaches.of_run begun
  have inside : ∀ kind, ∀ entry ∈ Pass.metIn kind visits, entry.IsInside source := by
    intro kind entry member
    obtain ⟨visit, isVisit, met⟩ := List.mem_flatMap.1 member
    obtain ⟨names, name, plain, path_eq⟩ := (reached visit isVisit).exists_of_met met
    exact ⟨names ++ [name], by simp, plain, path_eq⟩
  have leftOut := narrates.countP_leftOut nonempty (inside .file) (inside .directory)
  obtain ⟨made, root⟩ := narrates.countP_made
  rw [log_eq]
  refine ⟨task, visits, _, prepared, begun, complete, ?_⟩
  rw [report_eq]
  exact ⟨narrates.warned, narrates.announced, leftOut, made, root⟩

theorem log_tells_smallTree : ∃ report,
    (deriveWith smallTree (.ofString "s") (.ofString "d") {} fun _ => true).result = .ok report ∧
    ∃ task visits after, Pass.prepare (.ofString "s") (.ofString "d") {} (fun _ => true) =
        .ok task ∧
      EStateM.run (Pass.runWitnessed (.ofString "s") (.ofString "d") {} fun _ => true)
        { fileSystem := smallTree } = .ok (visits, report) after ∧
      (∀ visit ∈ visits, visit.Complete) ∧
      Log.Tells task (Pass.metIn .file visits) report
        (deriveWith smallTree (.ofString "s") (.ofString "d") {} fun _ => true).log := by
  obtain ⟨report, succeeded⟩ := smallTree_succeeds
  exact ⟨report, succeeded, log_tells (by decide) succeeded⟩

end TwinTree
