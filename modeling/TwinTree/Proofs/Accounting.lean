import TwinTree.Proofs.Pass.Lockstep
import TwinTree.Proofs.Tally

/-!
# What a report counts

The counters of a report, its warnings and its records agree with the entries met in the
directories visited, whatever the file system holds and under any options (`report_accounts`).
-/
namespace TwinTree

open FileSystem

namespace Pass

variable {task : Task} {tally : Tally} {state : State} {directory path : Path}
  {entry : SourceEntry}

/-! ### What the steps of a pass count -/

/-- Accounting for a directory of the twin changes nothing in a report but the count of them. -/
theorem materialize_keeps {Holds : Report → Prop}
    (further : ∀ {report}, Holds report → Holds report.addDirectory)
    (holds : Holds state.journal.report) :
    Meets (materialize task path) state (fun _ after => Holds after.journal.report)
      fun _ => True := by
  unfold materialize
  apply meets_isMaterialized_bind
  split
  next => exact meets_pure holds
  next unknown =>
    refine meets_requireSafe_bind (fun _ => ?_) trivial
    split
    next =>
      apply meets_modify_bind
      exact meets_modify (further holds)
    next =>
      refine (ensureDirectory_meets (by simpa using unknown) trivial).bind ?_
      rintro _ after ⟨rfl, _, _, same⟩
      apply meets_modify_bind
      refine meets_modify (further ?_)
      rw [← same] at holds
      exact holds

theorem finish_accounts {destination : Path} {content : List UInt8} {stripping : Bool}
    (awaits : Awaits task.options.dryRun tally state.journal.report) :
    Meets (finish task path destination content stripping) state
      (fun _ after => Accounts task.options.dryRun (tally + { selected := 1 })
        after.journal.report) fun _ => True := by
  cases dry : task.options.dryRun with
  | true =>
    rw [dry] at awaits
    rw [finish_of_dry dry]
    apply meets_modify_bind
    exact meets_modify (awaits.addPlanned _)
  | false =>
    rw [dry] at awaits
    rw [finish_of_real dry]
    apply meets_modify_bind
    refine write_meets_journal.bind ?_
    rintro _ after ⟨same, _⟩
    refine meets_modify (Awaits.addCopied _ ?_)
    rw [same]
    exact awaits

theorem copy_accounts (awaits : Awaits task.options.dryRun tally state.journal.report) :
    Meets (copy task directory path) state
      (fun _ after => Accounts task.options.dryRun (tally + { selected := 1 })
        after.journal.report) fun _ => True := by
  refine meets_copy (fun _ => materialize_keeps .addDirectory awaits) awaits
    (fun _ _ => trivial) ?_
  exact fun _ _ awaits _ => finish_accounts awaits

/-- A link without content costs a warning and counts as skipped. -/
theorem hasContent_counts :
    Meets (hasContent entry) state
      (fun has after => (has = true ↔ entry.HasContent state.fileSystem) ∧
        if has then after.journal.report = state.journal.report else
          ∃ warning, after.journal.report = (state.journal.report.addWarning warning).addSkipped)
      fun _ => True := by
  have asks : Meets (hasContent entry) state
      (fun has _ => has = true ↔ entry.HasContent state.fileSystem) fun _ => True :=
    (hasContent_meets trivial).mono (fun _ _ => And.right) fun _ => id
  have counts : Meets (hasContent entry) state
      (fun has after => if has then after.journal.report = state.journal.report else
        ∃ warning, after.journal.report = (state.journal.report.addWarning warning).addSkipped)
      fun _ => True := by
    unfold hasContent
    split
    next => exact meets_pure rfl
    next =>
      refine meets_ask_bind (fun target _ => ?_) trivial
      split
      next => exact meets_pure rfl
      next =>
        apply meets_modify_bind
        apply meets_modify_bind
        exact meets_pure ⟨_, rfl⟩
  exact (asks.and counts).forget

theorem handleFile_accounts
    (accounts : Accounts task.options.dryRun tally state.journal.report) :
    Meets (handleFile task directory entry) state
      (fun _ after => Accounts task.options.dryRun
        (tally + task.tallyTurns [(entry, state.fileSystem.stat entry.path)])
        after.journal.report) fun _ => True := by
  unfold handleFile
  apply meets_modify_bind
  split
  next unrecognized =>
    rw [Task.tallyTurns_of_unrecognized unrecognized]
    exact meets_pure accounts.unrecognized
  next skipped =>
    rw [Task.tallyTurns_of_skipped skipped]
    apply meets_modify_bind
    exact meets_modify accounts.leftOut
  next selected =>
    rw [Task.tallyTurns_of_selected selected]
    apply meets_modify_bind
    refine Meets.bind hasContent_counts ?_
    rintro has asked ⟨content, counted⟩
    cases has with
    | true =>
      rw [if_pos (content.1 rfl)]
      rw [if_pos rfl] at counted
      exact copy_accounts ⟨_, accounts, counted⟩
    | false =>
      rw [if_neg fun holds => Bool.false_ne_true (content.2 holds)]
      rw [if_neg Bool.false_ne_true] at counted
      obtain ⟨warning, counted⟩ := counted
      refine meets_pure ?_
      rw [counted]
      exact accounts.hollow warning

theorem admits_accounts (accounts : Accounts task.options.dryRun tally state.journal.report) :
    Meets (admits task entry) state
      (fun _ after => Accounts task.options.dryRun
        (tally + { unfollowed := [entry].countP task.isUnfollowed }) after.journal.report)
      fun _ => True := by
  unfold admits
  split
  next known =>
    apply meets_modify_bind
    apply meets_pure
    simpa [Task.isUnfollowed, known] using accounts
  next known =>
  split
  next excluded =>
    apply meets_modify_bind
    apply meets_pure
    simpa [Task.isUnfollowed, excluded] using accounts
  next excluded =>
  split
  next link =>
    apply meets_modify_bind
    apply meets_pure
    simpa [Task.isUnfollowed, known, excluded, link] using accounts.unfollowed _
  next link =>
    apply meets_pure
    simpa [Task.isUnfollowed, link] using accounts

/-- Listing a directory warns of each special entry. -/
theorem list_accounts (accounts : Accounts task.options.dryRun tally state.journal.report) :
    Meets (list directory) state
      (fun listing after => ∃ entries,
        state.fileSystem.readDirectory directory = .ok entries ∧
        listing.directories = (SourceEntry.listed state.fileSystem directory .directory entries).map
          (.ofEntry directory) ∧
        listing.files = (SourceEntry.listed state.fileSystem directory .file entries).map
          (.ofEntry directory) ∧
        Accounts task.options.dryRun
          (tally +
            { special := (SourceEntry.ofKind state.fileSystem directory .special entries).length })
          after.journal.report) fun _ => True := by
  unfold Meets
  rw [run_list]
  cases state.fileSystem.readDirectory directory with
  | error => exact trivial
  | ok entries =>
    have warned := accounts.special (specialWarnings state.fileSystem directory entries)
    rw [specialWarnings, List.length_map] at warned
    exact ⟨entries, rfl, rfl, rfl, warned⟩

/-! ### Walks -/

theorem turns_accounts (files : List SourceEntry)
    (accounts : Accounts task.options.dryRun tally state.journal.report) :
    Meets (files.foldlM (takeTurn task directory) []) state
      (fun turns after => turns.map Prod.fst = files ∧
        Accounts task.options.dryRun (tally + task.tallyTurns turns) after.journal.report)
      fun _ => True := by
  let invariant : List SourceEntry → List (SourceEntry × Except Failure Object) → State → Prop :=
    fun done turns after => turns.map Prod.fst = done ∧
      Accounts task.options.dryRun (tally + task.tallyTurns turns) after.journal.report
  have started : invariant [] [] state := ⟨rfl, accounts⟩
  refine meets_foldlM started ?_
  rintro done entry _ _ turns state ⟨rfl, accounts⟩
  apply meets_fileSystem_bind
  refine (handleFile_accounts accounts).bind fun _ after accounts => meets_pure ⟨by simp, ?_⟩
  rwa [Task.tallyTurns_append, ← Tally.add_assoc]

/-- What an action adds to a report agrees with what has been met in the visits that it gives. -/
def AccountsForVisits (task : Task) (action : Pass (List Visit)) : Prop :=
  ∀ ⦃tally state⦄, Accounts task.options.dryRun tally state.journal.report →
    Meets action state
      (fun visits after => (∀ visit ∈ visits, visit.Complete) ∧
        Accounts task.options.dryRun (tally + task.tally visits) after.journal.report)
      fun _ => True

/-- The subdirectories that are admitted are walked, and the links among them warned of. -/
theorem directories_accounts {depth : Nat} {visit : Visit} (directories : List SourceEntry)
    (deeper : ∀ directory, AccountsForVisits task (walkWitnessed task depth directory))
    (accounts : Accounts task.options.dryRun tally state.journal.report) :
    Meets (directories.foldlM (fun visits entry => do
        if ← admits task entry then
          let inner ← walkWitnessed task depth entry.path
          return visits ++ inner
        else return visits) [visit]) state
      (fun visits after => ∃ inner, visits = visit :: inner ∧ (∀ visit ∈ inner, visit.Complete) ∧
        Accounts task.options.dryRun
          (tally + { unfollowed := directories.countP task.isUnfollowed } + task.tally inner)
          after.journal.report) fun _ => True := by
  let invariant : List SourceEntry → List Visit → State → Prop := fun done visits after =>
    ∃ inner, visits = visit :: inner ∧ (∀ visit ∈ inner, visit.Complete) ∧
      Accounts task.options.dryRun
        (tally + { unfollowed := done.countP task.isUnfollowed } + task.tally inner)
        after.journal.report
  have started : invariant [] [visit] state := ⟨[], rfl, by simp, accounts⟩
  refine meets_foldlM started ?_
  rintro done entry _ _ _ state ⟨inner, rfl, completed, accounts⟩
  refine (admits_accounts accounts).bind fun admitted asked accounts => ?_
  have counted : Accounts task.options.dryRun
      (tally + { unfollowed := (done ++ [entry]).countP task.isUnfollowed } + task.tally inner)
      asked.journal.report := by
    rw [Tally.add_right_comm, Tally.add_assoc tally] at accounts
    rw [List.countP_append]
    exact accounts
  split
  next =>
    refine (deeper _ counted).bind fun further after ⟨completed', accounts⟩ => meets_pure ?_
    refine ⟨inner ++ further, rfl, List.forall_mem_append.2 ⟨completed, completed'⟩, ?_⟩
    rwa [Task.tally_append, ← Tally.add_assoc]
  next => exact meets_pure ⟨inner, rfl, completed, counted⟩

/-- What a walk adds to a report agrees with what it has met. -/
theorem walkWitnessed_accounts (depth : Nat) (directory : Path) :
    AccountsForVisits task (walkWitnessed task depth directory) := by
  induction depth generalizing directory with
  | zero => exact fun _ _ _ => meets_throw trivial
  | succ depth ih =>
    intro tally state accounts
    unfold walkWitnessed
    have accounted : Meets (materialize task (Placement.directory task.source task.twin directory))
        state (fun _ after => Accounts task.options.dryRun tally after.journal.report)
        fun _ => True := materialize_keeps .addDirectory accounts
    refine accounted.bind fun _ ready accounts => ?_
    apply meets_fileSystem_bind
    refine (list_accounts accounts).bind ?_
    rintro listing listed ⟨entries, read, directories, files, accounts⟩
    refine (turns_accounts listing.files accounts).bind ?_
    rintro turns handled ⟨had, accounts⟩
    refine (directories_accounts listing.directories ih accounts).mono ?_ fun _ => id
    rintro _ after ⟨inner, rfl, completed, accounts⟩
    let visit : Visit := ⟨directory, ready.fileSystem, turns⟩
    have complete : visit.Complete := Visit.complete_of_listed read (had.trans files)
    refine ⟨List.forall_mem_cons.2 ⟨complete, completed⟩, ?_⟩
    have unfollowed : listing.directories.countP task.isUnfollowed =
        (visit.met .directory).countP task.isUnfollowed := by
      rw [directories, Visit.met_of_readDirectory read]
      exact ((SourceEntry.listed_perm ..).map _).countP_eq _
    have special : (visit.met .special).length =
        (SourceEntry.ofKind ready.fileSystem directory .special entries).length := by
      rw [Visit.met_of_readDirectory read, List.length_map]
    have sum : tally + task.tally (visit :: inner) =
        tally + { special := (visit.met .special).length } + task.tallyTurns turns +
          { unfollowed := (visit.met .directory).countP task.isUnfollowed } + task.tally inner := by
      rw [← List.singleton_append, Task.tally_append, Task.tally_of_complete complete]
      ext <;> simp [visit] <;> omega
    rwa [sum, special, ← unfollowed]

theorem prepareRoot_accounts {twin : Path} {dryRun : Bool} {fs : FileSystem} :
    Meets (prepareRoot twin dryRun) { fileSystem := fs }
      (fun _ after => Accounts dryRun {} after.journal.report) fun _ => True := by
  have empty : Accounts dryRun {} {} := ⟨rfl, rfl, rfl, rfl, by simp, by simp, by simp⟩
  cases dryRun with
  | true => exact empty
  | false =>
    refine prepareRoot_meets_journal.mono (fun _ after ⟨_, _, journal⟩ => ?_) fun _ => id
    rw [journal]
    exact empty.addDirectory

theorem runWitnessed_accounts {source twin : Path} {options : Options} {policy : Policy}
    {fs : FileSystem} :
    Meets (runWitnessed source twin options policy) { fileSystem := fs }
      (fun result _ => ∃ task, prepare source twin options policy = .ok task ∧
        (∀ visit ∈ result.1, visit.Complete) ∧
        Accounts options.dryRun (task.tally result.1) result.2) fun _ => True := by
  unfold runWitnessed
  refine (checkArguments_meets trivial).bind ?_
  rintro _ _ ⟨rfl, _, _⟩
  cases prepared : prepare source twin options policy with
  | error reason => exact meets_throw trivial
  | ok task =>
    obtain ⟨rfl, rfl, rfl, rfl, _⟩ := eq_of_prepare prepared
    refine prepareRoot_accounts.bind fun _ ready accounts => ?_
    refine (walkWitnessed_accounts _ _ accounts).bind ?_
    rintro visits after ⟨complete, accounts⟩
    rw [Tally.empty_add] at accounts
    exact ⟨task, rfl, complete, accounts⟩

end Pass

variable {fs : FileSystem} {source twin : Path} {options : Options} {policy : Policy}
  {report : Report}

/-- Wherever a pass succeeds, a dry one or a real one, the counters of its report, its warnings and
its records agree with the entries met in the directories it has visited. -/
theorem report_accounts
    (succeeded : (deriveWith fs source twin options policy).result = .ok report) :
    ∃ task visits after, Pass.prepare source twin options policy = .ok task ∧
      EStateM.run (Pass.run source twin options policy) { fileSystem := fs } = .ok report after ∧
      EStateM.run (Pass.runWitnessed source twin options policy) { fileSystem := fs } =
        .ok (visits, report) after ∧
      (∀ visit ∈ visits, visit.Complete) ∧
      Accounts options.dryRun (task.tally visits) report := by
  obtain ⟨after, ended⟩ := exists_run_of_deriveWith succeeded
  have witnessed := ended
  rw [Pass.run_eq_witnessed] at witnessed
  obtain ⟨⟨visits, counted⟩, last, begun, rest⟩ := Pass.run_bind_eq_ok_iff.1 witnessed
  cases rest
  obtain ⟨task, prepared, complete, accounts⟩ := Pass.runWitnessed_accounts.of_run begun
  exact ⟨task, visits, after, prepared, ended, begun, complete, accounts⟩

theorem report_accounts_smallTree : ∃ report,
    (deriveWith smallTree (.ofString "s") (.ofString "d") {} fun _ => true).result = .ok report ∧
    ∃ task visits after, Pass.prepare (.ofString "s") (.ofString "d") {} (fun _ => true) =
        .ok task ∧
      EStateM.run (Pass.run (.ofString "s") (.ofString "d") {} fun _ => true)
        { fileSystem := smallTree } = .ok report after ∧
      EStateM.run (Pass.runWitnessed (.ofString "s") (.ofString "d") {} fun _ => true)
        { fileSystem := smallTree } = .ok (visits, report) after ∧
      (∀ visit ∈ visits, visit.Complete) ∧ Accounts false (task.tally visits) report := by
  obtain ⟨report, succeeded⟩ := smallTree_succeeds
  exact ⟨report, succeeded, report_accounts succeeded⟩

end TwinTree
