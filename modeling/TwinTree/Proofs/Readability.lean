import TwinTree.Proofs.Pass.Stopping
import TwinTree.Proofs.Pass.System
import TwinTree.Proofs.PolicyEffect
import TwinTree.Proofs.Salvage

/-!
# What stops a pass

A real pass that makes a twin where nothing was ends in an error only where the system refuses it
something or it cannot read a selected file, and then in that of the first one it comes to
(`unreadable_content_stops`). A path
that ends in `.` is no such twin: no directory can be made under it (`refused_in_dot`).
-/
namespace TwinTree

open FileSystem

/-- A pass comes to a file before another one where the names of its directory come first, or its
own name in the same directory. -/
def SourceFile.ComesBefore (first second : SourceFile) : Prop :=
  List.Lex (fun name other => comesBefore (Utf8.lossy name) (Utf8.lossy other)) first.names
      second.names ∨
    first.names = second.names ∧ comesBefore (Utf8.lossy first.name) (Utf8.lossy second.name) = true

variable {task : Task} {fs : FileSystem} {file other : SourceFile}

/-- Names that are text come in the order of what they show. -/
theorem SourceFile.Earlier.comesBefore (earlier : file.Earlier other)
    (isText : ∀ name ∈ file.name :: file.names, (Utf8.decode? name).isSome = true)
    (isText' : ∀ name ∈ other.name :: other.names, (Utf8.decode? name).isSome = true) :
    file.ComesBefore other := by
  rw [List.forall_mem_cons] at isText isText'
  rcases earlier with lex | ⟨same, precedes⟩
  · exact .inl (lex_comesBefore_of_lex lex isText.2 isText'.2)
  · exact .inr ⟨same, comesBefore_of_precedes precedes isText.1 isText'.1⟩

theorem Task.Unreadable.isText (unreadable : task.Unreadable fs file)
    (readable : NamesReadable fs task.source) :
    ∀ name ∈ file.name :: file.names, (Utf8.decode? name).isSome = true := by
  obtain ⟨_, _, object, standing, _⟩ := unreadable
  intro name member
  exact readable (file.name :: file.names.reverse) object standing name (by simpa using member)

theorem Task.visits_nil (isDirectory : fs.isDirectory task.source = true) : task.Visits fs [] := by
  obtain ⟨_, left, there, leads, directory⟩ := isDirectory_iff.1 isDirectory
  refine ⟨?_, nofun⟩
  rw [stand, home, prospect_of_leads leads]
  exact directory

section Fresh

variable (wellFormed : fs.WellFormed) (isDirectory : fs.isDirectory task.source = true)
  (fresh : fs.Fresh task.twin) (solid : ¬ task.twin.EndsInDot) (fits : task.Fits fs)
  (apart : fs.overlaps task.source task.twin = false)

include wellFormed isDirectory fresh solid fits

/-- A fresh root can be made. -/
theorem Task.exists_createDirectories :
    ∃ made, fs.createDirectories task.twin = (made, .ok ()) := by
  obtain ⟨name, here, vacancy⟩ := fresh.exists_vacancy wellFormed
  have short := (fits.directories [] (task.visits_nil isDirectory)).2.1
  exact ⟨_, vacancy.createDirectories_eq wellFormed solid
    (Placement.directory_self task.source task.twin ▸ short)⟩

include apart

/-- A walk that makes a fresh twin finds what it takes for granted. -/
theorem site_of_fresh (real : task.options.dryRun = false)
    (standard : task.options.renamings = ({} : Options).renamings)
    (descends : .parent ∉ task.twin.components) (readable : NamesReadable fs task.source)
    (undisturbed : Undisturbed fs task.source task.twin) (uncontested : task.Uncontested fs) :
    Site task fs := by
  obtain ⟨made, created⟩ :=
    task.exists_createDirectories wellFormed isDirectory fresh solid fits
  obtain ⟨name, here, vacancy⟩ := fresh.exists_vacancy wellFormed
  have replaced : PlainRenamings task.options.renamings := by
    rw [standard]
    decide
  obtain ⟨grounded, _⟩ :=
    grounded_of_created wellFormed (anchored_of_descends wellFormed descends) replaced
      isDirectory apart fun _ => by
      rw [created]
      exact .inr rfl
  obtain ⟨accepted, _⟩ := isDirectory_iff.1 isDirectory
  have vacant : fs.get? (task.root fs) = none := by
    rw [Task.root, vacancy.prospect_eq wellFormed]
    exact vacancy.missing
  exact { grounded, undisturbed, real, readable, standard, solid, vacant, fits, uncontested
          source_ne_nil := (checkText_eq_ok_iff.1 accepted).2.1
          twin_ne_nil := vacancy.nonempty }

end Fresh

theorem building_of_prepared {state : State} (site : Site task fs)
    (prepared : Pass.Prepared task fs state) : Building task fs state where
  sound := sound_of_prepared site.grounded prepared
  builds := by
    have visits : task.Visits fs [] := ⟨site.grounded.source, nofun⟩
    have evolves := createDirectories_evolves site.grounded.wellFormed site.grounded.anchored
    rw [(prepared.created site.real).1] at evolves
    exact evolves.mono fun _ _ made => .directory visits made

namespace Pass

/-- A pass that makes a fresh twin ends well when all selected files can be read, and otherwise in
the error of the first one that cannot. -/
theorem perform_ends (site : Site task fs) (isDirectory : fs.isDirectory task.source = true)
    (apart : fs.overlaps task.source task.twin = false) (fresh : fs.Fresh task.twin)
    (prepared : prepare task.source task.twin task.options task.policy = .ok task) :
    Ends (perform task.source task.twin task.options task.policy) { fileSystem := fs }
      (fun _ _ => ∀ file, ¬ task.Unreadable fs file) (task.StoppedBeneath fs []) := by
  have wellFormed := site.grounded.wellFormed
  have checks : Ends (checkArguments task.source task.twin) { fileSystem := fs }
      (fun _ after => after = { fileSystem := fs }) (task.StoppedBeneath fs []) := by
    obtain ⟨name, here, vacancy⟩ := fresh.exists_vacancy wellFormed
    exact ends_of_run (run_checkArguments_eq_ok_iff.2 ⟨rfl, isDirectory, apart, fun target =>
      vacancy.lstat_ne_ok wellFormed site.solid (.link target)⟩) rfl
  have roots : Ends (prepareRoot task.twin task.options.dryRun) { fileSystem := fs }
      (fun _ => Building task fs) (task.StoppedBeneath fs []) := by
    obtain ⟨made, created⟩ :=
      task.exists_createDirectories wellFormed isDirectory fresh site.solid site.fits
    have rooted := site.real ▸ run_prepareRoot created
    exact ends_of_run rooted (building_of_prepared site (prepareRoot_meets.of_run rooted))
  unfold perform
  refine checks.bind ?_
  rintro _ _ rfl
  rw [prepared]
  refine roots.bind fun _ ready building => ?_
  have deep : pathLimit < depthLimit + task.source.bytes.length := by
    rw [depthLimit]
    omega
  refine (walk_ends site depthLimit building (task.visits_nil isDirectory) deep
    (building.sound.root site.real).1).mono ?_ fun _ => id
  rintro _ _ ⟨_, _, none⟩ file unreadable
  exact none file unreadable (List.nil_prefix ..)

end Pass

/-- A real pass over a source whose names are text, to a place where nothing is, ends in an error
exactly when the system refuses one of its calls or a selected file cannot be read: a link that
leads nowhere, or a file, itself or behind a link, that is not UTF-8. If no call is refused, the
error gives the first such file that the pass comes to. -/
theorem unreadable_content_stops {source twin : Path} {options : Options} {policy : Policy}
    {refuses : Nat → Call → Option String}
    (wellFormed : fs.WellFormed) (prepared : Pass.prepare source twin options policy = .ok task)
    (isDirectory : fs.isDirectory source = true) (readable : NamesReadable fs source)
    (standard : options.renamings = ({} : Options).renamings) (real : options.dryRun = false)
    (fresh : fs.Fresh twin) (descends : .parent ∉ twin.components) (solid : ¬ twin.EndsInDot)
    (apart : fs.overlaps source twin = false) (fits : task.Fits fs)
    (undisturbed : Undisturbed fs source twin) (uncontested : task.Uncontested fs) :
    ((∃ error, (deriveIn { refuses } fs source twin options policy).result = .error error) ↔
      (Pass.passCourse source twin options policy).MeetsRefusal { fileSystem := fs } refuses ∨
        ∃ file, task.Unreadable fs file) ∧
    ∀ error, (deriveIn { refuses } fs source twin options policy).result = .error error →
      (Pass.passCourse source twin options policy).MeetsRefusal { fileSystem := fs } refuses ∨
      ∃ file, task.Unreadable fs file ∧
        (∃ reason, error = .fileNotRead (task.path file) reason) ∧
        ∀ other, task.Unreadable fs other → other = file ∨ file.ComesBefore other := by
  by_cases refused : (Pass.passCourse source twin options policy).MeetsRefusal
    { fileSystem := fs } refuses
  · have stops := exists_error_of_refused refused
    simp only [refused, true_or, implies_true, and_true, iff_true]
    exact stops
  rw [deriveIn_of_granted refused]
  simp only [refused, false_or]
  obtain ⟨rfl, rfl, rfl, rfl, _⟩ := Pass.eq_of_prepare prepared
  have site := site_of_fresh wellFormed isDirectory fresh solid fits apart real standard descends
    readable undisturbed uncontested
  have ends := Pass.perform_ends site isDirectory apart fresh prepared
  unfold Pass.Ends at ends
  rw [deriveWith_eq]
  split at ends
  next ended =>
    rw [ended]
    refine ⟨⟨nofun, ?_⟩, nofun⟩
    rintro ⟨file, unreadable⟩
    exact absurd unreadable (ends file)
  next error after ended =>
    rw [ended]
    obtain ⟨file, first, reason, rfl⟩ := ends
    refine ⟨⟨fun _ => ⟨file, first.unreadable⟩, fun _ => ⟨_, rfl⟩⟩, ?_⟩
    rintro _ ⟨⟩
    refine ⟨file, first.unreadable, ⟨reason, rfl⟩, fun other unreadable => ?_⟩
    refine (first.first other unreadable (List.nil_prefix ..)).imp_right fun earlier => ?_
    exact earlier.comesBefore (first.unreadable.isText readable) (unreadable.isText readable)

/-! ### Sources without subdirectories -/

section Flat

variable (wellFormed : fs.WellFormed)
  (flat : ∀ entry ∈ fs.entries, entry.2.isDirectory = true → entry.1 = task.home fs)

include flat

theorem Task.Visits.eq_nil {trail : List Name} (visits : task.Visits fs trail) : trail = [] := by
  have standing := visits.1
  rw [stand] at standing
  cases location_eq : trail.reverse ++ task.home fs with
  | nil => simpa using (List.append_eq_nil_iff.1 location_eq).1
  | cons =>
    rw [location_eq] at standing
    have same := flat _ (mem_of_find? standing) rfl
    rw [← location_eq] at same
    simpa using same

theorem Task.uncontested_of_flat : task.Uncontested fs := by
  intro file _ visits
  have impossible := visits.eq_nil flat
  simp [renamed] at impossible

include wellFormed

theorem Task.fits_of_flat
    (directory : (task.source.extend []).bytes.length ≤ pathLimit ∧
      (Placement.directory task.source task.twin (task.source.extend [])).bytes.length ≤
        pathLimit ∧
      ((fs.absolutize task.twin).extend []).bytes.length ≤ pathLimit)
    (files : ∀ entry ∈ fs.entries,
      (task.path ⟨[], entry.1.headI⟩).bytes.length ≤ pathLimit ∧
      (task.record ⟨[], entry.1.headI⟩).destination.bytes.length ≤ pathLimit ∧
      ((fs.absolutize task.twin).extend (task.renamed [] entry.1.headI)).bytes.length ≤
        pathLimit) : task.Fits fs where
  directories trail visits := by
    obtain rfl := visits.eq_nil flat
    exact directory
  files file gathers := by
    obtain ⟨names, name⟩ := file
    obtain rfl : names = [] := gathers.1.eq_nil flat
    obtain ⟨object, standing, _⟩ := task.exists_standing_of_mem_taken wellFormed gathers.2
    exact files _ (mem_of_find? standing)

end Flat

/-- The task of copying `s` as the default options say. -/
def plainTask (twin : Path) : Task where
  source := .ofString "s"
  twin := twin
  options := {}
  policy := fun _ => true
  excludedDirectories := none
  excludedFiles := none
  rules := Rule.standard {}

theorem prepare_plainTask (twin : Path) :
    Pass.prepare (.ofString "s") twin {} (fun _ => true) = .ok (plainTask twin) := rfl

theorem unreadable_content_stops_illFormedTree : ∃ error file,
    (deriveIn {} illFormedTree (.ofString "s") (.ofString "d") {} fun _ => true).result =
      .error error ∧
    (plainTask (.ofString "d")).Unreadable illFormedTree file ∧
    ∃ reason, error = .fileNotRead ((plainTask (.ofString "d")).path file) reason := by
  have flat : ∀ entry ∈ illFormedTree.entries, entry.2.isDirectory = true →
      entry.1 = (plainTask (.ofString "d")).home illFormedTree := by decide
  have fits : (plainTask (.ofString "d")).Fits illFormedTree :=
    Task.fits_of_flat (by decide) flat (by decide) (by decide)
  have fresh : illFormedTree.Fresh (.ofString "d") :=
    ⟨⟨[]⟩, [0x64], by decide, by decide, .inl rfl, by decide⟩
  have unreadable : (plainTask (.ofString "d")).Unreadable illFormedTree
      ⟨[], [0x62, 0x2E, 0x68]⟩ :=
    ⟨⟨by decide, nofun⟩, by decide, _, rfl, .inr ⟨[0xFF], 0o644, by decide, by decide⟩⟩
  obtain ⟨stops, first⟩ := unreadable_content_stops (by decide) (prepare_plainTask _) (by decide)
    (namesReadable_of_entries (by decide)) rfl rfl fresh (by decide) (by decide) (by decide) fits
    undisturbed_illFormedTree (Task.uncontested_of_flat flat)
  obtain ⟨error, failed⟩ := stops.2 (.inr ⟨_, unreadable⟩)
  obtain ⟨file, trouble, reason, _⟩ := (first error failed).resolve_left Pass.not_meetsRefusal
  exact ⟨error, file, failed, trouble, reason⟩

/-- Everything is as it should be, but the path of the twin ends in `.`. -/
theorem refused_in_dot : staticTree.WellFormed ∧
    Pass.prepare (.ofString "s") (.ofString "d/.") {} (fun _ => true) =
      .ok (plainTask (.ofString "d/.")) ∧
    staticTree.isDirectory (.ofString "s") = true ∧ NamesReadable staticTree (.ofString "s") ∧
    staticTree.Fresh (.ofString "d/.") ∧ .parent ∉ (Path.ofString "d/.").components ∧
    staticTree.overlaps (.ofString "s") (.ofString "d/.") = false ∧
    (plainTask (.ofString "d/.")).Fits staticTree ∧
    Undisturbed staticTree (.ofString "s") (.ofString "d/.") ∧
    (plainTask (.ofString "d/.")).Uncontested staticTree ∧
    (¬ ∃ file, (plainTask (.ofString "d/.")).Unreadable staticTree file) ∧
    ∃ reason, (deriveWith staticTree (.ofString "s") (.ofString "d/.") {} fun _ => true).result =
      .error (.destinationNotReady (.ofString "d/.") reason) := by
  have flat : ∀ entry ∈ staticTree.entries, entry.2.isDirectory = true →
      entry.1 = (plainTask (.ofString "d/.")).home staticTree := by decide
  have fits : (plainTask (.ofString "d/.")).Fits staticTree :=
    Task.fits_of_flat (by decide) flat (by decide) (by decide)
  refine ⟨by decide, rfl, by decide, namesReadable_of_entries (by decide),
    ⟨⟨[]⟩, [0x64], by decide, by decide, .inl rfl, by decide⟩, by decide, by decide, fits,
    undisturbed_of_not_isLink (by decide), Task.uncontested_of_flat flat, ?_, ?_⟩
  · rintro ⟨⟨names, name⟩, visits, _, object, standing, trouble⟩
    obtain rfl : names = [] := visits.eq_nil flat
    have shown : staticTree.stat ((plainTask (.ofString "d/.")).path ⟨[], [0x61, 0x2E, 0x68]⟩) =
        .ok (.file (Utf8.encode "static x".toList) 0o644) := by decide
    -- The one file that there is can be read.
    have member : ([name, [0x73]], object) ∈ staticTree.entries := mem_of_find? standing
    simp only [staticTree, List.mem_cons, Prod.mk.injEq, List.cons.injEq, List.not_mem_nil,
      and_true, and_false, false_and, or_false, false_or, reduceCtorEq] at member
    obtain ⟨rfl, rfl⟩ := member
    rcases trouble with ⟨isLink, _⟩ | ⟨raw, mode, regular, illFormed⟩
    · cases isLink
    · cases shown.symm.trans regular
      exact absurd illFormed (by decide)
  · exact ⟨"No such file or directory (os error 2)", by decide +kernel⟩

end TwinTree
