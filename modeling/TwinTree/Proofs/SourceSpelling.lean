import TwinTree.Proofs.Collision
import TwinTree.Proofs.Pass.RespelledWalk
import TwinTree.Proofs.PolicyEffect

/-!
# How the source is spelled

A source may be spelled in many ways that have the same components. A pass does the same under all
of them, but for what its policy says: the policy looks at the text of a directory, so it may judge
the same directory in two ways (`source_respelled`). Where it does not, nothing at all is different.
-/
namespace TwinTree

open FileSystem

/-- A content, but nothing of a text. -/
def Utf8.hideText (content : List UInt8) : List UInt8 :=
  if (decode? content).isSome then [] else content

theorem Utf8.isSome_decode?_of_hideText_eq {content content' : List UInt8}
    (hidden : hideText content' = hideText content) :
    (decode? content').isSome = (decode? content).isSome := by
  have empty : (decode? []).isSome = true := rfl
  unfold hideText at hidden
  split at hidden
  next isText =>
    split at hidden
    next isText' => rw [isText, isText']
    next => rw [isText, ← hidden, empty]
  next =>
    split at hidden
    next isText' => rw [isText', hidden, empty]
    next => rw [hidden]

@[simp]
theorem Utf8.hideText_encode (text : List Char) : hideText (encode text) = [] := by
  simp [hideText, decode?_encode]

/-- What passes under two spellings of the source give and leave, through a view. -/
structure Outcome.Respelled (source source' : Path) (policy : Policy) (held : List Name → Prop)
    (view : List UInt8 → List UInt8) (outcome outcome' : Outcome) : Prop where
  result : (∃ report report', outcome.result = .ok report ∧ outcome'.result = .ok report' ∧
      report.Respelled source source' policy held report') ∨
    ∃ error error', outcome.result = .error error ∧ outcome'.result = .error error' ∧
      error.Respelled error'
  files : SeenAlike view outcome.fileSystem outcome'.fileSystem

namespace Pass

variable {fs : FileSystem} {source source' twin : Path} {options : Options} {policy : Policy}
  {held : List Name → Prop} {view : List UInt8 → List UInt8} {home : Location} {state : State}

theorem spelled_hideText (same : source'.Same source) (nonempty : source.bytes ≠ []) :
    Spelled source source' policy held Utf8.hideText where
  same := same
  nonempty := nonempty
  readable := Utf8.isSome_decode?_of_hideText_eq
  adapted := by simp

theorem spelled_id (same : source'.Same source) (nonempty : source.bytes ≠ [])
    (alike : ∀ names, held names → policy (source'.extend names) = policy (source.extend names)) :
    Spelled source source' policy held id where
  same := same
  nonempty := nonempty
  readable := by
    rintro content _ rfl
    rfl
  adapted := by
    rintro names content _ text text' rules holds _ rfl decoded decoded'
    obtain rfl := Option.some.inj (decoded.symm.trans decoded')
    rw [alike names holds]

/-! ### Whole passes -/

theorem prepare_respelled (source source' twin : Path) (options : Options) (policy : Policy) :
    prepare source' twin options policy =
      (prepare source twin options policy).map (·.respelled source') := by
  unfold prepare
  cases Exclusions.parse? options.patternMode options.excludedDirectories with
  | error => rfl
  | ok =>
    cases Exclusions.parse? options.patternMode options.excludedFiles with
    | error => rfl
    | ok => rfl

theorem checkArguments_expands : Expands (checkArguments source twin) := by
  intro state orderly
  refine (checkArguments_meets (.refl orderly)).mono ?_ fun _ => id
  rintro _ _ ⟨rfl, _⟩
  exact .refl orderly

theorem perform_expands : Expands (perform source twin options policy) := by
  unfold perform
  refine checkArguments_expands.bind fun _ => ?_
  cases prepared : prepare source twin options policy with
  | error reason => exact fun state orderly => meets_throw (.refl orderly)
  | ok task =>
    obtain ⟨_, _, rfl, _⟩ := eq_of_prepare prepared
    have covers := covers_expands task.options.dryRun
    exact covers.bind covers.prepareRoot fun _ => covers.walk _

/-- Two spellings of the source are checked side by side where they lead to one place. -/
theorem checkArguments_beside {level : State → State → Prop} {state' : State}
    (same : source'.Same source) (known : level state state')
    (files : state'.fileSystem = state.fileSystem)
    (isDirectory : state.fileSystem.isDirectory source' = state.fileSystem.isDirectory source)
    (overlaps : state.fileSystem.isDirectory source = true →
      state.fileSystem.overlaps source' twin = state.fileSystem.overlaps source twin) :
    Beside (checkArguments source twin) (checkArguments source' twin) state state'
      (fun _ _ after after' => after = state ∧ after' = state') (Stopped level) := by
  unfold checkArguments
  apply beside_fileSystem_bind
  rw [files, isDirectory]
  cases directory : state.fileSystem.isDirectory source with
  | false => exact beside_throw ⟨.source same, known⟩
  | true =>
    rw [overlaps directory]
    cases state.fileSystem.overlaps source twin with
    | true => exact beside_throw ⟨.overlap twin same, known⟩
    | false =>
      simp only [Bool.not_true, Bool.false_eq_true, if_false]
      split
      next => exact beside_throw ⟨.refl _, known⟩
      next => exact beside_pure ⟨rfl, rfl⟩

/-- The source leads to a place beneath which something has not been foreseen. -/
def Lost (fs : FileSystem) (source source' : Path) (held : List Name → Prop) (state : State) :
    Prop :=
  ∃ home, fs.canonicalize source = .ok home ∧ Unforeseen source source' held home state

/-- Passes under two spellings of the source go side by side, unless the first one comes to leave
something in the source that has not been foreseen. -/
theorem perform_beside (wellFormed : fs.WellFormed) (same : source'.Same source)
    (spelled : source.bytes ≠ [] → Spelled source source' policy held view) :
    Beside (perform source twin options policy) (perform source' twin options policy)
      { fileSystem := fs } { fileSystem := fs }
      (fun _ _ => Attuned (SeenAlike view) (Journal.Respelled source source' policy held))
      (Stopped (Attuned (SeenAlike view) (Journal.Respelled source source' policy held))) ∨
    Meets (perform source twin options policy) { fileSystem := fs }
      (fun _ => Lost fs source source' held) (Lost fs source source' held) := by
  have orderly := wellFormed.orderly
  have known : Attuned (SeenAlike view) (Journal.Respelled source source' policy held)
      { fileSystem := fs } { fileSystem := fs } := ⟨rfl, rfl, .start⟩
  by_cases foreseen : ∀ home, fs.canonicalize source = .ok home →
    Foreseen source source' held home fs
  -- What has not been foreseen at the start is still there however the pass ends.
  case neg =>
    simp only [not_forall] at foreseen
    obtain ⟨home, found, strange⟩ := foreseen
    have unforeseen : Unforeseen source source' held home { fileSystem := fs } :=
      ⟨orderly, strange⟩
    exact .inr ((perform_expands.unforeseen unforeseen).mono (fun _ _ => .intro home ∘ .intro found)
      fun _ => .intro home ∘ .intro found)
  have isDirectory : fs.isDirectory source' = fs.isDirectory source := by
    refine isDirectory_respelled same fun left home nonempty leads directory => ?_
    have found := canonicalize_of_leads wellFormed nonempty directory leads
    exact (foreseen home found).within [] (by simp [directory])
  have overlaps : fs.isDirectory source = true →
      fs.overlaps source' twin = fs.overlaps source twin := by
    intro directory
    obtain ⟨left, home, leads, standing, found⟩ :=
      exists_canonicalize_of_isDirectory wellFormed directory
    have nonempty := (checkText_eq_ok_iff.1 (isDirectory_iff.1 directory).1).2.1
    have found' := canonicalize_of_leads wellFormed (mt same.bytes_eq_nil_iff.1 nonempty) standing
      (leads_respelled same leads standing)
    exact overlaps_respelled (found'.trans found.symm) found
  have checks := checkArguments_beside same known rfl isDirectory overlaps
  unfold perform
  refine Beside.bind_or (checks.knowing (checkArguments_meets trivial)) ?_
  rintro _ _ _ _ ⟨⟨-, directory, -⟩, rfl, rfl⟩
  rw [prepare_respelled source source']
  -- The task is the same but for the source, and from here on the walks go side by side.
  cases prepared : prepare source twin options policy with
  | error reason => exact .inl (beside_throw ⟨.refl _, known⟩)
  | ok task =>
    obtain ⟨rfl, rfl, rfl, rfl, _⟩ := eq_of_prepare prepared
    obtain ⟨left, home, leads, standing, found⟩ :=
      exists_canonicalize_of_isDirectory wellFormed directory
    have nonempty := (checkText_eq_ok_iff.1 (isDirectory_iff.1 directory).1).2.1
    have covers := covers_expands task.options.dryRun
    have stands : Respelled fs (([] : List Name).reverse ++ home) (task.source.extend [])
        (source'.extend []) := ⟨same, standing, left, leads⟩
    refine Beside.bind_or (.growing covers.prepareRoot orderly
      (beside_of_together ((concord_respelled task source' held view).prepareRoot known))) ?_
    rintro _ _ ready ready' ⟨extended, -, level⟩
    refine (walk_beside (spelled nonempty) (by simp) level (stands.kept extended)
      extended.orderly).imp_right fun lost => ?_
    exact lost.mono (fun _ _ => .intro home ∘ .intro found) fun _ => .intro home ∘ .intro found

end Pass

variable {fs : FileSystem} {source source' twin : Path} {options : Options} {policy : Policy}
  {held : List Name → Prop} {view : List UInt8 → List UInt8}

/-- Passes under two spellings of the source end alike, if what the first one leaves in the source
has been foreseen. -/
theorem deriveWith_respelled (wellFormed : fs.WellFormed) (same : source'.Same source)
    (spelled : source.bytes ≠ [] → Pass.Spelled source source' policy held view)
    (foreseen : ∀ home, fs.canonicalize source = .ok home → Pass.Foreseen source source' held home
      (deriveWith fs source twin options policy).fileSystem) :
    (deriveWith fs source twin options policy).Respelled source source' policy held view
      (deriveWith fs source' twin options policy) := by
  have performed : _ ∨ Pass.Meets (Pass.perform source twin options policy) { fileSystem := fs }
      _ _ := Pass.perform_beside wellFormed same spelled
  rw [deriveWith_eq] at foreseen ⊢
  rw [deriveWith_eq]
  rcases performed with beside | lost
  · unfold Pass.Beside at beside
    split at beside
    next ended ended' =>
      rw [ended, ended']
      exact ⟨.inl ⟨_, _, rfl, rfl, beside.journal⟩, beside.files⟩
    next ended ended' =>
      rw [ended, ended']
      exact ⟨.inr ⟨_, _, rfl, rfl, beside.1⟩, beside.2.files⟩
    next => exact beside.elim
  · -- However the first pass ends, what it leaves has been foreseen after all.
    exfalso
    unfold Pass.Meets at lost
    split at lost
    next ended =>
      rw [ended] at foreseen
      obtain ⟨home, found, _, strange⟩ := lost
      exact strange (foreseen home found)
    next ended =>
      rw [ended] at foreseen
      obtain ⟨home, found, _, strange⟩ := lost
      exact strange (foreseen home found)

/-! ### What the policy says -/

theorem Policy.ofSuffixes_eq_of_lastPiece {suffixes : List String} {path path' : Path}
    (whole : ∀ suffix ∈ suffixes, '/' ∉ suffix.toList) (same : path'.lastPiece = path.lastPiece) :
    Policy.ofSuffixes suffixes path' = Policy.ofSuffixes suffixes path := by
  rw [Bool.eq_iff_iff, ofSuffixes, ofSuffixes, List.any_eq_true, List.any_eq_true]
  refine exists_congr fun suffix => and_congr_right fun member => ?_
  rw [List.isSuffixOf_iff_suffix, List.isSuffixOf_iff_suffix,
    Path.suffix_text_iff (whole suffix member), Path.suffix_text_iff (whole suffix member), same]

/-- A suffix without a slash sees only the last name of a directory, and no name of another. -/
theorem Policy.ofSuffixes_respelled {suffixes : List String} {names : List Name}
    (whole : ∀ suffix ∈ suffixes, '/' ∉ suffix.toList) (same : source'.Same source)
    (plain : ∀ name ∈ names, IsPlain name)
    (last : names ≠ [] ∨ source'.lastPiece = source.lastPiece) :
    Policy.ofSuffixes suffixes (source'.extend names) =
      Policy.ofSuffixes suffixes (source.extend names) := by
  by_cases empty : source.bytes = []
  · have empty' : source'.bytes = [] := same.bytes_eq_nil_iff.2 empty
    obtain rfl : source' = source := by
      cases source
      cases source'
      simp_all
    rfl
  have empty' : source'.bytes ≠ [] := mt same.bytes_eq_nil_iff.1 empty
  apply ofSuffixes_eq_of_lastPiece whole
  rcases List.eq_nil_or_concat names with rfl | ⟨front, name, rfl⟩
  · exact last.resolve_left (by simp)
  · rw [List.concat_eq_append] at plain ⊢
    obtain ⟨plain, own⟩ := List.forall_mem_append.1 plain
    have own : IsPlain name := by simpa using own
    rw [Path.lastPiece_extend empty' plain own, Path.lastPiece_extend empty plain own]

/-- Where both spellings of every directory are judged alike, the same files are stripped. -/
theorem Report.Respelled.stripped_eq {report report' : Report}
    (respelled : report.Respelled source source' policy held report')
    (alike : ∀ names, held names → policy (source'.extend names) = policy (source.extend names)) :
    report'.stripped = report.stripped ∧
      report'.records.map Record.stripped = report.records.map Record.stripped := by
  have flags : List.Forall₂ Eq (report.records.map Record.stripped)
      (report'.records.map Record.stripped) := by
    rw [List.forall₂_map_left_iff, List.forall₂_map_right_iff]
    refine respelled.records.imp fun record record' recorded => ?_
    obtain ⟨names, holds, _, _, stripped, stripped'⟩ := recorded.judged
    rw [stripped, stripped', alike names holds]
  rw [List.forall₂_eq_eq_eq] at flags
  exact ⟨respelled.stripped flags.symm, flags.symm⟩

/-- Names lead from where the source was to a directory that is there in the end. -/
def Outcome.Holds (outcome : Outcome) (fs : FileSystem) (source : Path) (names : List Name) :
    Prop :=
  ∃ home, fs.canonicalize source = .ok home ∧
    outcome.fileSystem.get? (names.reverse ++ home) = some .directory

theorem Outcome.Holds.isPlain {names : List Name} (wellFormed : fs.WellFormed)
    (holds : (deriveWith fs source twin options policy).Holds fs source names) :
    ∀ name ∈ names, IsPlain name := by
  have extended : Pass.Meets (Pass.perform source twin options policy) { fileSystem := fs } _ _ :=
    Pass.perform_expands _ wellFormed.orderly
  have orderly : (deriveWith fs source twin options policy).fileSystem.Orderly := by
    unfold Pass.Meets at extended
    rw [deriveWith_eq]
    split at extended
    next ended =>
      rw [ended]
      exact extended.orderly
    next ended =>
      rw [ended]
      exact extended.orderly
  obtain ⟨home, _, directory⟩ := holds
  intro name member
  exact (orderly.holds directory name (by simp [member])).1

/-- It is enough to add up the names in a file system to know that no text is too long. -/
theorem withinLimit_of_entries (root : max source.bytes.length source'.bytes.length ≤ pathLimit)
    (short : ∀ entry ∈ fs.entries, max source.bytes.length source'.bytes.length +
      (entry.1.flatten.length + entry.1.length) ≤ pathLimit) (home : Location) :
    Pass.WithinLimit source source' home fs := by
  intro names existing
  have whole : max source.bytes.length source'.bytes.length +
      (names.flatten.length + names.length) ≤ pathLimit := by
    obtain ⟨object, found⟩ := Option.ne_none_iff_exists'.1 existing
    generalize location_eq : names.reverse ++ home = location at found
    cases location with
    | nil =>
      obtain rfl : names = [] := by simpa using (List.append_eq_nil_iff.1 location_eq).1
      simpa using root
    | cons first rest =>
      have entry := short _ (mem_of_find? found)
      rw [← location_eq] at entry
      have turned := (List.reverse_perm names).flatten.length_eq
      simp only [List.flatten_append, List.length_append, List.length_reverse] at entry
      omega
  have long := source.length_extend_le names
  have long' := source'.length_extend_le names
  omega

/-- Under two spellings of the source a pass ends in the same way: with errors of one kind about
paths that are the same, or with reports that count the same but for what is stripped and whose
records are the same but for the verdict of the policy on the text of the directory. It leaves the
same, but for what is in text files. Where the policy judges each directory alike under both
spellings, that is the same too. A suffix without a slash judges all directories alike, but for the
source itself if the two spellings end differently behind their last slash. All this holds as long
as no text in the source is too long in either spelling. -/
theorem source_respelled (wellFormed : fs.WellFormed) (same : source'.Same source)
    (within : ∀ home, fs.canonicalize source = .ok home → Pass.WithinLimit source source' home
      (derive fs source twin options).fileSystem) :
    let policy := Policy.ofSuffixes options.strippedSuffixes
    let outcome := derive fs source twin options
    let outcome' := derive fs source' twin options
    let held := outcome.Holds fs source
    outcome.Respelled source source' policy held Utf8.hideText outcome' ∧
    ((∀ names, held names → policy (source'.extend names) = policy (source.extend names)) →
      outcome'.fileSystem = outcome.fileSystem ∧
      ∀ report report', outcome.result = .ok report → outcome'.result = .ok report' →
        report'.stripped = report.stripped ∧
        report'.records.map Record.stripped = report.records.map Record.stripped) ∧
    ((∀ suffix ∈ options.strippedSuffixes, '/' ∉ suffix.toList) → ∀ names, held names →
      names ≠ [] ∨ source'.lastPiece = source.lastPiece →
      policy (source'.extend names) = policy (source.extend names)) := by
  intro policy outcome outcome' held
  have foreseen : ∀ home, fs.canonicalize source = .ok home →
      Pass.Foreseen source source' held home outcome.fileSystem :=
    fun home found => ⟨within home found, fun names directory => ⟨home, found, directory⟩⟩
  refine ⟨deriveWith_respelled wellFormed same (Pass.spelled_hideText same) foreseen, ?_, ?_⟩
  · intro alike
    -- Where all verdicts agree, the same is written, so nothing need be hidden.
    have respelled : outcome.Respelled source source' policy held id outcome' :=
      deriveWith_respelled wellFormed same (fun nonempty => Pass.spelled_id same nonempty alike)
        foreseen
    refine ⟨by simpa [SeenAlike] using respelled.files, fun report report' ended ended' => ?_⟩
    rcases respelled.result with ⟨_, _, isOk, isOk', reports⟩ | ⟨_, _, isError, _⟩
    · cases ended.symm.trans isOk
      cases ended'.symm.trans isOk'
      exact reports.stripped_eq alike
    · cases ended.symm.trans isError
  · intro whole names holds
    exact Policy.ofSuffixes_respelled whole same (Outcome.Holds.isPlain wellFormed holds)

/-- A source `compiler` with a header that has a linkage keyword. -/
def compilerTree : FileSystem :=
  treeOf
    [(["compiler"], .directory),
     (["compiler", "a.h"], .file (Utf8.encode "static x".toList) 0o644)]

/-- A slash behind the name of the source makes a difference to the policy, and spare slashes in
front of it make none. -/
theorem source_respelled_compilerTree :
    let slashed := derive compilerTree (.ofString "compiler/") (.ofString "d") {}
    let bare := derive compilerTree (.ofString "compiler") (.ofString "d") {}
    let spare := derive compilerTree (.ofString ".//compiler") (.ofString "d") {}
    let plain := derive compilerTree (.ofString "./compiler") (.ofString "d") {}
    bare.Respelled (.ofString "compiler") (.ofString "compiler/") (.ofSuffixes ["compiler"])
      (bare.Holds compilerTree (.ofString "compiler")) Utf8.hideText slashed ∧
    spare.fileSystem = plain.fileSystem := by
  intro slashed bare spare plain
  have wellFormed : compilerTree.WellFormed := by decide
  constructor
  · exact (@source_respelled compilerTree (.ofString "compiler") (.ofString "compiler/")
      (.ofString "d") {} wellFormed (by decide) fun home _ =>
        withinLimit_of_entries (by decide) (by decide +kernel) home).1
  · obtain ⟨_, same, alike⟩ := @source_respelled compilerTree (.ofString "./compiler")
      (.ofString ".//compiler") (.ofString "d") {} wellFormed (by decide) fun home _ =>
        withinLimit_of_entries (by decide) (by decide +kernel) home
    exact (same fun names held => alike (by decide) names held (.inr (by decide))).1

/-- The source `compiler` with more slashes behind it than a path may have. -/
def slashedSource : Path := ⟨Utf8.encode "compiler".toList ++ List.replicate 4096 slash⟩

/-- With one slash behind the source the keyword is kept that is stripped without it, and with too
many there is no twin at all. -/
theorem source_spelling_shows :
    compilerTree.WellFormed ∧ (Path.ofString "compiler/").Same (.ofString "compiler") ∧
    slashedSource.Same (.ofString "compiler") ∧
    (derive compilerTree (.ofString "compiler") (.ofString "d") {}).result.toOption.map
      Report.stripped = some 1 ∧
    (derive compilerTree (.ofString "compiler/") (.ofString "d") {}).result.toOption.map
      Report.stripped = some 0 ∧
    (derive compilerTree (.ofString "compiler/") (.ofString "d") {}).fileSystem.get?
        [Utf8.encode "a.h".toList, [0x64]] ≠
      (derive compilerTree (.ofString "compiler") (.ofString "d") {}).fileSystem.get?
        [Utf8.encode "a.h".toList, [0x64]] ∧
    (derive compilerTree slashedSource (.ofString "d") {}).result.toOption = none :=
  ⟨by decide, by decide, Path.same_append_slashes (by decide) 4096, by decide +kernel,
    by decide +kernel, by decide +kernel, by decide +kernel⟩

end TwinTree
