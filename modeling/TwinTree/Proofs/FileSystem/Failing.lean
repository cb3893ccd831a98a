import TwinTree.Proofs.FileSystem.Writing

/-!
# Accesses that fail

However making directories ends, it has changed no file (`createDirectories_spares`). Writing a
file takes three accesses, and all of them succeed once one has changed something: a path that shows
a file leads to it (`locate_of_lstat`), a file that a path leads to can be written
(`writeFile_of_locate`), and what has been written can be given a mode (`copyMode_of_writeFile`).
-/
namespace TwinTree.FileSystem

/-- Nothing has changed but that there may be more directories. -/
def SparesFiles (before after : FileSystem) : Prop :=
  ∀ location, after.get? location = before.get? location ∨
    (before.get? location = none ∧ after.get? location = some .directory)

/-- Directories may come to stand anywhere. -/
def DirectoriesOnly (_ : Location) (object : Object) : Prop := object = .directory

variable {fs made : FileSystem} {path : Path} {content : List UInt8} {mode : Nat}
  {here there : Location} {object : Object}

theorem Evolves.sparesFiles (evolves : Evolves DirectoriesOnly fs made) : SparesFiles fs made := by
  intro location
  rcases evolves.changed location with same | ⟨object, found, rfl⟩
  · exact .inl same
  · rcases (evolves.developed location).of_directory found with there | missing
    · exact .inl (found.trans there.symm)
    · exact .inr ⟨missing, found⟩

/-! ### Making directories -/

theorem settle_spares {result : Except Failure FileSystem} (wellFormed : fs.WellFormed)
    (spares : ∀ after, result = .ok after → Evolves DirectoriesOnly fs after) :
    Evolves DirectoriesOnly fs (settle fs path result).1 := by
  cases result with
  | ok after => exact spares after rfl
  | error => exact .refl wellFormed

/-- Wherever a path leads, making it a directory changes no file, also when it fails. -/
theorem createDirectories_spares (wellFormed : fs.WellFormed) (path : Path) :
    Evolves DirectoriesOnly fs (fs.createDirectories path).1 := by
  have single : ∀ {fs : FileSystem}, fs.WellFormed → ∀ path made,
      fs.makeDirectory path = .ok made → Evolves DirectoriesOnly fs made := by
    intro fs wellFormed path made created
    exact (Evolves.makeDirectory wellFormed created).mono fun _ _ granted => granted.2
  -- Whether its parent is tried or not, each directory is made by itself.
  have onward : ∀ paths, Evolves DirectoriesOnly fs (createDirectoriesFrom paths fs).1 := by
    intro paths
    induction paths with
    | nil => exact .refl wellFormed
    | cons path above ih =>
      rw [createDirectoriesFrom]
      split
      next => exact .refl wellFormed
      split
      next =>
        split
        next higher result =>
          rw [result] at ih
          exact ih.trans (settle_spares ih.wellFormed (single ih.wellFormed path))
        next => exact ih
      next => exact settle_spares wellFormed (single wellFormed path)
  exact onward path.ancestors

/-! ### Writing a file -/

/-- A path that shows something other than a link leads to it. -/
theorem locate_of_lstat (shown : fs.lstat path = .ok object) (plain : object.isLink = false) :
    ∃ location, fs.locate path true = .ok location ∧ fs.get? location = some object := by
  obtain ⟨location, located, required⟩ := bind_eq_ok_iff.1 shown
  obtain ⟨_, accepted, resolved⟩ := bind_eq_ok_iff.1 located
  have standing := require_eq_ok_iff.1 required
  have noLink : ∀ target, fs.get? location ≠ some (.link target) := by
    intro target link
    cases standing.symm.trans link
    cases plain
  have leads := exists_leads_of_resolve (.inr noLink) resolved
  exact ⟨location, locate_eq_ok_iff.2 ⟨accepted, leads⟩, standing⟩

/-- Where a path leads to a file, its last segment is a name. -/
theorem exists_last_of_leads_file {left : Nat} (wellFormed : fs.WellFormed)
    (leads : Leads fs linkLimit path.steps (fs.origin path) left there)
    (standing : fs.get? there = some (.file content mode)) :
    path.endsInSlash = false ∧ ∃ front last half above, path.names = front ++ [last] ∧
      last ≠ dot ∧ last ≠ dotDot ∧ Leads fs linkLimit front (fs.origin path) half above ∧
      fs.get? above = some .directory := by
  have noDirectory : fs.get? there ≠ some .directory := by simp [standing]
  unfold Path.steps at leads
  split at leads
  next => exact absurd (leads_append_dot_iff.1 leads).2 noDirectory
  next noSlash =>
    refine ⟨by simpa using noSlash, ?_⟩
    rcases List.eq_nil_or_concat path.names with empty | ⟨front, last, split⟩
    · rw [empty] at leads
      cases leads
      exact absurd (get?_origin wellFormed path) noDirectory
    · rw [List.concat_eq_append] at split
      obtain ⟨half, above, first, final⟩ := leads.split split
      have enclosed := final.directory_of_singleton
      refine ⟨front, last, half, above, split, ?_, ?_, first, enclosed⟩
      · rintro rfl
        exact noDirectory (leads_append_dot_iff.1 (split ▸ leads)).2
      · rintro rfl
        -- A way up ends in a directory.
        cases final with
        | up _ rest =>
          cases rest
          exact noDirectory (wellFormed.get?_tail enclosed)
        | enter _ _ notUp => exact notUp rfl
        | follow _ _ notUp => exact notUp rfl
        | vacant _ _ notUp => exact notUp rfl

/-- A file that a path leads to can be written. -/
theorem writeFile_of_locate {old : List UInt8} (wellFormed : fs.WellFormed)
    (found : fs.locate path true = .ok there) (standing : fs.get? there = some (.file old mode)) :
    fs.writeFile path content = .ok (fs.insert there (.file content mode)) := by
  obtain ⟨accepted, left, leads⟩ := locate_eq_ok_iff.1 found
  obtain ⟨noSlash, front, last, half, above, split, notDot, notUp, first, enclosed⟩ :=
    exists_last_of_leads_file wellFormed leads standing
  have parent : fs.locateParent path = .ok (above, some last) := by
    refine locateParent_eq_ok_iff.2 ⟨accepted, enclosed, ⟨half, ?_⟩, ?_⟩
    · rwa [split, List.dropLast_concat]
    · rw [split, List.getLast?_concat]
  rw [writeFile, parent, found]
  simp [bind, Except.bind, pure, Except.pure, noSlash, notDot, notUp, standing]

/-! ### What a write leaves for the next one -/

variable {source : Path} {old : List UInt8}

/-- A path leads where it did, whatever is put in the place of a file or of nothing. -/
theorem locate_insert (develops : Developed (fs.get? here) (some object))
    (found : fs.locate path true = .ok there) :
    (fs.insert here object).locate path true = .ok there := by
  obtain ⟨accepted, left, leads⟩ := locate_eq_ok_iff.1 found
  exact locate_eq_ok_iff.2 ⟨accepted, left, leads.develop (developed_insert develops)⟩

/-- What a path has shown, it shows something of afterwards. -/
theorem exists_stat_insert {shown : Object} (develops : Developed (fs.get? here) (some object))
    (found : fs.stat path = .ok shown) :
    ∃ later, (fs.insert here object).stat path = .ok later := by
  obtain ⟨location, located, required⟩ := bind_eq_ok_iff.1 found
  have standing := require_eq_ok_iff.1 required
  have developed := developed_insert develops location
  cases held : (fs.insert here object).get? location with
  | none =>
    rw [standing, held] at developed
    cases developed
  | some later =>
    exact ⟨later, bind_eq_ok_iff.2
      ⟨location, locate_insert develops located, require_eq_ok_iff.2 held⟩⟩

/-- Letting the owner write changes nothing where a path shows no file, and otherwise the mode of
the file that it leads to. -/
theorem ensureWritable_cases (changed : fs.ensureWritable path = .ok made) :
    (made = fs ∧ ∀ content mode, fs.lstat path ≠ .ok (.file content mode)) ∨
    ∃ location content mode, fs.locate path true = .ok location ∧
      fs.get? location = some (.file content mode) ∧
      made = fs.insert location (.file content (mode ||| ownerWrite)) := by
  unfold ensureWritable at changed
  split at changed
  next missing =>
    cases changed
    exact .inl ⟨rfl, by simp [missing]⟩
  next => cases changed
  next content old shown =>
    obtain ⟨location, located, standing⟩ := locate_of_lstat shown rfl
    right
    refine ⟨location, content, old, located, standing, ?_⟩
    rw [setMode, located] at changed
    simp only [bind, Except.bind] at changed
    rw [require_eq_ok_iff.2 standing] at changed
    cases changed
    rfl
  next noFile shown =>
    cases changed
    refine .inl ⟨rfl, fun content mode isFile => ?_⟩
    exact noFile content mode (Except.ok.inj (shown.symm.trans isFile))

/-- What a path leads to can be given a mode, which is lost where none is kept. -/
theorem exists_setMode (found : fs.locate path true = .ok here)
    (standing : fs.get? here = some object) : ∃ done, fs.setMode path mode = .ok done := by
  rw [setMode, found]
  simp only [bind, Except.bind]
  rw [require_eq_ok_iff.2 standing]
  cases object <;> exact ⟨_, rfl⟩

/-- A file that has been put somewhere can be given the mode of what can be read. -/
theorem exists_copyMode_insert {shown : Object}
    (develops : Developed (fs.get? here) (some (.file content mode)))
    (found : fs.stat source = .ok shown) (located : fs.locate path true = .ok here)
    (named : here ≠ []) :
    ∃ done, (fs.insert here (.file content mode)).copyMode source path = .ok done := by
  obtain ⟨later, asked⟩ := exists_stat_insert develops found
  rw [copyMode, asked]
  exact exists_setMode (locate_insert develops located)
    (get?_insert_self fs (.file content mode) named)

/-- What has been written can be given the mode of what can be read. -/
theorem copyMode_of_writeFile {shown : Object} (found : fs.stat source = .ok shown)
    (written : fs.writeFile path content = .ok made) :
    ∃ done, made.copyMode source path = .ok done := by
  obtain ⟨_, location, _, _, _, located, writes⟩ := exists_of_writeFile written
  cases writes with
  | stream standing =>
    rw [copyMode, found]
    exact exists_setMode located standing
  | new missing =>
    exact exists_copyMode_insert (missing ▸ .created) found located (fun root => by
      subst root
      cases missing)
  | replacing standing =>
    exact exists_copyMode_insert (standing ▸ .rewritten) found located
      (ne_nil_of_get?_file standing)

/-! ### Between the first access and the last -/

/-- What a place holds that a file is being written to, by what it held before: that still, perhaps
with the right of the owner to write, or the whole content, which does not have its mode yet. -/
inductive Begun (content : List UInt8) : Option Object → Option Object → Prop where
  | untouched {standing : Option Object} : Begun content standing standing
  | opened {held : List UInt8} {mode : Nat} :
      Begun content (some (.file held mode)) (some (.file held (mode ||| ownerWrite)))
  | stored : Begun content none (some (.file content newFileMode))
  | overwritten {held : List UInt8} {mode : Nat} :
      Begun content (some (.file held mode)) (some (.file content (mode ||| ownerWrite)))

/-- Nothing has changed but a place that a file is being written to. -/
structure BegunAt (content : List UInt8) (location : Location) (before after : FileSystem) :
    Prop where
  elsewhere : ∀ other, other ≠ location → after.get? other = before.get? other
  begun : Begun content (before.get? location) (after.get? location)

theorem BegunAt.refl (content : List UInt8) (location : Location) (fs : FileSystem) :
    BegunAt content location fs fs :=
  ⟨fun _ _ => rfl, .untouched⟩

theorem BegunAt.insert (named : here ≠ []) (begun : Begun content (fs.get? here) (some object)) :
    BegunAt content here fs (fs.insert here object) where
  elsewhere _ different := get?_insert_of_ne fs object different
  begun := by rwa [get?_insert_self fs object named]

theorem begunAt_of_ensureWritable (opened : fs.ensureWritable path = .ok made) :
    BegunAt content (fs.prospect path) fs made := by
  rcases ensureWritable_cases opened with ⟨rfl, _⟩ | ⟨location, held, mode, located, standing, rfl⟩
  · exact .refl ..
  · rw [prospect_of_locate located]
    exact .insert (ne_nil_of_get?_file standing) (standing ▸ .opened)

/-- Once the content has been written, it is there as a whole. -/
theorem begunAt_of_writeFile {filled : FileSystem} (wellFormed : fs.WellFormed)
    (shows : ∀ object, checkText path pathLimit = .ok () →
      fs.get? (fs.prospect path) = some object → fs.lstat path = .ok object)
    (opened : fs.ensureWritable path = .ok made)
    (written : made.writeFile path content = .ok filled) :
    BegunAt content (fs.prospect path) fs filled := by
  obtain ⟨_, location, _, _, _, located, writes⟩ := exists_of_writeFile written
  have accepted := (locate_eq_ok_iff.1 located).1
  have same := (ensureWritable_evolves wellFormed opened).prospect_eq path
  obtain rfl : location = fs.prospect path := (prospect_of_locate located).symm.trans same
  rcases ensureWritable_cases opened with
    ⟨rfl, noFile⟩ | ⟨location, held, mode, found, standing, rfl⟩
  · cases writes with
    | new missing =>
      refine .insert (fun root => ?_) (missing ▸ .stored)
      rw [root] at missing
      cases missing
    | replacing standing =>
      -- A file that is there would have been shown and opened.
      exact absurd (shows _ accepted standing) (noFile _ _)
    | stream => exact .refl ..
  · rw [prospect_of_locate found] at writes ⊢
    have named := ne_nil_of_get?_file standing
    have there := get?_insert_self fs (.file held (mode ||| ownerWrite)) named
    cases writes with
    | new missing => cases there.symm.trans missing
    | replacing again =>
      cases there.symm.trans again
      refine ⟨fun other different => ?_, ?_⟩
      · rw [get?_insert_of_ne _ _ different, get?_insert_of_ne _ _ different]
      · rw [get?_insert_self _ _ named, standing]
        exact .overwritten
    | stream again isStream =>
      cases there.symm.trans again
      cases isStream

end TwinTree.FileSystem
