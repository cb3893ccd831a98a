import TwinTree.Proofs.FileSystem.Creation

/-!
# Writing files

Each access that writes to a file changes at most the object at the prospect of its path, and
leaves a regular file there, or the FIFO or device that has taken the content. Main statements:
`setMode_spec` and `writeFile_spec`.
-/
namespace TwinTree.FileSystem

variable {fs made : FileSystem} {path : Path} {content : List UInt8} {mode : Nat}
  {here : Location}

/-- A file with content that fits may come to stand at one location. -/
inductive WrittenAt (target : Location) (fits : List UInt8 → Prop) : Location → Object → Prop where
  | file {content : List UInt8} {mode : Nat} : fits content →
      WrittenAt target fits target (.file content mode)

/-- What the file at a location holds. -/
def HoldsAt (fs : FileSystem) (here : Location) (content : List UInt8) : Prop :=
  ∃ mode, fs.get? here = some (.file content mode)

/-- A file that is replaced by another one. -/
theorem Evolves.rewrite {old : List UInt8} {before : Nat} {fits : List UInt8 → Prop}
    (wellFormed : fs.WellFormed) (found : fs.get? here = some (.file old before))
    (fitting : fits content) :
    Evolves (WrittenAt here fits) fs (fs.insert here (.file content mode)) := by
  -- There is no file at the root.
  cases here with
  | nil => cases found
  | cons name above =>
    have ordinary := wellFormed.isOrdinary found name List.mem_cons_self
    exact .insert wellFormed (wellFormed.get?_tail found) ordinary (found ▸ .rewritten)
      (.file fitting)

/-- What is written to, a file or what keeps nothing, is no root. -/
theorem ne_nil_of_get?_inPlaceOf {old : Option Object}
    (found : fs.get? here = some ((Object.file content mode).inPlaceOf old)) : here ≠ [] := by
  rintro rfl
  have noDirectory : ((Object.file content mode).inPlaceOf old).isDirectory = false :=
    Object.isDirectory_inPlaceOf rfl old
  rw [← Option.some.inj found] at noDirectory
  cases noDirectory

/-- What is written to is no link. -/
theorem ne_link_of_get?_inPlaceOf {old : Option Object} {target : List UInt8}
    (found : fs.get? here = some ((Object.file content mode).inPlaceOf old)) :
    fs.get? here ≠ some (.link target) := by
  intro link
  have noLink : ((Object.file content mode).inPlaceOf old).isLink = false :=
    Object.isLink_inPlaceOf rfl old
  rw [Option.some.inj (found.symm.trans link)] at noLink
  cases noLink

/-- What is written to is written to again. -/
theorem Evolves.refill {former : List UInt8} {before : Nat} {old : Option Object}
    {fits : List UInt8 → Prop} (wellFormed : fs.WellFormed)
    (found : fs.get? here = some ((Object.file former before).inPlaceOf old))
    (fitting : fits content) : Evolves (WrittenAt here fits) fs
      (fs.insert here ((Object.file content mode).inPlaceOf old)) := by
  have named := ne_nil_of_get?_inPlaceOf found
  rcases Object.inPlaceOf_cases old with ⟨object, rfl, stream⟩ | replaced
  · rw [Object.inPlaceOf_of_isStream _ stream] at found ⊢
    rw [insert_of_get? named found]
    exact .refl wellFormed
  · rw [replaced] at found ⊢
    exact .rewrite wellFormed found fitting

theorem ne_nil_of_get?_file (found : fs.get? here = some (.file content mode)) : here ≠ [] := by
  rintro rfl
  cases found

theorem setMode_spec (wellFormed : fs.WellFormed) (changed : fs.setMode path mode = .ok made) :
    Evolves (WrittenAt (fs.prospect path) (fs.HoldsAt (fs.prospect path))) fs made ∧
      ∀ object, fs.get? (fs.prospect path) = some object →
        made.get? (fs.prospect path) = some (object.withMode mode) := by
  obtain ⟨location, found, rest⟩ := bind_eq_ok_iff.1 changed
  obtain ⟨object, required, rest⟩ := bind_eq_ok_iff.1 rest
  have standing := require_eq_ok_iff.1 required
  rw [prospect_of_locate found]
  split at rest
  next content old =>
    cases rest
    refine ⟨.rewrite wellFormed standing ⟨old, standing⟩, fun other same => ?_⟩
    cases standing.symm.trans same
    exact get?_insert_self fs _ (ne_nil_of_get?_file standing)
  next noFile =>
    cases rest
    refine ⟨.refl wellFormed, fun other same => ?_⟩
    cases standing.symm.trans same
    cases object with
    | file => exact absurd rfl (noFile _ _)
    | _ => exact standing

theorem ensureWritable_evolves (wellFormed : fs.WellFormed)
    (changed : fs.ensureWritable path = .ok made) :
    Evolves (WrittenAt (fs.prospect path) (fs.HoldsAt (fs.prospect path))) fs made := by
  unfold ensureWritable at changed
  split at changed
  next => cases changed; exact .refl wellFormed
  next => cases changed
  next => exact (setMode_spec wellFormed changed).1
  next => cases changed; exact .refl wellFormed

/-- What writing content to a location makes of a file system. -/
inductive WritesAt (fs : FileSystem) (content : List UInt8) (location : Location) :
    FileSystem → Prop where
  | new : fs.get? location = none →
      WritesAt fs content location (fs.insert location (.file content newFileMode))
  | replacing {old : List UInt8} {mode : Nat} : fs.get? location = some (.file old mode) →
      WritesAt fs content location (fs.insert location (.file content mode))
  | stream {object : Object} : fs.get? location = some object → object.isStream = true →
      WritesAt fs content location fs

/-- What writing a file needs and does. -/
theorem exists_of_writeFile (written : fs.writeFile path content = .ok made) :
    ∃ last location, path.names.getLast? = some last ∧ last ≠ dot ∧ last ≠ dotDot ∧
      fs.locate path true = .ok location ∧ WritesAt fs content location made := by
  obtain ⟨⟨_, last?⟩, located, rest⟩ := bind_eq_ok_iff.1 written
  obtain ⟨_, _, _, last_eq⟩ := locateParent_eq_ok_iff.1 located
  cases last? with
  | none => cases rest
  | some last =>
    simp only at rest
    split at rest
    next => cases rest
    next named =>
    rw [not_or, not_or] at named
    obtain ⟨location, found, rest⟩ := bind_eq_ok_iff.1 rest
    refine ⟨last, location, last_eq.symm, named.2.1, named.2.2, found, ?_⟩
    split at rest
    next missing =>
      cases rest
      exact .new missing
    next old mode standing =>
      cases rest
      exact .replacing standing
    next => cases rest
    next standing =>
      cases rest
      exact .stream standing rfl
    next standing =>
      cases rest
      exact .stream standing rfl
    next => cases rest

/-- Writing where the path itself names the file leaves it there, or what keeps nothing of it. -/
theorem writeFile_spec {name : Name} {above : Location} (wellFormed : fs.WellFormed)
    (lands : fs.prospect path = name :: above) (member : name ∈ path.names) (plain : IsPlain name)
    (written : fs.writeFile path content = .ok made) :
    Evolves (WrittenAt (fs.prospect path) (· = content)) fs made ∧
      ∃ mode, made.get? (fs.prospect path) =
        some ((Object.file content mode).inPlaceOf (fs.get? (fs.prospect path))) := by
  obtain ⟨_, location, _, _, _, found, writes⟩ := exists_of_writeFile written
  obtain ⟨accepted, left, leads⟩ := locate_eq_ok_iff.1 found
  obtain rfl : location = name :: above := (prospect_of_locate found).symm.trans lands
  rw [lands]
  cases writes with
  | stream standing stream =>
    refine ⟨.refl wellFormed, 0, ?_⟩
    rw [standing, Object.inPlaceOf_of_isStream _ stream]
  | new missing =>
    -- A new file needs a directory above it and a name that fits there.
    have existing : fs.get? (fs.origin path) ≠ none := by simp [get?_origin wellFormed path]
    obtain ⟨_, _, same, enclosed, short⟩ :=
      leads.exists_of_missing wellFormed.get?_tail existing missing
    cases same
    have ordinary := Path.isOrdinary_of_mem_names member plain.ne_dot plain.ne_dotDot
      (checkText_eq_ok_iff.1 accepted).1 short
    refine ⟨.insert wellFormed enclosed ordinary (missing ▸ .created) (.file rfl),
      newFileMode, ?_⟩
    rw [get?_insert_self fs _ (by simp), missing]
    rfl
  | @replacing _ mode standing =>
    refine ⟨.rewrite wellFormed standing rfl, mode, ?_⟩
    rw [get?_insert_self fs _ (by simp), standing]
    rfl

end TwinTree.FileSystem
