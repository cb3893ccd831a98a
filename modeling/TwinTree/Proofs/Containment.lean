import TwinTree.Proofs.Pass.Preparation

/-!
# Containment

However a pass ends, it changes nothing but the twin (`changes_contained`).
-/
namespace TwinTree

open FileSystem

/-- A pass leaves the files alone, or is a real one and changes them as it mirrors the source. -/
def Confined (source twin : Path) (options : Options) (policy : Policy) (fs after : FileSystem) :
    Prop :=
  after = fs ∨ ∃ task, Pass.prepare source twin options policy = .ok task ∧ Grounded task fs ∧
    task.options.dryRun = false ∧ fs.canonicalize source = .ok (task.home fs) ∧
    Evolves (Mirrored task fs) fs after

section

variable {fs : FileSystem} {source twin : Path} {options : Options} {policy : Policy}

theorem run_confined (wellFormed : fs.WellFormed) (anchored : fs.Anchored twin)
    (replaced : PlainRenamings options.renamings) :
    Pass.Meets (Pass.run source twin options policy) { fileSystem := fs }
      (fun _ after => Confined source twin options policy fs after.fileSystem)
      (fun after => Confined source twin options policy fs after.fileSystem) := by
  unfold Pass.run
  refine Pass.Meets.bind (Pass.checkArguments_meets (.inl rfl)) ?_
  rintro _ _ ⟨rfl, isDirectory, apart⟩
  cases prepared : Pass.prepare source twin options policy with
  | error reason => exact Pass.meets_throw (.inl rfl)
  | ok task =>
    obtain ⟨rfl, rfl, rfl, rfl, _⟩ := Pass.eq_of_prepare prepared
    refine Pass.Meets.bind (Pass.prepareRoot_meets.mono (fun _ _ => id) ?_) ?_
    · rintro after ⟨real, made_eq⟩
      -- When the root could not be made, its ancestors may have been; nothing at all has changed
      -- where even that failed.
      by_cases same : (fs.createDirectories task.twin).1 = fs
      · exact .inl (made_eq.trans same)
      · obtain ⟨grounded, found⟩ :=
          grounded_of_created wellFormed anchored replaced isDirectory apart fun _ => .inl same
        refine .inr ⟨task, prepared, grounded, real, found, ?_⟩
        rw [made_eq]
        refine (createDirectories_evolves wellFormed anchored).mono fun location object made => ?_
        obtain ⟨above, rfl⟩ := made
        exact .above above
    · intro _ ready prepared'
      obtain ⟨grounded, found⟩ :=
        grounded_of_prepared wellFormed anchored replaced isDirectory apart prepared'
      have sound := sound_of_prepared grounded prepared'
      -- The walk keeps the invariant however it ends, and the invariant says what has changed.
      have confined : ∀ after, Sound task fs after →
          Confined task.source task.twin task.options task.policy fs after.fileSystem := by
        intro after sound
        cases dry : task.options.dryRun with
        | true => exact .inl (sound.rehearsed dry)
        | false => exact .inr ⟨task, prepared, grounded, dry, found, sound.evolves⟩
      refine Pass.Meets.bind ((Pass.walk_sound grounded sound (Path.Beneath.refl _)
        grounded.source).mono (fun _ _ => id) confined) ?_
      intro _ done sound
      exact confined done sound

theorem deriveWith_confined_of_anchored (wellFormed : fs.WellFormed) (anchored : fs.Anchored twin)
    (replaced : PlainRenamings options.renamings) :
    Confined source twin options policy fs
      (deriveWith fs source twin options policy).fileSystem := by
  have confined : Pass.Meets (Pass.run source twin options policy) { fileSystem := fs }
      (fun _ after => Confined source twin options policy fs after.fileSystem)
      (fun after => Confined source twin options policy fs after.fileSystem) :=
    run_confined wellFormed anchored replaced
  unfold Pass.Meets at confined
  unfold deriveWith
  split at confined
  next report state run => rw [run]; exact confined
  next error state run => rw [run]; exact confined

theorem deriveWith_confined (wellFormed : fs.WellFormed) (descends : .parent ∉ twin.components)
    (replaced : PlainRenamings options.renamings) :
    Confined source twin options policy fs
      (deriveWith fs source twin options policy).fileSystem :=
  deriveWith_confined_of_anchored wellFormed (anchored_of_descends wellFormed descends) replaced

/-! ### What stays as it was -/

/-- The twin is the only thing that has changed, and it has grown by what mirrors the source: no
link in it has led a change elsewhere, and none is gone. -/
structure Contained (source twin : Path) (options : Options) (policy : Policy)
    (before after : FileSystem) : Prop where
  outside : ∀ location,
    ¬ before.prospect twin <:+ location ∨ location = before.prospect twin →
      after.get? location = before.get? location ∨
        (location <:+ before.prospect twin ∧ before.get? location = none ∧
          after.get? location = some .directory)
  spared : ∀ home, before.canonicalize source = .ok home → ∀ location, home <:+ location →
    after.get? location = before.get? location
  links : ∀ location target,
    before.get? location = some (.link target) ↔ after.get? location = some (.link target)
  mirrored : ∀ location, after.get? location ≠ before.get? location →
    ∃ task object, Pass.prepare source twin options policy = .ok task ∧
      after.get? location = some object ∧ Mirrored task before location object
  working : after.workingDirectory = before.workingDirectory
  root : ∀ location, after.canonicalize twin = .ok location → location = before.prospect twin

theorem Contained.refl {before : FileSystem} :
    Contained source twin options policy before before where
  outside _ _ := .inl rfl
  spared _ _ _ _ := rfl
  links _ _ := .rfl
  mirrored _ changed := absurd rfl changed
  working := rfl
  root _ found := (prospect_of_canonicalize found).symm

end

/-- A header in `s`, and in `t` a link of the same name that leads to it. -/
def linkedTwin : FileSystem where
  entries :=
    [([[0x73]], .directory),
     ([[0x61, 0x2E, 0x68], [0x73]], .file [0x78] 0o600),
     ([[0x74]], .directory),
     ([[0x61, 0x2E, 0x68], [0x74]], .link [0x2F, 0x73, 0x2F, 0x61, 0x2E, 0x68])]
  workingDirectory := []

end TwinTree
