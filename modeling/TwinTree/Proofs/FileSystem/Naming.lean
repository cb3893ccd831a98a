import TwinTree.Proofs.FileSystem.Writing

/-!
# Names stay components

Every access that changes a file system puts objects where a path leads, and a path leads through
components. So the names in a file system are components of paths at every moment, whatever is
changed and whether it succeeds (`NamesPlain.writeFile`, `NamesPlain.createDirectories`).
-/
namespace TwinTree.FileSystem

variable {fs made : FileSystem} {path : Path} {segments : List Name} {links left : Nat}
  {here there location : Location} {object : Object}

/-- All names are components of paths. -/
structure NamesPlain (fs : FileSystem) : Prop where
  entries : ∀ entry ∈ fs.entries, ∀ name ∈ entry.1, IsPlain name
  working : ∀ name ∈ fs.workingDirectory, IsPlain name

theorem WellFormed.namesPlain (wellFormed : fs.WellFormed) : fs.NamesPlain where
  entries entry member name within := (wellFormed.ordinary entry member name within).isPlain
  working name member := (wellFormed.isOrdinary wellFormed.working name member).isPlain

/-! ### Where paths lead -/

/-- A segment of a path has text, and no slash in it. -/
theorem solid_of_mem_steps {segment : Name} (member : segment ∈ path.steps) :
    segment ≠ [] ∧ slash ∉ segment := by
  have named : ∀ segment ∈ path.names, segment ≠ [] ∧ slash ∉ segment := by
    intro segment member
    obtain ⟨piece, nonempty⟩ := Path.mem_names.1 member
    exact ⟨nonempty, notMem_of_mem_pieces piece⟩
  unfold Path.steps at member
  split at member
  next =>
    rcases List.mem_append.1 member with name | last
    · exact named segment name
    · obtain rfl := List.mem_singleton.1 last
      decide
  next => exact named segment member

/-- A way goes through components only. -/
theorem Leads.isPlain (leads : Leads fs links segments here left there)
    (solid : ∀ segment ∈ segments, segment ≠ [] ∧ slash ∉ segment)
    (plain : ∀ name ∈ here, IsPlain name) : ∀ name ∈ there, IsPlain name := by
  induction leads with
  | done => exact plain
  | stay _ _ ih => exact ih (List.forall_mem_cons.1 solid).2 plain
  | up _ _ ih =>
    exact ih (List.forall_mem_cons.1 solid).2 fun name member =>
      plain name (List.mem_of_mem_tail member)
  | enter _ notDot notUp _ _ _ _ ih =>
    obtain ⟨⟨nonempty, noSlash⟩, solid⟩ := List.forall_mem_cons.1 solid
    exact ih solid (List.forall_mem_cons.2 ⟨⟨nonempty, notDot, notUp, noSlash⟩, plain⟩)
  | follow _ _ _ _ _ _ ih =>
    -- The target of a link is a path, so its segments are those of a path too.
    refine ih (List.forall_mem_append.2 ⟨fun segment => solid_of_mem_steps, ?_⟩) ?_
    · exact (List.forall_mem_cons.1 solid).2
    · split
      · simp
      · exact plain
  | vacant _ notDot notUp _ _ =>
    obtain ⟨⟨nonempty, noSlash⟩, _⟩ := List.forall_mem_cons.1 solid
    exact List.forall_mem_cons.2 ⟨⟨nonempty, notDot, notUp, noSlash⟩, plain⟩

namespace NamesPlain

theorem origin (named : fs.NamesPlain) (path : Path) : ∀ name ∈ fs.origin path, IsPlain name := by
  unfold FileSystem.origin
  split
  · simp
  · exact named.working

theorem locate (named : fs.NamesPlain) (found : fs.locate path true = .ok there) :
    ∀ name ∈ there, IsPlain name := by
  obtain ⟨_, _, leads⟩ := locate_eq_ok_iff.1 found
  exact leads.isPlain (fun _ => solid_of_mem_steps) (named.origin path)

/-- The entries of a directory have plain names. -/
theorem children (named : fs.NamesPlain) {found : Name × Object}
    (member : found ∈ fs.children location) : IsPlain found.1 :=
  named.entries _ (mem_children.1 member) found.1 List.mem_cons_self

/-! ### Changes -/

theorem insert (named : fs.NamesPlain) (plain : ∀ name ∈ location, IsPlain name) :
    (fs.insert location object).NamesPlain where
  entries := forall_mem_insert plain named.entries
  working := named.working

theorem makeDirectory (named : fs.NamesPlain) (created : fs.makeDirectory path = .ok made) :
    made.NamesPlain := by
  obtain ⟨front, last, _, above, names_eq, _, leads, _, ordinary, _, rfl⟩ :=
    exists_of_makeDirectory created
  have solid : ∀ segment ∈ front, segment ≠ [] ∧ slash ∉ segment := by
    intro segment member
    have within : segment ∈ path.names := names_eq ▸ List.mem_append_left _ member
    obtain ⟨piece, nonempty⟩ := Path.mem_names.1 within
    exact ⟨nonempty, notMem_of_mem_pieces piece⟩
  apply named.insert
  exact List.forall_mem_cons.2 ⟨ordinary.isPlain, leads.isPlain solid (named.origin path)⟩

theorem settle (named : fs.NamesPlain) {result : Except Failure FileSystem}
    (made : ∀ after, result = .ok after → after.NamesPlain) :
    (fs.settle path result).1.NamesPlain := by
  cases result with
  | ok after => exact made after rfl
  | error => exact named

theorem createDirectories (named : fs.NamesPlain) (path : Path) :
    (fs.createDirectories path).1.NamesPlain := by
  -- The recursion is on the ancestors: those above are made first, then the path itself.
  have all : ∀ paths : List Path, (createDirectoriesFrom paths fs).1.NamesPlain := by
    intro paths
    induction paths with
    | nil => exact named
    | cons path above ih =>
      unfold createDirectoriesFrom
      split
      · exact named
      · split
        next =>
          split
          next created =>
            rw [created] at ih
            exact ih.settle fun _ => ih.makeDirectory
          next => exact ih
        next => exact named.settle fun _ => named.makeDirectory
  exact all path.ancestors

theorem setMode (named : fs.NamesPlain) {mode : Nat} (changed : fs.setMode path mode = .ok made) :
    made.NamesPlain := by
  obtain ⟨location, found, rest⟩ := bind_eq_ok_iff.1 changed
  obtain ⟨object, _, rest⟩ := bind_eq_ok_iff.1 rest
  split at rest
  next =>
    cases rest
    exact named.insert (named.locate found)
  next =>
    cases rest
    exact named

theorem ensureWritable (named : fs.NamesPlain) (changed : fs.ensureWritable path = .ok made) :
    made.NamesPlain := by
  unfold FileSystem.ensureWritable at changed
  split at changed
  next => cases changed; exact named
  next => cases changed
  next => exact named.setMode changed
  next => cases changed; exact named

theorem copyMode (named : fs.NamesPlain) {source : Path}
    (changed : fs.copyMode source path = .ok made) : made.NamesPlain := by
  obtain ⟨_, _, changed⟩ := bind_eq_ok_iff.1 changed
  exact named.setMode changed

theorem writeFile (named : fs.NamesPlain) {content : List UInt8}
    (written : fs.writeFile path content = .ok made) : made.NamesPlain := by
  obtain ⟨⟨_, last?⟩, _, rest⟩ := bind_eq_ok_iff.1 written
  cases last? with
  | none => cases rest
  | some last =>
    simp only at rest
    split at rest
    next => cases rest
    obtain ⟨location, found, rest⟩ := bind_eq_ok_iff.1 rest
    split at rest
    next =>
      cases rest
      exact named.insert (named.locate found)
    next =>
      cases rest
      exact named.insert (named.locate found)
    next => cases rest
    next =>
      cases rest
      exact named
    next =>
      cases rest
      exact named
    next => cases rest

end NamesPlain

end TwinTree.FileSystem
