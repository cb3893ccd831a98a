import TwinTree.Proofs.Collision
import TwinTree.Proofs.Rerun

/-!
# A root that is a link

The check of the root of a twin sees a link only where the path ends in its name
(`lstat_link_iff`). Such a twin is refused, and so is a link that leads to no directory when a real
pass is to make one of it. Behind a slash or a `.` a link to a directory is taken for the directory
(`linked_root_refused`).
-/
namespace TwinTree

/-- Nothing stands behind the last name, neither a slash nor a `.`. -/
def Path.EndsInName (path : Path) : Prop := path.endsInSlash = false ∧ ¬ path.EndsInDot

instance (path : Path) : Decidable path.EndsInName := inferInstanceAs (Decidable (_ ∧ _))

namespace FileSystem

variable {fs : FileSystem} {path : Path} {target : List UInt8} {segments : List Name}
  {here : Location} {links : Nat}

/-- The last name of a path is that of a link in the directory to which the names in front of it
lead, whatever stands behind it. -/
def NamesLink (fs : FileSystem) (path : Path) (target : List UInt8) : Prop :=
  ∃ front name left above, path.route = front ++ [name] ∧
    Leads fs linkLimit front (fs.origin path) left above ∧
    fs.get? (name :: above) = some (.link target)

theorem NamesLink.nonempty (linked : fs.NamesLink path target) : path.bytes ≠ [] := by
  intro empty
  obtain ⟨_, _, _, _, route, _⟩ := linked
  simp [Path.route_eq, Path.components_eq_nil_iff.2 empty] at route

/-! ### What stands behind a name -/

/-- A link is followed where a `.` stands behind it, so it does not matter whether a link in the
last place would be. -/
theorem walk_append_dot {onLink onLink' : List Name → Location → Except Failure Location}
    (same : ∀ segments here, onLink (segments ++ [dot]) here = onLink' (segments ++ [dot]) here) :
    fs.walk onLink false (segments ++ [dot]) here =
      fs.walk onLink' true (segments ++ [dot]) here := by
  induction segments generalizing here with
  | nil => simp [walk]
  | cons segment rest ih =>
    rw [List.cons_append, walk, walk]
    cases fs.get? here with
    | none => rfl
    | some object =>
      cases object with
      | directory =>
        -- There is always something left to go through, so no link is in the last place.
        have onward : (rest ++ [dot]).isEmpty = false := by simp
        simp only [ih, onward, Bool.false_and, ← List.append_assoc, same]
      | _ => rfl

theorem resolve_append_dot :
    fs.resolve false links (segments ++ [dot]) here =
      fs.resolve true links (segments ++ [dot]) here := by
  induction links generalizing segments here with
  | zero => exact walk_append_dot fun _ _ => rfl
  | succ links ih => exact walk_append_dot fun _ _ => ih

/-- A path that does not end in a name is resolved through a last `.`. -/
theorem exists_steps_eq (other : ¬ path.EndsInName) : ∃ front, path.steps = front ++ [dot] := by
  unfold Path.steps
  cases slash : path.endsInSlash with
  | true => exact ⟨path.names, by simp⟩
  | false =>
    have ends : path.EndsInDot := by
      by_contra solid
      exact other ⟨slash, solid⟩
    simpa using List.getLast?_eq_some_iff.1 ends

/-- The check of a path whose last name is that of a link sees the link exactly where the path ends
in the name and is not too long. -/
theorem NamesLink.lstat_link_iff (linked : fs.NamesLink path target) (wellFormed : fs.WellFormed) :
    (∃ target, fs.lstat path = .ok (.link target)) ↔
      path.EndsInName ∧ path.bytes.length ≤ pathLimit := by
  have nonempty := linked.nonempty
  obtain ⟨front, name, left, above, route, leads, found⟩ := linked
  have directory : fs.get? above = some .directory := wellFormed.get?_tail found
  constructor
  · rintro ⟨other, shown⟩
    obtain ⟨location, located, required⟩ := bind_eq_ok_iff.1 shown
    obtain ⟨_, accepted, resolved⟩ := bind_eq_ok_iff.1 located
    refine ⟨?_, (checkText_eq_ok_iff.1 accepted).2.2⟩
    by_contra behind
    obtain ⟨ahead, steps_eq⟩ := exists_steps_eq behind
    rw [steps_eq, resolve_append_dot] at resolved
    obtain ⟨_, through⟩ := resolve_eq_ok_iff.1 resolved
    obtain ⟨_, standing⟩ := leads_append_dot_iff.1 through
    cases (require_eq_ok_iff.1 required).symm.trans standing
  · rintro ⟨⟨noSlash, solid⟩, short⟩
    obtain ⟨others, names_eq, rfl⟩ := Path.exists_names_eq solid route
    have ordinary := wellFormed.isOrdinary found name List.mem_cons_self
    have ahead : Leads fs linkLimit others (fs.origin path) left above :=
      leads.of_filter_eq directory (by simp)
    have absent : 0 ∉ path.bytes := by
      refine nul_notMem_of_route ?_
      rw [route, List.forall_mem_append]
      exact ⟨leads.nul_notMem wellFormed (by simp [directory]), by simpa using ordinary.nul_notMem⟩
    have accepted := checkText_eq_ok_iff.2 ⟨absent, nonempty, short⟩
    exact ⟨target, lstat_of_link accepted noSlash names_eq ahead directory ordinary.ne_dot
      ordinary.ne_dotDot ordinary.length_le found⟩

/-! ### Making a directory of a link -/

/-- The name is taken, so no directory is made under it. -/
theorem NamesLink.makeDirectory_ne_ok (linked : fs.NamesLink path target)
    (wellFormed : fs.WellFormed) (made : FileSystem) : fs.makeDirectory path ≠ .ok made := by
  intro created
  obtain ⟨front, name, left, above, route, leads, found⟩ := linked
  obtain ⟨others, last, spare, higher, names_eq, _, ahead, _, ordinary, missing, _⟩ :=
    exists_of_makeDirectory created
  have split : path.route = others.filter (· ≠ dot) ++ [last] := by
    rw [Path.route, names_eq, List.filter_append]
    simp [ordinary.ne_dot]
  obtain ⟨rfl, same⟩ := List.append_inj' (route.symm.trans split) rfl
  obtain rfl := List.singleton_inj.1 same
  have again : Leads fs linkLimit others (fs.origin path) left above :=
    leads.of_filter_eq (wellFormed.get?_tail found) (by simp)
  obtain rfl := again.unique ahead
  cases missing.symm.trans found

/-- What is above a link is there, so nothing is made of it. -/
theorem NamesLink.createDirectories_parent {above : Path} (linked : fs.NamesLink path target)
    (wellFormed : fs.WellFormed) (accepted : checkText path pathLimit = .ok ())
    (parent : path.parent? = some above) : fs.createDirectories above = (fs, .ok ()) := by
  obtain ⟨front, name, left, location, route, leads, found⟩ := linked
  have directory : fs.get? location = some .directory := wellFormed.get?_tail found
  obtain ⟨_, absolute, shorter⟩ := Path.parent?_spec parent
  have route_eq : above.route = front := by
    rw [Path.route_of_parent? parent, route, List.dropLast_concat]
  by_cases empty : above.bytes = []
  · rw [createDirectories_eq, if_pos (by simpa using empty)]
  · have absent : 0 ∉ above.bytes := by
      apply nul_notMem_of_route
      rw [route_eq]
      exact leads.nul_notMem wellFormed (by simp [directory])
    have short : above.bytes.length ≤ pathLimit := by
      have limit := (checkText_eq_ok_iff.1 accepted).2.2
      omega
    have way : Leads fs linkLimit above.names (fs.origin above) left location := by
      rw [← route_eq] at leads
      have origin_eq : fs.origin above = fs.origin path := by rw [origin, origin, absolute]
      rw [origin_eq]
      exact leads.of_filter_eq directory (by simp [Path.route])
    exact createDirectories_of_isDirectory (isDirectory_iff.2
      ⟨checkText_eq_ok_iff.2 ⟨absent, empty, short⟩, left, location, way, directory⟩)

/-- Where a link leads to no directory, making one of it fails and changes nothing. -/
theorem NamesLink.createDirectories_eq_error (linked : fs.NamesLink path target)
    (wellFormed : fs.WellFormed) (blocked : fs.isDirectory path = false) :
    ∃ failure, fs.createDirectories path = (fs, .error failure) := by
  have nonempty := linked.nonempty
  rw [createDirectories_eq, if_neg (by simpa using nonempty)]
  cases tried : fs.makeDirectory path with
  | ok made => exact absurd tried (linked.makeDirectory_ne_ok wellFormed made)
  | error failure =>
    by_cases absent : failure = .notFound
    case neg =>
      refine ⟨failure, ?_⟩
      split
      next same =>
        cases same
        exact absurd rfl absent
      next => simp [settle, blocked]
    case pos =>
      -- Something is missing behind the link, and it is looked for above the link.
      subst absent
      have accepted : checkText path pathLimit = .ok () := by
        cases checked : checkText path pathLimit with
        | ok => rfl
        | error failure =>
          rw [makeDirectory, locateParent, checked] at tried
          cases tried
          exact absurd checked (checkText_ne_notFound nonempty)
      cases parent : path.parent? with
      | none => exact ⟨.notFound, rfl⟩
      | some above =>
        have untouched := linked.createDirectories_parent wellFormed accepted parent
        exact ⟨.notFound, by simp [untouched, tried, settle, blocked]⟩

end FileSystem

/-! ### Passes to a link -/

variable {fs : FileSystem} {source twin : Path} {options : Options} {policy : Policy}
  {target : List UInt8}

open FileSystem

namespace Pass

theorem checkArguments_meets_lstat {state : State} :
    Meets (checkArguments source twin) state
      (fun _ after => after = state ∧
        ∀ target, state.fileSystem.lstat twin ≠ .ok (.link target))
      fun after => after = state := by
  have kept : Meets (checkArguments source twin) state (fun _ _ => True) fun after =>
      state = after := (checkArguments_meets rfl).mono (fun _ _ _ => trivial) fun _ => id
  unfold Meets at kept ⊢
  split at kept
  next checked =>
    obtain ⟨same, _, _, noLink⟩ := run_checkArguments_eq_ok_iff.1 checked
    exact ⟨same, noLink⟩
  next => exact kept.symm

/-- A pass whose root is seen to be a link, or cannot be made, fails before it changes anything. -/
theorem run_refuses
    (refused : (∃ target, fs.lstat twin = .ok (.link target)) ∨
      options.dryRun = false ∧ ∃ failure, fs.createDirectories twin = (fs, .error failure)) :
    Meets (run source twin options policy) { fileSystem := fs } (fun _ _ => False)
      fun after => after.fileSystem = fs := by
  unfold run
  have checks : Meets (checkArguments source twin) { fileSystem := fs } _ _ :=
    checkArguments_meets_lstat
  refine (checks.mono (fun _ _ => id) fun _ same => same ▸ rfl).bind ?_
  rintro _ _ ⟨rfl, noLink⟩
  cases prepared : prepare source twin options policy with
  | error reason => exact meets_throw rfl
  | ok task =>
    obtain ⟨rfl, rfl, rfl, _⟩ := eq_of_prepare prepared
    rcases refused with ⟨target, shown⟩ | ⟨real, failure, blocked⟩
    · exact absurd shown (noLink target)
    · refine (prepareRoot_meets.mono (fun _ _ => id) ?_).bind ?_
      · rintro after ⟨_, same⟩
        rw [same, blocked]
      · intro _ ready prepared
        obtain ⟨created, _⟩ := prepared.created real
        cases created.symm.trans blocked

end Pass

/-- A twin whose last name is that of a link is refused, and nothing is changed, where its path ends
in the name, and in a real pass also where the link leads to no directory. In any other case only
the source can be the reason of a refusal: the root is taken as it is. -/
theorem linked_root_refused (wellFormed : fs.WellFormed) (linked : fs.NamesLink twin target) :
    let outcome := deriveWith fs source twin options policy
    let refused := (twin.EndsInName ∧ twin.bytes.length ≤ pathLimit) ∨
      options.dryRun = false ∧ fs.isDirectory twin = false
    (refused → (∃ error, outcome.result = .error error) ∧ outcome.fileSystem = fs) ∧
    (¬ refused → fs.isDirectory source = true → fs.overlaps source twin = false →
      ∃ ready, EStateM.run (do
          Pass.checkArguments source twin
          Pass.prepareRoot twin options.dryRun) { fileSystem := fs } = .ok () ready ∧
        ready.fileSystem = fs) := by
  intro outcome refused
  constructor
  · intro refused
    have meets : Pass.Meets (Pass.run source twin options policy) { fileSystem := fs }
        (fun _ _ => False) fun after => after.fileSystem = fs := by
      apply Pass.run_refuses
      rcases refused with ends | ⟨real, blocked⟩
      · exact .inl ((linked.lstat_link_iff wellFormed).2 ends)
      · exact .inr ⟨real, linked.createDirectories_eq_error wellFormed blocked⟩
    simp only [outcome, deriveWith]
    split
    next ended => exact (meets.of_run ended).elim
    next error after ended => exact ⟨⟨error, rfl⟩, meets.of_run_error ended⟩
  · intro taken isDirectory apart
    rw [not_or] at taken
    have noLink : ∀ target, fs.lstat twin ≠ .ok (.link target) := by
      intro target shown
      exact taken.1 ((linked.lstat_link_iff wellFormed).1 ⟨target, shown⟩)
    have checked : EStateM.run (Pass.checkArguments source twin) { fileSystem := fs } =
        .ok () { fileSystem := fs } :=
      Pass.run_checkArguments_eq_ok_iff.2 ⟨rfl, isDirectory, apart, noLink⟩
    rw [Pass.run_bind, checked]
    cases dry : options.dryRun with
    | true => exact ⟨_, rfl, rfl⟩
    | false =>
      have standing : fs.isDirectory twin = true := by simpa [dry] using taken.2
      exact ⟨_, Pass.run_prepareRoot (createDirectories_of_isDirectory standing), rfl⟩

/-- A source `s` with a header, a directory `e`, a link `d` to it and a link `l` to nothing. -/
def linkedRootTree : FileSystem :=
  treeOf
    [(["d"], .link (Utf8.encode "e".toList)),
     (["e"], .directory),
     (["l"], .link (Utf8.encode "x".toList)),
     (["s"], .directory),
     (["s", "a.h"], .file [0x78] 0o644)]

theorem namesLink_linkedRootTree :
    linkedRootTree.NamesLink (.ofString "d") [0x65] ∧
    linkedRootTree.NamesLink (.ofString "d/") [0x65] ∧
    linkedRootTree.NamesLink (.ofString "l/.") [0x78] :=
  ⟨⟨[], [0x64], linkLimit, [], by decide, .done, by decide⟩,
   ⟨[], [0x64], linkLimit, [], by decide, .done, by decide⟩,
   ⟨[], [0x6C], linkLimit, [], by decide, .done, by decide⟩⟩

theorem linked_root_refused_linkedRootTree :
    ((∃ error, (deriveWith linkedRootTree (.ofString "s") (.ofString "d") {} fun _ => true).result =
        .error error) ∧
      (deriveWith linkedRootTree (.ofString "s") (.ofString "d") {} fun _ => true).fileSystem =
        linkedRootTree) ∧
    ((∃ error, (deriveWith linkedRootTree (.ofString "s") (.ofString "l/.") {} fun _ =>
        true).result = .error error) ∧
      (deriveWith linkedRootTree (.ofString "s") (.ofString "l/.") {} fun _ => true).fileSystem =
        linkedRootTree) ∧
    ∃ ready, EStateM.run (do
        Pass.checkArguments (.ofString "s") (.ofString "d/")
        Pass.prepareRoot (.ofString "d/") false) { fileSystem := linkedRootTree } = .ok () ready ∧
      ready.fileSystem = linkedRootTree := by
  have wellFormed : linkedRootTree.WellFormed := by decide
  obtain ⟨bare, slashed, dotted⟩ := namesLink_linkedRootTree
  refine ⟨?_, ?_, ?_⟩
  · exact (linked_root_refused wellFormed bare).1 (.inl (by decide))
  · exact (linked_root_refused wellFormed dotted).1 (.inr ⟨rfl, by decide⟩)
  · exact (@linked_root_refused linkedRootTree (.ofString "s") (.ofString "d/") {} (fun _ => true)
      _ wellFormed slashed).2 (by decide) (by decide) (by decide)

/-- A slash behind the name is enough for a pass to go through the link and to write beyond it. -/
theorem linked_root_written_through : linkedRootTree.WellFormed ∧
    linkedRootTree.NamesLink (.ofString "d/") [0x65] ∧
    linkedRootTree.isDirectory (.ofString "s") = true ∧
    (deriveWith linkedRootTree (.ofString "s") (.ofString "d/") {} fun _ => true).result.isOk =
      true ∧
    linkedRootTree.get? [Utf8.encode "a.h".toList, [0x65]] = none ∧
    (deriveWith linkedRootTree (.ofString "s") (.ofString "d/") {} fun _ => true).fileSystem.get?
      [Utf8.encode "a.h".toList, [0x65]] = some (.file [0x78] 0o644) :=
  ⟨by decide, namesLink_linkedRootTree.2.1, by decide, by decide +kernel, by decide,
    by decide +kernel⟩

end TwinTree
