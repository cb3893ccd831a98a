import TwinTree.Proofs.Destination.Safety

/-!
# Trees that do not overlap

The check for overlap reads the normal form of the destination off the nearest ancestor that
exists. Where a pass goes on to make the destination, that form is its prospect
(`components_normalizeMissing`), so neither tree contains the other (`apart_of_overlaps`).
-/
namespace TwinTree.FileSystem

variable {fs : FileSystem} {path : Path} {base here there : Location} {left : Nat}
  {names missing : List Name}

theorem nul_notMem_of_names (absent : ∀ name ∈ path.names, 0 ∉ name) : 0 ∉ path.bytes := by
  have piecewise : ∀ piece ∈ pieces slash path.bytes, 0 ∉ piece := by
    intro piece member within
    by_cases empty : piece = []
    · subst empty
      cases within
    · exact absent piece (Path.mem_names.2 ⟨member, empty⟩) within
  rw [pieces, List.forall_mem_cons] at piecewise
  rw [← splitOn_append_joinWith slash path.bytes, List.mem_append, not_or, joinWith,
    List.mem_flatMap]
  refine ⟨piecewise.1, ?_⟩
  rintro ⟨piece, member, within⟩
  rcases List.mem_cons.1 within with separator | within
  · cases separator
  · exact piecewise.2 piece member within

theorem nul_notMem_of_route (absent : ∀ name ∈ path.route, 0 ∉ name) : 0 ∉ path.bytes := by
  refine nul_notMem_of_names fun name member => ?_
  by_cases isDot : name = dot
  · rw [isDot]
    decide
  · exact absent name (List.mem_filter.2 ⟨member, by simpa using isDot⟩)

theorem canonicalize_eq_ok_iff : fs.canonicalize path = .ok there ↔
    checkText path path.bytes.length = .ok () ∧ fs.get? there ≠ none ∧
      ∃ left, Leads fs linkLimit path.steps (fs.origin path) left there := by
  unfold canonicalize
  rw [bind_eq_ok_iff]
  constructor
  · rintro ⟨⟨⟩, accepted, rest⟩
    obtain ⟨location, found, rest⟩ := bind_eq_ok_iff.1 rest
    obtain ⟨object, required, same⟩ := bind_eq_ok_iff.1 rest
    cases same
    exact ⟨accepted, by simp [require_eq_ok_iff.1 required], resolve_eq_ok_iff.1 found⟩
  · rintro ⟨accepted, existing, leads⟩
    obtain ⟨object, standing⟩ := Option.ne_none_iff_exists'.1 existing
    refine ⟨(), accepted, bind_eq_ok_iff.2 ⟨there, resolve_eq_ok_iff.2 leads, ?_⟩⟩
    exact bind_eq_ok_iff.2 ⟨object, require_eq_ok_iff.2 standing, rfl⟩

theorem prospect_of_canonicalize (found : fs.canonicalize path = .ok there) :
    fs.prospect path = there := by
  obtain ⟨_, _, left, leads⟩ := canonicalize_eq_ok_iff.1 found
  rw [prospect_eq_steps, leads.prospectFrom_eq]

/-- A path that leads to a directory has a canonical location. -/
theorem canonicalize_of_leads (wellFormed : fs.WellFormed) (nonempty : path.bytes ≠ [])
    (directory : fs.get? there = some .directory)
    (leads : Leads fs linkLimit path.names (fs.origin path) left there) :
    fs.canonicalize path = .ok there := by
  have existing : fs.get? there ≠ none := by simp [directory]
  have absent := nul_notMem_of_names (leads.nul_notMem wellFormed existing)
  exact canonicalize_eq_ok_iff.2 ⟨checkText_eq_ok_iff.2 ⟨absent, nonempty, Nat.le_refl _⟩, existing,
    left, (leads_steps_iff directory).2 leads⟩

/-- The path of a directory leads to its canonical location. -/
theorem exists_canonicalize_of_isDirectory (wellFormed : fs.WellFormed)
    (isDirectory : fs.isDirectory path = true) :
    ∃ left there, Leads fs linkLimit path.names (fs.origin path) left there ∧
      fs.get? there = some .directory ∧ fs.canonicalize path = .ok there := by
  obtain ⟨accepted, left, there, leads, directory⟩ := isDirectory_iff.1 isDirectory
  exact ⟨left, there, leads, directory,
    canonicalize_of_leads wellFormed (checkText_eq_ok_iff.1 accepted).2.1 directory leads⟩

variable {permitted : Location → Object → Prop} {later : FileSystem}

/-- What has a canonical location keeps it. -/
theorem Evolves.canonicalize (evolves : Evolves permitted fs later)
    (found : fs.canonicalize path = .ok there) : later.canonicalize path = .ok there := by
  obtain ⟨accepted, existing, left, leads⟩ := canonicalize_eq_ok_iff.1 found
  refine canonicalize_eq_ok_iff.2 ⟨accepted, ?_, left, ?_⟩
  · exact fun missing => existing ((evolves.developed there).missing missing)
  · rw [evolves.origin_eq]
    exact evolves.leads leads

/-- Where a path has led is its canonical location once something stands there. -/
theorem Evolves.canonicalize_of_locate (evolves : Evolves permitted fs later)
    (found : fs.locate path true = .ok there) (existing : later.get? there ≠ none) :
    later.canonicalize path = .ok there := by
  obtain ⟨accepted, left, leads⟩ := locate_eq_ok_iff.1 found
  obtain ⟨noNul, nonempty, _⟩ := checkText_eq_ok_iff.1 accepted
  refine canonicalize_eq_ok_iff.2
    ⟨checkText_eq_ok_iff.2 ⟨noNul, nonempty, Nat.le_refl _⟩, existing, left, ?_⟩
  rw [evolves.origin_eq]
  exact evolves.leads leads

/-! ### The nearest ancestor -/

/-- Going up from a path passes its last names up to the first ancestor that exists. -/
theorem nearest_eq {start : List Component} {whole : Path} {passed : List Name}
    (split : path.components = start ++ missing.map .name)
    (reached : ∀ above : Path, above.components = start → fs.canonicalize above = .ok base)
    (blocked : ∀ (below : Path) (more : List Name), below.components = start ++ more.map .name →
      more ≠ [] → more <+: missing → ∀ location, fs.canonicalize below ≠ .ok location) :
    fs.nearest whole path.ancestors passed = base.toPath.extend (missing ++ passed) := by
  -- From the end of the missing names upward, as the ancestors come.
  induction missing using List.reverseRecOn generalizing path passed with
  | nil =>
    have found := reached path (by simpa using split)
    rw [Path.ancestors_eq, nearest, found]
    rfl
  | append_singleton front name ih =>
    have stopped := blocked path (front ++ [name]) split (by simp) List.prefix_rfl
    rw [List.map_append, ← List.append_assoc] at split
    obtain ⟨name_eq, above, parent, above_eq⟩ := Path.exists_parent?_of_name split
    rw [Path.ancestors_eq, nearest, parent, name_eq]
    cases found : fs.canonicalize path with
    | ok location => exact absurd found (stopped location)
    | error failure =>
      have higher : fs.nearest whole above.ancestors (name :: passed) =
          base.toPath.extend (front ++ name :: passed) :=
        ih above_eq fun below more split nonempty starts =>
          blocked below more split nonempty (starts.trans (List.prefix_append ..))
      simpa using higher

/-- What is behind the root in an absolute text. -/
theorem names_absolutize (wellFormed : fs.WellFormed) (path : Path) :
    (fs.absolutize path).names = (fs.origin path).reverse ++ path.names := by
  unfold absolutize origin
  split
  next => rfl
  next relative =>
    rw [Path.names_join (by simpa using relative),
      Location.names_toPath (wellFormed.isPlain wellFormed.working)]

namespace StopsAt

/-- Nothing is where a path that stops would lead. -/
theorem get?_prospect (wellFormed : fs.WellFormed) (stops : StopsAt fs path base missing) :
    fs.get? (fs.prospect path) = none := by
  rw [stops.prospect_eq wellFormed]
  obtain ⟨first, rest, rfl, vacant⟩ := stops.vacant
  rw [List.reverse_cons, List.append_assoc, List.singleton_append]
  -- What is missing is missing itself, and everything beneath it is missing too.
  by_cases last : rest = []
  · subst last
    exact vacant
  · exact wellFormed.get?_append (by simp [vacant]) (by simpa using last)

theorem absolutize (wellFormed : fs.WellFormed) (stops : StopsAt fs path base missing) :
    StopsAt fs (fs.absolutize path) base missing where
  leads := by
    obtain ⟨front, left, leads, route⟩ := stops.leads
    have start := get?_origin wellFormed path
    have origin_eq : fs.origin (fs.absolutize path) = [] :=
      origin_of_isAbsolute (isAbsolute_absolutize fs path)
    refine ⟨(fs.origin path).reverse ++ front, left, ?_, ?_⟩
    · rw [origin_eq]
      exact (wellFormed.leads start).append (by simp [start]) leads
    · rw [Path.route, names_absolutize wellFormed, List.filter_append, List.filter_append,
        List.append_assoc]
      exact congrArg _ route
  directory := stops.directory
  plain := stops.plain
  vacant := stops.vacant

/-- The way of an absolute path up to where it stops, and what is above and below on it. -/
theorem nearest_eq {whole : Path} (wellFormed : fs.WellFormed)
    (absolute : path.isAbsolute = true) (stops : StopsAt fs path base missing) :
    fs.nearest whole path.ancestors [] = base.toPath.extend missing := by
  obtain ⟨front, left, leads, route⟩ := stops.leads
  rw [origin_of_isAbsolute absolute] at leads
  let start : List Component := .root :: Path.inner (front.filter (· ≠ dot))
  have components_eq : path.components = start ++ missing.map .name := by
    rw [Path.components_of_isAbsolute absolute, route, Path.inner_append,
      Path.inner_of_isPlain stops.plain]
    rfl
  -- What any path on the way goes through, told from its components.
  have known : ∀ (other : Path) (more : List Name), other.components = start ++ more.map .name →
      other.isAbsolute = true ∧ other.route = front.filter (· ≠ dot) ++ more := by
    intro other more split
    refine ⟨(Path.head?_components other).2 (by rw [split]; rfl), ?_⟩
    have above : (Path.inner (front.filter (· ≠ dot))).filterMap Component.step? =
        front.filter (· ≠ dot) :=
      Path.filterMap_step?_inner_route (route ▸ List.subset_append_left ..)
    rw [Path.route_eq, split, List.filterMap_append, List.filterMap_cons, above,
      Path.filterMap_step?_names]
    rfl
  have reached : ∀ above : Path, above.components = start → fs.canonicalize above = .ok base := by
    intro above split
    obtain ⟨aboveAbsolute, aboveRoute⟩ := known above [] (by simpa using split)
    have nonempty : above.bytes ≠ [] := by
      rw [Ne, ← Path.components_eq_nil_iff, split]
      simp [start]
    have way : Leads fs linkLimit above.names (fs.origin above) left base := by
      rw [origin_of_isAbsolute aboveAbsolute]
      rw [List.append_nil] at aboveRoute
      exact leads.of_filter_eq stops.directory aboveRoute.symm
    exact canonicalize_of_leads wellFormed nonempty stops.directory way
  have blocked : ∀ (below : Path) (more : List Name), below.components = start ++ more.map .name →
      more ≠ [] → more <+: missing → ∀ location, fs.canonicalize below ≠ .ok location := by
    intro below more split nonempty starts location found
    obtain ⟨belowAbsolute, belowRoute⟩ := known below more split
    have belowStops : StopsAt fs below base more :=
      { leads := ⟨front, left, by rwa [origin_of_isAbsolute belowAbsolute], belowRoute⟩
        directory := stops.directory
        plain := fun name member => stops.plain name (starts.subset member)
        vacant := by
          obtain ⟨first, rest, missing_eq, vacant⟩ := stops.vacant
          obtain ⟨next, others, rfl⟩ := List.exists_cons_of_ne_nil nonempty
          rw [missing_eq] at starts
          obtain ⟨rfl, _⟩ := List.cons_prefix_cons.1 starts
          exact ⟨next, others, rfl, vacant⟩ }
    have missing := belowStops.get?_prospect wellFormed
    rw [prospect_of_canonicalize found] at missing
    exact (canonicalize_eq_ok_iff.1 found).2.1 missing
  rw [FileSystem.nearest_eq components_eq reached blocked, List.append_nil]

end StopsAt

/-- A path that leads to a directory has its place for a normal form. -/
theorem canonicalize_absolutize (wellFormed : fs.WellFormed)
    (directory : fs.get? there = some .directory)
    (leads : Leads fs linkLimit path.names (fs.origin path) left there) :
    fs.canonicalize (fs.absolutize path) = .ok there := by
  have absolute := isAbsolute_absolutize fs path
  have nonempty : (fs.absolutize path).bytes ≠ [] := by
    intro empty
    simp [Path.isAbsolute, empty] at absolute
  have way : Leads fs linkLimit (fs.absolutize path).names (fs.origin (fs.absolutize path)) left
      there := by
    rw [origin_of_isAbsolute absolute]
    exact leads.absolutize wellFormed
  exact canonicalize_of_leads wellFormed nonempty directory way

/-- The normal form of a destination that can be made goes on from a directory to its prospect, by
the names that are missing. -/
theorem exists_normalizeMissing_eq (wellFormed : fs.WellFormed) (anchored : fs.Anchored path)
    (made : (fs.createDirectories path).1 ≠ fs ∨ (fs.createDirectories path).2 = .ok ()) :
    ∃ base missing, fs.get? base = some .directory ∧ (∀ name ∈ missing, IsPlain name) ∧
      fs.prospect path = missing.reverse ++ base ∧
      fs.normalizeMissing path = base.toPath.extend missing := by
  unfold normalizeMissing
  -- Where nothing had to be made the path itself is canonical.
  rcases createDirectories_spec wellFormed anchored with same | ⟨base, missing, stops, _⟩
  · have created : fs.createDirectories path = (fs, .ok ()) :=
      Prod.ext same (made.resolve_left (not_not.2 same))
    obtain ⟨directory, left, leads⟩ := leads_of_createDirectories wellFormed anchored created
    have found := canonicalize_absolutize wellFormed directory leads
    refine ⟨fs.prospect path, [], directory, by simp, rfl, ?_⟩
    rw [Path.ancestors_eq, nearest, found]
    rfl
  · -- The nearest ancestor is where the path stops, and the missing names come behind it.
    have nearest : fs.nearest (fs.absolutize path) (fs.absolutize path).ancestors [] =
        base.toPath.extend missing :=
      (stops.absolutize wellFormed).nearest_eq wellFormed (isAbsolute_absolutize fs path)
    exact ⟨base, missing, stops.directory, stops.plain, stops.prospect_eq wellFormed, nearest⟩

/-- The normal form of a destination that can be made is its prospect. -/
theorem normalizeMissing_eq (wellFormed : fs.WellFormed) (anchored : fs.Anchored path)
    (made : (fs.createDirectories path).1 ≠ fs ∨ (fs.createDirectories path).2 = .ok ()) :
    fs.normalizeMissing path = (fs.prospect path).toPath := by
  obtain ⟨base, missing, directory, plain, prospect_eq, normal⟩ :=
    exists_normalizeMissing_eq wellFormed anchored made
  rw [normal, prospect_eq, Location.extend_toPath (wellFormed.isPlain directory) plain]

theorem components_normalizeMissing (wellFormed : fs.WellFormed) (anchored : fs.Anchored path)
    (made : (fs.createDirectories path).1 ≠ fs ∨ (fs.createDirectories path).2 = .ok ()) :
    (fs.normalizeMissing path).components =
      .root :: (fs.prospect path).reverse.map .name := by
  obtain ⟨base, missing, directory, plain, prospect_eq, normal⟩ :=
    exists_normalizeMissing_eq wellFormed anchored made
  rw [normal, prospect_eq, Path.components_extend plain,
    Location.components_toPath (wellFormed.isPlain directory)]
  simp

/-- Where the check finds no overlap and the destination can be made, neither the source nor the
prospect of the destination contains the other. -/
theorem apart_of_overlaps {source twin : Path} {location : Location} (wellFormed : fs.WellFormed)
    (anchored : fs.Anchored twin)
    (made : (fs.createDirectories twin).1 ≠ fs ∨ (fs.createDirectories twin).2 = .ok ())
    (found : fs.canonicalize source = .ok location) (apart : fs.overlaps source twin = false) :
    ¬ location <:+ fs.prospect twin ∧ ¬ fs.prospect twin <:+ location := by
  have target := components_normalizeMissing wellFormed anchored made
  obtain ⟨object, standing⟩ :=
    Option.ne_none_iff_exists'.1 (canonicalize_eq_ok_iff.1 found).2.1
  have origin := Location.components_toPath (wellFormed.isPlain standing)
  -- Both normal forms are canonical texts, which begin alike when the locations contain each other.
  have contains : ∀ above below : Location, above <:+ below →
      (Component.root :: above.reverse.map .name) <+: .root :: below.reverse.map .name := by
    intro above below within
    exact List.cons_prefix_cons.2 ⟨rfl, (List.reverse_prefix.2 within).map _⟩
  rw [overlaps, normalize, found] at apart
  simp only [Path.startsWith, target, origin, Bool.or_eq_false_iff] at apart
  constructor
  · intro within
    have starts := List.isPrefixOf_iff_prefix.2 (contains _ _ within)
    rw [apart.1] at starts
    cases starts
  · intro within
    have starts := List.isPrefixOf_iff_prefix.2 (contains _ _ within)
    rw [apart.2] at starts
    cases starts

end TwinTree.FileSystem
