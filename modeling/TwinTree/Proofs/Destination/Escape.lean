import TwinTree.Proofs.Destination.Acceptance
import TwinTree.Proofs.Destination.Overlap
import TwinTree.Proofs.Pass.Lockstep

/-!
# What a safe place is beneath

The check on a place goes down its text from the root. No path that exists on the way is a link
(`lstat_ne_link_of_inspect`), and where the text does not climb, a file written there lies beneath
the root (`written_beneath_root`). A text that climbs is let through, and leads out of the root
(`escape_through_climb`).
-/
namespace TwinTree

open FileSystem

/-- A name that is a segment of its own in every path: a plain one, or the way up. -/
def IsSegment (name : Name) : Prop :=
  (Path.mk name).isAbsolute = false ∧ (Path.mk name).names = [name]

theorem IsPlain.isSegment {name : Name} (plain : IsPlain name) : IsSegment name :=
  ⟨Path.isAbsolute_of_name plain, Path.names_of_name plain⟩

theorem isSegment_dotDot : IsSegment dotDot := ⟨rfl, rfl⟩

/-- A component below the start of a path. -/
def Component.IsBelow (component : Component) : Prop :=
  component = .parent ∨ ∃ name, component = .name name ∧ IsPlain name

theorem Component.IsBelow.isSegment {component : Component} (below : component.IsBelow) :
    IsSegment component.toName := by
  rcases below with rfl | ⟨name, rfl, plain⟩
  · exact isSegment_dotDot
  · exact plain.isSegment

/-- Components below a root that do not climb are plain names. -/
theorem exists_names_of_isBelow {below : List Component}
    (known : ∀ component ∈ below, component.IsBelow) (descends : .parent ∉ below) :
    ∃ names : List Name, (∀ name ∈ names, IsPlain name) ∧ below = names.map .name := by
  induction below with
  | nil => exact ⟨[], by simp, rfl⟩
  | cons component rest ih =>
    rw [List.forall_mem_cons] at known
    rw [List.mem_cons, not_or] at descends
    obtain ⟨names, plain, rfl⟩ := ih known.2 descends.2
    obtain ⟨name, rfl, first⟩ := known.1.resolve_left fun climbs => descends.1 climbs.symm
    exact ⟨name :: names, List.forall_mem_cons.2 ⟨first, plain⟩, rfl⟩

theorem Path.names_extend {path : Path} {names : List Name}
    (segments : ∀ name ∈ names, IsSegment name) :
    (path.extend names).names = path.names ++ names := by
  induction names generalizing path with
  | nil => simp [extend]
  | cons name rest ih =>
    rw [List.forall_mem_cons] at segments
    have further : ((path.join ⟨name⟩).extend rest).names = (path.join ⟨name⟩).names ++ rest :=
      ih segments.2
    rw [names_join segments.1.1, segments.1.2, List.append_assoc] at further
    exact further

theorem Path.isAbsolute_extend {path : Path} {names : List Name}
    (segments : ∀ name ∈ names, IsSegment name) :
    (path.extend names).isAbsolute = path.isAbsolute := by
  induction names generalizing path with
  | nil => rfl
  | cons name rest ih =>
    rw [List.forall_mem_cons] at segments
    have further : ((path.join ⟨name⟩).extend rest).isAbsolute = (path.join ⟨name⟩).isAbsolute :=
      ih segments.2
    rwa [isAbsolute_join segments.1.1] at further

/-- What has been found of a place that passes the check: its text goes on from the root's, and the
pieces on the way that exist are no links. -/
structure FollowsRoot (fs : FileSystem) (item root : Path) (below : List Component) : Prop where
  components_eq : (fs.absolutize item).components = (fs.absolutize root).components ++ below
  noLink : ∀ front, front <+: below → front ≠ [] → ∀ target,
    fs.lstat ((fs.absolutize root).extend (front.map Component.toName)) ≠ .ok (.link target)

/-- A file has been written at a path, or to the FIFO or device that is there, and nothing has
changed but beneath a location. -/
structure WrittenBeneath (before after : FileSystem) (item : Path) (content : List UInt8)
    (home : Location) : Prop where
  written : ∃ place mode, after.canonicalize item = .ok place ∧
    after.get? place = some ((Object.file content mode).inPlaceOf (before.get? place)) ∧
    home <:+ place ∧ place ≠ home
  spared : ∀ location, after.get? location ≠ before.get? location →
    home <:+ location ∧ location ≠ home

namespace FileSystem

variable {fs : FileSystem} {path item root : Path} {here there : Location} {left : Nat}
  {name : Name} {names : List Name} {component : Component} {below front : List Component}

/-! ### Ways below a root -/

/-- Resolution of a path goes on from where its front leads, with a slash at the end or not. -/
theorem exists_steps_extend (path : Path) (segments : ∀ name ∈ names, IsSegment name) :
    ∃ final, (final = [] ∨ final = [dot]) ∧
      (path.extend names).steps = path.names ++ (names ++ final) := by
  rw [Path.steps, Path.names_extend segments]
  split
  · exact ⟨[dot], .inr rfl, List.append_assoc ..⟩
  · exact ⟨[], .inl rfl, by simp⟩

/-- Behind anything but a directory a path shows nothing. -/
theorem lstat_ne_ok_of_leads {object : Object} (segments : ∀ name ∈ names, IsSegment name)
    (further : names ≠ []) (leads : Leads fs linkLimit path.names (fs.origin path) left here)
    (noDirectory : fs.get? here ≠ some .directory) :
    fs.lstat (path.extend names) ≠ .ok object := by
  intro shown
  obtain ⟨location, located, _⟩ := bind_eq_ok_iff.1 shown
  obtain ⟨_, _, resolved⟩ := bind_eq_ok_iff.1 located
  obtain ⟨final, _, steps_eq⟩ := exists_steps_extend path segments
  obtain ⟨segment, rest, rfl⟩ := List.exists_cons_of_ne_nil further
  have origin_eq : fs.origin (path.extend (segment :: rest)) = fs.origin path := by
    rw [origin, origin, Path.isAbsolute_extend segments]
  rw [steps_eq, origin_eq, leads.resolve_append (.inl (by simp)), resolve_eq_walk,
    List.cons_append, walk] at resolved
  split at resolved
  next => cases resolved
  next directory => exact noDirectory directory
  next => cases resolved

/-- A climb from a directory leads to the one above it. -/
theorem resolve_join_dotDot (wellFormed : fs.WellFormed)
    (directory : fs.get? here = some .directory)
    (leads : Leads fs linkLimit path.names (fs.origin path) left here) :
    fs.resolve false linkLimit (path.join ⟨dotDot⟩).steps (fs.origin (path.join ⟨dotDot⟩)) =
      .ok here.tail := by
  have segments : ∀ name ∈ [dotDot], IsSegment name := by simpa using isSegment_dotDot
  obtain ⟨final, ends, steps_eq⟩ := exists_steps_extend path segments
  have steps_eq : (path.join ⟨dotDot⟩).steps = path.names ++ (dotDot :: final) := steps_eq
  have origin_eq : fs.origin (path.join ⟨dotDot⟩) = fs.origin path := by
    rw [origin, origin, Path.isAbsolute_join isSegment_dotDot.1]
  rw [steps_eq, origin_eq, leads.resolve_append (.inl (by simp)), resolve_eq_walk, walk, directory]
  rcases ends with rfl | rfl
  · rfl
  · simp [walk, wellFormed.get?_tail directory, dot, dotDot]

/-- A climb from a directory shows the one above it, unless its text is refused. -/
theorem lstat_join_dotDot_cases (wellFormed : fs.WellFormed)
    (directory : fs.get? here = some .directory)
    (leads : Leads fs linkLimit path.names (fs.origin path) left here) :
    fs.lstat (path.join ⟨dotDot⟩) = fs.require here.tail ∨
      ∃ failure, failure ≠ .notFound ∧ fs.lstat (path.join ⟨dotDot⟩) = .error failure := by
  rw [lstat, locate, resolve_join_dotDot wellFormed directory leads]
  cases accepted : checkText (path.join ⟨dotDot⟩) pathLimit with
  | ok => exact .inl rfl
  | error failure =>
    refine .inr ⟨failure, ?_, rfl⟩
    rintro rfl
    refine checkText_ne_notFound (fun empty => ?_) accepted
    have last : (path.join ⟨dotDot⟩).names = path.names ++ [dotDot] :=
      Path.names_join isSegment_dotDot.1
    have nothing : (path.join ⟨dotDot⟩).names = [] := by
      rw [Path.names, Path.head, Path.body, empty]
      rfl
    simp [nothing] at last

/-- A name in a directory leads to its place, unless there is a link. -/
theorem leads_name (directory : fs.get? here = some .directory) (plain : IsPlain name)
    (short : name.length ≤ nameLimit)
    (noLink : ∀ target, fs.get? (name :: here) ≠ some (.link target)) :
    Leads fs left [name] here left (name :: here) := by
  cases found : fs.get? (name :: here) with
  | none => exact .vacant directory plain.ne_dot plain.ne_dotDot short found
  | some object =>
    have stays : object.isLink = false := by
      cases object <;> first | rfl | exact absurd found (noLink _)
    exact .enter directory plain.ne_dot plain.ne_dotDot short found stays .done

/-- A piece that is inspected without complaint leads to what it shows, which is no link. -/
theorem exists_of_inspect_cons (wellFormed : fs.WellFormed) (known : component.IsBelow)
    (directory : fs.get? here = some .directory)
    (leads : Leads fs linkLimit path.names (fs.origin path) left here)
    (passed : fs.inspect path (component :: below) = .ok ()) :
    ∃ there, Leads fs linkLimit (path.join ⟨component.toName⟩).names
        (fs.origin (path.join ⟨component.toName⟩)) left there ∧
      fs.lstat (path.join ⟨component.toName⟩) = fs.require there ∧
      (∀ target, fs.get? there ≠ some (.link target)) ∧
      (fs.get? there ≠ none → fs.inspect (path.join ⟨component.toName⟩) below = .ok ()) := by
  have segment := known.isSegment
  -- It shows something, as a text that is refused is a complaint.
  obtain ⟨there, shown, step⟩ : ∃ there,
      fs.lstat (path.join ⟨component.toName⟩) = fs.require there ∧
        ((∀ target, fs.get? there ≠ some (.link target)) →
          Leads fs left [component.toName] here left there) := by
    rcases known with rfl | ⟨name, rfl, plain⟩
    · rcases lstat_join_dotDot_cases wellFormed directory leads with shown | ⟨_, other, shown⟩
      · exact ⟨here.tail, shown, fun _ => .up directory .done⟩
      · exact absurd passed (inspect_cons_ne_ok shown other)
    · rcases lstat_join_cases plain directory leads with
        ⟨⟨_, short⟩, shown⟩ | ⟨_, _, other, shown⟩
      · exact ⟨name :: here, shown, leads_name directory plain short⟩
      · exact absurd passed (inspect_cons_ne_ok shown other)
  obtain ⟨noLink, further⟩ := of_inspect_cons shown passed
  refine ⟨there, ?_, shown, noLink, further⟩
  rw [Path.names_join segment.1, segment.2, origin, Path.isAbsolute_join segment.1]
  exact leads.append (by simp [directory]) (step noLink)

/-- What is inspected without complaint shows no link, as far as it exists. -/
theorem lstat_ne_link_of_inspect (wellFormed : fs.WellFormed)
    (known : ∀ component ∈ below, component.IsBelow)
    (directory : fs.get? here = some .directory)
    (leads : Leads fs linkLimit path.names (fs.origin path) left here)
    (passed : fs.inspect path below = .ok ()) (starts : front <+: below) (nonempty : front ≠ [])
    (target : List UInt8) :
    fs.lstat (path.extend (front.map Component.toName)) ≠ .ok (.link target) := by
  -- The inspection stops at the first piece that is missing, behind which nothing exists; up to
  -- there, each piece goes on from a directory.
  induction below generalizing path here front with
  | nil => exact absurd (List.prefix_nil.1 starts) nonempty
  | cons component rest ih =>
    obtain ⟨first, more, rfl⟩ := List.exists_cons_of_ne_nil nonempty
    obtain ⟨rfl, behind⟩ := List.cons_prefix_cons.1 starts
    rw [List.forall_mem_cons] at known
    obtain ⟨there, way, shown, noLink, further⟩ :=
      exists_of_inspect_cons wellFormed known.1 directory leads passed
    have extend_eq : path.extend ((first :: more).map Component.toName) =
        (path.join ⟨first.toName⟩).extend (more.map Component.toName) := rfl
    rw [extend_eq]
    by_cases last : more = []
    · subst last
      intro link
      exact noLink target (require_eq_ok_iff.1 (shown.symm.trans link))
    · by_cases deeper : fs.get? there = some .directory
      · exact ih known.2 deeper way (further (by simp [deeper])) behind last
      · refine lstat_ne_ok_of_leads ?_ (by simpa using last) way deeper
        intro name member
        obtain ⟨component, within, rfl⟩ := List.mem_map.1 member
        exact (known.2 component (behind.subset within)).isSegment

/-- A place that passes the check goes on from the text of the root, and what comes below has been
inspected. -/
theorem exists_below_of_checkSafe (passed : fs.checkSafe item root = .ok ()) :
    ∃ below, (fs.absolutize item).components = (fs.absolutize root).components ++ below ∧
      (∀ component ∈ below, component.IsBelow) ∧
      fs.inspect (fs.absolutize root) below = .ok () := by
  rw [checkSafe] at passed
  split at passed
  next => cases passed
  next inner stripped =>
    obtain ⟨components_eq, kinds⟩ :=
      Path.components_of_stripStart? (isAbsolute_absolutize fs root) stripped
    refine ⟨inner.components, components_eq, fun component member => ?_, passed⟩
    rcases kinds component member with rfl | ⟨name, rfl⟩
    · exact .inl rfl
    · exact .inr ⟨name, rfl, Path.isPlain_of_name_mem member⟩

/-! ### Absolute texts -/

theorem route_absolutize (wellFormed : fs.WellFormed) (path : Path) :
    (fs.absolutize path).route = (fs.origin path).reverse ++ path.route := by
  have plain : ∀ name ∈ (fs.origin path).reverse, IsPlain name := fun name member =>
    wellFormed.isPlain (get?_origin wellFormed path) name (List.mem_reverse.1 member)
  rw [Path.route, names_absolutize wellFormed, List.filter_append,
    Path.filter_eq_self_of_isPlain plain]
  rfl

/-- A path and its absolute text are going to lead to the same place. -/
theorem prospect_absolutize (wellFormed : fs.WellFormed) (path : Path) :
    fs.prospect (fs.absolutize path) = fs.prospect path := by
  have start : Leads fs linkLimit (fs.origin path).reverse [] linkLimit (fs.origin path) :=
    wellFormed.leads (get?_origin wellFormed path)
  rw [prospect, origin_of_isAbsolute (isAbsolute_absolutize fs path), route_absolutize wellFormed,
    start.prospectFrom_append]
  rfl

/-- A path climbs from directories only if its absolute text does. -/
theorem anchored_of_absolutize (wellFormed : fs.WellFormed)
    (anchored : fs.Anchored (fs.absolutize path)) : fs.Anchored path := by
  obtain ⟨front, names, left, base, route, plain, leads, directory⟩ := anchored
  have standing := get?_origin wellFormed path
  rw [origin_of_isAbsolute (isAbsolute_absolutize fs path)] at leads
  rw [route_absolutize wellFormed] at route
  -- The climbs end behind the place where the text starts, or there are none.
  rcases List.append_eq_append_iff.1 route with ⟨more, rfl, behind⟩ | ⟨more, _, rfl⟩
  · have start : Leads fs linkLimit (fs.origin path).reverse [] linkLimit (fs.origin path) :=
      wellFormed.leads standing
    have resolved := resolve_eq_ok_iff.2 ⟨left, leads⟩
    rw [start.resolve_append (.inr rfl)] at resolved
    obtain ⟨left, leads⟩ := resolve_eq_ok_iff.1 resolved
    exact ⟨more, names, left, base, behind, plain, leads, directory⟩
  · exact ⟨[], path.route, linkLimit, fs.origin path, rfl,
      fun name member => plain name (List.mem_append_right _ member), .done, standing⟩

/-! ### Writing below a root -/

variable {made : FileSystem} {content : List UInt8} {parent : Path} {home : Location}

/-- Making a directory beneath another one changes nothing outside of it. -/
theorem beneath_of_createDirectories (wellFormed : fs.WellFormed) (anchored : fs.Anchored path)
    (directory : fs.get? home = some .directory) (below : home <:+ fs.prospect path)
    {location : Location}
    (changed : (fs.createDirectories path).1.get? location ≠ fs.get? location) :
    home <:+ location ∧ location ≠ home := by
  have evolves := createDirectories_evolves wellFormed anchored
  obtain ⟨object, _, within, _⟩ := (evolves.changed location).resolve_left changed
  -- What is there above, a directory that it lies in, stays.
  have higher : ¬ location <:+ home := by
    rintro ⟨more, rfl⟩
    have standing := wellFormed.directory_of_append directory
    exact changed ((evolves.directory standing).trans standing.symm)
  refine ⟨(List.suffix_or_suffix_of_suffix below within).resolve_right higher, ?_⟩
  rintro rfl
  exact higher List.suffix_rfl

variable {written : FileSystem} {ahead : List Name}

/-- What goes on from a directory climbs from directories only. -/
theorem anchored_of_leads (directory : fs.get? home = some .directory)
    (leads : Leads fs linkLimit path.names (fs.origin path) left home) : fs.Anchored path :=
  ⟨path.route, [], left, home, by simp, by simp,
    leads.of_filter_eq directory (by simp [Path.route]), directory⟩

/-- The last name below a root is the last step of the text, if that has one of its own. -/
theorem exists_route_of_beneath (wellFormed : fs.WellFormed)
    (beneath : Path.Beneath (fs.absolutize item) (fs.absolutize root) (ahead ++ [name]))
    (steps : item.route ≠ []) :
    item.route = item.route.dropLast ++ [name] ∧
      (fs.origin item).reverse ++ item.route.dropLast = (fs.absolutize root).route ++ ahead := by
  have whole := (route_absolutize wellFormed item).symm.trans beneath.route_eq
  rw [← List.dropLast_append_getLast steps, ← List.append_assoc, ← List.append_assoc] at whole
  obtain ⟨higher, same⟩ := List.append_inj' whole rfl
  refine ⟨?_, higher⟩
  rw [← same, List.dropLast_append_getLast]

/-- The directory of a place below a root lies there too, or is the root. -/
theorem prospect_parent_of_clear (wellFormed : fs.WellFormed)
    (leads : Leads fs linkLimit (fs.absolutize root).names (fs.origin (fs.absolutize root)) left
      home)
    (beneath : Path.Beneath (fs.absolutize item) (fs.absolutize root) (ahead ++ [name]))
    (clear : Clear fs home (ahead ++ [name])) (steps : item.route ≠ [])
    (above : item.parent? = some parent) : fs.prospect parent = ahead.reverse ++ home := by
  obtain ⟨_, higher⟩ := exists_route_of_beneath wellFormed beneath steps
  have route : (fs.absolutize parent).route = (fs.absolutize root).route ++ ahead := by
    have origin_eq : fs.origin parent = fs.origin item := by
      rw [origin, origin, (Path.parent?_spec above).2.1]
    rw [route_absolutize wellFormed, Path.route_of_parent? above, origin_eq, higher]
  have absolute : (fs.absolutize parent).isAbsolute = (fs.absolutize root).isAbsolute := by
    rw [isAbsolute_absolutize, isAbsolute_absolutize]
  have onWay : Clear fs home ahead := fun more starts =>
    clear more (starts.trans (List.prefix_append ..))
  rw [← prospect_absolutize wellFormed,
    prospect_of_route leads absolute route (List.forall_mem_append.1 beneath.plain).1 onWay]

/-- What can be written to is no directory. -/
theorem WritesAt.not_directory {location : Location} (writes : WritesAt fs content location made) :
    fs.get? location ≠ some .directory := by
  intro directory
  cases writes with
  | stream standing stream =>
    cases directory.symm.trans standing
    cases stream
  | new missing => cases directory.symm.trans missing
  | replacing standing => cases directory.symm.trans standing

/-- A file that has been written where the way from the root has no link and does not climb has a
name below the root, and stands there. -/
theorem exists_written_of_clear {permitted : Location → Object → Prop} (wellFormed : fs.WellFormed)
    (evolves : Evolves permitted fs made) (directory : fs.get? home = some .directory)
    (leads : Leads fs linkLimit (fs.absolutize root).names (fs.origin (fs.absolutize root)) left
      home)
    (beneath : Path.Beneath (fs.absolutize item) (fs.absolutize root) names)
    (clear : Clear fs home names) (wrote : made.writeFile item content = .ok written) :
    ∃ ahead name mode, names = ahead ++ [name] ∧ item.route ≠ [] ∧
      Evolves (WrittenAt (name :: (ahead.reverse ++ home)) (· = content)) made written ∧
      written.get? (name :: (ahead.reverse ++ home)) =
        some ((Object.file content mode).inPlaceOf (fs.get? (name :: (ahead.reverse ++ home)))) ∧
      written.canonicalize item = .ok (name :: (ahead.reverse ++ home)) := by
  have lands : made.prospect item = names.reverse ++ home := by
    rw [evolves.prospect_eq, ← prospect_absolutize wellFormed,
      prospect_of_clear leads beneath clear]
  obtain ⟨last, location, last_eq, notDot, _, found, writes⟩ := exists_of_writeFile wrote
  obtain rfl : location = names.reverse ++ home := (prospect_of_locate found).symm.trans lands
  -- The file is none of the directories, so there is a name to it below the root.
  obtain ⟨ahead, name, rfl⟩ : ∃ ahead name, names = ahead ++ [name] := by
    rcases List.eq_nil_or_concat names with rfl | ⟨ahead, name, split⟩
    · exact absurd (evolves.directory directory) writes.not_directory
    · exact ⟨ahead, name, by rw [split, List.concat_eq_append]⟩
  have steps : item.route ≠ [] :=
    List.ne_nil_of_mem (List.mem_filter.2 ⟨List.mem_of_getLast? last_eq, by simpa using notDot⟩)
  have place_eq : (ahead ++ [name]).reverse ++ home = name :: (ahead.reverse ++ home) := by simp
  rw [place_eq] at lands found
  have member : name ∈ item.names := by
    have within : name ∈ item.route := by
      rw [(exists_route_of_beneath wellFormed beneath steps).1]
      simp
    exact (List.mem_filter.1 within).1
  obtain ⟨replaced, mode, standing⟩ := writeFile_spec evolves.wellFormed lands member
    (beneath.plain name (by simp)) wrote
  rw [lands, (evolves.developed _).inPlaceOf_eq] at standing
  rw [lands] at replaced
  exact ⟨ahead, name, mode, rfl, steps, replaced, standing,
    replaced.canonicalize_of_locate found (by simp [standing])⟩

/-- Writing where the way from the root has no link and does not climb. -/
theorem writtenBeneath_of_clear (wellFormed : fs.WellFormed)
    (directory : fs.get? home = some .directory)
    (leads : Leads fs linkLimit (fs.absolutize root).names (fs.origin (fs.absolutize root)) left
      home)
    (beneath : Path.Beneath (fs.absolutize item) (fs.absolutize root) names)
    (clear : Clear fs home names) (above : item.parent? = some parent)
    (created : fs.createDirectories parent = (made, .ok ()))
    (wrote : made.writeFile item content = .ok written) :
    WrittenBeneath fs written item content home := by
  have higher : fs.Anchored item :=
    anchored_of_absolutize wellFormed ((anchored_of_leads directory leads).beneath beneath)
  have anchored : fs.Anchored parent := (higher.of_parent? above).1
  have evolves := createDirectories_evolves wellFormed anchored
  rw [created] at evolves
  obtain ⟨ahead, name, mode, rfl, steps, replaced, standing, found⟩ :=
    exists_written_of_clear wellFormed evolves directory leads beneath clear wrote
  have parentLands := prospect_parent_of_clear wellFormed leads beneath clear steps above
  have inside : home <:+ name :: (ahead.reverse ++ home) :=
    (List.suffix_append ..).trans (List.suffix_cons ..)
  have beyond : name :: (ahead.reverse ++ home) ≠ home := by
    intro equal
    have lengths := congrArg List.length equal
    rw [List.length_cons, List.length_append] at lengths
    omega
  refine ⟨⟨_, mode, found, standing, inside, beyond⟩, fun location changed => ?_⟩
  by_cases here : location = name :: (ahead.reverse ++ home)
  · rw [here]
    exact ⟨inside, beyond⟩
  · have untouched : written.get? location = made.get? location := by
      refine replaced.get?_eq fun object _ granted => here ?_
      cases granted
      rfl
    refine beneath_of_createDirectories wellFormed anchored directory
      (parentLands ▸ List.suffix_append ..) ?_
    rw [created]
    exact untouched ▸ changed

end FileSystem

/-- A place that passes the check follows the root without a link on the way, and where it does not
climb, a file written there lies beneath the root, and nothing outside of it changes. -/
theorem written_beneath_root {fs : FileSystem} {item root : Path} (wellFormed : fs.WellFormed)
    (isDirectory : fs.isDirectory root = true) (passed : fs.checkSafe item root = .ok ()) :
    ∃ below, FollowsRoot fs item root below ∧ (.parent ∉ below →
      ∃ home, fs.canonicalize root = .ok home ∧
        ∀ parent isNew state content written, item.parent? = some parent →
          EStateM.run (Pass.ensureDirectory parent) { fileSystem := fs } = .ok isNew state →
          state.fileSystem.writeFile item content = .ok written →
          WrittenBeneath fs written item content home) := by
  obtain ⟨left, home, leads, standing, found⟩ :=
    exists_canonicalize_of_isDirectory wellFormed isDirectory
  have absolute := isAbsolute_absolutize fs root
  have rootLeads : Leads fs linkLimit (fs.absolutize root).names (fs.origin (fs.absolutize root))
      left home := by
    rw [origin_of_isAbsolute absolute]
    exact leads.absolutize wellFormed
  obtain ⟨below, components_eq, known, inspected⟩ := exists_below_of_checkSafe passed
  refine ⟨below, ⟨components_eq, fun front starts nonempty target =>
    lstat_ne_link_of_inspect wellFormed known standing rootLeads inspected starts nonempty target⟩,
    fun descends => ⟨home, found, ?_⟩⟩
  intro parent isNew state content written above ensured wrote
  obtain ⟨names, plain, names_eq⟩ := exists_names_of_isBelow known descends
  rw [names_eq] at components_eq inspected
  have clear := clear_of_inspect wellFormed plain absolute standing
    (origin_of_isAbsolute absolute ▸ rootLeads) inspected
  exact writtenBeneath_of_clear wellFormed standing rootLeads ⟨plain, components_eq⟩ clear above
    (Pass.createDirectories_of_run ensured) wrote

theorem written_beneath_root_smallTree : ∃ state written home,
    EStateM.run (Pass.ensureDirectory (.ofString "s/n")) { fileSystem := smallTree } =
      .ok true state ∧
    state.fileSystem.writeFile (.ofString "s/n/x.h") [] = .ok written ∧
    smallTree.canonicalize (.ofString "s") = .ok home ∧
    WrittenBeneath smallTree written (.ofString "s/n/x.h") [] home := by
  have wellFormed : smallTree.WellFormed := by decide
  have isDirectory : smallTree.isDirectory (.ofString "s") = true := by decide
  have passed : smallTree.checkSafe (.ofString "s/n/x.h") (.ofString "s") = .ok () := by
    decide +kernel
  obtain ⟨below, follows, writes⟩ := written_beneath_root wellFormed isDirectory passed
  have descends : Component.parent ∉ below := by
    have behind : [.name [0x6E], .name [0x78, 0x2E, 0x68]] = below :=
      congrArg (List.drop 2) follows.components_eq
    rw [← behind]
    decide
  obtain ⟨home, found, beneath⟩ := writes descends
  exact ⟨_, _, home, rfl, rfl, found, beneath _ _ _ _ _ rfl rfl rfl⟩

/-- The way to the file begins with the text of the root and climbs out of it. No piece on it is a
link, so it passes, and the file stands outside. -/
theorem escape_through_climb : smallTree.WellFormed ∧
    smallTree.isDirectory (.ofString "s/b") = true ∧
    smallTree.checkSafe (.ofString "s/b/../x.h") (.ofString "s/b") = .ok () ∧
    ∃ parent isNew state written home place,
      (Path.ofString "s/b/../x.h").parent? = some parent ∧
      EStateM.run (Pass.ensureDirectory parent) { fileSystem := smallTree } = .ok isNew state ∧
      state.fileSystem.writeFile (.ofString "s/b/../x.h") [] = .ok written ∧
      smallTree.canonicalize (.ofString "s/b") = .ok home ∧
      written.canonicalize (.ofString "s/b/../x.h") = .ok place ∧ ¬ home <:+ place := by
  refine ⟨by decide, by decide, by decide +kernel, ?_⟩
  refine ⟨_, _, _, _, [[0x62], [0x73]], [[0x78, 0x2E, 0x68], [0x73]], rfl, rfl, rfl, rfl, rfl, ?_⟩
  decide

end TwinTree
