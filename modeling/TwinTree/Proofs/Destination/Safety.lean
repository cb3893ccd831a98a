import TwinTree.Destination
import TwinTree.Proofs.FileSystem.Writing

/-!
# Safe places

A place in the twin that passes the check is reached from the root of the twin without a link on
the way (`clear_of_checkSafe`), whatever stands there already. The check goes by the text of the
two paths, so the first lemmas say how a text leads from the root of the file system.
-/
namespace TwinTree

namespace Path

theorem endsInSlash_join {path : Path} {name : Name} (plain : IsPlain name) :
    (path.join ⟨name⟩).endsInSlash = false := by
  have last : ∀ front : List UInt8, (front ++ name).getLast? ≠ some slash := by
    intro front ends
    rw [List.getLast?_append_of_ne_nil front plain.ne_nil] at ends
    exact plain.slash_notMem (List.mem_of_getLast? ends)
  have relative := isAbsolute_of_name plain
  rw [endsInSlash, beq_eq_false_iff_ne, join, relative, if_neg (by simp)]
  split
  · exact last path.bytes
  · exact last (path.bytes ++ [slash]) ∘ fun ends => by simpa using ends

theorem names_join_name {path : Path} {name : Name} (plain : IsPlain name) :
    (path.join ⟨name⟩).names = path.names ++ [name] := by
  rw [names_join (isAbsolute_of_name plain), names_of_name plain]

theorem steps_join_name {path : Path} {name : Name} (plain : IsPlain name) :
    (path.join ⟨name⟩).steps = path.names ++ [name] := by
  rw [steps, endsInSlash_join plain, names_join_name plain]
  rfl

theorem bytes_join_name {path : Path} {name : Name} (plain : IsPlain name) :
    (path.join ⟨name⟩).bytes ≠ [] := by
  intro empty
  have nothing : (path.join ⟨name⟩).components = [] := components_eq_nil_iff.2 empty
  rw [components_join plain] at nothing
  simp at nothing

theorem length_join_name {path : Path} {name : Name} (plain : IsPlain name) :
    path.bytes.length < (path.join ⟨name⟩).bytes.length := by
  have longer := List.length_pos_of_ne_nil plain.ne_nil
  rw [join, isAbsolute_of_name plain, if_neg (by simp)]
  split
  · simp only [List.length_append]
    omega
  · simp only [List.length_append, List.length_cons]
    omega

theorem nul_notMem_join_name {path : Path} {name : Name} (plain : IsPlain name)
    (absent : 0 ∉ path.bytes) (absent' : 0 ∉ name) : 0 ∉ (path.join ⟨name⟩).bytes := by
  rw [join, isAbsolute_of_name plain, if_neg (by simp)]
  split <;> simp [absent, absent', slash]

/-- A segment that is not the first one carries a name or a way up. -/
theorem inner_filter (segments : List Name) :
    (inner segments).filter (· ≠ .current) = inner segments := by
  rw [List.filter_eq_self]
  intro component member
  obtain ⟨segment, _, made⟩ := List.mem_filterMap.1 member
  unfold Component.ofSegment? at made
  split at made
  · cases made
  split at made <;> cases made <;> rfl

theorem inner_pieces {path : Path} (relative : path.isAbsolute = false) :
    inner (pieces slash path.bytes) = path.components.filter (· ≠ .current) := by
  by_cases isDot : path.head = dot
  · have parts : pieces slash path.bytes = dot :: path.body := by rw [← isDot]; rfl
    have first : path.leading = [.current] := by
      simp [leading, relative, isDot, dot]
    rw [parts, components, first, List.filter_append]
    exact (inner_filter path.body).symm
  · rw [components_of_relative relative isDot, inner_filter]

end Path

namespace Location

variable {location : Location}

theorem components_toPath (plain : ∀ name ∈ location, IsPlain name) :
    location.toPath.components = .root :: location.reverse.map .name := by
  -- None of the names is dropped, for none is empty, a dot or a way up.
  have pieces_eq : Path.inner location.reverse = location.reverse.map .name :=
    Path.inner_of_isPlain fun name member => plain name (List.mem_reverse.1 member)
  have whole : ∀ name ∈ location.reverse, slash ∉ name :=
    fun name member => (plain name (List.mem_reverse.1 member)).slash_notMem
  rw [← pieces_eq, toPath]
  cases split : location.reverse with
  | nil => decide
  | cons first rest =>
    rw [split, List.forall_mem_cons] at whole
    have text : Path.ofSegments [] (first :: rest) true =
        ⟨slash :: (first ++ joinWith slash rest)⟩ := rfl
    rw [text, Path.components_slash_cons, pieces, splitOn_joinWith whole.1 whole.2]

theorem isAbsolute_toPath (location : Location) : location.toPath.isAbsolute = true := by
  unfold toPath
  cases location.reverse <;> rfl

theorem bytes_toPath (location : Location) : location.toPath.bytes ≠ [] := by
  intro empty
  have absolute := isAbsolute_toPath location
  simp [Path.isAbsolute, empty] at absolute

/-- Joining a name to the path of a location gives the path one level further down. -/
theorem join_toPath {name : Name} (solid : ∀ name ∈ location, IsPlain name)
    (plain : IsPlain name) : location.toPath.join ⟨name⟩ = Location.toPath (name :: location) := by
  have relative := Path.isAbsolute_of_name plain
  have deeper : Location.toPath (name :: location) =
      ⟨joinWith slash location.reverse ++ slash :: name⟩ := by
    rw [toPath, List.reverse_cons, Path.ofSegments, if_neg (by simp)]
    simp [joinWith]
  rw [deeper, Path.join, relative, if_neg (by simp)]
  cases location with
  | nil => rfl
  | cons last above =>
    -- The text ends in the last name, and so in no slash.
    have text : Location.toPath (last :: above) =
        ⟨joinWith slash above.reverse ++ slash :: last⟩ := by
      rw [toPath, List.reverse_cons, Path.ofSegments, if_neg (by simp)]
      simp [joinWith]
    have ends : (joinWith slash above.reverse ++ slash :: last).getLast? ≠ some slash := by
      rw [List.append_cons, List.getLast?_append_of_ne_nil _ (solid last (by simp)).ne_nil]
      exact fun ends => (solid last (by simp)).slash_notMem (List.mem_of_getLast? ends)
    rw [text, if_neg (by simpa using ends)]
    simp [joinWith]

/-- The path of a location goes on by names to the path of what is beneath it. -/
theorem extend_toPath {names : List Name} (solid : ∀ name ∈ location, IsPlain name)
    (plain : ∀ name ∈ names, IsPlain name) :
    location.toPath.extend names = Location.toPath (names.reverse ++ location) := by
  induction names generalizing location with
  | nil => rfl
  | cons name rest ih =>
    rw [List.forall_mem_cons] at plain
    have below : ∀ part ∈ name :: location, IsPlain part :=
      List.forall_mem_cons.2 ⟨plain.1, solid⟩
    rw [Path.extend, List.foldl_cons, join_toPath solid plain.1, List.reverse_cons,
      List.append_assoc]
    exact ih below plain.2

theorem names_toPath (plain : ∀ name ∈ location, IsPlain name) :
    location.toPath.names = location.reverse := by
  have whole : ∀ name ∈ location.reverse, slash ∉ name ∧ name ≠ [] := by
    intro name member
    have known := plain name (List.mem_reverse.1 member)
    exact ⟨known.slash_notMem, known.ne_nil⟩
  rw [toPath]
  cases form : location.reverse with
  | nil => decide
  | cons first rest =>
    rw [form] at whole
    have split : splitOn slash ([] ++ joinWith slash (first :: rest)) = ([], first :: rest) :=
      splitOn_joinWith (by simp) fun name member => (whole name member).1
    have text : Path.ofSegments [] (first :: rest) true =
        ⟨[] ++ joinWith slash (first :: rest)⟩ := rfl
    rw [Path.names, Path.head, Path.body, text, split]
    rw [List.filter_cons_of_neg (by simp), List.filter_eq_self]
    intro name member
    simpa using (whole name member).2

end Location

namespace FileSystem

variable {fs : FileSystem} {path : Path} {here there : Location} {links left : Nat}
  {name : Name} {names : List Name}

/-! ### Entries of directories -/

/-- The object that a name in a directory stands for, as a path shows it. -/
theorem lstat_join (plain : IsPlain name) (directory : fs.get? here = some .directory)
    (leads : Leads fs linkLimit path.names (fs.origin path) left here) :
    fs.lstat (path.join ⟨name⟩) = (do
      checkText (path.join ⟨name⟩) pathLimit
      if nameLimit < name.length then .error .nameTooLong else fs.require (name :: here)) := by
  -- The last name is looked up where the path leads, and a link there is not followed.
  have found : fs.resolve false linkLimit (path.join ⟨name⟩).steps (fs.origin (path.join ⟨name⟩)) =
      if nameLimit < name.length then .error .nameTooLong else .ok (name :: here) := by
    rw [Path.steps_join_name plain, origin_join_name plain, leads.resolve_append (.inl (by simp)),
      resolve_eq_walk, walk, directory]
    simp only [plain.ne_dot, plain.ne_dotDot, if_false]
    split
    next => rfl
    next => cases fs.get? (name :: here) with
      | none => rfl
      | some object => cases object <;> rfl
  rw [lstat, locate, found]
  cases checkText (path.join ⟨name⟩) pathLimit with
  | error => rfl
  | ok => by_cases long : nameLimit < name.length <;> simp [long, bind, Except.bind]

theorem get?_of_lstat {object : Object} (plain : IsPlain name)
    (directory : fs.get? here = some .directory)
    (leads : Leads fs linkLimit path.names (fs.origin path) left here)
    (shown : fs.lstat (path.join ⟨name⟩) = .ok object) : fs.get? (name :: here) = some object := by
  rw [lstat_join plain directory leads] at shown
  obtain ⟨_, _, rest⟩ := bind_eq_ok_iff.1 shown
  split at rest
  · cases rest
  · exact require_eq_ok_iff.1 rest

theorem missing_of_lstat (plain : IsPlain name) (directory : fs.get? here = some .directory)
    (leads : Leads fs linkLimit path.names (fs.origin path) left here)
    (shown : fs.lstat (path.join ⟨name⟩) = .error .notFound) : fs.get? (name :: here) = none := by
  rw [lstat_join plain directory leads] at shown
  cases found : fs.get? (name :: here) with
  | none => rfl
  | some object =>
    -- Had something been found, neither the text nor the name could be what was refused.
    exfalso
    cases checked : checkText (path.join ⟨name⟩) pathLimit with
    | error failure =>
      rw [checked] at shown
      cases shown
      exact checkText_ne_notFound (Path.bytes_join_name plain) checked
    | ok =>
      rw [checked, require, found] at shown
      simp only [bind, Except.bind] at shown
      split at shown <;> cases shown

/-- The object that a name in a directory leads to. -/
theorem stat_join (plain : IsPlain name)
    (leads : Leads fs linkLimit path.names (fs.origin path) left here) :
    fs.stat (path.join ⟨name⟩) = (do
      checkText (path.join ⟨name⟩) pathLimit
      fs.require (← fs.resolve true left [name] here)) := by
  rw [stat, locate, Path.steps_join_name plain, origin_join_name plain,
    leads.resolve_append (.inr rfl)]
  cases checkText (path.join ⟨name⟩) pathLimit <;> rfl

/-- What is not a link is shown as it stands. -/
theorem get?_of_stat {object shown : Object} (wellFormed : fs.WellFormed)
    (leads : Leads fs linkLimit path.names (fs.origin path) left here)
    (standing : fs.get? (name :: here) = some object) (plain : object.isLink = false)
    (found : fs.stat (path.join ⟨name⟩) = .ok shown) : shown = object := by
  have ordinary := wellFormed.isOrdinary standing name List.mem_cons_self
  have enclosed : fs.get? here = some .directory := wellFormed.get?_tail standing
  have onward : fs.resolve true left [name] here = .ok (name :: here) :=
    resolve_eq_ok_iff.2 ⟨left, .enter enclosed ordinary.ne_dot ordinary.ne_dotDot
      ordinary.length_le standing plain .done⟩
  rw [stat_join ordinary.isPlain leads, onward] at found
  obtain ⟨_, _, required⟩ := bind_eq_ok_iff.1 found
  exact Option.some.inj ((require_eq_ok_iff.1 required).symm.trans standing)

/-! ### Absolute texts -/

/-- What is made down to a directory that is there is there already. -/
theorem MadeDownTo.developed {target location : Location} {object : Object}
    (made : MadeDownTo target location object) (wellFormed : fs.WellFormed)
    (there : fs.get? target = some .directory) : Developed (some object) (fs.get? location) := by
  obtain ⟨⟨front, split⟩, rfl⟩ := made
  rw [wellFormed.directory_of_append (split ▸ there)]
  exact .same

/-- Names lead down to a directory from whatever it is beneath. -/
theorem WellFormed.leads_down (wellFormed : fs.WellFormed)
    (directory : fs.get? (names.reverse ++ here) = some .directory) :
    Leads fs links names here links (names.reverse ++ here) :=
  wellFormed.orderly.leads_down directory

/-- What is beneath a path that leads somewhere leads there and further down. -/
theorem Leads.beneath {above : Path}
    (leads : Leads fs linkLimit above.names (fs.origin above) left here)
    (wellFormed : fs.WellFormed) (beneath : Path.Beneath path above names)
    (directory : fs.get? (names.reverse ++ here) = some .directory) :
    Leads fs linkLimit path.names (fs.origin path) left (names.reverse ++ here) := by
  have enclosed : fs.get? here = some .directory := wellFormed.directory_of_append directory
  have down : Leads fs left names here left (names.reverse ++ here) :=
    wellFormed.leads_down directory
  have whole := leads.append (by simp [enclosed]) down
  have same : (above.names ++ names).filter (· ≠ dot) = path.names.filter (· ≠ dot) := by
    rw [List.filter_append, Path.filter_eq_self_of_isPlain beneath.plain]
    exact beneath.route_eq.symm
  rw [origin, beneath.isAbsolute_eq]
  exact whole.of_filter_eq directory same

/-- The names of a directory lead to it from the root. -/
theorem WellFormed.leads (wellFormed : fs.WellFormed) (directory : fs.get? here = some .directory) :
    Leads fs links here.reverse [] links here := by
  have down : Leads fs links here.reverse [] links (here.reverse.reverse ++ []) :=
    wellFormed.leads_down (by simpa using directory)
  simpa using down

theorem isAbsolute_absolutize (fs : FileSystem) (path : Path) :
    (fs.absolutize path).isAbsolute = true := by
  unfold absolutize
  split
  next absolute => exact absolute
  next relative =>
    rw [Path.isAbsolute_join (by simpa using relative), Location.isAbsolute_toPath]

/-- A path and its absolute text lead to the same place. -/
theorem Leads.absolutize (wellFormed : fs.WellFormed)
    (leads : Leads fs links path.names (fs.origin path) left there) :
    Leads fs links (fs.absolutize path).names [] left there := by
  unfold origin at leads
  unfold FileSystem.absolutize
  split
  next absolute => simpa [absolute] using leads
  next relative =>
    rw [if_neg relative] at leads
    rw [Path.names_join (by simpa using relative),
      Location.names_toPath (wellFormed.isPlain wellFormed.working)]
    exact (wellFormed.leads wellFormed.working).append (by simp [wellFormed.working]) leads

/-- What is beneath a path is beneath its absolute text too. -/
theorem beneath_absolutize (fs : FileSystem) {item : Path}
    (beneath : Path.Beneath item path names) :
    Path.Beneath (fs.absolutize item) (fs.absolutize path) names where
  plain := beneath.plain
  components_eq := by
    have same := beneath.isAbsolute_eq
    unfold absolutize
    rw [same]
    split
    next => exact beneath.components_eq
    next relative =>
      rw [Bool.not_eq_true] at relative
      have kept : (names.map Component.name).filter (· ≠ .current) = names.map .name :=
        List.filter_eq_self.2 (by simp)
      have nonempty := Location.bytes_toPath fs.workingDirectory
      rw [Path.components_join_of_relative nonempty relative,
        Path.components_join_of_relative nonempty (same.trans relative),
        Path.inner_pieces relative, Path.inner_pieces (same.trans relative),
        beneath.components_eq, List.filter_append, kept, List.append_assoc]

/-! ### The check -/

/-- What is inspected without complaint holds no link. -/
theorem clear_of_inspect (wellFormed : fs.WellFormed) (plain : ∀ name ∈ names, IsPlain name)
    (absolute : path.isAbsolute = true) (directory : fs.get? here = some .directory)
    (leads : Leads fs linkLimit path.names [] left here)
    (passed : fs.inspect path (names.map .name) = .ok ()) : Clear fs here names := by
  -- The inspection stops at the first name that is missing; above it, each step goes down a
  -- directory.
  induction names generalizing path here left with
  | nil =>
    intro more starts nonempty
    exact absurd (List.prefix_nil.1 starts) nonempty
  | cons name rest ih =>
    rw [List.forall_mem_cons] at plain
    have origin_eq : fs.origin path = [] := origin_of_isAbsolute absolute
    have leads' : Leads fs linkLimit path.names (fs.origin path) left here := origin_eq ▸ leads
    rw [List.map_cons, inspect] at passed
    simp only [Component.toName] at passed
    split at passed
    next => cases passed
    next object notLink shown =>
      have found := get?_of_lstat plain.1 directory leads' shown
      refine .cons (fun target link => ?_) ?_
      · rw [found] at link
        exact notLink target (Option.some.inj link)
      · by_cases deeper : object = .directory
        · subst deeper
          have ordinary := wellFormed.isOrdinary found name List.mem_cons_self
          have further : Leads fs linkLimit (path.join ⟨name⟩).names [] left (name :: here) := by
            rw [Path.names_join_name plain.1]
            exact leads.append (by simp [directory]) (.enter directory ordinary.ne_dot
              ordinary.ne_dotDot ordinary.length_le found rfl .done)
          refine ih plain.2 ?_ found further passed
          rw [Path.isAbsolute_join (Path.isAbsolute_of_name plain.1), absolute]
        · -- A file has nothing beneath it.
          exact wellFormed.clear (by simpa [found] using deeper) rest
    next shown =>
      have missing := missing_of_lstat plain.1 directory leads' shown
      exact .cons (by simp [missing]) (wellFormed.clear (by simp [missing]) rest)
    next => cases passed

theorem clear_of_checkSafe {item twin : Path} (wellFormed : fs.WellFormed)
    (beneath : Path.Beneath item twin names) (directory : fs.get? here = some .directory)
    (leads : Leads fs linkLimit twin.names (fs.origin twin) left here)
    (passed : fs.checkSafe item twin = .ok ()) : Clear fs here names := by
  obtain ⟨inner, found, components_eq, _⟩ :=
    Path.exists_stripStart? (beneath_absolutize fs beneath).components_eq
  rw [checkSafe, found] at passed
  simp only [components_eq] at passed
  exact clear_of_inspect wellFormed beneath.plain (isAbsolute_absolutize fs twin) directory
    (leads.absolutize wellFormed) passed

end FileSystem

end TwinTree
