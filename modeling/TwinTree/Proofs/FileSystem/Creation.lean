import TwinTree.FileSystem.Access
import TwinTree.Proofs.FileSystem.Evolution
import TwinTree.Proofs.Path.Shortening

/-!
# Making directories

Where a path stops short of what exists, making it adds directories between there and its prospect
and nothing else, also when only some of them can be made (`createDirectories_evolves`). When that
succeeds, the path leads to its prospect, and a directory is there (`leads_of_createDirectories`).
-/
namespace TwinTree

namespace Path

/-- A name of a path is a piece of its text. -/
theorem mem_names {path : Path} {name : Name} :
    name ∈ path.names ↔ name ∈ pieces slash path.bytes ∧ name ≠ [] := by
  rw [names, List.mem_filter]
  exact and_congr_right fun _ => by simp

theorem isOrdinary_of_mem_names {path : Path} {name : Name} (member : name ∈ path.names)
    (notDot : name ≠ dot) (notUp : name ≠ dotDot) (absent : 0 ∉ path.bytes)
    (short : name.length ≤ nameLimit) : IsOrdinary name where
  ne_nil := (mem_names.1 member).2
  ne_dot := notDot
  ne_dotDot := notUp
  slash_notMem := notMem_of_mem_pieces (mem_names.1 member).1
  nul_notMem within := absent (subset_of_mem_pieces (mem_names.1 member).1 within)
  length_le := short

end Path

namespace FileSystem

variable {fs made : FileSystem} {path : Path} {base here there : Location}

theorem bind_eq_ok_iff {ε α β : Type} {first : Except ε α} {next : α → Except ε β} {result : β} :
    (first >>= next) = .ok result ↔ ∃ value, first = .ok value ∧ next value = .ok result := by
  cases first with
  | error =>
    refine iff_of_false (fun impossible => (nomatch impossible)) ?_
    rintro ⟨_, impossible, _⟩
    cases impossible
  | ok value =>
    constructor
    · exact fun found => ⟨value, rfl, found⟩
    · rintro ⟨_, same, found⟩
      cases same
      exact found

theorem require_eq_ok_iff {object : Object} :
    fs.require here = .ok object ↔ fs.get? here = some object := by
  unfold require
  cases fs.get? here <;> simp

/-! ### One directory -/

theorem locateParent_eq_ok_iff {last : Option Name} :
    fs.locateParent path = .ok (here, last) ↔
      checkText path pathLimit = .ok () ∧ fs.get? here = some .directory ∧
        (∃ left, Leads fs linkLimit path.names.dropLast (fs.origin path) left here) ∧
        last = path.names.getLast? := by
  unfold locateParent
  rw [bind_eq_ok_iff]
  constructor
  · rintro ⟨⟨⟩, accepted, rest⟩
    obtain ⟨above, found, same⟩ := bind_eq_ok_iff.1 rest
    obtain ⟨left, leads⟩ := resolve_eq_ok_iff.1 found
    obtain ⟨leads, directory⟩ := leads_append_dot_iff.1 leads
    cases same
    exact ⟨accepted, directory, ⟨left, leads⟩, rfl⟩
  · rintro ⟨accepted, directory, ⟨left, leads⟩, rfl⟩
    have found := resolve_eq_ok_iff.2 ⟨left, leads_append_dot_iff.2 ⟨leads, directory⟩⟩
    exact ⟨(), accepted, bind_eq_ok_iff.2 ⟨here, found, rfl⟩⟩

/-- What making one directory needs and does. -/
theorem exists_of_makeDirectory (created : fs.makeDirectory path = .ok made) :
    ∃ front last left above, path.names = front ++ [last] ∧
      checkText path pathLimit = .ok () ∧
      Leads fs linkLimit front (fs.origin path) left above ∧
      fs.get? above = some .directory ∧ IsOrdinary last ∧ fs.get? (last :: above) = none ∧
      made = fs.insert (last :: above) .directory := by
  obtain ⟨⟨above, last?⟩, found, rest⟩ := bind_eq_ok_iff.1 created
  obtain ⟨accepted, directory, ⟨left, leads⟩, last_eq⟩ := locateParent_eq_ok_iff.1 found
  cases last? with
  | none => cases rest
  | some last =>
    have names_eq : path.names = path.names.dropLast ++ [last] :=
      (List.dropLast_append_getLast? last last_eq.symm).symm
    simp only at rest
    split at rest
    next => cases rest
    next notDots =>
    -- The guards of the access are gone through one after the other; only the last way out
    -- succeeds.
    rw [not_or] at notDots
    split at rest
    next => cases rest
    next notLong =>
    split at rest
    next => cases rest
    next missing =>
    cases rest
    have member : last ∈ path.names := names_eq ▸ List.mem_append_right _ List.mem_cons_self
    have ordinary := Path.isOrdinary_of_mem_names member notDots.1 notDots.2
      (checkText_eq_ok_iff.1 accepted).1 (Nat.not_lt.1 notLong)
    exact ⟨_, last, left, above, names_eq, accepted, leads, directory, ordinary, missing, rfl⟩

theorem isDirectory_iff : fs.isDirectory path = true ↔
    checkText path pathLimit = .ok () ∧
      ∃ left there, Leads fs linkLimit path.names (fs.origin path) left there ∧
        fs.get? there = some .directory := by
  have stat_iff : fs.isDirectory path = true ↔ fs.stat path = .ok .directory := by
    unfold isDirectory
    cases fs.stat path with
    | error => simp
    | ok object => cases object <;> simp [Object.isDirectory]
  rw [stat_iff, stat, bind_eq_ok_iff]
  constructor
  · rintro ⟨there, found, required⟩
    obtain ⟨accepted, left, leads⟩ := locate_eq_ok_iff.1 found
    have directory := require_eq_ok_iff.1 required
    exact ⟨accepted, left, there, (leads_steps_iff directory).1 leads, directory⟩
  · rintro ⟨accepted, left, there, leads, directory⟩
    have found := locate_eq_ok_iff.2 ⟨accepted, left, (leads_steps_iff directory).2 leads⟩
    exact ⟨there, found, require_eq_ok_iff.2 directory⟩

/-- A directory that was made is there. -/
theorem isDirectory_of_makeDirectory (created : fs.makeDirectory path = .ok made) :
    made.isDirectory path = true := by
  obtain ⟨front, last, left, above, names_eq, accepted, leads, directory, ordinary, missing, rfl⟩ :=
    exists_of_makeDirectory created
  have developed : ∀ location, Developed (fs.get? location)
      ((fs.insert (last :: above) .directory).get? location) :=
    developed_insert (missing ▸ .made)
  have enclosed := (developed above).directory directory
  refine isDirectory_iff.2 ⟨accepted, left, last :: above, ?_, get?_insert_self fs _ (by simp)⟩
  rw [names_eq]
  refine Leads.append (leads.develop developed) (by simp [enclosed]) ?_
  exact .enter enclosed ordinary.ne_dot ordinary.ne_dotDot ordinary.length_le
    (get?_insert_self fs _ (by simp)) rfl .done

/-- There is no making a directory where there is one. -/
theorem makeDirectory_of_isDirectory (directory : fs.isDirectory path = true) :
    fs.makeDirectory path = .error .exists := by
  obtain ⟨accepted, left, there, leads, standing⟩ := isDirectory_iff.1 directory
  -- Either the path names nothing, or its last segment is found where the others lead.
  rcases List.eq_nil_or_concat path.names with empty | ⟨front, segment, split⟩
  · rw [empty] at leads
    cases leads
    have found : fs.locateParent path = .ok (fs.origin path, none) :=
      locateParent_eq_ok_iff.2
        ⟨accepted, standing, ⟨_, by rw [empty]; exact .done⟩, by rw [empty]; rfl⟩
    rw [makeDirectory, found]
    rfl
  · rw [List.concat_eq_append] at split
    obtain ⟨half, middle, first, final⟩ := leads.split split
    have found : fs.locateParent path = .ok (middle, some segment) := by
      refine locateParent_eq_ok_iff.2 ⟨accepted, final.directory_of_singleton, ⟨half, ?_⟩, ?_⟩
      · rwa [split, List.dropLast_concat]
      · rw [split, List.getLast?_concat]
    rw [makeDirectory, found]
    simp only [bind, Except.bind]
    cases final with
    | stay => rfl
    | up => rfl
    | enter _ notDot notUp short found => simp [notDot, notUp, Nat.not_lt.2 short, found]
    | follow _ notDot notUp short found => simp [notDot, notUp, Nat.not_lt.2 short, found]
    | vacant _ _ _ _ missing => cases missing.symm.trans standing

/-- What leads to a directory is not refused as if nothing were found. -/
theorem makeDirectory_ne_notFound {left : Nat} (nonempty : path.bytes ≠ [])
    (leads : Leads fs linkLimit path.route (fs.origin path) left base)
    (directory : fs.get? base = some .directory) : fs.makeDirectory path ≠ .error .notFound := by
  intro refused
  have way : Leads fs linkLimit path.names (fs.origin path) left base :=
    leads.of_filter_eq directory (by simp [Path.route])
  cases accepted : checkText path pathLimit with
  | ok =>
    have there := isDirectory_iff.2 ⟨accepted, left, base, way, directory⟩
    rw [makeDirectory_of_isDirectory there] at refused
    cases refused
  | error failure =>
    rw [makeDirectory, locateParent, accepted] at refused
    cases refused
    exact checkText_ne_notFound nonempty accepted

/-! ### Directories and what is missing above them -/

theorem createDirectories_eq (fs : FileSystem) (path : Path) :
    fs.createDirectories path =
      if path.bytes.isEmpty then (fs, .ok ())
      else match fs.makeDirectory path with
        | .error .notFound =>
          match (path.parent?.map fs.createDirectories).getD (fs, .error .notFound) with
          | (made, .ok ()) => settle made path (made.makeDirectory path)
          | failed => failed
        | outcome => settle fs path outcome := by
  rw [createDirectories, Path.ancestors_eq, createDirectoriesFrom]
  cases path.parent? <;> rfl

/-- A path leads to a directory and goes on by names, the first of which is missing there. -/
structure StopsAt (fs : FileSystem) (path : Path) (base : Location) (missing : List Name) :
    Prop where
  leads : ∃ front left, Leads fs linkLimit front (fs.origin path) left base ∧
    path.route = front.filter (· ≠ dot) ++ missing
  directory : fs.get? base = some .directory
  plain : ∀ name ∈ missing, IsPlain name
  vacant : ∃ first rest, missing = first :: rest ∧ fs.get? (first :: base) = none

namespace StopsAt

variable {missing extra : List Name}

theorem prospect_eq (wellFormed : fs.WellFormed) (stops : StopsAt fs path base missing) :
    fs.prospect path = missing.reverse ++ base := by
  obtain ⟨front, left, leads, route⟩ := stops.leads
  obtain ⟨first, rest, rfl, vacant⟩ := stops.vacant
  -- Nothing stands beneath what is missing, so no link is in the way.
  have clear : Clear fs base (first :: rest) :=
    .cons (by simp [vacant]) (wellFormed.clear (by simp [vacant]) rest)
  have dots : path.route = (front ++ first :: rest).filter (· ≠ dot) := by
    rw [List.filter_append, route, Path.filter_eq_self_of_isPlain stops.plain]
  rw [prospect, dots, prospectFrom_filter, leads.prospectFrom_append,
    clear.prospectFrom_eq stops.plain]

/-- A longer path stops at the same place. -/
theorem extend {above : Path} (stops : StopsAt fs above base missing)
    (absolute : above.isAbsolute = path.isAbsolute) (route : path.route = above.route ++ extra)
    (plain : ∀ name ∈ extra, IsPlain name) : StopsAt fs path base (missing ++ extra) where
  leads := by
    obtain ⟨front, left, leads, route'⟩ := stops.leads
    refine ⟨front, left, ?_, by rw [route, route', List.append_assoc]⟩
    rwa [origin, ← absolute]
  directory := stops.directory
  plain := List.forall_mem_append.2 ⟨stops.plain, plain⟩
  vacant := by
    obtain ⟨first, rest, rfl, vacant⟩ := stops.vacant
    exact ⟨first, rest ++ extra, rfl, vacant⟩

end StopsAt

/-- A directory may come to stand at a location or above it. -/
def MadeDownTo (target location : Location) (object : Object) : Prop :=
  location <:+ target ∧ object = .directory

theorem Evolves.makeDirectory (wellFormed : fs.WellFormed)
    (created : fs.makeDirectory path = .ok made) :
    Evolves (MadeDownTo (fs.prospect path)) fs made := by
  obtain ⟨front, last, left, above, names_eq, _, leads, directory, ordinary, missing, rfl⟩ :=
    exists_of_makeDirectory created
  -- The way of the path ends at the name that is missing, so it is where the prospect is.
  have leads : Leads fs linkLimit path.names (fs.origin path) left (last :: above) := by
    rw [names_eq]
    refine leads.append (by simp [directory]) ?_
    exact .vacant directory ordinary.ne_dot ordinary.ne_dotDot ordinary.length_le missing
  refine .insert wellFormed directory ordinary (missing ▸ .made) ⟨?_, rfl⟩
  rw [prospect_of_leads leads]

/-- Making one directory goes one step on from where the path stops. -/
theorem stopsAt_of_makeDirectory (created : fs.makeDirectory path = .ok made) :
    ∃ base name, StopsAt fs path base [name] := by
  obtain ⟨front, last, left, above, names_eq, _, leads, directory, ordinary, missing, _⟩ :=
    exists_of_makeDirectory created
  refine ⟨above, last, ⟨front, left, leads, ?_⟩, directory, ?_, last, [], rfl, missing⟩
  · rw [Path.route, names_eq, List.filter_append]
    simp [ordinary.ne_dot]
  · simpa using ordinary.isPlain

/-- A path climbs from directories only: it leads to one, and goes on from there by plain names. -/
def Anchored (fs : FileSystem) (path : Path) : Prop :=
  ∃ front names left base, path.route = front ++ names ∧ (∀ name ∈ names, IsPlain name) ∧
    Leads fs linkLimit front (fs.origin path) left base ∧ fs.get? base = some .directory

/-- A path that never climbs does so from nowhere. -/
theorem anchored_of_descends (wellFormed : fs.WellFormed) (descends : .parent ∉ path.components) :
    fs.Anchored path :=
  ⟨[], path.route, linkLimit, fs.origin path, rfl, Path.isPlain_of_mem_route descends, .done,
    get?_origin wellFormed path⟩

namespace Anchored

theorem beneath {above : Path} {names : List Name} (anchored : fs.Anchored above)
    (beneath : Path.Beneath path above names) : fs.Anchored path := by
  obtain ⟨front, others, left, base, route, plain, leads, directory⟩ := anchored
  refine ⟨front, others ++ names, left, base, ?_, ?_, ?_, directory⟩
  · rw [beneath.route_eq, route, List.append_assoc]
  · exact List.forall_mem_append.2 ⟨plain, beneath.plain⟩
  · rwa [origin, beneath.isAbsolute_eq]

theorem evolve {permitted : Location → Object → Prop} (anchored : fs.Anchored path)
    (evolves : Evolves permitted fs made) : made.Anchored path := by
  obtain ⟨front, names, left, base, route, plain, leads, directory⟩ := anchored
  refine ⟨front, names, left, base, route, plain, ?_, evolves.directory directory⟩
  rw [evolves.origin_eq]
  exact evolves.leads leads

/-- The parent of an anchored path is anchored. The path leads to a directory, or goes on from its
parent by plain names, one at most. -/
theorem of_parent? {above : Path} (anchored : fs.Anchored path)
    (parent : path.parent? = some above) :
    fs.Anchored above ∧
      ((∃ left base, Leads fs linkLimit path.route (fs.origin path) left base ∧
          fs.get? base = some .directory) ∨
        ∃ extra, path.route = above.route ++ extra ∧ ∀ name ∈ extra, IsPlain name) := by
  obtain ⟨front, names, left, base, route, plain, leads, directory⟩ := anchored
  obtain ⟨⟨component, split⟩, absolute, _⟩ := Path.parent?_spec parent
  have origin_eq : fs.origin above = fs.origin path := by rw [origin, origin, absolute]
  have whole : path.route = above.route ++ component.step?.toList := by
    rw [Path.route_eq, Path.route_eq, split, List.filterMap_append, List.filterMap_cons]
    cases component.step? <;> rfl
  cases step : component.step? with
  | none =>
    rw [step, Option.toList_none, List.append_nil] at whole
    rw [← origin_eq] at leads
    exact ⟨⟨front, names, left, base, whole ▸ route, plain, leads, directory⟩,
      .inr ⟨[], by simp [whole], by simp⟩⟩
  | some last =>
    rw [step, Option.toList_some] at whole
    -- The last step is one of the plain ones, or leads on to the directory from another one.
    rcases List.eq_nil_or_concat names with rfl | ⟨others, name, rfl⟩
    · rw [List.append_nil] at route
      rw [← route] at leads
      obtain ⟨half, middle, first, final⟩ := leads.split whole
      rw [← origin_eq] at first
      exact ⟨⟨above.route, [], half, middle, by simp, by simp, first, final.directory_of_singleton⟩,
        .inl ⟨left, base, leads, directory⟩⟩
    · rw [List.concat_eq_append] at route plain
      rw [whole, ← List.append_assoc] at route
      obtain ⟨higher, same⟩ := List.append_inj' route rfl
      rw [List.forall_mem_append] at plain
      rw [← origin_eq] at leads
      exact ⟨⟨front, others, left, base, higher, plain.1, leads, directory⟩,
        .inr ⟨[last], whole, same ▸ plain.2⟩⟩

/-- Where a path is missing, it goes on from its parent by plain names. -/
theorem exists_route_of_parent? {above : Path} (anchored : fs.Anchored path)
    (nonempty : path.bytes ≠ []) (missing : fs.makeDirectory path = .error .notFound)
    (parent : path.parent? = some above) :
    fs.Anchored above ∧
      ∃ extra, path.route = above.route ++ extra ∧ ∀ name ∈ extra, IsPlain name := by
  obtain ⟨higher, ⟨left, base, leads, directory⟩ | further⟩ := anchored.of_parent? parent
  · exact absurd missing (makeDirectory_ne_notFound nonempty leads directory)
  · exact ⟨higher, further⟩

end Anchored

/-- What a path above changes, the path itself may change. -/
private theorem creation_of_parent? {above : Path} {extra : List Name}
    (wellFormed : fs.WellFormed) (parent : path.parent? = some above)
    (route : path.route = above.route ++ extra) (plain : ∀ name ∈ extra, IsPlain name)
    (higher : made = fs ∨ ∃ base missing, StopsAt fs above base missing ∧
      Evolves (MadeDownTo (fs.prospect above)) fs made) :
    made = fs ∨ ∃ base missing, StopsAt fs path base missing ∧
      Evolves (MadeDownTo (fs.prospect path)) fs made := by
  rcases higher with same | ⟨base, missing, stops, evolves⟩
  · exact .inl same
  have longer := stops.extend (Path.parent?_spec parent).2.1 route plain
  -- The parent has its prospect above that of the path, so more may change for the path.
  have target : fs.prospect above <:+ fs.prospect path := by
    rw [longer.prospect_eq wellFormed, stops.prospect_eq wellFormed, List.reverse_append,
      List.append_assoc]
    exact List.suffix_append ..
  exact .inr ⟨base, _, longer,
    evolves.mono fun location object ⟨within, same⟩ => ⟨within.trans target, same⟩⟩

/-- Making a directory with what is missing above it changes nothing, or the path stops somewhere
and directories are made from there on. -/
theorem createDirectories_spec {fs : FileSystem} {path : Path} (wellFormed : fs.WellFormed)
    (anchored : fs.Anchored path) :
    (fs.createDirectories path).1 = fs ∨
      ∃ base missing, StopsAt fs path base missing ∧
        Evolves (MadeDownTo (fs.prospect path)) fs (fs.createDirectories path).1 := by
  rw [createDirectories_eq]
  split
  next => exact .inl rfl
  next nonempty =>
  cases attempt : fs.makeDirectory path with
  | ok made =>
    -- One name was missing, and it has been made.
    obtain ⟨base, name, stops⟩ := stopsAt_of_makeDirectory attempt
    exact .inr ⟨base, [name], stops, .makeDirectory wellFormed attempt⟩
  | error failure =>
    by_cases notFound : failure = .notFound
    · subst notFound
      cases parent : path.parent? with
      | none => exact .inl rfl
      | some above =>
        -- The parent is tried in turn; its text is shorter, which is why this ends.
        have shorter := (Path.parent?_spec parent).2.2
        obtain ⟨higher, _, route, plain⟩ :=
          anchored.exists_route_of_parent? (by simpa using nonempty) attempt parent
        have known := creation_of_parent? wellFormed parent route plain
          (createDirectories_spec wellFormed higher)
        simp only [Option.map_some, Option.getD_some]
        split
        next made result =>
          rw [result] at known
          rcases known with same | ⟨base, missing, stops, evolves⟩
          · -- Nothing was made above, so the second attempt fails as the first one did.
            obtain rfl : made = fs := same
            rw [attempt]
            exact .inl rfl
          · -- What was made above leaves the prospect where it is, so both changes are of one kind.
            refine .inr ⟨base, missing, stops, ?_⟩
            cases created : made.makeDirectory path with
            | error => exact evolves
            | ok further =>
              have step := Evolves.makeDirectory evolves.wellFormed created
              rw [evolves.prospect_eq] at step
              exact evolves.trans step
        next => exact known
    · left
      split
      next equal => exact absurd (Except.error.inj equal) notFound
      next => rfl
termination_by path.bytes.length

theorem createDirectories_evolves (wellFormed : fs.WellFormed) (anchored : fs.Anchored path) :
    Evolves (MadeDownTo (fs.prospect path)) fs (fs.createDirectories path).1 := by
  rcases createDirectories_spec wellFormed anchored with same | ⟨_, _, _, evolves⟩
  · rw [same]
    exact .refl wellFormed
  · exact evolves

theorem isDirectory_of_settle {result : Except Failure FileSystem}
    (made_eq : ∀ after, result = .ok after → after.isDirectory path = true)
    (settled : settle fs path result = (made, .ok ())) : made.isDirectory path = true := by
  cases result with
  | ok after =>
    cases settled
    exact made_eq made rfl
  | error failure =>
    rw [settle, Prod.mk.injEq] at settled
    obtain ⟨rfl, found⟩ := settled
    -- The failure counts as a success only where a directory is there.
    split at found
    next directory => exact directory
    next => cases found

/-- Where making a directory succeeds, there is one, whatever the path climbs from. -/
theorem isDirectory_of_createDirectories (nonempty : path.bytes ≠ [])
    (created : fs.createDirectories path = (made, .ok ())) : made.isDirectory path = true := by
  rw [createDirectories_eq, if_neg (by simpa using nonempty)] at created
  split at created
  next attempt =>
    split at created
    next between result =>
      exact isDirectory_of_settle (fun _ => isDirectory_of_makeDirectory) created
    next failed =>
      -- The result above would have to be a success, which the case before took.
      rw [created] at failed
      exact absurd rfl (failed made)
  next => exact isDirectory_of_settle (fun _ => isDirectory_of_makeDirectory) created

/-- Where making a directory succeeds, the path leads to its prospect, a directory. -/
theorem leads_of_createDirectories (wellFormed : fs.WellFormed) (anchored : fs.Anchored path)
    (created : fs.createDirectories path = (made, .ok ())) :
    made.get? (fs.prospect path) = some .directory ∧
      ∃ left, Leads made linkLimit path.names (made.origin path) left (fs.prospect path) := by
  have evolves := createDirectories_evolves wellFormed anchored
  rw [created] at evolves
  -- The empty path stands for the working directory, which nothing has to be made for.
  by_cases empty : path.bytes = []
  · obtain rfl : path = ⟨[]⟩ := by cases path; simp_all
    refine ⟨evolves.directory wellFormed.working, linkLimit, ?_⟩
    change Leads made linkLimit [] made.workingDirectory linkLimit fs.workingDirectory
    rw [show made.workingDirectory = fs.workingDirectory from evolves.working]
    exact .done
  · have directory := isDirectory_of_createDirectories empty created
    obtain ⟨_, left, there, leads, found⟩ := isDirectory_iff.1 directory
    obtain rfl : fs.prospect path = there := by
      rw [← evolves.prospect_eq, prospect_of_leads leads]
    exact ⟨found, left, leads⟩

end FileSystem

end TwinTree
