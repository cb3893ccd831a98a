import TwinTree.Proofs.Destination.Overlap
import TwinTree.Proofs.FileSystem.Foresight

/-!
# Accesses to what is there already

Making a directory that exists changes nothing (`createDirectories_of_isDirectory`), and writing to
a file that exists only replaces the object there, so the order of the entries stays the same
(`keys_insert`) and two file systems in the same order are the same when they hold the same
(`eq_of_agree`).
-/
namespace TwinTree.FileSystem

variable {fs made last other : FileSystem} {path : Path} {name : Name} {here there : Location}
  {left : Nat} {content : List UInt8} {mode : Nat} {object : Object}

/-! ### The order of entries -/

/-- The locations in the order in which they are held. -/
def keys (fs : FileSystem) : List Location := fs.entries.map Prod.fst

theorem place_place (entries : List (Location × Object)) (location : Location)
    (first second : Object) :
    place (place entries location first) location second = place entries location second := by
  induction entries with
  | nil => simp [place]
  | cons entry rest ih =>
    obtain ⟨found, old⟩ := entry
    by_cases equal : found = location <;> simp [place, equal, ih]

theorem insert_insert (fs : FileSystem) (location : Location) (first second : Object) :
    (fs.insert location first).insert location second = fs.insert location second := by
  rw [insert, insert, insert, place_place]

/-- What is replaced keeps its place in the order. -/
theorem keys_insert {location : Location} (named : location ≠ [])
    (found : fs.get? location = some object) (new : Object) :
    (fs.insert location new).keys = fs.keys := by
  have member : (location, object) ∈ fs.entries := by
    cases location with
    | nil => contradiction
    | cons => exact mem_of_find? found
  -- `place` either comes upon the location or leaves an entry behind.
  have replaced : ∀ entries : List (Location × Object), location ∈ entries.map Prod.fst →
      (place entries location new).map Prod.fst = entries.map Prod.fst := by
    intro entries within
    induction entries with
    | nil => cases within
    | cons entry rest ih =>
      obtain ⟨first, old⟩ := entry
      by_cases equal : first = location
      · simp [place, equal]
      · have later : location ∈ rest.map Prod.fst := by
          simpa [Ne.symm equal] using within
        simp [place, equal, ih later]
  exact replaced fs.entries (List.mem_map_of_mem member)

/-- File systems in the same order that hold the same are the same. -/
theorem eq_of_agree (wellFormed : fs.WellFormed) (wellFormed' : other.WellFormed)
    (keys_eq : other.keys = fs.keys) (working : other.workingDirectory = fs.workingDirectory)
    (agree : Agree other fs) : other = fs := by
  -- In a well-formed file system an entry is what is found at its location.
  have looked : ∀ {fs : FileSystem}, fs.WellFormed → ∀ entry ∈ fs.entries,
      fs.get? entry.1 = some entry.2 := by
    intro fs wellFormed entry member
    obtain ⟨location, object⟩ := entry
    have found := find?_of_mem wellFormed.nodup member
    cases location with
    | nil => exact absurd rfl (wellFormed.named _ member)
    | cons => exact found
  -- So entry by entry the keys decide what is held.
  have entries_eq : other.entries = fs.entries := by
    refine List.ext_getElem (by simpa [keys] using congrArg List.length keys_eq) ?_
    intro index inOther inFs
    have key_eq : (other.entries[index]).1 = (fs.entries[index]).1 := by
      have same := List.getElem_of_eq keys_eq (by simpa [keys] using inOther)
      simpa [keys] using same
    have first := looked wellFormed' _ (List.getElem_mem inOther)
    have second := looked wellFormed _ (List.getElem_mem inFs)
    rw [key_eq, agree, second] at first
    exact Prod.ext key_eq (Option.some.inj first).symm
  cases fs
  cases other
  simp_all

/-! ### Directories that exist -/

/-- Making a directory that exists changes nothing. -/
theorem createDirectories_of_isDirectory (directory : fs.isDirectory path = true) :
    fs.createDirectories path = (fs, .ok ()) := by
  rw [createDirectories_eq, makeDirectory_of_isDirectory directory]
  split
  next => rfl
  next => simp [settle, directory]

/-- A directory that has been made once need not be made again. -/
theorem createDirectories_again (created : fs.createDirectories path = (made, .ok ()))
    (leads : Leads other linkLimit path.names (other.origin path) left there)
    (directory : other.get? there = some .directory) :
    other.createDirectories path = (other, .ok ()) := by
  by_cases empty : path.bytes = []
  · rw [createDirectories_eq, if_pos (by simpa using empty)]
  · have found := isDirectory_of_createDirectories empty created
    have accepted := (isDirectory_iff.1 found).1
    exact createDirectories_of_isDirectory
      (isDirectory_iff.2 ⟨accepted, left, there, leads, directory⟩)

/-! ### Links in the last place -/

/-- A path that ends in the name of a link shows the link. -/
theorem lstat_of_link {front : List Name} {target : List UInt8}
    (accepted : checkText path pathLimit = .ok ()) (noSlash : path.endsInSlash = false)
    (split : path.names = front ++ [name])
    (leads : Leads fs linkLimit front (fs.origin path) left here)
    (directory : fs.get? here = some .directory) (notDot : name ≠ dot) (notUp : name ≠ dotDot)
    (short : name.length ≤ nameLimit) (link : fs.get? (name :: here) = some (.link target)) :
    fs.lstat path = .ok (.link target) := by
  have resolved : fs.resolve false linkLimit path.steps (fs.origin path) = .ok (name :: here) := by
    rw [Path.steps, noSlash, if_neg (by decide), split, leads.resolve_append (.inl (by simp)),
      resolve_eq_walk, walk, directory]
    simp [notDot, notUp, Nat.not_lt.2 short, link]
  rw [lstat, locate, accepted]
  simp only [bind, Except.bind, resolved]
  exact require_eq_ok_iff.2 link

/-- A path that leads to a directory shows a link only where its last segment names the link. -/
theorem exists_of_lstat_link {target : List UInt8} (wellFormed : fs.WellFormed)
    (leads : Leads fs linkLimit path.names (fs.origin path) left there)
    (directory : fs.get? there = some .directory) (shown : fs.lstat path = .ok (.link target)) :
    ∃ front segment half middle, path.names = front ++ [segment] ∧ path.endsInSlash = false ∧
      segment ≠ dot ∧ segment ≠ dotDot ∧ segment.length ≤ nameLimit ∧
      Leads fs linkLimit front (fs.origin path) half middle ∧
      fs.get? (segment :: middle) = some (.link target) := by
  obtain ⟨location, located, required⟩ := bind_eq_ok_iff.1 shown
  have standing := require_eq_ok_iff.1 required
  obtain ⟨_, _, resolved⟩ := bind_eq_ok_iff.1 located
  unfold Path.steps at resolved
  split at resolved
  next =>
    -- A slash at the end asks for the directory itself.
    rw [leads.resolve_append (.inl (by simp)), resolve_eq_walk, walk, directory] at resolved
    cases resolved
    cases standing.symm.trans directory
  next noSlash =>
    rcases List.eq_nil_or_concat path.names with empty | ⟨front, segment, split⟩
    · rw [empty] at leads resolved
      cases leads
      rw [resolve_eq_walk, walk] at resolved
      cases resolved
      cases standing.symm.trans directory
    · rw [List.concat_eq_append] at split
      obtain ⟨half, middle, first, final⟩ := leads.split split
      have enclosed := final.directory_of_singleton
      rw [split, first.resolve_append (.inl (by simp)), resolve_eq_walk, walk, enclosed] at resolved
      simp only at resolved
      split at resolved
      next =>
        cases resolved
        cases standing.symm.trans enclosed
      next notDot =>
      split at resolved
      next =>
        cases resolved
        cases standing.symm.trans (wellFormed.get?_tail enclosed)
      next notUp =>
      split at resolved
      next => cases resolved
      next notLong =>
      refine ⟨front, segment, half, middle, split, by simpa using noSlash, notDot, notUp,
        Nat.not_lt.1 notLong, first, ?_⟩
      split at resolved
      next found =>
        cases resolved
        exact standing
      next found _ =>
        cases resolved
        exact standing
      next missing =>
        cases resolved
        exact standing

/-- A path that showed no link before it was made to lead to a directory shows none afterwards. -/
theorem lstat_ne_link_of_createDirectories {permitted : Location → Object → Prop}
    (wellFormed : fs.WellFormed) (anchored : fs.Anchored path)
    (created : fs.createDirectories path = (made, .ok ())) (evolves : Evolves permitted fs last)
    (leads : Leads last linkLimit path.names (last.origin path) left (fs.prospect path))
    (directory : last.get? (fs.prospect path) = some .directory)
    (noLink : ∀ target, fs.lstat path ≠ .ok (.link target)) (target : List UInt8) :
    last.lstat path ≠ .ok (.link target) := by
  intro shown
  obtain ⟨front, segment, half, middle, split, noSlash, notDot, notUp, short, first, link⟩ :=
    exists_of_lstat_link evolves.wellFormed leads directory shown
  rw [evolves.origin_eq] at first
  rcases createDirectories_spec wellFormed anchored with same | ⟨base, missing, stops, _⟩
  · -- Nothing was made, so the link was there already, and the path showed it.
    have untouched : fs.createDirectories path = (fs, .ok ()) :=
      Prod.ext same (by rw [created])
    obtain ⟨_, spare, way⟩ := leads_of_createDirectories wellFormed anchored untouched
    -- The way there was the same before as it is now, link included.
    obtain ⟨half', middle', first', final⟩ := way.split split
    obtain rfl := (evolves.leads first').unique first
    have linked : fs.get? (segment :: middle') = some (.link target) :=
      (evolves.developed _).link_iff.2 link
    obtain ⟨_, located, _⟩ := bind_eq_ok_iff.1 shown
    obtain ⟨_, accepted, _⟩ := bind_eq_ok_iff.1 located
    exact noLink target (lstat_of_link accepted noSlash split first' final.directory_of_singleton
      notDot notUp short linked)
  · -- The path stopped short of its last segment, which is a directory by now.
    obtain ⟨start, spare, begins, route⟩ := stops.leads
    -- The last segment is the last of the missing names, and what is in front of it the others.
    have ends : path.route = front.filter (· ≠ dot) ++ [segment] := by
      rw [Path.route, split, List.filter_append]
      simp [notDot]
    rcases List.eq_nil_or_concat missing with empty | ⟨higher, final, concat⟩
    · obtain ⟨_, _, nonempty, _⟩ := stops.vacant
      cases empty.symm.trans nonempty
    rw [List.concat_eq_append] at concat
    subst concat
    rw [ends, ← List.append_assoc] at route
    obtain ⟨front_eq, segment_eq⟩ := List.append_inj' route rfl
    obtain rfl := List.singleton_inj.1 segment_eq
    rw [stops.prospect_eq wellFormed, List.reverse_concat, List.cons_append] at directory
    have enclosed : last.get? (higher.reverse ++ base) = some .directory :=
      evolves.wellFormed.get?_tail directory
    have existing := evolves.directory stops.directory
    have down : Leads last linkLimit (start ++ higher) (fs.origin path) spare
        (higher.reverse ++ base) :=
      (evolves.leads begins).append (by simp [existing]) (evolves.wellFormed.leads_down enclosed)
    have plain : higher.filter (· ≠ dot) = higher :=
      Path.filter_eq_self_of_isPlain (List.forall_mem_append.1 stops.plain).1
    have same : (start ++ higher).filter (· ≠ dot) = front.filter (· ≠ dot) := by
      rw [List.filter_append, plain, front_eq]
    -- So the link would be where the directory is.
    obtain rfl := (down.of_filter_eq enclosed same).unique first
    cases directory.symm.trans link

/-! ### Files that exist -/

section File

variable (ordinary : IsOrdinary name) (accepted : checkText (path.join ⟨name⟩) pathLimit = .ok ())
  (enclosed : fs.get? here = some .directory)
  (leads : Leads fs linkLimit path.names (fs.origin path) left here)

include ordinary accepted enclosed leads

theorem locate_join (standing : fs.get? (name :: here) = some object)
    (plain : object.isLink = false) :
    fs.locate (path.join ⟨name⟩) true = .ok (name :: here) := by
  refine locate_eq_ok_iff.2 ⟨accepted, left, ?_⟩
  rw [Path.steps_join_name ordinary.isPlain, origin_join_name ordinary.isPlain]
  exact leads.append (by simp [enclosed]) (.enter enclosed ordinary.ne_dot ordinary.ne_dotDot
    ordinary.length_le standing plain .done)

theorem setMode_join {before : Nat} {old : Option Object}
    (standing : fs.get? (name :: here) = some ((Object.file content before).inPlaceOf old)) :
    fs.setMode (path.join ⟨name⟩) mode =
      .ok (fs.insert (name :: here) ((Object.file content mode).inPlaceOf old)) := by
  have plain : ((Object.file content before).inPlaceOf old).isLink = false :=
    Object.isLink_inPlaceOf rfl old
  rw [setMode, locate_join ordinary accepted enclosed leads standing plain]
  simp only [bind, Except.bind]
  rw [require_eq_ok_iff.2 standing]
  rcases Object.inPlaceOf_cases old with ⟨object, rfl, stream⟩ | replaced
  · rw [Object.inPlaceOf_of_isStream _ stream] at standing
    simp only [Object.inPlaceOf_of_isStream _ stream, insert_of_get? (by simp) standing]
    cases object with
    | fifo | device => rfl
    | _ => cases stream
  · rw [replaced, replaced]
    rfl

theorem locateParent_join : fs.locateParent (path.join ⟨name⟩) = .ok (here, some name) := by
  have names_eq : (path.join ⟨name⟩).names = path.names ++ [name] :=
    Path.names_join_name ordinary.isPlain
  refine locateParent_eq_ok_iff.2 ⟨accepted, enclosed, ⟨left, ?_⟩, ?_⟩
  · rwa [names_eq, List.dropLast_concat, origin_join_name ordinary.isPlain]
  · rw [names_eq, List.getLast?_concat]

theorem writeFile_join {former : List UInt8} {old : Option Object}
    (standing : fs.get? (name :: here) = some ((Object.file former mode).inPlaceOf old)) :
    fs.writeFile (path.join ⟨name⟩) content =
      .ok (fs.insert (name :: here) ((Object.file content mode).inPlaceOf old)) := by
  have plain : ((Object.file former mode).inPlaceOf old).isLink = false :=
    Object.isLink_inPlaceOf rfl old
  rw [writeFile, locateParent_join ordinary accepted enclosed leads,
    locate_join ordinary accepted enclosed leads standing plain]
  simp only [bind, Except.bind, Path.endsInSlash_join ordinary.isPlain, ordinary.ne_dot,
    ordinary.ne_dotDot, standing, Bool.false_eq_true, or_self, if_false]
  rcases Object.inPlaceOf_cases old with ⟨object, rfl, stream⟩ | replaced
  · rw [Object.inPlaceOf_of_isStream _ stream] at standing
    simp only [Object.inPlaceOf_of_isStream _ stream, insert_of_get? (by simp) standing]
    cases object with
    | fifo | device => rfl
    | _ => cases stream
  · rw [replaced, replaced]
    rfl

theorem ensureWritable_join {before : Nat} {old : Option Object}
    (standing : fs.get? (name :: here) = some ((Object.file content before).inPlaceOf old)) :
    fs.ensureWritable (path.join ⟨name⟩) = .ok (fs.insert (name :: here)
      ((Object.file content (before ||| ownerWrite)).inPlaceOf old)) := by
  have shown : fs.lstat (path.join ⟨name⟩) =
      .ok ((Object.file content before).inPlaceOf old) := by
    rw [lstat_join ordinary.isPlain enclosed leads, accepted]
    simp [bind, Except.bind, Nat.not_lt.2 ordinary.length_le, require_eq_ok_iff.2 standing]
  rcases Object.inPlaceOf_cases old with ⟨object, rfl, stream⟩ | replaced
  · rw [Object.inPlaceOf_of_isStream _ stream] at standing shown ⊢
    rw [insert_of_get? (by simp) standing, ensureWritable, shown]
    cases object with
    | fifo | device => rfl
    | _ => cases stream
  · rw [ensureWritable, shown, replaced]
    exact setMode_join ordinary accepted enclosed leads standing

end File

end TwinTree.FileSystem
