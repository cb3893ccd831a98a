import TwinTree.Proofs.FileSystem.Order
import TwinTree.Proofs.Path.Route

/-!
# Resolution as a relation

`Leads` tells step by step how segments lead from one location to another. Resolution succeeds
exactly along it (`resolve_eq_ok_iff`), goes on behind it (`Leads.resolve_append`), and depends on
nothing but the objects it looks at on the way (`resolve_congr`), which `LooksAt` names.
-/
namespace TwinTree.FileSystem

/-- Segments lead from one location to another with all links followed; the numbers are how many
links may be followed before and behind. Only the last segment may name nothing. -/
inductive Leads (fs : FileSystem) : Nat → List Name → Location → Nat → Location → Prop where
  | done {links : Nat} {here : Location} : Leads fs links [] here links here
  | stay {links left : Nat} {rest : List Name} {here there : Location} :
      fs.get? here = some .directory → Leads fs links rest here left there →
      Leads fs links (dot :: rest) here left there
  | up {links left : Nat} {rest : List Name} {here there : Location} :
      fs.get? here = some .directory → Leads fs links rest here.tail left there →
      Leads fs links (dotDot :: rest) here left there
  | enter {links left : Nat} {segment : Name} {rest : List Name} {here there : Location}
      {object : Object} : fs.get? here = some .directory →
      segment ≠ dot → segment ≠ dotDot → segment.length ≤ nameLimit →
      fs.get? (segment :: here) = some object → object.isLink = false →
      Leads fs links rest (segment :: here) left there →
      Leads fs links (segment :: rest) here left there
  | follow {links left : Nat} {segment : Name} {rest : List Name} {here there : Location}
      {target : List UInt8} : fs.get? here = some .directory →
      segment ≠ dot → segment ≠ dotDot → segment.length ≤ nameLimit →
      fs.get? (segment :: here) = some (.link target) →
      Leads fs links ((Path.mk target).steps ++ rest)
        (if (Path.mk target).isAbsolute then [] else here) left there →
      Leads fs (links + 1) (segment :: rest) here left there
  | vacant {links : Nat} {segment : Name} {here : Location} : fs.get? here = some .directory →
      segment ≠ dot → segment ≠ dotDot → segment.length ≤ nameLimit →
      fs.get? (segment :: here) = none → Leads fs links [segment] here links (segment :: here)

variable {fs : FileSystem} {links left : Nat} {segments front rest : List Name}
  {here there : Location}

/-- What takes over at a link while so many more may be followed. -/
def following (fs : FileSystem) (followLast : Bool) :
    Nat → List Name → Location → Except Failure Location
  | 0 => fun _ _ => .error .tooManyLinks
  | links + 1 => fs.resolve followLast links

theorem resolve_eq_walk (fs : FileSystem) (followLast : Bool) (links : Nat) :
    fs.resolve followLast links = fs.walk (fs.following followLast links) followLast := by
  cases links <;> rfl

/-- Resolution goes on from where the segments in front lead. -/
theorem Leads.resolve_append {followLast : Bool}
    (leads : Leads fs links front here left there) (onward : rest ≠ [] ∨ followLast = true) :
    fs.resolve followLast links (front ++ rest) here = fs.resolve followLast left rest there := by
  -- Each step of the relation is one unfolding of `walk`, whose branches its premises decide.
  induction leads with
  | done => rfl
  | stay directory _ ih =>
    rw [← ih, resolve_eq_walk, List.cons_append, walk, directory]
    simp
  | up directory _ ih =>
    rw [← ih, resolve_eq_walk, List.cons_append, walk, directory]
    simp [dot, dotDot]
  | @enter _ _ _ _ _ _ object directory notDot notUp short found plain _ ih =>
    rw [← ih, resolve_eq_walk, List.cons_append, walk, directory]
    simp only [notDot, notUp, Nat.not_lt.2 short, if_false, found]
    cases object <;> first | rfl | cases plain
  | @follow _ _ _ inner _ _ _ directory notDot notUp short found _ ih =>
    -- The link is in the last place only if nothing is left to go through, and then it is followed.
    have last : ((inner ++ rest).isEmpty && !followLast) = false := by
      rcases onward with nonempty | follows
      · simp [nonempty]
      · simp [follows]
    rw [List.append_assoc] at ih
    rw [← ih, resolve_eq_walk, List.cons_append, walk, directory]
    simp only [notDot, notUp, Nat.not_lt.2 short, if_false, found, last, Bool.false_eq_true]
    rfl
  | vacant directory notDot notUp short missing =>
    rw [resolve_eq_walk, List.cons_append, walk, directory]
    simp only [notDot, notUp, Nat.not_lt.2 short, if_false, missing]
    cases rest with
    | nil => rfl
    | cons next others => simp [walk, missing]

/-- One step of a resolution that succeeds, the rest of which is known to follow the relation. -/
private theorem exists_leads_of_walk {followLast : Bool}
    (ends : followLast = true ∨ ∀ target, fs.get? there ≠ some (.link target))
    (onward : ∀ segments here, fs.following followLast links segments here = .ok there →
      ∃ before left, links = before + 1 ∧ Leads fs before segments here left there)
    (found : fs.walk (fs.following followLast links) followLast segments here = .ok there) :
    ∃ left, Leads fs links segments here left there := by
  -- `walk` recurs on the segments and hands over to `following` at a link, which `onward` covers.
  induction segments generalizing here with
  | nil =>
    obtain rfl : here = there := Except.ok.inj found
    exact ⟨links, .done⟩
  | cons segment rest ih =>
    rw [walk] at found
    split at found
    next => cases found
    next directory =>
      split at found
      next isDot =>
        obtain ⟨left, leads⟩ := ih found
        exact ⟨left, isDot ▸ .stay directory leads⟩
      next notDot =>
      split at found
      next isUp =>
        obtain ⟨left, leads⟩ := ih found
        exact ⟨left, isUp ▸ .up directory leads⟩
      next notUp =>
      split at found
      next => cases found
      next notLong =>
      have short := Nat.not_lt.1 notLong
      split at found
      next target link =>
        -- Nothing ends at a link but a resolution that does not follow the last one.
        have last : (rest.isEmpty && !followLast) = false := by
          rcases ends with follows | noLink
          · simp [follows]
          · by_contra stops
            rw [Bool.not_eq_false] at stops
            rw [if_pos stops] at found
            cases found
            exact noLink target link
        rw [last, if_neg (by decide)] at found
        obtain ⟨before, left, rfl, leads⟩ := onward _ _ found
        exact ⟨left, .follow directory notDot notUp short link leads⟩
      next object notLink object_eq =>
        obtain ⟨left, leads⟩ := ih found
        have plain : object.isLink = false := by
          cases object <;> first | rfl | exact absurd rfl (notLink _)
        exact ⟨left, .enter directory notDot notUp short object_eq plain leads⟩
      next missing =>
        split at found
        next last =>
          obtain rfl := List.isEmpty_iff.1 last
          obtain rfl := Except.ok.inj found
          exact ⟨links, .vacant directory notDot notUp short missing⟩
        next => cases found
    next => cases found

/-- A resolution that succeeds follows the relation, unless it ends at a link. -/
theorem exists_leads_of_resolve {followLast : Bool}
    (ends : followLast = true ∨ ∀ target, fs.get? there ≠ some (.link target))
    (found : fs.resolve followLast links segments here = .ok there) :
    ∃ left, Leads fs links segments here left there := by
  -- What comes behind a link is resolved with one link less, so the induction is on their number.
  induction links generalizing segments here with
  | zero =>
    refine exists_leads_of_walk ends (fun _ _ impossible => ?_) found
    cases impossible
  | succ links ih =>
    refine exists_leads_of_walk ends (fun segments here followed => ?_) found
    obtain ⟨left, leads⟩ := ih followed
    exact ⟨links, left, rfl, leads⟩

/-- Resolution that follows all links succeeds exactly where the segments lead somewhere. -/
theorem resolve_eq_ok_iff :
    fs.resolve true links segments here = .ok there ↔
      ∃ left, Leads fs links segments here left there := by
  constructor
  · exact exists_leads_of_resolve (.inl rfl)
  · rintro ⟨left, leads⟩
    have whole := leads.resolve_append (.inr rfl : ([] : List Name) ≠ [] ∨ true = true)
    rw [List.append_nil] at whole
    rw [whole, resolve_eq_walk, walk]

/-! ### Parts of a way -/

theorem Leads.append {middle : Location} {half : Nat}
    (first : Leads fs links front here half middle)
    (existing : fs.get? middle ≠ none) (second : Leads fs half rest middle left there) :
    Leads fs links (front ++ rest) here left there := by
  induction first with
  | done => exact second
  | stay directory _ ih => exact .stay directory (ih existing second)
  | up directory _ ih => exact .up directory (ih existing second)
  | enter directory notDot notUp short found plain _ ih =>
    exact .enter directory notDot notUp short found plain (ih existing second)
  | follow directory notDot notUp short found _ ih =>
    exact .follow directory notDot notUp short found (List.append_assoc .. ▸ ih existing second)
  -- Nothing can be gone through where there is nothing.
  | vacant _ _ _ _ missing => exact absurd missing existing

/-- Names lead down to a directory from whatever it is beneath. -/
theorem Orderly.leads_down (orderly : fs.Orderly) {names : List Name}
    (directory : fs.get? (names.reverse ++ here) = some .directory) :
    Leads fs links names here links (names.reverse ++ here) := by
  -- Each name is entered last, from a directory that the names before it lead to.
  induction names using List.reverseRecOn with
  | nil => exact .done
  | append_singleton front name ih =>
    rw [List.reverse_append, List.reverse_singleton, List.singleton_append, List.cons_append]
      at directory ⊢
    have enclosed : fs.get? (front.reverse ++ here) = some .directory :=
      orderly.get?_tail directory
    obtain ⟨plain, short⟩ := orderly.holds directory name List.mem_cons_self
    refine (ih enclosed).append (by simp [enclosed]) ?_
    exact .enter enclosed plain.ne_dot plain.ne_dotDot short directory rfl .done

/-- A way can be cut anywhere. -/
theorem Leads.split (leads : Leads fs links segments here left there)
    (parts : segments = front ++ rest) :
    ∃ half middle, Leads fs links front here half middle ∧
      Leads fs half rest middle left there := by
  -- The cut is in front of the next step, where nothing is to be done, or somewhere behind it.
  induction leads generalizing front with
  | done =>
    obtain ⟨rfl, rfl⟩ := List.append_eq_nil_iff.1 parts.symm
    exact ⟨_, _, .done, .done⟩
  | stay directory onward ih =>
    cases front with
    | nil =>
      obtain rfl : _ = rest := parts
      exact ⟨_, _, .done, .stay directory onward⟩
    | cons segment front =>
      obtain ⟨rfl, behind⟩ := List.cons.inj parts
      obtain ⟨half, middle, first, second⟩ := ih behind
      exact ⟨half, middle, .stay directory first, second⟩
  | up directory onward ih =>
    cases front with
    | nil =>
      obtain rfl : _ = rest := parts
      exact ⟨_, _, .done, .up directory onward⟩
    | cons segment front =>
      obtain ⟨rfl, behind⟩ := List.cons.inj parts
      obtain ⟨half, middle, first, second⟩ := ih behind
      exact ⟨half, middle, .up directory first, second⟩
  | enter directory notDot notUp short found plain onward ih =>
    cases front with
    | nil =>
      obtain rfl : _ = rest := parts
      exact ⟨_, _, .done, .enter directory notDot notUp short found plain onward⟩
    | cons segment front =>
      obtain ⟨rfl, behind⟩ := List.cons.inj parts
      obtain ⟨half, middle, first, second⟩ := ih behind
      exact ⟨half, middle, .enter directory notDot notUp short found plain first, second⟩
  | follow directory notDot notUp short found onward ih =>
    cases front with
    | nil =>
      obtain rfl : _ = rest := parts
      exact ⟨_, _, .done, .follow directory notDot notUp short found onward⟩
    | cons segment front =>
      obtain ⟨rfl, rfl⟩ := List.cons.inj parts
      -- The target of the link stands in front of the rest, so the cut moves behind it.
      obtain ⟨half, middle, first, second⟩ := ih (List.append_assoc ..).symm
      exact ⟨half, middle, .follow directory notDot notUp short found first, second⟩
  | vacant directory notDot notUp short missing =>
    cases front with
    | nil =>
      obtain rfl : _ = rest := parts
      exact ⟨_, _, .done, .vacant directory notDot notUp short missing⟩
    | cons segment front =>
      obtain ⟨rfl, behind⟩ := List.cons.inj parts
      obtain ⟨rfl, rfl⟩ := List.append_eq_nil_iff.1 behind.symm
      exact ⟨_, _, .vacant directory notDot notUp short missing, .done⟩

/-- Only a directory can be stayed in. -/
theorem leads_append_dot_iff :
    Leads fs links (segments ++ [dot]) here left there ↔
      Leads fs links segments here left there ∧ fs.get? there = some .directory := by
  constructor
  · intro leads
    obtain ⟨half, middle, first, last⟩ := leads.split rfl
    cases last with
    | stay directory rest =>
      cases rest
      exact ⟨first, directory⟩
    | enter _ notDot => exact absurd rfl notDot
    | follow _ notDot => exact absurd rfl notDot
    | vacant _ notDot => exact absurd rfl notDot
  · rintro ⟨leads, directory⟩
    exact leads.append (by simp [directory]) (.stay directory .done)

/-- What is gone through to something that exists has names that can be held. -/
theorem Leads.nul_notMem (wellFormed : fs.WellFormed)
    (leads : Leads fs links segments here left there) (existing : fs.get? there ≠ none) :
    ∀ segment ∈ segments, 0 ∉ segment := by
  have held : ∀ {name : Name} {above : Location} {object : Object},
      fs.get? (name :: above) = some object → 0 ∉ name := by
    intro name above object found
    exact (wellFormed.isOrdinary found name List.mem_cons_self).nul_notMem
  induction leads with
  | done => simp
  | stay _ _ ih => exact List.forall_mem_cons.2 ⟨by decide, ih existing⟩
  | up _ _ ih => exact List.forall_mem_cons.2 ⟨by decide, ih existing⟩
  | enter _ _ _ _ found _ _ ih => exact List.forall_mem_cons.2 ⟨held found, ih existing⟩
  | follow _ _ _ _ found _ ih =>
    exact List.forall_mem_cons.2
      ⟨held found, fun segment member => ih existing segment (List.mem_append_right _ member)⟩
  | vacant _ _ _ _ missing => exact absurd missing existing

/-- A way that ends where nothing is ends in a directory, with a name that fits there. -/
theorem Leads.exists_of_missing
    (lies : ∀ {location object}, fs.get? location = some object →
      fs.get? location.tail = some .directory)
    (leads : Leads fs links segments here left there)
    (start : fs.get? here ≠ none) (missing : fs.get? there = none) :
    ∃ name above, there = name :: above ∧ fs.get? above = some .directory ∧
      name.length ≤ nameLimit := by
  induction leads with
  | done => exact absurd missing start
  | stay directory _ ih => exact ih start missing
  | up directory _ ih => exact ih (by simp [lies directory]) missing
  | enter _ _ _ _ found _ _ ih => exact ih (by simp [found]) missing
  | follow directory _ _ _ _ _ ih =>
    refine ih ?_ missing
    split <;> simp [directory]
  | vacant directory _ _ short _ => exact ⟨_, _, rfl, directory, short⟩

private theorem Leads.stayed (leads : Leads fs links segments here left there)
    (directory : fs.get? here = some .directory) (stays : ∀ segment ∈ front, segment = dot) :
    Leads fs links (front ++ segments) here left there := by
  induction front with
  | nil => exact leads
  | cons segment front ih =>
    rw [List.forall_mem_cons] at stays
    obtain ⟨rfl, stays⟩ := stays
    exact .stay directory (ih stays)

/-- On the way to a directory it does not matter where segments stay in place. -/
theorem Leads.of_filter_eq (leads : Leads fs links segments here left there)
    (directory : fs.get? there = some .directory) {others : List Name}
    (same : segments.filter (· ≠ dot) = others.filter (· ≠ dot)) :
    Leads fs links others here left there := by
  -- A segment that goes somewhere stands in the other list too, behind some that stay.
  have parts : ∀ {segment : Name} {rest others : List Name}, segment ≠ dot →
      (segment :: rest).filter (· ≠ dot) = others.filter (· ≠ dot) →
      ∃ stays behind, others = stays ++ segment :: behind ∧ (∀ stay ∈ stays, stay = dot) ∧
        rest.filter (· ≠ dot) = behind.filter (· ≠ dot) := by
    intro segment rest others notDot same
    rw [List.filter_cons_of_pos (by simpa using notDot)] at same
    obtain ⟨stays, behind, split, dots, _, same⟩ := List.filter_eq_cons_iff.1 same.symm
    exact ⟨stays, behind, split, fun stay member => by simpa using dots stay member, same.symm⟩
  induction leads generalizing others with
  | done =>
    have stays : ∀ segment ∈ others, segment = dot := by
      simpa [List.filter_eq_nil_iff] using same.symm
    simpa using Leads.done.stayed directory stays
  | stay _ _ ih => exact ih directory (by simpa using same)
  | up standing _ ih =>
    obtain ⟨stays, behind, rfl, dots, same⟩ := parts (by decide) same
    exact Leads.stayed (.up standing (ih directory same)) standing dots
  | enter standing notDot notUp short found plain _ ih =>
    obtain ⟨stays, behind, rfl, dots, same⟩ := parts notDot same
    exact Leads.stayed (.enter standing notDot notUp short found plain (ih directory same))
      standing dots
  | @follow _ _ _ rest _ _ target standing notDot notUp short found _ ih =>
    obtain ⟨stays, behind, rfl, dots, same⟩ := parts notDot same
    -- The target of the link is the same for both, and in front of what is left.
    have whole : ((Path.mk target).steps ++ rest).filter (· ≠ dot) =
        ((Path.mk target).steps ++ behind).filter (· ≠ dot) := by
      rw [List.filter_append, List.filter_append, same]
    have onward := ih directory whole
    exact Leads.stayed (.follow standing notDot notUp short found onward) standing dots
  | vacant _ _ _ _ missing =>
    rw [missing] at directory
    cases directory

/-- A path leads to a directory whether or not a slash at its end asks for one. -/
theorem leads_steps_iff {path : Path} (directory : fs.get? there = some .directory) :
    Leads fs links path.steps here left there ↔ Leads fs links path.names here left there := by
  unfold Path.steps
  split
  · rw [leads_append_dot_iff]
    exact and_iff_left directory
  · rfl

/-- The last step of a way is taken from a directory. -/
theorem Leads.directory_of_singleton {segment : Name}
    (leads : Leads fs links [segment] here left there) : fs.get? here = some .directory := by
  cases leads <;> assumption

theorem origin_of_isAbsolute {path : Path} (absolute : path.isAbsolute = true) :
    fs.origin path = [] := if_pos absolute

/-- A name behind a path does not change where the path starts. -/
theorem origin_join_name {path : Path} {name : Name} (plain : IsPlain name) :
    fs.origin (path.join ⟨name⟩) = fs.origin path := by
  rw [origin, origin, Path.isAbsolute_join (Path.isAbsolute_of_name plain)]

theorem checkText_eq_ok_iff {path : Path} {limit : Nat} : checkText path limit = .ok () ↔
    0 ∉ path.bytes ∧ path.bytes ≠ [] ∧ path.bytes.length ≤ limit := by
  unfold checkText
  split
  next holds => simp [List.contains_iff_mem.1 holds]
  next absent =>
    have absent : 0 ∉ path.bytes := fun member => absent (List.contains_iff_mem.2 member)
    split
    next empty => simp [List.isEmpty_iff.1 empty]
    next nonempty =>
      have nonempty : path.bytes ≠ [] := fun empty => nonempty (List.isEmpty_iff.2 empty)
      split
      next long => simp [Nat.not_le.2 long]
      next short => simp [absent, nonempty, Nat.not_lt.1 short]

/-- Only an empty text is refused as if nothing were found. -/
theorem checkText_ne_notFound {path : Path} {limit : Nat} (nonempty : path.bytes ≠ []) :
    checkText path limit ≠ .error .notFound := by
  unfold checkText
  split
  next => simp
  split
  next empty => exact absurd (List.isEmpty_iff.1 empty) nonempty
  split <;> simp

theorem locate_eq_ok_iff {path : Path} : fs.locate path true = .ok there ↔
    checkText path pathLimit = .ok () ∧
      ∃ left, Leads fs linkLimit path.steps (fs.origin path) left there := by
  unfold locate
  cases accepted : checkText path pathLimit with
  | error failure =>
    constructor
    · intro found
      cases found
    · rintro ⟨impossible, _⟩
      cases impossible
  | ok =>
    constructor
    · intro found
      exact ⟨rfl, resolve_eq_ok_iff.1 found⟩
    · rintro ⟨_, leads⟩
      exact resolve_eq_ok_iff.2 leads

theorem Leads.unique {other : Location} {spare : Nat}
    (first : Leads fs links segments here left there)
    (second : Leads fs links segments here spare other) : there = other :=
  Except.ok.inj
    ((resolve_eq_ok_iff.2 ⟨left, first⟩).symm.trans (resolve_eq_ok_iff.2 ⟨spare, second⟩))

/-! ### What a resolution looks at -/

/-- Going through segments from a location looks at another one, in order to go on from there or
to find out what stands there. -/
inductive LooksAt (fs : FileSystem) : Nat → List Name → Location → Location → Prop where
  | here {links : Nat} {segments : List Name} {here : Location} :
      LooksAt fs links segments here here
  | stay {links : Nat} {rest : List Name} {here seen : Location} :
      fs.get? here = some .directory → LooksAt fs links rest here seen →
      LooksAt fs links (dot :: rest) here seen
  | up {links : Nat} {rest : List Name} {here seen : Location} :
      fs.get? here = some .directory → LooksAt fs links rest here.tail seen →
      LooksAt fs links (dotDot :: rest) here seen
  | entry {links : Nat} {segment : Name} {rest : List Name} {here : Location} :
      fs.get? here = some .directory → segment ≠ dot → segment ≠ dotDot →
      segment.length ≤ nameLimit → LooksAt fs links (segment :: rest) here (segment :: here)
  | enter {links : Nat} {segment : Name} {rest : List Name} {here seen : Location}
      {object : Object} : fs.get? here = some .directory →
      segment ≠ dot → segment ≠ dotDot → segment.length ≤ nameLimit →
      fs.get? (segment :: here) = some object → object.isLink = false →
      LooksAt fs links rest (segment :: here) seen → LooksAt fs links (segment :: rest) here seen
  | follow {links : Nat} {segment : Name} {rest : List Name} {here seen : Location}
      {target : List UInt8} : fs.get? here = some .directory →
      segment ≠ dot → segment ≠ dotDot → segment.length ≤ nameLimit →
      fs.get? (segment :: here) = some (.link target) →
      LooksAt fs links ((Path.mk target).steps ++ rest)
        (if (Path.mk target).isAbsolute then [] else here) seen →
      LooksAt fs (links + 1) (segment :: rest) here seen

/-- Following links uses them up. -/
theorem Leads.le (leads : Leads fs links segments here left there) : left ≤ links := by
  induction leads with
  | done => exact Nat.le_refl _
  | stay _ _ ih => exact ih
  | up _ _ ih => exact ih
  | enter _ _ _ _ _ _ _ ih => exact ih
  | follow _ _ _ _ _ _ ih => exact Nat.le_succ_of_le ih
  | vacant => exact Nat.le_refl _

/-- The end of a way is looked at. -/
theorem Leads.looksAt (leads : Leads fs links segments here left there) :
    LooksAt fs links segments here there := by
  induction leads with
  | done => exact .here
  | stay directory _ ih => exact .stay directory ih
  | up directory _ ih => exact .up directory ih
  | enter directory notDot notUp short found plain _ ih =>
    exact .enter directory notDot notUp short found plain ih
  | follow directory notDot notUp short found _ ih =>
    exact .follow directory notDot notUp short found ih
  | vacant directory notDot notUp short _ => exact .entry directory notDot notUp short

/-- With more links to follow, all that was looked at is still looked at. -/
theorem LooksAt.mono {seen : Location} {more : Nat} (looks : LooksAt fs links segments here seen)
    (enough : links ≤ more) : LooksAt fs more segments here seen := by
  induction looks generalizing more with
  | here => exact .here
  | stay directory _ ih => exact .stay directory (ih enough)
  | up directory _ ih => exact .up directory (ih enough)
  | entry directory notDot notUp short => exact .entry directory notDot notUp short
  | enter directory notDot notUp short found plain _ ih =>
    exact .enter directory notDot notUp short found plain (ih enough)
  | follow directory notDot notUp short found _ ih =>
    -- A link has been followed, so the larger number is not zero either.
    obtain ⟨more, rfl⟩ := Nat.exists_eq_add_of_le' (Nat.le_of_add_left_le enough)
    exact .follow directory notDot notUp short found (ih (by omega))

/-- Looking up a name that is no link looks at nothing else. -/
theorem LooksAt.eq_or_eq {name : Name} {seen : Location} (looks : LooksAt fs links [name] here seen)
    (notDot : name ≠ dot) (notUp : name ≠ dotDot)
    (noLink : ∀ target, fs.get? (name :: here) ≠ some (.link target)) :
    seen = here ∨ seen = name :: here := by
  cases looks with
  | here => exact .inl rfl
  | stay => exact absurd rfl notDot
  | up => exact absurd rfl notUp
  | entry => exact .inr rfl
  | enter _ _ _ _ _ _ further =>
    cases further
    exact .inr rfl
  | follow _ _ _ _ link => exact absurd link (noLink _)

private theorem walk_congr {other : FileSystem} {followLast : Bool}
    (onward : ∀ segments here,
      (∀ before seen, links = before + 1 → LooksAt fs before segments here seen →
        other.get? seen = fs.get? seen) →
      other.following followLast links segments here = fs.following followLast links segments here)
    (alike : ∀ seen, LooksAt fs links segments here seen → other.get? seen = fs.get? seen) :
    other.walk (other.following followLast links) followLast segments here =
      fs.walk (fs.following followLast links) followLast segments here := by
  -- Which branch `walk` takes is decided by objects that it looks at, and those are the same.
  induction segments generalizing here with
  | nil => rfl
  | cons segment rest ih =>
    rw [walk, walk, alike here .here]
    split
    next => rfl
    next directory =>
      split
      next isDot =>
        subst isDot
        exact ih fun seen looks => alike seen (.stay directory looks)
      next notDot =>
      split
      next isUp =>
        subst isUp
        exact ih fun seen looks => alike seen (.up directory looks)
      next notUp =>
      split
      next => rfl
      next notLong =>
      have short := Nat.not_lt.1 notLong
      rw [alike _ (.entry directory notDot notUp short)]
      split
      next target link =>
        split
        next => rfl
        next =>
          -- What is looked at behind the link is looked at on the whole way.
          refine onward _ _ fun before seen equal looks => alike seen ?_
          exact equal ▸ .follow directory notDot notUp short link looks
      next object notLink found =>
        have plain : object.isLink = false := by
          cases object <;> first | rfl | exact absurd rfl (notLink _)
        exact ih fun seen looks =>
          alike seen (.enter directory notDot notUp short found plain looks)
      next => rfl
    next => rfl

/-- Two file systems with the same objects wherever a resolution looks resolve alike. -/
theorem resolve_congr {other : FileSystem} {followLast : Bool}
    (alike : ∀ seen, LooksAt fs links segments here seen → other.get? seen = fs.get? seen) :
    other.resolve followLast links segments here = fs.resolve followLast links segments here := by
  induction links generalizing segments here with
  | zero =>
    rw [resolve_eq_walk, resolve_eq_walk]
    exact walk_congr (fun _ _ _ => rfl) alike
  | succ links ih =>
    rw [resolve_eq_walk, resolve_eq_walk]
    refine walk_congr (fun segments here below => ?_) alike
    exact ih fun seen looks => below links seen rfl looks

end TwinTree.FileSystem
