import TwinTree.Proofs.FileSystem.Resolution

/-!
# Where a path is going to lead

The prospect of a path is the location it leads to once the directories missing on it are made. It
is there for every path, agrees with resolution wherever that succeeds (`prospect_of_locate`), and
depends on the links of a file system only (`prospect_congr`), so making directories and writing
files does not move it.
-/
namespace TwinTree.FileSystem

/-- Goes through segments as if each but a link were a directory. -/
def prospectWalk (fs : FileSystem) (onLink : List Name → Location → Location) :
    List Name → Location → Location
  | [], here => here
  | segment :: rest, here =>
    if segment = dot then prospectWalk fs onLink rest here
    else if segment = dotDot then prospectWalk fs onLink rest here.tail
    else match fs.get? (segment :: here) with
      | some (.link target) =>
        onLink ((Path.mk target).steps ++ rest) (if (Path.mk target).isAbsolute then [] else here)
      | _ => prospectWalk fs onLink rest (segment :: here)

/-- Goes through segments, following at most the given number of links. -/
def prospectFrom (fs : FileSystem) : Nat → List Name → Location → Location
  | 0 => fs.prospectWalk fun _ here => here
  | links + 1 => fs.prospectWalk (fs.prospectFrom links)

/-- The location a path leads to once the directories missing on it are made. -/
def prospect (fs : FileSystem) (path : Path) : Location :=
  fs.prospectFrom linkLimit path.route (fs.origin path)

variable {fs : FileSystem} {links left : Nat} {segments front rest names : List Name}
  {here there : Location}

/-- What takes over at a link. -/
def prospecting (fs : FileSystem) : Nat → List Name → Location → Location
  | 0 => fun _ here => here
  | links + 1 => fs.prospectFrom links

theorem prospectFrom_eq_walk (fs : FileSystem) (links : Nat) :
    fs.prospectFrom links = fs.prospectWalk (fs.prospecting links) := by
  cases links <;> rfl

/-! ### Agreement with resolution -/

private theorem prospectWalk_filter {onLink : List Name → Location → Location}
    (blind : ∀ segments here, onLink (segments.filter (· ≠ dot)) here = onLink segments here) :
    fs.prospectWalk onLink (segments.filter (· ≠ dot)) here =
      fs.prospectWalk onLink segments here := by
  induction segments generalizing here with
  | nil => rfl
  | cons segment rest ih =>
    by_cases isDot : segment = dot
    · rw [List.filter_cons_of_neg (by simp [isDot]), prospectWalk, if_pos isDot]
      exact ih
    · rw [List.filter_cons_of_pos (by simp [isDot]), prospectWalk, prospectWalk, if_neg isDot,
        if_neg isDot, ih, ih]
      -- Behind a link the filter would cut the target too, so it is put around both sides.
      have onward : ∀ front here,
          onLink (front ++ rest.filter (· ≠ dot)) here = onLink (front ++ rest) here := by
        intro front here
        rw [← blind (front ++ rest), ← blind (front ++ rest.filter _), List.filter_append,
          List.filter_append, List.filter_filter]
        simp
      simp only [onward]

/-- Segments that stay where they are do not matter. -/
theorem prospectFrom_filter (fs : FileSystem) (links : Nat) (segments : List Name)
    (here : Location) :
    fs.prospectFrom links (segments.filter (· ≠ dot)) here =
      fs.prospectFrom links segments here := by
  induction links generalizing segments here with
  | zero => exact prospectWalk_filter fun _ _ => rfl
  | succ links ih => exact prospectWalk_filter ih

theorem prospect_eq_names (fs : FileSystem) (path : Path) :
    fs.prospect path = fs.prospectFrom linkLimit path.names (fs.origin path) :=
  fs.prospectFrom_filter linkLimit path.names _

theorem prospect_eq_steps (fs : FileSystem) (path : Path) :
    fs.prospect path = fs.prospectFrom linkLimit path.steps (fs.origin path) := by
  rw [← prospectFrom_filter, prospect, Path.route, Path.steps]
  split <;> simp

/-- Where segments lead, the prospect goes on from there. -/
theorem Leads.prospectFrom_append (leads : Leads fs links front here left there) :
    fs.prospectFrom links (front ++ rest) here = fs.prospectFrom left rest there := by
  -- As for `resolve`, but nothing is required of what is gone through.
  induction leads with
  | done => rfl
  | stay _ _ ih =>
    rw [← ih, prospectFrom_eq_walk, List.cons_append, prospectWalk, if_pos rfl]
  | up _ _ ih =>
    rw [← ih, prospectFrom_eq_walk, List.cons_append, prospectWalk, if_neg (by decide), if_pos rfl]
  | @enter _ _ _ _ _ _ object _ notDot notUp _ found plain _ ih =>
    rw [← ih, prospectFrom_eq_walk, List.cons_append, prospectWalk, if_neg notDot, if_neg notUp,
      found]
    cases object <;> first | rfl | cases plain
  | follow _ notDot notUp _ found _ ih =>
    rw [List.append_assoc] at ih
    rw [← ih, prospectFrom_eq_walk, List.cons_append, prospectWalk, if_neg notDot, if_neg notUp,
      found]
    rfl
  | vacant _ notDot notUp _ missing =>
    rw [prospectFrom_eq_walk, List.cons_append, prospectWalk, if_neg notDot, if_neg notUp, missing]
    rfl

theorem Leads.prospectFrom_eq (leads : Leads fs links segments here left there) :
    fs.prospectFrom links segments here = there := by
  have whole : fs.prospectFrom links (segments ++ []) here = fs.prospectFrom left [] there :=
    leads.prospectFrom_append
  rw [List.append_nil] at whole
  rw [whole, prospectFrom_eq_walk, prospectWalk]

theorem prospect_of_leads {path : Path}
    (leads : Leads fs linkLimit path.names (fs.origin path) left there) :
    fs.prospect path = there := by
  rw [prospect_eq_names, leads.prospectFrom_eq]

theorem prospect_of_locate {path : Path} (found : fs.locate path true = .ok there) :
    fs.prospect path = there := by
  obtain ⟨_, left, leads⟩ := locate_eq_ok_iff.1 found
  rw [prospect_eq_steps, leads.prospectFrom_eq]

/-! ### Dependence on links -/

/-- Two file systems have the same links. -/
def SameLinks (left right : FileSystem) : Prop :=
  ∀ location target,
    left.get? location = some (.link target) ↔ right.get? location = some (.link target)

private theorem prospectWalk_congr {other : FileSystem} (same : SameLinks fs other)
    (onLink : List Name → Location → Location) (segments : List Name) (here : Location) :
    fs.prospectWalk onLink segments here = other.prospectWalk onLink segments here := by
  induction segments generalizing here with
  | nil => rfl
  | cons segment rest ih =>
    rw [prospectWalk, prospectWalk, ih, ih, ih]
    split
    next => rfl
    split
    next => rfl
    split
    next target link => rw [(same _ _).1 link]
    next noLink =>
      split
      next target link => exact absurd ((same _ _).2 link) (noLink target)
      next => rfl

theorem prospectFrom_congr {other : FileSystem} (same : SameLinks fs other) :
    fs.prospectFrom links = other.prospectFrom links := by
  induction links with
  | zero => exact funext fun segments => funext (prospectWalk_congr same _ segments)
  | succ links ih =>
    rw [prospectFrom, prospectFrom, ih]
    exact funext fun segments => funext (prospectWalk_congr same _ segments)

theorem prospect_congr {other : FileSystem} (same : SameLinks fs other)
    (working : fs.workingDirectory = other.workingDirectory) (path : Path) :
    fs.prospect path = other.prospect path := by
  rw [prospect, prospect, prospectFrom_congr same, origin, origin, working]

/-! ### Ways without links -/

/-- None of the locations that names go through below a location holds a link. -/
def Clear (fs : FileSystem) (here : Location) (names : List Name) : Prop :=
  ∀ more, more <+: names → more ≠ [] → ∀ target,
    fs.get? (more.reverse ++ here) ≠ some (.link target)

theorem Clear.tail {name : Name} (clear : Clear fs here (name :: names)) :
    Clear fs (name :: here) names := by
  intro more starts nonempty target
  have found := clear (name :: more) (List.cons_prefix_cons.2 ⟨rfl, starts⟩) (by simp) target
  simpa using found

theorem Clear.cons {name : Name} (first : ∀ target, fs.get? (name :: here) ≠ some (.link target))
    (clear : Clear fs (name :: here) names) : Clear fs here (name :: names) := by
  intro more starts nonempty target
  obtain ⟨next, others, rfl⟩ := List.exists_cons_of_ne_nil nonempty
  obtain ⟨rfl, onward⟩ := List.cons_prefix_cons.1 starts
  -- The first name alone is covered by `first`, all longer ones lie beneath it.
  by_cases last : others = []
  · subst last
    exact first target
  · have found := clear others onward last target
    simpa using found

theorem WellFormed.clear (wellFormed : fs.WellFormed)
    (noDirectory : fs.get? here ≠ some .directory) (names : List Name) : Clear fs here names := by
  intro more _ nonempty target
  rw [wellFormed.get?_append noDirectory (by simpa using nonempty)]
  simp

/-- Without a link in the way, names lead straight down. -/
theorem Clear.prospectFrom_eq (clear : Clear fs here names)
    (plain : ∀ name ∈ names, IsPlain name) :
    fs.prospectFrom links names here = names.reverse ++ here := by
  rw [prospectFrom_eq_walk]
  induction names generalizing here with
  | nil => rfl
  | cons name rest ih =>
    rw [List.forall_mem_cons] at plain
    -- The only branch that would leave the straight way is that of a link.
    have noLink : ∀ target, fs.get? (name :: here) ≠ some (.link target) := by
      intro target
      exact clear [name] (List.prefix_append [name] rest) (by simp) target
    rw [prospectWalk, if_neg plain.1.ne_dot, if_neg plain.1.ne_dotDot]
    split
    next target link => exact absurd link (noLink target)
    next => simp [ih clear.tail plain.2]

/-- Going on without a link in the way from where a path leads. -/
theorem prospect_of_route {path above : Path}
    (leads : Leads fs linkLimit above.names (fs.origin above) left here)
    (absolute : path.isAbsolute = above.isAbsolute) (route : path.route = above.route ++ names)
    (plain : ∀ name ∈ names, IsPlain name) (clear : Clear fs here names) :
    fs.prospect path = names.reverse ++ here := by
  have origin_eq : fs.origin path = fs.origin above := by rw [origin, origin, absolute]
  -- The prospect goes along the route, which leaves out what stays in place.
  have dots : path.route = (above.names ++ names).filter (· ≠ dot) := by
    rw [List.filter_append, route, Path.route, Path.filter_eq_self_of_isPlain plain]
  rw [prospect, dots, prospectFrom_filter, origin_eq, leads.prospectFrom_append,
    clear.prospectFrom_eq plain]

theorem prospect_of_clear {path above : Path}
    (leads : Leads fs linkLimit above.names (fs.origin above) left here)
    (beneath : Path.Beneath path above names) (clear : Clear fs here names) :
    fs.prospect path = names.reverse ++ here :=
  prospect_of_route leads beneath.isAbsolute_eq beneath.route_eq beneath.plain clear

end TwinTree.FileSystem
