import Mathlib.Data.List.TakeWhile
import TwinTree.Proofs.Path.Route

/-!
# Shortened paths

What the operations that shorten a path do to its components: the parent lacks the last one, the
ancestors are the parents of each other down to a root, and stripping a start leaves what follows
it. All of them also drop segments that carry no component, which the components do not show.
-/
namespace TwinTree.Path

/-! ### Blank segments -/

theorem ofSegment?_eq_none_iff {segment : Name} :
    Component.ofSegment? segment = none ↔ isBlank segment = true := by
  unfold Component.ofSegment? isBlank
  split_ifs <;> simp_all

theorem inner_append (front behind : List Name) :
    inner (front ++ behind) = inner front ++ inner behind :=
  List.filterMap_append

theorem inner_cons_of_not_isBlank {segment : Name} (solid : ¬ isBlank segment = true)
    (rest : List Name) : ∃ component, inner (segment :: rest) = component :: inner rest := by
  cases made : Component.ofSegment? segment with
  | none => exact absurd (ofSegment?_eq_none_iff.1 made) solid
  | some component => exact ⟨component, by simp [inner, made]⟩

theorem inner_eq_nil_iff {segments : List Name} :
    inner segments = [] ↔ ∀ segment ∈ segments, isBlank segment = true := by
  simp only [inner, List.filterMap_eq_nil_iff, ofSegment?_eq_none_iff]

theorem inner_dropWhile (segments : List Name) :
    inner (segments.dropWhile isBlank) = inner segments := by
  induction segments with
  | nil => rfl
  | cons segment rest ih =>
    by_cases blank : isBlank segment = true
    · rw [List.dropWhile_cons_of_pos blank, ih, inner, inner, List.filterMap_cons,
        ofSegment?_eq_none_iff.2 blank]
    · rw [List.dropWhile_cons_of_neg blank]

/-- What is trimmed from the end is blank. -/
theorem exists_trimEnd_append (segments : List Name) :
    ∃ blanks, segments = trimEnd segments ++ blanks ∧
      ∀ segment ∈ blanks, isBlank segment = true := by
  refine ⟨(segments.reverse.takeWhile isBlank).reverse, ?_, ?_⟩
  · rw [trimEnd, ← List.reverse_append, List.takeWhile_append_dropWhile, List.reverse_reverse]
  · intro segment member
    exact List.mem_takeWhile_imp (List.mem_reverse.1 member)

theorem inner_trimEnd (segments : List Name) : inner (trimEnd segments) = inner segments := by
  obtain ⟨blanks, split, allBlank⟩ := exists_trimEnd_append segments
  have rest : inner segments = inner (trimEnd segments) ++ inner blanks :=
    (congrArg inner split).trans (inner_append _ _)
  rw [rest, inner_eq_nil_iff.2 allBlank, List.append_nil]

theorem trimEnd_isPrefix (segments : List Name) : trimEnd segments <+: segments := by
  obtain ⟨blanks, split, _⟩ := exists_trimEnd_append segments
  exact ⟨blanks, split.symm⟩

theorem inner_dropComponents (count : Nat) (segments : List Name) :
    inner (dropComponents count segments) = (inner segments).drop count := by
  fun_induction dropComponents count segments with
  | case1 => rfl
  | case2 => simp [inner]
  | case3 count segment rest blank ih =>
    rw [ih, inner, inner, List.filterMap_cons, ofSegment?_eq_none_iff.2 blank]
  | case4 count segment rest solid ih =>
    obtain ⟨component, made⟩ := inner_cons_of_not_isBlank solid rest
    rw [ih, made, List.drop_succ_cons]

theorem dropComponents_isSuffix (count : Nat) (segments : List Name) :
    dropComponents count segments <:+ segments := by
  fun_induction dropComponents count segments with
  | case1 => exact List.suffix_rfl
  | case2 => exact List.suffix_rfl
  | case3 count segment rest _ ih => exact ih.trans (List.suffix_cons ..)
  | case4 count segment rest _ ih => exact ih.trans (List.suffix_cons ..)

/-! ### Paths from segments -/

theorem slash_notMem_head (path : Path) : slash ∉ path.head :=
  notMem_of_mem_pieces (List.mem_cons_self : path.head ∈ pieces slash path.bytes)

theorem slash_notMem_of_mem_body {path : Path} {segment : Name} (member : segment ∈ path.body) :
    slash ∉ segment :=
  notMem_of_mem_pieces (List.mem_cons_of_mem path.head member : segment ∈ pieces slash path.bytes)

theorem isAbsolute_of_first {first : Name} (nonempty : first ≠ []) (absent : slash ∉ first)
    (rest : List UInt8) : (Path.mk (first ++ rest)).isAbsolute = false := by
  obtain ⟨byte, others, rfl⟩ := List.exists_cons_of_ne_nil nonempty
  have different : byte ≠ slash := fun equal => absent (by simp [equal])
  simpa [isAbsolute] using different

/-- A path put together from its first segment and some of its others. -/
theorem components_ofSegments {path : Path} {segments : List Name} (subset : segments ⊆ path.body)
    (named : path.isAbsolute = true ∨ path.head ≠ []) :
    (ofSegments path.head segments path.isAbsolute).components =
        path.leading ++ inner segments ∧
      (ofSegments path.head segments path.isAbsolute).isAbsolute = path.isAbsolute := by
  have split : splitOn slash (path.head ++ joinWith slash segments) = (path.head, segments) :=
    splitOn_joinWith path.slash_notMem_head
      (fun segment member => slash_notMem_of_mem_body (subset member))
  -- An absolute path has an empty head; a relative one keeps its head, which is not empty.
  cases absolute : path.isAbsolute with
  | true =>
    rw [head_of_isAbsolute absolute] at split ⊢
    cases segments with
    | nil => exact ⟨by simp [ofSegments, leading, absolute, inner]; decide, rfl⟩
    | cons segment rest =>
      have text : ofSegments [] (segment :: rest) true =
          ⟨slash :: (segment ++ joinWith slash rest)⟩ := rfl
      have behind : pieces slash (segment ++ joinWith slash rest) = segment :: rest := by
        have whole : splitOn slash (slash :: (segment ++ joinWith slash rest)) =
            ([], segment :: rest) := split
        simpa [splitOn, pieces] using whole
      rw [text, components_slash_cons, behind, leading, absolute]
      exact ⟨rfl, rfl⟩
  | false =>
    have nonempty : path.head ≠ [] := named.resolve_left (by simp [absolute])
    have text : ofSegments path.head segments false =
        ⟨path.head ++ joinWith slash segments⟩ := by simp [ofSegments]
    have relative := isAbsolute_of_first nonempty path.slash_notMem_head (joinWith slash segments)
    have head_eq : (Path.mk (path.head ++ joinWith slash segments)).head = path.head := by
      rw [head, split]
    have body_eq : (Path.mk (path.head ++ joinWith slash segments)).body = segments := by
      rw [body, split]
    rw [text]
    refine ⟨?_, relative⟩
    rw [components, leading, leading, relative, absolute, head_eq, body_eq]
    rfl

/-! ### Parents and ancestors -/

theorem length_joinWith_append (front behind : List Name) :
    (joinWith slash (front ++ behind)).length =
      (joinWith slash front).length + (joinWith slash behind).length := by
  simp [joinWith]

/-- The body of a path up to its last component, and that component. -/
theorem exists_body_eq {path : Path} {last : Name} {others : List Name}
    (found : path.body.reverse.dropWhile isBlank = last :: others) :
    ∃ blanks, path.body = others.reverse ++ last :: blanks ∧ isBlank last = false ∧
      ∀ segment ∈ blanks, isBlank segment = true := by
  obtain ⟨blanks, split, allBlank⟩ := exists_trimEnd_append path.body
  rw [trimEnd, found, List.reverse_cons] at split
  refine ⟨blanks, by simpa using split, ?_, allBlank⟩
  have solid := List.head?_dropWhile_not isBlank path.body.reverse
  rw [found] at solid
  simpa using solid

theorem parent?_spec {path above : Path} (parent : path.parent? = some above) :
    (∃ component, path.components = above.components ++ [component]) ∧
      above.isAbsolute = path.isAbsolute ∧ above.bytes.length < path.bytes.length := by
  have bytes_eq : path.head ++ joinWith slash path.body = path.bytes :=
    splitOn_append_joinWith slash path.bytes
  -- The parent is cut off in the body, or is empty where only the head is left.
  unfold parent? at parent
  split at parent
  next last others found =>
    obtain ⟨blanks, split, solid, allBlank⟩ := exists_body_eq found
    obtain rfl := Option.some.inj parent
    have subset : trimEnd others.reverse ⊆ path.body := fun segment member => by
      rw [split]
      exact List.mem_append_left _ ((trimEnd_isPrefix others.reverse).subset member)
    -- There is no body to cut where there is no text.
    have named : path.isAbsolute = true ∨ path.head ≠ [] := by
      by_contra neither
      rw [not_or, Bool.not_eq_true, not_not] at neither
      have bytes := bytes_of_head_eq_nil neither.1 neither.2
      simp [body, bytes, splitOn] at split
    obtain ⟨components_eq, absolute_eq⟩ := components_ofSegments subset named
    refine ⟨?_, absolute_eq, ?_⟩
    · obtain ⟨component, made⟩ := inner_cons_of_not_isBlank (by simpa using solid) blanks
      rw [inner_eq_nil_iff.2 allBlank] at made
      refine ⟨component, ?_⟩
      rw [components_eq, inner_trimEnd, components, split, List.append_assoc, ← made,
        ← inner_append]
      rfl
    · -- A separator and the last segment are gone, whatever the blanks add to that.
      have lastLength : 1 ≤ last.length := by
        cases last with
        | nil => simp [isBlank] at solid
        | cons => simp
      obtain ⟨dropped, trimmed, _⟩ := exists_trimEnd_append others.reverse
      have lengths := congrArg List.length bytes_eq
      rw [List.length_append, split, length_joinWith_append, trimmed,
        length_joinWith_append] at lengths
      have final : (joinWith slash (last :: blanks)).length =
          1 + last.length + (joinWith slash blanks).length := by
        simp [joinWith]; omega
      unfold ofSegments
      split
      · simp only [List.length_singleton]; omega
      · simp only [List.length_append]; omega
  next found =>
    split_ifs at parent with rootless
    obtain rfl := Option.some.inj parent
    simp only [Bool.or_eq_true, decide_eq_true_eq, not_or, Bool.not_eq_true] at rootless
    have allBlank : inner path.body = [] := by
      rw [← inner_trimEnd, trimEnd, found]
      rfl
    refine ⟨?_, rootless.1.symm, ?_⟩
    · rw [components, components_empty, show path.body.filterMap _ = [] from allBlank, leading,
        rootless.1, if_neg rootless.2]
      -- What goes is the head: the dot that only a head can be, or its one component.
      by_cases isDot : path.head = dot
      · exact ⟨.current, by simp [isDot]⟩
      · cases made : Component.ofSegment? path.head with
        | none => simp [ofSegment?_eq_none_iff, isBlank, rootless.2, isDot] at made
        | some component => exact ⟨component, by simp [isDot]⟩
    · have : 1 ≤ path.head.length := List.length_pos_of_ne_nil rootless.2
      have := congrArg List.length bytes_eq
      rw [List.length_append] at this
      simp only [List.length_nil]; omega

theorem components_of_parent?_eq_none {path : Path} (parent : path.parent? = none)
    (absolute : path.isAbsolute = true) : path.components = [.root] := by
  unfold parent? at parent
  split at parent
  next => cases parent
  next found =>
    have allBlank : inner path.body = [] := by
      rw [← inner_trimEnd, trimEnd, found]
      rfl
    rw [components, leading, absolute]
    exact congrArg ([.root] ++ ·) allBlank

theorem ancestors_go_eq {few many : Nat} {path : Path} (enough : path.bytes.length ≤ few)
    (more : path.bytes.length ≤ many) : ancestors.go few path = ancestors.go many path := by
  -- Each parent is shorter than its path, so fuel for every byte is enough.
  induction few generalizing many path with
  | zero =>
    have rootless : path.parent? = none := by
      cases found : path.parent? with
      | none => rfl
      | some above => have := (parent?_spec found).2.2; omega
    cases many with
    | zero => rfl
    | succ many => rw [ancestors.go, ancestors.go, rootless]
  | succ few ih =>
    cases found : path.parent? with
    | none => cases many <;> simp [ancestors.go, found]
    | some above =>
      have shorter := (parent?_spec found).2.2
      cases many with
      | zero => omega
      | succ many =>
        rw [ancestors.go, ancestors.go, found]
        exact congrArg _ (ih (by omega) (by omega))

/-- The ancestors of a path are the path itself and the ancestors of its parent. -/
theorem ancestors_eq (path : Path) :
    path.ancestors = path :: (path.parent?.map ancestors).getD [] := by
  have steps : path.ancestors = ancestors.go (path.bytes.length + 1) path :=
    ancestors_go_eq (Nat.le_refl _) (Nat.le_succ _)
  rw [steps, ancestors.go]
  cases found : path.parent? with
  | none => rfl
  | some above =>
    have shorter := (parent?_spec found).2.2
    exact congrArg _ (ancestors_go_eq (by omega) (Nat.le_refl _))

/-- A path whose last component is a name has a parent, which lacks just that name. -/
theorem exists_parent?_of_name {path : Path} {front : List Component} {name : Name}
    (split : path.components = front ++ [.name name]) :
    path.fileName? = some name ∧
      ∃ above, path.parent? = some above ∧ above.components = front := by
  refine ⟨by simp [fileName?, split], ?_⟩
  cases found : path.parent? with
  | some above =>
    obtain ⟨⟨component, extended⟩, _⟩ := parent?_spec found
    exact ⟨above, rfl, (List.append_inj' (extended.symm.trans split) rfl).1⟩
  | none =>
    -- A path without a parent is the root or empty, and ends in no name.
    exfalso
    cases absolute : path.isAbsolute with
    | true =>
      rw [components_of_parent?_eq_none found absolute] at split
      cases front with
      | nil => cases split
      | cons first rest => simp at split
    | false =>
      unfold parent? at found
      split at found
      next => cases found
      next =>
        split_ifs at found with rootless
        have empty : path.head = [] := by simpa [absolute] using rootless
        have bytes := bytes_of_head_eq_nil absolute empty
        obtain rfl : path = ⟨[]⟩ := by cases path; simp_all
        rw [components_empty] at split
        simp at split

/-! ### Stripping a start -/

/-- A relative path made of segments has their components, and no text where there are none. -/
theorem components_ofRelativeSegments {segments : List Name}
    (whole : ∀ segment ∈ segments, slash ∉ segment) :
    (ofRelativeSegments segments).components = inner segments ∧
      (ofRelativeSegments segments).isAbsolute = false ∧
      (ofRelativeSegments segments).head ≠ dot ∧
      ((ofRelativeSegments segments).bytes = [] ↔ inner segments = []) := by
  -- Blank segments carry no component, so those at the two ends may go.
  have kept : inner ((trimEnd segments).dropWhile isBlank) = inner segments :=
    (inner_dropWhile _).trans (inner_trimEnd _)
  unfold ofRelativeSegments
  split
  next found =>
    rw [found] at kept
    exact ⟨kept ▸ rfl, rfl, by decide, fun _ => kept.symm, fun _ => rfl⟩
  next first rest found =>
    have within : ∀ segment ∈ first :: rest, slash ∉ segment := by
      intro segment member
      rw [← found] at member
      exact whole segment
        ((trimEnd_isPrefix segments).subset ((List.dropWhile_suffix _).subset member))
    rw [List.forall_mem_cons] at within
    have solid : isBlank first = false := by
      have ends := List.head?_dropWhile_not isBlank (trimEnd segments)
      rw [found] at ends
      simpa using ends
    have split := splitOn_joinWith within.1 within.2
    have nonempty : first ≠ [] := by rintro rfl; simp [isBlank] at solid
    have relative := isAbsolute_of_first nonempty within.1 (joinWith slash rest)
    -- A dot would be blank, and the first segment that is left is not.
    have head_ne : (Path.mk (first ++ joinWith slash rest)).head ≠ dot := by
      rw [head, split]
      rintro rfl
      simp [isBlank] at solid
    obtain ⟨component, made⟩ := inner_cons_of_not_isBlank (by simpa using solid) rest
    rw [← kept, found]
    refine ⟨?_, relative, head_ne, ?_⟩
    · rw [components_of_relative relative head_ne, pieces, split]
    · simp [made, nonempty]

theorem exists_leading {path : Path} (nonempty : path.bytes ≠ []) :
    ∃ first, path.leading = [first] := by
  unfold leading
  split_ifs with absolute empty isDot
  · exact ⟨_, rfl⟩
  · exact absurd (bytes_of_head_eq_nil (by simpa using absolute) empty) nonempty
  · exact ⟨_, rfl⟩
  · cases made : Component.ofSegment? path.head with
    | none => simp [ofSegment?_eq_none_iff, isBlank, empty, isDot] at made
    | some first => exact ⟨first, rfl⟩

theorem components_eq_nil_iff {path : Path} : path.components = [] ↔ path.bytes = [] := by
  constructor
  · intro none_left
    by_contra nonempty
    obtain ⟨first, found⟩ := exists_leading nonempty
    simp [components, found] at none_left
  · intro empty
    obtain rfl : path = ⟨[]⟩ := by cases path; simp_all
    rfl

theorem exists_leading_eq {path : Path} {component : Component} {rest : List Component}
    (split : path.components = component :: rest) :
    path.leading = [component] ∧ inner path.body = rest := by
  have nonempty : path.bytes ≠ [] := fun empty => by
    rw [components_eq_nil_iff.2 empty] at split
    cases split
  obtain ⟨first, found⟩ := exists_leading nonempty
  rw [components, found] at split
  obtain ⟨rfl, rfl⟩ := List.cons.inj split
  exact ⟨found, rfl⟩

theorem head_ne_dot {path : Path} (absent : .current ∉ path.components) : path.head ≠ dot := by
  intro isDot
  refine absent (List.mem_append_left _ ?_)
  have relative : path.isAbsolute = false := by
    by_contra absolute
    rw [Bool.not_eq_false] at absolute
    rw [head_of_isAbsolute absolute] at isDot
    cases isDot
  simp [leading, relative, isDot, dot]

/-- What stripping leaves, when only names follow the start. -/
theorem exists_stripStart? {path start : Path} {tail : List Name}
    (split : path.components = start.components ++ tail.map .name) :
    ∃ behind, path.stripStart? start = some behind ∧
      behind.components = tail.map .name ∧ behind.isAbsolute = false ∧ behind.head ≠ dot ∧
      (behind.bytes = [] ↔ tail = []) := by
  have starts : path.startsWith start = true := by
    rw [startsWith, split, List.isPrefixOf_iff_prefix]
    exact List.prefix_append ..
  unfold stripStart?
  rw [if_pos starts]
  -- An empty start leaves the path as it is; any other takes the leading component, and as many
  -- inner ones as are left of it.
  cases found : start.components with
  | nil =>
    rw [found, List.nil_append] at split
    have relative : path.isAbsolute = false := by
      by_contra absolute
      rw [Bool.not_eq_false, head?_components, split] at absolute
      cases tail <;> cases absolute
    refine ⟨_, rfl, ?_⟩
    cases tail with
    | nil =>
      obtain rfl : path = ⟨[]⟩ := by
        cases path
        simpa using components_eq_nil_iff.1 split
      decide
    | cons name others =>
      have named : path.head ≠ [] := fun empty => by
        rw [components_eq_nil_iff.2 (bytes_of_head_eq_nil relative empty)] at split
        cases split
      obtain ⟨components_eq, absolute_eq⟩ :=
        components_ofSegments (trimEnd_isPrefix path.body).subset (.inr named)
      rw [inner_trimEnd] at components_eq
      have whole := components_eq.trans split
      refine ⟨whole, absolute_eq.trans relative, head_ne_dot ?_, ?_⟩
      · rw [whole]
        simp
      · rw [← components_eq_nil_iff, whole]
        simp
  | cons component others =>
    rw [found, List.cons_append] at split
    obtain ⟨_, behind⟩ := exists_leading_eq split
    have whole : ∀ segment ∈ dropComponents others.length path.body, slash ∉ segment :=
      fun segment member =>
        slash_notMem_of_mem_body ((dropComponents_isSuffix ..).subset member)
    have dropped : inner (dropComponents others.length path.body) = tail.map .name := by
      rw [inner_dropComponents, behind, List.drop_left]
    obtain ⟨components_eq, relative, head_ne, empty⟩ := components_ofRelativeSegments whole
    rw [dropped] at components_eq empty
    exact ⟨_, rfl, components_eq, relative, head_ne, by simpa using empty⟩

/-- Behind the first segment there are names and ways up. -/
theorem eq_of_mem_inner {segments : List Name} {component : Component}
    (member : component ∈ inner segments) :
    component = .parent ∨ ∃ name, component = .name name := by
  obtain ⟨segment, _, made⟩ := List.mem_filterMap.1 member
  unfold Component.ofSegment? at made
  split_ifs at made
  · exact .inl (Option.some.inj made).symm
  · exact .inr ⟨segment, (Option.some.inj made).symm⟩

/-- The parent goes the whole way but for the last step. -/
theorem route_of_parent? {path above : Path} (parent : path.parent? = some above) :
    above.route = path.route.dropLast := by
  obtain ⟨⟨component, split⟩, _⟩ := parent?_spec parent
  have whole : path.route = above.route ++ component.step?.toList := by
    rw [route_eq, route_eq, split, List.filterMap_append, List.filterMap_cons]
    cases component.step? <;> rfl
  cases step : component.step? with
  | some last =>
    rw [whole, step, Option.toList_some, List.dropLast_concat]
  | none =>
    -- Only the first component can lead nowhere, and then there is nothing in front of it.
    have parts : path.leading ++ inner path.body = above.components ++ [component] := split
    rcases List.eq_nil_or_concat (inner path.body) with empty | ⟨front, last, concat⟩
    · have few : path.leading.length ≤ 1 := by
        unfold leading
        split_ifs <;> simp [Option.length_toList]
        split <;> simp
      rw [empty, List.append_nil] at parts
      have none_above : above.components = [] := by
        rw [parts, List.length_append, List.length_singleton] at few
        exact List.length_eq_zero_iff.1 (by omega)
      rw [whole, step, route_eq, none_above]
      rfl
    · rw [concat, List.concat_eq_append, ← List.append_assoc] at parts
      obtain rfl : last = component := by simpa using (List.append_inj' parts rfl).2
      have member : last ∈ inner path.body := by simp [concat]
      rcases eq_of_mem_inner member with rfl | ⟨name, rfl⟩ <;> cases step

/-- What stripping leaves follows the start. -/
theorem components_of_stripStart? {path start behind : Path} (absolute : start.isAbsolute = true)
    (found : path.stripStart? start = some behind) :
    path.components = start.components ++ behind.components ∧
      ∀ component ∈ behind.components, component = .parent ∨ ∃ name, component = .name name := by
  unfold stripStart? at found
  split at found
  next starts =>
    obtain ⟨rest, split⟩ := List.isPrefixOf_iff_prefix.1 starts
    obtain ⟨others, start_eq⟩ := List.head?_eq_some_iff.1 ((head?_components start).1 absolute)
    rw [start_eq] at found split ⊢
    cases found
    obtain ⟨_, inner_eq⟩ := exists_leading_eq split.symm
    have inner_eq : inner path.body = others ++ rest := inner_eq
    have whole : ∀ segment ∈ dropComponents others.length path.body, slash ∉ segment :=
      fun segment member =>
        slash_notMem_of_mem_body ((dropComponents_isSuffix ..).subset member)
    obtain ⟨components_eq, _⟩ := components_ofRelativeSegments whole
    rw [components_eq]
    refine ⟨?_, fun _ => eq_of_mem_inner⟩
    rw [← split, inner_dropComponents, inner_eq, List.drop_left]
  next => cases found

/-! ### The last segment -/

/-- The last segment with any text is `.`. -/
def EndsInDot (path : Path) : Prop := path.names.getLast? = some dot

instance (path : Path) : Decidable path.EndsInDot := inferInstanceAs (Decidable (_ = _))

/-- Where the last segment is not `.`, it is the last name of the route. -/
theorem exists_names_eq {path : Path} {front : List Name} {name : Name}
    (solid : ¬ path.EndsInDot) (route : path.route = front ++ [name]) :
    ∃ others, path.names = others ++ [name] ∧ others.filter (· ≠ dot) = front := by
  rcases List.eq_nil_or_concat path.names with empty | ⟨others, last, split⟩
  · simp [Path.route, empty] at route
  · rw [List.concat_eq_append] at split
    have notDot : last ≠ dot := by
      rintro rfl
      exact solid (by rw [EndsInDot, split, List.getLast?_concat])
    rw [Path.route, split, List.filter_append] at route
    simp only [List.filter_cons, List.filter_nil, notDot, ne_eq, not_false_eq_true, decide_true,
      if_true] at route
    obtain ⟨front_eq, name_eq⟩ := List.append_inj' route rfl
    obtain rfl := List.singleton_inj.1 name_eq
    exact ⟨others, split, front_eq⟩

theorem getLast?_dropWhile_trimEnd {segments : List Name} {last : Name}
    (found : ((trimEnd segments).dropWhile isBlank).getLast? = some last) :
    isBlank last = false := by
  obtain ⟨front, split⟩ := List.dropWhile_suffix isBlank (l := trimEnd segments)
  have nonempty : (trimEnd segments).dropWhile isBlank ≠ [] := by
    intro empty
    simp [empty] at found
  have final : (trimEnd segments).getLast? = some last := by
    rw [← split, List.getLast?_append_of_ne_nil front nonempty, found]
  rw [trimEnd, List.getLast?_reverse] at final
  have solid := List.head?_dropWhile_not isBlank segments.reverse
  rw [final] at solid
  simpa using solid

/-- Blank segments at the end are dropped, so the last segment left has a meaning. -/
theorem not_endsInDot_ofRelativeSegments {segments : List Name}
    (whole : ∀ segment ∈ segments, slash ∉ segment) :
    ¬ (ofRelativeSegments segments).EndsInDot := by
  intro ends
  unfold ofRelativeSegments at ends
  split at ends
  next => exact absurd ends (by decide)
  next first rest found =>
    have within : ∀ segment ∈ first :: rest, slash ∉ segment := by
      intro segment member
      rw [← found] at member
      exact whole segment
        ((trimEnd_isPrefix segments).subset ((List.dropWhile_suffix _).subset member))
    rw [List.forall_mem_cons] at within
    have split := splitOn_joinWith within.1 within.2
    obtain ⟨last, isLast⟩ : ∃ last, (first :: rest).getLast? = some last :=
      ⟨_, List.getLast?_cons⟩
    have solid : isBlank last = false := getLast?_dropWhile_trimEnd (found ▸ isLast)
    have kept : ((first :: rest).filter (!·.isEmpty)).getLast? = some last := by
      obtain ⟨front, concat⟩ := List.getLast?_eq_some_iff.1 isLast
      have nonempty : last ≠ [] := by rintro rfl; simp [isBlank] at solid
      rw [concat, List.filter_append]
      simp [nonempty]
    rw [EndsInDot, names, head, body, split, kept] at ends
    cases ends
    simp [isBlank] at solid

/-- What stripping a start leaves does not end in `.`. -/
theorem not_endsInDot_of_stripStart? {path start behind : Path} (nonempty : start.bytes ≠ [])
    (found : path.stripStart? start = some behind) : ¬ behind.EndsInDot := by
  unfold stripStart? at found
  split at found
  next =>
    obtain ⟨component, others, start_eq⟩ :=
      List.exists_cons_of_ne_nil (mt components_eq_nil_iff.1 nonempty)
    rw [start_eq] at found
    cases found
    exact not_endsInDot_ofRelativeSegments fun segment member =>
      slash_notMem_of_mem_body ((dropComponents_isSuffix ..).subset member)
  next => cases found

end TwinTree.Path
