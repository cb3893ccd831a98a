import TwinTree.Proofs.Placement
import TwinTree.Proofs.Text.ShownPath

/-!
# Paths spelled in different ways

Paths that are the same go through the same names and start at the same place. What is beneath them
by the same names is the same too, and what is left of it behind its start is one text, however the
start is spelled (`stripStart?_extend`). So a file or directory of the source has one place in the
twin (`directory_respelled`, `file_respelled`).
-/
namespace TwinTree

namespace Path

variable {path other : Path} {names : List Name} {name : Name}

/-! ### What the same paths share -/

namespace Same

variable (same : other.Same path)

include same

theorem route_eq : other.route = path.route := by
  rw [Path.route_eq, Path.route_eq, show other.components = path.components from same]

theorem isAbsolute_eq : other.isAbsolute = path.isAbsolute := by
  rw [Bool.eq_iff_iff, head?_components, head?_components,
    show other.components = path.components from same]

theorem bytes_eq_nil_iff : other.bytes = [] ↔ path.bytes = [] := by
  rw [← components_eq_nil_iff, ← components_eq_nil_iff,
    show other.components = path.components from same]

theorem extend (plain : ∀ name ∈ names, IsPlain name) :
    (other.extend names).Same (path.extend names) := by
  unfold Same
  rw [components_extend plain, components_extend plain,
    show other.components = path.components from same]

theorem join (plain : IsPlain name) : (other.join ⟨name⟩).Same (path.join ⟨name⟩) := by
  unfold Same
  rw [components_join plain, components_join plain,
    show other.components = path.components from same]

end Same

/-- Slashes at the end carry no component. -/
theorem same_append_slashes {bytes : List UInt8} (nonempty : bytes ≠ []) (count : Nat) :
    (Path.mk (bytes ++ List.replicate count slash)).Same ⟨bytes⟩ := by
  unfold Same
  induction count with
  | zero => simp
  | succ count ih =>
    rw [List.replicate_succ', ← List.append_assoc, components_append_slash (by simp [nonempty])]
    exact ih

/-! ### Longer paths -/

theorem length_extend_le (path : Path) (names : List Name) :
    (path.extend names).bytes.length ≤
      path.bytes.length + (names.flatten.length + names.length) := by
  induction names generalizing path with
  | nil => simp [extend]
  | cons name rest ih =>
    have joined : (path.join ⟨name⟩).bytes.length ≤ path.bytes.length + (name.length + 1) := by
      unfold join
      split
      · simp only
        omega
      split
      · simp only [List.length_append]
        omega
      · simp
    have further := ih (path.join ⟨name⟩)
    rw [List.flatten_cons, List.length_append, List.length_cons]
    exact further.trans (by omega)

/-- A name put behind a path is its last segment, in place of an empty one. -/
theorem exists_body_join (nonempty : path.bytes ≠ []) (plain : IsPlain name) :
    ∃ base, (path.join ⟨name⟩).body = base ++ [name] ∧
      (path.body = base ∨ path.body = base ++ [[]]) := by
  obtain ⟨base, joined, cut⟩ := exists_bytes_join nonempty plain
  have behind : pieces slash name = [name] := by simp [pieces, plain.splitOn_eq]
  refine ⟨(splitOn slash base).2, by rw [body, joined, splitOn_append_separator, behind], ?_⟩
  rcases cut with whole | slashed
  · exact .inl (by rw [body, whole])
  · exact .inr (by rw [body, slashed, splitOn_append_separator]; rfl)

theorem bytes_extend_ne_nil (nonempty : path.bytes ≠ []) (plain : ∀ name ∈ names, IsPlain name) :
    (path.extend names).bytes ≠ [] := by
  intro empty
  have none_left : (path.extend names).components = _ := components_extend plain
  rw [components_eq_nil_iff.2 empty] at none_left
  exact nonempty (components_eq_nil_iff.1 (List.append_eq_nil_iff.1 none_left.symm).1)

/-- Behind what the path had, its names are the last segments. -/
theorem exists_body_extend (nonempty : path.bytes ≠ []) (plain : ∀ name ∈ names, IsPlain name) :
    ∃ base, (path.extend names).body = base ++ names ∧ inner base = inner path.body := by
  induction names using List.reverseRecOn with
  | nil => exact ⟨path.body, by simp [Path.extend], rfl⟩
  | append_singleton front name ih =>
    obtain ⟨plain, last⟩ := List.forall_mem_append.1 plain
    have last : IsPlain name := by simpa using last
    obtain ⟨base, body_eq, inner_eq⟩ := ih plain
    obtain ⟨others, joined, cut⟩ :=
      exists_body_join (bytes_extend_ne_nil nonempty plain) last
    rw [extend_append_singleton, joined]
    rcases cut with whole | slashed
    · exact ⟨base, by rw [← whole, body_eq, List.append_assoc], inner_eq⟩
    · -- Only the path itself can end in a slash, and not what names have been put behind.
      rcases List.eq_nil_or_concat front with rfl | ⟨shorter, final, rfl⟩
      · refine ⟨others, by simp, ?_⟩
        rw [← inner_eq, ← List.append_nil base, ← body_eq, slashed, inner_append]
        exact (List.append_nil _).symm
      · rw [body_eq, List.concat_eq_append, ← List.append_assoc] at slashed
        obtain rfl : final = [] := by simpa using (List.append_inj' slashed rfl).2
        exact absurd rfl (plain [] (by simp)).ne_nil

theorem lastPiece_extend (nonempty : path.bytes ≠ []) (plain : ∀ name ∈ names, IsPlain name)
    (own : IsPlain name) : (path.extend (names ++ [name])).lastPiece = name := by
  have plain : ∀ part ∈ names ++ [name], IsPlain part :=
    List.forall_mem_append.2 ⟨plain, by simpa using own⟩
  obtain ⟨base, body_eq, _⟩ := exists_body_extend nonempty plain
  simp [lastPiece, body_eq, ← List.append_assoc]

/-! ### Stripping the start -/

theorem not_isBlank (plain : IsPlain name) : ¬ isBlank name = true := by
  simp [isBlank, plain.ne_nil, plain.ne_dot]

theorem trimEnd_append_singleton (front : List Name) (plain : IsPlain name) :
    trimEnd (front ++ [name]) = front ++ [name] := by
  simp [trimEnd, not_isBlank plain]

/-- As many components as the segments in front carry, and no name behind them, are dropped. -/
theorem exists_dropComponents_append (base names : List Name) :
    ∃ blanks, dropComponents (inner base).length (base ++ names) = blanks ++ names ∧
      ∀ blank ∈ blanks, isBlank blank = true := by
  induction base with
  | nil => exact ⟨[], by simp [inner, dropComponents], by simp⟩
  | cons segment rest ih =>
    by_cases blank : isBlank segment = true
    · have skipped : inner (segment :: rest) = inner rest := by
        rw [inner, inner, List.filterMap_cons, ofSegment?_eq_none_iff.2 blank]
      rw [skipped]
      cases count : (inner rest).length with
      | zero =>
        refine ⟨segment :: rest, by simp [dropComponents], ?_⟩
        exact List.forall_mem_cons.2 ⟨blank, inner_eq_nil_iff.1 (List.length_eq_zero_iff.1 count)⟩
      | succ count =>
        rw [count] at ih
        rwa [List.cons_append, dropComponents, if_pos blank]
    · obtain ⟨component, made⟩ := inner_cons_of_not_isBlank blank rest
      rwa [made, List.length_cons, List.cons_append, dropComponents, if_neg blank]

/-- Blank segments in front do not show in a relative path. -/
theorem ofRelativeSegments_append {blanks : List Name} (plain : ∀ name ∈ names, IsPlain name)
    (blank : ∀ blank ∈ blanks, isBlank blank = true) :
    ofRelativeSegments (blanks ++ names) = ofRelativeSegments names := by
  have kept : (trimEnd (blanks ++ names)).dropWhile isBlank =
      (trimEnd names).dropWhile isBlank := by
    rcases List.eq_nil_or_concat names with rfl | ⟨front, last, rfl⟩
    · have gone : blanks.reverse.dropWhile isBlank = [] := by
        simpa [List.dropWhile_eq_nil_iff] using blank
      simp [trimEnd, gone]
    · have last : IsPlain last := plain last (by simp)
      rw [List.concat_eq_append, ← List.append_assoc, trimEnd_append_singleton _ last,
        trimEnd_append_singleton _ last, List.append_assoc, List.dropWhile_append_of_pos blank]
  rw [ofRelativeSegments, ofRelativeSegments, kept]

/-- What names have been put behind a path is found again, whatever the spelling of the path. -/
theorem stripStart?_extend (nonempty : path.bytes ≠ []) (plain : ∀ name ∈ names, IsPlain name) :
    (path.extend names).stripStart? path = some (ofRelativeSegments names) := by
  have starts : (path.extend names).startsWith path = true := by
    rw [startsWith, components_extend plain, List.isPrefixOf_iff_prefix]
    exact List.prefix_append ..
  obtain ⟨first, leading_eq⟩ := exists_leading nonempty
  obtain ⟨base, body_eq, inner_eq⟩ := exists_body_extend nonempty plain
  have count : path.components.length = (inner base).length + 1 := by
    rw [components, leading_eq, inner_eq]
    simp [inner]
  -- Segments of the start that carry no component may be left over in front of the names.
  obtain ⟨blanks, dropped, blank⟩ := exists_dropComponents_append base names
  rw [stripStart?, if_pos starts, count, body_eq]
  change some (ofRelativeSegments (dropComponents (inner base).length (base ++ names))) = _
  rw [dropped, ofRelativeSegments_append plain blank]

/-- What a name has been put behind is its parent, unless that ends in a slash or a dot. -/
theorem parent?_join (nonempty : path.bytes ≠ []) (plain : ∀ name ∈ names, IsPlain name)
    (own : IsPlain name) (deeper : names ≠ []) :
    ((path.extend names).join ⟨name⟩).parent? = some (path.extend names) := by
  have nonempty' := bytes_extend_ne_nil nonempty plain
  obtain ⟨base, body_eq, _⟩ := exists_body_extend nonempty plain
  obtain ⟨others, joined, cut⟩ := exists_body_join nonempty' own
  obtain ⟨head_eq, _⟩ := head_join nonempty' own
  obtain ⟨front, last, rfl⟩ := (List.eq_nil_or_concat names).resolve_left deeper
  rw [List.concat_eq_append] at *
  have final : IsPlain last := plain last (by simp)
  -- The last segment of the path has text, so no empty one gives way to the name.
  obtain rfl : (path.extend (front ++ [last])).body = others := by
    refine cut.resolve_right fun slashed => ?_
    rw [body_eq, ← List.append_assoc] at slashed
    obtain rfl : last = [] := by simpa using (List.append_inj' slashed rfl).2
    exact final.ne_nil rfl
  have absolute : ((path.extend (front ++ [last])).join ⟨name⟩).isAbsolute =
      (path.extend (front ++ [last])).isAbsolute := isAbsolute_join (isAbsolute_of_name own)
  have body_ne : (path.extend (front ++ [last])).body ≠ [] := by simp [body_eq]
  have trimmed : trimEnd (path.extend (front ++ [last])).body =
      (path.extend (front ++ [last])).body := by
    rw [body_eq, ← List.append_assoc, trimEnd_append_singleton _ final]
  rw [parent?, joined, List.reverse_append, List.reverse_singleton, List.singleton_append,
    List.dropWhile_cons_of_neg (not_isBlank own), head_eq, absolute]
  dsimp only
  rw [List.reverse_reverse, trimmed, ofSegments, if_neg (by simp [body_ne])]
  exact congrArg (fun bytes => some (Path.mk bytes)) (splitOn_append_joinWith slash _)

end Path

namespace Placement

variable {source source' twin : Path} {names : List Name} {name : Name}
  {renamings : List Renaming}

theorem directory_respelled (same : source'.Same source) (nonempty : source.bytes ≠ [])
    (plain : ∀ name ∈ names, IsPlain name) :
    directory source' twin (source'.extend names) =
      directory source twin (source.extend names) := by
  have nonempty' : source'.bytes ≠ [] := mt same.bytes_eq_nil_iff.1 nonempty
  rw [directory, directory, Path.stripStart?_extend nonempty plain,
    Path.stripStart?_extend nonempty' plain]

/-- The place of the directory of a file is the same as that of what its path has in front. -/
theorem file_extend (nonempty : source.bytes ≠ []) (plain : ∀ name ∈ names, IsPlain name)
    (own : IsPlain name) :
    file source twin renamings ((source.extend names).join ⟨name⟩) =
      (directory source twin (source.extend names)).join ⟨fileName renamings name⟩ := by
  have split : ((source.extend names).join ⟨name⟩).components =
      (source.extend names).components ++ [.name name] := Path.components_join own
  obtain ⟨name_eq, above, parent, above_eq⟩ := Path.exists_parent?_of_name split
  have place : directory source twin above = directory source twin (source.extend names) := by
    by_cases root : names = []
    · -- The parent may be spelled in another way than the source, but nothing follows it.
      subst root
      have split : above.components = source.components ++ ([] : List Name).map .name := by
        simpa [Path.extend] using above_eq
      obtain ⟨behind, found, _, _, _, empty⟩ := Path.exists_stripStart? split
      change _ = directory source twin source
      rw [directory_self, directory, found]
      simp [empty.2 rfl]
    · rw [Path.parent?_join nonempty plain own root] at parent
      rw [Option.some.inj parent]
  rw [file, name_eq, parent]
  exact congrArg (Path.join · ⟨fileName renamings name⟩) place

theorem file_respelled (same : source'.Same source) (nonempty : source.bytes ≠ [])
    (plain : ∀ name ∈ names, IsPlain name) (own : IsPlain name) :
    file source' twin renamings ((source'.extend names).join ⟨name⟩) =
      file source twin renamings ((source.extend names).join ⟨name⟩) := by
  have nonempty' : source'.bytes ≠ [] := mt same.bytes_eq_nil_iff.1 nonempty
  rw [file_extend nonempty plain own, file_extend nonempty' plain own,
    directory_respelled same nonempty plain]

end Placement

end TwinTree
