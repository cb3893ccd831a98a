import Mathlib.Data.List.Count
import TwinTree.Proofs.Text.Replacement
import TwinTree.Text.Split

/-!
# Occurrences and separators

What a replacement does to the occurrences of texts: it leaves a text without the pattern as it is
(`Replaced.eq_of_absent`), and takes all occurrences of a pattern out that cannot overlap with what
is put in (`Replaced.absent`). A separator that is in no pattern divides the work:
`replaceLiteral_joinWith` replaces piece by piece.
-/
namespace TwinTree

variable {α : Type}

/-! ### Separators -/

/-- What starts a text with a separator in it, and does not hold the separator, starts the part
before it. -/
theorem prefix_of_prefix_append {separator : α} {pattern front behind : List α}
    (absent : separator ∉ pattern) (starts : pattern <+: front ++ separator :: behind) :
    pattern <+: front := by
  rcases List.prefix_or_prefix_of_prefix starts (List.prefix_append front _) with inside | longer
  · exact inside
  · obtain ⟨rest, rfl⟩ := longer
    rw [List.prefix_append_right_inj] at starts
    cases rest with
    | nil => simp
    | cons first rest =>
      obtain ⟨rfl, _⟩ := List.cons_prefix_cons.1 starts
      exact absurd (List.mem_append_right _ List.mem_cons_self) absent

/-- What begins in a text and ends behind it does not go on with a piece that no end of it
overlaps. -/
theorem prefix_of_prefix_piece {pattern piece text rest : List Char} {c : Char}
    (apart : Apart piece pattern.tail) (starts : pattern <+: c :: text ++ (piece ++ rest)) :
    pattern <+: c :: text := by
  rcases List.prefix_or_prefix_of_prefix starts (List.prefix_append (c :: text) _) with
    inside | ⟨final, rfl⟩
  · exact inside
  · by_cases none : final = []
    · simp [none]
    · -- The rest of the pattern is an end of it, and would go on with the piece.
      have within : final <+: piece ++ rest := (List.prefix_append_right_inj _).1 starts
      have ending : final <:+ (c :: text ++ final).tail := List.suffix_append _ _
      exact absurd within (apart.not_isPrefix_append ending none rest)

/-- Two separators in a row need a piece without text. -/
theorem not_infix_joinWith {separator : α} {first : List α} {others : List (List α)}
    (absent : separator ∉ first) (solid : ∀ piece ∈ others, separator ∉ piece ∧ piece ≠ []) :
    ¬ [separator, separator] <:+: first ++ joinWith separator others := by
  induction others generalizing first with
  | nil =>
    intro within
    rw [joinWith, List.flatMap_nil, List.append_nil] at within
    exact absent (within.subset List.mem_cons_self)
  | cons piece others ih =>
    rw [List.forall_mem_cons] at solid
    have later := ih solid.1.1 solid.2
    induction first with
    | nil =>
      intro within
      rcases List.infix_cons_iff.1 within with starts | behind
      · -- The piece behind the first separator does not start with another one.
        obtain ⟨c, rest, rfl⟩ := List.exists_cons_of_ne_nil solid.1.2
        obtain ⟨_, starts⟩ := List.cons_prefix_cons.1 starts
        obtain ⟨rfl, _⟩ := List.cons_prefix_cons.1 starts
        exact solid.1.1 List.mem_cons_self
      · exact later behind
    | cons c rest inner =>
      rw [List.mem_cons, not_or] at absent
      intro within
      rcases List.infix_cons_iff.1 within with starts | behind
      · exact absent.1 (List.cons_prefix_cons.1 starts).1
      · exact inner absent.2 behind

/-- What occurs in two texts put together occurs in the second one, or begins in the first. -/
theorem infix_append_cases {first second whole : List α} (within : whole <:+: first ++ second) :
    whole <:+: second ∨ ∃ final ∈ first.tails, final ≠ [] ∧ whole <+: final ++ second := by
  induction first with
  | nil => exact .inl within
  | cons c rest ih =>
    rcases List.infix_cons_iff.1 within with starts | later
    · exact .inr ⟨c :: rest, by simp, by simp, starts⟩
    · rcases ih later with inside | ⟨final, member, nonempty, starts⟩
      · exact .inl inside
      · exact .inr ⟨final, by simp_all, nonempty, starts⟩

/-- The last of some items, or else what comes before them. -/
theorem getLast?_cons_or (item : α) (items : List α) (previous : Option α) :
    (item :: items).getLast?.or previous = items.getLast?.or (some item) := by
  rw [List.getLast?_cons]
  cases items.getLast? <;> rfl

namespace Replaced

variable {pattern replacement text left other rest behind : List Char} {separator : Char}

theorem unique (nonempty : pattern ≠ []) (replaced : Replaced pattern replacement text left)
    (again : Replaced pattern replacement text other) : left = other := by
  -- At each place the pattern stands there or it does not, which leaves one constructor for both.
  induction replaced generalizing other with
  | done =>
    generalize whole : ([] : List Char) = source at again
    cases again with
    | done => rfl
    | keep => cases whole
    | replace => simp [nonempty] at whole
  | @keep c rest left kept _ ih =>
    generalize whole : c :: rest = source at again
    cases again with
    | done => cases whole
    | keep _ onward =>
      cases whole
      rw [ih onward]
    | replace => exact absurd (whole ▸ List.prefix_append ..) kept
  | @replace rest left _ ih =>
    generalize whole : pattern ++ rest = source at again
    cases again with
    | done => simp [nonempty] at whole
    | keep kept => exact absurd (whole ▸ List.prefix_append ..) kept
    | replace onward =>
      obtain rfl := List.append_cancel_left whole
      rw [ih onward]

/-- What is replaced before a piece has no part in the piece. -/
theorem append_piece {piece : List Char} (apart : Apart piece pattern.tail)
    (first : Replaced pattern replacement text left)
    (second : Replaced pattern replacement (piece ++ rest) behind) :
    Replaced pattern replacement (text ++ (piece ++ rest)) (left ++ behind) := by
  induction first with
  | done => exact second
  | keep kept _ ih => exact .keep (fun starts => kept (prefix_of_prefix_piece apart starts)) ih
  | replace _ ih =>
    rw [List.append_assoc, List.append_assoc]
    exact .replace ih

/-- A separator that is not in the pattern divides a text. -/
theorem append_separator (nonempty : pattern ≠ []) (absent : separator ∉ pattern)
    (first : Replaced pattern replacement text left)
    (second : Replaced pattern replacement rest behind) :
    Replaced pattern replacement (text ++ separator :: rest) (left ++ separator :: behind) := by
  have stays : ¬ pattern <+: separator :: rest :=
    (apart_singleton absent).not_isPrefix_append List.suffix_rfl nonempty rest
  exact first.append_piece (apart_singleton fun inside => absent (List.mem_of_mem_tail inside))
    (.keep stays second)

/-! ### Occurrences -/

/-- A text without the pattern stays as it is. -/
theorem eq_of_absent (replaced : Replaced pattern replacement text left)
    (absent : ¬ pattern <:+: text) : left = text := by
  induction replaced with
  | done => rfl
  | keep _ _ ih => rw [ih fun within => absent (List.infix_cons within)]
  | replace => exact absurd (List.prefix_append ..).isInfix absent

/-- What overlaps at most with such an end of what is put in as the pattern has too occurred before
if it occurs now. -/
theorem infix_of_ends (apart : Apart replacement other)
    (ends : ∀ final ∈ replacement.tails, final ≠ [] → final <+: other ∨ other <+: final →
      final <:+ pattern)
    (replaced : Replaced pattern replacement text left) (within : other <:+: left) :
    other <:+: text := by
  induction replaced with
  | done => exact within
  | @keep c rest left kept replaced ih =>
    rcases List.infix_cons_iff.1 within with starts | later
    · obtain ⟨behind, split⟩ := starts
      have whole : Replaced pattern replacement (c :: rest) (other ++ behind) :=
        split ▸ .keep kept replaced
      obtain ⟨others, same, _⟩ := whole.exists_of_append apart
      rw [same]
      exact (List.prefix_append ..).isInfix
    · exact List.infix_cons (ih later)
  | @replace rest left replaced ih =>
    rcases infix_append_cases within with later | ⟨final, member, nonempty, starts⟩
    · exact (ih later).trans (List.suffix_append ..).isInfix
    · rcases List.prefix_or_prefix_of_prefix starts (List.prefix_append final _) with inner | outer
      · -- The occurrence is within an end that the pattern has too.
        obtain ⟨front, rfl⟩ := ends final member nonempty (.inr inner)
        exact inner.isInfix.trans (List.infix_append_of_infix_left (List.suffix_append ..).isInfix)
      · -- It begins in such an end and goes on in what was there before.
        obtain ⟨onward, rfl⟩ := outer
        obtain ⟨front, rfl⟩ := ends final member nonempty (.inl (List.prefix_append ..))
        obtain ⟨behind, rfl⟩ := (List.prefix_append_right_inj final).1 starts
        have apart : Apart replacement onward := fun tail within =>
          apart tail ((List.mem_tails _ _).2
            (((List.mem_tails _ _).1 within).trans (List.suffix_append ..)))
        obtain ⟨others, rfl, _⟩ := replaced.exists_of_append apart
        exact ⟨front, others, by simp⟩

/-- What does not overlap with what is put in occurred before if it occurs now. -/
theorem infix_of_apart (apart : Apart replacement other) (apart' : Apart other replacement)
    (replaced : Replaced pattern replacement text left) (within : other <:+: left) :
    other <:+: text :=
  replaced.infix_of_ends apart (fun final member nonempty overlaps =>
    (overlaps.elim (apart' final member nonempty).1 (apart' final member nonempty).2).elim) within

/-- What does not overlap with the pattern is left wherever it occurs. -/
theorem infix_left_of_apart (apart : Apart pattern other) (apart' : Apart other pattern)
    (replaced : Replaced pattern replacement text left) (within : other <:+: text) :
    other <:+: left := by
  induction replaced with
  | done => exact within
  | @keep c rest left kept replaced ih =>
    rcases List.infix_cons_iff.1 within with starts | later
    · obtain ⟨behind, split⟩ := starts
      have whole : Replaced pattern replacement (other ++ behind) (c :: left) :=
        split ▸ .keep kept replaced
      obtain ⟨others, same, _⟩ := whole.append_of_apart apart
      rw [same]
      exact (List.prefix_append ..).isInfix
    · exact List.infix_cons (ih later)
  | replace _ ih =>
    rcases infix_append_cases within with later | ⟨final, member, nonempty, starts⟩
    · exact (ih later).trans (List.suffix_append ..).isInfix
    · obtain ⟨notInside, notOutside⟩ := apart' final member nonempty
      rcases List.prefix_or_prefix_of_prefix starts (List.prefix_append final _) with inner | outer
      · exact absurd inner notOutside
      · exact absurd outer notInside

/-- A pattern that does not overlap with what is put in its place is gone afterwards. -/
theorem absent (nonempty : pattern ≠ []) (apart : Apart replacement pattern)
    (apart' : Apart pattern replacement) (replaced : Replaced pattern replacement text left) :
    ¬ pattern <:+: left := by
  induction replaced with
  | done => simpa using nonempty
  | @keep c rest left kept replaced ih =>
    intro within
    rcases List.infix_cons_iff.1 within with starts | later
    · obtain ⟨behind, split⟩ := starts
      have whole : Replaced pattern replacement (c :: rest) (pattern ++ behind) :=
        split ▸ .keep kept replaced
      -- An occurrence that begins in what was kept was there before, where it would have been
      -- replaced.
      obtain ⟨others, same, _⟩ := whole.exists_of_append apart
      exact kept (same ▸ List.prefix_append ..)
    · exact ih later
  | replace _ ih =>
    intro within
    rcases infix_append_cases within with later | ⟨final, member, nonempty, starts⟩
    · exact ih later
    · obtain ⟨notInside, notOutside⟩ := apart' final member nonempty
      rcases List.prefix_or_prefix_of_prefix starts (List.prefix_append final _) with inner | outer
      · exact notOutside inner
      · exact notInside outer

/-- Every character of what is left was there before or was put in. -/
theorem mem_or_mem {c : Char} (replaced : Replaced pattern replacement text left)
    (member : c ∈ left) : c ∈ text ∨ c ∈ replacement := by
  induction replaced with
  | done => exact .inl member
  | keep _ _ ih =>
    rcases List.mem_cons.1 member with rfl | later
    · exact .inl List.mem_cons_self
    · exact (ih later).imp_left (List.mem_cons_of_mem _)
  | replace _ ih =>
    rcases List.mem_append.1 member with inside | later
    · exact .inr inside
    · exact (ih later).imp_left (List.mem_append_right _)

/-- Nothing is left only of nothing. -/
theorem eq_nil (nonempty : replacement ≠ []) (replaced : Replaced pattern replacement text []) :
    text = [] := by
  generalize whole : ([] : List Char) = left at replaced
  cases replaced with
  | done => rfl
  | keep => cases whole
  | replace => simp [nonempty] at whole

/-- Replacing by something longer makes a text longer, where there is something to replace. -/
theorem length_add_le (longer : pattern.length ≤ replacement.length)
    (replaced : Replaced pattern replacement text left) :
    text.length ≤ left.length ∧ (pattern <:+: text → pattern ≠ [] →
      text.length + (replacement.length - pattern.length) ≤ left.length) := by
  induction replaced with
  | done => exact ⟨Nat.le_refl _, fun within nonempty => absurd (List.infix_nil.1 within) nonempty⟩
  | keep kept _ ih =>
    simp only [List.length_cons]
    refine ⟨by omega, fun within nonempty => ?_⟩
    -- The pattern does not start here, so it occurs further on.
    have later := (List.infix_cons_iff.1 within).resolve_left kept
    have more := ih.2 later nonempty
    omega
  | replace _ ih =>
    simp only [List.length_append]
    exact ⟨by omega, fun _ _ => by omega⟩

/-- Replacing by something with less of a character in it leaves less of it, where there is
something to replace. -/
theorem count_add_le {c : Char} (fewer : replacement.count c ≤ pattern.count c)
    (replaced : Replaced pattern replacement text left) :
    left.count c ≤ text.count c ∧ (pattern <:+: text → pattern ≠ [] →
      left.count c + (pattern.count c - replacement.count c) ≤ text.count c) := by
  induction replaced with
  | done => exact ⟨Nat.le_refl _, fun within nonempty => absurd (List.infix_nil.1 within) nonempty⟩
  | keep kept _ ih =>
    simp only [List.count_cons]
    refine ⟨by omega, fun within nonempty => ?_⟩
    have later := (List.infix_cons_iff.1 within).resolve_left kept
    have more := ih.2 later nonempty
    omega
  | replace _ ih =>
    simp only [List.count_append]
    exact ⟨by omega, fun _ _ => by omega⟩

/-- Where the pattern and what is put in end alike, so does what is left. -/
theorem getLast?_or_eq
    (sameEnd : ∀ c : Option Char, replacement.getLast?.or c = pattern.getLast?.or c)
    (replaced : Replaced pattern replacement text left) (previous : Option Char) :
    left.getLast?.or previous = text.getLast?.or previous := by
  induction replaced generalizing previous with
  | done => rfl
  | @keep c rest left _ _ ih =>
    rw [getLast?_cons_or, getLast?_cons_or, ih]
  | replace _ ih =>
    rw [List.getLast?_append, List.getLast?_append, Option.or_assoc, Option.or_assoc, sameEnd]
    exact ih _

/-- Where something is put in front of a pattern, the pattern does not stand without it: what is
left has the pattern only where the text had it. -/
theorem exists_of_prefixed {added before : List Char} (nonempty : pattern ≠ [])
    (apart : Apart (added ++ pattern) pattern)
    (once : ∀ final ∈ (added ++ pattern).tails, final ≠ [] → final ≠ pattern →
      ¬ final <+: pattern ∧ ¬ pattern <+: final)
    (replaced : Replaced pattern (added ++ pattern) text (before ++ pattern ++ behind)) :
    ∃ front inner final, text = front ++ pattern ++ final ∧ before = inner ++ added ∧
      Replaced pattern (added ++ pattern) front inner := by
  generalize whole : before ++ pattern ++ behind = left at replaced
  induction replaced generalizing before with
  | done => simp [nonempty] at whole
  | @keep c rest left kept replaced ih =>
    cases before with
    | nil =>
      -- The pattern would have stood here before, where it would have been replaced.
      have here : Replaced pattern (added ++ pattern) (c :: rest) (pattern ++ behind) := by
        rw [List.nil_append] at whole
        exact whole ▸ .keep kept replaced
      obtain ⟨others, same, _⟩ := here.exists_of_append apart
      exact absurd (same ▸ List.prefix_append ..) kept
    | cons b before =>
      obtain ⟨rfl, split⟩ := List.cons.inj whole
      obtain ⟨front, inner, final, rfl, rfl, onward⟩ := ih split
      refine ⟨b :: front, b :: inner, final, rfl, rfl, .keep (fun starts => kept ?_) onward⟩
      refine starts.trans ?_
      rw [← List.cons_append, ← List.cons_append, List.append_assoc]
      exact List.prefix_append _ _
  | @replace rest left replaced ih =>
    rw [List.append_assoc, List.append_eq_append_iff] at whole
    rcases whole with ⟨final, split, whole⟩ | ⟨inner, rfl, whole⟩
    · cases final with
      | nil =>
        have whole : [] ++ pattern ++ behind = left := by simpa using whole
        obtain ⟨front, inner, final, rfl, nothing, onward⟩ := ih whole
        refine ⟨pattern ++ front, added ++ pattern ++ inner, final, by simp, ?_, .replace onward⟩
        rw [← List.append_nil before, ← split, List.append_assoc, ← nothing, List.append_nil]
      | cons c final =>
        have tail : c :: final ∈ (added ++ pattern).tails :=
          (List.mem_tails _ _).2 ⟨before, split.symm⟩
        have starts : c :: final <+: pattern ++ behind := ⟨left, whole.symm⟩
        by_cases same : c :: final = pattern
        · rw [same] at split
          exact ⟨[], [], rest, rfl, (List.append_cancel_right split).symm, .done⟩
        · obtain ⟨notInside, notOutside⟩ := once _ tail (by simp) same
          rcases List.prefix_or_prefix_of_prefix starts (List.prefix_append pattern _) with
            inner | outer
          · exact absurd inner notInside
          · exact absurd outer notOutside
    · have whole : inner ++ pattern ++ behind = left := by simpa using whole.symm
      obtain ⟨front, before, final, rfl, rfl, onward⟩ := ih whole
      exact ⟨pattern ++ front, added ++ pattern ++ before, final, by simp, by simp,
        .replace onward⟩

end Replaced

/-! ### Replacing as a function -/

variable {pattern replacement text : List Char} {separator : Char}

theorem replaceLiteral_of_absent (absent : ¬ pattern <:+: text) :
    replaceLiteral pattern replacement text = text :=
  (replaced_replaceLiteral (by rintro rfl; exact absent (List.nil_infix)) replacement
    text).eq_of_absent absent

/-- A text of pieces is replaced piece by piece. -/
theorem replaceLiteral_joinWith {first : List Char} {others : List (List Char)}
    (nonempty : pattern ≠ []) (absent : separator ∉ pattern) :
    replaceLiteral pattern replacement (first ++ joinWith separator others) =
      replaceLiteral pattern replacement first ++
        joinWith separator (others.map (replaceLiteral pattern replacement)) := by
  refine (replaced_replaceLiteral nonempty replacement _).unique nonempty ?_
  induction others generalizing first with
  | nil => simpa [joinWith] using replaced_replaceLiteral nonempty replacement first
  | cons piece others ih =>
    exact (replaced_replaceLiteral nonempty replacement first).append_separator nonempty absent ih

end TwinTree
