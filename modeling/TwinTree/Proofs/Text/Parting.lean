import TwinTree.Proofs.Text.Cutting

/-!
# Parting a text

A piece of a text that no pattern can overlap parts the text: a replacement or a cut works by itself
on what comes before it and on what comes behind it (`Carries`), and so does what is composed of
them. Where no more is known than that the piece stays and the work goes on behind it as at the
start of a text (`Keeps`), the piece is left at least as often as it was there
(`Keeps.occurrences_le`).

The other way round, a place in what a replacement leaves was a place in the text, or it lies inside
something that was put in (`Replaced.exists_of_split`).
-/
namespace TwinTree

variable {pattern replacement piece other text before behind rest : List Char} {c : Char}

/-! ### Places in what is left -/

namespace Replaced

/-- A place in what is left was a place in the text, or it is inside something that was put in. -/
theorem exists_of_split (replaced : Replaced pattern replacement text (before ++ behind)) :
    (∃ front final, text = front ++ final ∧ Replaced pattern replacement front before ∧
      Replaced pattern replacement final behind) ∨
    ∃ front final inner outer others, text = front ++ pattern ++ final ∧ inner <:+ before ∧
      outer ≠ [] ∧ replacement = inner ++ outer ∧ behind = outer ++ others ∧
      Replaced pattern replacement final others := by
  generalize whole : before ++ behind = left at replaced
  induction replaced generalizing before with
  | done =>
    obtain ⟨rfl, rfl⟩ := List.append_eq_nil_iff.1 whole
    exact .inl ⟨[], [], rfl, .done, .done⟩
  | @keep c rest left kept replaced ih =>
    cases before with
    | nil =>
      obtain rfl : behind = c :: left := whole
      exact .inl ⟨[], c :: rest, rfl, .done, .keep kept replaced⟩
    | cons b before =>
      obtain ⟨rfl, split⟩ := List.cons.inj whole
      rcases ih split with ⟨front, final, rfl, first, second⟩ |
        ⟨front, final, inner, outer, others, rfl, ends, inside⟩
      · have stays : ¬ pattern <+: b :: front := fun starts =>
          kept (starts.trans (List.prefix_append (b :: front) final))
        exact .inl ⟨b :: front, final, rfl, .keep stays first, second⟩
      · exact .inr ⟨b :: front, final, inner, outer, others, rfl,
          ends.trans (List.suffix_cons b before), inside⟩
  | @replace rest left replaced ih =>
    rw [List.append_eq_append_iff] at whole
    rcases whole with ⟨outer, put, rfl⟩ | ⟨inner, rfl, split⟩
    · by_cases none : outer = []
      · subst none
        rw [List.append_nil] at put
        subst put
        exact .inl ⟨pattern, rest, rfl, by simpa using Replaced.replace .done, replaced⟩
      · exact .inr ⟨[], rest, before, outer, left, rfl, List.suffix_rfl, none, put, rfl, replaced⟩
    · rcases ih split.symm with ⟨front, final, rfl, first, second⟩ |
        ⟨front, final, start, outer, others, rfl, ends, inside⟩
      · exact .inl ⟨pattern ++ front, final, by simp, .replace first, second⟩
      · exact .inr ⟨pattern ++ front, final, start, outer, others, by simp,
          ends.trans (List.suffix_append _ _), inside⟩

end Replaced

/-! ### Replacing as a function -/

theorem replaceLiteral_cons (kept : ¬ pattern <+: c :: rest) :
    replaceLiteral pattern replacement (c :: rest) =
      c :: replaceLiteral pattern replacement rest := by
  have nonempty : pattern ≠ [] := by
    rintro rfl
    exact kept List.nil_prefix
  exact (replaced_replaceLiteral nonempty replacement _).unique nonempty
    (.keep kept (replaced_replaceLiteral nonempty replacement rest))

theorem replaceLiteral_pattern_append (nonempty : pattern ≠ []) (rest : List Char) :
    replaceLiteral pattern replacement (pattern ++ rest) =
      replacement ++ replaceLiteral pattern replacement rest :=
  (replaced_replaceLiteral nonempty replacement _).unique nonempty
    (.replace (replaced_replaceLiteral nonempty replacement rest))

/-- A piece that the pattern does not overlap stays at the start of a text. -/
theorem replaceLiteral_piece_append (nonempty : pattern ≠ []) (apart : Apart pattern piece)
    (rest : List Char) :
    replaceLiteral pattern replacement (piece ++ rest) =
      piece ++ replaceLiteral pattern replacement rest := by
  obtain ⟨behind, same, onward⟩ :=
    (replaced_replaceLiteral nonempty replacement (piece ++ rest)).append_of_apart apart
  rw [same, onward.unique nonempty (replaced_replaceLiteral nonempty replacement rest)]

/-- What comes before a piece is replaced by itself. -/
theorem replaceLiteral_append (nonempty : pattern ≠ []) (apart : Apart piece pattern.tail)
    (text rest : List Char) :
    replaceLiteral pattern replacement (text ++ (piece ++ rest)) =
      replaceLiteral pattern replacement text ++
        replaceLiteral pattern replacement (piece ++ rest) :=
  (replaced_replaceLiteral nonempty replacement _).unique nonempty
    (.append_piece apart (replaced_replaceLiteral nonempty replacement text)
      (replaced_replaceLiteral nonempty replacement _))

/-- What starts the result of a replacement and has no part in what is put in was there before. -/
theorem prefix_of_prefix_replaceLiteral (nonempty : pattern ≠ []) (apart : Apart replacement other)
    (starts : other <+: replaceLiteral pattern replacement text) : other <+: text := by
  obtain ⟨behind, split⟩ := starts
  have replaced := replaced_replaceLiteral nonempty replacement text
  rw [← split] at replaced
  obtain ⟨final, rfl, _⟩ := replaced.exists_of_append apart
  exact List.prefix_append _ _

/-- What does not start at a character does not start there when the text behind it has been
replaced. -/
theorem not_prefix_cons_replaceLiteral (nonempty : pattern ≠ [])
    (apart : Apart replacement other.tail) (absent : ¬ other <+: c :: rest) :
    ¬ other <+: c :: replaceLiteral pattern replacement rest := by
  intro starts
  cases other with
  | nil => exact absent List.nil_prefix
  | cons first other =>
    obtain ⟨rfl, inner⟩ := List.cons_prefix_cons.1 starts
    exact absent ((List.prefix_cons_inj _).2
      (prefix_of_prefix_replaceLiteral nonempty apart inner))

/-! ### Pieces that part a text -/

/-- A function of texts makes `made` of a piece wherever the piece stands, and works by itself on
what comes before it and on what comes behind it. -/
def Carries (f : List Char → List Char) (piece made : List Char) : Prop :=
  ∀ before behind, f (before ++ (piece ++ behind)) = f before ++ (made ++ f behind)

/-- A function of texts keeps a piece wherever it stands, and goes on behind it as at the start of a
text. -/
def Keeps (f : List Char → List Char) (piece : List Char) : Prop :=
  ∀ before behind, ∃ front, f (before ++ (piece ++ behind)) = front ++ (piece ++ f behind)

/-- A pattern and a piece have no overlap, whichever of them comes first. -/
def Parted (pattern piece : List Char) : Prop := Apart pattern piece ∧ Apart piece pattern.tail

instance (pattern piece : List Char) : Decidable (Parted pattern piece) :=
  inferInstanceAs (Decidable (_ ∧ _))

variable {f g : List Char → List Char} {made final : List Char}

namespace Carries

/-- Nothing becomes of nothing, so a piece at the start of a text is carried too. -/
theorem piece_append (carries : Carries f piece made) (empty : f [] = []) (rest : List Char) :
    f (piece ++ rest) = made ++ f rest := by
  have whole := carries [] rest
  rwa [empty] at whole

theorem comp (second : Carries g made final) (first : Carries f piece made) :
    Carries (g ∘ f) piece final := fun before behind => by
  rw [Function.comp_apply, first, second]
  rfl

theorem append {more moreMade : List Char} (empty : f [] = []) (first : Carries f piece made)
    (second : Carries f more moreMade) : Carries f (piece ++ more) (made ++ moreMade) :=
  fun before behind => by
  rw [List.append_assoc, first, second.piece_append empty, List.append_assoc]

/-- A piece that something is put in front of is still kept. -/
theorem keeps_of_eq_append {added : List Char} (carries : Carries f piece made)
    (same : made = added ++ piece) : Keeps f piece := fun before behind =>
  ⟨f before ++ added, by rw [carries, same, List.append_assoc, List.append_assoc]⟩

theorem keeps (carries : Carries f piece piece) : Keeps f piece :=
  carries.keeps_of_eq_append (List.nil_append piece).symm

end Carries

theorem Keeps.comp (second : Keeps g piece) (first : Keeps f piece) : Keeps (g ∘ f) piece :=
  fun before behind => by
  obtain ⟨front, split⟩ := first before behind
  rw [Function.comp_apply, split]
  exact second front (f behind)

/-- A replacement carries a piece that its pattern does not overlap. -/
theorem carries_of_parted (nonempty : pattern ≠ []) (parted : Parted pattern piece) :
    Carries (replaceLiteral pattern replacement) piece piece := fun before behind => by
  rw [replaceLiteral_append nonempty parted.2, replaceLiteral_piece_append nonempty parted.1]

/-- A replacement carries its pattern to what it puts in, unless the pattern overlaps itself. -/
theorem carries_pattern (nonempty : pattern ≠ []) (apart : Apart pattern pattern.tail) :
    Carries (replaceLiteral pattern replacement) pattern replacement := fun before behind => by
  rw [replaceLiteral_append nonempty apart, replaceLiteral_pattern_append nonempty]

/-- A replacement that leaves a text ending as it did keeps a piece of which the pattern overlaps
the first character only. -/
theorem keeps_of_sameEnd (nonempty : pattern ≠ []) (parted : Parted pattern piece)
    (sameEnd : ∀ c : Option Char, replacement.getLast?.or c = pattern.getLast?.or c) :
    Keeps (replaceLiteral pattern replacement) (c :: piece) := fun before behind => by
  have last := (replaced_replaceLiteral nonempty replacement (before ++ [c])).getLast?_or_eq
    sameEnd none
  rw [List.getLast?_concat, Option.some_or, Option.or_none] at last
  obtain ⟨front, split⟩ := List.getLast?_eq_some_iff.1 last
  refine ⟨front, ?_⟩
  rw [List.cons_append, List.append_cons, carries_of_parted nonempty parted, split,
    ← List.append_cons, List.cons_append]

/-! ### Cutting on both sides of a piece -/

variable {word : List Char} {keywords : List (List Char)}

/-- A cut carries a piece that the keyword does not overlap and that ends in no word character. -/
theorem carries_of_cut (starts : isWordBefore word.head? = true)
    (parted : Parted (word ++ [' ']) piece) (last : piece.getLast? = some c)
    (free : isWord c = false) : Carries (replaceKeyword word []) piece piece :=
  fun before behind => by
  have onward (previous : Option Char) :
      Cut word (piece.getLast?.or previous) behind (replaceKeyword word [] behind) := by
    refine (cut_replaceKeyword starts behind).congr_previous ?_
    simp [last, isWordBefore, free]
  exact (cut_replaceKeyword starts _).unique
    (.append_piece parted.2 (cut_replaceKeyword starts before) (.append piece parted.1 (onward _)))

theorem carries_cutKeywords (starts : ∀ keyword ∈ keywords, isWordBefore keyword.head? = true)
    (parted : ∀ keyword ∈ keywords, Parted (keyword ++ [' ']) piece)
    (last : piece.getLast? = some c) (free : isWord c = false) :
    Carries (cutKeywords keywords) piece piece := by
  induction keywords with
  | nil => exact fun _ _ => rfl
  | cons keyword keywords ih =>
    rw [List.forall_mem_cons] at starts parted
    exact (ih starts.2 parted.2).comp (carries_of_cut starts.1 parted.1 last free)

/-! ### Counting occurrences -/

/-- How often a text stands in another. -/
def occurrences (pattern text : List Char) : Nat :=
  text.tails.countP fun final => pattern.isPrefixOf final

theorem occurrences_cons (pattern : List Char) (c : Char) (rest : List Char) :
    occurrences pattern (c :: rest) =
      occurrences pattern rest + if pattern <+: c :: rest then 1 else 0 := by
  simp [occurrences, List.countP_cons]

theorem occurrences_le_append (pattern front rest : List Char) :
    occurrences pattern rest ≤ occurrences pattern (front ++ rest) := by
  induction front with
  | nil => exact Nat.le_refl _
  | cons c front ih =>
    rw [List.cons_append, occurrences_cons]
    omega

theorem occurrences_piece_append (apart : Apart pattern piece) (rest : List Char) :
    occurrences pattern (piece ++ rest) = occurrences pattern rest := by
  induction piece with
  | nil => rfl
  | cons c piece ih =>
    have absent : ¬ pattern <+: c :: (piece ++ rest) := apart.not_isPrefix (by simp)
    rw [List.cons_append, occurrences_cons, if_neg absent, ih apart.tail, Nat.add_zero]

/-- A text that does not overlap with itself stands at the start once. -/
theorem occurrences_pattern_append (nonempty : pattern ≠ []) (apart : Apart pattern pattern.tail)
    (rest : List Char) :
    occurrences pattern (pattern ++ rest) = occurrences pattern rest + 1 := by
  cases pattern with
  | nil => exact absurd rfl nonempty
  | cons c pattern =>
    have here : c :: pattern <+: c :: (pattern ++ rest) := List.prefix_append (c :: pattern) rest
    rw [List.cons_append, occurrences_cons, if_pos here]
    exact congrArg (· + 1) (occurrences_piece_append apart rest)

/-- What keeps a piece leaves it as often as it was there at least. -/
theorem Keeps.occurrences_le (keeps : Keeps f piece) (nonempty : piece ≠ [])
    (apart : Apart piece piece.tail) (text : List Char) :
    occurrences piece text ≤ occurrences piece (f text) := by
  -- The scan of the text has come to `rest`, and nothing that begins before it counts.
  suffices scanned : ∀ size before rest, rest.length = size →
      occurrences piece rest ≤ occurrences piece (f (before ++ rest)) from
    scanned _ [] text rfl
  intro size
  induction size using Nat.strong_induction_on with
  | _ size ih =>
  rintro before rest rfl
  by_cases starts : piece <+: rest
  · obtain ⟨behind, rfl⟩ := starts
    have shorter : behind.length < (piece ++ behind).length := by
      have := List.length_pos_iff.2 nonempty
      simp only [List.length_append]
      omega
    have later : occurrences piece behind ≤ occurrences piece (f behind) :=
      ih _ shorter [] behind rfl
    obtain ⟨front, split⟩ := keeps before behind
    calc occurrences piece (piece ++ behind)
        = occurrences piece behind + 1 := occurrences_pattern_append nonempty apart behind
      _ ≤ occurrences piece (f behind) + 1 := Nat.succ_le_succ later
      _ = occurrences piece (piece ++ f behind) :=
          (occurrences_pattern_append nonempty apart _).symm
      _ ≤ occurrences piece (f (before ++ (piece ++ behind))) := by
          rw [split]
          exact occurrences_le_append _ _ _
  · cases rest with
    | nil => simp [occurrences, nonempty]
    | cons c rest =>
      rw [occurrences_cons, if_neg starts, Nat.add_zero, List.append_cons]
      exact ih _ (by simp) (before ++ [c]) rest rfl

end TwinTree
