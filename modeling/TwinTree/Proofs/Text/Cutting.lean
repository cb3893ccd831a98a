import TwinTree.Proofs.Text.Occurrence
import TwinTree.Proofs.Text.WholeWord

/-!
# What a cut does to a text

Cutting a keyword out is a function of the text (`Cut.unique`), leaves a text without the keyword as
it is (`Cut.eq_of_absent`), and works on both sides of a separator by itself
(`Cut.append_separator`). A cut can make a text that was not there only at a seam: behind something
that is no word character, and in front of something that stood behind the keyword
(`Cut.infix_of_chain`).
-/
namespace TwinTree

namespace Cut

variable {word text left other rest behind piece inner : List Char} {previous : Option Char}
  {separator : Char}

/-- Only whether a word character comes before a text matters. -/
theorem congr_previous {before : Option Char} (same : isWordBefore previous = isWordBefore before)
    (cuts : Cut word previous text left) : Cut word before text left := by
  cases cuts with
  | done => exact .done
  | keep kept onward => exact .keep (same ▸ kept) onward
  | cut free onward => exact .cut (same ▸ free) onward

theorem unique (cuts : Cut word previous text left) (again : Cut word previous text other) :
    left = other := by
  -- At each place the word is cut or it is not, which leaves one constructor for both.
  induction cuts generalizing other with
  | done =>
    generalize whole : ([] : List Char) = source at again
    cases again with
    | done => rfl
    | keep => cases whole
    | cut => simp at whole
  | @keep previous c rest left kept _ ih =>
    generalize whole : c :: rest = source at again
    cases again with
    | done => cases whole
    | keep _ onward =>
      cases whole
      rw [ih onward]
    | cut free => exact absurd ⟨free, _, by simpa using whole.symm⟩ kept
  | @cut previous rest left free _ ih =>
    generalize whole : word ++ ' ' :: rest = source at again
    cases again with
    | done => simp at whole
    | keep kept => exact absurd ⟨free, rest, by simpa using whole⟩ kept
    | cut _ onward =>
      obtain ⟨_, rfl⟩ := List.cons.inj (List.append_cancel_left whole)
      exact ih onward

/-- A text in which the word does not stand stays as it is. -/
theorem eq_of_absent (cuts : Cut word previous text left)
    (absent : ∀ before behind, ¬ WordAt word previous before text behind) : left = text := by
  induction cuts with
  | done => rfl
  | keep _ _ ih => rw [ih fun before behind stands => absent _ behind stands.later]
  | cut free => exact absurd (.here free) (absent _ _)

/-- Every character of what is left was there before. -/
theorem mem {c : Char} (cuts : Cut word previous text left) (member : c ∈ left) : c ∈ text := by
  induction cuts with
  | done => exact member
  | keep _ _ ih =>
    rcases List.mem_cons.1 member with rfl | later
    · exact List.mem_cons_self
    · exact List.mem_cons_of_mem _ (ih later)
  | cut _ _ ih => exact List.mem_append_right _ (List.mem_cons_of_mem _ (ih member))

/-- A character that is not in the word stays as often as it is there. -/
theorem count_eq {c : Char} (cuts : Cut word previous text left) (absent : c ∉ word ++ [' ']) :
    left.count c = text.count c := by
  induction cuts with
  | done => rfl
  | keep _ _ ih => rw [List.count_cons, List.count_cons, ih]
  | cut _ _ ih => rw [List.append_cons, List.count_append, List.count_eq_zero.2 absent, ih,
      Nat.zero_add]

/-! ### Putting texts together -/

/-- What is cut before a piece has no part in the piece. -/
theorem append_piece (apart : Apart piece (word ++ [' ']).tail)
    (first : Cut word previous text left)
    (second : Cut word (text.getLast?.or previous) (piece ++ rest) behind) :
    Cut word previous (text ++ (piece ++ rest)) (left ++ behind) := by
  induction first with
  | done => exact second
  | keep kept _ ih =>
    rw [getLast?_cons_or] at second
    exact .keep (fun stands => kept ⟨stands.1, prefix_of_prefix_piece apart stands.2⟩) (ih second)
  | @cut previous rest left free _ ih =>
    rw [List.append_cons, List.getLast?_append, Option.or_assoc] at second
    have last : (word ++ [' ']).getLast?.or previous = some ' ' := by simp
    rw [last] at second
    rw [List.append_assoc, List.cons_append]
    exact .cut free (ih second)

/-- A separator that is no word character and no part of the word divides a text. -/
theorem append_separator (absent : separator ∉ word ++ [' ']) (free : isWord separator = false)
    (first : Cut word previous text left) (second : Cut word none rest behind) :
    Cut word previous (text ++ separator :: rest) (left ++ separator :: behind) := by
  have onward : Cut word (some separator) rest behind :=
    second.congr_previous (by simp [isWordBefore, free])
  have stays : ¬ word ++ [' '] <+: separator :: rest :=
    (apart_singleton absent).not_isPrefix_append List.suffix_rfl (by simp) rest
  exact first.append_piece (apart_singleton fun inside => absent (List.mem_of_mem_tail inside))
    (.keep (fun stands => stays stands.2) onward)

/-- A piece that has no overlap with the word stays in front of what is left. -/
theorem append (piece : List Char) (apart : Apart (word ++ [' ']) piece)
    (cuts : Cut word (piece.getLast?.or previous) text left) :
    Cut word previous (piece ++ text) (piece ++ left) := by
  induction piece generalizing previous with
  | nil => exact cuts
  | cons c piece ih =>
    refine .keep (fun stands => apart.not_isPrefix (by simp) stands.2) (ih apart.tail ?_)
    rwa [getLast?_cons_or] at cuts

/-- Nothing but what stands behind a piece without overlap is cut. -/
theorem exists_of_append (apart : Apart (word ++ [' ']) piece)
    (cuts : Cut word previous (piece ++ text) left) :
    ∃ behind, left = piece ++ behind ∧ Cut word (piece.getLast?.or previous) text behind := by
  induction piece generalizing previous left with
  | nil => exact ⟨left, rfl, cuts⟩
  | cons c piece ih =>
    rw [getLast?_cons_or]
    generalize whole : c :: piece ++ text = source at cuts
    cases cuts with
    | done => cases whole
    | keep _ onward =>
      cases whole
      obtain ⟨behind, rfl, further⟩ := ih apart.tail onward
      exact ⟨behind, rfl, further⟩
    | @cut _ rest =>
      have starts : word ++ [' '] <+: c :: piece ++ text := ⟨rest, by simp [whole]⟩
      exact absurd starts (apart.not_isPrefix (by simp))

/-! ### Seams -/

variable {begins : Char → Prop}

/-- What is left begins as the text does, or as what stood behind a word that is gone. -/
theorem begins_of_cons {c : Char} (cuts : Cut word previous text (c :: left))
    (first : ∀ a, text.head? = some a → begins a)
    (others : ∀ before behind, WordAt word previous before text behind →
      ∀ a, behind.head? = some a → begins a) : begins c := by
  generalize whole : c :: left = result at cuts
  induction cuts with
  | done => cases whole
  | keep =>
    obtain ⟨rfl, _⟩ := List.cons.inj whole
    exact first c rfl
  | @cut previous rest left free _ ih =>
    refine ih (others [] rest (.here free)) (fun before behind stands => ?_) whole
    have later : WordAt word previous (word ++ [' '] ++ before) (word ++ [' '] ++ rest) behind :=
      .append (word ++ [' ']) (by simpa using stands)
    exact others _ behind (by simpa using later)

/-- Where nothing can be a seam, what is left at the start of a text was there. -/
theorem prefix_of_chain {c : Char} (cuts : Cut word (some c) rest left)
    (others : ∀ before behind, WordAt word (some c) before rest behind →
      ∀ a, behind.head? = some a → begins a)
    (chain : (c :: inner).IsChain fun a b => isWord a = true ∨ ¬ begins b)
    (starts : inner <+: left) : inner <+: rest := by
  induction inner generalizing c rest left with
  | nil => exact List.nil_prefix
  | cons a inner ih =>
    rw [List.isChain_cons_cons] at chain
    obtain ⟨behind, rfl⟩ := starts
    generalize whole : a :: inner ++ behind = result at cuts
    cases cuts with
    | done => cases whole
    | keep _ onward =>
      obtain ⟨rfl, rfl⟩ := List.cons.inj whole
      exact (List.prefix_cons_inj _).2 (ih onward
        (fun before behind stands => others _ behind stands.later) chain.2
        (List.prefix_append _ _))
    | @cut _ further _ free onward =>
      -- The seam is in front of something that may stand behind the word.
      subst whole
      have begun : begins a := by
        refine begins_of_cons onward (others [] further (.here free)) fun before behind stands => ?_
        have later : WordAt word (some c) (word ++ [' '] ++ before) (word ++ [' '] ++ further)
            behind := .append (word ++ [' ']) (by simpa using stands)
        exact others _ behind (by simpa using later)
      rcases chain.1 with letter | refused
      · simp [isWordBefore, letter] at free
      · exact absurd begun refused

/-- What cannot have a seam in it was there before: each of its characters is a word character, or
the next one never stands behind the word that is cut. -/
theorem infix_of_chain (cuts : Cut word previous text left)
    (others : ∀ before behind, WordAt word previous before text behind →
      ∀ a, behind.head? = some a → begins a)
    (chain : inner.IsChain fun a b => isWord a = true ∨ ¬ begins b)
    (within : inner <:+: left) : inner <:+: text := by
  induction cuts with
  | done => exact within
  | @keep previous c rest left _ onward ih =>
    have further : ∀ before behind, WordAt word (some c) before rest behind →
        ∀ a, behind.head? = some a → begins a :=
      fun before behind stands => others _ behind stands.later
    rcases List.infix_cons_iff.1 within with starts | later
    · cases inner with
      | nil => exact List.nil_infix
      | cons a inner =>
        obtain ⟨rfl, inside⟩ := List.cons_prefix_cons.1 starts
        exact ((List.prefix_cons_inj a).2 (onward.prefix_of_chain further chain inside)).isInfix
    · exact List.infix_cons (ih further later)
  | @cut previous rest left free _ ih =>
    rw [List.append_cons]
    refine (ih (fun before behind stands => ?_) within).trans (List.suffix_append _ _).isInfix
    have later : WordAt word previous (word ++ [' '] ++ before) (word ++ [' '] ++ rest) behind :=
      .append (word ++ [' ']) (by simpa using stands)
    exact others _ behind (by simpa using later)

/-- A word that is left was there before. -/
theorem infix_of_letters (cuts : Cut word previous text left)
    (letters : ∀ c ∈ inner, isWord c = true) (within : inner <:+: left) : inner <:+: text := by
  have chain : inner.IsChain fun a _ => isWord a = true ∨ ¬ True :=
    (List.pairwise_of_forall_mem_list fun c member _ _ => .inl (letters c member)).isChain
  exact cuts.infix_of_chain (fun _ _ _ _ _ => trivial) chain within

end Cut

end TwinTree
