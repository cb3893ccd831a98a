import Mathlib.Data.List.Infix
import TwinTree.Text.Substitution

/-!
# Replacement as a relation

The scan that replaces a literal text and the scan that cuts a keyword out, each as a relation
between the text and what is left of it, with one constructor for each thing the scan does at a
place. `replaced_replaceLiteral` and `cut_replaceKeyword` say that the functions are instances.

A text that has no overlap with a pattern goes through a replacement unchanged
(`Replaced.append_of_apart`), and one that has none with what is put in must have been there before
(`Replaced.exists_of_append`).
-/
namespace TwinTree

/-- What `left` is when `pattern` has become `replacement` wherever it stands in a text. -/
inductive Replaced (pattern replacement : List Char) : List Char → List Char → Prop
  | done : Replaced pattern replacement [] []
  | keep {c : Char} {rest left : List Char} : ¬ pattern <+: c :: rest →
      Replaced pattern replacement rest left → Replaced pattern replacement (c :: rest) (c :: left)
  | replace {rest left : List Char} : Replaced pattern replacement rest left →
      Replaced pattern replacement (pattern ++ rest) (replacement ++ left)

/-- What `left` is when a word and the space behind it have gone from a text wherever the word
starts one; the first argument is the character before the text. -/
inductive Cut (word : List Char) : Option Char → List Char → List Char → Prop
  | done {previous : Option Char} : Cut word previous [] []
  | keep {previous : Option Char} {c : Char} {rest left : List Char} :
      ¬ (isWordBefore previous = false ∧ word ++ [' '] <+: c :: rest) →
      Cut word (some c) rest left → Cut word previous (c :: rest) (c :: left)
  | cut {previous : Option Char} {rest left : List Char} : isWordBefore previous = false →
      Cut word (some ' ') rest left → Cut word previous (word ++ ' ' :: rest) left

theorem applyEditsFrom_append (editAt : EditAt) (previous : Option Char)
    (taken rest : List Char) :
    applyEditsFrom editAt previous taken.length (taken ++ rest) =
      applyEditsFrom editAt (taken.getLast?.or previous) 0 rest := by
  induction taken generalizing previous with
  | nil => rfl
  | cons c taken ih =>
    rw [List.length_cons, List.cons_append, applyEditsFrom, ih (some c), List.getLast?_cons]
    cases taken.getLast? <;> rfl

private theorem replaced_applyEditsFrom {pattern : List Char} (nonempty : pattern ≠ [])
    (replacement : List Char) (previous : Option Char) (text : List Char) :
    Replaced pattern replacement text
      (applyEditsFrom (literalEdit pattern replacement) previous 0 text) := by
  match text with
  | [] => exact .done
  | c :: rest =>
    by_cases stands : pattern <+: c :: rest
    · obtain ⟨behind, split⟩ := stands
      -- The first character has been taken when the scan goes on behind the pattern.
      obtain ⟨first, others, rfl⟩ := List.exists_cons_of_ne_nil nonempty
      obtain ⟨rfl, rest_eq⟩ := List.cons.inj split
      obtain rfl : others ++ behind = rest := rest_eq
      have shorter : behind.length < (first :: (others ++ behind)).length := by
        simp only [List.length_cons, List.length_append]
        omega
      have fires : literalEdit (first :: others) replacement previous (first :: (others ++ behind))
          = some ⟨others.length + 1, replacement⟩ := by
        simp [literalEdit]
      rw [applyEditsFrom, fires]
      simp only [Nat.add_sub_cancel]
      rw [applyEditsFrom_append]
      exact .replace (replaced_applyEditsFrom nonempty replacement _ behind)
    · have silent : literalEdit pattern replacement previous (c :: rest) = none := by
        simpa [literalEdit] using fun _ => stands
      rw [applyEditsFrom, silent]
      exact .keep stands (replaced_applyEditsFrom nonempty replacement _ rest)
termination_by text.length

theorem replaced_replaceLiteral {pattern : List Char} (nonempty : pattern ≠ [])
    (replacement text : List Char) :
    Replaced pattern replacement text (replaceLiteral pattern replacement text) :=
  replaced_applyEditsFrom nonempty replacement none text

private theorem cut_applyEditsFrom {word : List Char} (starts : isWordBefore word.head? = true)
    (previous : Option Char) (text : List Char) :
    Cut word previous text (applyEditsFrom (keywordEdit word []) previous 0 text) := by
  match text with
  | [] => exact .done
  | c :: rest =>
    by_cases stands : isWordBefore previous = false ∧ word ++ [' '] <+: c :: rest
    · obtain ⟨free, behind, split⟩ := stands
      -- As above, the first character has been taken when the scan goes on.
      obtain ⟨first, others, rfl⟩ : ∃ first others, word = first :: others := by
        cases word with
        | nil => cases starts
        | cons first others => exact ⟨first, others, rfl⟩
      obtain ⟨rfl, rest_eq⟩ := List.cons.inj split
      obtain rfl : others ++ [' '] ++ behind = rest := rest_eq
      have shorter : behind.length < (first :: (others ++ [' '] ++ behind)).length := by
        simp; omega
      have fires : keywordEdit (first :: others) [] previous (first :: (others ++ [' '] ++ behind))
          = some ⟨(others ++ [' ']).length + 1, []⟩ := by
        simp_all [keywordEdit, isBoundary]
      have cuts := Cut.cut free (cut_applyEditsFrom starts (some ' ') behind)
      rw [List.append_cons] at cuts
      rw [applyEditsFrom, fires]
      simp only [Nat.add_sub_cancel]
      rw [applyEditsFrom_append]
      simpa using cuts
    · have silent : keywordEdit word [] previous (c :: rest) = none := by
        rw [keywordEdit, if_neg]
        simp only [Bool.and_eq_true, List.isPrefixOf_iff_prefix, isBoundary, bne_iff_ne, ne_eq]
        rintro ⟨prefixes, boundary⟩
        -- A boundary in front of a letter means that no letter comes before it.
        have head : (c :: rest).head? = word.head? := by
          cases word with
          | nil => cases starts
          | cons first others => obtain ⟨behind, split⟩ := prefixes; cases split; rfl
        rw [head, starts, Bool.not_eq_true] at boundary
        exact stands ⟨boundary, prefixes⟩
      rw [applyEditsFrom, silent]
      exact .keep stands (cut_applyEditsFrom starts _ rest)
termination_by text.length

theorem cut_replaceKeyword {word : List Char} (starts : isWordBefore word.head? = true)
    (text : List Char) : Cut word none text (replaceKeyword word [] text) :=
  cut_applyEditsFrom starts none text

/-! ### Texts apart from a pattern -/

/-- No end of `text` is the start of `other` or starts with it: wherever `other` stands next to
`text`, the two have no character in common. -/
def Apart (other text : List Char) : Prop :=
  ∀ final ∈ text.tails, final ≠ [] → ¬ final <+: other ∧ ¬ other <+: final

instance (other text : List Char) : Decidable (Apart other text) :=
  inferInstanceAs (Decidable (∀ final ∈ text.tails, final ≠ [] → _))

theorem Apart.tail {other text : List Char} {c : Char} (apart : Apart other (c :: text)) :
    Apart other text :=
  fun final member =>
    apart final ((List.mem_tails _ _).2
      (((List.mem_tails _ _).1 member).trans (List.suffix_cons c text)))

theorem Apart.not_isPrefix {other text behind : List Char} (apart : Apart other text)
    (nonempty : text ≠ []) : ¬ other <+: text ++ behind := by
  intro starts
  have whole := apart text (by simp) nonempty
  rcases List.prefix_or_prefix_of_prefix starts (List.prefix_append text behind) with inner | outer
  · exact whole.2 inner
  · exact whole.1 outer

/-- An end of a text does not go on with what the text is apart from. -/
theorem Apart.not_isPrefix_append {other text final : List Char} (apart : Apart other text)
    (ending : final <:+ text) (nonempty : final ≠ []) (behind : List Char) :
    ¬ final <+: other ++ behind := by
  intro starts
  have notOver := apart final ((List.mem_tails _ _).2 ending) nonempty
  rcases List.prefix_or_prefix_of_prefix starts (List.prefix_append other behind) with inner | outer
  · exact notOver.1 inner
  · exact notOver.2 outer

/-- A character that is not in a text is apart from it. -/
theorem apart_singleton {separator : Char} {text : List Char} (absent : separator ∉ text) :
    Apart [separator] text := by
  intro final member nonempty
  obtain ⟨first, others, rfl⟩ := List.exists_cons_of_ne_nil nonempty
  have different : first ≠ separator := by
    rintro rfl
    exact absent (((List.mem_tails _ _).1 member).subset List.mem_cons_self)
  exact ⟨fun starts => different (List.cons_prefix_cons.1 starts).1,
    fun starts => different (List.cons_prefix_cons.1 starts).1.symm⟩

namespace Replaced

variable {pattern replacement : List Char}

/-- What has no overlap with the pattern is left as it is. -/
theorem append_of_apart {text rest left : List Char} (apart : Apart pattern text)
    (replaced : Replaced pattern replacement (text ++ rest) left) :
    ∃ behind, left = text ++ behind ∧ Replaced pattern replacement rest behind := by
  induction text generalizing left with
  | nil => exact ⟨left, rfl, replaced⟩
  | cons c text ih =>
    generalize whole : c :: text ++ rest = source at replaced
    cases replaced with
    | done => cases whole
    | keep _ inner =>
      cases whole
      obtain ⟨behind, rfl, others⟩ := ih apart.tail inner
      exact ⟨behind, rfl, others⟩
    | replace _ =>
      exact absurd (whole ▸ List.prefix_append pattern _) (apart.not_isPrefix (by simp))

/-- What has no overlap with the text put in was there before. -/
theorem exists_of_append {text rest left : List Char} (apart : Apart replacement left)
    (replaced : Replaced pattern replacement text (left ++ rest)) :
    ∃ behind, text = left ++ behind ∧ Replaced pattern replacement behind rest := by
  induction left generalizing text with
  | nil => exact ⟨text, rfl, replaced⟩
  | cons c left ih =>
    generalize whole : c :: left ++ rest = result at replaced
    cases replaced with
    | done => cases whole
    | keep _ inner =>
      cases whole
      obtain ⟨behind, rfl, others⟩ := ih apart.tail inner
      exact ⟨behind, rfl, others⟩
    | replace _ =>
      exact absurd (whole ▸ List.prefix_append replacement _) (apart.not_isPrefix (by simp))

end Replaced

end TwinTree
