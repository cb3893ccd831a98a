import TwinTree.Proofs.OnePass
import TwinTree.Proofs.Reapplication

/-!
# Linkage blocks

Where keywords are stripped, the `extern` in front of a linkage block is cut and put in again. What
opens a block behind the keyword, the quoted name and the brace, has nothing in common with a name
of the project or a keyword, so it parts the text: both sides are adapted by themselves, and
`extern` is put in between (`carries_opener`). No block is lost (`blocks_stay_open`), and none is
left without its keyword: what marks a comment is put in front of no other quoted name than one that
opens no block.
-/
namespace TwinTree

/-- What opens a linkage block behind the keyword. -/
def opener : List Char := "\"C\" \x7b".toList

variable {text before behind : List Char}

/-! ### Blocks of the text -/

private theorem carries_restoreExtern :
    Carries restoreExtern opener ("extern ".toList ++ opener) := by
  have opened : Carries (replaceLiteral opener "extern \"C\" \x7b".toList) opener
      ("extern ".toList ++ opener) := carries_pattern (by decide) (by decide)
  have marked : Carries (replaceLiteral "// \"C\"".toList "// extern \"C\"".toList)
      ("extern ".toList ++ opener) ("extern ".toList ++ opener) :=
    carries_of_parted (by decide) (by decide)
  exact marked.comp opened

/-- What opens a block parts the text, and gets the keyword. -/
theorem carries_opener :
    Carries (adapt (Rule.standard {}) true) opener ("extern ".toList ++ opener) := by
  have stages : adapt (Rule.standard {}) true =
      restoreExtern ∘ cutKeywords strippedKeywords ∘ renamedToken := by
    funext text
    rw [Function.comp_apply, Function.comp_apply, adapt_eq_restoreExtern]
  have renamed : Carries renamedToken opener opener :=
    carries_renamedToken (by decide) (by decide)
  have cut : Carries (cutKeywords strippedKeywords) opener opener :=
    carries_cutKeywords (by decide) (by decide) (by decide : opener.getLast? = some '\x7b')
      (by decide)
  rw [stages]
  exact carries_restoreExtern.comp (cut.comp renamed)

/-! ### Blocks of adapted content -/

/-- Where a text opens a block, the keyword comes before it. -/
def OpensWithExtern (text : List Char) : Prop :=
  ∀ before behind, text = before ++ (opener ++ behind) → "extern ".toList <:+ before

private theorem opensWithExtern_opened (text : List Char) :
    OpensWithExtern (replaceLiteral "\"C\" \x7b".toList "extern \"C\" \x7b".toList text) := by
  intro before behind split
  have opened := replaced_opened text
  rw [split, ← List.append_assoc] at opened
  obtain ⟨_, inner, _, _, rfl, _⟩ :=
    opened.exists_of_prefixed (by decide) (by decide) (by decide)
  exact List.suffix_append inner _

/-- The ends of a mark that could begin what opens a block. -/
private theorem eq_or_eq_of_outer {inner outer others behind : List Char} (nonempty : outer ≠ [])
    (put : "// extern \"C\"".toList = inner ++ outer)
    (split : opener ++ behind = outer ++ others) :
    outer = "\"C\"".toList ∨ outer = "\"".toList := by
  have only : ∀ final ∈ "// extern \"C\"".toList.tails, final ≠ [] →
      final <+: opener ∨ opener <+: final → final = "\"C\"".toList ∨ final = "\"".toList := by
    decide
  refine only outer ((List.mem_tails _ _).2 ⟨inner, put.symm⟩) nonempty ?_
  exact List.prefix_or_prefix_of_prefix ⟨others, split.symm⟩ (List.prefix_append opener behind)

/-- Marking comments keeps the keyword in front of the blocks, and makes none without it. -/
private theorem OpensWithExtern.marked (opens : OpensWithExtern text) :
    OpensWithExtern (replaceLiteral "// \"C\"".toList "// extern \"C\"".toList text) := by
  intro before behind split
  have marked := replaced_marked text
  rw [split] at marked
  rcases marked.exists_of_split with ⟨front, final, rfl, first, second⟩ |
    ⟨front, final, inner, outer, others, rfl, ends, nonempty, put, made, onward⟩
  · -- The block was there before, and the keyword with it.
    obtain ⟨rest, rfl, _⟩ := second.exists_of_append (by decide)
    obtain ⟨start, rfl⟩ := opens front rest rfl
    have kept : Carries (replaceLiteral "// \"C\"".toList "// extern \"C\"".toList)
        "extern ".toList "extern ".toList := carries_of_parted (by decide) (by decide)
    have same := kept start []
    rw [List.append_nil] at same
    rw [first.unique (by decide) (replaced_marked _), same]
    exact ⟨_, rfl⟩
  · rcases eq_or_eq_of_outer nonempty put made with rfl | rfl
    · -- The block opens with the name that has been marked.
      have slashes : "// extern ".toList = inner := List.append_cancel_right (put : _ ++ _ = _)
      exact (slashes ▸ (by decide : "extern ".toList <:+ "// extern ".toList)).trans ends
    · -- The block would open with the quote behind the name, where it opened without the keyword.
      obtain rfl : "C\" \x7b".toList ++ behind = others := (List.cons.inj made).2
      obtain ⟨rest, rfl, _⟩ := onward.exists_of_append (by decide)
      have keyword := opens (front ++ "// \"C".toList) rest (by
        rw [List.append_assoc, List.append_assoc]
        rfl)
      rcases List.suffix_or_suffix_of_suffix keyword (List.suffix_append _ _) with inside | outside
      · exact absurd inside (by decide)
      · exact absurd outside (by decide)

/-- Where keywords are stripped, adapted content opens as many linkage blocks as the text at least,
all of them with the keyword. Each block of the text is still one, with the adapted rest of the text
on both sides. -/
theorem blocks_stay_open (text : List Char) :
    occurrences opener text ≤ occurrences opener (adapt (Rule.standard {}) true text) ∧
    (∀ before behind, adapt (Rule.standard {}) true text = before ++ (opener ++ behind) →
      "extern ".toList <:+ before) ∧
    ∀ before behind, text = before ++ (opener ++ behind) →
      adapt (Rule.standard {}) true text = adapt (Rule.standard {}) true before ++
        ("extern ".toList ++ opener ++ adapt (Rule.standard {}) true behind) := by
  refine ⟨?_, ?_, ?_⟩
  · exact (carries_opener.keeps_of_eq_append rfl).occurrences_le (by decide) (by decide) text
  · rw [adapt_eq_restoreExtern]
    exact (opensWithExtern_opened _).marked
  · rintro before behind rfl
    exact carries_opener before behind

theorem blocks_stay_open_header :
    adapt (Rule.standard {}) true "hazel static extern \"C\" \x7b // \"C\"".toList =
        "HazelInternalTests extern ".toList ++ (opener ++ " // extern \"C\"".toList) ∧
      "extern ".toList <:+ "HazelInternalTests extern ".toList ∧
      adapt (Rule.standard {}) true "hazel static extern \"C\" \x7b // \"C\"".toList =
        adapt (Rule.standard {}) true "hazel static extern ".toList ++
          ("extern ".toList ++ opener ++ adapt (Rule.standard {}) true " // \"C\"".toList) := by
  obtain ⟨_, keyword, block⟩ :=
    blocks_stay_open "hazel static extern \"C\" \x7b // \"C\"".toList
  have opened : adapt (Rule.standard {}) true "hazel static extern \"C\" \x7b // \"C\"".toList =
      "HazelInternalTests extern ".toList ++ (opener ++ " // extern \"C\"".toList) := by
    decide +kernel
  exact ⟨opened, keyword _ _ opened, block "hazel static extern ".toList _ (by decide)⟩

end TwinTree
