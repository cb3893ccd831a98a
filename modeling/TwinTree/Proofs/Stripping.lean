import TwinTree.Proofs.Text.WholeWord
import TwinTree.Rule

/-!
# Stripped linkage keywords

Where linkage keywords are stripped, `static` and `inline` do not stand as whole words in adapted
content, and `extern` stands only where it opens a linkage block or where a comment names one. This
holds for every vocabulary, because the rules that use its names come first.

After the last keyword is cut none of the three stands as a whole word. The two repairs that follow
put `extern` in front of a quoted name again. They cannot make one of the other two keywords, and
they leave an opened block as it is.
-/
namespace TwinTree

/-- The keywords that are cut out one by one. -/
def linkageKeywords : List (List Char) :=
  ["static".toList, "inline".toList, "extern".toList]

private theorem isKeyword_of_linkage : ∀ word ∈ linkageKeywords, IsKeyword word := by
  decide +kernel

private theorem not_wordAt_cutLinkage {word text before behind : List Char}
    (member : word ∈ linkageKeywords) :
    ¬ WordAt word none before (cutKeywords linkageKeywords text) behind :=
  not_wordAt_cutKeywords (isKeyword_of_linkage word member)
    (fun keyword within => (isKeyword_of_linkage keyword within).starts) member

/-- The last rules, over whatever the rules before them leave. -/
private theorem exists_adapt_standard (names : Vocabulary) (text : List Char) :
    ∃ named, adapt (Rule.standard names) true text =
      replaceLiteral "// \"C\"".toList "// extern \"C\"".toList
        (replaceLiteral "\"C\" \x7b".toList "extern \"C\" \x7b".toList
          (cutKeywords linkageKeywords named)) :=
  ⟨_, rfl⟩

/-! ### Words inside what a repair puts in -/

/-- The ends of `replacement` from which on a word could begin. -/
def beginnings (word replacement : List Char) : List (List Char) :=
  replacement.tails.filter fun final =>
    final ≠ [] ∧ (final <+: word ++ [' '] ∨ word ++ [' '] <+: final)

/-- A repair makes a word only where a beginning of the word is put in. -/
private theorem WordAt.of_repaired {word pattern replacement text left before behind : List Char}
    (isKeyword : IsKeyword word) (apart : Apart replacement (word.tail ++ [' ']))
    (sameEnd : ∀ c : Option Char, replacement.getLast?.or c = pattern.getLast?.or c)
    (replaced : Replaced pattern replacement text left)
    (stands : WordAt word none before left behind) :
    (∃ front inner, ∃ rest ∈ beginnings word replacement, ∃ others, before = front ++ inner ∧
      replacement = inner ++ rest ∧ rest ++ others = word ++ ' ' :: behind) ∨
    ∃ front final, WordAt word none front text final ∧
      Replaced pattern replacement final behind := by
  rcases stands.of_replaced isKeyword.ne_nil apart sameEnd replaced with
    ⟨front, inner, rest, others, split, nonempty, made, whole⟩ | found
  · left
    -- What was put in ends inside the word or reaches past it.
    have begins : rest <+: word ++ [' '] ∨ word ++ [' '] <+: rest :=
      List.prefix_or_prefix_of_prefix ⟨others, whole⟩ ⟨behind, by simp⟩
    have member : rest ∈ beginnings word replacement := by
      simp only [beginnings, List.mem_filter, List.mem_tails, decide_eq_true_eq]
      exact ⟨⟨inner, made.symm⟩, nonempty, begins⟩
    exact ⟨front, inner, rest, member, others, split, made, whole⟩
  · exact .inr found

/-- What is put in for a quoted name has no part in one of the other two keywords. -/
private theorem apart_of_other : ∀ word ∈ ["static".toList, "inline".toList],
    ∀ replacement ∈ ["extern \"C\" \x7b".toList, "// extern \"C\"".toList],
      Apart replacement (word.tail ++ [' ']) ∧ beginnings word replacement = [] := by
  decide

private theorem exists_wordAt_of_repair {word pattern replacement text before behind : List Char}
    (member : word ∈ ["static".toList, "inline".toList])
    (repair : replacement ∈ ["extern \"C\" \x7b".toList, "// extern \"C\"".toList])
    (nonempty : pattern ≠ [])
    (sameEnd : ∀ c : Option Char, replacement.getLast?.or c = pattern.getLast?.or c)
    (stands : WordAt word none before (replaceLiteral pattern replacement text) behind) :
    ∃ front final, WordAt word none front text final := by
  obtain ⟨apart, empty⟩ := apart_of_other word member replacement repair
  have isKeyword : IsKeyword word :=
    isKeyword_of_linkage word (List.mem_append_left ["extern".toList] member)
  have replaced := replaced_replaceLiteral nonempty replacement text
  rcases stands.of_repaired isKeyword apart sameEnd replaced with
    ⟨_, _, rest, begins, _⟩ | ⟨front, final, found, _⟩
  · rw [empty] at begins
    cases begins
  · exact ⟨front, final, found⟩

/-! ### Where `extern` is put in again -/

/-- Every whole `extern` that the first repair leaves opens a block. -/
private theorem opens_block {text before behind : List Char}
    (gone : ∀ front final, ¬ WordAt "extern".toList none front text final)
    (stands : WordAt "extern".toList none before
      (replaceLiteral "\"C\" \x7b".toList "extern \"C\" \x7b".toList text) behind) :
    "\"C\" \x7b".toList <+: behind := by
  have replaced := replaced_replaceLiteral (by decide +kernel : "\"C\" \x7b".toList ≠ [])
    "extern \"C\" \x7b".toList text
  have only : beginnings "extern".toList "extern \"C\" \x7b".toList =
      ["extern \"C\" \x7b".toList] := by decide
  rcases stands.of_repaired (by decide) (by decide) (fun _ => by rfl) replaced with
    ⟨_, _, rest, begins, others, _, _, whole⟩ | ⟨front, final, found, _⟩
  · rw [only, List.mem_singleton] at begins
    subst begins
    exact ⟨others, by simpa using whole⟩
  · exact absurd found (gone front final)

/-- Every whole `extern` that the second repair leaves was there before it, with the same block
behind it, or stands in a comment between the slashes and the name. -/
private theorem opens_block_or_marks {text before behind : List Char}
    (opens : ∀ front final, WordAt "extern".toList none front text final →
      "\"C\" \x7b".toList <+: final)
    (stands : WordAt "extern".toList none before
      (replaceLiteral "// \"C\"".toList "// extern \"C\"".toList text) behind) :
    "\"C\" \x7b".toList <+: behind ∨ "// ".toList <:+ before ∧ "\"C\"".toList <+: behind := by
  have replaced := replaced_replaceLiteral (by decide +kernel : "// \"C\"".toList ≠ [])
    "// extern \"C\"".toList text
  have only : beginnings "extern".toList "// extern \"C\"".toList = ["extern \"C\"".toList] := by
    decide
  rcases stands.of_repaired (by decide) (by decide) (fun _ => by rfl) replaced with
    ⟨front, inner, rest, begins, others, rfl, made, whole⟩ | ⟨front, final, found, onward⟩
  · right
    rw [only, List.mem_singleton] at begins
    subst begins
    have slashes : "// ".toList = inner := List.append_cancel_right (made : _ ++ _ = _)
    exact ⟨slashes ▸ List.suffix_append front inner, others, by simpa using whole⟩
  · left
    -- The slashes of the second repair have no part in an opened block.
    obtain ⟨inner, rfl⟩ := opens front final found
    obtain ⟨rest, rfl, _⟩ := onward.append_of_apart (by decide)
    exact List.prefix_append _ rest

/-! ### Adapted content -/

variable {names : Vocabulary} {text before behind : List Char}

/-- Through both repairs, back to what the cuts have left. -/
theorem not_wordAt_adapt {word : List Char} (member : word ∈ ["static".toList, "inline".toList]) :
    ¬ WordAt word none before (adapt (Rule.standard names) true text) behind := by
  obtain ⟨named, rules⟩ := exists_adapt_standard names text
  rw [rules]
  intro stands
  obtain ⟨_, _, marked⟩ :=
    exists_wordAt_of_repair member (by decide) (by decide) (fun _ => by rfl) stands
  obtain ⟨_, _, cut⟩ := exists_wordAt_of_repair member (by decide) (by decide) (fun _ => by rfl)
    marked
  exact not_wordAt_cutLinkage (List.mem_append_left ["extern".toList] member) cut

theorem opens_block_or_marks_adapt
    (stands : WordAt "extern".toList none before (adapt (Rule.standard names) true text) behind) :
    "\"C\" \x7b".toList <+: behind ∨ "// ".toList <:+ before ∧ "\"C\"".toList <+: behind := by
  obtain ⟨named, rules⟩ := exists_adapt_standard names text
  rw [rules] at stands
  refine opens_block_or_marks (fun front final found => opens_block ?_ found) stands
  intro front final
  exact not_wordAt_cutLinkage (by decide)

/-- Adapted content where keywords are stripped: no whole `static` and no whole `inline`, and every
whole `extern` opens a linkage block or stands in a comment in front of a quoted name. -/
theorem linkage_keywords_stripped (names : Vocabulary) (text : List Char) :
    (∀ word ∈ ["static".toList, "inline".toList], ∀ before behind,
      ¬ WordAt word none before (adapt (Rule.standard names) true text) behind) ∧
    ∀ before behind,
      WordAt "extern".toList none before (adapt (Rule.standard names) true text) behind →
      "\"C\" \x7b".toList <+: behind ∨ "// ".toList <:+ before ∧ "\"C\"".toList <+: behind :=
  ⟨fun _ member _ _ => not_wordAt_adapt member, fun _ _ => opens_block_or_marks_adapt⟩

theorem linkage_keywords_stripped_header :
    adapt (Rule.standard {}) true "static inline f;extern \"C\" \x7b// \"C\"".toList =
      "f;extern \"C\" \x7b// extern \"C\"".toList ∧
    ("\"C\" \x7b".toList <+: "\"C\" \x7b// extern \"C\"".toList ∨
      "// ".toList <:+ "f;".toList ∧ "\"C\"".toList <+: "\"C\" \x7b// extern \"C\"".toList) :=
  ⟨by decide, (linkage_keywords_stripped {} "static inline f;extern \"C\" \x7b// \"C\"".toList).2
    "f;".toList "\"C\" \x7b// extern \"C\"".toList (wordAt_iff.2 ⟨by decide, by decide⟩)⟩

end TwinTree
