import TwinTree.Proofs.Text.Cutting
import TwinTree.Rule

/-!
# Lines

A rule that has no line break in what it looks for works on each line by itself: the break in front
of a line is no word character, so a keyword at the start of a line stands as free as one at the
start of a text. So do all rules of a vocabulary without line breaks, and what they make of a text
is, line by line, what they make of its lines (`adapted_line_by_line`).
-/
namespace TwinTree

/-! ### Rules that work on each line -/

namespace Rule

/-- A rule looks for nothing that goes beyond the end of a line. -/
inductive WithinLines : Rule → Prop where
  | literal {rule : Rule} {pattern : List Char} : rule.pattern = .literal pattern →
      '\n' ∉ pattern → WithinLines rule
  | keyword {rule : Rule} {word : List Char} : rule.pattern = .keyword word →
      rule.replacement = [] → '\n' ∉ word → isWordBefore word.head? = true → WithinLines rule

variable {rule : Rule}

/-- A rule without a line break in its pattern sees each line by itself. -/
theorem WithinLines.apply_append (within : rule.WithinLines) (first second : List Char) :
    rule.apply (first ++ '\n' :: second) = rule.apply first ++ '\n' :: rule.apply second := by
  cases within with
  | @literal pattern is absent =>
    simp only [apply, is]
    by_cases empty : pattern = []
    · simp [empty]
    · have whole := replaced_replaceLiteral empty rule.replacement (first ++ '\n' :: second)
      exact whole.unique empty ((replaced_replaceLiteral empty rule.replacement
        first).append_separator empty absent (replaced_replaceLiteral empty _ second))
  | @keyword word is nothing absent starts =>
    simp only [apply, is, nothing]
    have apart : '\n' ∉ word ++ [' '] := by simp [absent]
    exact (cut_replaceKeyword starts _).unique ((cut_replaceKeyword starts first).append_separator
      apart (by decide) (cut_replaceKeyword starts second))

/-- A rule puts no line break in that its replacement does not hold. -/
theorem WithinLines.notMem_apply {line : List Char} (within : rule.WithinLines)
    (absent : '\n' ∉ rule.replacement) (notMem : '\n' ∉ line) : '\n' ∉ rule.apply line := by
  intro member
  cases within with
  | @literal pattern is =>
    simp only [apply, is] at member
    by_cases empty : pattern = []
    · rw [empty, replaceLiteral_empty] at member
      exact notMem member
    · exact ((replaced_replaceLiteral empty _ line).mem_or_mem member).elim notMem absent
  | keyword is nothing _ starts =>
    simp only [apply, is, nothing] at member
    exact notMem ((cut_replaceKeyword starts line).mem member)

/-- The rules of a vocabulary keep within lines when the names that they look for do. -/
theorem withinLines_standard {names : Vocabulary}
    (oneLine : ∀ name ∈ [names.projectToken, names.twinToken, names.displayQualifier,
      names.umbrellaHeader], '\n' ∉ name.toList) :
    ∀ rule ∈ standard names, rule.WithinLines := by
  simp only [List.forall_mem_cons] at oneLine
  obtain ⟨project, twin, qualifier, umbrella, _⟩ := oneLine
  simp only [standard, List.forall_mem_cons]
  refine ⟨.literal rfl project, .literal rfl ?_, .literal rfl umbrella, ?_⟩
  · simpa [twin] using qualifier
  -- The other rules look for fixed texts.
  · refine ⟨.keyword rfl rfl ?_ ?_, .keyword rfl rfl ?_ ?_, .keyword rfl rfl ?_ ?_,
      .keyword rfl rfl ?_ ?_, .literal rfl ?_, .literal rfl ?_, nofun⟩ <;> decide

/-- The replacements of a vocabulary hold no line break when its names hold none. -/
theorem notMem_replacement_standard {names : Vocabulary}
    (oneLine : ∀ name ∈ [names.twinToken, names.displayName, names.displayQualifier,
      names.twinUmbrellaHeader], '\n' ∉ name.toList) :
    ∀ rule ∈ standard names, '\n' ∉ rule.replacement := by
  simp only [List.forall_mem_cons] at oneLine
  obtain ⟨twin, display, qualifier, umbrella, _⟩ := oneLine
  simp only [standard, List.forall_mem_cons]
  refine ⟨twin, ?_, umbrella, ?_⟩
  · simpa [literal, repairing, display] using qualifier
  · refine ⟨?_, ?_, ?_, ?_, ?_, ?_, nofun⟩ <;> decide

end Rule

/-! ### Adapting line by line -/

variable {rules : List Rule}

theorem adapt_cons (rule : Rule) (rules : List Rule) (stripping : Bool) (text : List Char) :
    adapt (rule :: rules) stripping text =
      adapt rules stripping (if rule.applies stripping then rule.apply text else text) := by
  unfold adapt
  cases applies : rule.applies stripping <;> simp [applies]

theorem adapt_append_newline (within : ∀ rule ∈ rules, rule.WithinLines) (stripping : Bool)
    (first second : List Char) :
    adapt rules stripping (first ++ '\n' :: second) =
      adapt rules stripping first ++ '\n' :: adapt rules stripping second := by
  induction rules generalizing first second with
  | nil => rfl
  | cons rule rules ih =>
    rw [List.forall_mem_cons] at within
    rw [adapt_cons, adapt_cons, adapt_cons]
    split
    next => rw [within.1.apply_append, ih within.2]
    next => exact ih within.2 first second

theorem notMem_adapt {line : List Char} (within : ∀ rule ∈ rules, rule.WithinLines)
    (absent : ∀ rule ∈ rules, '\n' ∉ rule.replacement) (stripping : Bool) (notMem : '\n' ∉ line) :
    '\n' ∉ adapt rules stripping line := by
  induction rules generalizing line with
  | nil => exact notMem
  | cons rule rules ih =>
    rw [List.forall_mem_cons] at within absent
    rw [adapt_cons]
    split
    next => exact ih within.2 absent.2 (within.1.notMem_apply absent.1 notMem)
    next => exact ih within.2 absent.2 notMem

theorem adapt_joinWith (within : ∀ rule ∈ rules, rule.WithinLines) (stripping : Bool)
    (first : List Char) (others : List (List Char)) :
    adapt rules stripping (first ++ joinWith '\n' others) =
      adapt rules stripping first ++ joinWith '\n' (others.map (adapt rules stripping)) := by
  induction others generalizing first with
  | nil => simp [joinWith]
  | cons line others ih =>
    have split : ∀ (line : List Char) others, joinWith '\n' (line :: others) =
        '\n' :: (line ++ joinWith '\n' others) := fun _ _ => rfl
    rw [split, adapt_append_newline within, ih, List.map_cons, split]

/-- The lines of an adapted text are the adapted lines of the text. -/
theorem pieces_adapt (within : ∀ rule ∈ rules, rule.WithinLines)
    (absent : ∀ rule ∈ rules, '\n' ∉ rule.replacement) (stripping : Bool) (text : List Char) :
    pieces '\n' (adapt rules stripping text) =
      (pieces '\n' text).map (adapt rules stripping) := by
  have whole : ∀ line ∈ (pieces '\n' text).map (adapt rules stripping), '\n' ∉ line := by
    intro line member
    obtain ⟨before, piece, rfl⟩ := List.mem_map.1 member
    exact notMem_adapt within absent stripping (notMem_of_mem_pieces piece)
  rw [pieces, List.map_cons, List.forall_mem_cons] at whole
  have joined : adapt rules stripping text =
      adapt rules stripping (splitOn '\n' text).1 ++
        joinWith '\n' ((splitOn '\n' text).2.map (adapt rules stripping)) := by
    rw [← adapt_joinWith within, splitOn_append_joinWith]
  rw [joined, pieces, splitOn_joinWith whole.1 whole.2]
  rfl

/-- Where the names that the rules look for have no line break, adapting works on each line by
itself; where no name has one, each line of the adapted text is the adapted line of the text. -/
theorem adapted_line_by_line {names : Vocabulary}
    (oneLine : ∀ name ∈ [names.projectToken, names.twinToken, names.displayQualifier,
      names.umbrellaHeader], '\n' ∉ name.toList) (stripping : Bool) :
    (∀ first second, adapt (Rule.standard names) stripping (first ++ '\n' :: second) =
      adapt (Rule.standard names) stripping first ++
        '\n' :: adapt (Rule.standard names) stripping second) ∧
    ('\n' ∉ names.displayName.toList → '\n' ∉ names.twinUmbrellaHeader.toList → ∀ text,
      pieces '\n' (adapt (Rule.standard names) stripping text) =
        (pieces '\n' text).map (adapt (Rule.standard names) stripping)) := by
  have within := Rule.withinLines_standard oneLine
  refine ⟨adapt_append_newline within stripping, fun display umbrella => ?_⟩
  simp only [List.forall_mem_cons] at oneLine
  obtain ⟨_, twin, qualifier, _⟩ := oneLine
  refine pieces_adapt within (Rule.notMem_replacement_standard ?_) stripping
  simp only [List.forall_mem_cons]
  exact ⟨twin, display, qualifier, umbrella, nofun⟩

theorem adapted_line_by_line_header :
    (∀ name ∈ ["hazel", "HazelInternalTests", "Language", "hazel.h"], '\n' ∉ name.toList) ∧
    adapt (Rule.standard {}) true "static int f;\nstatic inline\nhazel;".toList =
      "int f;".toList ++ '\n' :: "inline\nHazelInternalTests;".toList ∧
    pieces '\n' (adapt (Rule.standard {}) true "static int f;\nstatic inline\nhazel;".toList) =
      ["int f;".toList, "inline".toList, "HazelInternalTests;".toList] := by
  let names : Vocabulary := {}
  have oneLine : ∀ name ∈ [names.projectToken, names.twinToken, names.displayQualifier,
      names.umbrellaHeader], '\n' ∉ name.toList := by decide
  obtain ⟨divides, lines⟩ := adapted_line_by_line oneLine true
  refine ⟨oneLine, ?_, ?_⟩
  · have whole := divides "static int f;".toList "static inline\nhazel;".toList
    exact whole.trans (by decide)
  · rw [lines (by decide) (by decide)]
    decide

end TwinTree
