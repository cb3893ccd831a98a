import TwinTree.Proofs.Lines

/-!
# The names of the project

The first rule takes the token of the project out of a text. The rules behind it put nothing in that
overlaps with the token, and the keywords that they cut leave no word that was not there, so the
token does not come back (`token_never_survives`). The umbrella header begins with the token, which
is gone when the rule for the header gets to see a text: the rule never finds the header, and the
name that the vocabulary has for the header of the twin is never written (`umbrella_name_ignored`).
-/
namespace TwinTree

variable {word text : List Char} {rules front others : List Rule} {stripping : Bool}

/-! ### Rules that make no word -/

namespace Rule

/-- A rule brings no word into a text: what it puts in does not overlap with the word, or it needs
the word to find anything, or it cuts a keyword. -/
inductive Spares (word : List Char) (rule : Rule) : Prop where
  | literal {pattern : List Char} : rule.pattern = .literal pattern →
      Apart rule.replacement word → Apart word rule.replacement → Spares word rule
  | needing {pattern : List Char} : rule.pattern = .literal pattern → word <:+: pattern →
      Spares word rule
  | keyword {cut : List Char} : rule.pattern = .keyword cut → rule.replacement = [] →
      isWordBefore cut.head? = true → Spares word rule

/-- A word that stands in what a sparing rule leaves stood in the text. -/
theorem Spares.infix_of_apply {rule : Rule} (spares : rule.Spares word)
    (letters : ∀ c ∈ word, isWord c = true) (within : word <:+: rule.apply text) :
    word <:+: text := by
  cases spares with
  | @literal pattern is apart apart' =>
    simp only [apply, is] at within
    by_cases empty : pattern = []
    · rwa [empty, replaceLiteral_empty] at within
    · exact (replaced_replaceLiteral empty _ text).infix_of_apart apart apart' within
  | @needing pattern is holds =>
    simp only [apply, is] at within
    by_cases found : pattern <:+: text
    · exact holds.trans found
    · rwa [replaceLiteral_of_absent found] at within
  | keyword is nothing starts =>
    simp only [apply, is, nothing] at within
    exact (cut_replaceKeyword starts text).infix_of_letters letters within

end Rule

/-- A word that stands in what sparing rules leave, one after the other, stood in the text. -/
theorem infix_of_adapt (letters : ∀ c ∈ word, isWord c = true)
    (spares : ∀ rule ∈ rules, rule.Spares word) (within : word <:+: adapt rules stripping text) :
    word <:+: text := by
  induction rules generalizing text with
  | nil => exact within
  | cons rule rules ih =>
    rw [List.forall_mem_cons] at spares
    rw [adapt_cons] at within
    have before := ih spares.2 within
    split at before
    next => exact spares.1.infix_of_apply letters before
    next => exact before

/-- A token that the first rule replaces does not stand in what sparing rules make of the rest. -/
theorem not_infix_adapt_of_replaced {label token twin : String} (isKeyword : IsKeyword token.toList)
    (apart : Apart twin.toList token.toList) (apart' : Apart token.toList twin.toList)
    (spares : ∀ rule ∈ rules, rule.Spares token.toList) (stripping : Bool) (text : List Char) :
    ¬ token.toList <:+: adapt (.literal label token twin .always :: rules) stripping text := by
  intro within
  rw [adapt_cons] at within
  exact (replaced_replaceLiteral isKeyword.ne_nil _ text).absent isKeyword.ne_nil apart apart'
    (infix_of_adapt isKeyword.letters spares within)

/-! ### The token -/

/-- No rule but the first has to do with the token. -/
theorem spares_token : ∀ rule ∈ (Rule.standard {}).tail, rule.Spares "hazel".toList := by
  simp only [Rule.standard, List.tail_cons, List.forall_mem_cons]
  -- The header of the twin ends as the token begins, but its rule looks for the token first.
  refine ⟨.literal rfl ?_ ?_, .needing rfl ?_, .keyword rfl rfl ?_, .keyword rfl rfl ?_,
    .keyword rfl rfl ?_, .keyword rfl rfl ?_, .literal rfl ?_ ?_, .literal rfl ?_ ?_,
    List.forall_mem_nil _⟩ <;>
    decide

theorem isKeyword_token : IsKeyword "hazel".toList := by decide

/-- The token of the project stands nowhere in adapted content, whether keywords are stripped or
not. -/
theorem token_never_survives (stripping : Bool) (text : List Char) :
    ¬ "hazel".toList <:+: adapt (Rule.standard {}) stripping text :=
  not_infix_adapt_of_replaced isKeyword_token (by decide) (by decide) spares_token stripping text

/-! ### The umbrella header -/

/-- What the rule with a label gets to see: what the rules in front of it make of a text. -/
def seenBy (label : String) (rules : List Rule) (stripping : Bool) (text : List Char) : List Char :=
  adapt (rules.takeWhile (·.label != label)) stripping text

theorem adapt_nil (rules : List Rule) (stripping : Bool) : adapt rules stripping [] = [] := by
  induction rules with
  | nil => rfl
  | cons rule rules ih =>
    have empty : rule.apply [] = [] := by
      unfold Rule.apply
      split <;> rfl
    rw [adapt_cons, empty, ite_self, ih]

theorem adapt_append (front others : List Rule) (stripping : Bool) (text : List Char) :
    adapt (front ++ others) stripping text =
      adapt others stripping (adapt front stripping text) := by
  simp only [adapt, List.filter_append, List.foldl_append]

/-- A rule that finds nothing may as well not be there, whatever it would put in. -/
theorem adapt_idle {rule : Rule} {pattern : List Char} (is : rule.pattern = .literal pattern)
    (absent : ¬ pattern <:+: adapt front stripping text) :
    adapt (front ++ rule :: others) stripping text = adapt (front ++ others) stripping text := by
  have idle : rule.apply (adapt front stripping text) = adapt front stripping text := by
    simp only [Rule.apply, is]
    exact replaceLiteral_of_absent absent
  rw [adapt_append, adapt_append, adapt_cons, idle, ite_self]

/-- The rule for the umbrella header never sees the header. -/
theorem not_umbrella_seen (stripping : Bool) (text : List Char) :
    ¬ "hazel.h".toList <:+: seenBy "umbrella-header" (Rule.standard {}) stripping text := by
  intro within
  have token : "hazel".toList <:+: "hazel.h".toList := by decide
  have spares : ∀ rule ∈ (Rule.standard {}).tail.take 1, rule.Spares "hazel".toList :=
    fun rule member => spares_token rule (List.mem_of_mem_take member)
  exact not_infix_adapt_of_replaced isKeyword_token (by decide) (by decide) spares stripping text
    (token.trans within)

/-- The directive by which a source includes a header. -/
def inclusion (header : String) : List Char :=
  "#include \"".toList ++ header.toList ++ "\"".toList

theorem adapt_inclusion (stripping : Bool) :
    adapt (Rule.standard {}) stripping (inclusion "hazel.h") =
      inclusion "HazelInternalTests.h" := by
  cases stripping <;> decide +kernel

theorem inclusion_inj {header other : String} :
    inclusion header = inclusion other ↔ header = other := by
  refine ⟨fun same => ?_, congrArg inclusion⟩
  have inner : header.toList = other.toList :=
    List.append_cancel_left (List.append_cancel_right same)
  exact String.toList_inj.1 inner

/-- The name that a vocabulary has for the umbrella header of the twin makes no difference to any
text. So an include of the umbrella header becomes one of the name just where the name is the one
that the rule for the token makes. -/
theorem umbrella_name_ignored (header : String) (stripping : Bool) :
    (∀ text, adapt (Rule.standard { twinUmbrellaHeader := header }) stripping text =
      adapt (Rule.standard {}) stripping text) ∧
    (adapt (Rule.standard { twinUmbrellaHeader := header }) stripping (inclusion "hazel.h") =
      inclusion header ↔ header = "HazelInternalTests.h") := by
  have ignored (text : List Char) :
      adapt (Rule.standard { twinUmbrellaHeader := header }) stripping text =
        adapt (Rule.standard {}) stripping text := by
    have absent := not_umbrella_seen stripping text
    calc adapt (Rule.standard { twinUmbrellaHeader := header }) stripping text
        = adapt ((Rule.standard {}).take 2 ++ (Rule.standard {}).drop 3) stripping text :=
          adapt_idle rfl absent
      _ = adapt (Rule.standard {}) stripping text := (adapt_idle rfl absent).symm
  refine ⟨ignored, ?_⟩
  rw [ignored, adapt_inclusion, inclusion_inj]
  exact eq_comm

/-- A name that is not taken up. -/
theorem umbrella_name_lost :
    ("twin.h".toList ≠ [] ∧ "twin.h".toList.all (fun c => c.isAlphanum || c == '_' || c == '.') ∧
      ¬ "hazel".toList <:+: "twin.h".toList) ∧
    ∀ stripping, adapt (Rule.standard { twinUmbrellaHeader := "twin.h" }) stripping
      (inclusion "hazel.h") ≠ inclusion "twin.h" := by
  decide +kernel

end TwinTree
