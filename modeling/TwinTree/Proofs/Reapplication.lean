import TwinTree.Proofs.ProjectNames
import TwinTree.Proofs.References
import TwinTree.Proofs.Stripping
import TwinTree.Proofs.Text.Cutting

/-!
# Adapting what has been adapted

The rules take `extern` out and put it in again, and rename the project and restore its name, so a
second time they undo and redo what they have done the first time. Where no keywords are stripped,
they end where they began. Where keywords are stripped, that fails in two ways: a keyword that stood
between the name of the twin and the qualifier leaves a phrase that the first time has not been
seen, and an `extern` that has been put in right behind a word is not taken out again. These are the
only ways (`adapted_again_iff`).
-/
namespace TwinTree

variable {text left before behind : List Char} {previous : Option Char} {c : Char}

/-! ### The rules of a stripping run, in two halves -/

/-- The keywords that are cut out, in order. -/
def strippedKeywords : List (List Char) := "static inline".toList :: linkageKeywords

/-- Puts `extern` in front of an opened block, and then of a name that a comment quotes. -/
def restoreExtern (text : List Char) : List Char :=
  replaceLiteral "// \"C\"".toList "// extern \"C\"".toList
    (replaceLiteral "\"C\" \x7b".toList "extern \"C\" \x7b".toList text)

theorem adapt_eq_restoreExtern (text : List Char) :
    adapt (Rule.standard {}) true text =
      restoreExtern (cutKeywords strippedKeywords (renamedToken text)) := by
  rw [← replaceLiteral_umbrella_renamedToken text]
  rfl

theorem replaced_opened (text : List Char) :
    Replaced "\"C\" \x7b".toList ("extern ".toList ++ "\"C\" \x7b".toList) text
      (replaceLiteral "\"C\" \x7b".toList "extern \"C\" \x7b".toList text) :=
  replaced_replaceLiteral (by decide) _ text

theorem replaced_marked (text : List Char) :
    Replaced "// \"C\"".toList "// extern \"C\"".toList text
      (replaceLiteral "// \"C\"".toList "// extern \"C\"".toList text) :=
  replaced_replaceLiteral (by decide) _ text

/-- Adapted content does not hold the token of the project. -/
theorem not_token_adapt (text : List Char) :
    ¬ "hazel".toList <:+: adapt (Rule.standard {}) true text :=
  not_infix_adapt_of_replaced isKeyword_token (by decide) (by decide) spares_token true text

/-! ### A second time, without stripping -/

theorem adapt_again_of_keeping (text : List Char) :
    adapt (Rule.standard {}) false (adapt (Rule.standard {}) false text) =
      adapt (Rule.standard {}) false text := by
  have marked := replaced_marked (renamedToken text)
  rw [adapt_eq_marked, adapt_eq_marked text]
  -- What comments are marked with makes neither the token nor the phrase.
  have unnamed : Unnamed (replaceLiteral "// \"C\"".toList "// extern \"C\"".toList
      (renamedToken text)) :=
    ⟨fun within => not_token_renamedToken text
        (marked.infix_of_apart (by decide) (by decide) within),
      fun within => not_phrase_renamedToken text
        (marked.infix_of_apart (by decide) (by decide) within)⟩
  rw [renamedToken_eq_self_iff.2 unnamed]
  exact replaceLiteral_of_absent (marked.absent (by decide) (by decide) (by decide))

/-! ### Words in front of a block -/

/-- A text that begins with no word character does not begin inside a word and what follows it. -/
private theorem apart_cons_of_isWord {other piece : List Char} (letter : isWord c = true)
    (nonempty : other ≠ []) (outside : isWordBefore other.head? = false)
    (apart : Apart other piece) : Apart other (c :: piece) := by
  obtain ⟨first, others, rfl⟩ := List.exists_cons_of_ne_nil nonempty
  have different : first ≠ c := by
    rintro rfl
    simp [isWordBefore, letter] at outside
  intro final member
  rw [List.tails_cons, List.mem_cons] at member
  rcases member with rfl | later
  · refine fun _ => ⟨fun starts => ?_, fun starts => ?_⟩
    · exact different (List.cons_prefix_cons.1 starts).1.symm
    · exact different (List.cons_prefix_cons.1 starts).1
  · exact apart final later

/-- Marking comments leaves a block that is opened right behind a word as it is. -/
private theorem infix_marked_iff (letter : isWord c = true) :
    c :: "extern \"C\" \x7b".toList <:+:
        replaceLiteral "// \"C\"".toList "// extern \"C\"".toList text ↔
      c :: "extern \"C\" \x7b".toList <:+: text := by
  have apart : ∀ other ∈ ["// \"C\"".toList, "// extern \"C\"".toList],
      Apart other (c :: "extern \"C\" \x7b".toList) ∧
        Apart (c :: "extern \"C\" \x7b".toList) other := by
    intro other member
    have begins : other ≠ [] ∧ isWordBefore other.head? = false ∧
        Apart other "extern \"C\" \x7b".toList := by
      revert other
      decide
    refine ⟨apart_cons_of_isWord letter begins.1 begins.2.1 begins.2.2, fun final within nonempty =>
      ?_⟩
    -- An end of what marks a comment that begins with a word does not go on with `extern`.
    have onward : ∀ other ∈ ["// \"C\"".toList, "// extern \"C\"".toList],
        ∀ final ∈ other.tails, isWordBefore final.head? = true →
          ¬ final.tail <+: "extern \"C\" \x7b".toList ∧
          ¬ "extern \"C\" \x7b".toList <+: final.tail := by
      decide
    obtain ⟨first, others, rfl⟩ := List.exists_cons_of_ne_nil nonempty
    refine ⟨fun starts => ?_, fun starts => ?_⟩
    · obtain ⟨rfl, further⟩ := List.cons_prefix_cons.1 starts
      exact (onward other member _ within letter).1 further
    · obtain ⟨rfl, further⟩ := List.cons_prefix_cons.1 starts
      exact (onward other member _ within letter).2 further
  simp only [List.forall_mem_cons] at apart
  obtain ⟨⟨pattern, pattern'⟩, ⟨replacement, replacement'⟩, _⟩ := apart
  exact ⟨(replaced_marked text).infix_of_apart replacement replacement',
    (replaced_marked text).infix_left_of_apart pattern pattern'⟩

/-- Marking comments puts no quoted name of a block behind a word. -/
private theorem infix_of_marked (letter : isWord c = true)
    (within : c :: "\"C\" \x7b".toList <:+:
      replaceLiteral "// \"C\"".toList "// extern \"C\"".toList text) :
    c :: "\"C\" \x7b".toList <:+: text := by
  refine (replaced_marked text).infix_of_ends
    (apart_cons_of_isWord letter (by decide) (by decide) (by decide)) ?_ within
  -- A mark ends as the text that it replaces, and no longer end of it goes on with the name.
  have shared : ∀ final ∈ "// extern \"C\"".toList.tails, isWordBefore final.head? = true →
      final.tail <+: "\"C\" \x7b".toList ∨ "\"C\" \x7b".toList <+: final.tail →
        final <:+ "// \"C\"".toList := by
    decide
  intro final member nonempty overlaps
  obtain ⟨first, others, rfl⟩ := List.exists_cons_of_ne_nil nonempty
  rcases overlaps with starts | starts
  · obtain ⟨rfl, further⟩ := List.cons_prefix_cons.1 starts
    exact shared _ member letter (.inl further)
  · obtain ⟨rfl, further⟩ := List.cons_prefix_cons.1 starts
    exact shared _ member letter (.inr further)

/-- A block that is opened right behind a word was so before `extern` was put in between. -/
private theorem infix_of_restoreExtern_opened (letter : isWord c = true)
    (within : c :: "extern \"C\" \x7b".toList <:+: restoreExtern text) :
    c :: "\"C\" \x7b".toList <:+: text := by
  rw [restoreExtern, infix_marked_iff letter] at within
  obtain ⟨before, behind, split⟩ := within
  have opened := replaced_opened text
  have place : replaceLiteral "\"C\" \x7b".toList "extern \"C\" \x7b".toList text =
      before ++ [c] ++ "extern ".toList ++ "\"C\" \x7b".toList ++ behind := by
    rw [← split]
    simp
  rw [place] at opened
  obtain ⟨front, inner, final, rfl, same, onward⟩ :=
    opened.exists_of_prefixed (by decide) (by decide) (by decide)
  obtain rfl := List.append_cancel_right same
  -- What has been put in ends as what it replaces, so the word is the last thing before the block.
  have last := onward.getLast?_or_eq (fun _ => by rfl) none
  rw [List.getLast?_concat, Option.some_or, Option.or_none] at last
  obtain ⟨others, rfl⟩ := List.getLast?_eq_some_iff.1 last.symm
  exact ⟨others, final, by simp⟩

/-- No block is opened right behind a word once `extern` has been put in. -/
private theorem not_infix_restoreExtern (letter : isWord c = true) :
    ¬ c :: "\"C\" \x7b".toList <:+: restoreExtern text := by
  intro within
  obtain ⟨before, behind, split⟩ := infix_of_marked letter within
  have opened := replaced_opened text
  have place : replaceLiteral "\"C\" \x7b".toList "extern \"C\" \x7b".toList text =
      before ++ [c] ++ "\"C\" \x7b".toList ++ behind := by
    rw [← split]
    simp
  rw [place] at opened
  obtain ⟨front, inner, final, rfl, same, onward⟩ :=
    opened.exists_of_prefixed (by decide) (by decide) (by decide)
  have last := congrArg List.getLast? same
  rw [List.getLast?_concat, List.getLast?_append] at last
  obtain rfl : c = ' ' := Option.some.inj last
  revert letter
  decide

/-! ### Taking `extern` out again -/

/-- Where no block is opened right behind a word, cutting `extern` takes back what has been put in
front of the blocks. -/
private theorem cut_of_opened
    (replaced : Replaced "\"C\" \x7b".toList ("extern ".toList ++ "\"C\" \x7b".toList) text left)
    (gone : ∀ before behind, ¬ WordAt "extern".toList previous before text behind)
    (free : ∀ before behind,
      left = before ++ ("extern ".toList ++ "\"C\" \x7b".toList) ++ behind →
        isWordBefore (before.getLast?.or previous) = false) :
    Cut "extern".toList previous left text := by
  induction replaced generalizing previous with
  | done => exact .done
  | @keep c rest left kept replaced ih =>
    refine .keep (fun stands => ?_) (ih (fun before behind stands => gone _ _ stands.later) ?_)
    · -- An `extern` that begins in what was kept would have been there before.
      obtain ⟨outside, final, split⟩ := stands
      obtain ⟨rfl, left_eq⟩ := List.cons.inj split
      obtain rfl : left = "xtern ".toList ++ final := left_eq.symm
      obtain ⟨others, rfl, _⟩ := replaced.exists_of_append (by decide)
      exact gone [] others (.here outside)
    · rintro before behind rfl
      rw [← getLast?_cons_or]
      exact free (c :: before) behind rfl
  | @replace rest left replaced ih =>
    have outside : isWordBefore previous = false := free [] left rfl
    have onward : Cut "extern".toList (some '\x7b') left rest := by
      refine ih (fun before behind stands => ?_) ?_
      · exact gone ("\"C\" \x7b".toList ++ before) behind
          (WordAt.append "\"C\" \x7b".toList (stands.congr_previous rfl))
      · rintro before behind rfl
        have whole := free ("extern \"C\" \x7b".toList ++ before) behind (by simp)
        rwa [List.getLast?_append, Option.or_assoc] at whole
    rw [List.append_assoc]
    exact .cut outside (.append "\"C\" \x7b".toList (by decide) onward)

/-- Cutting `extern` takes back what comments have been marked with. -/
private theorem cut_of_marked {result : List Char}
    (replaced : Replaced "// \"C\"".toList "// extern \"C\"".toList text left)
    (cuts : Cut "extern".toList previous text result) :
    Cut "extern".toList previous left result := by
  induction replaced generalizing previous result with
  | done => exact cuts
  | @keep c rest left kept replaced ih =>
    generalize whole : c :: rest = source at cuts
    cases cuts with
    | done => cases whole
    | keep stays onward =>
      obtain ⟨rfl, rfl⟩ := List.cons.inj whole
      refine .keep (fun ⟨outside, final, split⟩ => ?_) (ih onward)
      obtain ⟨rfl, left_eq⟩ := List.cons.inj split
      obtain rfl : left = "xtern ".toList ++ final := left_eq.symm
      obtain ⟨others, rfl, _⟩ := replaced.exists_of_append (by decide)
      exact stays ⟨outside, others, rfl⟩
    | @cut _ further _ outside onward =>
      -- Nothing is put into a keyword, so it stands in the marked text too.
      obtain ⟨rfl, rest_eq⟩ := List.cons.inj whole
      obtain rfl : rest = "xtern ".toList ++ further := rest_eq
      obtain ⟨behind, rfl, _⟩ := replaced.append_of_apart (by decide)
      have inner : Cut "extern".toList (some 'e') ("xtern ".toList ++ behind)
          ("xtern ".toList ++ result) := ih (.append "xtern ".toList (by decide) onward)
      obtain ⟨_, same, final⟩ := inner.exists_of_append (by decide)
      obtain rfl := List.append_cancel_left same
      exact .cut outside final
  | @replace rest left replaced ih =>
    obtain ⟨others, rfl, onward⟩ := cuts.exists_of_append (by decide)
    have outside : isWordBefore (some ' ') = false := by decide
    have quoted : Cut "extern".toList (some ' ') ("extern \"C\"".toList ++ left)
        ("\"C\"".toList ++ others) :=
      .cut outside (.append "\"C\"".toList (by decide) (ih onward))
    exact .append "// ".toList (by decide) quoted

/-! ### A second time, with stripping -/

/-- Of the keywords only `extern` is left to be cut from adapted content. -/
private theorem cutKeywords_adapt (text : List Char) :
    cutKeywords strippedKeywords (adapt (Rule.standard {}) true text) =
      replaceKeyword "extern".toList [] (adapt (Rule.standard {}) true text) := by
  have gone : ∀ word ∈ ["static inline".toList, "static".toList, "inline".toList],
      replaceKeyword word [] (adapt (Rule.standard {}) true text) =
        adapt (Rule.standard {}) true text := by
    intro word member
    have starts : isWordBefore word.head? = true := by
      revert word
      decide
    refine (cut_replaceKeyword starts _).eq_of_absent fun before behind stands => ?_
    rcases List.mem_cons.1 member with rfl | single
    · -- The pair begins with a keyword that does not stand by itself either.
      obtain ⟨split, free⟩ := wordAt_iff.1 stands
      have first : WordAt "static".toList none before (adapt (Rule.standard {}) true text)
          ("inline ".toList ++ behind) := wordAt_iff.2 ⟨by simp [split], free⟩
      exact not_wordAt_adapt (by decide) first
    · exact not_wordAt_adapt single stands
  simp only [List.forall_mem_cons] at gone
  obtain ⟨pair, static, inline, _⟩ := gone
  rw [strippedKeywords, linkageKeywords, cutKeywords_cons, pair, cutKeywords_cons, static,
    cutKeywords_cons, inline]
  rfl

/-- What is left when `extern` is cut from adapted content is what it was put into. -/
private theorem replaceKeyword_adapt
    (free : ∀ c, isWord c = true →
      ¬ c :: "extern \"C\" \x7b".toList <:+: adapt (Rule.standard {}) true text) :
    replaceKeyword "extern".toList [] (adapt (Rule.standard {}) true text) =
      cutKeywords strippedKeywords (renamedToken text) := by
  rw [adapt_eq_restoreExtern] at free ⊢
  generalize cut_eq : cutKeywords strippedKeywords (renamedToken text) = stripped at free ⊢
  have gone : ∀ before behind, ¬ WordAt "extern".toList none before stripped behind := by
    intro before behind stands
    rw [← cut_eq, strippedKeywords, cutKeywords_cons] at stands
    exact not_wordAt_cutKeywords (by decide +kernel) (by decide +kernel) (by decide) stands
  refine (cut_replaceKeyword (by decide) (restoreExtern stripped)).unique ?_
  rw [restoreExtern]
  refine cut_of_marked (replaced_marked _) ?_
  refine cut_of_opened (replaced_opened stripped) gone fun before behind split => ?_
  -- A word in front of an opened block would still be there in the marked text.
  cases last : before.getLast? with
  | none => rfl
  | some c =>
    obtain ⟨front, rfl⟩ := List.getLast?_eq_some_iff.1 last
    cases letter : isWord c with
    | false => exact letter
    | true =>
      refine absurd ?_ (free c letter)
      rw [restoreExtern, infix_marked_iff letter, split]
      exact ⟨front, behind, by simp⟩

/-- What is adapted again changes where the phrase stands in it: the name of the twin is lost. -/
private theorem not_phrase_of_adapt_again
    (same : adapt (Rule.standard {}) true (adapt (Rule.standard {}) true text) =
      adapt (Rule.standard {}) true text) :
    ¬ "HazelInternalTests Language".toList <:+: adapt (Rule.standard {}) true text := by
  intro within
  have noToken := not_token_adapt text
  generalize adapt (Rule.standard {}) true text = adapted at same within noToken
  -- The letter `I` is in no rule but those for the name of the twin.
  have restored := ((replaced_replaceLiteral (by decide) "Hazel Language".toList
    adapted).count_add_le (c := 'I') (by decide)).2 within (by decide)
  have renamed : renamedToken adapted =
      replaceLiteral "HazelInternalTests Language".toList "Hazel Language".toList adapted := by
    rw [renamedToken, replaceLiteral_of_absent noToken]
  have cut : ∀ (keywords : List (List Char)) (text : List Char),
      (∀ keyword ∈ keywords, isWordBefore keyword.head? = true ∧ 'I' ∉ keyword ++ [' ']) →
      (cutKeywords keywords text).count 'I' = text.count 'I' := by
    intro keywords
    induction keywords with
    | nil => exact fun _ _ => rfl
    | cons keyword keywords ih =>
      intro text others
      rw [List.forall_mem_cons] at others
      exact (ih _ others.2).trans ((cut_replaceKeyword others.1.1 text).count_eq others.1.2)
  have opened := ((replaced_opened (cutKeywords strippedKeywords
    (renamedToken adapted))).count_add_le (c := 'I') (by decide)).1
  have marked := ((replaced_marked _).count_add_le (c := 'I') (by decide)).1.trans opened
  rw [cut _ _ (by decide), renamed] at marked
  have one : "HazelInternalTests Language".toList.count 'I' - "Hazel Language".toList.count 'I' =
      1 := by decide
  have again : (restoreExtern (cutKeywords strippedKeywords (renamedToken adapted))).count 'I' =
      adapted.count 'I' := by rw [← adapt_eq_restoreExtern, same]
  rw [restoreExtern, renamed] at again
  omega

/-- Adapting what has been adapted changes nothing where keywords stay. Where they are stripped, it
changes nothing just if the first time has left neither the name of the twin in front of the
qualifier nor a linkage block that opens right behind a word. -/
theorem adapted_again_iff (stripping : Bool) (text : List Char) :
    adapt (Rule.standard {}) stripping (adapt (Rule.standard {}) stripping text) =
        adapt (Rule.standard {}) stripping text ↔
      (stripping = true →
        ¬ "HazelInternalTests Language".toList <:+: adapt (Rule.standard {}) true text ∧
        ∀ c, isWord c = true →
          ¬ c :: "extern \"C\" \x7b".toList <:+: adapt (Rule.standard {}) true text) := by
  cases stripping with
  | false => exact iff_of_true (adapt_again_of_keeping text) nofun
  | true =>
    have unnamed : ¬ "HazelInternalTests Language".toList <:+: adapt (Rule.standard {}) true text →
        renamedToken (adapt (Rule.standard {}) true text) = adapt (Rule.standard {}) true text :=
      fun noPhrase => renamedToken_eq_self_iff.2 ⟨not_token_adapt text, noPhrase⟩
    constructor
    · intro same _
      have noPhrase := not_phrase_of_adapt_again same
      refine ⟨noPhrase, fun c letter within => ?_⟩
      -- The block has kept its distance from the word while `extern` was cut.
      rw [← same, adapt_eq_restoreExtern (adapt _ _ _), unnamed noPhrase,
        cutKeywords_adapt] at within
      have behind := infix_of_restoreExtern_opened letter within
      have quoted : ∀ front final,
          WordAt "extern".toList none front (adapt (Rule.standard {}) true text) final →
          ∀ a, final.head? = some a → a = '"' := by
        intro front final stands a first
        rcases opens_block_or_marks_adapt stands with starts | ⟨_, starts⟩
        · obtain ⟨others, rfl⟩ := starts
          exact (Option.some.inj first).symm
        · obtain ⟨others, rfl⟩ := starts
          exact (Option.some.inj first).symm
      have chain : (c :: '"' :: "C\" \x7b".toList).IsChain
          fun a b => isWord a = true ∨ ¬ b = '"' :=
        List.isChain_cons_cons.2 ⟨.inl letter, by decide⟩
      have before := (cut_replaceKeyword (by decide) _).infix_of_chain quoted chain behind
      rw [adapt_eq_restoreExtern] at before
      exact not_infix_restoreExtern letter before
    · intro settled
      obtain ⟨noPhrase, free⟩ := settled rfl
      rw [adapt_eq_restoreExtern (adapt _ _ _), unnamed noPhrase, cutKeywords_adapt,
        replaceKeyword_adapt free, ← adapt_eq_restoreExtern]

/-- A keyword between the name of the project and the qualifier, and a quoted name right behind a
word, each make a text that changes when it is adapted again. -/
theorem adapted_again_differs :
    adapt (Rule.standard {}) true (adapt (Rule.standard {}) true "hazel static Language".toList) ≠
        adapt (Rule.standard {}) true "hazel static Language".toList ∧
      adapt (Rule.standard {}) true (adapt (Rule.standard {}) true "f\"C\" \x7b".toList) ≠
        adapt (Rule.standard {}) true "f\"C\" \x7b".toList := by
  decide

end TwinTree
