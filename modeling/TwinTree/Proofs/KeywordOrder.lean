import TwinTree.Proofs.Text.Sweep
import TwinTree.Rule

/-!
# The order of the keyword rules

Each rule that strips a keyword sees what the rules before it have left, but their order does not
matter: together they take out of the text what a single sweep takes out of it
(`keywords_stripped_at_once`). A rule for two keywords in a row takes nothing but what the rules for
each of them take.
-/
namespace TwinTree

/-- The rules that strip some keywords, each under a label. -/
def Rule.stripKeywords (keywords : List (String × String)) : List Rule :=
  keywords.map fun keyword => stripKeyword keyword.1 keyword.2

/-- The keywords themselves. -/
def keywordsOf (keywords : List (String × String)) : List (List Char) :=
  keywords.map fun keyword => keyword.2.toList

variable {keywords front behind : List (String × String)} {label pair : String}

theorem adapt_stripKeywords (keywords : List (String × String)) (text : List Char) :
    adapt (Rule.stripKeywords keywords) true text = cutKeywords (keywordsOf keywords) text := by
  have all : (Rule.stripKeywords keywords).filter (·.applies true) =
      Rule.stripKeywords keywords := by
    refine List.filter_eq_self.2 fun rule member => ?_
    obtain ⟨keyword, _, rfl⟩ := List.mem_map.1 member
    rfl
  rw [adapt, all, Rule.stripKeywords, cutKeywords, keywordsOf, List.foldl_map, List.foldl_map]
  rfl

theorem adapt_stripKeywords_eq_sweep (all : ∀ word ∈ keywordsOf keywords, IsKeyword word)
    (text : List Char) :
    adapt (Rule.stripKeywords keywords) true text = sweep (keywordsOf keywords) text := by
  rw [adapt_stripKeywords]
  exact cutKeywords_eq_sweep all (fun _ => .word) (List.Subset.refl _) text

/-- A rule for a phrase of some keywords may stand anywhere among the rules for the keywords. -/
theorem adapt_insert_phrase (all : ∀ word ∈ keywordsOf (front ++ behind), IsKeyword word)
    (made : IsPhrase (keywordsOf (front ++ behind)) pair.toList) (text : List Char) :
    adapt (Rule.stripKeywords (front ++ (label, pair) :: behind)) true text =
      sweep (keywordsOf (front ++ behind)) text := by
  have split : keywordsOf (front ++ (label, pair) :: behind) =
      keywordsOf front ++ pair.toList :: keywordsOf behind := by simp [keywordsOf]
  have whole : keywordsOf (front ++ behind) = keywordsOf front ++ keywordsOf behind := by
    simp [keywordsOf]
  rw [adapt_stripKeywords, split]
  refine cutKeywords_eq_sweep all (fun phrase member => ?_) ?_ text
  · rcases List.mem_append.1 member with before | after
    · exact .word (whole ▸ List.mem_append_left _ before)
    · rcases List.mem_cons.1 after with rfl | later
      · exact made
      · exact .word (whole ▸ List.mem_append_right _ later)
  · rw [whole]
    exact List.append_subset.2 ⟨List.subset_append_left _ _,
      fun _ later => List.mem_append_right _ (List.mem_cons_of_mem _ later)⟩

/-- The rules that strip keywords take out of a text all their whole words as they stand in it, in
whatever order the rules come. None of the words is left, and a rule for the pair `static inline`
makes no difference where both words have a rule of their own. -/
theorem keywords_stripped_at_once (keywords : List (String × String))
    (all : ∀ word ∈ keywordsOf keywords, IsKeyword word) (text : List Char) :
    adapt (Rule.stripKeywords keywords) true text = sweep (keywordsOf keywords) text ∧
    (∀ others : List (String × String), others.Perm keywords →
      adapt (Rule.stripKeywords others) true text =
        adapt (Rule.stripKeywords keywords) true text) ∧
    (∀ word ∈ keywordsOf keywords, ∀ before behind,
      ¬ WordAt word none before (adapt (Rule.stripKeywords keywords) true text) behind) ∧
    ∀ (label : String) (front behind : List (String × String)), keywords = front ++ behind →
      "static".toList ∈ keywordsOf keywords → "inline".toList ∈ keywordsOf keywords →
      adapt (Rule.stripKeywords (front ++ (label, "static inline") :: behind)) true text =
        adapt (Rule.stripKeywords keywords) true text := by
  refine ⟨adapt_stripKeywords_eq_sweep all text, ?_, ?_, ?_⟩
  · intro others perm
    have same : ∀ word, word ∈ keywordsOf others ↔ word ∈ keywordsOf keywords := fun word =>
      (perm.map _).mem_iff
    rw [adapt_stripKeywords_eq_sweep all, ← sweep_congr same]
    exact adapt_stripKeywords_eq_sweep (fun word member => all word ((same word).1 member)) text
  · intro word member before behind
    rw [adapt_stripKeywords]
    exact not_wordAt_cutKeywords (all word member) (fun other within => (all other within).starts)
      member
  · rintro label front behind rfl static inline
    have pair_eq : "static inline".toList = "static".toList ++ ' ' :: "inline".toList := by
      decide +kernel
    rw [adapt_stripKeywords_eq_sweep all]
    exact adapt_insert_phrase all (pair_eq ▸ .next static (.word inline)) text

theorem keywords_stripped_at_once_words :
    adapt (Rule.stripKeywords [("1", "inline"), ("2", "static"), ("3", "extern")]) true
        "static inline xstatic static  extern f".toList = "xstatic  f".toList ∧
      adapt (Rule.stripKeywords [("1", "inline"), ("0", "static inline"), ("2", "static"),
        ("3", "extern")]) true "static inline xstatic static  extern f".toList =
        "xstatic  f".toList := by
  have stripped : adapt (Rule.stripKeywords [("1", "inline"), ("2", "static"), ("3", "extern")])
      true "static inline xstatic static  extern f".toList = "xstatic  f".toList := by
    decide +kernel
  refine ⟨stripped, .trans ?_ stripped⟩
  exact (keywords_stripped_at_once [("1", "inline"), ("2", "static"), ("3", "extern")]
    (by decide +kernel) _).2.2.2 "0" [("1", "inline")] _ rfl (by decide +kernel) (by decide +kernel)

end TwinTree
