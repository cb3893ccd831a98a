import TwinTree.Proofs.ProjectNames
import TwinTree.Proofs.References
import TwinTree.Proofs.Text.Table

/-!
# All rules in one pass

Where keywords stay, the rules for the names of the project and the rule for comments come to one
pass over the text as it was (`adapted_in_one_pass`). No rule makes anything that a later one finds,
except the name of the twin where the qualifier comes behind it, for which the table of the pass has
an entry of its own. The steps say what the rules do where an entry of the table stands and where
none does, and with them the pass is the only function that does the same.
-/
namespace TwinTree

/-- What becomes of the names of the project and of a quoted name in a comment. -/
def namesTable : Table :=
  [("hazel Language".toList, "Hazel Language".toList),
   ("HazelInternalTests Language".toList, "Hazel Language".toList),
   ("hazel".toList, "HazelInternalTests".toList),
   ("// \"C\"".toList, "// extern \"C\"".toList)]

/-- The rule for comments, over what the rules for the names leave. -/
theorem adapt_eq_comp :
    adapt (Rule.standard {}) false =
      replaceLiteral "// \"C\"".toList "// extern \"C\"".toList ∘ renamedToken :=
  funext adapt_eq_marked

variable {text rest piece : List Char} {c : Char}

/-! ### Pieces that part a text -/

theorem carries_renamedToken (token : Parted "hazel".toList piece)
    (phrase : Parted "HazelInternalTests Language".toList piece) :
    Carries renamedToken piece piece :=
  (carries_of_parted (by decide) phrase).comp (carries_of_parted (by decide) token)

/-- However the phrase is written, it becomes the displayed name in front of the qualifier. -/
theorem carries_phrase : ∀ phrase ∈ ["hazel Language".toList,
    "HazelInternalTests Language".toList, "Hazel Language".toList],
    Carries (adapt (Rule.standard {}) false) phrase "Hazel Language".toList := by
  have marked : Carries (replaceLiteral "// \"C\"".toList "// extern \"C\"".toList)
      "Hazel Language".toList "Hazel Language".toList := carries_of_parted (by decide) (by decide)
  have restored : Carries (replaceLiteral "HazelInternalTests Language".toList
      "Hazel Language".toList) "HazelInternalTests Language".toList "Hazel Language".toList :=
    carries_pattern (by decide) (by decide)
  have named : Carries (replaceLiteral "hazel".toList "HazelInternalTests".toList)
      ("hazel".toList ++ " Language".toList) ("HazelInternalTests".toList ++ " Language".toList) :=
    .append rfl (carries_pattern (by decide) (by decide))
      (carries_of_parted (by decide) (by decide))
  simp only [List.forall_mem_cons, adapt_eq_comp]
  refine ⟨marked.comp (restored.comp named), marked.comp (restored.comp ?_), marked.comp ?_,
    List.forall_mem_nil _⟩
  · exact carries_of_parted (by decide) (by decide)
  · exact carries_renamedToken (by decide) (by decide)

theorem carries_mark :
    Carries (adapt (Rule.standard {}) false) "// \"C\"".toList "// extern \"C\"".toList := by
  rw [adapt_eq_comp]
  exact (carries_pattern (by decide) (by decide)).comp
    (carries_renamedToken (by decide) (by decide))

/-- The phrase ends as one of the keywords begins, and so does what is put in for it. -/
theorem keeps_keyword : ∀ keyword ∈ ["static ".toList, "inline ".toList, "extern ".toList],
    Keeps (adapt (Rule.standard {}) false) keyword := by
  have parted : ∀ keyword ∈ ["static ".toList, "inline ".toList, "extern ".toList],
      keyword ≠ [] ∧ Parted "hazel".toList keyword ∧
        Parted "HazelInternalTests Language".toList keyword.tail ∧
        Parted "// \"C\"".toList keyword := by
    decide
  have sameEnd : "Hazel Language".toList.getLast? =
      "HazelInternalTests Language".toList.getLast? := by decide
  intro keyword member
  obtain ⟨nonempty, token, phrase, mark⟩ := parted keyword member
  obtain ⟨first, others, rfl⟩ := List.exists_cons_of_ne_nil nonempty
  have named : Keeps (replaceLiteral "hazel".toList "HazelInternalTests".toList)
      (first :: others) := (carries_of_parted (by decide) token).keeps
  have restored : Keeps (replaceLiteral "HazelInternalTests Language".toList
      "Hazel Language".toList) (first :: others) :=
    keeps_of_sameEnd (by decide) phrase fun c => congrArg (·.or c) sameEnd
  have marked : Keeps (replaceLiteral "// \"C\"".toList "// extern \"C\"".toList)
      (first :: others) := (carries_of_parted (by decide) mark).keeps
  rw [adapt_eq_comp]
  exact marked.comp (restored.comp named)

/-! ### What the rules do at a place -/

private theorem adapt_token_append (unqualified : ¬ " Language".toList <+: rest) :
    adapt (Rule.standard {}) false ("hazel".toList ++ rest) =
      "HazelInternalTests".toList ++ adapt (Rule.standard {}) false rest := by
  generalize named_eq : replaceLiteral "hazel".toList "HazelInternalTests".toList rest = named
  have token : replaceLiteral "hazel".toList "HazelInternalTests".toList ("hazel".toList ++ rest) =
      "HazelInternalTests".toList ++ named := by
    rw [replaceLiteral_pattern_append (by decide), named_eq]
  -- The name of the twin has been put in, but the qualifier does not come behind it.
  have kept : ¬ "HazelInternalTests Language".toList <+:
      'H' :: ("azelInternalTests".toList ++ named) := by
    intro starts
    have qualified : "HazelInternalTests".toList ++ " Language".toList <+:
        "HazelInternalTests".toList ++ named := starts
    rw [List.prefix_append_right_inj, ← named_eq] at qualified
    exact unqualified (prefix_of_prefix_replaceLiteral (by decide) (by decide) qualified)
  have shown : replaceLiteral "HazelInternalTests Language".toList "Hazel Language".toList
      ("HazelInternalTests".toList ++ named) = "HazelInternalTests".toList ++
        replaceLiteral "HazelInternalTests Language".toList "Hazel Language".toList named := by
    have initial : "HazelInternalTests".toList = ['H'] ++ "azelInternalTests".toList := by decide
    rw [initial, List.append_assoc, List.singleton_append, replaceLiteral_cons kept,
      replaceLiteral_piece_append (by decide) (by decide), List.append_assoc,
      List.singleton_append]
  rw [adapt_eq_marked, adapt_eq_marked, renamedToken, renamedToken, token, named_eq, shown,
    replaceLiteral_piece_append (by decide) (by decide)]

/-- Where an entry of the table is taken, it is put in. -/
private theorem adapt_entry_append {entry : List Char × List Char}
    (found : namesTable.entryAt? (entry.1 ++ rest) = some entry) :
    adapt (Rule.standard {}) false (entry.1 ++ rest) =
      entry.2 ++ adapt (Rule.standard {}) false rest := by
  have member : entry ∈ namesTable := List.mem_of_find?_eq_some found
  simp only [namesTable, List.mem_cons, List.not_mem_nil, or_false] at member
  rcases member with rfl | rfl | rfl | rfl
  · exact (carries_phrase _ (by decide)).piece_append (adapt_nil _ _) rest
  · exact (carries_phrase _ (by decide)).piece_append (adapt_nil _ _) rest
  · refine adapt_token_append fun qualified => ?_
    -- The phrase comes before the token in the table.
    obtain ⟨behind, rfl⟩ := qualified
    have first : namesTable.entryAt? ("hazel Language".toList ++ behind) =
        some ("hazel Language".toList, "Hazel Language".toList) :=
      List.find?_cons_of_pos (List.isPrefixOf_iff_prefix.2 (List.prefix_append _ behind))
    have same := first.symm.trans found
    revert same
    decide
  · exact carries_mark.piece_append (adapt_nil _ _) rest

/-- Where no entry of the table stands, the character stays. -/
private theorem adapt_cons_of_absent (absent : ∀ entry ∈ namesTable, ¬ entry.1 <+: c :: rest) :
    adapt (Rule.standard {}) false (c :: rest) = c :: adapt (Rule.standard {}) false rest := by
  simp only [namesTable, List.forall_mem_cons] at absent
  obtain ⟨_, phrase, token, mark, _⟩ := absent
  -- What has been put in further on does not make a pattern stand here.
  have noPhrase := not_prefix_cons_replaceLiteral (by decide : "hazel".toList ≠ [])
    (by decide : Apart "HazelInternalTests".toList _) phrase
  have noMark := not_prefix_cons_replaceLiteral
    (by decide : "HazelInternalTests Language".toList ≠ [])
    (by decide : Apart "Hazel Language".toList _)
    (not_prefix_cons_replaceLiteral (by decide : "hazel".toList ≠ [])
      (by decide : Apart "HazelInternalTests".toList _) mark)
  rw [adapt_eq_marked, adapt_eq_marked, renamedToken, renamedToken, replaceLiteral_cons token,
    replaceLiteral_cons noPhrase, replaceLiteral_cons noMark]

theorem adapt_eq_replaceTable (text : List Char) :
    adapt (Rule.standard {}) false text = replaceTable namesTable text := by
  refine eq_replaceTable (by decide) (adapt_nil _ _) (fun _ _ _ => adapt_entry_append)
    (fun c rest none => ?_) text
  refine adapt_cons_of_absent fun entry member starts => ?_
  have refused := List.find?_eq_none.1 none entry member
  exact refused (List.isPrefixOf_iff_prefix.2 starts)

/-! ### Adapted content where keywords stay -/

/-- The phrase is left in no other form than the displayed one. -/
theorem not_phrase_adapt : ∀ phrase ∈ ["hazel Language".toList,
    "HazelInternalTests Language".toList], ¬ phrase <:+: adapt (Rule.standard {}) false text := by
  have marked := replaced_replaceLiteral (by decide : "// \"C\"".toList ≠ [])
    "// extern \"C\"".toList (renamedToken text)
  simp only [List.forall_mem_cons, adapt_eq_marked]
  refine ⟨fun within => ?_, fun within => ?_, List.forall_mem_nil _⟩
  · have token : "hazel".toList <:+: "hazel Language".toList := by decide
    exact not_token_renamedToken text
      (token.trans (marked.infix_of_apart (by decide) (by decide) within))
  · exact not_phrase_renamedToken text (marked.infix_of_apart (by decide) (by decide) within)

/-- Where keywords stay, the rules are one pass over the text with a table: a phrase of the token or
of the twin's name and the qualifier becomes the displayed name and the qualifier, any other token
becomes the twin's name, and a quoted name in a comment is marked. So every keyword stays, with what
becomes of the text behind it, the phrase is always the displayed one, and the rule for the umbrella
header never gets to see the header. -/
theorem adapted_in_one_pass (text : List Char) :
    adapt (Rule.standard {}) false text = replaceTable namesTable text ∧
    (∀ keyword ∈ ["static ".toList, "inline ".toList, "extern ".toList],
      occurrences keyword text ≤ occurrences keyword (adapt (Rule.standard {}) false text) ∧
      ∀ before behind, text = before ++ (keyword ++ behind) →
        ∃ front, adapt (Rule.standard {}) false text =
          front ++ (keyword ++ adapt (Rule.standard {}) false behind)) ∧
    (∀ phrase ∈ ["hazel Language".toList, "HazelInternalTests Language".toList,
      "Hazel Language".toList], ∀ before behind, text = before ++ (phrase ++ behind) →
        adapt (Rule.standard {}) false text = adapt (Rule.standard {}) false before ++
          ("Hazel Language".toList ++ adapt (Rule.standard {}) false behind)) ∧
    (∀ phrase ∈ ["hazel Language".toList, "HazelInternalTests Language".toList],
      ¬ phrase <:+: adapt (Rule.standard {}) false text) ∧
    ∀ stripping, ¬ "hazel.h".toList <:+:
      seenBy "umbrella-header" (Rule.standard {}) stripping text := by
  refine ⟨adapt_eq_replaceTable text, fun keyword member => ⟨?_, ?_⟩, ?_, not_phrase_adapt,
    fun stripping => not_umbrella_seen stripping text⟩
  · have alone : ∀ keyword ∈ ["static ".toList, "inline ".toList, "extern ".toList],
        keyword ≠ [] ∧ Apart keyword keyword.tail := by decide
    obtain ⟨nonempty, apart⟩ := alone keyword member
    exact (keeps_keyword keyword member).occurrences_le nonempty apart text
  · rintro before behind rfl
    exact keeps_keyword keyword member before behind
  · rintro phrase member before behind rfl
    exact carries_phrase phrase member before behind

theorem adapted_in_one_pass_banner :
    adapt (Rule.standard {}) false "hazel Language // \"C\" static hazel.h".toList =
        replaceTable namesTable "hazel Language // \"C\" static hazel.h".toList ∧
      adapt (Rule.standard {}) false "hazel Language // \"C\" static hazel.h".toList =
        "Hazel Language // extern \"C\" static HazelInternalTests.h".toList ∧
      (∃ front, adapt (Rule.standard {}) false "hazel Language // \"C\" static hazel.h".toList =
        front ++ ("static ".toList ++ adapt (Rule.standard {}) false "hazel.h".toList)) ∧
      adapt (Rule.standard {}) false "hazel Language // \"C\" static hazel.h".toList =
        adapt (Rule.standard {}) false [] ++ ("Hazel Language".toList ++
          adapt (Rule.standard {}) false " // \"C\" static hazel.h".toList) := by
  obtain ⟨onePass, keywords, phrases, _, _⟩ :=
    adapted_in_one_pass "hazel Language // \"C\" static hazel.h".toList
  refine ⟨onePass, by decide +kernel, ?_, ?_⟩
  · exact (keywords "static ".toList (by decide)).2 "hazel Language // \"C\" ".toList
      "hazel.h".toList (by decide +kernel)
  · exact phrases "hazel Language".toList (by decide) [] _ (by decide +kernel)

end TwinTree
