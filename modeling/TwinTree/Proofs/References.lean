import TwinTree.Proofs.Placement
import TwinTree.Proofs.Text.Occurrence
import TwinTree.Selection

/-!
# References to headers

A source refers to a header of the project by the token of the project and the way to the header.
Adapting changes the text of the reference, directory by directory as much as the name of the
header; the header itself keeps its directories in the twin and only its name may be another one.
So a reference follows its header into the twin just where the rules for the names of the project
find nothing in the way to it, or nothing but the umbrella header (`reference_follows_iff`).
-/
namespace TwinTree

/-- How a source refers to what stands beneath the root of a project. -/
def reference (project : String) (names : List Name) : List Char :=
  project.toList ++ joinWith '/' (names.map Utf8.lossy)

/-- What the rules for the token and the name of the project make of a text. -/
def renamedToken (text : List Char) : List Char :=
  replaceLiteral "HazelInternalTests Language".toList "Hazel Language".toList
    (replaceLiteral "hazel".toList "HazelInternalTests".toList text)

/-- The rules for the token and the name of the project find nothing in a text. -/
def Unnamed (text : List Char) : Prop :=
  ¬ "hazel".toList <:+: text ∧ ¬ "HazelInternalTests Language".toList <:+: text

instance (text : List Char) : Decidable (Unnamed text) := inferInstanceAs (Decidable (_ ∧ _))

variable {text name : List Char} {parts : List (List Char)}

/-! ### The token is gone -/

theorem not_token_renamedToken (text : List Char) : ¬ "hazel".toList <:+: renamedToken text := by
  intro within
  have restored := replaced_replaceLiteral
    (by decide : "HazelInternalTests Language".toList ≠ []) "Hazel Language".toList
    (replaceLiteral "hazel".toList "HazelInternalTests".toList text)
  have named := replaced_replaceLiteral (by decide : "hazel".toList ≠ [])
    "HazelInternalTests".toList text
  exact named.absent (by decide) (by decide) (by decide)
    (restored.infix_of_apart (by decide) (by decide) within)

theorem not_phrase_renamedToken (text : List Char) :
    ¬ "HazelInternalTests Language".toList <:+: renamedToken text :=
  (replaced_replaceLiteral (by decide) "Hazel Language".toList _).absent (by decide) (by decide)
    (by decide)

theorem renamedToken_eq_self_iff : renamedToken text = text ↔ Unnamed text := by
  constructor
  · intro same
    have noToken := not_token_renamedToken text
    have noPhrase := not_phrase_renamedToken text
    rw [same] at noToken noPhrase
    exact ⟨noToken, noPhrase⟩
  · rintro ⟨noToken, noPhrase⟩
    rw [renamedToken, replaceLiteral_of_absent noToken, replaceLiteral_of_absent noPhrase]

theorem renamedToken_joinWith (first : List Char) (parts : List (List Char)) :
    renamedToken (first ++ joinWith '/' parts) =
      renamedToken first ++ joinWith '/' (parts.map renamedToken) := by
  simp only [renamedToken]
  rw [replaceLiteral_joinWith (by decide) (by decide),
    replaceLiteral_joinWith (by decide) (by decide), List.map_map]
  rfl

/-- A name stays a name. -/
theorem solid_renamedToken (absent : '/' ∉ text) (nonempty : text ≠ []) :
    '/' ∉ renamedToken text ∧ renamedToken text ≠ [] := by
  have restored := replaced_replaceLiteral
    (by decide : "HazelInternalTests Language".toList ≠ []) "Hazel Language".toList
    (replaceLiteral "hazel".toList "HazelInternalTests".toList text)
  have named := replaced_replaceLiteral (by decide : "hazel".toList ≠ [])
    "HazelInternalTests".toList text
  constructor
  · intro member
    rcases restored.mem_or_mem member with before | inside
    · rcases named.mem_or_mem before with first | inside
      · exact absent first
      · revert inside
        decide
    · revert inside
      decide
  · intro empty
    change replaceLiteral _ _ _ = [] at empty
    rw [empty] at restored
    have before := restored.eq_nil (by decide)
    rw [before] at named
    exact nonempty (named.eq_nil (by decide))

/-! ### The rules on a reference -/

/-- The umbrella header begins with the token, and the token is gone. -/
theorem replaceLiteral_umbrella_renamedToken (text : List Char) :
    replaceLiteral "hazel.h".toList "HazelInternalTests.h".toList (renamedToken text) =
      renamedToken text :=
  replaceLiteral_of_absent fun within => not_token_renamedToken text
    ((by decide : "hazel".toList <:+: "hazel.h".toList).trans within)

/-- Where keywords stay, only comments are marked besides. -/
theorem adapt_eq_marked (text : List Char) :
    adapt (Rule.standard {}) false text =
      replaceLiteral "// \"C\"".toList "// extern \"C\"".toList (renamedToken text) := by
  rw [← replaceLiteral_umbrella_renamedToken text]
  rfl

/-- Where no comment begins, the other rules that apply everywhere find nothing. -/
theorem adapt_eq_renamedToken (noComment : ¬ "//".toList <:+: renamedToken text) :
    adapt (Rule.standard {}) false text = renamedToken text := by
  have noMarker : ¬ "// \"C\"".toList <:+: renamedToken text := fun within =>
    noComment ((by decide : "//".toList <:+: "// \"C\"".toList).trans within)
  rw [adapt_eq_marked, replaceLiteral_of_absent noMarker]

theorem adapt_reference (solid : ∀ part ∈ parts, '/' ∉ part ∧ part ≠ []) :
    adapt (Rule.standard {}) false ("hazel".toList ++ joinWith '/' parts) =
      "HazelInternalTests".toList ++ joinWith '/' (parts.map renamedToken) := by
  have whole : renamedToken ("hazel".toList ++ joinWith '/' parts) =
      "HazelInternalTests".toList ++ joinWith '/' (parts.map renamedToken) := by
    rw [renamedToken_joinWith]
    rfl
  rw [adapt_eq_renamedToken, whole]
  rw [whole]
  -- Two slashes in a row would be a name without text.
  refine not_infix_joinWith (by decide) fun part member => ?_
  obtain ⟨before, within, rfl⟩ := List.mem_map.1 member
  exact solid_renamedToken (solid before within).1 (solid before within).2

/-! ### The name of a header -/

/-- Of the renamings, only the first one fits the name of a header. -/
theorem rename_header (header : ".h".toList <:+ name ∨ ".hpp".toList <:+ name) :
    Renaming.rename ({} : Options).renamings name =
      if "hazel.h".toList <:+ name then "HazelInternalTests.h".toList else name := by
  -- Neither ending of a header ends the main file, nor the other way round.
  have other : ¬ "maininternaltests.c".toList <:+ name := by
    intro ends
    rcases header with plain | plus
    · rcases List.suffix_or_suffix_of_suffix plain ends with inside | inside <;> revert inside <;>
        decide
    · rcases List.suffix_or_suffix_of_suffix plus ends with inside | inside <;> revert inside <;>
        decide
  rw [rename_standard, if_neg other]

/-- Only the umbrella header itself becomes the umbrella header of the twin. -/
theorem eq_of_renamedToken_umbrella (ends : "hazel.h".toList <:+ name)
    (same : renamedToken name = "HazelInternalTests.h".toList) : name = "hazel.h".toList := by
  obtain ⟨front, rfl⟩ := ends
  have restored := replaced_replaceLiteral
    (by decide : "HazelInternalTests Language".toList ≠ []) "Hazel Language".toList
    (replaceLiteral "hazel".toList "HazelInternalTests".toList (front ++ "hazel.h".toList))
  have named := replaced_replaceLiteral (by decide : "hazel".toList ≠ [])
    "HazelInternalTests".toList (front ++ "hazel.h".toList)
  -- The name of the twin's umbrella header holds nothing that has been restored.
  change replaceLiteral _ _ _ = _ at same
  rw [same, ← List.append_nil "HazelInternalTests.h".toList] at restored
  obtain ⟨behind, split, onward⟩ := restored.exists_of_append (by decide)
  rw [split, onward.eq_nil (by decide), List.append_nil] at named
  -- A replaced token makes a name longer, so there is no room for more than one.
  have longer := (named.length_add_le (by decide)).2
    (List.infix_append_of_infix_right (by decide : "hazel".toList <:+: "hazel.h".toList))
    (by decide)
  have room : front = [] := by simpa using longer
  rw [room, List.nil_append]

theorem renamedToken_header_iff
    (header : ".h".toList <:+ name ∨ ".hpp".toList <:+ name) :
    renamedToken name = Renaming.rename ({} : Options).renamings name ↔
      name = "hazel.h".toList ∨ Unnamed name := by
  rw [rename_header header]
  by_cases umbrella : "hazel.h".toList <:+ name
  · rw [if_pos umbrella]
    constructor
    · exact fun same => .inl (eq_of_renamedToken_umbrella umbrella same)
    · rintro (rfl | ⟨noToken, _⟩)
      · decide
      · exact absurd ((by decide : "hazel".toList <:+: "hazel.h".toList).trans umbrella.isInfix)
          noToken
  · rw [if_neg umbrella, renamedToken_eq_self_iff]
    constructor
    · exact .inr
    · rintro (rfl | unnamed)
      · exact absurd (List.suffix_refl _) umbrella
      · exact unnamed

/-! ### References and places -/

/-- What follows a reference to a project tells the names apart by what they show. -/
theorem append_joinWith_inj {first : List Char} {others : List (List Char)} (absent : '/' ∉ first)
    (solid : ∀ part ∈ parts, '/' ∉ part) (solid' : ∀ part ∈ others, '/' ∉ part) :
    first ++ joinWith '/' parts = first ++ joinWith '/' others ↔ parts = others := by
  constructor
  · intro same
    have split := congrArg (splitOn '/') same
    rw [splitOn_joinWith absent solid, splitOn_joinWith absent solid'] at split
    exact congrArg Prod.snd split
  · rintro rfl
    rfl

/-- What a plain name shows has no slash in it, and there is something to show. -/
theorem solid_lossy {name : Name} (plain : IsPlain name) :
    '/' ∉ Utf8.lossy name ∧ Utf8.lossy name ≠ [] := by
  constructor
  · intro member
    exact plain.slash_notMem (Utf8.mem_of_mem_lossy ⟨by decide, by decide⟩ member)
  · intro nothing
    have written := (isPlain_encode_lossy plain).ne_nil
    rw [nothing] at written
    exact written rfl

/-- A reference to a header of the project, adapted, names the place of the header in the twin just
where the rules for the names of the project find nothing in the names on the way to it, and nothing
in its own or it is the umbrella header. -/
theorem reference_follows_iff {source twin path : Path} {trail : List Name} {name : Name}
    (beneath : Path.Beneath path source (trail ++ [name]))
    (header : ".h".toList <:+ Utf8.lossy name ∨ ".hpp".toList <:+ Utf8.lossy name) :
    Path.Beneath (Placement.file source twin ({} : Options).renamings path) twin
        (trail ++ [Placement.fileName ({} : Options).renamings name]) ∧
      (adapt (Rule.standard {}) false (reference "hazel" (trail ++ [name])) =
          reference "HazelInternalTests"
            (trail ++ [Placement.fileName ({} : Options).renamings name]) ↔
        (∀ part ∈ trail, Unnamed (Utf8.lossy part)) ∧
          (Utf8.lossy name = "hazel.h".toList ∨ Unnamed (Utf8.lossy name))) := by
  have placed : Path.Beneath (Placement.file source twin ({} : Options).renamings path) twin
      (trail ++ [Placement.fileName ({} : Options).renamings name]) :=
    Placement.beneath_file (by decide) beneath
  refine ⟨placed, ?_⟩
  have solid : ∀ part ∈ (trail ++ [name]).map Utf8.lossy, '/' ∉ part ∧ part ≠ [] := by
    intro part member
    obtain ⟨before, within, rfl⟩ := List.mem_map.1 member
    exact solid_lossy (beneath.plain before within)
  have noSlash : ∀ part ∈ ((trail ++ [name]).map Utf8.lossy).map renamedToken, '/' ∉ part := by
    intro part member
    obtain ⟨before, within, rfl⟩ := List.mem_map.1 member
    exact (solid_renamedToken (solid before within).1 (solid before within).2).1
  have noSlash' : ∀ part ∈ (trail ++ [Placement.fileName ({} : Options).renamings name]).map
      Utf8.lossy, '/' ∉ part := by
    intro part member
    obtain ⟨before, within, rfl⟩ := List.mem_map.1 member
    exact (solid_lossy (placed.plain before within)).1
  rw [reference, reference, adapt_reference solid, append_joinWith_inj (by decide) noSlash noSlash']
  -- Both lists have one text for each name, so they are compared name by name.
  rw [List.map_append, List.map_append, List.map_append, List.map_map]
  rw [List.map_singleton, List.map_singleton, List.map_singleton, List.append_singleton_inj]
  rw [Placement.lossy_fileName, renamedToken_header_iff header]
  refine and_congr_left fun _ => ?_
  rw [List.map_inj_left]
  simp only [Function.comp_apply, renamedToken_eq_self_iff]

theorem reference_follows_lexer :
    Path.Beneath (.ofString "s/compiler/lexer.h") (.ofString "s")
        ([Utf8.encode "compiler".toList] ++ [Utf8.encode "lexer.h".toList]) ∧
      Path.Beneath (Placement.file (.ofString "s") (.ofString "d") ({} : Options).renamings
          (.ofString "s/compiler/lexer.h")) (.ofString "d")
        ([Utf8.encode "compiler".toList] ++
          [Placement.fileName ({} : Options).renamings (Utf8.encode "lexer.h".toList)]) ∧
      adapt (Rule.standard {}) false (reference "hazel"
          ([Utf8.encode "compiler".toList] ++ [Utf8.encode "lexer.h".toList])) =
        reference "HazelInternalTests" ([Utf8.encode "compiler".toList] ++
          [Placement.fileName ({} : Options).renamings (Utf8.encode "lexer.h".toList)]) := by
  have beneath : Path.Beneath (.ofString "s/compiler/lexer.h") (.ofString "s")
      ([Utf8.encode "compiler".toList] ++ [Utf8.encode "lexer.h".toList]) :=
    ⟨by decide, by decide⟩
  obtain ⟨placed, follows⟩ := reference_follows_iff beneath (by decide)
  exact ⟨beneath, placed, follows.2 (by decide)⟩

/-- The rules find the token of the project in the name of a directory too, which the twin keeps. -/
theorem reference_strays_behind_token :
    Selection.ofName {} none "io.h".toList = .selected ∧
    Placement.file (.ofString "s") (.ofString "d") ({} : Options).renamings
        (.ofString "s/hazel/io.h") = .ofString "d/hazel/io.h" ∧
    adapt (Rule.standard {}) false "hazel/hazel/io.h".toList ≠
      "HazelInternalTests/hazel/io.h".toList := by
  decide

end TwinTree
