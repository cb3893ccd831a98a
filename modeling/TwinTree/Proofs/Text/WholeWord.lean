import TwinTree.Proofs.Text.Replacement

/-!
# Whole words

Cutting a keyword out glues two ends together. The end before the cut is not a word character, and
what comes behind the cut stood behind a space, so no word is made at the seam: `WordAt.of_cut` says
that every whole word of what is left was a whole word before, and `not_wordAt_of_cut` that the
keyword itself is gone. `WordAt.of_replaced` says the same of a literal replacement, words that
begin inside what was put in apart.
-/
namespace TwinTree

/-- A word made of word characters only. -/
structure IsKeyword (word : List Char) : Prop where
  ne_nil : word ≠ []
  letters : ∀ c ∈ word, isWord c = true

instance (word : List Char) : Decidable (IsKeyword word) :=
  decidable_of_iff (word ≠ [] ∧ word.all isWord = true)
    ⟨fun ⟨nonempty, letters⟩ => ⟨nonempty, List.all_eq_true.1 letters⟩,
      fun ⟨nonempty, letters⟩ => ⟨nonempty, List.all_eq_true.2 letters⟩⟩

/-- A word and one space behind it stand between two parts of a text, and no word character comes
before them; the first argument is the character before the text. -/
inductive WordAt (word : List Char) : Option Char → List Char → List Char → List Char → Prop
  | here {previous : Option Char} {behind : List Char} : isWordBefore previous = false →
      WordAt word previous [] (word ++ ' ' :: behind) behind
  | later {previous : Option Char} {c : Char} {before rest behind : List Char} :
      WordAt word (some c) before rest behind →
      WordAt word previous (c :: before) (c :: rest) behind

variable {word : List Char}

theorem IsKeyword.starts (keyword : IsKeyword word) : isWordBefore word.head? = true := by
  obtain ⟨first, final, rfl⟩ := List.exists_cons_of_ne_nil keyword.ne_nil
  exact keyword.letters first List.mem_cons_self

theorem wordAt_iff {previous : Option Char} {before text behind : List Char} :
    WordAt word previous before text behind ↔
      text = before ++ word ++ ' ' :: behind ∧
        isWordBefore (before.getLast?.or previous) = false := by
  constructor
  · intro stands
    -- The character before a word is the last one of the text before it, or the one before the
    -- text.
    induction stands with
    | here free => exact ⟨by simp, free⟩
    | @later previous c before rest behind _ ih =>
      refine ⟨by simp [ih.1], ?_⟩
      rw [List.getLast?_cons]
      cases last : before.getLast? <;> simpa [last] using ih.2
  · rintro ⟨rfl, free⟩
    induction before generalizing previous with
    | nil => exact .here free
    | cons c before ih =>
      refine .later (ih ?_)
      rw [List.getLast?_cons] at free
      cases last : before.getLast? <;> simpa [last] using free

theorem WordAt.append {previous : Option Char} {before text behind : List Char} (front : List Char)
    (stands : WordAt word (front.getLast?.or previous) before text behind) :
    WordAt word previous (front ++ before) (front ++ text) behind := by
  obtain ⟨rfl, free⟩ := wordAt_iff.1 stands
  refine wordAt_iff.2 ⟨by simp, ?_⟩
  rw [List.getLast?_append, Option.or_assoc]
  exact free

/-- A whole word of two texts put together begins in the first one, or stands in the second. -/
theorem WordAt.of_append {previous : Option Char} {before front text behind : List Char}
    (stands : WordAt word previous before (front ++ text) behind) :
    (∃ rest, rest ≠ [] ∧ front = before ++ rest ∧ rest ++ text = word ++ ' ' :: behind) ∨
    ∃ inner, before = front ++ inner ∧
      WordAt word (front.getLast?.or previous) inner text behind := by
  obtain ⟨split, free⟩ := wordAt_iff.1 stands
  rw [List.append_assoc, List.append_eq_append_iff] at split
  rcases split with ⟨inner, rfl, rfl⟩ | ⟨rest, rfl, split⟩
  · right
    rw [List.getLast?_append, Option.or_assoc] at free
    exact ⟨inner, rfl, wordAt_iff.2 ⟨by simp, free⟩⟩
  · cases rest with
    | nil =>
      right
      refine ⟨[], by simp, wordAt_iff.2 ⟨by simpa using split.symm, by simpa using free⟩⟩
    | cons c rest => exact .inl ⟨c :: rest, by simp, rfl, split.symm⟩

/-- Only whether a word character comes before a text matters. -/
theorem WordAt.congr_previous {previous other : Option Char} {before text behind : List Char}
    (same : isWordBefore previous = isWordBefore other)
    (stands : WordAt word previous before text behind) :
    WordAt word other before text behind := by
  cases stands with
  | here free => exact .here (same ▸ free)
  | later inner => exact .later inner

/-! ### Cutting -/

namespace Cut

variable {keyword text left rest behind : List Char} {c : Char}

/-- Nothing is cut behind a word character. -/
theorem of_letter (letter : isWord c = true) (cuts : Cut keyword (some c) text left) :
    (text = [] ∧ left = []) ∨ ∃ next rest behind, text = next :: rest ∧ left = next :: behind ∧
      Cut keyword (some next) rest behind := by
  cases cuts with
  | done => exact .inl ⟨rfl, rfl⟩
  | keep _ onward => exact .inr ⟨_, _, _, rfl, rfl, onward⟩
  | cut free => simp [isWordBefore, letter] at free

/-- A word that goes on where a text begins goes on in what is left. -/
theorem exists_of_letters (letter : isWord c = true) (letters : ∀ a ∈ word, isWord a = true)
    (cuts : Cut keyword (some c) (word ++ ' ' :: rest) left) :
    ∃ behind, left = word ++ ' ' :: behind ∧ Cut keyword (some ' ') rest behind := by
  -- The induction is on the word: behind a letter of it nothing is cut, so the next one is kept.
  induction word generalizing c left with
  | nil =>
    obtain ⟨⟨⟩, _⟩ | ⟨_, _, behind, ⟨⟩, rfl, onward⟩ := cuts.of_letter letter
    exact ⟨behind, rfl, onward⟩
  | cons a word ih =>
    rw [List.forall_mem_cons] at letters
    obtain ⟨⟨⟩, _⟩ | ⟨_, _, _, ⟨⟩, rfl, within⟩ := cuts.of_letter letter
    obtain ⟨behind, rfl, onward⟩ := ih letters.1 letters.2 within
    exact ⟨behind, rfl, onward⟩

/-- A word that goes on where what is left begins went on in the text. -/
theorem exists_to_letters (letter : isWord c = true) (letters : ∀ a ∈ word, isWord a = true)
    (cuts : Cut keyword (some c) text (word ++ ' ' :: behind)) :
    ∃ rest, text = word ++ ' ' :: rest ∧ Cut keyword (some ' ') rest behind := by
  induction word generalizing c text with
  | nil =>
    obtain ⟨_, ⟨⟩⟩ | ⟨_, rest, _, rfl, ⟨⟩, onward⟩ := cuts.of_letter letter
    exact ⟨rest, rfl, onward⟩
  | cons a word ih =>
    rw [List.forall_mem_cons] at letters
    obtain ⟨_, ⟨⟩⟩ | ⟨_, _, _, rfl, ⟨⟩, within⟩ := cuts.of_letter letter
    obtain ⟨rest, rfl, onward⟩ := ih letters.1 letters.2 within
    exact ⟨rest, rfl, onward⟩

end Cut

/-- A word that stands at the start of what is left stood at the start of the text. -/
private theorem exists_of_cut_cons {keyword rest left behind : List Char} {c : Char}
    (isKeyword : IsKeyword word) (cuts : Cut keyword (some c) rest left)
    (stands : c :: left = word ++ ' ' :: behind) :
    ∃ others, c :: rest = word ++ ' ' :: others := by
  obtain ⟨first, final, rfl⟩ := List.exists_cons_of_ne_nil isKeyword.ne_nil
  obtain ⟨rfl, rfl⟩ := List.cons.inj stands
  obtain ⟨letter, letters⟩ := List.forall_mem_cons.1 isKeyword.letters
  obtain ⟨others, rfl, _⟩ := cuts.exists_to_letters letter letters
  exact ⟨others, rfl⟩

/-- Every whole word that is left after a cut was a whole word before it. -/
theorem WordAt.of_cut {keyword text left before behind : List Char} {previous : Option Char}
    (isKeyword : IsKeyword word) (cuts : Cut keyword previous text left)
    (stands : WordAt word previous before left behind) :
    ∃ front final, WordAt word previous front text final := by
  induction cuts generalizing before with
  | done => simp [wordAt_iff, isKeyword.ne_nil] at stands
  | @keep previous c rest left _ cuts ih =>
    generalize whole : c :: left = result at stands
    cases stands with
    | here free =>
      obtain ⟨others, split⟩ := exists_of_cut_cons isKeyword cuts whole
      exact ⟨[], others, split ▸ .here free⟩
    | later inner =>
      obtain ⟨rfl, rfl⟩ := List.cons.inj whole
      obtain ⟨front, final, found⟩ := ih inner
      exact ⟨c :: front, final, .later found⟩
  | @cut previous rest left free _ ih =>
    -- At the seam the space before a word gives way to what is no word character either.
    have space : isWordBefore previous = isWordBefore (some ' ') := by rw [free]; decide
    obtain ⟨front, final, found⟩ := ih (stands.congr_previous space)
    have whole : WordAt word previous (keyword ++ [' '] ++ front) (keyword ++ [' '] ++ rest)
        final :=
      .append (keyword ++ [' ']) (by simpa using found)
    exact ⟨keyword ++ ' ' :: front, final, by simpa using whole⟩

/-- A keyword that has been cut out does not stand as a whole word any more. -/
theorem not_wordAt_of_cut {text left before behind : List Char} {previous : Option Char}
    (isKeyword : IsKeyword word) (cuts : Cut word previous text left) :
    ¬ WordAt word previous before left behind := by
  intro stands
  induction cuts generalizing before with
  | done => simp [wordAt_iff, isKeyword.ne_nil] at stands
  | @keep previous c rest left kept cuts ih =>
    generalize whole : c :: left = result at stands
    cases stands with
    | here free =>
      obtain ⟨others, split⟩ := exists_of_cut_cons isKeyword cuts whole
      exact kept ⟨free, others, by simp [split]⟩
    | later inner =>
      obtain ⟨rfl, rfl⟩ := List.cons.inj whole
      exact ih inner
  | @cut previous rest left free _ ih =>
    have space : isWordBefore previous = isWordBefore (some ' ') := by rw [free]; decide
    exact ih (stands.congr_previous space)

/-- Cuts a list of keywords out, one after the other. -/
def cutKeywords (keywords : List (List Char)) (text : List Char) : List Char :=
  keywords.foldl (fun text keyword => replaceKeyword keyword [] text) text

theorem cutKeywords_cons (keyword : List Char) (keywords : List (List Char)) (text : List Char) :
    cutKeywords (keyword :: keywords) text =
      cutKeywords keywords (replaceKeyword keyword [] text) := rfl

theorem WordAt.of_cutKeywords {keywords : List (List Char)} {text before behind : List Char}
    (isKeyword : IsKeyword word)
    (starts : ∀ keyword ∈ keywords, isWordBefore keyword.head? = true)
    (stands : WordAt word none before (cutKeywords keywords text) behind) :
    ∃ front final, WordAt word none front text final := by
  induction keywords generalizing text with
  | nil => exact ⟨before, behind, stands⟩
  | cons keyword keywords ih =>
    rw [List.forall_mem_cons] at starts
    obtain ⟨front, final, found⟩ := ih starts.2 stands
    exact found.of_cut isKeyword (cut_replaceKeyword starts.1 text)

/-- After a list of keywords has been cut out, none of them stands as a whole word. -/
theorem not_wordAt_cutKeywords {keywords : List (List Char)} {text before behind : List Char}
    (isKeyword : IsKeyword word)
    (starts : ∀ keyword ∈ keywords, isWordBefore keyword.head? = true) (member : word ∈ keywords) :
    ¬ WordAt word none before (cutKeywords keywords text) behind := by
  induction keywords generalizing text with
  | nil => cases member
  | cons keyword keywords ih =>
    rw [List.forall_mem_cons] at starts
    rcases List.mem_cons.1 member with rfl | later
    · intro stands
      obtain ⟨front, final, found⟩ := WordAt.of_cutKeywords isKeyword starts.2 stands
      exact not_wordAt_of_cut isKeyword (cut_replaceKeyword starts.1 text) found
    · exact ih starts.2 later

/-! ### Literal replacement -/

/-- A whole word of what a replacement leaves begins inside something that was put in, or it was a
whole word of the text, and the replacement goes on behind it. -/
theorem WordAt.of_replaced {pattern replacement text left before behind : List Char}
    {previous : Option Char} (nonempty : word ≠ [])
    (apart : Apart replacement (word.tail ++ [' ']))
    (sameEnd : ∀ c : Option Char, replacement.getLast?.or c = pattern.getLast?.or c)
    (replaced : Replaced pattern replacement text left)
    (stands : WordAt word previous before left behind) :
    (∃ front inner rest others, before = front ++ inner ∧ rest ≠ [] ∧
      replacement = inner ++ rest ∧ rest ++ others = word ++ ' ' :: behind) ∨
    ∃ front final, WordAt word previous front text final ∧
      Replaced pattern replacement final behind := by
  induction replaced generalizing previous before with
  | done => simp [wordAt_iff, nonempty] at stands
  | @keep c rest left _ replaced ih =>
    generalize whole : c :: left = result at stands
    cases stands with
    | here free =>
      right
      obtain ⟨first, final, rfl⟩ := List.exists_cons_of_ne_nil nonempty
      obtain ⟨rfl, left_eq⟩ := List.cons.inj whole
      obtain rfl : left = final ++ [' '] ++ behind := left_eq.trans (List.append_cons ..)
      -- The rest of the word has no part in what is put in, so it was there before.
      obtain ⟨others, rfl, onward⟩ := replaced.exists_of_append apart
      have whole : WordAt (c :: final) previous [] (c :: final ++ ' ' :: others) others :=
        .here free
      exact ⟨[], others, by simpa using whole, onward⟩
    | later inner =>
      obtain ⟨rfl, rfl⟩ := List.cons.inj whole
      rcases ih inner with ⟨front, start, rest, others, rfl, begins⟩ |
        ⟨front, final, found, replaced⟩
      · exact .inl ⟨c :: front, start, rest, others, rfl, begins⟩
      · exact .inr ⟨c :: front, final, .later found, replaced⟩
  | @replace rest left replaced ih =>
    rcases stands.of_append with ⟨rest, begins, split, whole⟩ | ⟨inner, rfl, inner_stands⟩
    · exact .inl ⟨[], before, rest, left, rfl, begins, split, whole⟩
    · rcases ih inner_stands with ⟨front, inner, rest, others, rfl, begins⟩ |
        ⟨front, final, found, replaced⟩
      · exact .inl ⟨replacement ++ front, inner, rest, others, by simp, begins⟩
      · -- Behind the pattern the word is as free as it is behind what was put in.
        rw [sameEnd] at found
        exact .inr ⟨pattern ++ front, final, found.append pattern, replaced⟩

end TwinTree
