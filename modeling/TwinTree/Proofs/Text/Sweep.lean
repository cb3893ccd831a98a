import TwinTree.Proofs.Text.Cutting

/-!
# Sweeping words out

To sweep a list of words out of a text is to take all of their whole words out at once, as they
stand in the text. Cutting the words one after the other, each from what the cut before has left,
comes to the same, in every order, and so does cutting phrases of them on the way
(`cutKeywords_eq_sweep`).

A cut leaves the words that it does not take where they are, because nothing is cut behind a word
character. So what a sweep takes from what a cut has left, it takes from the text itself
(`Swept.of_cut`), and once nothing is left to take the cuts have done what the sweep does.
-/
namespace TwinTree

/-- A word and the space behind it stand at a place of a text, and no word character comes before
them; the second argument is the character before the text. -/
def StandsAt (word : List Char) (previous : Option Char) (text : List Char) (place : Nat) : Prop :=
  isWordBefore ((text.take place).getLast?.or previous) = false ∧ word ++ [' '] <+: text.drop place

instance (word : List Char) (previous : Option Char) (text : List Char) (place : Nat) :
    Decidable (StandsAt word previous text place) :=
  inferInstanceAs (Decidable (_ ∧ _))

/-- The character at an index is in a whole word of a list, or is the space behind one. -/
def InWord (words : List (List Char)) (previous : Option Char) (text : List Char) (index : Nat) :
    Prop :=
  ∃ word ∈ words, ∃ place ∈ List.range (index + 1),
    StandsAt word previous text place ∧ index ≤ place + word.length

instance (words : List (List Char)) (previous : Option Char) (text : List Char) (index : Nat) :
    Decidable (InWord words previous text index) :=
  inferInstanceAs (Decidable (∃ _ ∈ words, _))

/-- The characters of a text that are in no whole word of a list. -/
def sweepFrom (words : List (List Char)) (previous : Option Char) (text : List Char) : List Char :=
  (text.zipIdx.filter fun found => ¬ InWord words previous text found.2).map Prod.fst

/-- Takes all whole words of a list out of a text, each with the space behind it. -/
def sweep (words : List (List Char)) (text : List Char) : List Char := sweepFrom words none text

/-- What `left` is when the words of a list have gone from a text, each with the space behind it,
wherever one of them starts a word; the second argument is the character before the text. -/
inductive Swept (words : List (List Char)) : Option Char → List Char → List Char → Prop
  | done {previous : Option Char} : Swept words previous [] []
  | keep {previous : Option Char} {c : Char} {rest left : List Char} :
      (∀ word ∈ words, ¬ (isWordBefore previous = false ∧ word ++ [' '] <+: c :: rest)) →
      Swept words (some c) rest left → Swept words previous (c :: rest) (c :: left)
  | sweep {previous : Option Char} {word rest left : List Char} : word ∈ words →
      isWordBefore previous = false → Swept words (some ' ') rest left →
      Swept words previous (word ++ ' ' :: rest) left

/-- Words of a list, one or several with a space between each two. -/
inductive IsPhrase (words : List (List Char)) : List Char → Prop
  | word {word : List Char} : word ∈ words → IsPhrase words word
  | next {word phrase : List Char} : word ∈ words → IsPhrase words phrase →
      IsPhrase words (word ++ ' ' :: phrase)

variable {words phrases : List (List Char)} {word phrase text middle left before behind rest :
  List Char} {previous : Option Char} {index : Nat}

/-! ### Characters of words -/

theorem standsAt_iff {place : Nat} :
    StandsAt word previous text place ↔
      ∃ before behind, before.length = place ∧ WordAt word previous before text behind := by
  constructor
  · rintro ⟨free, behind, split⟩
    have whole := List.take_append_drop place text
    rw [← split] at whole
    refine ⟨text.take place, behind, ?_, wordAt_iff.2 ⟨by simpa using whole.symm, free⟩⟩
    -- The word itself is behind the place, so the place is within the text.
    have shown := congrArg List.length split
    simp only [List.length_append, List.length_singleton, List.length_drop] at shown
    rw [List.length_take]
    omega
  · rintro ⟨before, behind, rfl, stands⟩
    obtain ⟨rfl, free⟩ := wordAt_iff.1 stands
    exact ⟨by simpa using free, behind, by simp⟩

theorem inWord_iff :
    InWord words previous text index ↔
      ∃ word ∈ words, ∃ before behind, WordAt word previous before text behind ∧
        before.length ≤ index ∧ index ≤ before.length + word.length := by
  refine exists_congr fun word => and_congr_right fun _ => ?_
  constructor
  · rintro ⟨place, earlier, standing, close⟩
    obtain ⟨before, behind, rfl, stands⟩ := standsAt_iff.1 standing
    exact ⟨before, behind, stands, Nat.lt_succ_iff.1 (List.mem_range.1 earlier), close⟩
  · rintro ⟨before, behind, stands, earlier, close⟩
    exact ⟨before.length, List.mem_range.2 (Nat.lt_succ_iff.2 earlier),
      standsAt_iff.2 ⟨before, behind, rfl, stands⟩, close⟩

theorem IsKeyword.not_mem_space (keyword : IsKeyword word) : ' ' ∉ word := fun member =>
  absurd (keyword.letters ' ' member) (by decide)

/-- A whole word of a text that begins with a keyword is that keyword or stands behind it. -/
theorem WordAt.eq_or_later {other : List Char} (isKeyword : IsKeyword word)
    (isOther : IsKeyword other)
    (stands : WordAt other previous before (word ++ ' ' :: rest) behind) :
    (before = [] ∧ other = word) ∨
      ∃ inner, before = word ++ ' ' :: inner ∧ WordAt other (some ' ') inner rest behind := by
  rw [List.append_cons] at stands
  rcases stands.of_append with ⟨final, nonempty, split, whole⟩ | ⟨inner, rfl, inside⟩
  · left
    have within : before <+: word := by
      rcases List.append_eq_append_iff.1 split with ⟨more, rfl, single⟩ | ⟨more, rfl, _⟩
      · cases more with
        | nil => simp
        | cons c more => simp [nonempty] at single
      · exact List.prefix_append _ _
    -- A letter of the keyword would come before the word if it began later.
    have first : before = [] := by
      cases last : before.getLast? with
      | none => simpa using last
      | some c =>
        have letter := isKeyword.letters c (within.subset (List.mem_of_getLast? last))
        obtain ⟨-, free⟩ := wordAt_iff.1 stands
        simp [last, isWordBefore, letter] at free
    subst first
    obtain rfl : word ++ [' '] = final := split
    rw [← List.append_cons] at whole
    have inside : other <+: word :=
      prefix_of_prefix_append isOther.not_mem_space ⟨' ' :: behind, whole.symm⟩
    have outside : word <+: other :=
      prefix_of_prefix_append isKeyword.not_mem_space ⟨' ' :: rest, whole⟩
    exact ⟨rfl, inside.eq_of_length_le outside.length_le⟩
  · right
    exact ⟨inner, by simp, by simpa using inside⟩

theorem inWord_of_le (member : word ∈ words) (free : isWordBefore previous = false)
    (close : index ≤ word.length) : InWord words previous (word ++ ' ' :: rest) index :=
  inWord_iff.2 ⟨word, member, [], rest, .here free, by simp, by simpa using close⟩

/-- Behind a whole word the characters of words are those of the rest. -/
theorem inWord_behind (all : ∀ word ∈ words, IsKeyword word) (member : word ∈ words) :
    InWord words previous (word ++ ' ' :: rest) (word.length + 1 + index) ↔
      InWord words (some ' ') rest index := by
  rw [inWord_iff, inWord_iff]
  refine exists_congr fun other => and_congr_right fun within => ?_
  constructor
  · rintro ⟨before, behind, stands, earlier, close⟩
    rcases stands.eq_or_later (all word member) (all other within) with
      ⟨rfl, rfl⟩ | ⟨inner, rfl, inside⟩
    · simp at close
      omega
    · simp only [List.length_append, List.length_cons] at earlier close
      exact ⟨inner, behind, inside, by omega, by omega⟩
  · rintro ⟨inner, behind, inside, earlier, close⟩
    have stands : WordAt other previous (word ++ [' '] ++ inner) (word ++ [' '] ++ rest) behind :=
      .append _ (by simpa using inside)
    rw [← List.append_cons] at stands
    refine ⟨word ++ [' '] ++ inner, behind, by simpa using stands, ?_, ?_⟩ <;>
      · simp only [List.length_append, List.length_singleton]
        omega

/-- Where no word of the list starts, the characters of words are those of the rest. -/
theorem inWord_succ {c : Char}
    (kept : ∀ word ∈ words, ¬ (isWordBefore previous = false ∧ word ++ [' '] <+: c :: rest)) :
    InWord words previous (c :: rest) (index + 1) ↔ InWord words (some c) rest index := by
  rw [inWord_iff, inWord_iff]
  refine exists_congr fun word => and_congr_right fun member => ?_
  constructor
  · rintro ⟨before, behind, stands, earlier, close⟩
    generalize whole : c :: rest = text at stands
    cases stands with
    | here free => exact absurd ⟨free, behind, by simp [whole]⟩ (kept word member)
    | later inside =>
      cases whole
      simp only [List.length_cons] at earlier close
      exact ⟨_, behind, inside, by omega, by omega⟩
  · rintro ⟨before, behind, inside, earlier, close⟩
    exact ⟨c :: before, behind, .later inside, by simpa using earlier, by simp; omega⟩

theorem not_inWord_zero {c : Char}
    (kept : ∀ word ∈ words, ¬ (isWordBefore previous = false ∧ word ++ [' '] <+: c :: rest)) :
    ¬ InWord words previous (c :: rest) 0 := by
  rw [inWord_iff]
  rintro ⟨word, member, before, behind, stands, earlier, _⟩
  obtain rfl : before = [] := List.length_eq_zero_iff.1 (by omega)
  obtain ⟨split, free⟩ := wordAt_iff.1 stands
  exact kept word member ⟨by simpa using free, behind, by simp [split]⟩

/-! ### What a sweep leaves -/

/-- Only which words are in the list matters. -/
theorem sweep_congr {words others : List (List Char)} (same : ∀ word, word ∈ words ↔ word ∈ others)
    (text : List Char) : sweep words text = sweep others text := by
  have covers : ∀ index, InWord words none text index ↔ InWord others none text index :=
    fun index => exists_congr fun word => and_congr_left fun _ => same word
  simp only [sweep, sweepFrom, covers]

theorem sweepFrom_append {front : List Char} {other : Option Char}
    (same : ∀ index, InWord words previous (front ++ rest) (front.length + index) ↔
      InWord words other rest index) :
    sweepFrom words previous (front ++ rest) =
      (front.zipIdx.filter fun found => ¬ InWord words previous (front ++ rest) found.2).map
        Prod.fst ++ sweepFrom words other rest := by
  have shifted : rest.zipIdx front.length =
      rest.zipIdx.map fun found => (found.1, front.length + found.2) := List.zipIdx_eq_map_add
  rw [sweepFrom, List.zipIdx_append, List.filter_append, List.map_append, Nat.zero_add, shifted,
    List.filter_map, List.map_map, sweepFrom]
  simp only [Function.comp_def, same]

theorem sweepFrom_keep {c : Char}
    (kept : ∀ word ∈ words, ¬ (isWordBefore previous = false ∧ word ++ [' '] <+: c :: rest)) :
    sweepFrom words previous (c :: rest) = c :: sweepFrom words (some c) rest := by
  have onward : ∀ index, InWord words previous ([c] ++ rest) ([c].length + index) ↔
      InWord words (some c) rest index := fun index => by
    rw [List.length_singleton, Nat.add_comm]
    exact inWord_succ kept
  have stays : ¬ InWord words previous (c :: rest) 0 := not_inWord_zero kept
  rw [← List.singleton_append, sweepFrom_append onward]
  simp [stays]

theorem sweepFrom_word (all : ∀ word ∈ words, IsKeyword word) (member : word ∈ words)
    (free : isWordBefore previous = false) :
    sweepFrom words previous (word ++ ' ' :: rest) = sweepFrom words (some ' ') rest := by
  have onward : ∀ index, InWord words previous (word ++ [' '] ++ rest)
      ((word ++ [' ']).length + index) ↔ InWord words (some ' ') rest index := fun index => by
    rw [List.length_append, List.length_singleton, ← List.append_cons]
    exact inWord_behind all member
  rw [List.append_cons, sweepFrom_append onward, ← List.append_cons]
  -- Neither the word nor the space behind it stays.
  refine List.append_left_eq_self.2 (List.map_eq_nil_iff.2 (List.filter_eq_nil_iff.2 ?_))
  rintro ⟨c, index⟩ found
  have within := List.snd_lt_of_mem_zipIdx found
  rw [Nat.add_zero, List.length_append, List.length_singleton] at within
  simpa using inWord_of_le member free (Nat.lt_succ_iff.1 within)

namespace Swept

/-- What is left are the characters that are in no word. -/
theorem eq_sweepFrom (all : ∀ word ∈ words, IsKeyword word)
    (swept : Swept words previous text left) : left = sweepFrom words previous text := by
  induction swept with
  | done => rfl
  | keep kept _ ih => rw [sweepFrom_keep kept, ih]
  | sweep member free _ ih => rw [sweepFrom_word all member free, ih]

/-- A text in which no word of the list stands stays as it is. -/
theorem of_absent
    (absent : ∀ word ∈ words, ∀ before behind, ¬ WordAt word previous before text behind) :
    Swept words previous text text := by
  induction text generalizing previous with
  | nil => exact .done
  | cons c rest ih =>
    refine .keep (fun word member => ?_) (ih fun word member before behind stands =>
      absent word member (c :: before) behind stands.later)
    rintro ⟨free, behind, split⟩
    refine absent word member [] behind ?_
    rw [← split, ← List.append_cons]
    exact .here free

/-- Only whether a word character comes before a text matters. -/
theorem congr_previous {other : Option Char} (same : isWordBefore previous = isWordBefore other)
    (swept : Swept words previous text left) : Swept words other text left := by
  cases swept with
  | done => exact .done
  | keep kept onward => exact .keep (same ▸ kept) onward
  | sweep member free onward => exact .sweep member (same ▸ free) onward

/-- Where nothing but phrases come before what is swept, they are swept out too. -/
theorem sweep_phrase (isPhrase : IsPhrase words phrase) (free : isWordBefore previous = false)
    (swept : Swept words (some ' ') rest left) :
    Swept words previous (phrase ++ ' ' :: rest) left := by
  induction isPhrase generalizing previous with
  | word member => exact .sweep member free swept
  | next member _ ih =>
    rw [List.append_assoc, List.cons_append]
    exact .sweep member free (ih (by decide))

end Swept

/-! ### Cutting first -/

/-- What a sweep takes from what the cut of a phrase has left, it takes from the text itself. -/
theorem Swept.of_cut (all : ∀ word ∈ words, IsKeyword word) (isPhrase : IsPhrase words phrase)
    (cuts : Cut phrase previous text middle) (swept : Swept words previous middle left) :
    Swept words previous text left := by
  -- A word that is swept out goes at once, so the induction is on how long the text is.
  induction length : text.length using Nat.strong_induction_on generalizing previous text middle
    left with
  | _ size ih =>
  subst length
  cases cuts with
  | done => exact swept
  | @cut _ rest _ free onward =>
    have space : isWordBefore previous = isWordBefore (some ' ') := by rw [free]; decide
    have shorter : rest.length < (phrase ++ ' ' :: rest).length := by
      simp only [List.length_append, List.length_cons]
      omega
    exact .sweep_phrase isPhrase free (ih _ shorter onward (swept.congr_previous space) rfl)
  | @keep _ c rest middle _ within =>
    generalize whole : c :: middle = source at swept
    cases swept with
    | done => cases whole
    | keep kept further =>
      cases whole
      refine .keep (fun word member => ?_) (ih _ (by simp) within further rfl)
      -- A word that stands here stands here still when the phrase has been cut.
      rintro ⟨free, behind, split⟩
      refine kept word member ⟨free, ?_⟩
      obtain ⟨first, letters, rfl⟩ := List.exists_cons_of_ne_nil (all word member).ne_nil
      have isWord := List.forall_mem_cons.1 (all _ member).letters
      rw [← List.append_cons] at split
      obtain ⟨rfl, rfl⟩ := List.cons.inj split
      obtain ⟨behind, rfl, _⟩ := within.exists_of_letters isWord.1 isWord.2
      exact ⟨behind, by simp⟩
    | @sweep _ word behind _ member free further =>
      obtain ⟨first, letters, rfl⟩ := List.exists_cons_of_ne_nil (all word member).ne_nil
      have isWord := List.forall_mem_cons.1 (all _ member).letters
      obtain ⟨rfl, rfl⟩ := List.cons.inj whole
      obtain ⟨rest, rfl, onward⟩ := within.exists_to_letters isWord.1 isWord.2
      have shorter : rest.length < (c :: (letters ++ ' ' :: rest)).length := by
        simp only [List.length_append, List.length_cons]
        omega
      exact .sweep member free (ih _ shorter onward further rfl)

theorem IsPhrase.starts (all : ∀ word ∈ words, IsKeyword word) (isPhrase : IsPhrase words phrase) :
    isWordBefore phrase.head? = true := by
  cases isPhrase with
  | word member => exact (all phrase member).starts
  | @next word _ member =>
    obtain ⟨first, letters, rfl⟩ := List.exists_cons_of_ne_nil (all word member).ne_nil
    exact (all _ member).starts

/-- What a sweep takes from what the cuts of phrases have left, it takes from the text itself. -/
theorem Swept.of_cutKeywords (all : ∀ word ∈ words, IsKeyword word)
    (made : ∀ phrase ∈ phrases, IsPhrase words phrase)
    (swept : Swept words none (cutKeywords phrases text) left) : Swept words none text left := by
  induction phrases generalizing text with
  | nil => exact swept
  | cons phrase phrases ih =>
    rw [List.forall_mem_cons] at made
    have cuts := cut_replaceKeyword (made.1.starts all) text
    exact .of_cut all made.1 cuts (ih made.2 swept)

/-- Cutting phrases of some words one after the other, each of the words by itself among them,
leaves what a sweep of the words leaves. -/
theorem cutKeywords_eq_sweep (all : ∀ word ∈ words, IsKeyword word)
    (made : ∀ phrase ∈ phrases, IsPhrase words phrase) (each : words ⊆ phrases)
    (text : List Char) : cutKeywords phrases text = sweep words text := by
  have starts : ∀ phrase ∈ phrases, isWordBefore phrase.head? = true :=
    fun phrase member => (made phrase member).starts all
  have gone : Swept words none (cutKeywords phrases text) (cutKeywords phrases text) :=
    .of_absent fun word member _ _ =>
      not_wordAt_cutKeywords (all word member) starts (each member)
  exact (gone.of_cutKeywords all made).eq_sweepFrom all

end TwinTree
