import TwinTree.Text.Word

/-!
# Substitution in a text

One left-to-right scan in which an edit replaces what stands at a place, and the scan goes on
behind it. Every decision is made on the text as it was, so what an edit puts in is never looked
at again. Literal replacement is the edit that fires at each occurrence of a fixed text.
-/
namespace TwinTree

/-- An edit takes `width` characters out and puts `replacement` in. -/
structure Edit where
  width : Nat
  replacement : List Char
  deriving DecidableEq, Repr

/-- What is to be done at a place, given the character before it and the text from it on. -/
abbrev EditAt := Option Char → List Char → Option Edit

/-- Applies the edits from the left. The number counts the characters still to be taken out for
the last edit; an edit of width zero takes one. -/
def applyEditsFrom (editAt : EditAt) : Option Char → Nat → List Char → List Char
  | _, _, [] => []
  | _, taken + 1, c :: rest => applyEditsFrom editAt (some c) taken rest
  | previous, 0, c :: rest =>
    match editAt previous (c :: rest) with
    | some edit => edit.replacement ++ applyEditsFrom editAt (some c) (edit.width - 1) rest
    | none => c :: applyEditsFrom editAt (some c) 0 rest

def applyEdits (editAt : EditAt) (text : List Char) : List Char :=
  applyEditsFrom editAt none 0 text

/-- Replaces `pattern` wherever it stands; the empty pattern stands nowhere. -/
def literalEdit (pattern replacement : List Char) : EditAt := fun _ text =>
  if !pattern.isEmpty && pattern.isPrefixOf text then some ⟨pattern.length, replacement⟩ else none

/-- A word boundary lies between a word character and something else. -/
def isBoundary (previous : Option Char) (text : List Char) : Bool :=
  isWordBefore previous != isWordBefore text.head?

/-- Replaces `keyword` and one space behind it where a word boundary precedes them. -/
def keywordEdit (keyword replacement : List Char) : EditAt := fun previous text =>
  if (keyword ++ [' ']).isPrefixOf text && isBoundary previous text then
    some ⟨keyword.length + 1, replacement⟩
  else none

/-- Every occurrence of `pattern`, from the left and without overlap, becomes `replacement`. -/
def replaceLiteral (pattern replacement text : List Char) : List Char :=
  applyEdits (literalEdit pattern replacement) text

/-- Every whole-word `keyword` with the space behind it becomes `replacement`. -/
def replaceKeyword (keyword replacement text : List Char) : List Char :=
  applyEdits (keywordEdit keyword replacement) text

/-! ### First consequences -/

@[simp]
theorem applyEdits_nil (editAt : EditAt) : applyEdits editAt [] = [] := rfl

theorem applyEditsFrom_of_no_edit {editAt : EditAt} (none_fires : ∀ p t, editAt p t = none)
    (previous : Option Char) (text : List Char) :
    applyEditsFrom editAt previous 0 text = text := by
  induction text generalizing previous with
  | nil => rfl
  | cons c rest ih => simp [applyEditsFrom, none_fires, ih]

@[simp]
theorem replaceLiteral_empty (replacement text : List Char) :
    replaceLiteral [] replacement text = text :=
  applyEditsFrom_of_no_edit (fun _ _ => by simp [literalEdit]) none text

end TwinTree
