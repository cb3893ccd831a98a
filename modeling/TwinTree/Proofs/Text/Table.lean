import TwinTree.Proofs.Text.Parting

/-!
# Replacing by a table

A table lists texts and what each becomes. One scan replaces them all: at each place the first entry
that stands there is taken, and what it puts in is not looked at again. `eq_replaceTable` says when
a function of texts is that scan.
-/
namespace TwinTree

/-- Texts and what each of them becomes; of two that stand at one place the first is taken. -/
abbrev Table := List (List Char × List Char)

namespace Table

/-- The entry of a table that is taken at a place. -/
def entryAt? (table : Table) (text : List Char) : Option (List Char × List Char) :=
  table.find? fun entry => entry.1.isPrefixOf text

def edit (table : Table) : EditAt := fun _ text =>
  (table.entryAt? text).map fun entry => ⟨entry.1.length, entry.2⟩

end Table

/-- Every text of a table, from the left and without overlap, becomes what the table has for it. -/
def replaceTable (table : Table) (text : List Char) : List Char := applyEdits table.edit text

variable {table : Table} {f : List Char → List Char}

private theorem eq_applyEditsFrom (nonempty : ∀ entry ∈ table, entry.1 ≠ []) (nil : f [] = [])
    (replace : ∀ entry ∈ table, ∀ rest, table.entryAt? (entry.1 ++ rest) = some entry →
      f (entry.1 ++ rest) = entry.2 ++ f rest)
    (keep : ∀ c rest, table.entryAt? (c :: rest) = none → f (c :: rest) = c :: f rest)
    (previous : Option Char) (text : List Char) :
    f text = applyEditsFrom table.edit previous 0 text := by
  match text with
  | [] => rw [nil, applyEditsFrom]
  | c :: rest =>
    rw [applyEditsFrom]
    cases found : table.entryAt? (c :: rest) with
    | none =>
      simp only [Table.edit, found, Option.map_none]
      rw [keep c rest found, eq_applyEditsFrom nonempty nil replace keep (some c) rest]
    | some entry =>
      have member : entry ∈ table := List.mem_of_find?_eq_some found
      have stands : entry.1 <+: c :: rest :=
        List.isPrefixOf_iff_prefix.1 (List.find?_some found :)
      obtain ⟨behind, split⟩ := stands
      rw [← split] at found
      have step := replace entry member behind found
      -- The first character has been taken when the scan goes on behind the entry's text.
      obtain ⟨first, others, text_eq⟩ := List.exists_cons_of_ne_nil (nonempty entry member)
      rw [text_eq] at split
      obtain ⟨rfl, rfl⟩ := List.cons.inj split
      rw [text_eq, List.cons_append] at found step
      have shorter : behind.length < (first :: (others ++ behind)).length := by
        simp only [List.length_cons, List.length_append]
        omega
      rw [List.append_eq]
      simp only [Table.edit, found, Option.map_some, text_eq, List.length_cons,
        Nat.add_sub_cancel]
      rw [applyEditsFrom_append, step,
        eq_applyEditsFrom nonempty nil replace keep (others.getLast?.or (some first)) behind]
termination_by text.length

/-- A function that does at each place what the table says, and goes on behind it, replaces by the
table. -/
theorem eq_replaceTable (nonempty : ∀ entry ∈ table, entry.1 ≠ []) (nil : f [] = [])
    (replace : ∀ entry ∈ table, ∀ rest, table.entryAt? (entry.1 ++ rest) = some entry →
      f (entry.1 ++ rest) = entry.2 ++ f rest)
    (keep : ∀ c rest, table.entryAt? (c :: rest) = none → f (c :: rest) = c :: f rest)
    (text : List Char) : f text = replaceTable table text :=
  eq_applyEditsFrom nonempty nil replace keep none text

end TwinTree
