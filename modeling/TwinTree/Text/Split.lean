/-!
# Splitting lists

The pieces between separators. There is always a first piece, so it stands by itself, and the
pieces with a separator before each are the others. Main statement: joining what was split gives
the list back.
-/
namespace TwinTree

variable {α : Type} [DecidableEq α]

def splitOn (separator : α) : List α → List α × List (List α)
  | [] => ([], [])
  | item :: rest =>
    let (first, others) := splitOn separator rest
    if item = separator then ([], first :: others) else (item :: first, others)

/-- Writes pieces with a separator before each. -/
def joinWith (separator : α) (pieces : List (List α)) : List α :=
  pieces.flatMap (separator :: ·)

/-- All pieces between separators. -/
def pieces (separator : α) (items : List α) : List (List α) :=
  (splitOn separator items).1 :: (splitOn separator items).2

theorem splitOn_append_joinWith (separator : α) (items : List α) :
    (splitOn separator items).1 ++ joinWith separator (splitOn separator items).2 = items := by
  induction items with
  | nil => rfl
  | cons item rest ih =>
    by_cases equal : item = separator
    · simpa [splitOn, equal, joinWith] using ih
    · simpa [splitOn, equal, joinWith] using ih

theorem splitOn_append_separator (separator : α) (before behind : List α) :
    splitOn separator (before ++ separator :: behind) =
      ((splitOn separator before).1, (splitOn separator before).2 ++ pieces separator behind) := by
  induction before with
  | nil => simp [splitOn, pieces]
  | cons item rest ih => by_cases equal : item = separator <;> simp [splitOn, equal, ih]

theorem splitOn_of_notMem {separator : α} {items : List α} (absent : separator ∉ items) :
    splitOn separator items = (items, []) := by
  induction items with
  | nil => rfl
  | cons item rest ih =>
    rw [List.mem_cons, not_or] at absent
    simp [splitOn, ih absent.2, Ne.symm absent.1]

theorem notMem_of_mem_pieces {separator : α} {items piece : List α}
    (member : piece ∈ pieces separator items) : separator ∉ piece := by
  induction items generalizing piece with
  | nil => simp_all [pieces, splitOn]
  | cons item rest ih =>
    by_cases equal : item = separator
    · simp only [pieces, splitOn, equal, if_true, List.mem_cons] at member
      rcases member with rfl | later
      · exact List.not_mem_nil
      · exact ih (List.mem_cons.2 later)
    · simp only [pieces, splitOn, equal, if_false, List.mem_cons] at member
      rcases member with rfl | later
      · have first := ih (List.mem_cons_self : (splitOn separator rest).1 ∈ pieces separator rest)
        simp [Ne.symm equal, first]
      · exact ih (List.mem_cons_of_mem _ later)

theorem subset_of_mem_pieces {separator : α} {items piece : List α}
    (member : piece ∈ pieces separator items) : piece ⊆ items := by
  rw [← splitOn_append_joinWith separator items]
  rcases List.mem_cons.1 member with rfl | later
  · exact List.subset_append_left ..
  · intro item within
    refine List.mem_append_right _ (List.mem_flatMap.2 ⟨piece, later, ?_⟩)
    exact List.mem_cons_of_mem _ within

/-- Splitting finds the pieces that were joined. -/
theorem splitOn_joinWith {separator : α} {first : List α} {others : List (List α)}
    (absent : separator ∉ first) (noneHolds : ∀ piece ∈ others, separator ∉ piece) :
    splitOn separator (first ++ joinWith separator others) = (first, others) := by
  induction others generalizing first with
  | nil => simp [joinWith, splitOn_of_notMem absent]
  | cons piece others ih =>
    rw [List.forall_mem_cons] at noneHolds
    have inner := ih noneHolds.1 noneHolds.2
    have joined : joinWith separator (piece :: others) =
        separator :: (piece ++ joinWith separator others) := rfl
    rw [joined, splitOn_append_separator, splitOn_of_notMem absent, pieces, inner]
    rfl

end TwinTree
