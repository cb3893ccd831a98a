import TwinTree.Proofs.Path.Route
import TwinTree.Proofs.Text.ShownName

/-!
# Paths as they are shown

A slash ends whatever is unfinished in front of it, so a path is shown piece by piece: what comes
before a slash, the slash, and what comes behind it (`lossy_append_slash`).
-/
namespace TwinTree

namespace Utf8

/-- A byte that continues a character is no ASCII character. -/
def Pending.IsInner (pending : Pending) : Prop := 0x80 ≤ pending.low

theorem isInner_ofLeading? {byte : Nat} {pending : Pending}
    (leading : Pending.ofLeading? byte = some pending) : pending.IsInner := by
  unfold Pending.ofLeading? at leading
  unfold Pending.IsInner
  repeat' split at leading
  all_goals
    cases leading
    try (simp only; omega)

/-- What a byte leaves unfinished goes on with bytes past ASCII only. -/
theorem isInner_of_step {pending : Option Pending} {byte : UInt8} {known : Pending}
    (left : (Utf8.step pending byte).2 = some known) : known.IsInner := by
  have started : (start byte).2 = some known → known.IsInner := by
    intro left
    unfold start at left
    split at left
    · cases left
    · split at left
      next leading =>
        cases left
        exact isInner_ofLeading? leading
      next => cases left
  cases pending with
  | none => exact started left
  | some earlier =>
    simp only [Utf8.step] at left
    split at left
    · split at left
      · cases left
      · cases left
        exact Nat.le_refl _
    · exact started left

/-- An ASCII character stands for itself wherever it comes, and nothing goes past it. -/
theorem scan_append_ascii {pending : Option Pending} {byte : UInt8} (ascii : byte.toNat < 0x80)
    (inner : ∀ known, pending = some known → known.IsInner) (before behind : List UInt8) :
    scan pending (before ++ byte :: behind) =
      scan pending before ++ some (Char.ofNat byte.toNat) :: scan none behind := by
  have begins : start byte = ([some (Char.ofNat byte.toNat)], none) := if_pos ascii
  induction before generalizing pending with
  | nil =>
    cases pending with
    | none => simp [scan, Utf8.step, begins]
    | some known =>
      have low : 0x80 ≤ known.low := inner known rfl
      have outside : ¬ (known.low ≤ byte.toNat ∧ byte.toNat ≤ known.high) := by omega
      simp [scan, Utf8.step, begins, outside]
  | cons first before ih =>
    have onward := @ih (Utf8.step pending first).2 fun known => isInner_of_step
    rw [List.cons_append, scan, scan, onward, List.append_assoc]

/-- What stands before a slash and what stands behind it are shown by themselves. -/
theorem lossy_append_slash (before behind : List UInt8) :
    lossy (before ++ slash :: behind) = lossy before ++ '/' :: lossy behind := by
  have split := @scan_append_ascii none slash (by decide) (by simp) before behind
  rw [lossy, lossy, lossy, split, List.map_append, List.map_cons]
  rfl

/-- A slash is shown for a slash only. -/
theorem slash_notMem_lossy {bytes : List UInt8} (absent : slash ∉ bytes) : '/' ∉ lossy bytes :=
  fun member => absent (mem_of_mem_lossy ⟨by decide, by decide⟩ member)

end Utf8

namespace Path

/-- A path with a slash is shown as its first segment and what is behind the slash. -/
theorem exists_text_eq {path : Path} (more : path.body ≠ []) :
    ∃ behind, path.text = Utf8.lossy path.head ++ '/' :: behind := by
  obtain ⟨second, others, body_eq⟩ := List.exists_cons_of_ne_nil more
  have bytes_eq : path.bytes = path.head ++ joinWith slash path.body :=
    (splitOn_append_joinWith slash path.bytes).symm
  have whole : path.bytes = path.head ++ slash :: (second ++ joinWith slash others) := by
    rw [bytes_eq, body_eq]
    rfl
  exact ⟨_, by rw [text, whole, Utf8.lossy_append_slash]⟩

/-- A joined name stands behind a slash, in which the path may end already. -/
theorem exists_bytes_join {path : Path} {name : Name} (nonempty : path.bytes ≠ [])
    (plain : IsPlain name) :
    ∃ base, (path.join ⟨name⟩).bytes = base ++ slash :: name ∧
      (path.bytes = base ∨ path.bytes = base ++ [slash]) := by
  have relative : (Path.mk name).isAbsolute = false := isAbsolute_of_name plain
  obtain ⟨bytes⟩ := path
  rcases List.eq_nil_or_concat bytes with rfl | ⟨front, last, rfl⟩
  · contradiction
  rw [List.concat_eq_append]
  by_cases ends : last = slash
  · exact ⟨front, by simp [join, relative, ends], .inr (by rw [ends])⟩
  · exact ⟨front ++ [last], by simp [join, relative, ends], .inl rfl⟩

/-- A path that has text keeps its first segment when a name is joined to it. -/
theorem head_join {path : Path} {name : Name} (nonempty : path.bytes ≠ []) (plain : IsPlain name) :
    (path.join ⟨name⟩).head = path.head ∧ (path.join ⟨name⟩).body ≠ [] := by
  obtain ⟨base, joined, cut⟩ := exists_bytes_join nonempty plain
  have same : path.head = (splitOn slash base).1 := by
    rcases cut with whole | slashed
    · rw [head, whole]
    · rw [head, slashed, splitOn_append_separator]
  rw [same, head, body, joined, splitOn_append_separator]
  exact ⟨rfl, by simp [pieces]⟩

/-- However far down, the first segment is that of the path itself. -/
theorem head_extend {path : Path} {names : List Name} (nonempty : path.bytes ≠ [])
    (plain : ∀ name ∈ names, IsPlain name) (further : names ≠ []) :
    (path.extend names).head = path.head ∧ (path.extend names).body ≠ [] := by
  induction names using List.reverseRecOn with
  | nil => contradiction
  | append_singleton front name ih =>
    obtain ⟨above, own⟩ := List.forall_mem_append.1 plain
    have own : IsPlain name := by simpa using own
    rw [extend_append_singleton]
    by_cases first : front = []
    · subst first
      exact head_join nonempty own
    · obtain ⟨head_eq, more⟩ := ih above first
      have some_text : (path.extend front).bytes ≠ [] := by
        intro empty
        apply more
        simp [body, empty, splitOn]
      obtain ⟨same, joined⟩ := head_join some_text own
      exact ⟨same.trans head_eq, joined⟩

/-- What is shown of a path with names joined to it is shown behind its first segment. -/
theorem exists_text_extend {path : Path} {names : List Name} (nonempty : path.bytes ≠ [])
    (plain : ∀ name ∈ names, IsPlain name) (further : names ≠ []) :
    ∃ behind, (path.extend names).text = Utf8.lossy path.head ++ '/' :: behind := by
  obtain ⟨head_eq, more⟩ := head_extend nonempty plain further
  rw [← head_eq]
  exact exists_text_eq more

/-- What stands behind the last slash, or the whole text where there is none. -/
def lastPiece (path : Path) : Name := path.body.getLast?.getD path.head

/-- A text without a slash can only end what stands behind the last one. -/
theorem suffix_text_iff {path : Path} {suffix : List Char} (whole : '/' ∉ suffix) :
    suffix <:+ path.text ↔ suffix <:+ Utf8.lossy path.lastPiece := by
  have bytes_eq : path.head ++ joinWith slash path.body = path.bytes :=
    splitOn_append_joinWith slash path.bytes
  rcases List.eq_nil_or_concat path.body with none | ⟨others, last, split⟩
  · rw [none] at bytes_eq
    simp [text, ← bytes_eq, lastPiece, none, joinWith]
  · rw [List.concat_eq_append] at split
    have shown : path.text =
        Utf8.lossy (path.head ++ joinWith slash others) ++ '/' :: Utf8.lossy last := by
      rw [← Utf8.lossy_append_slash, text, ← bytes_eq, split]
      simp [joinWith]
    have last_eq : path.lastPiece = last := by simp [lastPiece, split]
    rw [shown, last_eq]
    constructor
    · intro ends
      -- A longer suffix would take the slash in.
      rcases List.suffix_or_suffix_of_suffix ends (List.suffix_append ..) with within | beyond
      · exact (List.suffix_cons_iff.1 within).resolve_left fun equal => whole (by simp [equal])
      · exact absurd (beyond.subset List.mem_cons_self) whole
    · intro ends
      exact ends.trans ((List.suffix_cons ..).trans (List.suffix_append ..))

end Path

end TwinTree
