import TwinTree.Path.Lemmas
import TwinTree.Text.Utf8.Lemmas

/-!
# Names as they are shown

A name that need not be UTF-8 is shown with its ill-formed parts replaced. What is shown is a name
again: an ASCII character other than NUL is shown only for its own byte, so no slash comes in and no
name turns into `.` or `..` (`isPlain_encode_lossy`).
-/
namespace TwinTree.Utf8

/-- An ASCII character other than NUL, which stands for code points that are none. -/
def IsVisible (c : Char) : Prop := 0 < c.toNat ∧ c.toNat < 0x80

/-- The bytes read make the code point too large for a single byte. -/
def Pending.IsLong (pending : Pending) : Prop :=
  (pending.missing ≤ 1 → 2 ≤ pending.value) ∧
  (pending.missing = 2 → 1 ≤ pending.value ∨ 0xA0 ≤ pending.low) ∧
  (3 ≤ pending.missing → 1 ≤ pending.value ∨ 0x90 ≤ pending.low)

theorem not_isVisible_ofNat {n : Nat} (large : 0x80 ≤ n) : ¬ IsVisible (Char.ofNat n) := by
  unfold IsVisible
  by_cases valid : n < 0xD800 ∨ 0xDFFF < n ∧ n < 0x110000
  · rw [toNat_ofNat_char valid]
    omega
  · have zero : Char.ofNat n = '\x00' := by
      rw [Char.ofNat, dif_neg (show ¬ n.isValidChar from valid)]
      rfl
    rw [zero]
    decide

theorem not_isVisible_replacement : ¬ IsVisible '\uFFFD' := by
  unfold IsVisible
  decide

theorem isLong_ofLeading? {byte : Nat} {pending : Pending}
    (leading : Pending.ofLeading? byte = some pending) : pending.IsLong := by
  unfold Pending.ofLeading? at leading
  unfold Pending.IsLong
  repeat' split at leading
  all_goals
    cases leading
    try (simp only; omega)

/-- What a byte in range makes of a pending character keeps it long. -/
theorem Pending.IsLong.step {pending : Pending} {byte : UInt8} (long : pending.IsLong)
    (lower : pending.low ≤ byte.toNat) (more : ¬ pending.missing ≤ 1) :
    Pending.IsLong ⟨pending.missing - 1, pending.value * 64 + (byte.toNat - 0x80), 0x80, 0xBF⟩ := by
  unfold Pending.IsLong at long ⊢
  simp only
  omega

/-- A pending character ends as one that is not visible, or as an ill-formed part. -/
theorem exists_scan_pending {pending : Pending} (long : pending.IsLong) (bytes : List UInt8) :
    ∃ first rest, scan (some pending) bytes = first :: rest ∧
      ∀ c, first = some c → ¬ IsVisible c := by
  induction bytes generalizing pending with
  | nil => exact ⟨none, [], rfl, by simp⟩
  | cons byte bytes ih =>
    simp only [scan, Utf8.step]
    split
    next range =>
      split
      next last =>
        refine ⟨_, _, rfl, ?_⟩
        rintro c same
        obtain rfl := Option.some.inj same
        have enough := long.1 last
        exact not_isVisible_ofNat (by omega)
      next more => simpa using ih (long.step range.1 more)
    next => exact ⟨none, _, rfl, by simp⟩

/-- A visible character at the start is the first byte. -/
theorem exists_of_lossy_cons {bytes : List UInt8} {c : Char} {rest : List Char}
    (visible : IsVisible c) (shown : lossy bytes = c :: rest) :
    ∃ behind, bytes = UInt8.ofNat c.toNat :: behind ∧ lossy behind = rest := by
  unfold lossy at shown
  cases bytes with
  | nil => cases shown
  | cons byte behind =>
    simp only [scan, Utf8.step, start] at shown
    split at shown
    next ascii =>
      obtain ⟨first, others⟩ := List.cons.inj shown
      have value : (Char.ofNat byte.toNat).toNat = byte.toNat := toNat_ofNat_char (by omega)
      have first : Char.ofNat byte.toNat = c := first
      exact ⟨behind, by rw [← first, value]; simp, others⟩
    next =>
      split at shown
      -- A leading byte begins a character past ASCII or an ill-formed part.
      next pending leading =>
        obtain ⟨first, others, scanned, hidden⟩ :=
          exists_scan_pending (isLong_ofLeading? leading) behind
        rw [List.nil_append, scanned] at shown
        obtain ⟨shownFirst, _⟩ := List.cons.inj shown
        cases first with
        | none =>
          obtain rfl : '\uFFFD' = c := shownFirst
          exact absurd visible not_isVisible_replacement
        | some other =>
          obtain rfl : other = c := shownFirst
          exact absurd visible (hidden other rfl)
      next =>
        obtain ⟨shownFirst, _⟩ := List.cons.inj shown
        obtain rfl : '\uFFFD' = c := shownFirst
        exact absurd visible not_isVisible_replacement

/-- A visible character is shown only for its own byte. -/
theorem mem_of_mem_scan {pending : Option Pending} {bytes : List UInt8} {c : Char}
    (long : ∀ known, pending = some known → known.IsLong) (visible : IsVisible c)
    (member : some c ∈ scan pending bytes) : UInt8.ofNat c.toNat ∈ bytes := by
  -- A byte between characters begins one, is one, or is ill-formed.
  have started : ∀ byte : UInt8, (∀ known, (start byte).2 = some known → known.IsLong) ∧
      (some c ∈ (start byte).1 → UInt8.ofNat c.toNat = byte) := by
    intro byte
    unfold start
    split
    next ascii =>
      refine ⟨by simp, fun within => ?_⟩
      obtain rfl : c = Char.ofNat byte.toNat := by simpa using within
      rw [toNat_ofNat_char (by omega)]
      simp
    next =>
      split
      next known leading =>
        refine ⟨fun other same => ?_, by simp⟩
        obtain rfl := Option.some.inj same
        exact isLong_ofLeading? leading
      next => simp
  induction bytes generalizing pending with
  | nil => cases pending <;> simp [scan] at member
  | cons byte bytes ih =>
    rw [scan, List.mem_append] at member
    have stepped : (∀ known, (Utf8.step pending byte).2 = some known → known.IsLong) ∧
        (some c ∈ (Utf8.step pending byte).1 → UInt8.ofNat c.toNat = byte) := by
      cases pending with
      | none => exact started byte
      | some known =>
        have knownLong := long known rfl
        simp only [Utf8.step]
        split
        next range =>
          split
          next last =>
            refine ⟨by simp, fun within => ?_⟩
            have same := Option.some.inj (List.mem_singleton.1 within)
            have enough := knownLong.1 last
            rw [same] at visible
            exact absurd visible (not_isVisible_ofNat (by omega))
          next more =>
            refine ⟨fun other same => ?_, by simp⟩
            obtain rfl := Option.some.inj same
            exact knownLong.step range.1 more
        next => simpa using started byte
    rcases member with here | later
    · exact stepped.2 here ▸ List.mem_cons_self
    · exact List.mem_cons_of_mem _ (ih stepped.1 later)

theorem mem_of_mem_lossy {bytes : List UInt8} {c : Char} (visible : IsVisible c)
    (member : c ∈ lossy bytes) : UInt8.ofNat c.toNat ∈ bytes := by
  obtain ⟨part, within, same⟩ := List.mem_map.1 member
  cases part with
  | none =>
    obtain rfl : '\uFFFD' = c := same
    exact absurd visible not_isVisible_replacement
  | some other =>
    obtain rfl : other = c := same
    exact mem_of_mem_scan (by simp) visible within

/-! ### Back to bytes -/

/-- A single-byte character is written for itself only. -/
theorem eq_of_mem_encodeChar {c : Char} {byte : UInt8} (ascii : byte.toNat < 0x80)
    (member : byte ∈ encodeChar c) : encodeChar c = [byte] ∧ c = Char.ofNat byte.toNat := by
  have bound : c.toNat < 0x110000 := by
    rcases c.valid with small | large
    · exact Nat.lt_trans small (by decide)
    · exact large.2
  have value : ∀ n, (UInt8.ofNat n).toNat = n % 256 := fun n => UInt8.toNat_ofNat'
  unfold encodeChar continuation at member ⊢
  simp only at member ⊢
  split at member
  next small =>
    obtain rfl : byte = UInt8.ofNat c.toNat := by simpa using member
    rw [if_pos small]
    refine ⟨rfl, ?_⟩
    rw [value, Nat.mod_eq_of_lt (by omega)]
    exact (Char.ofNat_toNat c).symm
  next =>
  -- Longer encodings are made of bytes past ASCII only.
  exfalso
  split at member
  next =>
    simp only [List.mem_cons, List.not_mem_nil, or_false] at member
    rcases member with rfl | rfl
    all_goals
      rw [value] at ascii
      omega
  split at member
  next =>
    simp only [List.mem_cons, List.not_mem_nil, or_false] at member
    rcases member with rfl | rfl | rfl
    all_goals
      rw [value] at ascii
      omega
  next =>
    simp only [List.mem_cons, List.not_mem_nil, or_false] at member
    rcases member with rfl | rfl | rfl | rfl
    all_goals
      rw [value] at ascii
      omega

theorem encodeChar_ne_nil (c : Char) : encodeChar c ≠ [] := by
  unfold encodeChar
  simp only
  repeat' split
  all_goals simp

theorem notMem_encode {byte : UInt8} {text : List Char} (ascii : byte.toNat < 0x80)
    (absent : Char.ofNat byte.toNat ∉ text) : byte ∉ encode text := by
  intro member
  obtain ⟨c, within, written⟩ := List.mem_flatMap.1 member
  exact absent ((eq_of_mem_encodeChar ascii written).2 ▸ within)

/-- What is written starts with a single byte for a character of its own only. -/
theorem exists_of_encode_cons {byte : UInt8} {text : List Char} {bytes : List UInt8}
    (ascii : byte.toNat < 0x80) (written : encode text = byte :: bytes) :
    ∃ rest, text = Char.ofNat byte.toNat :: rest ∧ encode rest = bytes := by
  cases text with
  | nil => cases written
  | cons c rest =>
    rw [encode, List.flatMap_cons] at written
    obtain ⟨first, others, split⟩ := List.exists_cons_of_ne_nil (encodeChar_ne_nil c)
    have same : first = byte := by
      rw [split] at written
      exact (List.cons.inj written).1
    have member : byte ∈ encodeChar c := by
      rw [split, same]
      exact List.mem_cons_self
    obtain ⟨single, char_eq⟩ := eq_of_mem_encodeChar ascii member
    rw [single] at written
    exact ⟨rest, by rw [char_eq], (List.cons.inj written).2⟩

end TwinTree.Utf8

namespace TwinTree

open Utf8

/-- Text that is written as dots shows dots. -/
private theorem exists_of_encode_lossy_dot {name : Name} {bytes : List UInt8}
    (written : encode (lossy name) = 0x2E :: bytes) :
    ∃ rest, name = 0x2E :: rest ∧ encode (lossy rest) = bytes := by
  obtain ⟨rest, shown, others⟩ := exists_of_encode_cons (by decide) written
  obtain ⟨behind, rfl, same⟩ := exists_of_lossy_cons ⟨by decide, by decide⟩ shown
  exact ⟨behind, rfl, same ▸ others⟩

private theorem eq_nil_of_encode_lossy {name : Name} (written : encode (lossy name) = []) :
    name = [] := by
  have nothing : lossy name = [] := by
    cases shown : lossy name with
    | nil => rfl
    | cons c rest =>
      rw [shown, encode, List.flatMap_cons, List.append_eq_nil_iff] at written
      exact absurd written.1 (encodeChar_ne_nil c)
  cases name with
  | nil => rfl
  | cons byte rest =>
    -- Every byte shows something at once or leaves something pending that will show.
    rw [lossy, List.map_eq_nil_iff, scan, List.append_eq_nil_iff] at nothing
    simp only [Utf8.step, start] at nothing
    split at nothing
    next => cases nothing.1
    next =>
      split at nothing
      next pending leading =>
        obtain ⟨first, others, scanned, _⟩ := exists_scan_pending (isLong_ofLeading? leading) rest
        rw [scanned] at nothing
        cases nothing.2
      next => cases nothing.1

/-- What is shown of a plain name is a plain name. -/
theorem isPlain_encode_lossy {name : Name} (plain : IsPlain name) :
    IsPlain (encode (lossy name)) where
  ne_nil := fun empty => plain.ne_nil (eq_nil_of_encode_lossy empty)
  ne_dot := by
    intro isDot
    obtain ⟨rest, rfl, empty⟩ := exists_of_encode_lossy_dot isDot
    obtain rfl := eq_nil_of_encode_lossy empty
    exact plain.ne_dot rfl
  ne_dotDot := by
    intro isUp
    obtain ⟨rest, rfl, more⟩ := exists_of_encode_lossy_dot isUp
    obtain ⟨rest, rfl, empty⟩ := exists_of_encode_lossy_dot more
    obtain rfl := eq_nil_of_encode_lossy empty
    exact plain.ne_dotDot rfl
  slash_notMem := by
    refine notMem_encode (by decide) fun member => plain.slash_notMem ?_
    exact mem_of_mem_lossy ⟨by decide, by decide⟩ member

end TwinTree
