import TwinTree.Text.Utf8.Basic

/-!
# Laws of UTF-8

`encode_eq_of_decode?`: what is read is written back. `lossy_eq_of_decode?`: on well-formed
content the shown text is the text read. `lossy_encode`: what is written is shown as it was.
-/
namespace TwinTree.Utf8

theorem lossy_eq_of_decode? {bytes : List UInt8} {text : List Char}
    (decoded : decode? bytes = some text) : lossy bytes = text := by
  unfold decode? at decoded
  unfold lossy
  generalize scan none bytes = parts at decoded
  induction parts generalizing text with
  | nil => simp_all [wellFormed?]
  | cons part parts ih =>
    cases part with
    | none => simp [wellFormed?] at decoded
    | some c =>
      obtain ⟨tail, decodedTail, rfl⟩ := Option.map_eq_some_iff.1 decoded
      simp [ih decodedTail]

/-- A pending character is completed by bytes in its range, or the content is refused. -/
theorem scan_pending {pending : Pending} {bytes : List UInt8} {text : List Char}
    (decoded : wellFormed? (scan (some pending) bytes) = some text) :
    ∃ byte rest, bytes = byte :: rest ∧ pending.low ≤ byte.toNat ∧ byte.toNat ≤ pending.high ∧
      if pending.missing ≤ 1 then
        ∃ tail, text = Char.ofNat (pending.value * 64 + (byte.toNat - 0x80)) :: tail ∧
          decode? rest = some tail
      else
        wellFormed? (scan (some ⟨pending.missing - 1,
          pending.value * 64 + (byte.toNat - 0x80), 0x80, 0xBF⟩) rest) = some text := by
  cases bytes with
  | nil => simp [scan, wellFormed?] at decoded
  | cons byte rest =>
    refine ⟨byte, rest, rfl, ?_⟩
    simp only [scan, step] at decoded
    -- A byte out of range makes an ill-formed part, which is not decoded.
    split at decoded
    next inRange =>
      refine ⟨inRange.1, inRange.2, ?_⟩
      split at decoded
      next last =>
        rw [if_pos last]
        obtain ⟨tail, decodedTail, rfl⟩ := Option.map_eq_some_iff.1 decoded
        exact ⟨tail, rfl, decodedTail⟩
      next more =>
        rw [if_neg more]
        simpa using decoded
    next => simp [wellFormed?] at decoded

theorem toNat_ofNat_char {n : Nat} (valid : n < 0xD800 ∨ 0xDFFF < n ∧ n < 0x110000) :
    (Char.ofNat n).toNat = n := by
  have isValid : n.isValidChar := valid
  rw [Char.ofNat, dif_pos isValid]
  rfl

theorem ofNat_eq_of_toNat {byte : UInt8} {n : Nat} (equal : byte.toNat = n) :
    UInt8.ofNat n = byte := by
  subst equal; simp

theorem scan_pending_one {value low high : Nat} {bytes : List UInt8} {text : List Char}
    (decoded : wellFormed? (scan (some ⟨1, value, low, high⟩) bytes) = some text) :
    ∃ byte rest tail, bytes = byte :: rest ∧ low ≤ byte.toNat ∧ byte.toNat ≤ high ∧
      text = Char.ofNat (value * 64 + (byte.toNat - 0x80)) :: tail ∧ decode? rest = some tail := by
  obtain ⟨byte, rest, rfl, lower, upper, final⟩ := scan_pending decoded
  obtain ⟨tail, rfl, decodedTail⟩ := final
  exact ⟨byte, rest, tail, rfl, lower, upper, rfl, decodedTail⟩

theorem scan_pending_two {value low high : Nat} {bytes : List UInt8} {text : List Char}
    (decoded : wellFormed? (scan (some ⟨2, value, low, high⟩) bytes) = some text) :
    ∃ first byte rest tail, bytes = first :: byte :: rest ∧
      low ≤ first.toNat ∧ first.toNat ≤ high ∧ 0x80 ≤ byte.toNat ∧ byte.toNat ≤ 0xBF ∧
      text = Char.ofNat ((value * 64 + (first.toNat - 0x80)) * 64 + (byte.toNat - 0x80)) :: tail ∧
      decode? rest = some tail := by
  obtain ⟨first, rest, rfl, lower, upper, more⟩ := scan_pending decoded
  obtain ⟨byte, rest, tail, rfl, final⟩ := scan_pending_one more
  exact ⟨first, byte, rest, tail, rfl, lower, upper, final⟩

theorem scan_pending_three {value low high : Nat} {bytes : List UInt8} {text : List Char}
    (decoded : wellFormed? (scan (some ⟨3, value, low, high⟩) bytes) = some text) :
    ∃ first second byte rest tail, bytes = first :: second :: byte :: rest ∧
      low ≤ first.toNat ∧ first.toNat ≤ high ∧ 0x80 ≤ second.toNat ∧ second.toNat ≤ 0xBF ∧
      0x80 ≤ byte.toNat ∧ byte.toNat ≤ 0xBF ∧
      text = Char.ofNat (((value * 64 + (first.toNat - 0x80)) * 64 + (second.toNat - 0x80)) * 64 +
        (byte.toNat - 0x80)) :: tail ∧
      decode? rest = some tail := by
  obtain ⟨first, rest, rfl, lower, upper, more⟩ := scan_pending decoded
  obtain ⟨second, byte, rest, tail, rfl, final⟩ := scan_pending_two more
  exact ⟨first, second, byte, rest, tail, rfl, lower, upper, final⟩

theorem encodeChar_two {n : Nat} {lead byte : UInt8} (lower : 0x80 ≤ n) (upper : n < 0x800)
    (leading : lead.toNat = 0xC0 + n / 64) (last : byte.toNat = 0x80 + n % 64) :
    encodeChar (Char.ofNat n) = [lead, byte] := by
  have value := toNat_ofNat_char (n := n) (by omega)
  simp only [encodeChar, value, continuation]
  rw [if_neg (by omega), if_pos upper, ofNat_eq_of_toNat leading, ofNat_eq_of_toNat last]

theorem encodeChar_three {n : Nat} {lead second byte : UInt8} (lower : 0x800 ≤ n)
    (upper : n < 0x10000) (valid : n < 0xD800 ∨ 0xDFFF < n)
    (leading : lead.toNat = 0xE0 + n / 4096) (middle : second.toNat = 0x80 + n / 64 % 64)
    (last : byte.toNat = 0x80 + n % 64) :
    encodeChar (Char.ofNat n) = [lead, second, byte] := by
  have value := toNat_ofNat_char (n := n) (by omega)
  simp only [encodeChar, value, continuation]
  rw [if_neg (by omega), if_neg (by omega), if_pos upper, ofNat_eq_of_toNat leading,
    ofNat_eq_of_toNat middle, ofNat_eq_of_toNat last]

theorem encodeChar_four {n : Nat} {lead second third byte : UInt8} (lower : 0x10000 ≤ n)
    (upper : n < 0x110000)
    (leading : lead.toNat = 0xF0 + n / 262144) (following : second.toNat = 0x80 + n / 4096 % 64)
    (middle : third.toNat = 0x80 + n / 64 % 64) (last : byte.toNat = 0x80 + n % 64) :
    encodeChar (Char.ofNat n) = [lead, second, third, byte] := by
  have value := toNat_ofNat_char (n := n) (by omega)
  simp only [encodeChar, value, continuation]
  rw [if_neg (by omega), if_neg (by omega), if_neg (by omega), ofNat_eq_of_toNat leading,
    ofNat_eq_of_toNat following, ofNat_eq_of_toNat middle, ofNat_eq_of_toNat last]

/-- A character past ASCII is read from exactly the bytes that encode it. -/
theorem exists_encodeChar_of_leading {lead : UInt8} {pending : Pending} {rest : List UInt8}
    {text : List Char} (leading : Pending.ofLeading? lead.toNat = some pending)
    (decoded : wellFormed? (scan (some pending) rest) = some text) :
    ∃ c tail remaining, text = c :: tail ∧ lead :: rest = encodeChar c ++ remaining ∧
      remaining.length ≤ rest.length ∧ decode? remaining = some tail := by
  -- The leading bytes of three-byte characters differ only in the bounds that they put on the
  -- second byte, and so do those of four.
  have two {value low high : Nat} (equal : pending = ⟨2, value, low, high⟩)
      (leadValue : lead.toNat = 0xE0 + value)
      (bounds : 0x80 ≤ low ∧ high ≤ 0xBF ∧ value < 16 ∧ (value = 0 → 0xA0 ≤ low) ∧
        (value = 13 → high ≤ 0x9F)) :
      ∃ c tail remaining, text = c :: tail ∧ lead :: rest = encodeChar c ++ remaining ∧
        remaining.length ≤ rest.length ∧ decode? remaining = some tail := by
    subst equal
    obtain ⟨first, byte, remaining, tail, rfl, low1, high1, low2, high2, rfl, decodedTail⟩ :=
      scan_pending_two decoded
    have encoded : encodeChar (Char.ofNat ((value * 64 + (first.toNat - 0x80)) * 64 +
        (byte.toNat - 0x80))) = [lead, first, byte] :=
      encodeChar_three (by omega) (by omega) (by omega) (by omega) (by omega) (by omega)
    exact ⟨_, tail, remaining, rfl, by simp [encoded], by simp; omega, decodedTail⟩
  have three {value low high : Nat} (equal : pending = ⟨3, value, low, high⟩)
      (leadValue : lead.toNat = 0xF0 + value)
      (bounds : 0x80 ≤ low ∧ high ≤ 0xBF ∧ value < 5 ∧ (value = 0 → 0x90 ≤ low) ∧
        (value = 4 → high ≤ 0x8F)) :
      ∃ c tail remaining, text = c :: tail ∧ lead :: rest = encodeChar c ++ remaining ∧
        remaining.length ≤ rest.length ∧ decode? remaining = some tail := by
    subst equal
    obtain ⟨first, second, byte, remaining, tail, rfl, low1, high1, low2, high2, low3, high3, rfl,
      decodedTail⟩ := scan_pending_three decoded
    have encoded : encodeChar (Char.ofNat (((value * 64 + (first.toNat - 0x80)) * 64 +
        (second.toNat - 0x80)) * 64 + (byte.toNat - 0x80))) = [lead, first, second, byte] :=
      encodeChar_four (by omega) (by omega) (by omega) (by omega) (by omega) (by omega)
    exact ⟨_, tail, remaining, rfl, by simp [encoded], by simp; omega, decodedTail⟩
  -- The rows of the table: one of two bytes, three of three, three of four.
  unfold Pending.ofLeading? at leading
  split at leading
  next range =>
    obtain ⟨byte, remaining, tail, rfl, low1, high1, rfl, decodedTail⟩ :=
      scan_pending_one (by simpa [← Option.some.inj leading] using decoded)
    have encoded : encodeChar (Char.ofNat ((lead.toNat - 0xC0) * 64 + (byte.toNat - 0x80))) =
        [lead, byte] :=
      encodeChar_two (by omega) (by omega) (by omega) (by omega)
    exact ⟨_, tail, remaining, rfl, by simp [encoded], by simp, decodedTail⟩
  split at leading
  next range => exact two (Option.some.inj leading).symm (by omega) (by omega)
  split at leading
  next range => exact two (Option.some.inj leading).symm (by omega) (by omega)
  split at leading
  next range => exact two (Option.some.inj leading).symm (by omega) (by omega)
  split at leading
  next range => exact three (Option.some.inj leading).symm (by omega) (by omega)
  split at leading
  next range => exact three (Option.some.inj leading).symm (by omega) (by omega)
  split at leading
  next range => exact three (Option.some.inj leading).symm (by omega) (by omega)
  simp at leading

/-- What is read is written back. -/
theorem encode_eq_of_decode? {bytes : List UInt8} {text : List Char}
    (decoded : decode? bytes = some text) : encode text = bytes := by
  -- One character is read at a time, and what remains is shorter by its bytes.
  match bytes with
  | [] => simp_all [decode?, scan, wellFormed?, encode]
  | lead :: rest =>
    simp only [decode?, scan, step, start] at decoded
    split at decoded
    next ascii =>
      obtain ⟨tail, decodedTail, rfl⟩ := Option.map_eq_some_iff.1 decoded
      have ih := encode_eq_of_decode? decodedTail
      have value := toNat_ofNat_char (n := lead.toNat) (by omega)
      simp only [encode, List.flatMap_cons] at ih ⊢
      rw [ih]
      simp [encodeChar, value, ascii]
    next =>
      cases leading : Pending.ofLeading? lead.toNat with
      | none => simp [leading, wellFormed?] at decoded
      | some pending =>
        rw [leading] at decoded
        obtain ⟨c, tail, remaining, rfl, split, shorter, decodedTail⟩ :=
          exists_encodeChar_of_leading leading decoded
        have ih := encode_eq_of_decode? decodedTail
        simp only [encode, List.flatMap_cons] at ih ⊢
        rw [ih, split]
termination_by bytes.length

/-! ### What is written is read back -/

theorem toNat_continuation (bits : Nat) : (continuation bits).toNat = 0x80 + bits % 64 := by
  rw [continuation, UInt8.toNat_ofNat']
  omega

/-- A byte that announces more leaves a character pending. -/
theorem scan_leading {lead : Nat} {pending : Pending} {rest : List UInt8} (small : lead < 0x100)
    (leading : Pending.ofLeading? lead = some pending) :
    scan none (UInt8.ofNat lead :: rest) = scan (some pending) rest := by
  have value : (UInt8.ofNat lead).toNat = lead := by
    rw [UInt8.toNat_ofNat']
    omega
  have large : ¬ lead < 0x80 := by
    intro below
    unfold Pending.ofLeading? at leading
    repeat rw [if_neg (by omega)] at leading
    cases leading
  simp [scan, step, start, value, large, leading]

/-- The last byte of a character completes it. -/
theorem scan_last {value low high bits : Nat} {rest : List UInt8}
    (inRange : low ≤ 0x80 + bits % 64 ∧ 0x80 + bits % 64 ≤ high) :
    scan (some ⟨1, value, low, high⟩) (continuation bits :: rest) =
      some (Char.ofNat (value * 64 + bits % 64)) :: scan none rest := by
  simp [scan, step, toNat_continuation, inRange]

/-- A byte before the last one adds six bits to a character. -/
theorem scan_more {missing value low high bits : Nat} {rest : List UInt8}
    (inRange : low ≤ 0x80 + bits % 64 ∧ 0x80 + bits % 64 ≤ high) :
    scan (some ⟨missing + 2, value, low, high⟩) (continuation bits :: rest) =
      scan (some ⟨missing + 1, value * 64 + bits % 64, 0x80, 0xBF⟩) rest := by
  simp [scan, step, toNat_continuation, inRange]

/-- The bounds after the leading byte of three admit every character of that length. -/
theorem exists_ofLeading?_three {n : Nat} (lower : 0x800 ≤ n) (upper : n < 0x10000)
    (valid : n < 0xD800 ∨ 0xDFFF < n) :
    ∃ low high, Pending.ofLeading? (0xE0 + n / 4096) = some ⟨2, n / 4096, low, high⟩ ∧
      low ≤ 0x80 + n / 64 % 64 ∧ 0x80 + n / 64 % 64 ≤ high := by
  unfold Pending.ofLeading?
  rw [if_neg (by omega)]
  split
  next first =>
    have value : n / 4096 = 0 := by omega
    exact ⟨_, _, by rw [value], by omega, by omega⟩
  split
  next surrogates =>
    have value : n / 4096 = 13 := by omega
    exact ⟨_, _, by rw [value], by omega, by omega⟩
  rw [if_pos (by omega), Nat.add_sub_cancel_left]
  exact ⟨_, _, rfl, by omega, by omega⟩

/-- The bounds after the leading byte of four admit every character of that length. -/
theorem exists_ofLeading?_four {n : Nat} (lower : 0x10000 ≤ n) (upper : n < 0x110000) :
    ∃ low high, Pending.ofLeading? (0xF0 + n / 262144) = some ⟨3, n / 262144, low, high⟩ ∧
      low ≤ 0x80 + n / 4096 % 64 ∧ 0x80 + n / 4096 % 64 ≤ high := by
  unfold Pending.ofLeading?
  rw [if_neg (by omega), if_neg (by omega), if_neg (by omega), if_neg (by omega)]
  split
  next first =>
    have value : n / 262144 = 0 := by omega
    exact ⟨_, _, by rw [value], by omega, by omega⟩
  split
  next middle =>
    rw [Nat.add_sub_cancel_left]
    exact ⟨_, _, rfl, by omega, by omega⟩
  next last =>
    have value : n / 262144 = 4 := by omega
    rw [if_pos (by omega)]
    exact ⟨_, _, by rw [value], by omega, by omega⟩

theorem scan_encodeChar (c : Char) (rest : List UInt8) :
    scan none (encodeChar c ++ rest) = some c :: scan none rest := by
  have valid : c.toNat < 0xD800 ∨ 0xDFFF < c.toNat ∧ c.toNat < 0x110000 := c.valid
  have same : Char.ofNat c.toNat = c := Char.ofNat_toNat c
  -- From here on only the code point counts; it splits into six bits for each byte behind the
  -- first.
  revert same valid
  unfold encodeChar
  generalize c.toNat = n
  intro valid same
  simp only
  split
  next ascii =>
    have value : (UInt8.ofNat n).toNat = n := by
      rw [UInt8.toNat_ofNat']
      omega
    simp [scan, step, start, value, ascii, same]
  split
  next two =>
    have leading : Pending.ofLeading? (0xC0 + n / 64) = some ⟨1, n / 64, 0x80, 0xBF⟩ := by
      rw [Pending.ofLeading?, if_pos (by omega), Nat.add_sub_cancel_left]
    have whole : n / 64 * 64 + n % 64 = n := by omega
    simp only [List.cons_append, List.nil_append]
    rw [scan_leading (by omega) leading, scan_last (by omega), whole, same]
  split
  next three =>
    obtain ⟨low, high, leading, inRange⟩ := exists_ofLeading?_three (by omega) three (by omega)
    have whole : (n / 4096 * 64 + n / 64 % 64) * 64 + n % 64 = n := by omega
    simp only [List.cons_append, List.nil_append]
    rw [scan_leading (by omega) leading, scan_more inRange, scan_last (by omega), whole, same]
  next four =>
    obtain ⟨low, high, leading, inRange⟩ := exists_ofLeading?_four (n := n) (by omega) (by omega)
    have whole : ((n / 262144 * 64 + n / 4096 % 64) * 64 + n / 64 % 64) * 64 + n % 64 = n := by
      omega
    simp only [List.cons_append, List.nil_append]
    rw [scan_leading (by omega) leading, scan_more inRange, scan_more (by omega),
      scan_last (by omega), whole, same]

theorem lossy_encode (text : List Char) : lossy (encode text) = text := by
  induction text with
  | nil => rfl
  | cons c rest ih =>
    have written : encode (c :: rest) = encodeChar c ++ encode rest := rfl
    rw [lossy, written, scan_encodeChar, List.map_cons]
    exact congrArg _ ih

/-- What is written is read back. -/
theorem decode?_encode (text : List Char) : decode? (encode text) = some text := by
  induction text with
  | nil => rfl
  | cons c rest ih =>
    have written : encode (c :: rest) = encodeChar c ++ encode rest := rfl
    rw [decode?, written, scan_encodeChar, wellFormed?]
    exact congrArg (Option.map _) ih

/-- Texts that are written alike are one text. -/
theorem encode_inj {text other : List Char} : encode text = encode other ↔ text = other := by
  constructor
  · intro same
    rw [← lossy_encode text, same, lossy_encode]
  · rintro rfl
    rfl

end TwinTree.Utf8
