/-!
# UTF-8

Texts are lists of characters and stored content is a list of bytes. `encode` writes a text,
`decode?` reads well-formed content, and `lossy` shows any bytes at all, each maximal ill-formed
part as U+FFFD. Both readings are views of one left-to-right scan, so they agree wherever the
content is well formed.
-/
namespace TwinTree.Utf8

/-- A byte that continues a character, holding six bits of its code point. -/
def continuation (bits : Nat) : UInt8 := .ofNat (0x80 + bits % 64)

def encodeChar (c : Char) : List UInt8 :=
  let n := c.toNat
  if n < 0x80 then [.ofNat n]
  else if n < 0x800 then [.ofNat (0xC0 + n / 64), continuation n]
  else if n < 0x10000 then [.ofNat (0xE0 + n / 4096), continuation (n / 64), continuation n]
  else [.ofNat (0xF0 + n / 262144), continuation (n / 4096), continuation (n / 64),
    continuation n]

def encode (text : List Char) : List UInt8 := text.flatMap encodeChar

/-- A character whose first bytes have been read. -/
structure Pending where
  /-- How many bytes are still to come. -/
  missing : Nat
  /-- The code point as far as the bytes read give it. -/
  value : Nat
  /-- The least byte that may come next. -/
  low : Nat
  /-- The greatest byte that may come next. -/
  high : Nat

/-- What a leading byte announces. The bounds on the byte after it rule out overlong forms,
surrogates and code points past U+10FFFF. -/
def Pending.ofLeading? (byte : Nat) : Option Pending :=
  if 0xC2 ≤ byte ∧ byte ≤ 0xDF then some ⟨1, byte - 0xC0, 0x80, 0xBF⟩
  else if byte = 0xE0 then some ⟨2, 0, 0xA0, 0xBF⟩
  else if byte = 0xED then some ⟨2, 13, 0x80, 0x9F⟩
  else if 0xE1 ≤ byte ∧ byte ≤ 0xEF then some ⟨2, byte - 0xE0, 0x80, 0xBF⟩
  else if byte = 0xF0 then some ⟨3, 0, 0x90, 0xBF⟩
  else if 0xF1 ≤ byte ∧ byte ≤ 0xF3 then some ⟨3, byte - 0xF0, 0x80, 0xBF⟩
  else if byte = 0xF4 then some ⟨3, 4, 0x80, 0x8F⟩
  else none

/-- What one byte completes, `none` being an ill-formed part, and what it leaves unfinished. -/
abbrev Step := List (Option Char) × Option Pending

/-- A byte that stands between characters. -/
def start (byte : UInt8) : Step :=
  if byte.toNat < 0x80 then ([some (Char.ofNat byte.toNat)], none)
  else match Pending.ofLeading? byte.toNat with
    | some pending => ([], some pending)
    | none => ([none], none)

/-- A byte that cannot continue the pending character ends it as ill-formed and starts afresh. -/
def step : Option Pending → UInt8 → Step
  | none, byte => start byte
  | some pending, byte =>
    if pending.low ≤ byte.toNat ∧ byte.toNat ≤ pending.high then
      let value := pending.value * 64 + (byte.toNat - 0x80)
      if pending.missing ≤ 1 then ([some (Char.ofNat value)], none)
      else ([], some ⟨pending.missing - 1, value, 0x80, 0xBF⟩)
    else (none :: (start byte).1, (start byte).2)

/-- The characters of the bytes, and `none` for each maximal ill-formed part. -/
def scan : Option Pending → List UInt8 → List (Option Char)
  | none, [] => []
  | some _, [] => [none]
  | pending, byte :: rest => (step pending byte).1 ++ scan (step pending byte).2 rest

/-- The characters of a scan, unless some part is ill-formed. -/
def wellFormed? : List (Option Char) → Option (List Char)
  | [] => some []
  | none :: _ => none
  | some c :: rest => (wellFormed? rest).map (c :: ·)

def decode? (bytes : List UInt8) : Option (List Char) := wellFormed? (scan none bytes)

def lossy (bytes : List UInt8) : List Char := (scan none bytes).map (·.getD '\uFFFD')

end TwinTree.Utf8
