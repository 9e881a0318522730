/-!
# Byte strings

Every text of the statistics facility is a string of bytes: names come out of fixed fields of the
kernel, values out of its memory, and nothing promises an encoding. A NUL byte ends a text wherever
the text is held in a field or handed to the system, so the two cuts `upToNul` and `key` are the
vocabulary in which names are compared. Little-endian numbers are read and written byte by byte.
-/

namespace KernelStats

abbrev Bytes := List UInt8

def utf8 (text : String) : Bytes := text.toUTF8.data.toList

def decimal (n : Int) : Bytes := utf8 (toString n)

namespace Bytes

/-- What is left of a text that ends at its first NUL. -/
def upToNul (s : Bytes) : Bytes := s.takeWhile (· ≠ 0)

/-- The text in the first `size` bytes: up to a NUL, or all of them. -/
def bounded (size : Nat) (s : Bytes) : Bytes := upToNul (s.take size)

/-- Compares two terminated texts byte by byte, at most `size` of them. The end of a list stands for
the terminator, so bytes behind a NUL are never looked at. -/
def agree : (size : Nat) → Bytes → Bytes → Bool
  | 0, _, _ => true
  | size + 1, s, t =>
    let (a, b) := (s.headD 0, t.headD 0)
    a == b && (a == 0 || agree size s.tail t.tail)

/-- The number whose little-endian digits the bytes are. -/
def toNatLE : Bytes → Nat
  | [] => 0
  | b :: rest => b.toNat + 256 * toNatLE rest

def ofNatLE : (width : Nat) → Nat → Bytes
  | 0, _ => []
  | width + 1, n => UInt8.ofNat n :: ofNatLE width (n / 256)

@[simp] theorem length_ofNatLE (width n : Nat) : (ofNatLE width n).length = width := by
  induction width generalizing n with
  | zero => rfl
  | succ width ih => simp [ofNatLE, ih]

/-- How many numbers there are of at most `width` digits. -/
def capacity : (width : Nat) → Nat
  | 0 => 1
  | width + 1 => 256 * capacity width

theorem toNatLE_lt (s : Bytes) : toNatLE s < capacity s.length := by
  induction s with
  | nil => exact Nat.one_pos
  | cons b rest ih =>
    have hb := b.toNat_lt
    simp only [toNatLE, List.length_cons, capacity]
    omega

theorem toNatLE_ofNatLE (width n : Nat) : toNatLE (ofNatLE width n) = n % capacity width := by
  induction width generalizing n with
  | zero => simp [ofNatLE, toNatLE, capacity, Nat.mod_one]
  | succ width ih =>
    rw [capacity, Nat.mod_mul, ← ih]
    simp [ofNatLE, toNatLE]

theorem upToNul_length_le (s : Bytes) : (upToNul s).length ≤ s.length :=
  (List.takeWhile_sublist _).length_le

theorem zero_not_mem_upToNul (s : Bytes) : (0 : UInt8) ∉ upToNul s := by
  induction s with
  | nil => simp [upToNul]
  | cons b rest ih =>
    by_cases h : b = 0
    · simp [upToNul, h]
    · simpa [upToNul, h, Ne.symm h] using ih

theorem upToNul_append {s : Bytes} (h : (0 : UInt8) ∉ s) (rest : Bytes) :
    upToNul (s ++ rest) = s ++ rest.upToNul := by
  apply List.takeWhile_append_of_pos
  intro b hb
  have hne : b ≠ 0 := fun heq => h (heq ▸ hb)
  simpa using hne

theorem upToNul_of_not_mem {s : Bytes} (h : (0 : UInt8) ∉ s) : s.upToNul = s := by
  have happend := upToNul_append h []
  rwa [List.append_nil, show upToNul [] = [] from rfl, List.append_nil] at happend

theorem agree_iff (size : Nat) (s t : Bytes) :
    agree size s t = true ↔ s.bounded size = t.bounded size := by
  induction size generalizing s t with
  | zero => simp [agree, bounded, upToNul]
  | succ size ih =>
    cases s with
    | nil =>
      cases t with
      | nil => simp [agree]
      | cons b t => by_cases hb : b = 0 <;> simp [agree, bounded, upToNul, hb, Ne.symm]
    | cons a s =>
      by_cases ha : a = 0
      · cases t with
        | nil => simp [agree, bounded, upToNul, ha]
        | cons b t => by_cases hb : b = 0 <;> simp [agree, bounded, upToNul, ha, hb, Ne.symm]
      · cases t with
        | nil => simp [agree, bounded, upToNul, ha]
        | cons b t =>
          have ih := ih s t
          by_cases hb : b = 0
          · simp [agree, bounded, upToNul, ha, hb]
          · simpa [agree, bounded, upToNul, ha, hb] using fun _ => ih

end Bytes

end KernelStats
