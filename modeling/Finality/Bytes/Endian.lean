import Finality.Bytes

/-!
# Numbers as bytes

`leBytes width n` writes the low `8 * width` bits of `n`, least significant byte
first, and `leValue` reads such bytes back; `beBytes` and `beValue` are the same with
the most significant byte first. Writing and reading are inverse on numbers that fit
(`leValue_leBytes_of_lt`) and on all byte strings (`leBytes_leValue`).
-/

namespace Finality

/-- The low `8 * width` bits of a number, least significant byte first. -/
def leBytes : (width : Nat) → (value : Nat) → Bytes
  | 0, _ => []
  | width + 1, value => UInt8.ofNat (value % 256) :: leBytes width (value / 256)

/-- The number written by `bytes`, least significant byte first. -/
def leValue : Bytes → Nat
  | [] => 0
  | byte :: rest => byte.toNat + 256 * leValue rest

/-- The low `8 * width` bits of a number, most significant byte first. -/
def beBytes (width value : Nat) : Bytes := (leBytes width value).reverse

/-- The number written by `bytes`, most significant byte first. -/
def beValue (bytes : Bytes) : Nat := bytes.foldl (fun value byte => 256 * value + byte.toNat) 0

@[simp] theorem length_leBytes (width value : Nat) : (leBytes width value).length = width := by
  induction width generalizing value with
  | zero => rfl
  | succ width ih => simp [leBytes, ih]

@[simp] theorem length_beBytes (width value : Nat) : (beBytes width value).length = width := by
  simp [beBytes]

theorem leValue_lt (bytes : Bytes) : leValue bytes < capacity bytes.length := by
  induction bytes with
  | nil => simp [leValue, capacity]
  | cons byte rest ih =>
    have hbyte := byte.toNat_lt
    simp only [leValue, List.length_cons, capacity]
    omega

theorem leValue_leBytes (width value : Nat) :
    leValue (leBytes width value) = value % capacity width := by
  induction width generalizing value with
  | zero => simp [leBytes, leValue, capacity, Nat.mod_one]
  | succ width ih =>
    have hbyte : (UInt8.ofNat (value % 256)).toNat = value % 256 := by
      simp [UInt8.toNat_ofNat']
    simp only [leBytes, leValue, ih, hbyte]
    rw [capacity, Nat.mod_mul]

theorem leValue_leBytes_of_lt {width value : Nat} (hfits : value < capacity width) :
    leValue (leBytes width value) = value := by
  rw [leValue_leBytes, Nat.mod_eq_of_lt hfits]

theorem leBytes_leValue (bytes : Bytes) : leBytes bytes.length (leValue bytes) = bytes := by
  induction bytes with
  | nil => rfl
  | cons byte rest ih =>
    have hbyte := byte.toNat_lt
    have hlow : (byte.toNat + 256 * leValue rest) % 256 = byte.toNat := by omega
    have hhigh : (byte.toNat + 256 * leValue rest) / 256 = leValue rest := by omega
    simp only [List.length_cons, leBytes, leValue, hlow, hhigh, ih]
    simp

theorem beValue_reverse (bytes : Bytes) : beValue bytes.reverse = leValue bytes := by
  rw [beValue, List.foldl_reverse]
  induction bytes with
  | nil => rfl
  | cons byte bytes ih =>
      rw [List.foldr_cons, ih, leValue, Nat.add_comm]

theorem beValue_lt (bytes : Bytes) : beValue bytes < capacity bytes.length := by
  have reversed := beValue_reverse bytes.reverse
  rw [List.reverse_reverse] at reversed
  rw [reversed, ← List.length_reverse]
  exact leValue_lt bytes.reverse

theorem beBytes_beValue (bytes : Bytes) : beBytes bytes.length (beValue bytes) = bytes := by
  have reversed := beValue_reverse bytes.reverse
  rw [List.reverse_reverse] at reversed
  rw [beBytes, reversed, ← List.length_reverse, leBytes_leValue, List.reverse_reverse]

theorem beValue_beBytes {width value : Nat} (fits : value < capacity width) :
    beValue (beBytes width value) = value := by
  rw [beBytes, beValue_reverse, leValue_leBytes_of_lt fits]

end Finality
