import Mathlib.Tactic.Ring

/-! Byte framing: numbers as big-endian bytes of a fixed width, and reads of an
exact number of bytes from the front of a stream. -/
namespace Framing

def encode : Nat → Nat → List UInt8
  | 0,_ => []
  | width + 1,n => UInt8.ofNat (n / 256 ^ width)::encode width n

def decodeFrom (start : Nat) (bytes : List UInt8) : Nat := bytes.foldl (fun n b => n * 256 + b.toNat) start

def decode (bytes : List UInt8) : Nat := decodeFrom 0 bytes

def readExact {α : Type} (n : Nat) (stream : List α) : Option (List α × List α) :=
  if n ≤ stream.length then some (stream.take n,stream.drop n) else none

@[simp] theorem encodeLength (width n) : (encode width n).length = width := by
  induction width with
  | zero => rfl
  | succ width ih => simp [encode,ih]

theorem decodeFromEncode (width n start) : decodeFrom start (encode width n) = start * 256 ^ width + n % 256 ^ width := by
  induction width generalizing start with
  | zero => simp [encode,decodeFrom,Nat.mod_one]
  | succ width ih =>
    have byte : (UInt8.ofNat (n / 256 ^ width)).toNat = n / 256 ^ width % 256 := by simp
    have first : decodeFrom start (encode (width + 1) n) =
        decodeFrom (start * 256 + n / 256 ^ width % 256) (encode width n) := by
      simp only [decodeFrom,encode,List.foldl_cons,byte]
    rw [first,ih,pow_succ,Nat.mod_mul]
    ring

theorem decodeEncode (fits : n < 256 ^ width) : decode (encode width n) = n := by
  simp [decode,decodeFromEncode,Nat.mod_eq_of_lt fits]

theorem readExactAppend (first rest : List α) : readExact first.length (first ++ rest) = some (first,rest) := by
  simp [readExact]

end Framing
