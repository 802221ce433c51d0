import Mathlib.Algebra.Order.BigOperators.Group.List
import Mathlib.Algebra.GroupWithZero.Nat
import Mathlib.Algebra.Order.Ring.Nat
import Mathlib.Data.Nat.Log

set_option autoImplicit false

/-! # Sizes on the protobuf wire

The number of bytes of the fields a message consists of, for field numbers up to 15, whose tag is
one byte, and the number of digits of a number written as text. Both grow with what they hold
(`lenDelim_mono`, `digits_mono`), which is all that bounds on messages need. -/

namespace Protobuf

/-! ## Fields -/

/-- A base-128 varint: seven bits a byte. -/
def varintSize (n : Nat) : Nat := Nat.log2 n / 7 + 1

/-- A length-delimited field with `n` bytes in it: tag, length, contents. -/
def lenDelim (n : Nat) : Nat := 1 + varintSize n + n

/-- A text or bytes field, which is left out if it is empty. -/
def bytesField (n : Nat) : Nat := if n = 0 then 0 else lenDelim n

/-- A varint field, which is left out if it is zero. -/
def varintField (n : Nat) : Nat := if n = 0 then 0 else 1 + varintSize n

/-- A fixed64 field, which is left out if it is zero. -/
def fixed64Field (n : Nat) : Nat := if n = 0 then 0 else 9

/-- A fixed32 field, which is left out if it is zero. -/
def fixed32Field (n : Nat) : Nat := if n = 0 then 0 else 5

/-- A repeated field of messages with these sizes. -/
def repeatedField (sizes : List Nat) : Nat := (sizes.map lenDelim).sum

theorem varintSize_mono {m n : Nat} (h : m ≤ n) : varintSize m ≤ varintSize n := by
  unfold varintSize
  rw [Nat.log2_eq_log_two, Nat.log2_eq_log_two]
  exact Nat.succ_le_succ (Nat.div_le_div_right (Nat.log_mono_right h))

theorem lenDelim_mono {m n : Nat} (h : m ≤ n) : lenDelim m ≤ lenDelim n :=
  Nat.add_le_add (Nat.add_le_add_left (varintSize_mono h) 1) h

theorem fixed64Field_le (n : Nat) : fixed64Field n ≤ 9 := by
  unfold fixed64Field
  split <;> omega

/-- Messages that are larger one by one make a larger field. -/
theorem repeatedField_mono {α : Type*} {xs : List α} {f g : α → Nat} (h : ∀ x ∈ xs, f x ≤ g x) :
    repeatedField (xs.map f) ≤ repeatedField (xs.map g) := by
  unfold repeatedField
  rw [List.map_map, List.map_map]
  exact List.sum_le_sum fun x hx => lenDelim_mono (h x hx)

/-! ## Numbers as text -/

/-- The number of decimal digits. -/
def digits (n : Nat) : Nat := (Nat.toDigits 10 n).length

theorem digits_pos (n : Nat) : 0 < digits n := Nat.length_toDigits_pos

theorem digits_mono {m n : Nat} (h : m ≤ n) : digits m ≤ digits n := by
  have hn : n < 10 ^ digits n :=
    (Nat.length_toDigits_le_iff (by decide) (digits_pos n)).1 le_rfl
  exact (Nat.length_toDigits_le_iff (by decide) (digits_pos n)).2 (lt_of_le_of_lt h hn)

theorem utf8ByteSize_ofList_of_ascii {cs : List Char} (h : ∀ c ∈ cs, c.utf8Size = 1) :
    (String.ofList cs).utf8ByteSize = cs.length := by
  induction cs with
  | nil => rfl
  | cons c cs ih =>
      rw [List.forall_mem_cons] at h
      rw [String.ofList_cons, String.utf8ByteSize_append, String.utf8ByteSize_singleton, h.1,
        ih h.2, List.length_cons, Nat.add_comm]

/-- A number in text has one byte a digit. -/
theorem utf8ByteSize_toString (n : Nat) : (toString n).utf8ByteSize = digits n := by
  rw [Nat.toString_eq_ofList_toDigits]
  refine utf8ByteSize_ofList_of_ascii fun c hc => ?_
  have hdigit := Nat.isDigit_of_mem_toDigits (by decide) (by decide) hc
  simp only [Char.isDigit, Bool.and_eq_true, decide_eq_true_eq] at hdigit
  exact Char.utf8Size_eq_one_iff.2 (UInt32.le_trans hdigit.2 (by decide))

/-- A number can be read back from its text. -/
theorem eq_of_toString_eq {m n : Nat} (h : toString m = toString n) : m = n := by
  rw [Nat.toString_eq_ofList_toDigits, Nat.toString_eq_ofList_toDigits] at h
  have hdigits : Nat.toDigits 10 m = Nat.toDigits 10 n := by
    simpa using congrArg String.toList h
  rw [← Nat.ofDigitChars_ten_toDigits (n := m), hdigits, Nat.ofDigitChars_ten_toDigits]

end Protobuf
