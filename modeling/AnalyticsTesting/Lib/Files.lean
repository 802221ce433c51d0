import Mathlib.Data.List.Basic
import Mathlib.Order.Basic

set_option autoImplicit false

/-! # Names and files

A name leads to a file, and what is read or written through an open file does not depend on what its
name leads to by then. `create` is an open for writing that truncates and `openAppend` one that does
not, `rename` moves a name onto another one at once, `unlink` removes a name and not the file. -/

/-- What the names lead to, and what the files hold. Files are numbered as they are made. -/
structure Files (ν χ : Type*) where
  names : ν → Option Nat
  data : Nat → List χ
  next : Nat
  names_lt : ∀ n i, names n = some i → i < next

namespace Files

variable {ν χ : Type*}

/-- No name leads anywhere. -/
def empty : Files ν χ where
  names _ := none
  data _ := []
  next := 0
  names_lt := by simp

/-- The file that opening `n` for writing gives: the one it leads to, or a new one. -/
def target (fs : Files ν χ) (n : ν) : Nat := (fs.names n).getD fs.next

/-- Write to an open file. -/
def append (fs : Files ν χ) (i : Nat) (cs : List χ) : Files ν χ :=
  { fs with data := Function.update fs.data i (fs.data i ++ cs) }

variable {fs : Files ν χ} {n m : ν} {i j : Nat} {cs : List χ}

@[simp] theorem append_data_self : (fs.append i cs).data i = fs.data i ++ cs := by simp [append]

@[simp] theorem append_data_ne (h : j ≠ i) : (fs.append i cs).data j = fs.data j := by
  simp [append, h]

/-- Opening a name for writing leaves alone every file that exists and that the name does not lead
to. -/
theorem ne_target (hi : i < fs.next) (hn : fs.names n ≠ some i) : i ≠ fs.target n := by
  unfold target
  cases h : fs.names n with
  | none => simp; omega
  | some j =>
      rintro rfl
      exact hn h

section Names

variable [DecidableEq ν]

/-- `open(n, "w")`. -/
def create (fs : Files ν χ) (n : ν) : Files ν χ where
  names := Function.update fs.names n (some (fs.target n))
  data := Function.update fs.data (fs.target n) []
  next := max fs.next (fs.target n + 1)
  names_lt m i h := by
    by_cases hm : m = n
    · obtain rfl : fs.target n = i := by simpa [hm] using h
      omega
    · have := fs.names_lt m i (by simpa [hm] using h)
      omega

/-- `open(n, "a")`. -/
def openAppend (fs : Files ν χ) (n : ν) : Files ν χ where
  names := Function.update fs.names n (some (fs.target n))
  data := Function.update fs.data (fs.target n) (((fs.names n).map fs.data).getD [])
  next := max fs.next (fs.target n + 1)
  names_lt m i h := by
    by_cases hm : m = n
    · obtain rfl : fs.target n = i := by simpa [hm] using h
      omega
    · have := fs.names_lt m i (by simpa [hm] using h)
      omega

/-- `os.replace(src, dst)`. -/
def rename (fs : Files ν χ) (src dst : ν) : Files ν χ where
  names := Function.update (Function.update fs.names dst (fs.names src)) src none
  data := fs.data
  next := fs.next
  names_lt m i h := by
    by_cases hsrc : m = src
    · simp [hsrc] at h
    · by_cases hdst : m = dst
      · subst hdst
        exact fs.names_lt src i (by simpa [hsrc] using h)
      · exact fs.names_lt m i (by simpa [hsrc, hdst] using h)

/-- `rm -f n`. -/
def unlink (fs : Files ν χ) (n : ν) : Files ν χ where
  names := Function.update fs.names n none
  data := fs.data
  next := fs.next
  names_lt m i h := by
    by_cases hm : m = n
    · simp [hm] at h
    · exact fs.names_lt m i (by simpa [hm] using h)

@[simp] theorem create_names_self : (fs.create n).names n = some (fs.target n) := by
  simp [create]

@[simp] theorem create_names_ne (h : m ≠ n) : (fs.create n).names m = fs.names m := by
  simp [create, h]

@[simp] theorem create_data_self : (fs.create n).data (fs.target n) = [] := by simp [create]

@[simp] theorem create_data_ne (h : i ≠ fs.target n) : (fs.create n).data i = fs.data i := by
  simp [create, h]

/-- A file that exists is left as it is. -/
theorem openAppend_data (h : i < fs.next) : (fs.openAppend n).data i = fs.data i := by
  change Function.update fs.data (fs.target n) (((fs.names n).map fs.data).getD []) i = _
  unfold target
  cases hn : fs.names n with
  | none => simp [Nat.ne_of_lt h]
  | some j =>
      by_cases hij : i = j
      · subst hij
        simp
      · simp [hij]

theorem next_le_openAppend : fs.next ≤ (fs.openAppend n).next := Nat.le_max_left _ _

theorem target_lt_openAppend : fs.target n < (fs.openAppend n).next :=
  Nat.lt_of_lt_of_le (Nat.lt_succ_self _) (Nat.le_max_right _ _)

@[simp] theorem rename_names_src : (fs.rename n m).names n = none := by simp [rename]

@[simp] theorem rename_names_dst (h : m ≠ n) : (fs.rename n m).names m = fs.names n := by
  simp [rename, h]

@[simp] theorem unlink_names_self : (fs.unlink n).names n = none := by simp [unlink]

@[simp] theorem unlink_names_ne (h : m ≠ n) : (fs.unlink n).names m = fs.names m := by
  simp [unlink, h]

@[simp] theorem unlink_data : (fs.unlink n).data = fs.data := rfl

@[simp] theorem unlink_next : (fs.unlink n).next = fs.next := rfl

theorem next_le_create : fs.next ≤ (fs.create n).next :=
  Nat.le_max_left _ _

end Names

end Files
