/-
# StaticPreview.Proofs.Text.Lossy -- ASCII in a byte string that need not be UTF-8

However broken a byte string is, an ASCII character shows in its reading exactly where
its byte stands: `mem_decodeLossy_ascii`.  That the byte shows is what `run_append_ascii`
says.  For the other direction the reader has to be shown never to make an ASCII
character out of several bytes, so what it has read of one is kept large enough on the
way (`State.Exceeds`, kept by `exceeds_step`).
-/
import Mathlib.Algebra.Group.Nat.Defs
import StaticPreview.Proofs.Text.Utf8

namespace StaticPreview.Text.Utf8

/-- What a reader has begun ends beyond ASCII, whatever byte comes next. -/
def State.Exceeds : State → Prop
  | .start => True
  | .inside value owed low _ => 0x80 ≤ (value * 64 + (low.toNat - 0x80)) * 64 ^ (owed - 1)

theorem exceeds_first (b : UInt8) : (first b).1.Exceeds := by
  rw [first_toNat]
  repeat' split
  all_goals simp [State.Exceeds]
  all_goals omega

theorem exceeds_step {q : State} (begun : q.Exceeds) (b : UInt8) : (step q b).1.Exceeds := by
  cases q with
  | start => exact exceeds_first b
  | inside value owed low high =>
      rw [step]
      split
      · rename_i fits
        have least : low.toNat ≤ b.toNat := UInt8.le_iff_toNat_le.1 fits.1
        dsimp only
        split
        · trivial
        · rename_i more
          obtain ⟨n, rfl⟩ : ∃ n, owed = n + 2 := ⟨owed - 2, by omega⟩
          have grows : (value * 64 + (low.toNat - 0x80)) * 64 ^ (n + 1) ≤
              (value * 64 + (b.toNat - 0x80)) * 64 ^ (n + 1) :=
            Nat.mul_le_mul_right _ (by omega)
          have step : (value * 64 + (b.toNat - 0x80)) * 64 ^ (n + 1) =
              ((value * 64 + (b.toNat - 0x80)) * 64 + 0) * 64 ^ n := by
            rw [Nat.pow_succ, Nat.add_zero, Nat.mul_assoc, Nat.mul_comm (64 ^ n)]
          simp only [State.Exceeds] at begun ⊢
          rw [show n + 2 - 1 = n + 1 from rfl] at begun
          rw [show n + 2 - 1 - 1 = n from rfl]
          exact Nat.le_trans begun (Nat.le_trans grows (Nat.le_of_eq step))
      · exact exceeds_first b

theorem eq_of_mem_first {b : UInt8} {c : Char} (h : some c ∈ (first b).2) :
    b < 0x80 ∧ c = Char.ofNat b.toNat := by
  unfold first at h
  repeat' split at h
  all_goals simp_all

/-- A number beyond ASCII is no ASCII character but the zero. -/
theorem toNat_ofNat_of_le {n : Nat} (h : 0x80 ≤ n) :
    (Char.ofNat n).toNat = 0 ∨ 0x80 ≤ (Char.ofNat n).toNat := by
  by_cases valid : n.isValidChar
  · right
    rw [toNat_ofNat valid]
    exact h
  · left
    rw [Char.ofNat, dif_neg valid]
    rfl

/-- **A byte yields an ASCII character only for itself.** -/
theorem eq_of_mem_step {q : State} (begun : q.Exceeds) {b : UInt8} {c : Char}
    (h : some c ∈ (step q b).2) (ascii : c.toNat < 0x80) (filled : c.toNat ≠ 0) :
    c = Char.ofNat b.toNat := by
  cases q with
  | start => exact (eq_of_mem_first h).2
  | inside value owed low high =>
      rw [step] at h
      split at h
      · rename_i fits
        have least : low.toNat ≤ b.toNat := UInt8.le_iff_toNat_le.1 fits.1
        dsimp only at h
        split at h
        · rename_i last
          have power : 64 ^ (owed - 1) = 1 := by
            rw [show owed - 1 = 0 by omega, Nat.pow_zero]
          simp only [State.Exceeds, power, Nat.mul_one] at begun
          simp only [List.mem_singleton, Option.some.injEq] at h
          have large := toNat_ofNat_of_le (n := value * 64 + (b.toNat - 0x80)) (by omega)
          rw [← h] at large
          omega
        · simp at h
      · simp only [List.mem_cons, reduceCtorEq, false_or] at h
        exact (eq_of_mem_first h).2

theorem mem_of_mem_run {q : State} (begun : q.Exceeds) {s : Bytes} {c : Char}
    (h : some c ∈ run q s) (ascii : c.toNat < 0x80) (filled : c.toNat ≠ 0) :
    ∃ b ∈ s, c = Char.ofNat b.toNat := by
  induction s generalizing q with
  | nil => cases q <;> simp [run] at h
  | cons b s ih =>
      rw [run_cons, List.mem_append] at h
      rcases h with here | later
      · exact ⟨b, List.mem_cons_self, eq_of_mem_step begun here ascii filled⟩
      · obtain ⟨d, member, same⟩ := ih (exceeds_step begun b) later
        exact ⟨d, List.mem_cons_of_mem _ member, same⟩

/-- **An ASCII character is read exactly where its byte stands**, broken pieces or not. -/
theorem mem_decodeLossy_ascii {b : UInt8} (ascii : b < 0x80) (filled : b ≠ 0) (s : Bytes) :
    Char.ofNat b.toNat ∈ decodeLossy s ↔ b ∈ s := by
  have value := toNat_ofNat_byte b
  have small : b.toNat < 0x80 := UInt8.lt_iff_toNat_lt.1 ascii
  have positive : b.toNat ≠ 0 := fun zero => filled (UInt8.toNat_inj.1 zero)
  constructor
  · intro shown
    obtain ⟨piece, member, same⟩ := List.mem_map.1 shown
    cases piece with
    | none =>
        -- the character shown for a broken piece is not ASCII
        have code := congrArg Char.toNat same
        rw [value] at code
        simp only [Option.getD_none, replacement] at code
        have beyond : '\uFFFD'.toNat = 0xFFFD := rfl
        omega
    | some c =>
        rw [Option.getD_some] at same
        subst same
        obtain ⟨d, there, read⟩ :=
          mem_of_mem_run (q := .start) trivial member (by omega) (by omega)
        have code := congrArg Char.toNat read
        rw [value, toNat_ofNat_byte] at code
        rwa [UInt8.toNat_inj.1 code]
  · intro member
    obtain ⟨front, behind, rfl⟩ := List.append_of_mem member
    rw [decodeLossy, run_append_ascii .start front ascii behind (by simp)]
    simp

end StaticPreview.Text.Utf8
