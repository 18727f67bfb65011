/-
# StaticPreview.Proofs.Address -- the characters of addresses

An address is written with decimal or lower-case hexadecimal digits, dots and colons
(`IpAddr.isAddressChar`).  Each of the parts is, and so is the whole (`IpAddr.all_text`),
in each of the three forms that it may have; so no other character stands in an address
(`IpAddr.not_mem_text`).
-/
import StaticPreview.Address
import StaticPreview.Proofs.Freshness

namespace StaticPreview

open StaticPreview.Text
open Time

theorem Text.Decimal.isVisible_digits (n : Nat) : Header.isVisible (digits n) = true :=
  isVisible_of_isDigit fun _ => isDigit_of_mem_digits

namespace IpAddr

/-- Whether a character may stand in an address. -/
def isAddressChar (c : Char) : Bool :=
  Decimal.isDigit c || (['a', 'b', 'c', 'd', 'e', 'f', '.', ':'].contains c)

theorem all_digits (n : Nat) : (Decimal.digits n).all isAddressChar = true := by
  rw [List.all_eq_true]
  intro c member
  rw [isAddressChar, Decimal.isDigit_of_mem_digits member, Bool.true_or]

theorem all_dottedText (a b c d : UInt8) : (dottedText a b c d).all isAddressChar = true := by
  have dot : isAddressChar '.' = true := by decide
  simp only [dottedText, byteText, List.all_append, List.all_cons, all_digits, dot, Bool.and_self]

theorem isAddressChar_hexDigit {d : Nat} (h : d < 16) :
    isAddressChar (JsonString.hexDigit d) = true := by
  have all : ∀ d, d < 16 → isAddressChar (JsonString.hexDigit d) = true := by decide
  exact all d h

theorem all_hexText (n : Nat) : (hexText n).all isAddressChar = true := by
  induction n using Nat.strongRecOn with
  | ind n ih =>
      rw [hexText]
      split
      · rw [List.all_cons, isAddressChar_hexDigit (by assumption)]
        rfl
      · rw [List.all_append, ih (n / 16) (by omega), List.all_cons,
          isAddressChar_hexDigit (by omega)]
        rfl

theorem all_groupsText (groups : List UInt16) : (groupsText groups).all isAddressChar = true := by
  induction groups with
  | nil => rfl
  | cons g groups ih =>
      cases groups with
      | nil => exact all_hexText _
      | cons g' groups =>
          have colon : isAddressChar ':' = true := by decide
          rw [groupsText, List.all_append, List.all_cons, all_hexText, colon, ih, Bool.and_self,
            Bool.and_self]
          simp

/-- **An address is written with digits, dots and colons.** -/
theorem all_text (ip : IpAddr) : ip.text.all isAddressChar = true := by
  have colons : [':', ':'].all isAddressChar = true := by decide
  have mapped : [':', ':', 'f', 'f', 'f', 'f', ':'].all isAddressChar = true := by decide
  unfold text
  split
  · exact all_dottedText _ _ _ _
  · rw [List.all_append, mapped, all_dottedText, Bool.and_self]
  · dsimp only
    split
    · simp only [List.all_append, all_groupsText, colons, Bool.and_self]
    · exact all_groupsText _

theorem not_mem_text (ip : IpAddr) {c : Char} (other : isAddressChar c = false) : c ∉ ip.text := by
  intro member
  rw [List.all_eq_true.1 ip.all_text c member] at other
  cases other

end IpAddr

end StaticPreview
