/-
# StaticPreview.Proofs.AccessLine.Combined -- what a combined line can be taken for

Up to its last two fields a combined line can be read in one way only: the address, the
method and the target have no blank in them, the time no bracket and the version no quote,
so each of them ends at the first sign that is put behind it (`combined_eq_iff`).

The referring page and the client stand between quotes, and nothing keeps a quote out of
them.  What parts them is a quote, a blank and a quote (`seam`); the two texts can be told
from the line exactly when the seam stands nowhere else, not even by sharing a quote with
the one that was put (`Apart`, `apart_iff`).
-/
import StaticPreview.Proofs.AccessLine
import StaticPreview.Proofs.Pieces

namespace StaticPreview.AccessEntry

open StaticPreview.Text
open Time

variable {a b e : AccessEntry}

/-! ## The front of a line -/

/-- An entry whose texts end where the line has a blank, or a quote, behind them. -/
structure Delimited (e : AccessEntry) : Prop where
  remoteAddr : ' ' ∉ e.remoteAddr.toList
  method : ' ' ∉ e.method.toList
  requestUri : ' ' ∉ e.requestUri.toList
  httpVersion : '"' ∉ e.httpVersion.toList

/-- Entries that say the same up to the status and the length of the response. -/
structure SameFront (a b : AccessEntry) : Prop where
  remoteAddr : a.remoteAddr = b.remoteAddr
  timeLocal : a.timeLocal = b.timeLocal
  method : a.method = b.method
  requestUri : a.requestUri = b.requestUri
  httpVersion : a.httpVersion = b.httpVersion
  status : a.status = b.status
  bodyBytes : a.bodyBytes = b.bodyBytes

/-- What stands between the referring page and the client. -/
def seam : List Char := ['"', ' ', '"']

/-- The referring page as it is shown. -/
def shownReferer (e : AccessEntry) : List Char := (e.referer.getD "-").toList

/-- The client as it is shown. -/
def shownAgent (e : AccessEntry) : List Char := (e.userAgent.getD "-").toList

/-- What stands between the first quote behind the length and the last of the line. -/
def quoted (e : AccessEntry) : List Char := e.shownReferer ++ seam ++ e.shownAgent

theorem toList_combined (e : AccessEntry) :
    e.combined.toList =
      e.remoteAddr.toList ++ ' ' :: '-' :: ' ' :: '-' :: ' ' :: '[' ::
        (e.timeLocal.toList ++ ']' :: ' ' :: '"' ::
          (e.method.toList ++ ' ' ::
            (e.requestUri.toList ++ ' ' :: 'H' :: 'T' :: 'T' :: 'P' :: '/' ::
              (e.httpVersion.toList ++ '"' :: ' ' ::
                (Decimal.digits e.status ++ ' ' ::
                  (Decimal.digits e.bodyBytes ++ ' ' :: '"' :: (e.quoted ++ ['"']))))))) := by
  simp [combined, common, requestLine, decimal, quoted, seam, shownReferer, shownAgent]

theorem blank_not_mem_digits (n : Nat) : ' ' ∉ Decimal.digits n := by
  intro member
  exact absurd (Decimal.isDigit_of_mem_digits member) (by decide)

theorem digits_injective {m n : Nat} (h : Decimal.digits m = Decimal.digits n) : m = n := by
  rw [← Decimal.value_digits m, h, Decimal.value_digits]

/-- **Combined lines are the same exactly when all is the same up to the quotes, and the
same stands between these.** -/
theorem combined_eq_iff (ha : a.Delimited) (hb : b.Delimited) :
    a.combined = b.combined ↔ SameFront a b ∧ a.quoted = b.quoted := by
  rw [← String.toList_inj, toList_combined, toList_combined]
  constructor
  · intro same
    have bracket (e : AccessEntry) : ']' ∉ e.timeLocal.toList := by
      rw [timeLocal, String.toList_ofList]
      exact Stamp.not_mem_logText _ (by decide)
    obtain ⟨remoteAddr, same⟩ := Pieces.eq_of_append_cons_eq ha.remoteAddr hb.remoteAddr same
    simp only [List.cons.injEq, true_and] at same
    obtain ⟨time, same⟩ := Pieces.eq_of_append_cons_eq (bracket a) (bracket b) same
    simp only [List.cons.injEq, true_and] at same
    obtain ⟨method, same⟩ := Pieces.eq_of_append_cons_eq ha.method hb.method same
    obtain ⟨requestUri, same⟩ := Pieces.eq_of_append_cons_eq ha.requestUri hb.requestUri same
    simp only [List.cons.injEq, true_and] at same
    obtain ⟨version, same⟩ := Pieces.eq_of_append_cons_eq ha.httpVersion hb.httpVersion same
    simp only [List.cons.injEq, true_and] at same
    obtain ⟨status, same⟩ := Pieces.eq_of_append_cons_eq
      (blank_not_mem_digits a.status) (blank_not_mem_digits b.status) same
    obtain ⟨bodyBytes, same⟩ := Pieces.eq_of_append_cons_eq
      (blank_not_mem_digits a.bodyBytes) (blank_not_mem_digits b.bodyBytes) same
    simp only [List.cons.injEq, true_and] at same
    refine ⟨⟨String.toList_inj.1 remoteAddr, String.toList_inj.1 time, String.toList_inj.1 method,
      String.toList_inj.1 requestUri, String.toList_inj.1 version, digits_injective status,
      digits_injective bodyBytes⟩, List.append_cancel_right same⟩
  · rintro ⟨⟨remoteAddr, time, method, requestUri, version, status, bodyBytes⟩, quoted⟩
    rw [remoteAddr, time, method, requestUri, version, status, bodyBytes, quoted]

/-! ## What stands in quotes -/

/-- Texts between which the seam stands once, and is not begun before or ended behind. -/
structure Apart (referer agent : List Char) : Prop where
  within : ¬ seam <:+: referer
  begun : ¬ ['"', ' '] <:+ referer
  ended : ¬ [' ', '"'] <+: agent
  behind : ¬ seam <:+: agent

instance (referer agent : List Char) : Decidable (Apart referer agent) :=
  decidable_of_iff
    (Pieces.hasInfix seam referer = false ∧ ['"', ' '].isSuffixOf referer = false ∧
      [' ', '"'].isPrefixOf agent = false ∧ Pieces.hasInfix seam agent = false) (by
    simp only [← Bool.not_eq_true, Pieces.hasInfix_iff, List.isSuffixOf_iff_suffix,
      List.isPrefixOf_iff_prefix]
    exact ⟨fun ⟨a, b, c, d⟩ => ⟨a, b, c, d⟩, fun ⟨a, b, c, d⟩ => ⟨a, b, c, d⟩⟩)

variable {x y r u w : List Char}

/-- A seam that is put later than another lets the other one stand before it, whole or up
to the quote that they share. -/
theorem eq_nil_of_seam_before (h : seam ++ y = w ++ (seam ++ u)) (within : ¬ seam <:+: x ++ w)
    (begun : ¬ ['"', ' '] <:+ x ++ w) : w = [] := by
  match w, h with
  | [], _ => rfl
  | [c], h => simp [seam] at h
  | [c, d], h =>
      simp only [seam, List.cons_append, List.nil_append, List.cons.injEq] at h
      obtain ⟨rfl, rfl, -⟩ := h
      exact absurd ⟨x, rfl⟩ begun
  | c :: d :: f :: w, h =>
      simp only [seam, List.cons_append, List.nil_append, List.cons.injEq] at h
      obtain ⟨rfl, rfl, rfl, -⟩ := h
      exact absurd ⟨x, w, by simp [seam]⟩ within

/-- And the one that is put earlier lets the other stand behind it. -/
theorem eq_nil_of_seam_behind (h : seam ++ u = w ++ (seam ++ y)) (ended : ¬ [' ', '"'] <+: u)
    (behind : ¬ seam <:+: u) : w = [] := by
  match w, h with
  | [], _ => rfl
  | [c], h => simp [seam] at h
  | [c, d], h =>
      simp only [seam, List.cons_append, List.nil_append, List.cons.injEq] at h
      obtain ⟨-, -, -, rfl⟩ := h
      exact absurd ⟨y, rfl⟩ ended
  | c :: d :: f :: w, h =>
      simp only [seam, List.cons_append, List.nil_append, List.cons.injEq] at h
      obtain ⟨-, -, -, rfl⟩ := h
      exact absurd ⟨w, y, by simp [seam]⟩ behind

/-- **Two texts can be told from what they are put together to exactly when the seam
stands only between them.** -/
theorem apart_iff :
    Apart r u ↔ ∀ x y, x ++ seam ++ y = r ++ seam ++ u → x = r ∧ y = u := by
  constructor
  · rintro apart x y same
    rw [List.append_assoc, List.append_assoc] at same
    rcases List.append_eq_append_iff.1 same with ⟨w, front, rest⟩ | ⟨w, front, rest⟩
    · obtain rfl := eq_nil_of_seam_before (x := x) rest (front ▸ apart.within) (front ▸ apart.begun)
      rw [List.nil_append] at rest
      exact ⟨by simpa using front.symm, List.append_cancel_left rest⟩
    · obtain rfl := eq_nil_of_seam_behind rest apart.ended apart.behind
      rw [List.nil_append] at rest
      exact ⟨by simpa using front, (List.append_cancel_left rest).symm⟩
  · intro only
    refine ⟨?_, ?_, ?_, ?_⟩
    · rintro ⟨p, q, rfl⟩
      have shorter := (only p (q ++ seam ++ u) (by simp)).1
      simp [seam] at shorter
    · rintro ⟨p, rfl⟩
      have shorter := (only p ([' ', '"'] ++ u) (by simp [seam])).1
      simp at shorter
    · rintro ⟨q, rfl⟩
      have longer := (only (r ++ ['"', ' ']) q (by simp [seam])).1
      simp at longer
    · rintro ⟨p, q, rfl⟩
      have longer := (only (r ++ seam ++ p) q (by simp)).1
      simp [seam] at longer

end StaticPreview.AccessEntry
