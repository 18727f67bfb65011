/-
# StaticPreview.Proofs.Listing.Escape -- texts in a page, written and read

A text is written into a page character by character, which is the same as replacing the
five characters that mean something one after another, as long as the ampersand comes
first (`escape_eq_replacements`): the entities put in later hold ampersands of their own.

`shownChar` reads one character back, an entity or a character that stands for itself, and
reads nothing where markup begins.  So what is written reads back to what was meant, up
to the markup behind it, however much it looks like markup or like entities
(`many_shownChar_escape`).
-/
import StaticPreview.Listing
import StaticPreview.Proofs.Text.Reader

namespace StaticPreview.Listing

open StaticPreview.Text

/-- The characters that a page writes as entities. -/
def special : List Char := ['&', '<', '>', '"', '\'']

theorem escapeChar_of_not_mem {c : Char} (known : c ∉ special) : escapeChar c = [c] := by
  simp only [special, List.mem_cons, List.not_mem_nil, or_false, not_or] at known
  simp only [escapeChar, known, if_false]

/-- A text with a character replaced. -/
def replace (c : Char) (entity s : List Char) : List Char :=
  s.flatMap fun d => if d = c then entity else [d]

/-- **Escaping is five replacements, the ampersand first.** -/
theorem escape_eq_replacements (s : List Char) :
    escape s = replace '\'' "&#x27;".toList (replace '"' "&quot;".toList
      (replace '>' "&gt;".toList (replace '<' "&lt;".toList
        (replace '&' "&amp;".toList s)))) := by
  simp only [replace, List.flatMap_assoc, escape]
  congr 1
  funext c
  by_cases known : c ∈ special
  · simp only [special, List.mem_cons, List.not_mem_nil, or_false] at known
    rcases known with rfl | rfl | rfl | rfl | rfl <;> decide +kernel
  · rw [escapeChar_of_not_mem known]
    simp only [special, List.mem_cons, List.not_mem_nil, or_false, not_or] at known
    simp only [known, if_false, List.flatMap_singleton]

/-! ## Reading -/

/-- An entity, read as the character it stands for. -/
def entity (c : Char) (name : List Char) : Reader Char := do
  Reader.exactly ('&' :: name ++ [';'])
  pure c

/-- A character of a text in a page. -/
def shownChar : Reader Char :=
  entity '&' "amp".toList <|> entity '<' "lt".toList <|> entity '>' "gt".toList <|>
    entity '"' "quot".toList <|> entity '\'' "#x27".toList <|>
      Reader.satisfying fun c => !special.contains c

theorem entity_of_ne {d : Char} (other : d ≠ '&') (c : Char) (name rest : List Char) :
    entity c name (d :: rest) = none := by
  have refused := Reader.exactly_of_ne other (name ++ [';']) rest
  show (Reader.exactly ('&' :: (name ++ [';'])) (d :: rest)).bind _ = none
  rw [refused]
  rfl

theorem shownChar_of_ne {d : Char} (other : d ≠ '&') (rest : List Char) :
    shownChar (d :: rest) = if !special.contains d then some (d, rest) else none := by
  have refused := entity_of_ne other
  rw [shownChar, Reader.orElse_of_eq_none (refused ..), Reader.orElse_of_eq_none (refused ..),
    Reader.orElse_of_eq_none (refused ..), Reader.orElse_of_eq_none (refused ..),
    Reader.orElse_of_eq_none (refused ..), Reader.satisfying]

/-- **A character reads back from the front of any text.** -/
theorem shownChar_escapeChar (c : Char) (rest : List Char) :
    shownChar (escapeChar c ++ rest) = some (c, rest) := by
  by_cases known : c ∈ special
  · simp only [special, List.mem_cons, List.not_mem_nil, or_false] at known
    rcases known with rfl | rfl | rfl | rfl | rfl <;> rfl
  · have amp : c ≠ '&' := fun same => known (same ▸ by decide)
    have plain : special.contains c = false := by simpa using known
    rw [escapeChar_of_not_mem known, List.singleton_append, shownChar_of_ne amp, plain]
    rfl

theorem escapeChar_ne_nil (c : Char) : escapeChar c ≠ [] := by
  unfold escapeChar
  grind

/-- **A text in a page reads back up to the markup behind it.** -/
theorem many_shownChar_escape {rest tail : List Char} (s : List Char) (tag : rest = '<' :: tail) :
    Reader.many shownChar (escape s ++ rest) = some (s, rest) := by
  have stops : shownChar rest = none := by
    rw [tag, shownChar_of_ne (by decide)]
    rfl
  have read := Reader.many_flatMap_append shownChar_escapeChar escapeChar_ne_nil stops s
  rwa [List.map_id'] at read

/-- Nothing in a text in a page begins a tag. -/
theorem not_mem_escape (s : List Char) : '<' ∉ escape s := by
  intro member
  obtain ⟨c, -, written⟩ := List.mem_flatMap.1 member
  by_cases known : c ∈ special
  · simp only [special, List.mem_cons, List.not_mem_nil, or_false] at known
    rcases known with rfl | rfl | rfl | rfl | rfl <;> exact absurd written (by decide)
  · rw [escapeChar_of_not_mem known, List.mem_singleton] at written
    exact known (written ▸ by decide)

end StaticPreview.Listing
