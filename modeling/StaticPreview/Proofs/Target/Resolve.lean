/-
# StaticPreview.Proofs.Target.Resolve -- a target never climbs above the root

Whatever a target says, the path that it resolves to is the root with plain names
behind it: `resolve_below`.  The segments that are left when every step up has been
taken are entries (`mem_settle`), and a segment that is an entry has a plain name,
since an ASCII byte stands in its bytes only for the character itself
(`isPlain_encode`).  Percent escapes and broken UTF-8 are read before the path is cut,
so it is the decoded segments that are looked at, however they were spelt.
-/
import StaticPreview.Proofs.Path
import StaticPreview.Proofs.Text.Utf8
import StaticPreview.Target.Resolve

namespace StaticPreview.Target

open StaticPreview.Text

theorem isEntry_iff (segment : List Char) :
    isEntry segment = true ↔ segment ≠ [] ∧ segment ≠ ['.'] ∧ segment ≠ ['.', '.'] ∧
      '\\' ∉ segment ∧ '\x00' ∉ segment := by
  simp [isEntry]

theorem encode_ne_nil {segment : List Char} (h : segment ≠ []) : Utf8.encode segment ≠ [] := by
  intro e
  exact h (Utf8.encode_injective (t := []) e)

/-- **An entry without a solidus has a plain name.** -/
theorem isPlain_encode {segment : List Char} (entry : isEntry segment = true)
    (whole : '/' ∉ segment) : Path.IsPlain (Utf8.encode segment) := by
  obtain ⟨hne, hdot, hup, hback, hzero⟩ := (isEntry_iff segment).1 entry
  refine ⟨encode_ne_nil hne, ?_, ?_, ?_, ?_, ?_⟩
  · intro e
    exact hdot (Utf8.encode_injective (t := ['.']) e)
  · intro e
    exact hup (Utf8.encode_injective (t := ['.', '.']) e)
  · rw [Utf8.mem_encode_ascii (by decide)]
    exact whole
  · rw [Utf8.mem_encode_ascii (by decide)]
    exact hback
  · rw [Utf8.mem_encode_ascii (by decide)]
    exact hzero

/-- A text whose bytes are a plain name is an entry without a solidus. -/
theorem isEntry_of_isPlain {name : List Char} (plain : Path.IsPlain (Utf8.encode name)) :
    isEntry name = true ∧ '/' ∉ name := by
  rw [isEntry_iff]
  refine ⟨⟨?_, ?_, ?_, ?_, ?_⟩, ?_⟩
  · rintro rfl
    exact plain.ne_nil rfl
  · rintro rfl
    exact plain.ne_dot (by decide)
  · rintro rfl
    exact plain.ne_up (by decide)
  · exact fun member => plain.no_backslash ((Utf8.mem_encode_ascii (by decide) name).2 member)
  · exact fun member => plain.no_zero ((Utf8.mem_encode_ascii (by decide) name).2 member)
  · exact fun member => plain.no_slash ((Utf8.mem_encode_ascii (by decide) name).2 member)

/-- The names that a target takes below the root, in order. -/
def names (target : List Char) : List Bytes :=
  (settle (Pieces.split '/' (Percent.decode (split target).1))).map Utf8.encode

theorem resolve_fsPath (root : Bytes) (target : List Char) :
    (resolve root target).fsPath = Path.extend root (names target) := rfl

theorem isPlain_of_mem_names {target : List Char} {name : Bytes} (h : name ∈ names target) :
    Path.IsPlain name := by
  obtain ⟨segment, hsegment, rfl⟩ := List.mem_map.1 h
  obtain ⟨asked, entry⟩ := mem_settle hsegment
  exact isPlain_encode entry (Pieces.not_mem_of_mem_split asked)

/-- **A target resolves to the root with plain names behind it**, each of them a
segment of the decoded path, so the components of the root all stay in their place. -/
theorem resolve_below (root : Bytes) (target : List Char) :
    ∃ below : List Bytes,
      (resolve root target).fsPath = Path.extend root below ∧
        (∀ name ∈ below, Path.IsPlain name ∧
          ∃ segment ∈ Pieces.split '/' (resolve root target).urlPath,
            name = Utf8.encode segment) ∧
        Path.components (resolve root target).fsPath =
          Path.components root ++ below.map .name := by
  refine ⟨names target, resolve_fsPath root target, ?_, ?_⟩
  · intro name member
    refine ⟨isPlain_of_mem_names member, ?_⟩
    obtain ⟨segment, hsegment, rfl⟩ := List.mem_map.1 member
    exact ⟨segment, (mem_settle hsegment).1, rfl⟩
  · rw [resolve_fsPath]
    exact Path.components_extend fun _ => isPlain_of_mem_names

/-- Steps up that come too many, escaped or not, end at the root itself. -/
example : (resolve [0x2F, 0x73] "/..%2f%2E./a/../x".toList).fsPath = [0x2F, 0x73, 0x2F, 0x78] := by
  decide

end StaticPreview.Target
