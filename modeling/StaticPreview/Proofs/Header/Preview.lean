/-
# StaticPreview.Proofs.Header.Preview -- the mandated fields, once each

Putting several fields of different names leaves one value for each of their names
and all the values of every other name in their order: `values_foldl_put_of_mem`,
`values_foldl_put_of_not_mem`.  For the table that is put that is `mandated_withPreview`
and `values_withPreview`, whatever the fields were before -- none, one or several of
a mandated name among them.

What is mandated is said here in its own words, and not read off the table (`Mandated`,
`mandatedNames`).
-/
import StaticPreview.Header.Preview

namespace StaticPreview.Headers

variable {hs : Headers} {fs : List Field} {name : String}

/-- Fields that are put leave the values of every other name as they are. -/
theorem values_foldl_put_of_not_mem (h : name ∉ fs.map Field.name) :
    (fs.foldl put hs).values name = hs.values name := by
  induction fs generalizing hs with
  | nil => rfl
  | cons f fs ih =>
      simp only [List.map_cons, List.mem_cons, not_or] at h
      obtain ⟨hf, hfs⟩ := h
      rw [List.foldl_cons, ih hfs]
      exact values_put_of_ne hs fun e => hf e.symm

/-- A field that is put is the only one of its name, when no later one has it. -/
theorem values_foldl_put_of_mem {f : Field} (distinct : (fs.map Field.name).Nodup)
    (h : f ∈ fs) : (fs.foldl put hs).values f.name = [f.value] := by
  induction fs generalizing hs with
  | nil => exact absurd h List.not_mem_nil
  | cons g fs ih =>
      rw [List.map_cons, List.nodup_cons] at distinct
      obtain ⟨hg, hfs⟩ := distinct
      rw [List.foldl_cons]
      rcases List.mem_cons.1 h with rfl | member
      · rw [values_foldl_put_of_not_mem hg, values_put_self]
      · exact ih hfs member

/-- The names that are mandated. -/
def mandatedNames : List String :=
  ["cache-control", "pragma", "expires", "access-control-allow-origin",
    "access-control-allow-methods", "access-control-allow-headers"]

/-- Nothing may keep the response, pages of every origin may read it, and each of the fields
that say so stands there once. -/
structure Mandated (hs : Headers) : Prop where
  cacheControl : hs.values "cache-control" = [Bytes.ofString "no-cache, no-store, must-revalidate"]
  pragma : hs.values "pragma" = [Bytes.ofString "no-cache"]
  expires : hs.values "expires" = [Bytes.ofString "0"]
  allowOrigin : hs.values "access-control-allow-origin" = [Bytes.ofString "*"]
  allowMethods :
    hs.values "access-control-allow-methods" = [Bytes.ofString "GET, POST, OPTIONS"]
  allowHeaders : hs.values "access-control-allow-headers" = [Bytes.ofString "*"]

theorem map_name_previewFields : previewFields.map Field.name = mandatedNames := rfl

theorem nodup_mandatedNames : mandatedNames.Nodup := by decide

/-- A field of the table stands once in every list that the table was put into. -/
theorem values_withPreview_of_mem (hs : Headers) {name value : String}
    (member : (name, value) ∈ previewTable) :
    hs.withPreview.values name = [Bytes.ofString value] := by
  have field : (⟨name, Bytes.ofString value⟩ : Field) ∈ previewFields :=
    List.mem_map.2 ⟨_, member, rfl⟩
  have distinct : (previewFields.map Field.name).Nodup := by
    rw [map_name_previewFields]
    exact nodup_mandatedNames
  exact values_foldl_put_of_mem distinct field

/-- **The mandated fields stand in every list that they were put into.** -/
theorem mandated_withPreview (hs : Headers) : hs.withPreview.Mandated where
  cacheControl := values_withPreview_of_mem hs (by decide)
  pragma := values_withPreview_of_mem hs (by decide)
  expires := values_withPreview_of_mem hs (by decide)
  allowOrigin := values_withPreview_of_mem hs (by decide)
  allowMethods := values_withPreview_of_mem hs (by decide)
  allowHeaders := values_withPreview_of_mem hs (by decide)

/-- **Every name that is not mandated keeps its values in their order.** -/
theorem values_withPreview (hs : Headers) (other : name ∉ mandatedNames) :
    hs.withPreview.values name = hs.values name := by
  apply values_foldl_put_of_not_mem
  rw [map_name_previewFields]
  exact other

end StaticPreview.Headers
