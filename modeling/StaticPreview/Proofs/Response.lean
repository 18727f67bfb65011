/-
# StaticPreview.Proofs.Response -- what a builder can give

A builder either gives the response it was asked for, with its fields as they were
read, or the bare success that stands in for it (`ofBuild_cases`).  So the status of
its reply is the one asked for or 200 (`status_ofBuild`), and a reply with another
status than 200 has the fields that it was built with (`ofBuild_of_status_ne`), each of
them with its own name and value (`eq_map_of_fieldsOf`).
-/
import StaticPreview.Proofs.Outcome
import StaticPreview.Response

namespace StaticPreview

namespace Response

/-- The name of a field that is written as a text. -/
def fieldName (name : String) : String :=
  Header.asciiText ((Bytes.ofString name).map Bytes.lowerAscii)

/-- A field that is not refused has its name in lower case and its value as it is. -/
theorem eq_of_ofText {name value : String} {field : Field}
    (h : Field.ofText name value = .ok field) :
    field = { name := fieldName name, value := Bytes.ofString value } := by
  unfold Field.ofText Field.ofBytes at h
  split at h
  · cases h
  · split at h
    · cases h
    · exact (Except.ok.inj h).symm

/-- **Fields that are not refused are the ones that were named, in their order.** -/
theorem eq_map_of_fieldsOf {texts : List (String × String)} {fields : List Field}
    (h : fieldsOf texts = .ok fields) :
    fields = texts.map fun text =>
      { name := fieldName text.1, value := Bytes.ofString text.2 } := by
  induction texts generalizing fields with
  | nil => exact (Except.ok.inj h).symm
  | cons text texts ih =>
      obtain ⟨field, first, h⟩ := exists_of_bind_eq_ok h
      obtain ⟨rest, later, h⟩ := exists_of_bind_eq_ok h
      rw [← Except.ok.inj h, List.map_cons, eq_of_ofText first, ih later]

end Response

/-- The response that stands in for one that could not be built. -/
def Response.fallback (spare : Bytes := []) : Response := { status := 200, body := spare }

namespace Reply

variable {label : String} {status : Nat} {fields : List (String × String)} {body : Bytes}

@[simp] theorem status_withPreview (r : Reply) : r.withPreview.response.status = r.response.status :=
  rfl

@[simp] theorem headers_withPreview (r : Reply) :
    r.withPreview.response.headers = r.response.headers.withPreview := rfl

@[simp] theorem notices_withPreview (r : Reply) : r.withPreview.notices = r.notices := rfl

/-- **A builder gives what was asked for, or the fallback.** -/
theorem ofBuild_cases (label : String) (status : Nat) (fields : List (String × String))
    (body : Bytes) (spare : Bytes := []) :
    (∃ fs, Response.fieldsOf fields = .ok fs ∧
      ofBuild label (Response.build status fields body) spare =
        { response := { status, headers := ⟨fs⟩, body } }) ∨
    (ofBuild label (Response.build status fields body) spare).response =
      Response.fallback spare := by
  cases hf : Response.fieldsOf fields with
  | error refusal =>
      right
      simp [Response.build, hf, bind, Except.bind, ofBuild, Response.fallback]
  | ok fs =>
      left
      refine ⟨fs, rfl, ?_⟩
      simp [Response.build, hf, bind, Except.bind, ofBuild]

theorem status_ofBuild (label : String) (status : Nat) (fields : List (String × String))
    (body : Bytes) :
    (ofBuild label (Response.build status fields body)).response.status = status ∨
      (ofBuild label (Response.build status fields body)).response.status = 200 := by
  rcases ofBuild_cases label status fields body with ⟨fs, _, built⟩ | fallback
  · rw [built]
    exact Or.inl rfl
  · rw [fallback]
    exact Or.inr rfl

/-- A reply with another status than that of the fallback was built from its fields. -/
theorem ofBuild_of_status_ne
    (h : (ofBuild label (Response.build status fields body)).response.status ≠ 200) :
    ∃ fs, Response.fieldsOf fields = .ok fs ∧
      (ofBuild label (Response.build status fields body)).response =
        { status, headers := ⟨fs⟩, body } := by
  rcases ofBuild_cases label status fields body with ⟨fs, hfs, built⟩ | fallback
  · exact ⟨fs, hfs, by rw [built]⟩
  · rw [fallback] at h
    exact absurd rfl h

/-- The answer that tells nothing but that there is no such file. -/
theorem status_notFound : notFound.response.status = 404 := by decide +kernel

theorem status_notImplemented : notImplemented.response.status = 501 := by decide +kernel

theorem status_options : options.response.status = 204 := by decide

end Reply

end StaticPreview
