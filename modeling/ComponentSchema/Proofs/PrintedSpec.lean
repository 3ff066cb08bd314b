import Mathlib
import ComponentSchema.Command
import ComponentSchema.Proofs.RoundTrip

/-! Printed specs. The normalized spec that is printed is read back as it is, compiles to the
validator of the original and is printed the same again. -/

set_option autoImplicit false

namespace ComponentSchema

open Json (Value)

/-- A spec that a value or a text is decoded to. -/
inductive Spec.Decoded (spec : Spec) : Prop where
  | value {v : Value} (read : Spec.ofValue v = .ok spec)
  | json {text : String} (read : Spec.ofJsonText text = .ok spec)
  | yaml {text : String} (read : Spec.ofYaml text = .ok spec)

theorem Spec.Decoded.genuine {spec : Spec} (decoded : spec.Decoded) : spec.Genuine := by
  have ofValue {v : Value} (read : Spec.ofValue v = .ok spec) : spec.Genuine :=
    Spec.genuine_of_ofJson (Spec.ofValue_eq_ok_iff.1 read)
  cases decoded with
  | value read => exact ofValue read
  | json read =>
    obtain ⟨v, -, read⟩ := Except.bind_eq_ok_iff.1 read
    exact ofValue read
  | yaml read =>
    obtain ⟨v, -, read⟩ := Except.bind_eq_ok_iff.1 read
    exact ofValue read

/-- The spec that is printed for a spec: its parameters normalized, and no examples. -/
def Spec.normalized (spec : Spec) : Spec :=
  { params := normalize spec.params }

theorem output_showNormalized (spec : Spec) :
    (showNormalized spec).value.output = spec.normalized.toJson.yaml :=
  rfl

theorem Spec.normalized_normalized (spec : Spec) : spec.normalized.normalized = spec.normalized :=
  congrArg (Spec.mk · []) (normal_normalize spec.params).normalize_eq

theorem Compiler.compile_normalized (c : Compiler) (spec : Spec) :
    c.compile spec.normalized = c.compile spec :=
  congrArg c.compileNormalized (normal_normalize spec.params).normalize_eq

theorem Spec.Genuine.ofValue_toJson {spec : Spec} (genuine : spec.Genuine) :
    Spec.ofValue spec.toJson = .ok spec :=
  Spec.ofValue_eq_ok_iff.2 (spec.written_toJson.ofJson_eq genuine)

/-! ### Commands -/

section

variable {component : String} {spec other : Spec}

theorem value_showSchema_eq (same : (Compiler.mk .standard component).compile other =
    (Compiler.mk .standard component).compile spec) :
    (showSchema component other).value = (showSchema component spec).value := by
  simp only [showSchema, Logged.value_bind, Compiler.value_compileLogged, same]

theorem value_checkBody_eq (same : (Compiler.mk .standard component).compile other =
    (Compiler.mk .standard component).compile spec) (body : Value) (asJson : Bool) :
    (checkBody component other body asJson).value =
      (checkBody component spec body asJson).value := by
  simp only [checkBody, Logged.value_bind, Compiler.value_compileLogged, same]

end

/-- What is printed for a spec is the text of a value, which stands for the spec: it is decoded to a
spec of the normalized parameters, and so is its text in a file that is not for JSON, provided that
the text is read back as the value. All compilers make the same validator of the decoded spec and of
the original, so the commands find the same in both, and print the same again. -/
theorem showNormalized_equivalent {spec : Spec} (decoded : spec.Decoded) :
    ∃ tree printed, (showNormalized spec).value = { passed := true, output := tree.yaml } ∧
      tree = ({ params := normalize spec.params } : Spec).toJson ∧
      Spec.ofValue tree = .ok printed ∧
      (Yaml.readAs (.record .spec) tree.yaml = .ok tree →
        ∀ path : Path, path.isJson = false →
          Spec.ofFile path (showNormalized spec).value.output = .ok printed) ∧
      (∀ c : Compiler, c.compile printed = c.compile spec) ∧
      (∀ component, (showSchema component printed).value = (showSchema component spec).value) ∧
      (∀ component body asJson, (checkBody component printed body asJson).value =
        (checkBody component spec body asJson).value) ∧
      (showNormalized printed).value = (showNormalized spec).value := by
  have genuine : spec.normalized.Genuine := genuine_normalize spec.params decoded.genuine
  have same (component : String) : (Compiler.mk .standard component).compile spec.normalized =
      (Compiler.mk .standard component).compile spec := Compiler.compile_normalized _ spec
  refine ⟨spec.normalized.toJson, spec.normalized, rfl, rfl, genuine.ofValue_toJson, ?_,
    fun c => c.compile_normalized spec, fun component => value_showSchema_eq (same component),
    fun component body asJson => value_checkBody_eq (same component) body asJson, ?_⟩
  · intro readsBack path notJson
    rw [output_showNormalized, Spec.ofFile, notJson, Spec.ofYaml, readsBack]
    exact genuine.ofValue_toJson
  · have same := output_showNormalized spec.normalized
    rw [spec.normalized_normalized, ← output_showNormalized] at same
    exact congrArg (Outcome.mk true) same

/-- A name that ends in a dot, which leaves an object without members. -/
def danglingHint : Spec :=
  { params := [{ name := "hint.", type := .string }] }

theorem normalized_danglingHint :
    danglingHint.normalized = { params := [synthesized "hint" []] } := by
  have alone : groups danglingHint.params = [⟨"hint", { name := "hint.", type := .string }, []⟩] :=
    rfl
  have dropped : Group.kept ⟨"hint", { name := "hint.", type := .string }, []⟩ = [] := rfl
  have empty : normalize [] = [] := by rw [normalize_eq]; rfl
  rw [Spec.normalized, normalize_eq, alone, List.map_singleton, Group.rebuild_made rfl, dropped,
    empty]

def printedHint : String :=
  "params:\n- name: hint\n  type: object\n  required: true\n  params: []\n"

theorem output_danglingHint : (showNormalized danglingHint).value.output = printedHint := by
  rw [output_showNormalized, normalized_danglingHint]
  decide +kernel

def hintDocument : Yaml.Document :=
  { root := .mapping {} none [(.scalar {} "params" .plain none,
      .sequence { index := 8, line := 1 } none [
        .mapping { index := 10, line := 1, column := 2 } none [
          (.scalar { index := 10, line := 1, column := 2 } "name" .plain none,
            .scalar { index := 16, line := 1, column := 8 } "hint" .plain none),
          (.scalar { index := 23, line := 2, column := 2 } "type" .plain none,
            .scalar { index := 29, line := 2, column := 8 } "object" .plain none),
          (.scalar { index := 38, line := 3, column := 2 } "required" .plain none,
            .scalar { index := 48, line := 3, column := 12 } "true" .plain none),
          (.scalar { index := 55, line := 4, column := 2 } "params" .plain none,
            .sequence { index := 63, line := 4, column := 10 } none [])]])]
    anchored := []
    size := 16
    fault := none
    followed := false }

set_option maxRecDepth 3000 in
theorem ofText_printedHint : Yaml.Document.ofText printedHint = hintDocument := by
  cbv

theorem showNormalized_equivalent_danglingHint :
    danglingHint.Decoded ∧
    ∃ printed, (∀ path : Path, path.isJson = false → Spec.ofFile path printedHint = .ok printed) ∧
      (∀ c : Compiler, c.compile printed = c.compile danglingHint) ∧
      (showNormalized printed).value.output = printedHint := by
  have decoded : danglingHint.Decoded := .value (v := .object [
      ("params", .array [.object [("name", .string "hint."), ("type", .string "string")]])]) rfl
  obtain ⟨tree, printed, shows, form, -, read, same, -, -, again⟩ :=
    showNormalized_equivalent decoded
  have text : tree.yaml = printedHint := by
    rw [← output_danglingHint, shows]
  have readsBack : Yaml.readAs (.record .spec) tree.yaml = .ok tree := by
    change tree = danglingHint.normalized.toJson at form
    rw [text, form, normalized_danglingHint, Yaml.readAs, ofText_printedHint]
    rfl
  rw [output_danglingHint] at read
  exact ⟨decoded, printed, read readsBack, same, again ▸ output_danglingHint⟩

end ComponentSchema
