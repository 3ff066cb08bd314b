import ComponentSchema.Command
import ComponentSchema.Proofs.Agreement

/-! Reports on examples: every selected example is counted once, as passed or as a failure with its
issues, and the check of a request body says the same about it. -/

set_option autoImplicit false

namespace ComponentSchema

theorem Logged.value_mapM {α β : Type} (f : α → Logged β) (items : List α) :
    (items.mapM f).value = items.map fun a => (f a).value := by
  induction items with
  | nil => rfl
  | cons a rest ih => rw [List.mapM_cons, value_bind, value_bind, ih, value_pure, List.map_cons]

namespace Validator

variable (v : Validator)

theorem value_validate_of_clean {body : Json.Value} (clean : v.check body = []) :
    ∃ params, (v.validate body).value = .ok params := by
  have passed := v.verdict_eq body
  rw [if_pos clean, verdict] at passed
  cases given : (v.validate body).value with
  | ok params => exact ⟨params, rfl⟩
  | error issues =>
    rw [given] at passed
    cases passed

theorem value_validate_of_issues {body : Json.Value} (found : v.check body ≠ []) :
    (v.validate body).value = .error (v.check body) := by
  have refused := v.verdict_eq body
  rw [if_neg found, verdict] at refused
  cases given : (v.validate body).value with
  | ok params =>
    rw [given] at refused
    cases refused
  | error issues =>
    rw [given] at refused
    cases refused
    rfl

def failure? (e : Example) : Option ExampleFailure :=
  if v.check e.body = [] then none else some ⟨e.name, v.check e.body⟩

theorem isNone_failure? (e : Example) : (v.failure? e).isNone = decide (v.check e.body = []) := by
  unfold failure?
  split <;> simp_all

theorem value_tryExample (e : Example) : (v.tryExample e).value = v.failure? e := by
  rw [tryExample, Logged.value_bind, failure?]
  by_cases clean : v.check e.body = []
  · obtain ⟨params, passed⟩ := v.value_validate_of_clean clean
    rw [passed, if_pos clean]
    rfl
  · rw [v.value_validate_of_issues clean, if_neg clean]
    rfl

theorem value_tryExamples (examples : List Example) :
    (v.tryExamples examples).value =
      { total := examples.length
        passed := examples.countP fun e => v.check e.body = []
        failures := examples.filterMap v.failure? } := by
  have outcomes : (examples.mapM v.tryExample).value = examples.map v.failure? := by
    rw [Logged.value_mapM]
    exact List.map_congr_left fun e _ => v.value_tryExample e
  rw [tryExamples, Logged.value_bind, outcomes, Logged.value_pure, List.length_map, List.countP_map,
    List.filterMap_map]
  have passed : Option.isNone ∘ v.failure? = fun e => decide (v.check e.body = []) :=
    funext v.isNone_failure?
  rw [passed]
  rfl

theorem passed_add_failures (examples : List Example) :
    (v.tryExamples examples).value.passed + (v.tryExamples examples).value.failures.length =
      (v.tryExamples examples).value.total := by
  simp only [value_tryExamples]
  induction examples with
  | nil => rfl
  | cons e rest ih =>
    by_cases clean : v.check e.body = []
    · have nothing : v.failure? e = none := if_pos clean
      rw [List.countP_cons_of_pos (by simpa using clean), List.filterMap_cons_none nothing,
        List.length_cons, ← ih]
      omega
    · have failure : v.failure? e = some ⟨e.name, v.check e.body⟩ := if_neg clean
      rw [List.countP_cons_of_neg (by simpa using clean), List.filterMap_cons_some failure,
        List.length_cons, List.length_cons, ← ih]
      omega

theorem filterMap_failure? (examples : List Example) :
    examples.filterMap v.failure? =
      (examples.filter fun e => v.check e.body ≠ []).map fun e => ⟨e.name, v.check e.body⟩ := by
  rw [← List.filterMap_eq_filter, List.map_filterMap]
  apply List.filterMap_congr
  intro e _
  by_cases clean : v.check e.body = [] <;> simp [failure?, clean, Option.guard]

theorem failures_eq_nil_iff (examples : List Example) :
    (v.tryExamples examples).value.failures = [] ↔ ∀ e ∈ examples, v.check e.body = [] := by
  rw [value_tryExamples, List.filterMap_eq_nil_iff]
  simp only [failure?, ite_eq_left_iff, reduceCtorEq, imp_false, not_not]

end Validator

/-! ### Commands -/

abbrev standardValidator (component : String) (spec : Spec) : Validator :=
  (Compiler.mk .standard component).compile spec

theorem Spec.value_tryExamples (spec : Spec) (component : String) (includeHidden : Bool) :
    (spec.tryExamples component includeHidden).value =
      ((standardValidator component spec).tryExamples
        (spec.examplesToTry includeHidden)).value := by
  rw [tryExamples, Logged.value_bind, Compiler.value_compileLogged]

theorem exitCode_checkBody (component : String) (spec : Spec) (body : Json.Value) (asJson : Bool) :
    (checkBody component spec body asJson).value.exitCode =
      if (standardValidator component spec).check body = [] then 0 else 1 := by
  rw [checkBody, Logged.value_bind, Compiler.value_compileLogged, Logged.value_bind]
  by_cases clean : (standardValidator component spec).check body = []
  · obtain ⟨params, passed⟩ := Validator.value_validate_of_clean _ clean
    rw [passed, if_pos clean]
    rfl
  · rw [Validator.value_validate_of_issues _ clean, if_neg clean]
    rfl

theorem exitCode_showExamples (loaded : LoadedSpec) (includeHidden : Bool) :
    (showExamples loaded includeHidden).value.exitCode =
      if ∀ e ∈ loaded.spec.examplesToTry includeHidden,
        (standardValidator loaded.component.text loaded.spec).check e.body = [] then 0 else 1 := by
  rw [showExamples, Logged.value_bind, Logged.value_pure, Spec.value_tryExamples, Outcome.exitCode,
    Outcome.ofReport]
  simp only [List.isEmpty_iff, Validator.failures_eq_nil_iff]

def Spec.visible (spec : Spec) : Spec :=
  { spec with examples := spec.examples.filter (!·.hidden) }

theorem Spec.examplesToTry_visible (spec : Spec) (includeHidden : Bool) :
    spec.visible.examplesToTry includeHidden = spec.examplesToTry false := by
  simp only [examplesToTry, visible, List.filter_filter]
  apply List.filter_congr
  intro e _
  cases e.hidden <;> simp

theorem exitCode_run_examples (s : Surroundings Logged) (request : SpecRequest)
    (includeHidden : Bool) :
    ((Command.examples request includeHidden).run s).run.value.map Outcome.exitCode =
      (s.load request).run.value.map fun loaded =>
        if ∀ e ∈ loaded.spec.examplesToTry includeHidden,
          (standardValidator loaded.component.text loaded.spec).check e.body = []
        then 0 else 1 := by
  have run : (Command.examples request includeHidden).run s =
      s.load request >>= fun loaded => monadLift (showExamples loaded includeHidden) := rfl
  rw [run, ExceptT.run_bind, Logged.value_bind]
  cases (s.load request).run.value with
  | error failure => rfl
  | ok loaded => exact congrArg Except.ok (exitCode_showExamples loaded includeHidden)

theorem Spec.examplesToTry_eq (spec : Spec) (includeHidden : Bool) :
    spec.examplesToTry includeHidden =
      if includeHidden then spec.examples else spec.visible.examples := by
  cases includeHidden with
  | false => rfl
  | true => exact List.filter_true spec.examples

/-- A report on the examples of a spec counts each selected one and lists those with issues, in the
order of the spec and with just these issues. The check of a request body refuses the same ones in
both modes, and the command on examples ends in zero exactly if none is refused. -/
theorem examples_accounted (component : String) (spec : Spec) (includeHidden : Bool) :
    let selected := spec.examplesToTry includeHidden
    let check (e : Example) := (standardValidator component spec).check e.body
    let report := (spec.tryExamples component includeHidden).value
    selected = (if includeHidden then spec.examples else spec.visible.examples) ∧
    report.total = selected.length ∧
    report.passed + report.failures.length = report.total ∧
    report.failures = (selected.filter fun e => check e ≠ []).map (fun e => ⟨e.name, check e⟩) ∧
    (∀ e asJson, (checkBody component spec e.body asJson).value.exitCode =
      if check e = [] then 0 else 1) ∧
    (spec.tryExamples component false).value =
      (spec.visible.tryExamples component includeHidden).value ∧
    ∀ (s : Surroundings Logged) (request : SpecRequest),
      ((Command.examples request includeHidden).run s).run.value.map Outcome.exitCode =
        (s.load request).run.value.map fun loaded =>
          if ∀ e ∈ loaded.spec.examplesToTry includeHidden,
            (standardValidator loaded.component.text loaded.spec).check e.body = []
          then 0 else 1 := by
  intro selected check report
  have counted : report = ((standardValidator component spec).tryExamples selected).value :=
    spec.value_tryExamples component includeHidden
  refine ⟨spec.examplesToTry_eq includeHidden, ?_, ?_, ?_, ?_, ?_, ?_⟩
  · rw [counted, Validator.value_tryExamples]
  · rw [counted]
    exact Validator.passed_add_failures _ selected
  · rw [counted, Validator.value_tryExamples]
    exact Validator.filterMap_failure? _ selected
  · exact fun e => exitCode_checkBody component spec e.body
  · rw [Spec.value_tryExamples, Spec.value_tryExamples, Spec.examplesToTry_visible]
    rfl
  · exact fun s request => exitCode_run_examples s request includeHidden

end ComponentSchema
