import ComponentSchema.Proofs.Provenance

/-! What one call of `getOrCompile` returns and leaves, for any loader: its effects stay, whatever
it does to the registry or to the world outside, and the call adds one entry at most. -/

set_option autoImplicit false

namespace ComponentSchema

namespace Registry

/-- Computations on a registry that may also change a world around it. -/
abbrev Effect (World α : Type) : Type :=
  StateT Registry (StateT World Logged) α

variable {World α : Type}

def outcome (x : Effect World α) (r : Registry) (w : World) : α × Registry × World :=
  let ((result, left), world) := ((x.run r).run w).value
  (result, left, world)

/-- The same computation, with the number of its runs beside the world. -/
def counted (x : Effect World α) : Effect (World × Nat) α :=
  fun r (w, runs) => do
    let (result, world) ← (x.run r).run w
    return (result, world, runs + 1)

theorem outcome_eq_iff {x : Effect World α} {r left : Registry} {w world : World} {result : α} :
    outcome x r w = (result, left, world) ↔ ((x.run r).run w).value = ((result, left), world) := by
  simp [outcome, Prod.ext_iff, and_assoc]

theorem outcome_counted (x : Effect World α) (r : Registry) (w : World) (runs : Nat) :
    outcome (counted x) r (w, runs) =
      ((outcome x r w).1, (outcome x r w).2.1, (outcome x r w).2.2, runs + 1) := rfl

/-- A registry has at most one entry more than the one it came from: what it now has for the key was
there, or has been compiled from the spec. -/
structure AddsAtMost (left : Registry) (key : Key) (spec : Spec) (shared : Shared) (r : Registry) :
    Prop where
  found : r.find? key = some shared
  kept : ∀ stored, left.find? key = some stored → shared = stored ∧ r.entries = left.entries
  added : left.find? key = none →
    shared.validator = (left.compiler key).compile spec ∧ r.entries = (key, shared) :: left.entries
  others : ∀ other, other ≠ key → r.find? other = left.find? other
  overrides : r.overrides = left.overrides

theorem addsAtMost_store (left : Registry) (key : Key) (spec : Spec) :
    AddsAtMost left key spec (left.store key spec).1 (left.store key spec).2 where
  found := find?_store_self left key spec
  kept stored present := by
    rw [store_of_present present]
    exact ⟨rfl, rfl⟩
  added absent := by
    rw [store_of_absent absent]
    exact ⟨rfl, rfl⟩
  others other different := find?_insertIfAbsent_of_ne different _ left
  overrides := overrides_store left key spec

section

variable {key : Key} {load : Effect World (Except String Spec)} {r left : Registry}
    {w world : World}

theorem outcome_getOrCompile_of_present {stored : Shared} (present : r.find? key = some stored) :
    outcome (getOrCompile key load) r w = (.ok stored, r, w) := by
  unfold getOrCompile
  simp [outcome, present]

theorem outcome_getOrCompile_of_failed {reason : String} (absent : r.find? key = none)
    (failed : outcome load r w = (.error reason, left, world)) :
    outcome (getOrCompile key load) r w = (.error ⟨key, reason⟩, left, world) := by
  rw [outcome_eq_iff] at failed ⊢
  unfold getOrCompile
  simp [absent, failed]

theorem outcome_getOrCompile_of_loaded {spec : Spec} (absent : r.find? key = none)
    (loaded : outcome load r w = (.ok spec, left, world)) :
    outcome (getOrCompile key load) r w =
      (.ok (left.store key spec).1, (left.store key spec).2, world) := by
  rw [outcome_eq_iff] at loaded ⊢
  unfold getOrCompile
  simp [absent, loaded, Compiler.value_compileLogged, store]

theorem outcome_getOrCompile_counted (runs : Nat) :
    outcome (getOrCompile key (counted load)) r (w, runs) =
      ((outcome (getOrCompile key load) r w).1, (outcome (getOrCompile key load) r w).2.1,
        (outcome (getOrCompile key load) r w).2.2,
          if (r.find? key).isSome then runs else runs + 1) := by
  cases present : r.find? key with
  | some stored =>
    rw [outcome_getOrCompile_of_present present, outcome_getOrCompile_of_present present]
    rfl
  | none =>
    have once := outcome_counted load r w runs
    rcases loading : outcome load r w with ⟨result, left, world⟩
    rw [loading] at once
    cases result with
    | error reason =>
      rw [outcome_getOrCompile_of_failed present loading,
        outcome_getOrCompile_of_failed present once]
      rfl
    | ok spec =>
      rw [outcome_getOrCompile_of_loaded present loading,
        outcome_getOrCompile_of_loaded present once]
      rfl

theorem getOrCompile_fails_iff :
    (∃ error, (outcome (getOrCompile key load) r w).1 = .error error) ↔
      r.find? key = none ∧ ∃ reason, (outcome load r w).1 = .error reason := by
  cases present : r.find? key with
  | some stored => simp [outcome_getOrCompile_of_present present]
  | none =>
    rcases loading : outcome load r w with ⟨result, left, world⟩
    cases result with
    | error reason => simp [outcome_getOrCompile_of_failed present loading]
    | ok spec => simp [outcome_getOrCompile_of_loaded present loading]

end

/-- A call whose key is stored returns the entry and does nothing else. Otherwise the loader runs
once: if it fails, so does the call, with its reason, and leaves what the loader left; if it gives a
spec, the registry that the loader left gets one entry at most. -/
theorem getOrCompile_frame (key : Key) (load : Effect World (Except String Spec)) (r : Registry)
    (w : World) :
    (∀ stored, r.find? key = some stored →
      outcome (getOrCompile key load) r w = (.ok stored, r, w)) ∧
    (r.find? key = none → ∀ reason left world, outcome load r w = (.error reason, left, world) →
      outcome (getOrCompile key load) r w = (.error ⟨key, reason⟩, left, world)) ∧
    (r.find? key = none → ∀ spec left world, outcome load r w = (.ok spec, left, world) →
      ∃ shared r', outcome (getOrCompile key load) r w = (.ok shared, r', world) ∧
        AddsAtMost left key spec shared r') ∧
    ((∃ error, (outcome (getOrCompile key load) r w).1 = .error error) ↔
      r.find? key = none ∧ ∃ reason, (outcome load r w).1 = .error reason) ∧
    ∀ runs, outcome (getOrCompile key (counted load)) r (w, runs) =
      ((outcome (getOrCompile key load) r w).1, (outcome (getOrCompile key load) r w).2.1,
        (outcome (getOrCompile key load) r w).2.2,
        if (r.find? key).isSome then runs else runs + 1) := by
  refine ⟨?_, ?_, ?_, getOrCompile_fails_iff, outcome_getOrCompile_counted⟩
  · intro stored present
    exact outcome_getOrCompile_of_present present
  · intro absent reason left world failed
    exact outcome_getOrCompile_of_failed absent failed
  · intro absent spec left world loaded
    exact ⟨_, _, outcome_getOrCompile_of_loaded absent loaded, addsAtMost_store left key spec⟩

def detailsKey : Key :=
  { buttonKey with component := ⟨"details", by decide⟩ }

def offlineLoad : Effect Nat (Except String Spec) := do
  let _ ← getOrCompile detailsKey (pure (.ok {}))
  return .error "offline"

/-- A loader that asks for what it loads, and so stores it before the call does. -/
def overtakingLoad : Effect Nat (Except String Spec) := do
  let _ ← getOrCompile buttonKey (pure (.ok buttonSpec))
  return .ok {}

def withDetails : Registry :=
  { overrides := .empty, entries := [(detailsKey, ⟨0, (Compiler.mk .empty "details").compile {}⟩)]
    compiled := 1 }

theorem getOrCompile_frame_reentrant :
    outcome (getOrCompile buttonKey offlineLoad) { overrides := .empty } 0 =
      (.error ⟨buttonKey, "offline"⟩, withDetails, 0) ∧
    ∃ r, outcome (getOrCompile buttonKey (counted overtakingLoad)) withDetails (0, 0) =
        (.ok (buttonShared 1 buttonSpec), r, 0, 1) ∧
      r.find? detailsKey = withDetails.find? detailsKey ∧ r.size = 2 := by
  have offline : outcome offlineLoad { overrides := .empty } 0 =
    (.error "offline", withDetails, 0) := rfl
  obtain ⟨-, fails, -⟩ := getOrCompile_frame buttonKey offlineLoad { overrides := .empty } 0
  have overtaking : outcome overtakingLoad withDetails 0 =
      (.ok {}, (withDetails.store buttonKey buttonSpec).2, 0) := rfl
  obtain ⟨-, -, stores, -, once⟩ := getOrCompile_frame buttonKey overtakingLoad withDetails 0
  obtain ⟨shared, r, call, adds⟩ := stores rfl _ _ _ overtaking
  obtain ⟨same, entries⟩ := adds.kept (buttonShared 1 buttonSpec) rfl
  refine ⟨fails rfl _ _ _ offline, r, ?_, ?_, ?_⟩
  · rw [once 0, call, same]
    rfl
  · exact adds.others detailsKey (by decide)
  · rw [size, entries]
    rfl

end Registry

end ComponentSchema
