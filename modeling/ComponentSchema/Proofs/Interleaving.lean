import Mathlib.Data.List.DropRight
import Mathlib.Logic.Function.Basic
import ComponentSchema.Registry

/-! Clients that use one registry at the same time: the steps of each, and runs of these steps in
any order. -/

set_option autoImplicit false

namespace ComponentSchema

namespace Registry

def offer (r : Registry) (key : Key) (spec : Spec) : Shared :=
  ⟨r.compiled, (r.compiler key).compile spec⟩

def store (r : Registry) (key : Key) (spec : Spec) : Shared × Registry :=
  r.insertIfAbsent key ((r.compiler key).compile spec)

theorem find?_store_self (r : Registry) (key : Key) (spec : Spec) :
    (r.store key spec).2.find? key = some (r.store key spec).1 :=
  find?_insertIfAbsent_self key _ r

theorem store_of_absent {r : Registry} {key : Key} (absent : r.find? key = none) (spec : Spec) :
    r.store key spec =
      (r.offer key spec,
        { r with compiled := r.compiled + 1,
                 entries := (key, r.offer key spec) :: r.entries }) := by
  unfold store insertIfAbsent
  have absent' : find? { r with compiled := r.compiled + 1 } key = none := absent
  simp [absent', offer]

theorem store_of_present {r : Registry} {key : Key} {stored : Shared}
    (present : r.find? key = some stored) (spec : Spec) :
    r.store key spec = (stored, { r with compiled := r.compiled + 1 }) := by
  unfold store insertIfAbsent
  have present' : find? { r with compiled := r.compiled + 1 } key = some stored := present
  simp [present']

theorem find?_store (r : Registry) (key other : Key) (spec : Spec) :
    (r.store key spec).2.find? other =
      (r.find? other).or ([(key, r.offer key spec)].lookup other) := by
  cases present : r.find? key with
  | some stored =>
    have kept : (r.store key spec).2.find? other = r.find? other := by
      rw [store_of_present present]
      rfl
    rw [kept]
    by_cases same : other = key
    · rw [same, present, Option.some_or]
    · rw [List.lookup_cons, beq_eq_false_iff_ne.2 same, List.lookup_nil, Option.or_none]
  | none =>
    rw [store_of_absent present]
    by_cases same : other = key
    · rw [same, present, Option.none_or]
      simp [find?]
    · simp [find?, List.lookup_cons, beq_eq_false_iff_ne.2 same]

/-! ### Steps -/

/-- A call that has not returned: its loader is running, or has returned a spec that is still to be
stored. -/
inductive Call where
  | loading (key : Key)
  | loaded (key : Key) (spec : Spec)

/-- What happens in one step. A call of `getOrCompile` hits, or it misses, loads and then fails or
inserts; every other operation is one step. -/
inductive Event where
  | got (key : Key) (result : Option Shared)
  | hit (key : Key) (stored : Shared)
  | missed (key : Key)
  | loaded (key : Key) (spec : Spec)
  | failed (error : LoadError)
  | inserted (key : Key) (offered returned : Shared)
  | counted (size : Nat)
  | askedEmpty (empty : Bool)
  | cleared

def Event.attempt? : Event → Option (Key × Shared)
  | .inserted key offered _ => some (key, offered)
  | _ => none

inductive Event.Answers : Event → Key → Shared → Prop where
  | got (key : Key) (stored : Shared) : Answers (.got key (some stored)) key stored
  | hit (key : Key) (stored : Shared) : Answers (.hit key stored) key stored
  | inserted (key : Key) (offered stored : Shared) :
      Answers (.inserted key offered stored) key stored

variable {Client : Type}

/-- A registry and the unfinished calls of its clients, inner calls before those whose loaders made
them. -/
structure System (Client : Type) where
  registry : Registry
  calls : Client → List Call := fun _ => []

def System.start (t : OverrideTable) : System Client :=
  { registry := { overrides := t } }

/-- A client can start an operation, in a loader or outside, unless it has a spec to store. -/
def System.Free (s : System Client) (client : Client) : Prop :=
  ∀ key spec outer, s.calls client ≠ .loaded key spec :: outer

theorem System.free_of_idle {s : System Client} {client : Client} (idle : s.calls client = []) :
    s.Free client := by
  intro key spec outer busy
  rw [idle] at busy
  cases busy

variable [DecidableEq Client]

def System.withCalls (s : System Client) (client : Client) (calls : List Call) : System Client :=
  { s with calls := Function.update s.calls client calls }

@[simp] theorem System.registry_withCalls (s : System Client) (client : Client)
    (calls : List Call) :
    (s.withCalls client calls).registry = s.registry := rfl

@[simp] theorem System.calls_withCalls_self (s : System Client) (client : Client)
    (calls : List Call) : (s.withCalls client calls).calls client = calls := by
  simp [withCalls]

theorem System.calls_withCalls_of_ne (s : System Client) {client other : Client}
    (different : other ≠ client) (calls : List Call) :
    (s.withCalls client calls).calls other = s.calls other := by
  simp [withCalls, different]

/-- One step of a client. No lock is held while a loader runs: its client is free to use the
registry, and so are the others. -/
inductive Step (s : System Client) : Client → Event → System Client → Prop where
  | get (client : Client) (key : Key) (free : s.Free client) :
      Step s client (.got key (s.registry.find? key)) s
  | hit (client : Client) {key : Key} {stored : Shared} (free : s.Free client)
      (found : s.registry.find? key = some stored) : Step s client (.hit key stored) s
  | miss (client : Client) (key : Key) (free : s.Free client)
      (absent : s.registry.find? key = none) :
      Step s client (.missed key) (s.withCalls client (.loading key :: s.calls client))
  | load (client : Client) (spec : Spec) {key : Key} {outer : List Call}
      (running : s.calls client = .loading key :: outer) :
      Step s client (.loaded key spec) (s.withCalls client (.loaded key spec :: outer))
  | fail (client : Client) (reason : String) {key : Key} {outer : List Call}
      (running : s.calls client = .loading key :: outer) :
      Step s client (.failed ⟨key, reason⟩) (s.withCalls client outer)
  | insert (client : Client) {key : Key} {spec : Spec} {outer : List Call}
      (ready : s.calls client = .loaded key spec :: outer) :
      Step s client (.inserted key (s.registry.offer key spec) (s.registry.store key spec).1)
        { s.withCalls client outer with registry := (s.registry.store key spec).2 }
  | size (client : Client) (free : s.Free client) : Step s client (.counted s.registry.size) s
  | isEmpty (client : Client) (free : s.Free client) :
      Step s client (.askedEmpty s.registry.isEmpty) s
  | clear (client : Client) (free : s.Free client) :
      Step s client .cleared { s with registry := s.registry.clear }

/-- The steps from one state to another, in order, with the client of each. -/
inductive Runs (s : System Client) : List (Client × Event) → System Client → Prop where
  | refl : Runs s [] s
  | step {history : List (Client × Event)} {s' s'' : System Client} {client : Client}
      {event : Event} (earlier : Runs s history s') (next : Step s' client event s'') :
      Runs s (history ++ [(client, event)]) s''

theorem Step.runs {s s' : System Client} {client : Client} {event : Event}
    (next : Step s client event s') : Runs s [(client, event)] s' :=
  .step .refl next

theorem Runs.trans {s s' s'' : System Client} {earlier later : List (Client × Event)}
    (first : Runs s earlier s') (second : Runs s' later s'') : Runs s (earlier ++ later) s'' := by
  induction second with
  | refl => rwa [List.append_nil]
  | step _ next ih =>
    rw [← List.append_assoc]
    exact ih.step next

theorem Runs.last {s s' : System Client} {before : List (Client × Event)} {client : Client}
    {event : Event} (run : Runs s (before ++ [(client, event)]) s') :
    ∃ middle, Runs s before middle ∧ Step middle client event s' := by
  generalize whole : before ++ [(client, event)] = history at run
  cases run with
  | refl => exact absurd whole (by simp)
  | step earlier next =>
    obtain ⟨rfl, same⟩ := List.append_inj' whole rfl
    cases same
    exact ⟨_, earlier, next⟩

theorem Runs.split {s s' : System Client} {earlier later : List (Client × Event)}
    (run : Runs s (earlier ++ later) s') :
    ∃ middle, Runs s earlier middle ∧ Runs middle later s' := by
  -- A history grows at its end, so the later part is taken apart from there.
  induction later using List.reverseRecOn generalizing s' with
  | nil =>
    rw [List.append_nil] at run
    exact ⟨s', run, .refl⟩
  | append_singleton front last ih =>
    rw [← List.append_assoc] at run
    obtain ⟨state, before, next⟩ := run.last
    obtain ⟨middle, first, second⟩ := ih before
    exact ⟨middle, first, second.step next⟩

theorem Runs.at_step {s s' : System Client} {before after : List (Client × Event)} {client : Client}
    {event : Event} (run : Runs s (before ++ (client, event) :: after) s') :
    ∃ s₁ s₂, Runs s before s₁ ∧ Step s₁ client event s₂ ∧ Runs s₂ after s' := by
  rw [List.append_cons] at run
  obtain ⟨s₂, through, later⟩ := run.split
  obtain ⟨s₁, earlier, next⟩ := through.last
  exact ⟨s₁, s₂, earlier, next, later⟩

/-- What a step does to the registry: nothing, or it stores a loaded spec, or clears. -/
theorem Step.registry_cases {s s' : System Client} {client : Client} {event : Event}
    (next : Step s client event s') :
    (s'.registry = s.registry ∧ event.attempt? = none ∧ event ≠ .cleared) ∨
    (∃ key spec outer, s.calls client = .loaded key spec :: outer ∧
      event = .inserted key (s.registry.offer key spec) (s.registry.store key spec).1 ∧
      s'.registry = (s.registry.store key spec).2) ∨
    (event = .cleared ∧ s'.registry = s.registry.clear) := by
  cases next with
  | insert ready => exact .inr (.inl ⟨_, _, _, ready, rfl, rfl⟩)
  | clear => exact .inr (.inr ⟨rfl, rfl⟩)
  | _ => exact .inl ⟨rfl, rfl, nofun⟩

end Registry

end ComponentSchema
