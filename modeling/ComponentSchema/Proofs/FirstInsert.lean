import Mathlib.Data.List.Dedup
import Mathlib.Data.List.Perm.Basic
import ComponentSchema.Proofs.CallSteps

/-! The first attempt to insert a validator for a key wins, until the registry is cleared: whoever
is answered in between is given that instance, in any order of the steps of any clients. -/

set_option autoImplicit false

namespace ComponentSchema

namespace Registry

variable {Client : Type}

def Event.isClear : Event → Bool
  | .cleared => true
  | _ => false

/-- The attempts to insert since the registry was last cleared, in order. -/
def attempts (history : List (Client × Event)) : List (Key × Shared) :=
  (history.rtakeWhile fun step => !step.2.isClear).filterMap fun step => step.2.attempt?

theorem attempts_cleared (history : List (Client × Event)) (client : Client) :
    attempts (history ++ [(client, .cleared)]) = [] := by
  simp [attempts, Event.isClear]

theorem attempts_snoc (history : List (Client × Event)) (client : Client) {event : Event}
    (other : event ≠ .cleared) :
    attempts (history ++ [(client, event)]) = attempts history ++ event.attempt?.toList := by
  have kept : event.isClear = false := by
    cases event with
    | cleared => exact absurd rfl other
    | _ => rfl
  unfold attempts
  rw [List.rtakeWhile_concat, if_pos (by simp [kept]), List.filterMap_append]
  cases attempt : event.attempt? <;> simp [attempt]

variable [DecidableEq Client] {t : OverrideTable} {history : List (Client × Event)}
  {s s' : System Client}

theorem Runs.find?_eq (run : Runs (.start t) history s) (key : Key) :
    s.registry.find? key = (attempts history).lookup key := by
  induction run with
  | refl => rfl
  | @step history s s' client event _ next ih =>
    rcases next.registry_cases with
      ⟨same, nothing, other⟩ | ⟨k, spec, outer, -, rfl, stored⟩ | ⟨rfl, clear⟩
    · rw [same, ih, attempts_snoc history client other, nothing, Option.toList_none,
        List.append_nil]
    · have other :
          Event.inserted k (s.registry.offer k spec) (s.registry.store k spec).1 ≠ .cleared :=
        fun same => nomatch same
      rw [stored, find?_store, ih, attempts_snoc history client other, List.lookup_append]
      rfl
    · rw [clear, find?_clear, attempts_cleared, List.lookup_nil]

/-! ### Answers -/

theorem Step.find?_of_answers {client : Client} {event : Event} (next : Step s client event s')
    {key : Key} {shared : Shared} (answer : event.Answers key shared) :
    s'.registry.find? key = some shared := by
  cases next with
  | get asked free =>
    generalize result : s.registry.find? asked = found at answer
    cases answer
    exact result
  | hit free found =>
    cases answer
    exact found
  | insert ready =>
    cases answer
    exact find?_store_self _ _ _
  | _ => cases answer

theorem Step.find?_mono {client : Client} {event : Event} (next : Step s client event s')
    (other : event ≠ .cleared) {key : Key} {shared : Shared}
    (found : s.registry.find? key = some shared) : s'.registry.find? key = some shared := by
  rcases next.registry_cases with ⟨same, -, -⟩ | ⟨k, spec, outer, -, -, stored⟩ | ⟨clear, -⟩
  · rw [same, found]
  · rw [stored, find?_store, found, Option.some_or]
  · exact absurd clear other

/-- Without a clear, an answer for a key is its entry ever after. -/
theorem Runs.find?_of_answers (run : Runs s history s')
    (uncleared : ∀ step ∈ history, step.2 ≠ .cleared) {step : Client × Event}
    (member : step ∈ history) {key : Key} {shared : Shared} (answer : step.2.Answers key shared) :
    s'.registry.find? key = some shared := by
  induction run with
  | refl => cases member
  | @step history s₁ s₂ client event _ next ih =>
    have last : event ≠ .cleared :=
      uncleared (client, event) (List.mem_append_right _ (List.mem_singleton_self _))
    rcases List.mem_append.1 member with earlier | now
    · refine next.find?_mono last (ih (fun step member => ?_) earlier)
      exact uncleared step (List.mem_append_left _ member)
    · rw [List.mem_singleton.1 now] at answer
      exact next.find?_of_answers answer

/-! ### Sizes -/

theorem mem_keys_iff {entries : List (Key × Shared)} {key : Key} :
    key ∈ entries.map (·.1) ↔ (entries.lookup key).isSome = true := by
  rw [List.lookup_isSome_iff, List.mem_map]
  apply exists_congr
  intro entry
  rw [beq_iff_eq, eq_comm]

theorem Step.nodup_keys {client : Client} {event : Event} (next : Step s client event s')
    (distinct : (s.registry.entries.map (·.1)).Nodup) : (s'.registry.entries.map (·.1)).Nodup := by
  rcases next.registry_cases with ⟨same, -, -⟩ | ⟨key, spec, outer, -, -, stored⟩ | ⟨-, clear⟩
  · rwa [same]
  · rw [stored]
    cases present : s.registry.find? key with
    | some shared => rwa [store_of_present present]
    | none =>
      have new : key ∉ s.registry.entries.map (·.1) := by
        rw [mem_keys_iff]
        change ¬(s.registry.find? key).isSome = true
        simp [present]
      rw [store_of_absent present]
      exact List.nodup_cons.2 ⟨new, distinct⟩
  · rw [clear]
    exact List.nodup_nil

theorem Runs.nodup_keys (run : Runs (.start t) history s) :
    (s.registry.entries.map (·.1)).Nodup := by
  induction run with
  | refl => exact List.nodup_nil
  | step _ next ih => exact next.nodup_keys ih

/-- The number of different keys with an attempt to insert since the registry was last cleared. -/
def attemptedKeys (history : List (Client × Event)) : Nat :=
  ((attempts history).map (·.1)).dedup.length

theorem Runs.size_eq (run : Runs (.start t) history s) :
    s.registry.size = attemptedKeys history := by
  -- The keys that are stored are those with an attempt, and neither list repeats one.
  have same : (s.registry.entries.map (·.1)).Perm ((attempts history).map (·.1)).dedup := by
    rw [List.perm_ext_iff_of_nodup run.nodup_keys (List.nodup_dedup _)]
    intro key
    rw [List.mem_dedup, mem_keys_iff, mem_keys_iff, ← run.find?_eq]
    rfl
  calc
    s.registry.size = (s.registry.entries.map (·.1)).length := (List.length_map _).symm
    _ = attemptedKeys history := same.length_eq

theorem isEmpty_iff {r : Registry} : r.isEmpty = true ↔ r.size = 0 := by
  unfold isEmpty size
  rw [List.isEmpty_iff, List.length_eq_zero_iff]

/-! ### Instances -/

theorem compiled_store (r : Registry) (key : Key) (spec : Spec) :
    (r.store key spec).2.compiled = r.compiled + 1 := by
  cases present : r.find? key with
  | some shared => rw [store_of_present present]
  | none => rw [store_of_absent present]

theorem Runs.serials_eq (run : Runs (.start t) history s) :
    (history.filterMap fun step => step.2.attempt?).map (·.2.serial) =
      List.range s.registry.compiled := by
  induction run with
  | refl => rfl
  | @step history s s' client event _ next ih =>
    rw [List.filterMap_append, List.map_append, ih]
    rcases next.registry_cases with
      ⟨same, nothing, -⟩ | ⟨key, spec, outer, -, rfl, stored⟩ | ⟨rfl, clear⟩
    · simp [same, nothing]
    · rw [stored, compiled_store, List.range_succ]
      rfl
    · rw [clear]
      simp [Event.attempt?, Registry.clear]

/-- Between clears the entry of a key is what was first offered for it, every answer for the key is
that very instance, and the size counts the keys with an offer; offers are different instances.
Calls of `getOrCompile` go on with a run by their steps, and return what the last of these does. -/
theorem first_insert_wins (run : Runs (.start t) history s) :
    (∀ key, s.registry.find? key = (attempts history).lookup key) ∧
    (∀ before window after, history = before ++ window ++ after →
      (∀ step ∈ window, step.2 ≠ .cleared) → ∀ key, ∀ one ∈ window, ∀ other ∈ window,
        ∀ first second, one.2.Answers key first → other.2.Answers key second → first = second) ∧
    (s.registry.size = attemptedKeys history ∧
      (s.registry.isEmpty = true ↔ attemptedKeys history = 0)) ∧
    (∀ before client after size, history = before ++ (client, .counted size) :: after →
      size = attemptedKeys before) ∧
    (∀ before client after empty, history = before ++ (client, .askedEmpty empty) :: after →
      (empty = true ↔ attemptedKeys before = 0)) ∧
    ((history.filterMap fun step => step.2.attempt?).map (·.2.serial)).Nodup ∧
    ∀ client key load, s.Free client → Realized client load →
      ∃ later event s', Runs (.start t) (history ++ (later ++ [(client, event)])) s' ∧
        CallSteps client key load s (later ++ [(client, event)])
          ((getOrCompile key load).run s.registry).value.1 s' ∧
        s'.registry = ((getOrCompile key load).run s.registry).value.2 ∧
        event.Returns key ((getOrCompile key load).run s.registry).value.1 := by
  refine ⟨run.find?_eq, ?_, ⟨run.size_eq, ?_⟩, ?_, ?_, ?_, ?_⟩
  · rintro before window after rfl uncleared key one oneIn other otherIn
    intro first second oneAnswer otherAnswer
    obtain ⟨s₂, through, -⟩ := run.split
    obtain ⟨s₁, -, inside⟩ := through.split
    have found := inside.find?_of_answers uncleared oneIn oneAnswer
    rw [inside.find?_of_answers uncleared otherIn otherAnswer] at found
    exact (Option.some.inj found).symm
  · rw [isEmpty_iff, run.size_eq]
  · rintro before client after size rfl
    obtain ⟨s₁, s₂, earlier, next, -⟩ := run.at_step
    cases next with
    | size free => exact earlier.size_eq
  · rintro before client after empty rfl
    obtain ⟨s₁, s₂, earlier, next, -⟩ := run.at_step
    cases next with
    | isEmpty free => rw [isEmpty_iff, earlier.size_eq]
  · rw [run.serials_eq]
    exact List.nodup_range
  · intro client key load free loader
    obtain ⟨later, event, s', call, returns⟩ := exists_callSteps free key loader
    obtain ⟨steps, -, value⟩ := call.runs
    exact ⟨later, event, s', run.trans steps, call, by rw [value], returns⟩

def buttonKey : Key :=
  { component := ⟨"button", by decide⟩, version := ⟨"v5.0.0", by decide⟩ }

def buttonSpec : Spec :=
  { params := [{ name := "text", type := .string, required := true }] }

def buttonShared (serial : Nat) (spec : Spec) : Shared :=
  ⟨serial, (Compiler.mk .empty "button").compile spec⟩

/-- Two clients miss one key and load different specs; the one who missed last stores first. -/
def race : List (Bool × Event) :=
  [(false, .missed buttonKey), (true, .missed buttonKey), (false, .loaded buttonKey {}),
    (true, .loaded buttonKey buttonSpec),
    (true, .inserted buttonKey (buttonShared 0 buttonSpec) (buttonShared 0 buttonSpec)),
    (false, .inserted buttonKey (buttonShared 1 {}) (buttonShared 0 buttonSpec)),
    (true, .counted 1)]

theorem exists_runs_race : ∃ s, Runs (.start .empty) race s ∧ s.Free true := by
  have missed : Runs (.start .empty) _ _ :=
    (Step.miss false buttonKey (System.free_of_idle rfl) rfl).runs.step
      (Step.miss true buttonKey (System.free_of_idle rfl) rfl)
  have loaded := (missed.step (.load false {} rfl)).step (.load true buttonSpec rfl)
  have inserted := (loaded.step (.insert true rfl)).step (.insert false rfl)
  exact ⟨_, inserted.step (.size true (System.free_of_idle rfl)), System.free_of_idle rfl⟩

/-- A loader that calls for the key that it loads, and clears. -/
def reentrantLoad : StateT Registry Logged (Except String Spec) := do
  let _ ← getOrCompile buttonKey (pure (.ok {}))
  modify clear
  return .ok {}

theorem realized_reentrantLoad : Realized true reentrantLoad := by
  apply (Realized.getOrCompile buttonKey (realized_of_reads fun _ => rfl)).bind
  intro _
  apply realized_clear.bind
  intro _
  exact realized_of_reads fun _ => rfl

theorem first_insert_wins_race : ∃ s, Runs (.start .empty) race s ∧
    s.registry.find? buttonKey = some (buttonShared 0 buttonSpec) ∧ s.registry.size = 1 ∧
    ∃ later event s', Runs (.start .empty) (race ++ (later ++ [(true, event)])) s' ∧
      event.Returns buttonKey (.ok (buttonShared 0 buttonSpec)) := by
  obtain ⟨s, run, free⟩ := exists_runs_race
  obtain ⟨entry, -, ⟨size, -⟩, -, -, -, calls⟩ := first_insert_wins run
  have found : s.registry.find? buttonKey = some (buttonShared 0 buttonSpec) := entry buttonKey
  obtain ⟨later, event, s', longer, -, -, returns⟩ :=
    calls true buttonKey reentrantLoad free realized_reentrantLoad
  rw [value_getOrCompile_of_present found] at returns
  exact ⟨s, run, found, size.trans (by decide), later, event, s', longer, returns⟩

end Registry

end ComponentSchema
