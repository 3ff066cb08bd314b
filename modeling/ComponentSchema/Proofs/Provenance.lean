import ComponentSchema.Proofs.FirstInsert

/-! Where the validators of a registry come from: each was compiled from a spec that a loader
returned for the very key it is stored under. -/

set_option autoImplicit false

namespace ComponentSchema

namespace Registry

variable {Client : Type}

def FromLoad (t : OverrideTable) (history : List (Client × Event)) (key : Key)
    (validator : Validator) :
    Prop :=
  ∃ client spec, (client, Event.loaded key spec) ∈ history ∧
    validator = (Compiler.mk t key.component.text).compile spec

theorem FromLoad.append {t : OverrideTable} {history : List (Client × Event)} {key : Key}
    {validator : Validator} (source : FromLoad t history key validator)
    (later : List (Client × Event)) : FromLoad t (history ++ later) key validator := by
  obtain ⟨client, spec, loaded, same⟩ := source
  exact ⟨client, spec, List.mem_append_left later loaded, same⟩

theorem overrides_store (r : Registry) (key : Key) (spec : Spec) :
    (r.store key spec).2.overrides = r.overrides := by
  cases present : r.find? key with
  | some shared => rw [store_of_present present]
  | none => rw [store_of_absent present]

theorem mem_entries_store {r : Registry} {key : Key} {spec : Spec} {entry : Key × Shared}
    (member : entry ∈ (r.store key spec).2.entries) :
    entry = (key, r.offer key spec) ∨ entry ∈ r.entries := by
  cases present : r.find? key with
  | some shared =>
    rw [store_of_present present] at member
    exact .inr member
  | none =>
    rw [store_of_absent present] at member
    exact List.mem_cons.1 member

variable [DecidableEq Client] {t : OverrideTable} {history : List (Client × Event)}
  {s s' : System Client}

theorem System.mem_calls_withCalls {client other : Client} {calls : List Call} {call : Call}
    (member : call ∈ (s.withCalls client calls).calls other) :
    other = client ∧ call ∈ calls ∨ call ∈ s.calls other := by
  by_cases same : other = client
  · rw [same, calls_withCalls_self] at member
    exact .inl ⟨same, member⟩
  · rw [calls_withCalls_of_ne s same] at member
    exact .inr member

/-- A spec waits to be stored because it has just been loaded, or has been waiting. -/
theorem Step.loaded_mem_calls {client other : Client} {event : Event}
    (next : Step s client event s')
    {key : Key} {spec : Spec} (waiting : Call.loaded key spec ∈ s'.calls other) :
    (other, event) = (client, .loaded key spec) ∨ .loaded key spec ∈ s.calls other := by
  cases next with
  | miss key free absent =>
    rcases System.mem_calls_withCalls waiting with ⟨rfl, called⟩ | before
    · cases called with
      | tail _ before => exact .inr before
    · exact .inr before
  | load spec running =>
    rcases System.mem_calls_withCalls waiting with ⟨rfl, called⟩ | before
    · cases called with
      | head => exact .inl rfl
      | tail _ before => exact .inr (running ▸ List.mem_cons_of_mem _ before)
    · exact .inr before
  | fail reason running =>
    rcases System.mem_calls_withCalls waiting with ⟨rfl, called⟩ | before
    · exact .inr (running ▸ List.mem_cons_of_mem _ called)
    · exact .inr before
  | insert ready =>
    rcases System.mem_calls_withCalls waiting with ⟨rfl, called⟩ | before
    · exact .inr (ready ▸ List.mem_cons_of_mem _ called)
    · exact .inr before
  | _ => exact .inr waiting

/-- Specs that wait to be stored have been loaded, and entries were compiled from such specs, by the
compiler of the registry. -/
structure Sourced (t : OverrideTable) (history : List (Client × Event)) (s : System Client) :
    Prop where
  overrides : s.registry.overrides = t
  waiting : ∀ client key spec, .loaded key spec ∈ s.calls client →
    (client, .loaded key spec) ∈ history
  entries : ∀ entry ∈ s.registry.entries, FromLoad t history entry.1 entry.2.validator

theorem Sourced.step (sourced : Sourced t history s) {client : Client} {event : Event}
    (next : Step s client event s') : Sourced t (history ++ [(client, event)]) s' := by
  have waiting : ∀ other key spec, .loaded key spec ∈ s'.calls other →
      (other, .loaded key spec) ∈ history ++ [(client, event)] := by
    intro other key spec member
    rcases next.loaded_mem_calls member with now | before
    · cases now
      exact List.mem_append_right _ (List.mem_singleton_self _)
    · exact List.mem_append_left _ (sourced.waiting other key spec before)
  rcases next.registry_cases with ⟨same, -, -⟩ | ⟨key, spec, outer, ready, -, stored⟩ | ⟨-, clear⟩
  · refine ⟨by rw [same, sourced.overrides], waiting, fun entry member => ?_⟩
    rw [same] at member
    exact (sourced.entries entry member).append _
  · refine ⟨by rw [stored, overrides_store, sourced.overrides], waiting, fun entry member => ?_⟩
    rw [stored] at member
    rcases mem_entries_store member with rfl | before
    · have loaded := sourced.waiting client key spec (ready ▸ List.mem_cons_self)
      refine ⟨client, spec, List.mem_append_left _ loaded, ?_⟩
      rw [← sourced.overrides]
      rfl
    · exact (sourced.entries entry before).append _
  · refine ⟨by rw [clear]; exact sourced.overrides, waiting, fun entry member => ?_⟩
    rw [clear] at member
    cases member

theorem Runs.sourced (run : Runs (.start t) history s) : Sourced t history s := by
  induction run with
  | refl =>
    refine ⟨rfl, ?_, ?_⟩
    · intro client key spec waiting
      cases waiting
    · intro entry member
      cases member
  | step _ next ih => exact ih.step next

theorem Runs.fromLoad_of_found (run : Runs (.start t) history s) {key : Key} {shared : Shared}
    (found : s.registry.find? key = some shared) : FromLoad t history key shared.validator := by
  obtain ⟨front, back, split, -⟩ := List.lookup_eq_some_iff.1 found
  exact run.sourced.entries (key, shared) (by simp [split])

theorem Runs.fromLoad_of_answers {before : List (Client × Event)} {client : Client} {event : Event}
    (run : Runs (.start t) (before ++ [(client, event)]) s) {key : Key} {shared : Shared}
    (answer : event.Answers key shared) : FromLoad t before key shared.validator := by
  obtain ⟨middle, -, next⟩ := run.last
  obtain ⟨loader, spec, loaded, same⟩ := run.fromLoad_of_found (next.find?_of_answers answer)
  rcases List.mem_append.1 loaded with earlier | now
  · exact ⟨loader, spec, earlier, same⟩
  · cases List.mem_singleton.1 now
    cases answer

/-! ### Loaders -/

/-- A call for the key has missed, and its loader has given the spec. -/
inductive Given (t : OverrideTable) (history : List (Client × Event)) (key : Key) (spec : Spec) :
    Prop where
  | intro {earlier steps later : List (Client × Event)} {looked left : System Client}
      {client : Client} {load : StateT Registry Logged (Except String Spec)}
      (called : Runs (.start t) earlier looked) (absent : looked.registry.find? key = none)
      (loading : Loading client load looked steps (.ok spec) left)
      (split : history =
        earlier ++ (client, .missed key) :: steps ++ (client, .loaded key spec) :: later) :
      Given t history key spec

/-- The validator was compiled from a spec that the loader of a call for the key has given. -/
def FromLoader (t : OverrideTable) (history : List (Client × Event)) (key : Key)
    (validator : Validator) : Prop :=
  ∃ spec, Given t history key spec ∧ validator = (Compiler.mk t key.component.text).compile spec

theorem Given.mem {key : Key} {spec : Spec} (given : Given t history key spec) :
    ∃ client, (client, Event.loaded key spec) ∈ history := by
  cases given with
  | @intro earlier steps later looked left client load called absent loading split =>
    exact ⟨client, split ▸ List.mem_append_right _ List.mem_cons_self⟩

theorem Runs.given_of_loaded (run : Runs (.start t) history s) {client : Client} {key : Key}
    {spec : Spec} (loaded : (client, .loaded key spec) ∈ history) : Given t history key spec := by
  obtain ⟨before, later, rfl⟩ := List.append_of_mem loaded
  obtain ⟨running, after, through, next, -⟩ := run.at_step
  cases next with
  | @load spec key outer loading =>
    obtain ⟨earlier, looked, steps, rfl, called, -, absent, -, inside⟩ :=
      through.begun [] loading
    exact .intro called absent (inside.loading (.ok spec)) rfl

theorem Runs.fromLoader (run : Runs (.start t) history s) {key : Key} {validator : Validator}
    (source : FromLoad t history key validator) : FromLoader t history key validator := by
  obtain ⟨client, spec, loaded, same⟩ := source
  exact ⟨spec, run.given_of_loaded loaded, same⟩

theorem CallSteps.found {client : Client} {key : Key} {steps : List (Client × Event)}
    {load : StateT Registry Logged (Except String Spec)} {shared : Shared}
    (call : CallSteps client key load s steps (.ok shared) s') :
    s'.registry.find? key = some shared := by
  cases call with
  | hit free found => exact found
  | insert => exact find?_store_self _ key _

/-- All loads of a key give the same spec. -/
def LoadsAgree (specOf : Key → Spec) (history : List (Client × Event)) : Prop :=
  ∀ client key spec, (client, Event.loaded key spec) ∈ history → spec = specOf key

theorem FromLoader.eq_of_loadsAgree {key : Key} {validator : Validator} {specOf : Key → Spec}
    (source : FromLoader t history key validator) (agree : LoadsAgree specOf history) :
    validator = (Compiler.mk t key.component.text).compile (specOf key) := by
  obtain ⟨spec, given, same⟩ := source
  obtain ⟨client, loaded⟩ := given.mem
  rw [same, agree client key spec loaded]

theorem FromLoader.append {key : Key} {validator : Validator}
    (source : FromLoader t history key validator) (later : List (Client × Event)) :
    FromLoader t (history ++ later) key validator := by
  obtain ⟨spec, given, same⟩ := source
  cases given with
  | intro called absent loading split =>
    exact ⟨spec, .intro called absent loading (by rw [split, List.append_assoc, List.cons_append]),
      same⟩

/-- What a registry stores, and what it answers, was compiled from a spec that a loader had given
for the same key. If all loads of a key give the same spec, an answer is what compiling that spec
gives. What a step returns from a call is what `getOrCompile` returns, and a call whose steps go on
with the run returns what was compiled from a spec that a loader gave. -/
theorem compiled_from_loads (run : Runs (.start t) history s) :
    (∀ key shared, (key, shared) ∈ s.registry.entries → FromLoader t history key shared.validator) ∧
    (∀ before client event after key shared, history = before ++ (client, event) :: after →
      event.Answers key shared → FromLoader t before key shared.validator) ∧
    (∀ specOf, LoadsAgree specOf history →
      ∀ client event key shared, (client, event) ∈ history → event.Answers key shared →
        shared.validator = (Compiler.mk t key.component.text).compile (specOf key)) ∧
    (∀ before client event after key result, history = before ++ (client, event) :: after →
      event.Returns key result →
      ∃ earlier looked load steps s', before ++ [(client, event)] = earlier ++ steps ∧
        Runs (.start t) earlier looked ∧ CallSteps client key load looked steps result s' ∧
        ((getOrCompile key load).run looked.registry).value = (result, s'.registry)) ∧
    (∀ client key load steps result s', CallSteps client key load s steps result s' →
      Runs (.start t) (history ++ steps) s' ∧
      ((getOrCompile key load).run s.registry).value = (result, s'.registry) ∧
      ∀ shared, result = .ok shared → FromLoader t (history ++ steps) key shared.validator ∧
        ∀ specOf, LoadsAgree specOf (history ++ steps) →
          shared.validator = (Compiler.mk t key.component.text).compile (specOf key)) ∧
    ∀ client key load, s.Free client → Realized client load →
      ∃ steps result s', CallSteps client key load s steps result s' := by
  have answered : ∀ before client event after key shared,
      history = before ++ (client, event) :: after →
      event.Answers key shared → FromLoader t before key shared.validator := by
    rintro before client event after key shared rfl answer
    rw [List.append_cons] at run
    obtain ⟨middle, through, -⟩ := run.split
    obtain ⟨_, earlier, _⟩ := through.split
    exact earlier.fromLoader (through.fromLoad_of_answers answer)
  refine ⟨?_, answered, ?_, ?_, ?_, ?_⟩
  · intro key shared stored
    exact run.fromLoader (run.sourced.entries (key, shared) stored)
  · intro specOf agree client event key shared member answer
    obtain ⟨before, after, split⟩ := List.append_of_mem member
    have source := (answered before client event after key shared split answer).append
      ((client, event) :: after)
    rw [← split] at source
    exact source.eq_of_loadsAgree agree
  · rintro before client event after key result rfl returns
    rw [List.append_cons] at run
    obtain ⟨s', through, -⟩ := run.split
    obtain ⟨earlier, looked, load, steps, split, start, call⟩ :=
      through.callSteps_of_returns returns
    exact ⟨earlier, looked, load, steps, s', split, start, call, call.runs.2.2⟩
  · intro client key load steps result s' call
    obtain ⟨later, -, value⟩ := call.runs
    have longer := run.trans later
    refine ⟨longer, value, ?_⟩
    rintro shared rfl
    have source := longer.fromLoader (longer.fromLoad_of_found call.found)
    exact ⟨source, fun specOf agree => source.eq_of_loadsAgree agree⟩
  · intro client key load free loader
    obtain ⟨steps, event, s', call, -⟩ := exists_callSteps free key loader
    exact ⟨_, _, s', call⟩

/-- Two clients load the same spec, and the registry is cleared between what they store. -/
def lateLoad : List (Bool × Event) :=
  [(false, .missed buttonKey), (true, .missed buttonKey), (true, .loaded buttonKey buttonSpec),
    (true, .inserted buttonKey (buttonShared 0 buttonSpec) (buttonShared 0 buttonSpec)),
    (true, .cleared), (false, .loaded buttonKey buttonSpec),
    (false, .inserted buttonKey (buttonShared 1 buttonSpec) (buttonShared 1 buttonSpec)),
    (true, .got buttonKey (some (buttonShared 1 buttonSpec)))]

def laterKey : Key :=
  { buttonKey with version := ⟨"v5.1.0", by decide⟩ }

theorem exists_runs_lateLoad :
    ∃ s, Runs (.start .empty) lateLoad s ∧ s.Free true ∧ s.registry.find? laterKey = none := by
  have missed : Runs (.start .empty) _ _ :=
    (Step.miss false buttonKey (System.free_of_idle rfl) rfl).runs.step
      (Step.miss true buttonKey (System.free_of_idle rfl) rfl)
  have inserted := (missed.step (.load true buttonSpec rfl)).step (.insert true rfl)
  have cleared := inserted.step (.clear true (System.free_of_idle rfl))
  have late := (cleared.step (.load false buttonSpec rfl)).step (.insert false rfl)
  exact ⟨_, late.step (.get true buttonKey (System.free_of_idle rfl)), System.free_of_idle rfl, rfl⟩

theorem compiled_from_loads_lateLoad : ∃ s, Runs (.start .empty) lateLoad s ∧
    FromLoader .empty (lateLoad.take 7) buttonKey (buttonShared 1 buttonSpec).validator ∧
    (buttonShared 1 buttonSpec).validator = (Compiler.mk .empty "button").compile buttonSpec ∧
    ∃ steps shared s', Runs (.start .empty) (lateLoad ++ steps) s' ∧
      CallSteps true laterKey reentrantLoad s steps (.ok shared) s' ∧
      FromLoader .empty (lateLoad ++ steps) laterKey shared.validator := by
  obtain ⟨s, run, free, absent⟩ := exists_runs_lateLoad
  obtain ⟨-, answered, uniform, -, calls, exist⟩ := compiled_from_loads run
  have agree : LoadsAgree (fun _ => buttonSpec) lateLoad := by
    intro client key spec member
    simp only [lateLoad, List.mem_cons, Prod.mk.injEq, Event.loaded.injEq, reduceCtorEq, and_false,
      List.not_mem_nil, or_false, false_or] at member
    rcases member with ⟨-, -, same⟩ | ⟨-, -, same⟩ <;> exact same
  have same : (buttonShared 1 buttonSpec).validator =
      (Compiler.mk .empty "button").compile buttonSpec :=
    uniform (fun _ => buttonSpec) agree true _ buttonKey _
      (List.mem_of_getElem? (show lateLoad[7]? = some _ from rfl)) (.got _ _)
  refine ⟨s, run, answered (lateLoad.take 7) true _ [] buttonKey _ rfl (.got _ _), same, ?_⟩
  obtain ⟨steps, result, s', call⟩ := exist true laterKey reentrantLoad free realized_reentrantLoad
  obtain ⟨longer, value, source⟩ := calls true laterKey reentrantLoad steps result s' call
  have given : (reentrantLoad.run s.registry).value =
      (.ok {}, (reentrantLoad.run s.registry).value.2) := rfl
  rw [value_getOrCompile_of_loaded absent given] at value
  obtain ⟨rfl, -⟩ := Prod.mk.inj value
  exact ⟨steps, _, s', longer, call, (source _ rfl).1⟩

end Registry

end ComponentSchema
