import ComponentSchema.Proofs.Interleaving

/-! The steps of a call of `getOrCompile`: whatever its loader and the other clients do meanwhile,
the call returns what its last step answers, and every such answer in a run is that of a call. -/

set_option autoImplicit false

namespace ComponentSchema

namespace Registry

variable {Client : Type} [DecidableEq Client] {s s' : System Client} {client actor : Client}
  {event : Event}

/-! ### Unfinished calls -/

@[simp] theorem System.withCalls_withCalls (s : System Client) (client : Client)
    (calls calls' : List Call) :
    (s.withCalls client calls).withCalls client calls' = s.withCalls client calls' := by
  simp [withCalls]

@[simp] theorem System.withCalls_self (s : System Client) (client : Client) :
    s.withCalls client (s.calls client) = s := by
  simp [withCalls]

theorem System.withCalls_comm (s : System Client) (different : actor ≠ client)
    (calls calls' : List Call) :
    (s.withCalls client calls).withCalls actor calls' =
      (s.withCalls actor calls').withCalls client calls := by
  simp [withCalls, Function.update_comm different]

theorem System.free_withCalls_nil (s : System Client) (client : Client) :
    (s.withCalls client []).Free client :=
  free_of_idle (s.calls_withCalls_self client [])

theorem System.free_within_iff {inner outer : List Call} {key : Key}
    (calls : s.calls client = inner ++ .loading key :: outer) :
    s.Free client ↔ (s.withCalls client inner).Free client := by
  rw [Free, Free, calls, calls_withCalls_self]
  cases inner <;> simp

theorem System.withCalls_stored (s : System Client) (r : Registry) (calls calls' : List Call) :
    ({ s.withCalls client calls with registry := r } : System Client).withCalls client calls' =
      { s.withCalls client calls' with registry := r } := by
  simp [withCalls]

theorem Step.load_withCalls (s : System Client) (client : Client) (key : Key) (spec : Spec)
    (outer : List Call) :
    Step (s.withCalls client (.loading key :: outer)) client (.loaded key spec)
      (s.withCalls client (.loaded key spec :: outer)) := by
  simpa using Step.load client spec (s.calls_withCalls_self client (.loading key :: outer))

theorem Step.fail_withCalls (s : System Client) (client : Client) (key : Key) (reason : String)
    (outer : List Call) :
    Step (s.withCalls client (.loading key :: outer)) client (.failed ⟨key, reason⟩)
      (s.withCalls client outer) := by
  simpa using Step.fail client reason (s.calls_withCalls_self client (.loading key :: outer))

theorem Step.insert_withCalls (s : System Client) (client : Client) (key : Key) (spec : Spec)
    (outer : List Call) :
    Step (s.withCalls client (.loaded key spec :: outer)) client
      (.inserted key (s.registry.offer key spec) (s.registry.store key spec).1)
      { s.withCalls client outer with registry := (s.registry.store key spec).2 } := by
  simpa using Step.insert client (s.calls_withCalls_self client (.loaded key spec :: outer))

theorem Step.calls_of_ne (next : Step s actor event s') (different : actor ≠ client) :
    s'.calls client = s.calls client := by
  cases next <;> simp [System.calls_withCalls_of_ne _ (Ne.symm different)]

/-- What a step does to the unfinished calls: nothing, and then it depends on them only in that its
client is free, or it begins a call, or goes on with one. -/
theorem Step.calls_cases (next : Step s client event s') :
    (s.Free client ∧ s'.calls = s.calls ∧
      ∀ other calls, (s.withCalls other calls).Free client →
        Step (s.withCalls other calls) client event (s'.withCalls other calls)) ∨
    (∃ key, s.Free client ∧ s.registry.find? key = none ∧ event = .missed key ∧
      s' = s.withCalls client (.loading key :: s.calls client)) ∨
    (∃ key spec outer, s.calls client = .loading key :: outer ∧ event = .loaded key spec ∧
      s' = s.withCalls client (.loaded key spec :: outer)) ∨
    (∃ key reason outer, s.calls client = .loading key :: outer ∧ event = .failed ⟨key, reason⟩ ∧
      s' = s.withCalls client outer) ∨
    ∃ key spec outer, s.calls client = .loaded key spec :: outer ∧
      event = .inserted key (s.registry.offer key spec) (s.registry.store key spec).1 ∧
      s' = { s.withCalls client outer with registry := (s.registry.store key spec).2 } := by
  cases next with
  | get key free => exact .inl ⟨free, rfl, fun _ _ free => .get client key free⟩
  | hit free found => exact .inl ⟨free, rfl, fun _ _ free => .hit client free found⟩
  | miss key free absent => exact .inr (.inl ⟨key, free, absent, rfl, rfl⟩)
  | load spec running => exact .inr (.inr (.inl ⟨_, spec, _, running, rfl, rfl⟩))
  | fail reason running => exact .inr (.inr (.inr (.inl ⟨_, reason, _, running, rfl, rfl⟩)))
  | insert ready => exact .inr (.inr (.inr (.inr ⟨_, _, _, ready, rfl, rfl⟩)))
  | size free => exact .inl ⟨free, rfl, fun _ _ free => .size client free⟩
  | isEmpty free => exact .inl ⟨free, rfl, fun _ _ free => .isEmpty client free⟩
  | clear free => exact .inl ⟨free, rfl, fun _ _ free => .clear client free⟩

theorem Step.withCalls_of_ne (next : Step s actor event s') (different : actor ≠ client)
    (calls : List Call) :
    Step (s.withCalls client calls) actor event (s'.withCalls client calls) := by
  have same : (s.withCalls client calls).calls actor = s.calls actor :=
    s.calls_withCalls_of_ne different calls
  have stays (free : s.Free actor) : (s.withCalls client calls).Free actor := by
    rwa [System.Free, same]
  rcases next.calls_cases with ⟨free, -, replay⟩ | ⟨key, free, absent, rfl, rfl⟩ |
    ⟨key, spec, outer, running, rfl, rfl⟩ | ⟨key, reason, outer, running, rfl, rfl⟩ |
    ⟨key, spec, outer, ready, rfl, rfl⟩
  · exact replay client calls (stays free)
  · rw [← System.withCalls_comm s different, ← same]
    exact .miss actor key (stays free) absent
  · rw [← System.withCalls_comm s different]
    exact .load actor spec (same.trans running)
  · rw [← System.withCalls_comm s different]
    exact .fail actor reason (same.trans running)
  · have inserted := Step.insert actor (same.trans ready)
    rw [System.withCalls_comm s different] at inserted
    exact inserted

theorem Runs.withCalls_of_others {history : List (Client × Event)} (run : Runs s history s')
    (others : ∀ step ∈ history, step.1 ≠ client) (calls : List Call) :
    s'.calls client = s.calls client ∧
      Runs (s.withCalls client calls) history (s'.withCalls client calls) := by
  induction run with
  | refl => exact ⟨rfl, .refl⟩
  | @step history s₁ s₂ actor event _ next ih =>
    have different : actor ≠ client :=
      others (actor, event) (List.mem_append_right _ (List.mem_singleton_self _))
    obtain ⟨same, before⟩ := ih fun step member => others step (List.mem_append_left _ member)
    exact ⟨(next.calls_of_ne different).trans same,
      before.step (next.withCalls_of_ne different calls)⟩

theorem Step.within (next : Step s actor event s') (client : Client) (key : Key)
    (outer : List Call) :
    Step (s.withCalls client (s.calls client ++ .loading key :: outer)) actor event
      (s'.withCalls client (s'.calls client ++ .loading key :: outer)) := by
  by_cases same : actor = client
  · subst same
    have calls := s.calls_withCalls_self actor (s.calls actor ++ .loading key :: outer)
    have stays (free : s.Free actor) :
        (s.withCalls actor (s.calls actor ++ .loading key :: outer)).Free actor := by
      rw [System.free_within_iff calls]
      simpa using free
    rcases next.calls_cases with ⟨free, unchanged, replay⟩ | ⟨key, free, absent, rfl, rfl⟩ |
      ⟨key, spec, rest, running, rfl, rfl⟩ | ⟨key, reason, rest, running, rfl, rfl⟩ |
      ⟨key, spec, rest, ready, rfl, rfl⟩
    · rw [unchanged]
      exact replay actor _ (stays free)
    · simpa using Step.miss actor key (stays free) absent
    · rw [running, System.calls_withCalls_self, System.withCalls_withCalls]
      exact .load_withCalls s actor key spec _
    · rw [running, System.calls_withCalls_self, System.withCalls_withCalls]
      exact .fail_withCalls s actor key reason _
    · have unfinished : ({ s.withCalls actor rest with registry := (s.registry.store key spec).2 } :
          System Client).calls actor = rest := s.calls_withCalls_self actor rest
      rw [ready, System.withCalls_stored, unfinished]
      exact .insert_withCalls s actor key spec _
  · rw [next.calls_of_ne same]
    exact next.withCalls_of_ne same _

theorem Runs.within {history : List (Client × Event)} (run : Runs s history s') (client : Client)
    (key : Key) (outer : List Call) :
    Runs (s.withCalls client (s.calls client ++ .loading key :: outer)) history
      (s'.withCalls client (s'.calls client ++ .loading key :: outer)) := by
  induction run with
  | refl => exact .refl
  | step _ next ih => exact ih.step (next.within client key outer)

/-- A step that leaves a call running has begun it, or is possible for its loader on its own. -/
theorem Step.begun_or_within (next : Step s actor event s') {client : Client} {key : Key}
    {inner outer : List Call} (calls : s'.calls client = inner ++ .loading key :: outer) :
    (s.Free client ∧ s.registry.find? key = none ∧ s.calls client = outer ∧
      (actor, event) = (client, .missed key) ∧ s'.withCalls client inner = s.withCalls client []) ∨
    ∃ before, s.calls client = before ++ .loading key :: outer ∧
      Step (s.withCalls client before) actor event (s'.withCalls client inner) := by
  by_cases same : actor = client
  · subst same
    rcases next.calls_cases with ⟨free, unchanged, replay⟩ | ⟨key, free, absent, rfl, rfl⟩ |
      ⟨key, spec, rest, running, rfl, rfl⟩ | ⟨key, reason, rest, running, rfl, rfl⟩ |
      ⟨key, spec, rest, ready, rfl, rfl⟩
    · rw [unchanged] at calls
      exact .inr ⟨inner, calls, replay actor inner ((System.free_within_iff calls).1 free)⟩
    · rw [System.calls_withCalls_self] at calls
      cases inner with
      | nil =>
        cases calls
        exact .inl ⟨free, absent, rfl, rfl, by simp⟩
      | cons call inner =>
        obtain ⟨rfl, below⟩ := List.cons.inj calls
        have alone := (System.free_within_iff below).1 free
        exact .inr ⟨inner, below, by simpa using Step.miss actor _ alone absent⟩
    · rw [System.calls_withCalls_self] at calls
      cases inner with
      | nil => cases calls
      | cons call inner =>
        obtain ⟨rfl, rfl⟩ := List.cons.inj calls
        refine .inr ⟨.loading key :: inner, running, ?_⟩
        rw [System.withCalls_withCalls]
        exact .load_withCalls s actor key spec inner
    · rw [System.calls_withCalls_self] at calls
      subst calls
      refine .inr ⟨.loading key :: inner, running, ?_⟩
      rw [System.withCalls_withCalls]
      exact .fail_withCalls s actor key reason inner
    · obtain rfl : rest = _ := (s.calls_withCalls_self actor rest).symm.trans calls
      refine .inr ⟨.loaded key spec :: inner, ready, ?_⟩
      rw [System.withCalls_stored]
      exact .insert_withCalls s actor key spec inner
  · exact .inr ⟨inner, next.calls_of_ne same ▸ calls, next.withCalls_of_ne same inner⟩

variable {t : OverrideTable} {history : List (Client × Event)}

theorem Runs.begun (run : Runs (.start t) history s) {key : Key} (inner : List Call)
    {outer : List Call} (calls : s.calls client = inner ++ .loading key :: outer) :
    ∃ before looked loads, history = before ++ (client, .missed key) :: loads ∧
      Runs (.start t) before looked ∧ looked.Free client ∧ looked.registry.find? key = none ∧
      looked.calls client = outer ∧
        Runs (looked.withCalls client []) loads (s.withCalls client inner) := by
  induction run generalizing inner with
  | refl => exact absurd calls (by simp [System.start])
  | @step history s₁ s₂ actor event earlier next ih =>
    rcases next.begun_or_within calls with ⟨free, absent, same, step, alone⟩ | ⟨within, below, step⟩
    · refine ⟨history, s₁, [], by rw [step], earlier, free, absent, same, ?_⟩
      rw [alone]
      exact .refl
    · obtain ⟨before, looked, loads, rfl, start, free, absent, same, inside⟩ := ih _ below
      exact ⟨before, looked, loads ++ [(actor, event)], by simp, start, free, absent, same,
        inside.step step⟩

theorem Runs.loaded_not_mem_tail (run : Runs (.start t) history s) (client : Client) (key : Key)
    (spec : Spec) : .loaded key spec ∉ (s.calls client).tail := by
  induction run with
  | refl => exact List.not_mem_nil
  | @step history s₁ s₂ actor event _ next ih =>
    by_cases same : actor = client
    · subst same
      rcases next.calls_cases with ⟨-, unchanged, -⟩ | ⟨other, free, -, -, rfl⟩ |
        ⟨other, spec, rest, running, -, rfl⟩ | ⟨other, reason, rest, running, -, rfl⟩ |
        ⟨other, spec, rest, ready, -, rfl⟩
      · rwa [unchanged]
      · rw [System.calls_withCalls_self, List.tail_cons]
        intro member
        cases calls : s₁.calls actor with
        | nil => simp [calls] at member
        | cons call outer =>
          rw [calls] at ih member
          rcases List.mem_cons.1 member with same | below
          · exact free key spec outer (same ▸ calls)
          · exact ih below
      · rw [running] at ih
        rwa [System.calls_withCalls_self]
      · rw [running] at ih
        rw [System.calls_withCalls_self]
        exact fun member => ih (List.mem_of_mem_tail member)
      · rw [ready] at ih
        change _ ∉ ((s₁.withCalls actor rest).calls actor).tail
        rw [System.calls_withCalls_self]
        exact fun member => ih (List.mem_of_mem_tail member)
    · rwa [next.calls_of_ne same]

theorem Runs.loaded (run : Runs (.start t) history s) {key : Key} {spec : Spec} {outer : List Call}
    (calls : s.calls client = .loaded key spec :: outer) :
    ∃ before running waits, history = before ++ (client, .loaded key spec) :: waits ∧
      Runs (.start t) before running ∧ running.calls client = .loading key :: outer ∧
      Runs (running.withCalls client []) waits (s.withCalls client []) ∧
      ∀ step ∈ waits, step.1 ≠ client := by
  induction run with
  | refl => exact absurd calls (by simp [System.start])
  | @step history s₁ s₂ actor event earlier next ih =>
    by_cases same : actor = client
    · subst same
      rcases next.calls_cases with ⟨free, unchanged, -⟩ | ⟨other, free, -, -, rfl⟩ |
        ⟨other, given, rest, running, rfl, rfl⟩ | ⟨other, reason, rest, running, -, rfl⟩ |
        ⟨other, given, rest, ready, -, rfl⟩
      · exact absurd (unchanged ▸ calls) (free key spec outer)
      · rw [System.calls_withCalls_self] at calls
        cases calls
      · rw [System.calls_withCalls_self] at calls
        cases calls
        refine ⟨history, s₁, [], rfl, earlier, running, ?_, nofun⟩
        rw [System.withCalls_withCalls]
        exact .refl
      · have inner := earlier.loaded_not_mem_tail actor key spec
        rw [System.calls_withCalls_self] at calls
        simp [running, calls] at inner
      · have inner := earlier.loaded_not_mem_tail actor key spec
        have calls := (s₁.calls_withCalls_self actor rest).symm.trans calls
        simp [ready, calls] at inner
    · rw [next.calls_of_ne same] at calls
      obtain ⟨before, running, waits, rfl, start, loading, inside, others⟩ := ih calls
      refine ⟨before, running, waits ++ [(actor, event)], by simp, start, loading,
        inside.step (next.withCalls_of_ne same []), fun step member => ?_⟩
      rcases List.mem_append.1 member with earlier | now
      · exact others step earlier
      · rwa [List.mem_singleton.1 now]

/-! ### Computations -/

/-- A computation is realized by a client if it does to the registry what some run does that leaves
the unfinished calls of the client as they were. -/
def Realized {α : Type} (client : Client) (x : StateT Registry Logged α) : Prop :=
  ∀ s : System Client, s.Free client → ∃ history s', Runs s history s' ∧
    s'.registry = (x.run s.registry).value.2 ∧ s'.calls client = s.calls client

section

variable {client : Client} {α β : Type}

theorem realized_of_reads {x : StateT Registry Logged α} (reads : ∀ r, (x.run r).value.2 = r) :
    Realized client x :=
  fun s _ => ⟨[], s, .refl, (reads s.registry).symm, rfl⟩

theorem realized_clear : Realized client (modify clear : StateT Registry Logged PUnit) :=
  fun _ free => ⟨_, _, (Step.clear client free).runs, rfl, rfl⟩

theorem Realized.bind {x : StateT Registry Logged α} {f : α → StateT Registry Logged β}
    (first : Realized client x) (second : ∀ a, Realized client (f a)) :
    Realized client (x >>= f) := by
  intro s free
  obtain ⟨earlier, middle, run, registry, calls⟩ := first s free
  have free' : middle.Free client := by
    intro key spec outer busy
    rw [calls] at busy
    exact free key spec outer busy
  obtain ⟨later, s', run', registry', calls'⟩ := second (x.run s.registry).value.1 middle free'
  refine ⟨_, s', run.trans run', ?_, calls'.trans calls⟩
  rw [registry', registry]
  rfl

end

/-! ### Calls -/

/-- A run while a client loads: the steps of its loader and of the other clients, and what they make
of the registry together. The loader finishes the calls that it makes. -/
structure Loading (client : Client) (load : StateT Registry Logged (Except String Spec))
    (s : System Client) (steps : List (Client × Event)) (given : Except String Spec)
    (left : System Client) : Prop where
  run : Runs (s.withCalls client []) steps left
  finished : left.calls client = []
  value : (load.run s.registry).value = (given, left.registry)

/-- The steps of a call and those taken meanwhile, with its result: the call hits, or it misses,
loads, and then fails with the reason of its loader, or inserts what its loader has given. -/
inductive CallSteps (client : Client) (key : Key)
    (load : StateT Registry Logged (Except String Spec)) (s : System Client) :
    List (Client × Event) → Except LoadError Shared → System Client → Prop where
  | hit {stored : Shared} (free : s.Free client) (found : s.registry.find? key = some stored) :
      CallSteps client key load s [(client, .hit key stored)] (.ok stored) s
  | fail {steps : List (Client × Event)} {left : System Client} {reason : String}
      (free : s.Free client) (absent : s.registry.find? key = none)
      (loading : Loading client load s steps (.error reason) left) :
      CallSteps client key load s ((client, .missed key) :: steps ++
        [(client, .failed ⟨key, reason⟩)])
        (.error ⟨key, reason⟩) (left.withCalls client (s.calls client))
  | insert {steps waits : List (Client × Event)} {left : System Client} {spec : Spec}
      (free : s.Free client) (absent : s.registry.find? key = none)
      (loading : Loading client load s (steps ++ waits) (.ok spec) left)
      (others : ∀ step ∈ waits, step.1 ≠ client) :
      CallSteps client key load s
        ((client, .missed key) :: steps ++ (client, .loaded key spec) :: waits ++
          [(client, .inserted key (left.registry.offer key spec) (left.registry.store key spec).1)])
        (.ok (left.registry.store key spec).1)
        { left.withCalls client (s.calls client) with registry := (left.registry.store key spec).2 }

inductive Event.Returns : Event → Key → Except LoadError Shared → Prop where
  | hit (key : Key) (stored : Shared) : Returns (.hit key stored) key (.ok stored)
  | inserted (key : Key) (offered returned : Shared) :
      Returns (.inserted key offered returned) key (.ok returned)
  | failed (key : Key) (reason : String) :
      Returns (.failed ⟨key, reason⟩) key (.error ⟨key, reason⟩)

section

variable {key : Key} {load : StateT Registry Logged (Except String Spec)} {r : Registry}

theorem value_getOrCompile_of_present {stored : Shared} (present : r.find? key = some stored) :
    ((getOrCompile key load).run r).value = (.ok stored, r) := by
  unfold getOrCompile
  simp [present]

theorem value_getOrCompile_of_failed {after : Registry} {reason : String}
    (absent : r.find? key = none) (failed : (load.run r).value = (.error reason, after)) :
    ((getOrCompile key load).run r).value = (.error ⟨key, reason⟩, after) := by
  unfold getOrCompile
  simp [absent, failed]

theorem value_getOrCompile_of_loaded {after : Registry} {spec : Spec}
    (absent : r.find? key = none) (loaded : (load.run r).value = (.ok spec, after)) :
    ((getOrCompile key load).run r).value =
      (.ok (after.store key spec).1, (after.store key spec).2) := by
  unfold getOrCompile
  simp [absent, loaded, Compiler.value_compileLogged, store]

end

/-- A call takes its steps, leaves what was unfinished as it was, and returns its result. -/
theorem CallSteps.runs {key : Key} {load : StateT Registry Logged (Except String Spec)}
    {steps : List (Client × Event)} {result : Except LoadError Shared}
    (call : CallSteps client key load s steps result s') :
    Runs s steps s' ∧ s'.calls client = s.calls client ∧
      ((getOrCompile key load).run s.registry).value = (result, s'.registry) := by
  cases call with
  | hit free found =>
    exact ⟨(Step.hit client free found).runs, rfl, value_getOrCompile_of_present found⟩
  | @fail steps left reason free absent loading =>
    have missed := (Step.miss client key free absent).runs
    have inside := loading.run.within client key (s.calls client)
    rw [loading.finished, System.calls_withCalls_self, System.withCalls_withCalls] at inside
    have whole :=
      (missed.trans inside).step (.fail_withCalls left client key reason (s.calls client))
    exact ⟨whole, left.calls_withCalls_self client _,
      value_getOrCompile_of_failed absent loading.value⟩
  | @insert steps waits left spec free absent loading others =>
    obtain ⟨loaded, first, second⟩ := loading.run.split
    obtain ⟨same, waiting⟩ := second.withCalls_of_others others (.loaded key spec :: s.calls client)
    have missed := (Step.miss client key free absent).runs
    have inside := first.within client key (s.calls client)
    rw [← same, loading.finished, System.calls_withCalls_self, System.withCalls_withCalls] at inside
    have given := (Step.load_withCalls loaded client key spec (s.calls client)).runs.trans waiting
    have whole := ((missed.trans inside).trans given).step
      (.insert_withCalls left client key spec (s.calls client))
    refine ⟨by simpa using whole, left.calls_withCalls_self client _, ?_⟩
    exact value_getOrCompile_of_loaded absent loading.value

theorem exists_callSteps (free : s.Free client) (key : Key)
    {load : StateT Registry Logged (Except String Spec)} (loader : Realized client load) :
    ∃ steps event s', CallSteps client key load s (steps ++ [(client, event)])
        ((getOrCompile key load).run s.registry).value.1 s' ∧
      event.Returns key ((getOrCompile key load).run s.registry).value.1 := by
  cases present : s.registry.find? key with
  | some stored =>
    rw [value_getOrCompile_of_present present]
    exact ⟨[], _, s, .hit free present, .hit key stored⟩
  | none =>
    obtain ⟨steps, left, run, registry, calls⟩ := loader _ (s.free_withCalls_nil client)
    rw [System.calls_withCalls_self] at calls
    cases result : (load.run s.registry).value with
    | mk given reached =>
      have same : reached = left.registry := by rw [registry, System.registry_withCalls, result]
      subst same
      cases given with
      | error reason =>
        rw [value_getOrCompile_of_failed present result]
        exact ⟨_, _, _, .fail free present ⟨run, calls, result⟩, .failed key reason⟩
      | ok spec =>
        rw [value_getOrCompile_of_loaded present result]
        have loading : Loading client load s (steps ++ []) (.ok spec) left :=
          ⟨by rwa [List.append_nil], calls, result⟩
        exact ⟨_, _, _, .insert free present loading nofun, .inserted key _ _⟩

/-- A loader may itself make calls, also for the same key. -/
theorem Realized.getOrCompile {client : Client} (key : Key)
    {load : StateT Registry Logged (Except String Spec)} (loader : Realized client load) :
    Realized client (Registry.getOrCompile key load) := by
  intro s free
  obtain ⟨steps, event, s', call, -⟩ := exists_callSteps free key loader
  obtain ⟨run, calls, value⟩ := call.runs
  exact ⟨_, s', run, by rw [value], calls⟩

def leaving (given : Except String Spec) (left : Registry) :
    StateT Registry Logged (Except String Spec) :=
  fun _ => pure (given, left)

theorem Runs.loading {steps : List (Client × Event)} {left : System Client}
    (run : Runs (s.withCalls client []) steps (left.withCalls client []))
    (given : Except String Spec) : Loading client (leaving given left.registry) s steps given
      (left.withCalls client []) :=
  ⟨run, left.calls_withCalls_self client [], rfl⟩

/-- Where a run returns from a call, it has made the steps of the call. -/
theorem Runs.callSteps_of_returns {before : List (Client × Event)} {key : Key}
    {result : Except LoadError Shared} (run : Runs (.start t) (before ++ [(client, event)]) s')
    (returns : event.Returns key result) :
    ∃ earlier looked load steps, before ++ [(client, event)] = earlier ++ steps ∧
      Runs (.start t) earlier looked ∧ CallSteps client key load looked steps result s' := by
  obtain ⟨middle, through, next⟩ := run.last
  cases returns with
  | hit key stored =>
    cases next with
    | hit free found =>
      exact ⟨before, s', pure (.error ""), _, rfl, through, .hit free found⟩
  | failed key reason =>
    cases next with
    | @fail reason key outer running =>
      obtain ⟨earlier, looked, loads, rfl, start, free, absent, rfl, inside⟩ :=
        through.begun [] running
      have call : CallSteps client key _ looked _ _ _ :=
        .fail free absent (inside.loading (.error reason))
      rw [System.withCalls_withCalls] at call
      exact ⟨earlier, looked, _, _, by simp, start, call⟩
  | inserted key offered returned =>
    cases next with
    | @insert key spec outer ready =>
      obtain ⟨front, running, waits, rfl, first, unfinished, second, others⟩ := through.loaded ready
      obtain ⟨earlier, looked, loads, rfl, start, free, absent, rfl, inside⟩ :=
        first.begun [] unfinished
      have loading := (inside.trans second).loading (.ok spec)
      have call : CallSteps client key _ looked _ _ _ := .insert free absent loading others
      rw [System.withCalls_withCalls] at call
      exact ⟨earlier, looked, _, _, by simp, start, call⟩

end Registry

end ComponentSchema
