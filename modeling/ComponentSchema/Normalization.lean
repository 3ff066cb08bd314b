import ComponentSchema.Log
import ComponentSchema.Spec

/-!
Dotted names as nested parameters.

Parameters `hint.text` and `hint.html` of one list describe the members of an object `hint`.
`normalize` groups a list by the part of each name before the first dot, in the order of first
occurrence. A parameter that is alone in its group and has no dot in its name passes through. Any
other group becomes a required object named after the key; its nested parameters are the members
with key and dot removed, normalized in turn. A member whose name would be empty or the key itself
is dropped, so an object does not contain itself.
-/

set_option autoImplicit false

namespace ComponentSchema

/-! ### Names -/

def splitFirstDot : List Char → Option (List Char × List Char)
  | [] => none
  | c :: rest =>
    if c = '.' then some ([], rest)
    else (splitFirstDot rest).map fun (before, after) => (c :: before, after)

/-- The key of the group that a name belongs to: the part before the first dot. A name without a
dot, or with nothing before it, is its own key. -/
def groupKey (name : String) : String :=
  match splitFirstDot name.toList with
  | some (c :: before, _) => String.ofList (c :: before)
  | _ => name

def afterFront : (front text : List Char) → Option (List Char)
  | [], text => some text
  | _ :: _, [] => none
  | c :: front, d :: text => if c = d then afterFront front text else none

/-- The name of a member within its group: the part after key and dot, unless that is empty or the
key again. -/
def memberName (key name : String) : Option String :=
  match afterFront (key.toList ++ ['.']) name.toList with
  | some rest =>
    if rest = [] ∨ String.ofList rest = key then none else some (String.ofList rest)
  | none => none

theorem afterFront_eq_some {front text rest : List Char} (h : afterFront front text = some rest) :
    text = front ++ rest := by
  induction front generalizing text with
  | nil => simpa [afterFront] using h
  | cons c front ih =>
    cases text with
    | nil => simp [afterFront] at h
    | cons d text =>
      simp only [afterFront] at h
      split at h
      · rename_i same
        rw [same, ih h, List.cons_append]
      · cases h

theorem memberName_eq_some {key name inner : String} (h : memberName key name = some inner) :
    name.toList = key.toList ++ '.' :: inner.toList := by
  unfold memberName at h
  split at h
  · rename_i rest found
    split at h
    · cases h
    · cases h
      simpa using afterFront_eq_some found
  · cases h

/-! ### Groups -/

structure Group where
  key : String
  first : Parameter
  further : List Parameter := []

namespace Group

def members (g : Group) : List Parameter :=
  g.first :: g.further

def isPlain (g : Group) : Bool :=
  g.further.isEmpty && g.first.name == g.key

def kept (g : Group) : List Parameter :=
  g.members.filterMap fun p => (memberName g.key p.name).map fun name => { p with name }

end Group

/-- Add a parameter to the group of its key, a new one at the end if there is none yet. -/
def addToGroups (p : Parameter) : List Group → List Group
  | [] => [{ key := groupKey p.name, first := p }]
  | g :: rest =>
    if g.key = groupKey p.name then { g with further := g.further ++ [p] } :: rest
    else g :: addToGroups p rest

def groups (params : List Parameter) : List Group :=
  params.foldl (fun groups p => addToGroups p groups) []

def synthesized (key : String) (nested : List Parameter) : Parameter :=
  { name := key, type := .object, required := true, params := some nested }

/-! ### The weight of parameters, which bounds the recursion -/

mutual

/-- One more than the length of the name, and the weight of the nested parameters. -/
def Parameter.weight : Parameter → Nat
  | ⟨name, _, _, _, none⟩ => name.length + 1
  | ⟨name, _, _, _, some nested⟩ => name.length + 1 + weights nested

def weights : List Parameter → Nat
  | [] => 0
  | p :: rest => p.weight + weights rest

end

theorem Parameter.weight_eq (p : Parameter) :
    p.weight = p.name.length + 1 + weights (p.params.getD []) := by
  obtain ⟨_, _, _, _, params⟩ := p
  cases params <;> simp [weight, weights]

theorem weights_append (ps qs : List Parameter) : weights (ps ++ qs) = weights ps + weights qs := by
  induction ps with
  | nil => simp [weights]
  | cons p rest ih => simp [weights, ih, Nat.add_assoc]

theorem weight_rename_lt {p : Parameter} {key inner : String}
    (h : memberName key p.name = some inner) : { p with name := inner }.weight < p.weight := by
  have split := congrArg List.length (memberName_eq_some h)
  simp only [List.length_append, List.length_cons, String.length_toList] at split
  simp only [Parameter.weight_eq]
  omega

theorem weights_filterMap_le (key : String) (ps : List Parameter) :
    weights (ps.filterMap fun p => (memberName key p.name).map fun name => { p with name }) ≤
      weights ps := by
  induction ps with
  | nil => simp
  | cons p rest ih =>
    cases h : memberName key p.name with
    | none =>
      simp only [List.filterMap_cons, h, Option.map_none, weights]
      omega
    | some inner =>
      have := weight_rename_lt h
      simp only [List.filterMap_cons, h, Option.map_some, weights]
      omega

theorem Group.weights_kept_lt (g : Group) : weights g.kept < weights g.members := by
  have rest := weights_filterMap_le g.key g.further
  unfold kept members
  cases h : memberName g.key g.first.name with
  | none =>
    simp only [List.filterMap_cons, h, Option.map_none, weights, Parameter.weight_eq]
    omega
  | some inner =>
    have := weight_rename_lt h
    simp only [List.filterMap_cons, h, Option.map_some, weights]
    omega

def totalWeight (gs : List Group) : Nat :=
  weights (gs.flatMap Group.members)

theorem totalWeight_addToGroups (p : Parameter) (gs : List Group) :
    totalWeight (addToGroups p gs) = totalWeight gs + p.weight := by
  induction gs with
  | nil => simp [addToGroups, totalWeight, Group.members, weights]
  | cons g rest ih =>
    simp only [addToGroups]
    split
    · simp [totalWeight, Group.members, weights, weights_append]
      omega
    · simp only [totalWeight, List.flatMap_cons, weights_append] at ih ⊢
      omega

theorem totalWeight_foldl (params : List Parameter) (gs : List Group) :
    totalWeight (params.foldl (fun groups p => addToGroups p groups) gs) =
      totalWeight gs + weights params := by
  induction params generalizing gs with
  | nil => simp [weights]
  | cons p rest ih =>
    simp only [List.foldl_cons, ih, totalWeight_addToGroups, weights]
    omega

theorem weights_le_totalWeight {g : Group} {gs : List Group} (member : g ∈ gs) :
    weights g.members ≤ totalWeight gs := by
  induction gs with
  | nil => cases member
  | cons h rest ih =>
    simp only [totalWeight, List.flatMap_cons, weights_append] at ih ⊢
    cases member with
    | head => omega
    | tail _ member =>
      have := ih member
      omega

theorem weights_members_le {params : List Parameter} {g : Group} (member : g ∈ groups params) :
    weights g.members ≤ weights params := by
  have part := weights_le_totalWeight member
  have total := totalWeight_foldl params []
  simp only [totalWeight, List.flatMap_nil, weights, Nat.zero_add] at total
  simp only [groups, totalWeight] at part
  omega

/-! ### Normalization -/

namespace Group

/-- The parameters that become the nested ones of the group's parameter. -/
def inner (g : Group) : List Parameter :=
  if g.isPlain then g.first.nested else g.kept

/-- The parameter of a group, with the nested parameters given. -/
def rebuild (g : Group) (nested : List Parameter) : Parameter :=
  if g.isPlain then { g.first with params := g.first.params.map fun _ => nested }
  else synthesized g.key nested

def event (g : Group) : Log.Event :=
  { level := .debug
    origin := .normalization
    message := "synthesized object parameter from dotted names"
    fields := [("group", .quoted g.key), ("members", .count g.members.length),
      ("kept", .count g.kept.length)] }

theorem weights_inner_lt {params : List Parameter} {g : Group} (member : g ∈ groups params) :
    weights g.inner < weights params := by
  refine Nat.lt_of_lt_of_le ?_ (weights_members_le member)
  unfold inner
  split
  · have := g.first.weight_eq
    simp only [members, weights, Parameter.nested]
    omega
  · exact g.weights_kept_lt

end Group

/-- The list with dotted names regrouped into nested parameters, at every depth. -/
def normalize (params : List Parameter) : List Parameter :=
  (groups params).attach.map fun ⟨g, _⟩ => g.rebuild (normalize g.inner)
termination_by weights params
decreasing_by exact Group.weights_inner_lt ‹_›

/-- The events of a normalization: one for each group that becomes an object, before those of its
nested parameters. -/
def normalizationEvents (params : List Parameter) : List Log.Event :=
  (groups params).attach.flatMap fun ⟨g, _⟩ =>
    (if g.isPlain then [] else [g.event]) ++ normalizationEvents g.inner
termination_by weights params
decreasing_by exact Group.weights_inner_lt ‹_›

theorem normalize_eq (params : List Parameter) :
    normalize params = (groups params).map fun g => g.rebuild (normalize g.inner) := by
  rw [normalize]
  simp

theorem normalizationEvents_eq (params : List Parameter) :
    normalizationEvents params = (groups params).flatMap fun g =>
      (if g.isPlain then [] else [g.event]) ++ normalizationEvents g.inner := by
  rw [normalizationEvents]
  simp [List.flatMap]

def normalizeLogged (params : List Parameter) : Logged (List Parameter) :=
  { value := normalize params, events := normalizationEvents params }

end ComponentSchema
