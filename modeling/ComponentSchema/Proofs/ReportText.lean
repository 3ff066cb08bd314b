import Mathlib.Data.List.SplitBy
import ComponentSchema.Proofs.FieldTable
import ComponentSchema.Proofs.Reached

/-! The text report of a refused body can be read back: it has one line per issue, and each line
gives the path and the message of its issue. -/

set_option autoImplicit false

namespace ComponentSchema

open Json (Value)

/-! ### Reading a report -/

def lines (text : String) : List String :=
  (text.toList.splitOn '\n').map String.ofList

/-- A step of a dotted path, from a dot and a key or from an index in brackets. -/
def readStep : List Char → Segment
  | '[' :: digits => .index (Nat.ofDigitChars 10 digits.dropLast 0)
  | step => .key (String.ofList step.tail)

/-- Whether a character goes on with a step. Dots and opening brackets begin another one. -/
def staysInStep (_ c : Char) : Bool :=
  c != '.' && c != '['

def readPath (place : List Char) : Location :=
  if place = "(root)".toList then [] else (('.' :: place).splitBy staysInStep).map readStep

def readLine (line : String) : Location × String :=
  let place := (line.toList.drop 2).takeWhile (· != ':')
  (readPath place, String.ofList (line.toList.drop (place.length + 4)))

def readReport (report : String) : List (Location × String) :=
  (lines report).map readLine

/-! ### Paths -/

def separators : List Char :=
  ['.', '[', ':', '\n']

abbrev PlainName (name : String) : Prop :=
  ∀ c ∈ separators, c ∉ name.toList

/-- The paths of reports: that of a body as a whole, and paths below its parameters whose keys are
plain. -/
inductive PlainPath : Location → Prop where
  | body : PlainPath []
  | params {steps : Location} (plain : ∀ name, .key name ∈ steps → PlainName name) :
      PlainPath (.key "params" :: steps)

def stepText : Segment → List Char
  | .key name => '.' :: name.toList
  | .index i => '[' :: (Nat.toDigits 10 i ++ [']'])

theorem foldl_appendSegment {text : List Char} (nonempty : text ≠ []) (steps : Location) :
    steps.foldl Issue.appendSegment text = text ++ steps.flatMap stepText := by
  induction steps generalizing text with
  | nil => simp
  | cons step steps ih =>
    have next : Issue.appendSegment text step = text ++ stepText step := by
      cases step <;> simp [Issue.appendSegment, stepText, nonempty]
    rw [List.foldl_cons, next, ih (by simp [nonempty]), List.flatMap_cons, List.append_assoc]

theorem plainName_params : PlainName "params" := by
  simp [PlainName, separators]

def placeText (path : Location) : List Char :=
  if path.isEmpty then "(root)".toList else (Issue.dottedPath path).toList

theorem placeText_params (steps : Location) :
    placeText (.key "params" :: steps) = "params".toList ++ steps.flatMap stepText := by
  rw [placeText, if_neg (by simp), Issue.dottedPath, String.toList_ofList, List.foldl_cons]
  exact foldl_appendSegment (by decide) steps

/-- Characters that are not digits do not occur in an index. -/
theorem notMem_toDigits {c : Char} (other : c.isDigit = false) (i : Nat) :
    c ∉ Nat.toDigits 10 i := by
  intro digit
  have isDigit := Nat.isDigit_of_mem_toDigits (by decide) (by decide) digit
  simp [other] at isDigit

theorem readStep_stepText (step : Segment) : readStep (stepText step) = step := by
  cases step with
  | key name => simp [stepText, readStep]
  | index i => simp [stepText, readStep, Nat.ofDigitChars_ten_toDigits]

theorem notMem_tail_stepText {step : Segment} (plain : ∀ name, step = .key name → PlainName name)
    {c : Char} (separator : c ∈ separators) : c ∉ (stepText step).tail := by
  cases step with
  | key name => exact plain name rfl c separator
  | index i =>
    have other : ∀ c ∈ separators, c.isDigit = false ∧ c ≠ ']' := by simp [separators]
    simp [stepText, notMem_toDigits (other c separator).1, (other c separator).2]

theorem isChain_stepText {step : Segment} (plain : ∀ name, step = .key name → PlainName name) :
    (stepText step).IsChain fun c d => staysInStep c d = true := by
  have inside : ∀ c, ∀ d ∈ (stepText step).tail, staysInStep c d = true := by
    intro c d member
    have dot : d ≠ '.' := fun same => notMem_tail_stepText plain (by decide) (same ▸ member)
    have bracket : d ≠ '[' := fun same => notMem_tail_stepText plain (by decide) (same ▸ member)
    simp [staysInStep, dot, bracket]
  obtain ⟨first, rest, text⟩ : ∃ first rest, stepText step = first :: rest := by
    cases step <;> exact ⟨_, _, rfl⟩
  rw [text] at inside ⊢
  exact (List.pairwise_cons.2 ⟨inside first,
    List.pairwise_of_forall_mem_list fun c _ d member => inside c d member⟩).isChain

/-- The text of plain steps falls apart into the texts of each. -/
theorem splitBy_flatMap_stepText {path : Location}
    (plain : ∀ name, .key name ∈ path → PlainName name) :
    (path.flatMap stepText).splitBy staysInStep = path.map stepText := by
  rw [List.flatMap_def]
  refine List.splitBy_flatten ?_ ?_ ?_
  · intro empty
    obtain ⟨step, -, none⟩ := List.mem_map.1 empty
    cases step <;> simp [stepText] at none
  · intro text member
    obtain ⟨step, inside, rfl⟩ := List.mem_map.1 member
    exact isChain_stepText fun name same => plain name (same ▸ inside)
  · refine (List.pairwise_map.2 (List.pairwise_of_forall fun step next => ?_)).isChain
    cases step <;> cases next <;> simp [stepText, staysInStep]

theorem readPath_placeText {path : Location} (plain : PlainPath path) :
    readPath (placeText path) = path := by
  cases plain with
  | body => rfl
  | @params steps plain =>
    have below : placeText (.key "params" :: steps) ≠ "(root)".toList := by simp [placeText_params]
    have text : '.' :: placeText (.key "params" :: steps) =
        (Segment.key "params" :: steps).flatMap stepText := by
      rw [placeText_params]
      rfl
    have names : ∀ name, .key name ∈ Segment.key "params" :: steps → PlainName name := by
      intro name member
      rcases List.mem_cons.1 member with same | member
      · cases same
        exact plainName_params
      · exact plain name member
    rw [readPath, if_neg below, text, splitBy_flatMap_stepText names, List.map_map]
    simp [Function.comp_def, readStep_stepText]

/-- The other two separators stand in paths only as they begin a step. -/
theorem notMem_placeText {path : Location} (plain : PlainPath path) {c : Char}
    (separator : c ∈ separators) (dot : c ≠ '.') (bracket : c ≠ '[') : c ∉ placeText path := by
  cases plain with
  | body =>
    have outside : ∀ c ∈ separators, c ∉ "(root)".toList := by simp [separators]
    exact outside c separator
  | @params steps plain =>
    rw [placeText_params, List.mem_append, List.mem_flatMap]
    rintro (inside | ⟨step, member, inside⟩)
    · exact plainName_params c separator inside
    · have outside := notMem_tail_stepText (fun name same => plain name (same ▸ member)) separator
      cases step <;> simp_all [stepText]

/-! ### Lines -/

theorem Issue.toList_text (issue : Issue) :
    issue.text.toList =
      ' ' :: ' ' :: (placeText issue.path ++ ':' :: ' ' :: issue.message.toList) := by
  obtain ⟨path, kind, message⟩ := issue
  cases path <;> simp [text, placeText]

theorem readLine_text {issue : Issue} (plain : PlainPath issue.path) :
    readLine issue.text = (issue.path, issue.message) := by
  have place : (issue.text.toList.drop 2).takeWhile (· != ':') = placeText issue.path := by
    have inside : ∀ c ∈ placeText issue.path, (c != ':') = true := by
      intro c member
      have other : c ≠ ':' := by
        rintro rfl
        exact notMem_placeText plain (by decide) (by decide) (by decide) member
      simp [other]
    rw [Issue.toList_text, List.drop_succ_cons, List.drop_succ_cons, List.drop_zero,
      List.takeWhile_append_of_pos inside, List.takeWhile_cons_of_neg (by simp), List.append_nil]
  have message : issue.text.toList.drop ((placeText issue.path).length + 4) =
      issue.message.toList := by
    rw [Issue.toList_text]
    simp [List.drop_append]
  rw [readLine, place, message, readPath_placeText plain, String.ofList_toList]

theorem lines_report {issues : List Issue} (nonempty : issues ≠ [])
    (each : ∀ issue ∈ issues, '\n' ∉ issue.text.toList) :
    lines (Issue.report issues) = issues.map Issue.text := by
  have separate : (Issue.report issues).toList =
      ['\n'].intercalate (issues.map fun issue => issue.text.toList) := by
    rw [Issue.report, String.toList_intercalate, List.map_map]
    rfl
  rw [lines, separate, List.splitOn_intercalate, List.map_map]
  · simp [Function.comp_def]
  · intro line member
    obtain ⟨issue, inside, rfl⟩ := List.mem_map.1 member
    exact each issue inside
  · simpa using nonempty

/-! ### Messages -/

abbrev OneLine (text : String) : Prop :=
  '\n' ∉ text.toList

theorem oneLine_toString_nat (n : Nat) : OneLine (toString n) := by
  rw [OneLine, Nat.toString_eq_ofList_toDigits, String.toList_ofList]
  exact notMem_toDigits (by decide) n

theorem oneLine_toString_int (i : Int) : OneLine (toString i) := by
  have digits (n : Nat) : '\n' ∉ Nat.toDigits 10 n := notMem_toDigits (by decide) n
  rw [OneLine, Int.toString_eq_repr, Int.repr_eq_if]
  split <;> simp [Nat.repr_eq_ofList_toDigits, digits]

theorem Decimal.notMem_positional {digits : List Char} (plain : '\n' ∉ digits) (exponent : Int) :
    '\n' ∉ positional digits exponent := by
  have taken (k : Nat) : '\n' ∉ digits.take k := fun inside => plain (List.mem_of_mem_take inside)
  have dropped (k : Nat) : '\n' ∉ digits.drop k := fun inside => plain (List.mem_of_mem_drop inside)
  unfold positional
  split
  · simp [plain]
  · dsimp only
    split <;> simp [plain, taken, dropped]

theorem Decimal.notMem_scientific {digits : List Char} (plain : '\n' ∉ digits) (power : Int) :
    '\n' ∉ scientific digits power := by
  have exponent : '\n' ∉ digitsOf power.natAbs := notMem_toDigits (by decide) _
  have sign : '\n' ≠ if power < 0 then '-' else '+' := by split <;> decide
  unfold scientific
  match digits, plain with
  | [], _ => simp [exponent, sign]
  | [first], plain => simpa [exponent, sign] using plain
  | first :: second :: rest, plain => simpa [exponent, sign] using plain

theorem oneLine_write (layout : Decimal.Layout) (x : Binary64) :
    OneLine (Decimal.write layout x) := by
  have digits : '\n' ∉ Decimal.digitsOf (Decimal.shortest x).digits := notMem_toDigits (by decide) _
  rw [OneLine, Decimal.write, String.toList_ofList]
  split <;> split <;>
    simp [Decimal.notMem_positional digits, Decimal.notMem_scientific digits]

theorem Json.Number.oneLine_text (n : Json.Number) : OneLine n.text := by
  cases n with
  | unsigned n => exact oneLine_toString_nat _
  | signed n => exact oneLine_toString_int _
  | float x => exact oneLine_write _ x

theorem Json.Value.oneLine_typeName (value : Value) : OneLine value.typeName := by
  cases value <;> simp [OneLine, typeName]

theorem Node.oneLine_expected (n : Node) : OneLine n.expected := by
  cases n with
  | leaf kind => cases kind <;> decide
  | object => simp [OneLine, expected]
  | array => simp [OneLine, expected]

theorem OneLine.append {s t : String} (first : OneLine s) (last : OneLine t) :
    OneLine (s ++ t) := by
  simp [OneLine, first, last]

theorem Issue.oneLine_missing (path : Location) {expected : String} (oneLine : OneLine expected) :
    OneLine (missing path expected).message :=
  .append (.append (by decide) oneLine) (by decide)

theorem Issue.oneLine_mismatch (path : Location) {expected : String} (oneLine : OneLine expected)
    (value : Value) : OneLine (mismatch path expected value).message := by
  have named (received : String) (received_oneLine : OneLine received) :
      OneLine ("Expected " ++ expected ++ ", received " ++ received) :=
    .append (.append (.append (by decide) oneLine) (by decide)) received_oneLine
  cases value with
  | number n =>
    simp only [mismatch]
    split
    · exact .append (.append (by decide) n.oneLine_text) (by decide)
    · exact .append (.append (by decide) oneLine) (by decide)
  | _ => exact named _ (Value.oneLine_typeName _)

/-! ### Issues of a check -/

/-- The declared names of a validator are plain, at every depth. -/
def Validator.PlainNames (v : Validator) : Prop :=
  ∀ declared allowUnknown, v.params.node.Contains (.object declared allowUnknown) →
    ∀ f ∈ declared, PlainName f.name

variable {v : Validator} {body : Value}

theorem Reached.contains {path : Location} {n : Node} {value : Value}
    (here : Reached v body path n value) :
    v.params.node.Contains n := by
  induction here with
  | root => exact .root
  | field _ member _ ih => exact ih.field member
  | element _ _ ih => exact ih.element

theorem PlainPath.append {path : Location} (plain : PlainPath path) (below : path ≠ [])
    {step : Segment}
    (key : ∀ name, step = .key name → PlainName name) : PlainPath (path ++ [step]) := by
  cases plain with
  | body => exact absurd rfl below
  | params plain =>
    refine .params fun name member => ?_
    rcases List.mem_append.1 member with member | last
    · exact plain name member
    · exact key name (List.mem_singleton.1 last).symm

theorem Reached.plainPath (names : v.PlainNames) {path : Location} {n : Node} {value : Value}
    (here : Reached v body path n value) : path ≠ [] ∧ PlainPath path := by
  induction here with
  | root => exact ⟨by simp, .params (by simp)⟩
  | field above member _ ih =>
    have plain := names _ _ above.contains _ member
    exact ⟨by simp, ih.2.append ih.1 fun name same => by cases same; exact plain⟩
  | element _ _ ih => exact ⟨by simp, ih.2.append ih.1 fun _ same => nomatch same⟩

theorem EnvelopeFault.plainPath {path : Location} {kind : IssueKind}
    (fault : EnvelopeFault body path kind) :
    PlainPath path := by
  cases fault with
  | root => exact .body
  | params => exact .params (by simp)
  | missing => exact .params (by simp)

theorem oneLine_of_paramsOf {issue : Issue} (failed : paramsOf body = .error issue) :
    OneLine issue.message := by
  unfold paramsOf at failed
  split at failed
  · split at failed <;> cases failed
    · exact Issue.oneLine_mismatch _ (by decide) _
    · exact Issue.oneLine_missing _ (by decide)
  · cases failed
    exact Issue.oneLine_mismatch _ (by decide) _

structure Issue.Legible (issue : Issue) : Prop where
  path : PlainPath issue.path
  message : OneLine issue.message

theorem Validator.legible_of_mem_check (root : v.params.node.Open) (names : v.PlainNames)
    {issue : Issue} (reported : issue ∈ v.check body) : issue.Legible := by
  rcases (mem_check_iff_fault root).1 reported with fault | failed
  · cases fault with
    | mismatch here unfit =>
      exact ⟨(here.plainPath names).2, Issue.oneLine_mismatch _ (Node.oneLine_expected _) _⟩
    | missing here field required absent =>
      obtain ⟨below, plain⟩ := here.plainPath names
      have named := names _ _ here.contains _ field
      exact ⟨plain.append below fun name same => by cases same; exact named,
        Issue.oneLine_missing _ (Node.oneLine_expected _)⟩
  · exact ⟨(EnvelopeFault.of_paramsOf failed).plainPath, oneLine_of_paramsOf failed⟩

theorem Issue.Legible.oneLine_text {issue : Issue} (legible : issue.Legible) :
    OneLine issue.text := by
  have place : '\n' ∉ placeText issue.path :=
    notMem_placeText legible.path (by decide) (by decide) (by decide)
  have message : '\n' ∉ issue.message.toList := legible.message
  rw [OneLine, Issue.toList_text]
  simp [place, message]

theorem readReport_report {issues : List Issue} (nonempty : issues ≠ [])
    (legible : ∀ issue ∈ issues, issue.Legible) :
    lines (Issue.report issues) = issues.map Issue.text ∧
    readReport (Issue.report issues) = issues.map fun issue => (issue.path, issue.message) := by
  have each := lines_report nonempty fun issue member => (legible issue member).oneLine_text
  refine ⟨each, ?_⟩
  rw [readReport, each, List.map_map]
  exact List.map_congr_left fun issue member => readLine_text (legible issue member).path

theorem Validator.accepted_eq_error {issues : List Issue}
    (refused : v.accepted body = .error issues) :
    issues = v.check body ∧ issues ≠ [] := by
  unfold accepted at refused
  split at refused
  · cases refused
  · rename_i other
    cases refused
    refine ⟨rfl, fun none => ?_⟩
    cases found : paramsOf body with
    | ok params => exact other params none found
    | error issue =>
      rw [check_of_paramsOf_error found] at none
      cases none

/-- The report of a refused body has one line per issue, in order, and reading it gives back the
path and message of each issue. So reports of the same text, also by two validators, tell of the
same paths and messages. Declared names must be free of the characters that separate the parts of a
report; they may be empty. -/
theorem reports_determine {v w : Validator} (compiled : v.Compiled) (compiled' : w.Compiled)
    (names : v.PlainNames) (names' : w.PlainNames) {body body' : Value}
    {issues issues' : List Issue}
    (refused : v.accepted body = .error issues) (refused' : w.accepted body' = .error issues') :
    lines (Issue.report issues) = issues.map Issue.text ∧
    readReport (Issue.report issues) = (issues.map fun issue => (issue.path, issue.message)) ∧
    (Issue.report issues = Issue.report issues' →
      (issues.map fun issue => (issue.path, issue.message)) =
        issues'.map fun issue => (issue.path, issue.message)) := by
  obtain ⟨rfl, nonempty⟩ := Validator.accepted_eq_error refused
  obtain ⟨rfl, nonempty'⟩ := Validator.accepted_eq_error refused'
  obtain ⟨each, read⟩ :=
    readReport_report nonempty fun _ => v.legible_of_mem_check compiled.open names
  obtain ⟨-, read'⟩ :=
    readReport_report nonempty' fun _ => w.legible_of_mem_check compiled'.open names'
  exact ⟨each, read, fun same => by rw [← read, ← read', same]⟩

def otherItems : Value :=
  .object [("params", .object [("items", .array [.object [], .object [("value", .nat 3)]])])]

theorem plainNames_itemsValidator : itemsValidator.PlainNames := by
  have nodes : ∀ n, itemsValidator.params.node.Contains n →
      n = itemsValidator.params.node ∨
        n = .array (some (.object [⟨"value", true, .leaf .string⟩] true)) ∨
      n = .object [⟨"value", true, .leaf .string⟩] true ∨ n = .leaf .string := by
    intro n inside
    induction inside with
    | root => exact .inl rfl
    | field _ member ih =>
      rcases ih with same | same | same | same <;> cases same
      · exact .inr (.inl (by rw [List.mem_singleton.1 member]; rfl))
      · exact .inr (.inr (.inr (by rw [List.mem_singleton.1 member])))
    | element _ ih =>
      rcases ih with same | same | same | same <;> cases same
      exact .inr (.inr (.inl rfl))
  intro declared allowUnknown inside f member
  rcases nodes _ inside with same | same | same | same <;> cases same
  all_goals
    rw [List.mem_singleton.1 member]
    simp [PlainName, separators, Compiler.name_field]

theorem reports_determine_faultyItems :
    ∃ issues issues', itemsValidator.accepted faultyItems = .error issues ∧
      itemsValidator.accepted otherItems = .error issues' ∧
      lines (Issue.report issues) =
        ["  params.items[0].value: Required string is missing",
         "  params.items[1].value: Expected string, received number"] ∧
      (issues.map fun issue => (issue.path, issue.message)) =
        issues'.map fun issue => (issue.path, issue.message) := by
  have compiled : itemsValidator.Compiled := .ofList _ _
  have names := plainNames_itemsValidator
  have refused : itemsValidator.accepted faultyItems = .error _ := rfl
  have refused' : itemsValidator.accepted otherItems = .error _ := rfl
  obtain ⟨each, -, told⟩ := reports_determine compiled compiled names names refused refused'
  exact ⟨_, _, refused, refused', each.trans rfl, told rfl⟩

/-- A name with a dot is written like two steps. -/
example : Issue.dottedPath [.key "params", .key "a.b"] =
    Issue.dottedPath [.key "params", .key "a", .key "b"] := by
  decide

end ComponentSchema
