import ComponentSchema.Json.Writing

/-! Indented JSON text tells values apart. The text of a value without numbers shows where it ends,
so it is the text of no other value, whatever follows. -/

set_option autoImplicit false

namespace ComponentSchema.Json

/-- Two things are told apart by their texts, also where more text follows. -/
def ToldApart {α : Type} (write : α → List Char) (a b : α) : Prop :=
  ∀ rest rest', write a ++ rest = write b ++ rest' → a = b ∧ rest = rest'

/-! ### Strings -/

abbrev writtenChar (c : Char) : List Char :=
  escapedChar (fun _ => false) c

def escapees : List Char :=
  '"' :: '\\' :: (List.range 0x20).map Char.ofNat

theorem writtenChar_of_notMem {c : Char} (plain : c ∉ escapees) : writtenChar c = [c] := by
  have visible : ¬c.toNat < 0x20 := by
    intro low
    have listed : Char.ofNat c.toNat ∈ escapees :=
      List.mem_cons_of_mem _ (List.mem_cons_of_mem _ (List.mem_map_of_mem (List.mem_range.2 low)))
    rw [Char.ofNat_toNat] at listed
    exact plain listed
  unfold writtenChar escapedChar
  split
  case h_8 => simp [visible]
  all_goals exact absurd (by decide) plain

theorem exists_writtenChar_eq_cons {c : Char} (escaped : c ∈ escapees) :
    ∃ short, writtenChar c = '\\' :: short := by
  have all : (escapees.all fun c => (writtenChar c).head? == some '\\') = true := by decide
  exact List.head?_eq_some_iff.1 (by simpa using List.all_eq_true.1 all c escaped)

theorem eq_of_writtenChar_starts {c d : Char} (escaped : c ∈ escapees) (escaped' : d ∈ escapees)
    (starts : writtenChar c <+: writtenChar d) : c = d := by
  have distinct : (escapees.all fun c => escapees.all fun d =>
      !(writtenChar c).isPrefixOf (writtenChar d) || c == d) = true := by
    decide +kernel
  have here := List.all_eq_true.1 (List.all_eq_true.1 distinct c escaped) d escaped'
  rw [List.isPrefixOf_iff_prefix.2 starts] at here
  simpa using here

theorem toldApart_writtenChar (c d : Char) : ToldApart writtenChar c d := by
  intro rest rest' same
  have equal : c = d := by
    by_cases escaped : c ∈ escapees <;> by_cases escaped' : d ∈ escapees
    · have left : writtenChar c <+: writtenChar d ++ rest' := ⟨rest, same⟩
      rcases List.prefix_or_prefix_of_prefix left (List.prefix_append _ rest') with starts | starts
      · exact eq_of_writtenChar_starts escaped escaped' starts
      · exact (eq_of_writtenChar_starts escaped' escaped starts).symm
    · obtain ⟨short, escape⟩ := exists_writtenChar_eq_cons escaped
      rw [escape, writtenChar_of_notMem escaped'] at same
      obtain rfl := (List.cons.inj same).1
      exact absurd (by decide) escaped'
    · obtain ⟨short, escape⟩ := exists_writtenChar_eq_cons escaped'
      rw [escape, writtenChar_of_notMem escaped] at same
      obtain rfl := (List.cons.inj same).1
      exact absurd (by decide) escaped
    · rw [writtenChar_of_notMem escaped, writtenChar_of_notMem escaped'] at same
      exact (List.cons.inj same).1
  subst equal
  exact ⟨rfl, List.append_cancel_left same⟩

theorem quote_cons_ne (c : Char) (rest more : List Char) : '"' :: rest ≠ writtenChar c ++ more := by
  by_cases escaped : c ∈ escapees
  · obtain ⟨short, escape⟩ := exists_writtenChar_eq_cons escaped
    simp [escape]
  · rw [writtenChar_of_notMem escaped]
    rintro ⟨⟩
    exact escaped (by decide)

theorem toldApart_characters (s t : List Char) :
    ToldApart (fun s => s.flatMap writtenChar ++ ['"']) s t := by
  intro rest rest' same
  simp only [List.append_assoc, List.singleton_append] at same
  induction s generalizing t with
  | nil =>
    cases t with
    | nil => exact ⟨rfl, (List.cons.inj same).2⟩
    | cons d t =>
      rw [List.flatMap_cons, List.append_assoc] at same
      exact absurd same (quote_cons_ne d _ _)
  | cons c s ih =>
    cases t with
    | nil =>
      rw [List.flatMap_cons, List.append_assoc] at same
      exact absurd same.symm (quote_cons_ne c _ _)
    | cons d t =>
      rw [List.flatMap_cons, List.flatMap_cons, List.append_assoc, List.append_assoc] at same
      obtain ⟨rfl, more⟩ := toldApart_writtenChar c d _ _ same
      obtain ⟨rfl, rests⟩ := ih t more
      exact ⟨rfl, rests⟩

abbrev writtenString (s : String) : List Char :=
  (writeString (fun _ => false) s).toList

theorem toldApart_writtenString (s t : String) : ToldApart writtenString s t := by
  intro rest rest' same
  simp only [writtenString, writeString, String.toList_ofList, List.cons_append, List.cons.injEq,
    true_and] at same
  obtain ⟨characters, rests⟩ := toldApart_characters s.toList t.toList _ _ same
  exact ⟨String.toList_inj.1 characters, rests⟩

/-! ### Arrays and objects -/

namespace Value

def afterEntry (level : Nat) (close : Char) : List (List Char) → List Char
  | [] => (lineBreak level).toList ++ [close]
  | entry :: rest =>
      ',' :: ((lineBreak (level + 1)).toList ++ (entry ++ afterEntry level close rest))

/-- The entries of an array or object, and the bracket at the end. -/
def block (level : Nat) (close : Char) : List (List Char) → List Char
  | [] => [close]
  | entry :: rest => (lineBreak (level + 1)).toList ++ (entry ++ afterEntry level close rest)

theorem toList_lineBreak (level : Nat) :
    (lineBreak level).toList = '\n' :: List.replicate (2 * level) ' ' := by
  simp [lineBreak]

theorem toldApart_afterEntry {α : Type} {write : α → List Char} {level : Nat} {close : Char}
    {as bs : List α} (each : ∀ a ∈ as, ∀ b ∈ bs, ToldApart write a b) :
    ToldApart (fun as => afterEntry level close (as.map write)) as bs := by
  induction as generalizing bs with
  | nil =>
    intro rest rest' same
    cases bs with
    | nil => exact ⟨rfl, List.append_cancel_left same⟩
    | cons b bs => simp [afterEntry, toList_lineBreak] at same
  | cons a as ih =>
    intro rest rest' same
    cases bs with
    | nil => simp [afterEntry, toList_lineBreak] at same
    | cons b bs =>
      simp only [List.map_cons, afterEntry, List.cons_append, List.append_assoc, List.cons.injEq,
        true_and, List.append_cancel_left_eq] at same
      obtain ⟨rfl, more⟩ := each a List.mem_cons_self b List.mem_cons_self _ _ same
      obtain ⟨rfl, rests⟩ :=
        ih (fun a inside b inside' => each a (.tail _ inside) b (.tail _ inside')) _ _ more
      exact ⟨rfl, rests⟩

theorem toldApart_block {α : Type} {write : α → List Char} {level : Nat} {close : Char}
    (visible : close ≠ '\n') {as bs : List α} (each : ∀ a ∈ as, ∀ b ∈ bs, ToldApart write a b) :
    ToldApart (fun as => block level close (as.map write)) as bs := by
  intro rest rest' same
  cases as with
  | nil =>
    cases bs with
    | nil => exact ⟨rfl, List.append_cancel_left same⟩
    | cons b bs => simp [block, toList_lineBreak, visible] at same
  | cons a as =>
    cases bs with
    | nil => simp [block, toList_lineBreak, visible.symm] at same
    | cons b bs =>
      simp only [List.map_cons, block, List.append_assoc, List.append_cancel_left_eq] at same
      obtain ⟨rfl, more⟩ := each a List.mem_cons_self b List.mem_cons_self _ _ same
      obtain ⟨rfl, rests⟩ := toldApart_afterEntry
        (fun a inside b inside' => each a (.tail _ inside) b (.tail _ inside')) _ _ more
      exact ⟨rfl, rests⟩

theorem toList_lines {α : Type} (write : α → String) (level : Nat) (close : Char) (a : α)
    (rest : List α) :
    (",".intercalate ((a :: rest).map fun a => lineBreak (level + 1) ++ write a) ++
        lineBreak level ++ String.singleton close).toList =
      block level close ((a :: rest).map fun a => (write a).toList) := by
  simp only [List.map_cons, block]
  induction rest generalizing a with
  | nil => simp [afterEntry]
  | cons next rest ih =>
    have more := ih next
    simp only [List.map_cons, String.intercalate_cons_cons, String.toList_append, List.append_assoc,
      afterEntry] at more ⊢
    rw [more]
    rfl

def memberText (level : Nat) (member : String × Value) : String :=
  writeString (fun _ => false) member.1 ++ ": " ++ member.2.prettyAt level

theorem prettyItems_eq_map (level : Nat) (items : List Value) :
    prettyItems level items = items.map fun item => lineBreak level ++ item.prettyAt level := by
  induction items with
  | nil => rfl
  | cons item rest ih => rw [prettyItems, ih, List.map_cons]

theorem prettyMembers_eq_map (level : Nat) (members : List (String × Value)) :
    prettyMembers level members =
      members.map fun member => lineBreak level ++ memberText level member := by
  induction members with
  | nil => rfl
  | cons member rest ih =>
    rw [prettyMembers, ih, List.map_cons, memberText, String.append_assoc, String.append_assoc,
      String.append_assoc]

theorem toList_prettyAt_array (level : Nat) (items : List Value) :
    ((array items).prettyAt level).toList =
      '[' :: block level ']' (items.map fun item => (item.prettyAt (level + 1)).toList) := by
  cases items with
  | nil => simp [prettyAt, compact, compactItems, block]
  | cons item rest =>
    rw [← toList_lines, prettyAt, prettyItems_eq_map, String.append_assoc, String.append_assoc,
      String.toList_append, ← String.append_assoc]
    rfl

theorem toList_prettyAt_object (level : Nat) (members : List (String × Value)) :
    ((object members).prettyAt level).toList =
      '\x7b' ::
        block level '\x7d' (members.map fun member => (memberText (level + 1) member).toList) := by
  cases members with
  | nil => simp [prettyAt, compact, compactMembers, block]
  | cons member rest =>
    rw [← toList_lines, prettyAt, prettyMembers_eq_map, String.append_assoc, String.append_assoc,
      String.toList_append, ← String.append_assoc]
    rfl

/-! ### Values -/

/-- A value in which there is no number. -/
inductive Numberless : Value → Prop where
  | null : Numberless null
  | boolean (b : Bool) : Numberless (boolean b)
  | string (s : String) : Numberless (string s)
  | array {items : List Value} (each : ∀ item ∈ items, Numberless item) : Numberless (array items)
  | object {members : List (String × Value)} (each : ∀ member ∈ members, Numberless member.2) :
      Numberless (object members)

def opening : Value → Char
  | .null => 'n'
  | .boolean b => if b then 't' else 'f'
  | .number _ => '0'
  | .string _ => '"'
  | .array _ => '['
  | .object _ => '\x7b'

theorem Numberless.exists_prettyAt_eq {v : Value} (numberless : v.Numberless) (level : Nat) :
    ∃ inner, (v.prettyAt level).toList = v.opening :: inner := by
  cases numberless with
  | null => exact ⟨"ull".toList, by simp [prettyAt, compact, opening]⟩
  | boolean b => cases b <;> simp [prettyAt, compact, opening]
  | string s => simp [prettyAt, compact, writeString, opening]
  | array each => exact ⟨_, toList_prettyAt_array level _⟩
  | object each => exact ⟨_, toList_prettyAt_object level _⟩

theorem toldApart_memberText {level : Nat} {member other : String × Value}
    (values : ToldApart (fun v => (prettyAt level v).toList) member.2 other.2) :
    ToldApart (fun member => (memberText level member).toList) member other := by
  intro rest rest' same
  simp only [memberText, String.toList_append, List.append_assoc] at same
  obtain ⟨keys, more⟩ := toldApart_writtenString _ _ _ _ same
  obtain ⟨equal, rests⟩ := values _ _ (List.append_cancel_left more)
  exact ⟨Prod.ext keys equal, rests⟩

theorem Numberless.opening_eq {v w : Value} (numberless : v.Numberless) (numberless' : w.Numberless)
    {level : Nat} {rest rest' : List Char}
    (same : (v.prettyAt level).toList ++ rest = (w.prettyAt level).toList ++ rest') :
    v.opening = w.opening := by
  obtain ⟨inner, text⟩ := numberless.exists_prettyAt_eq level
  obtain ⟨inner', text'⟩ := numberless'.exists_prettyAt_eq level
  simp only [text, text', List.cons_append, List.cons.injEq] at same
  exact same.1

/-- Values of different kinds begin differently, so the induction is on one and by cases on the
other. -/
theorem Numberless.toldApart {v w : Value} (numberless : v.Numberless) (numberless' : w.Numberless)
    (level : Nat) : ToldApart (fun v => (prettyAt level v).toList) v w := by
  induction numberless generalizing w level with
  | null =>
    intro rest rest' same
    have openings := Numberless.null.opening_eq numberless' same
    cases numberless' with
    | null => exact ⟨rfl, List.append_cancel_left same⟩
    | boolean b => cases b <;> cases openings
    | _ => cases openings
  | boolean b =>
    intro rest rest' same
    have openings := (Numberless.boolean b).opening_eq numberless' same
    cases numberless' with
    | boolean b' =>
      obtain rfl : b = b' := by cases b <;> cases b' <;> first | rfl | cases openings
      exact ⟨rfl, List.append_cancel_left same⟩
    | _ => cases b <;> cases openings
  | string s =>
    intro rest rest' same
    have openings := (Numberless.string s).opening_eq numberless' same
    cases numberless' with
    | string t =>
      obtain ⟨rfl, rests⟩ := toldApart_writtenString s t _ _ same
      exact ⟨rfl, rests⟩
    | boolean b => cases b <;> cases openings
    | _ => cases openings
  | array each ih =>
    intro rest rest' same
    have openings := (Numberless.array each).opening_eq numberless' same
    cases numberless' with
    | array each' =>
      simp only [toList_prettyAt_array, List.cons_append, List.cons.injEq, true_and] at same
      obtain ⟨rfl, rests⟩ := toldApart_block (by decide)
        (fun item inside other inside' => ih item inside (each' other inside') (level + 1)) _ _ same
      exact ⟨rfl, rests⟩
    | boolean b => cases b <;> cases openings
    | _ => cases openings
  | object each ih =>
    intro rest rest' same
    have openings := (Numberless.object each).opening_eq numberless' same
    cases numberless' with
    | object each' =>
      simp only [toList_prettyAt_object, List.cons_append, List.cons.injEq, true_and] at same
      obtain ⟨rfl, rests⟩ := toldApart_block (by decide) (fun member inside other inside' =>
        toldApart_memberText (ih member inside (each' other inside') (level + 1))) _ _ same
      exact ⟨rfl, rests⟩
    | boolean b => cases b <;> cases openings
    | _ => cases openings

theorem Numberless.eq_of_pretty {v w : Value} (numberless : v.Numberless)
    (numberless' : w.Numberless) (same : v.pretty = w.pretty) : v = w := by
  have characters : (v.prettyAt 0).toList ++ [] = (w.prettyAt 0).toList ++ [] := by
    rw [List.append_nil, List.append_nil]
    exact congrArg String.toList same
  exact (numberless.toldApart numberless' 0 _ _ characters).1

end Value

end ComponentSchema.Json
