import Specimen.Proofs.Json.Quoted
import Specimen.Proofs.Number.Text
import Specimen.Proofs.Value.Bridge
import Specimen.Value.Display

/-!
# Values that are shown alike

The text of a value is the text of no other, except that not-a-numbers are all shown alike
(`display_eq_display_iff`). What a text begins with tells the kind of its value. Where it ends is
told by the first quote that is not escaped, by the angle that closes a callable, by the bracket
that closes an array or an object, and, of a number, by what comes next: a comma, or the bracket
around it.

So a value can be told from a longer text that it begins, as long as a number could end there
(`ShownApart`), and items and members can be told one from the other.
-/

namespace Specimen

/-- Where a part ends, all of whose characters pass a test that what follows it fails, can be told
from the whole. -/
theorem append_inj_of_ends {α : Type} {inside : α → Bool} {part other rest rest' : List α}
    (all : ∀ c ∈ part, inside c = true) (all' : ∀ c ∈ other, inside c = true)
    (ends : ∀ c ∈ rest.head?, inside c = false) (ends' : ∀ c ∈ rest'.head?, inside c = false)
    (same : part ++ rest = other ++ rest') : part = other ∧ rest = rest' := by
  have stops {rest : List α} (ends : ∀ c ∈ rest.head?, inside c = false) :
      rest.takeWhile inside = [] := by
    cases rest with
    | nil => rfl
    | cons c rest => exact List.takeWhile_cons_of_neg (by simp [ends c rfl])
  have parts := congrArg (List.takeWhile inside) same
  rw [List.takeWhile_append_of_pos all, List.takeWhile_append_of_pos all', stops ends, stops ends',
    List.append_nil, List.append_nil] at parts
  subst parts
  exact ⟨rfl, List.append_cancel_left same⟩

/-! ## Base sixteen -/

theorem digitChar_of_mem_hexDigits {c : Char} (n : Nat) (mem : c ∈ hexDigits n) :
    ∃ d, c = Nat.digitChar d := by
  induction n using Nat.strong_induction_on with
  | _ n ih =>
    rw [hexDigits, Nat.toDigits_eq_if (by decide)] at mem
    split at mem
    · exact ⟨n, List.mem_singleton.mp mem⟩
    · rcases List.mem_append.mp mem with front | last
      · exact ih (n / 16) (by omega) front
      · exact ⟨n % 16, List.mem_singleton.mp last⟩

/-- The number with these digits in base sixteen. -/
def readHex (digits : List Char) : Nat :=
  digits.foldl (fun n c => n * 16 + (Json.hexOf? c).getD 0) 0

/-- The digits that a function is shown by are those of its seed. -/
theorem readHex_hexDigits (n : Nat) : readHex (hexDigits n) = n := by
  have digit : ∀ d < 16, (Json.hexOf? (Nat.digitChar d)).getD 0 = d := by decide
  induction n using Nat.strong_induction_on with
  | _ n ih =>
    rw [hexDigits, Nat.toDigits_eq_if (by decide)]
    split
    case isTrue one =>
      simp only [readHex, List.foldl_cons, List.foldl_nil, digit n one]
      omega
    case isFalse =>
      have front := ih (n / 16) (by omega)
      simp only [readHex, hexDigits] at front
      simp only [readHex, List.foldl_append, front, List.foldl_cons, List.foldl_nil,
        digit (n % 16) (Nat.mod_lt n (by decide))]
      omega

namespace Value

/-- A value in which all not-a-numbers are one. -/
def oneNaN (v : Value) : Value :=
  v.mapLeaves fun leaf =>
    match leaf with
    | .number x => .number x.oneNaN
    | leaf => leaf

variable {c : Char} {v w : Value} {rest rest' : List Char}

/-! ## Beginnings and ends -/

/-- The kind of value that a letter, a quote or a bracket begins. -/
def mark? : Char → Option Kind
  | 'u' => some .undefined
  | 'n' => some .null
  | 't' => some .boolean
  | 'f' => some .boolean
  | '"' => some .string
  | '[' => some .array
  | '\x7b' => some .object
  | '<' => some .function
  | _ => none

/-- The kind of value whose text begins with a character. -/
def opens? (c : Char) : Option Kind :=
  if c.isDigit = true ∨ c = '.' ∨ c = 'i' ∨ c = 'N' ∨ c = '-' then some .number else mark? c

theorem write_number (x : Number) (rest : List Char) :
    (number x).write rest = x.text .display ++ rest :=
  rfl

theorem write_callable (callee : Callable) (rest : List Char) :
    (callable callee).write rest =
      "<function#".toList ++ (hexDigits callee.seed.toNat ++ '>' :: rest) :=
  rfl

/-- A text begins with what its value's kind begins with, whatever follows it. -/
theorem write_eq_cons (v : Value) (rest : List Char) :
    ∃ c text, v.write rest = c :: text ∧ opens? c = some v.kind := by
  cases v with
  | undefined => exact ⟨'u', _, rfl, by decide⟩
  | null => exact ⟨'n', _, rfl, by decide⟩
  | bool b =>
    cases b with
    | true => exact ⟨'t', _, rfl, by decide⟩
    | false => exact ⟨'f', _, rfl, by decide⟩
  | number x =>
    obtain ⟨c, text, shown, first⟩ := x.text_eq_cons
    refine ⟨c, text ++ rest, by rw [write_number, shown, List.cons_append], ?_⟩
    rw [opens?, if_pos first]
    rfl
  | string s => exact ⟨'"', _, rfl, show opens? '"' = some .string by decide⟩
  | array items =>
    have bracket : opens? '[' = some .array := by decide
    cases items with
    | nil => exact ⟨'[', _, rfl, bracket⟩
    | cons item items => exact ⟨'[', _, rfl, bracket⟩
  | object members =>
    have bracket : opens? '\x7b' = some .object := by decide
    cases members with
    | nil => exact ⟨'\x7b', _, rfl, bracket⟩
    | cons member members => exact ⟨'\x7b', _, rfl, bracket⟩
  | callable callee => exact ⟨'<', _, rfl, show opens? '<' = some .function by decide⟩

/-- Texts are of one kind that begin the same text. -/
theorem kind_eq_of_write (same : v.write rest = w.write rest') : v.kind = w.kind := by
  obtain ⟨c, text, shown, first⟩ := v.write_eq_cons rest
  obtain ⟨c', text', shown', first'⟩ := w.write_eq_cons rest'
  obtain ⟨rfl, -⟩ := List.cons.inj (shown.symm.trans (same.trans shown'))
  exact Option.some.inj (first.symm.trans first')

/-- No value begins with the bracket that closes an array, or with the one that closes an object. -/
theorem write_ne_closing (closing : opens? c = none) (v : Value) (rest text : List Char) :
    c :: text ≠ v.write rest := by
  obtain ⟨c', text', shown, first⟩ := v.write_eq_cons rest
  rw [shown]
  intro same
  obtain ⟨rfl, -⟩ := List.cons.inj same
  cases closing.symm.trans first

/-- A text at whose front a number ends. -/
def EndsNumber (text : List Char) : Prop := ∀ c ∈ text.head?, c = ',' ∨ c = ']' ∨ c = '\x7d'

/-- What a value is shown as, and what follows, can be told from the whole. -/
def ShownApart (v : Value) : Prop :=
  ∀ {w : Value} {rest rest' : List Char}, EndsNumber rest → EndsNumber rest' →
    v.write rest = w.write rest' → v.oneNaN = w.oneNaN ∧ rest = rest'

theorem oneNaN_array (items : List Value) : (array items).oneNaN = .array (items.map oneNaN) := by
  rw [oneNaN, mapLeaves, mapLeavesItems_eq]
  rfl

theorem oneNaN_object (members : List (String × Value)) :
    (object members).oneNaN = .object (members.map fun member => (member.1, member.2.oneNaN)) := by
  rw [oneNaN, mapLeaves, mapLeavesMembers_eq]
  rfl

/-! ## Values in which nothing stands -/

/-- No character of a number's text ends a number. -/
theorem not_endsNumber_of_mem_text {x : Number} (mem : c ∈ x.text .display) :
    ¬(c = ',' ∨ c = ']' ∨ c = '\x7d') := by
  have plain := Number.plain_of_mem_text mem
  rintro (rfl | rfl | rfl) <;> exact absurd plain (by decide)

/-- A number ends at a comma, a bracket or a brace, none of which is part of one. -/
theorem number_shownApart (x : Number) : (number x).ShownApart := by
  intro w rest rest' ends ends' same
  cases w with
  | number y =>
    rw [write_number, write_number] at same
    obtain ⟨texts, rests⟩ := append_inj_of_ends
      (fun c mem => decide_eq_true (not_endsNumber_of_mem_text mem))
      (fun c mem => decide_eq_true (not_endsNumber_of_mem_text mem))
      (fun c mem => decide_eq_false (not_not.mpr (ends c mem)))
      (fun c mem => decide_eq_false (not_not.mpr (ends' c mem))) same
    exact ⟨congrArg number (Number.oneNaN_eq_oneNaN_iff.mpr (Number.text_eq_iff.mp texts)), rests⟩
  | _ => cases kind_eq_of_write same

/-- A function ends at its own bracket. -/
theorem callable_shownApart (callee : Callable) : (callable callee).ShownApart := by
  intro w rest rest' _ _ same
  cases w with
  | callable other =>
    have inside {n : Nat} : ∀ c ∈ hexDigits n, decide (c ≠ '>') = true := fun c mem => by
      obtain ⟨d, rfl⟩ := digitChar_of_mem_hexDigits n mem
      exact decide_eq_true (Nat.digitChar_ne '>' (by decide))
    have closes {text : List Char} : ∀ c ∈ ('>' :: text).head?, decide (c ≠ '>') = false := by
      rintro c mem
      cases mem
      decide
    rw [write_callable, write_callable] at same
    have same := List.append_cancel_left same
    obtain ⟨digits, rests⟩ := append_inj_of_ends inside inside closes closes same
    have seed : callee.seed.toNat = other.seed.toNat := by
      rw [← readHex_hexDigits callee.seed.toNat, digits, readHex_hexDigits]
    have equal : callee = other := congrArg Callable.mk (UInt64.toNat_inj.mp seed)
    exact ⟨by rw [equal], (List.cons.inj rests).2⟩
  | _ => cases kind_eq_of_write same

/-- Leaves of different kinds begin differently, and those of one kind are told apart by the laws
before. -/
theorem shownApart_of_leaf (noArray : v.asArray? = none) (noObject : v.asObject? = none) :
    v.ShownApart := by
  cases v with
  | number x => exact number_shownApart x
  | array items => cases noArray
  | object members => cases noObject
  | undefined =>
    intro w rest rest' _ _ same
    cases w with
    | undefined => exact ⟨rfl, List.append_cancel_left same⟩
    | _ => cases kind_eq_of_write same
  | null =>
    intro w rest rest' _ _ same
    cases w with
    | null => exact ⟨rfl, List.append_cancel_left same⟩
    | _ => cases kind_eq_of_write same
  | bool b =>
    intro w rest rest' _ _ same
    cases w with
    | bool d =>
      -- the two truth values differ at their first letter
      cases b <;> cases d
      · exact ⟨rfl, List.append_cancel_left same⟩
      · exact absurd (List.cons.inj same).1 (by decide)
      · exact absurd (List.cons.inj same).1 (by decide)
      · exact ⟨rfl, List.append_cancel_left same⟩
    | _ => cases kind_eq_of_write same
  | string s =>
    intro w rest rest' _ _ same
    cases w with
    | string t =>
      obtain ⟨texts, rests⟩ := Quoted.chars_append_inj same
      exact ⟨congrArg (fun s => (string s).oneNaN) (String.toList_inj.mp texts), rests⟩
    | _ => cases kind_eq_of_write same
  | callable callee => exact callable_shownApart callee

/-! ## Items and members -/

/-- After an item comes a comma or the bracket. -/
theorem endsNumber_writeItems (items : List Value) (rest : List Char) :
    EndsNumber (writeItems items (']' :: rest)) := by
  intro c mem
  cases items with
  | nil => exact .inr (.inl (Option.some.inj mem).symm)
  | cons item items => exact .inl (Option.some.inj mem).symm

/-- After a member comes a comma or the brace. -/
theorem endsNumber_writeMembers (members : List (String × Value)) (rest : List Char) :
    EndsNumber (writeMembers members ('\x7d' :: rest)) := by
  intro c mem
  cases members with
  | nil => exact .inr (.inr (Option.some.inj mem).symm)
  | cons member members => exact .inl (Option.some.inj mem).symm

/-- Items are told apart from the front: the first ends where it must, and then the others do. -/
theorem writeItems_inj {items : List Value} (each : ∀ item ∈ items, item.ShownApart)
    {others : List Value}
    (same : writeItems items (']' :: rest) = writeItems others (']' :: rest')) :
    items.map oneNaN = others.map oneNaN ∧ rest = rest' := by
  induction items generalizing others with
  | nil =>
    cases others with
    | nil => exact ⟨rfl, (List.cons.inj same).2⟩
    | cons other others => exact absurd (List.cons.inj same).1 (by decide)
  | cons item items ih =>
    cases others with
    | nil => exact absurd (List.cons.inj same).1 (by decide)
    | cons other others =>
      obtain ⟨first, each⟩ := List.forall_mem_cons.mp each
      obtain ⟨heads, tails⟩ := first (endsNumber_writeItems items rest)
        (endsNumber_writeItems others rest') (List.cons.inj same).2
      obtain ⟨tails, rests⟩ := ih each tails
      exact ⟨by rw [List.map_cons, List.map_cons, heads, tails], rests⟩

/-- So are members, whose names stand between quotes. -/
theorem writeMembers_inj {members : List (String × Value)}
    (each : ∀ member ∈ members, member.2.ShownApart) {others : List (String × Value)}
    (same : writeMembers members ('\x7d' :: rest) = writeMembers others ('\x7d' :: rest')) :
    members.map (fun member => (member.1, member.2.oneNaN)) =
        others.map (fun member => (member.1, member.2.oneNaN)) ∧
      rest = rest' := by
  induction members generalizing others with
  | nil =>
    cases others with
    | nil => exact ⟨rfl, (List.cons.inj same).2⟩
    | cons other others => exact absurd (List.cons.inj same).1 (by decide)
  | cons member members ih =>
    cases others with
    | nil => exact absurd (List.cons.inj same).1 (by decide)
    | cons other others =>
      obtain ⟨first, each⟩ := List.forall_mem_cons.mp each
      obtain ⟨names, colons⟩ := Quoted.chars_append_inj (List.cons.inj same).2
      obtain ⟨heads, tails⟩ := first (endsNumber_writeMembers members rest)
        (endsNumber_writeMembers others rest') (List.cons.inj colons).2
      obtain ⟨tails, rests⟩ := ih each tails
      exact ⟨by rw [List.map_cons, List.map_cons, String.toList_inj.mp names, heads, tails], rests⟩

theorem array_shownApart {items : List Value} (each : ∀ item ∈ items, item.ShownApart) :
    (array items).ShownApart := by
  intro w rest rest' _ _ same
  cases w with
  | array others =>
    rw [oneNaN_array, oneNaN_array]
    cases items with
    | nil =>
      cases others with
      | nil => exact ⟨rfl, (List.cons.inj (List.cons.inj same).2).2⟩
      | cons other others =>
        exact absurd (List.cons.inj same).2 (write_ne_closing (by decide) other _ _)
    | cons item items =>
      cases others with
      | nil => exact absurd (List.cons.inj same).2.symm (write_ne_closing (by decide) item _ _)
      | cons other others =>
        -- the first item stands without a comma
        have commas : writeItems (item :: items) (']' :: rest) =
            writeItems (other :: others) (']' :: rest') :=
          congrArg (',' :: ·) (List.cons.inj same).2
        obtain ⟨values, rests⟩ := writeItems_inj each commas
        exact ⟨by rw [values], rests⟩
  | _ => cases kind_eq_of_write same

theorem object_shownApart {members : List (String × Value)}
    (each : ∀ member ∈ members, member.2.ShownApart) : (object members).ShownApart := by
  intro w rest rest' _ _ same
  cases w with
  | object others =>
    rw [oneNaN_object, oneNaN_object]
    cases members with
    | nil =>
      cases others with
      | nil => exact ⟨rfl, (List.cons.inj (List.cons.inj same).2).2⟩
      | cons other others =>
        exact absurd (List.cons.inj (List.cons.inj same).2).1 (by decide)
    | cons member members =>
      cases others with
      | nil => exact absurd (List.cons.inj (List.cons.inj same).2).1 (by decide)
      | cons other others =>
        have commas : writeMembers (member :: members) ('\x7d' :: rest) =
            writeMembers (other :: others) ('\x7d' :: rest') :=
          congrArg (',' :: ·) (List.cons.inj same).2
        obtain ⟨values, rests⟩ := writeMembers_inj each commas
        exact ⟨by rw [values], rests⟩
  | _ => cases kind_eq_of_write same

/-- Every value is told apart, by induction over what stands in it. -/
theorem shownApart (v : Value) : v.ShownApart := by
  induction v using induction_parts with
  | leaf v noArray noObject => exact shownApart_of_leaf noArray noObject
  | array items each => exact array_shownApart each
  | object members each => exact object_shownApart each

/-! ## Not-a-numbers -/

/-- That not-a-numbers are made one is not seen. -/
theorem write_oneNaN (v : Value) (rest : List Char) : v.oneNaN.write rest = v.write rest := by
  induction v using induction_parts generalizing rest with
  | leaf v noArray noObject =>
    cases v with
    | number x =>
      show (number x.oneNaN).write rest = _
      rw [write_number, write_number, Number.text_oneNaN]
    | array items => cases noArray
    | object members => cases noObject
    | _ => rfl
  | array items each =>
    rw [oneNaN_array]
    have all (rest : List Char) : writeItems (items.map oneNaN) rest = writeItems items rest := by
      induction items with
      | nil => rfl
      | cons item items ih =>
        obtain ⟨first, each⟩ := List.forall_mem_cons.mp each
        show ',' :: item.oneNaN.write (writeItems (items.map oneNaN) rest) = _
        rw [first, ih each]
        rfl
    cases items with
    | nil => rfl
    | cons item items => exact congrArg ('[' :: ·) (List.cons.inj (all (']' :: rest))).2
  | object members each =>
    rw [oneNaN_object]
    have all (rest : List Char) :
        writeMembers (members.map fun member => (member.1, member.2.oneNaN)) rest =
          writeMembers members rest := by
      induction members with
      | nil => rfl
      | cons member members ih =>
        obtain ⟨first, each⟩ := List.forall_mem_cons.mp each
        show ',' :: (Quoted.chars member.1.toList ++ ':' :: member.2.oneNaN.write
          (writeMembers (members.map fun member => (member.1, member.2.oneNaN)) rest)) = _
        rw [first, ih each]
        rfl
    cases members with
    | nil => rfl
    | cons member members => exact congrArg ('\x7b' :: ·) (List.cons.inj (all ('\x7d' :: rest))).2

/-- Values that are shown alike are one value, all not-a-numbers counting as one. -/
theorem display_eq_display_iff : v.display = w.display ↔ v.oneNaN = w.oneNaN := by
  have nothing : EndsNumber [] := fun c mem => by cases mem
  constructor
  · intro same
    exact (v.shownApart nothing nothing (String.ofList_injective same)).1
  · intro same
    rw [display, display, ← v.write_oneNaN, ← w.write_oneNaN, same]

end Value

end Specimen
