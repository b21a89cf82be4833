import NatsFleet.Json.Decode
import NatsFleet.Proofs.Digits
import Mathlib.Tactic.IntervalCases
import Mathlib.Tactic.SplitIfs

/-!
A JSON text is read back as the value that it was written for, as far as its numbers are whole.
-/
namespace NatsFleet.Json

/-- What may stand after a value: the end of the text, of an array or of an object, or a comma. -/
def Breaks : List Char → Prop
  | [] => True
  | c :: _ => c = ',' ∨ c = ']' ∨ c = '\x7d'

namespace Number

def valueFrom (sofar : Nat) (ds : List Nat) : Nat := ds.foldl (fun n d => n * 10 + d) sofar

def digits (m : Nat) : List Nat := (Nat.toDigits 10 m).map fun c => c.toNat - '0'.toNat

theorem le_valueFrom (sofar : Nat) (ds : List Nat) : sofar ≤ valueFrom sofar ds := by
  induction ds generalizing sofar with
  | nil => exact Nat.le_refl sofar
  | cons d rest ih =>
    have hfirst : sofar ≤ sofar * 10 + d := by omega
    exact Nat.le_trans hfirst (ih (sofar * 10 + d))

/-- Digits whose value fits are all taken in. -/
theorem absorb_eq {sofar : Nat} {ds : List Nat} (h : valueFrom sofar ds < Nat.pow 2 64) :
    absorb sofar ds = (valueFrom sofar ds, []) := by
  induction ds generalizing sofar with
  | nil => rfl
  | cons d rest ih =>
    have hfits : sofar * 10 + d < Nat.pow 2 64 :=
      Nat.lt_of_le_of_lt (le_valueFrom (sofar * 10 + d) rest) h
    rw [absorb, if_pos hfits]
    exact ih h

/-- A number is the value of its own digits. -/
theorem valueFrom_digits (m : Nat) : valueFrom 0 (digits m) = m := by
  have hvalue := Nat.ofDigitChars_ten_toDigits (n := m)
  unfold Nat.ofDigitChars at hvalue
  rw [valueFrom, digits, List.foldl_map]
  simp only [Nat.mul_comm _ 10]
  exact hvalue

/-- A number of 64 bits is taken in with all its digits. -/
theorem absorb_digits {m : Nat} (h : m < Nat.pow 2 64) : absorb 0 (digits m) = (m, []) := by
  have hvalue := valueFrom_digits m
  rw [absorb_eq (hvalue.symm ▸ h), hvalue]

/-- The digits of a natural number are read as this number. -/
theorem ofDigits?_natural {m : Nat} (h : m < Nat.pow 2 64) :
    ofDigits? false (digits m) [] none = some (.whole m) := by
  rw [ofDigits?, absorb_digits h]
  rfl

/-- The same with a sign before them, down to the least number of 64 bits. -/
theorem ofDigits?_negative {m : Nat} (hpos : 0 < m) (h : m ≤ Nat.pow 2 63) :
    ofDigits? true (digits m) [] none = some (.whole (-m)) := by
  have hfits : m < Nat.pow 2 64 := Nat.lt_of_le_of_lt h (by decide)
  rw [ofDigits?, absorb_digits hfits]
  simp [hpos, h]

end Number

namespace Reader

theorem digit?_of_isDigit {c : Char} (h : c.isDigit = true) :
    digit? c = some (c.toNat - '0'.toNat) := by
  rw [digit?, if_pos h]

/-- Digits are read as far as they go. -/
theorem readDigits_append {ds : List Char} (hds : ∀ c ∈ ds, c.isDigit = true) {rest : List Char}
    (hrest : Breaks rest) :
    readDigits (ds ++ rest) = (ds.map fun c => c.toNat - '0'.toNat, rest) := by
  induction ds with
  | nil =>
    cases rest with
    | nil => rfl
    | cons c tail =>
      have hc : digit? c = none := by
        rcases hrest with rfl | rfl | rfl <;> rfl
      rw [List.nil_append, readDigits, hc]
      rfl
  | cons c cs ih =>
    have hc := digit?_of_isDigit (hds c List.mem_cons_self)
    have hcs := ih fun d hd => hds d (List.mem_cons_of_mem c hd)
    rw [List.cons_append, readDigits, hc, hcs]
    rfl

theorem readFraction_of_breaks {rest : List Char} (h : Breaks rest) :
    readFraction rest = .ok ([], rest) := by
  cases rest with
  | nil => rfl
  | cons c tail => rcases h with rfl | rfl | rfl <;> rfl

theorem readExponent_of_breaks {rest : List Char} (h : Breaks rest) :
    readExponent rest = .ok (none, rest) := by
  cases rest with
  | nil => rfl
  | cons c tail => rcases h with rfl | rfl | rfl <;> rfl

theorem digit_pos {c : Char} (h : c.isDigit = true) (hc : c ≠ '0') :
    ∃ d, c.toNat - '0'.toNat = d + 1 := by
  have hlow : '0'.toNat ≤ c.toNat := by
    rw [Char.isDigit, Bool.and_eq_true, decide_eq_true_eq] at h
    exact h.1
  have hne : c.toNat ≠ '0'.toNat := by
    intro heq
    exact hc (Char.toNat_inj.mp heq)
  exact Nat.exists_eq_succ_of_ne_zero (by omega)

/-- The digits of a number are read back as its parts. -/
theorem readParts_toDigits (negative : Bool) (m : Nat) {rest : List Char} (hrest : Breaks rest) :
    readParts negative (Nat.toDigits 10 m ++ rest) =
      .ok (Number.ofDigits? negative (Number.digits m) [] none, rest) := by
  have hdigits := readDigits_append (fun c hc => Text.isDigit_of_mem (n := m) hc) hrest
  unfold readParts Number.digits
  rw [hdigits]
  rcases Text.toDigits_leading m with hzero | ⟨c, cs, hcs, hc⟩
  · -- A single zero is a number, and no other number begins with one.
    have hvalue : ['0'].map (fun c : Char => c.toNat - '0'.toNat) = [0] := rfl
    rw [hzero, hvalue]
    simp only [bind, Except.bind, readFraction_of_breaks hrest, readExponent_of_breaks hrest]
  · have hdigit : c.isDigit = true := Text.isDigit_of_mem (n := m) (hcs ▸ List.mem_cons_self)
    obtain ⟨d, hd⟩ := digit_pos hdigit hc
    rw [hcs, List.map_cons, hd]
    simp only [bind, Except.bind, readFraction_of_breaks hrest, readExponent_of_breaks hrest]

/-- A natural number is read back. -/
theorem readNumber_natural {m : Nat} (h : m < Nat.pow 2 64) {rest : List Char} (hrest : Breaks rest) :
    readNumber false (Nat.toDigits 10 m ++ rest) = (.number (.ok (.whole m)), some rest) := by
  rw [readNumber, readParts_toDigits false m hrest, Number.ofDigits?_natural h]

/-- A negative number is read back. -/
theorem readNumber_negative {m : Nat} (hpos : 0 < m) (h : m ≤ Nat.pow 2 63) {rest : List Char}
    (hrest : Breaks rest) :
    readNumber true (Nat.toDigits 10 m ++ rest) = (.number (.ok (.whole (-m))), some rest) := by
  rw [readNumber, readParts_toDigits true m hrest, Number.ofDigits?_negative hpos h]

theorem skipBlanks_cons {c : Char} (h : isBlank c = false) (cs : List Char) :
    skipBlanks (c :: cs) = c :: cs := by
  rw [skipBlanks, List.dropWhile_cons_of_neg (by rw [h]; exact Bool.false_ne_true)]

theorem isBlank_of_isDigit {c : Char} (h : c.isDigit = true) : isBlank c = false := by
  by_contra hblank
  simp only [isBlank, Bool.or_eq_true, decide_eq_true_eq, Bool.not_eq_false] at hblank
  rcases hblank with ((rfl | rfl) | rfl) | rfl <;> cases h

theorem readValue_digit {c : Char} (h : c.isDigit = true) (fuel : Nat) (cs : List Char) :
    readValue (fuel + 1) (c :: cs) = readNumber false (c :: cs) := by
  rw [readValue, skipBlanks_cons (isBlank_of_isDigit h)]
  split
  · rename_i heq
    cases heq
  all_goals
    rename_i heq
    cases heq
    try cases h
  · exact if_pos h

/-! ## Strings -/

/-- The four digits of a control character. -/
theorem hex4?_control : ∀ n < 32, ∃ a b c d, Text.hexPadded 4 n = [a, b, c, d] ∧
    hex4? a b c d = some n := by
  intro n hn
  interval_cases n <;> exact ⟨_, _, _, _, rfl, rfl⟩

theorem unit_control (sofar : List Char) {n : Nat} (hn : n < 32) :
    StringState.unit ⟨sofar, none, none⟩ n = ⟨Char.ofNat n :: sofar, none, none⟩ := by
  have hhigh : ¬ (0xD800 ≤ n ∧ n < 0xDC00) := by omega
  have hlow : ¬ (0xDC00 ≤ n ∧ n < 0xE000) := by omega
  rw [StringState.unit, if_neg hhigh, if_neg hlow]
  rfl

/-- A short escape is read as the character it stands for. -/
theorem readString_escape (s : StringState) {e c : Char} (he : e ≠ 'u') (hc : shortEscape? e = some c)
    (tail : List Char) : readString s ('\\' :: e :: tail) = readString (s.push c) tail := by
  rw [readString, hc]
  · intro a b d x rest heq
    exact absurd heq he
  · exact he

/-- A character that needs no escape is read as it stands. -/
theorem readString_plain (s : StringState) {c : Char} (hquote : c ≠ '"') (hescape : c ≠ '\\')
    (hcontrol : ¬ c.toNat < 0x20) (tail : List Char) :
    readString s (c :: tail) = readString (s.push c) tail := by
  rw [readString, if_neg hcontrol]
  · exact hquote
  all_goals
    intros
    exact absurd (by assumption) hescape

/-- A character of a string is read back from what is written for it. -/
theorem readString_char (sofar : List Char) (c : Char) (tail : List Char) :
    readString ⟨sofar, none, none⟩ (stringChar c ++ tail) =
      readString ⟨c :: sofar, none, none⟩ tail := by
  unfold stringChar
  split_ifs with hquote hescape hback hfeed hline hreturn htab hcontrol
  rotate_left 7
  · obtain ⟨a, b, x, d, hdigits, hvalue⟩ := hex4?_control c.toNat hcontrol
    rw [hdigits]
    simp only [List.cons_append, List.nil_append, readString, hvalue]
    rw [unit_control sofar hcontrol, Char.ofNat_toNat]
  · exact readString_plain _ hquote hescape hcontrol tail
  -- The others have a letter of their own.
  all_goals
    subst_vars
    exact readString_escape _ (by decide) rfl tail

/-- Characters are read back one after the other, up to the quote. -/
theorem readString_chars (sofar cs rest : List Char) :
    readString ⟨sofar, none, none⟩ (cs.flatMap stringChar ++ '"' :: rest) =
      .content (.ok (String.ofList (sofar.reverse ++ cs))) rest := by
  induction cs generalizing sofar with
  | nil =>
    rw [List.flatMap_nil, List.nil_append, List.append_nil, readString]
    rfl
  | cons c cs ih =>
    rw [List.flatMap_cons, List.append_assoc, readString_char, ih, List.reverse_cons, List.append_assoc,
      List.singleton_append]

theorem stringText_toList (s : String) :
    (stringText s).toList = '"' :: (s.toList.flatMap stringChar ++ ['"']) :=
  String.toList_ofList

/-- A string is read back from its text. -/
theorem readString_text (s : String) (rest : List Char) :
    readString ⟨[], none, none⟩ (s.toList.flatMap stringChar ++ '"' :: rest) = .content (.ok s) rest := by
  rw [readString_chars, List.reverse_nil, List.nil_append, String.ofList_toList]

end Reader

/-! ## Values -/

mutual

/-- Every number in a value is a whole one of 64 bits. -/
def IsWhole : Json → Prop
  | .number (.whole n) => -9223372036854775808 ≤ n ∧ n < 18446744073709551616
  | .number (.real _) => False
  | .array items => ItemsWhole items
  | .object fields => FieldsWhole fields
  | _ => True

def ItemsWhole : List Json → Prop
  | [] => True
  | item :: rest => IsWhole item ∧ ItemsWhole rest

def FieldsWhole : List (String × Json) → Prop
  | [] => True
  | (_, value) :: rest => IsWhole value ∧ FieldsWhole rest

end

theorem text_number (n : Int) : (text (.number (.whole n))).toList = (toString n).toList := rfl

theorem text_array (items : List Json) :
    (text (.array items)).toList = '[' :: ((itemsText items).toList ++ [']']) := by
  rw [text, String.toList_append, String.toList_append]
  rfl

theorem text_object (fields : List (String × Json)) :
    (text (.object fields)).toList = '\x7b' :: ((fieldsText fields).toList ++ ['\x7d']) := by
  rw [text, String.toList_append, String.toList_append]
  rfl

/-- The text of a value begins with no blank, and not as a list ends. -/
theorem text_head (j : Json) (h : j.IsWhole) : ∃ c cs, j.text.toList = c :: cs ∧
    Reader.isBlank c = false ∧ c ≠ ']' := by
  cases j with
  | null => exact ⟨_, _, rfl, rfl, by decide⟩
  | bool b => cases b <;> exact ⟨_, _, rfl, rfl, by decide⟩
  | number n =>
    cases n with
    | real x => exact h.elim
    | whole n =>
      rw [text_number]
      rcases Text.intText n with ⟨m, -, hm⟩ | ⟨m, -, -, hm⟩
      · obtain ⟨c, cs, hcs⟩ := List.exists_cons_of_ne_nil (Nat.toDigits_ne_nil (n := m) (b := 10))
        have hdigit : c.isDigit = true := Text.isDigit_of_mem (n := m) (hcs ▸ List.mem_cons_self)
        refine ⟨c, cs, hm.trans hcs, Reader.isBlank_of_isDigit hdigit, ?_⟩
        rintro rfl
        cases hdigit
      · exact ⟨_, _, hm, rfl, by decide⟩
  | string s => exact ⟨_, _, Reader.stringText_toList s, rfl, by decide⟩
  | array items => exact ⟨_, _, text_array items, rfl, by decide⟩
  | object fields => exact ⟨_, _, text_object fields, rfl, by decide⟩

theorem itemsText_cons (item next : Json) (rest : List Json) : (itemsText (item :: next :: rest)).toList =
    item.text.toList ++ ',' :: (itemsText (next :: rest)).toList := by
  rw [itemsText, String.toList_append, String.toList_append, List.append_assoc]
  rfl

theorem itemsText_head (item : Json) (rest : List Json) (h : item.IsWhole) : ∃ c cs,
    (itemsText (item :: rest)).toList = c :: cs ∧ Reader.isBlank c = false ∧ c ≠ ']' := by
  obtain ⟨c, cs, hcs, hblank, hend⟩ := text_head item h
  cases rest with
  | nil => exact ⟨c, cs, hcs, hblank, hend⟩
  | cons next rest =>
    rw [itemsText_cons, hcs]
    exact ⟨c, _, rfl, hblank, hend⟩

def fieldsTail : List (String × Json) → List Char
  | [] => []
  | [(name, value)] => name.toList.flatMap stringChar ++ '"' :: ':' :: value.text.toList
  | (name, value) :: next :: rest =>
    name.toList.flatMap stringChar ++ '"' :: ':' :: (value.text.toList ++ ',' :: '"' ::
      fieldsTail (next :: rest))

theorem fieldsText_eq (field : String × Json) (rest : List (String × Json)) :
    (fieldsText (field :: rest)).toList = '"' :: fieldsTail (field :: rest) := by
  induction rest generalizing field with
  | nil =>
    obtain ⟨name, value⟩ := field
    simp [fieldsText, fieldsTail, Reader.stringText_toList]
  | cons next rest ih =>
    obtain ⟨name, value⟩ := field
    simp [fieldsText, fieldsTail, Reader.stringText_toList, ih]

namespace Reader

variable {fuel : Nat} {cs rest tail : List Char} {item value : Document} {c : Char}

/-- The last item of an array ends it. -/
theorem readItems_last (h : readValue fuel cs = (item, some (']' :: tail))) :
    readItems (fuel + 1) cs = ([item], .closed, some tail) := by
  rw [readItems, h]
  rfl

/-- After a comma the next item is read. -/
theorem readItems_next (h : readValue fuel cs = (item, some (',' :: c :: tail)))
    (hblank : isBlank c = false) (hend : c ≠ ']') : readItems (fuel + 1) cs =
      (item :: (readItems fuel (c :: tail)).1, (readItems fuel (c :: tail)).2) := by
  have hcomma : skipBlanks (',' :: c :: tail) = ',' :: c :: tail := rfl
  simp [readItems, h, hcomma, skipBlanks_cons hblank, hend]

/-- The last field of an object ends it. -/
theorem readFields_last {name : Except Fault String}
    (hname : readString ⟨[], none, none⟩ cs = .content name (':' :: rest))
    (hvalue : readValue fuel rest = (value, some ('\x7d' :: tail))) :
    readFields (fuel + 1) cs = ([(name, value)], .closed, some tail) := by
  have hcolon : skipBlanks (':' :: rest) = ':' :: rest := rfl
  have hend : skipBlanks ('\x7d' :: tail) = '\x7d' :: tail := rfl
  simp [readFields, hname, hcolon, hvalue, hend]

/-- After a comma and a quote the next field is read. -/
theorem readFields_next {name : Except Fault String}
    (hname : readString ⟨[], none, none⟩ cs = .content name (':' :: rest))
    (hvalue : readValue fuel rest = (value, some (',' :: '"' :: tail))) :
    readFields (fuel + 1) cs =
      ((name, value) :: (readFields fuel tail).1, (readFields fuel tail).2) := by
  have hcolon : skipBlanks (':' :: rest) = ':' :: rest := rfl
  have hcomma : skipBlanks (',' :: '"' :: tail) = ',' :: '"' :: tail := rfl
  have hquote : skipBlanks ('"' :: tail) = '"' :: tail := rfl
  simp [readFields, hname, hcolon, hvalue, hcomma, hquote]

theorem readValue_array (hblank : isBlank c = false) (hend : c ≠ ']') :
    readValue (fuel + 1) ('[' :: c :: cs) =
      (.array (readItems fuel (c :: cs)).1 (readItems fuel (c :: cs)).2.1,
        (readItems fuel (c :: cs)).2.2) := by
  have hopen : skipBlanks ('[' :: c :: cs) = '[' :: c :: cs := rfl
  simp [readValue, hopen, skipBlanks_cons hblank, hend]

theorem readValue_object : readValue (fuel + 1) ('\x7b' :: '"' :: cs) =
    (.object (readFields fuel cs).1 (readFields fuel cs).2.1, (readFields fuel cs).2.2) := rfl

/-- A string is read back as a value. -/
theorem readValue_string (s : String) : readValue (fuel + 1) ((stringText s).toList ++ rest) =
    (.string (.ok s), some rest) := by
  have hread := readString_text s rest
  have hopen : skipBlanks ('"' :: (s.toList.flatMap stringChar ++ '"' :: rest)) =
      '"' :: (s.toList.flatMap stringChar ++ '"' :: rest) := rfl
  rw [stringText_toList, List.cons_append, List.append_assoc, List.singleton_append]
  simp [readValue, hopen, hread]

theorem readValue_number {n : Int} (h : IsWhole (.number (.whole n))) (hrest : Breaks rest) :
    readValue (fuel + 1) ((toString n).toList ++ rest) = (.number (.ok (.whole n)), some rest) := by
  obtain ⟨hlow, hhigh⟩ : -9223372036854775808 ≤ n ∧ n < 18446744073709551616 := h
  rcases Text.intText n with ⟨m, rfl, htext⟩ | ⟨m, rfl, hpos, htext⟩
  · have hfits : m < Nat.pow 2 64 := by
      have hpow : Nat.pow 2 64 = 18446744073709551616 := by decide
      omega
    obtain ⟨c, cs, hcs⟩ := List.exists_cons_of_ne_nil (Nat.toDigits_ne_nil (n := m) (b := 10))
    have hdigit : c.isDigit = true := Text.isDigit_of_mem (n := m) (hcs ▸ List.mem_cons_self)
    have hread := readNumber_natural hfits hrest
    rw [htext]
    rw [hcs] at hread ⊢
    rw [List.cons_append, readValue_digit hdigit]
    exact hread
  · have hfits : m ≤ Nat.pow 2 63 := by
      have hpow : Nat.pow 2 63 = 9223372036854775808 := by decide
      omega
    rw [htext]
    exact readNumber_negative hpos hfits hrest

mutual

/-- A value is read back from its text, and what comes after it is left alone. -/
theorem readValue_text : (j : Json) → j.IsWhole → ∀ (fuel : Nat) (rest : List Char),
    j.text.toList.length ≤ fuel → Breaks rest →
      readValue fuel (j.text.toList ++ rest) = (j.toDocument, some rest)
  | j, h, 0, rest, hfuel, hrest => by
    obtain ⟨c, cs, hcs, -⟩ := text_head j h
    rw [hcs, List.length_cons] at hfuel
    exact absurd hfuel (Nat.not_succ_le_zero _)
  | .null, _, fuel + 1, rest, _, _ => rfl
  | .bool true, _, fuel + 1, rest, _, _ => rfl
  | .bool false, _, fuel + 1, rest, _, _ => rfl
  | .number (.whole n), h, fuel + 1, rest, _, hrest => readValue_number h hrest
  | .string s, _, fuel + 1, rest, _, _ => readValue_string s
  | .array [], _, fuel + 1, rest, _, _ => rfl
  | .array (item :: items), h, fuel + 1, rest, hfuel, _ => by
    obtain ⟨c, cs, hcs, hblank, hend⟩ := itemsText_head item items h.1
    have hitems := readItems_text item items h fuel rest
    rw [text_array] at hfuel ⊢
    rw [hcs] at hfuel hitems ⊢
    simp only [List.length_cons, List.length_append, List.length_nil] at hfuel hitems
    have hread := hitems (by omega)
    rw [List.cons_append] at hread
    rw [List.cons_append, List.cons_append, List.cons_append, List.append_assoc, List.singleton_append,
      readValue_array hblank hend, hread]
    rfl
  | .object [], _, fuel + 1, rest, _, _ => rfl
  | .object (field :: fields), h, fuel + 1, rest, hfuel, _ => by
    have hfields := readFields_text field fields h fuel rest
    rw [text_object, fieldsText_eq] at hfuel ⊢
    simp only [List.length_cons, List.length_append, List.length_nil] at hfuel
    have hread := hfields (by omega)
    rw [List.cons_append, List.cons_append, List.cons_append, List.append_assoc, List.singleton_append,
      readValue_object, hread]
    rfl

/-- By induction on the items, each of which is read back with what stands after it. -/
theorem readItems_text : (item : Json) → (items : List Json) → ItemsWhole (item :: items) →
    ∀ (fuel : Nat) (rest : List Char), (itemsText (item :: items)).toList.length < fuel →
      readItems fuel ((itemsText (item :: items)).toList ++ ']' :: rest) =
        (itemsToDocument (item :: items), .closed, some rest)
  | item, [], h, fuel + 1, rest, hfuel => by
    have hitem := readValue_text item h.1 fuel (']' :: rest) (Nat.le_of_lt_succ hfuel) (.inr (.inl rfl))
    exact readItems_last hitem
  | item, next :: items, h, fuel + 1, rest, hfuel => by
    obtain ⟨c, cs, hcs, hblank, hend⟩ := itemsText_head next items h.2.1
    have hrest := readItems_text next items h.2 fuel rest
    rw [itemsText_cons] at hfuel ⊢
    rw [hcs] at hfuel hrest ⊢
    simp only [List.length_append, List.length_cons] at hfuel hrest
    have hitem := readValue_text item h.1 fuel (',' :: c :: (cs ++ ']' :: rest)) (by omega) (.inl rfl)
    have htail := hrest (by omega)
    rw [List.cons_append] at htail
    rw [List.append_assoc, List.cons_append, List.cons_append, readItems_next hitem hblank hend, htail]
    rfl

/-- The same for the fields of an object. -/
theorem readFields_text : (field : String × Json) → (fields : List (String × Json)) →
    FieldsWhole (field :: fields) → ∀ (fuel : Nat) (rest : List Char),
      (fieldsTail (field :: fields)).length < fuel →
        readFields fuel (fieldsTail (field :: fields) ++ '\x7d' :: rest) =
          (fieldsToDocument (field :: fields), .closed, some rest)
  | (name, value), [], h, fuel + 1, rest, hfuel => by
    simp only [fieldsTail, List.length_append, List.length_cons] at hfuel
    have hname := readString_text name (':' :: (value.text.toList ++ '\x7d' :: rest))
    have hvalue := readValue_text value h.1 fuel ('\x7d' :: rest) (by omega) (.inr (.inr rfl))
    simp only [fieldsTail, List.append_assoc, List.cons_append]
    exact readFields_last hname hvalue
  | (name, value), next :: fields, h, fuel + 1, rest, hfuel => by
    simp only [fieldsTail, List.length_append, List.length_cons] at hfuel
    let more := fieldsTail (next :: fields) ++ '\x7d' :: rest
    have hname := readString_text name (':' :: (value.text.toList ++ ',' :: '"' :: more))
    have hvalue := readValue_text value h.1 fuel (',' :: '"' :: more) (by omega) (.inl rfl)
    have htail := readFields_text next fields h.2 fuel rest (by omega)
    simp only [fieldsTail, List.append_assoc, List.cons_append]
    rw [readFields_next hname hvalue, htail]
    rfl

end

end Reader

/-- A text of a value is read to its end. -/
theorem readDocument_text (j : Json) (h : j.IsWhole) : readDocument j.text = (j.toDocument, none) := by
  have hread := Reader.readValue_text j h (j.text.toList.length + 1) [] (Nat.le_succ _) trivial
  rw [List.append_nil] at hread
  unfold readDocument
  dsimp only
  rw [hread]
  rfl

end NatsFleet.Json
