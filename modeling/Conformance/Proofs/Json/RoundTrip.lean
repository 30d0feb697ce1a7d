import Conformance.Json.Read
import Conformance.Json.Write
import Mathlib.Data.List.TakeDrop
import Mathlib.Data.List.TakeWhile
import Mathlib.Tactic.IntervalCases

/-!
# What is written as JSON is read back

Whatever value is written, on one line or laid out over many, is read back as itself: `read?_compact`
and `read?_pretty`. The law behind both is about a value in the middle of a text (`ReadsBack`): the
reader takes its characters and leaves those that follow, whatever they are, as long as they do not
begin with something that a number could go on with (`Stops`). Of a layout it needs to know only that
its lines are blanks (`Layout.Blank`).

The proof follows the value. Each item of a list and each member of a table costs one unit of fuel, and
also at least one character, so the characters of a value are fuel enough to read it.
-/

namespace Conformance.Json

/-! ## Blanks -/

theorem skipBlanks_append {blanks : List Char} (h : ∀ c ∈ blanks, isBlank c = true)
    (rest : List Char) : skipBlanks (blanks ++ rest) = skipBlanks rest := by
  rw [skipBlanks, List.dropWhile_append_of_pos h, skipBlanks]

theorem skipBlanks_cons {c : Char} (h : isBlank c = false) (rest : List Char) :
    skipBlanks (c :: rest) = c :: rest := by
  rw [skipBlanks, List.dropWhile_cons_of_neg (by rw [h]; decide)]

/-- Blanks do not matter where a value is read. -/
theorem value?_blanks {blanks : List Char} (h : ∀ c ∈ blanks, isBlank c = true) (fuel : Nat)
    (rest : List Char) : value? fuel (blanks ++ rest) = value? fuel rest := by
  cases fuel with
  | zero => rw [value?, value?]
  | succ fuel => rw [value?, value?, skipBlanks_append h]

/-! ## Strings -/

/-- A character that is neither a quote, a backslash nor a control. -/
structure Plain (c : Char) : Prop where
  visible : 0x20 ≤ c.toNat
  quote : c ≠ '"'
  backslash : c ≠ '\\'

theorem escapedChar_plain {c : Char} (h : Plain c) : escapedChar c = [c] := by
  have hvisible := h.visible
  unfold escapedChar
  split
  · exact absurd rfl h.quote
  · exact absurd rfl h.backslash
  iterate 5 exact absurd hvisible (by decide)
  · rw [if_neg (by omega), if_neg (by omega)]

theorem string?_plain {c : Char} (h : Plain c) (before : Partial) (rest : List Char) :
    string? before (c :: rest) = string? (before.push c) rest := by
  rw [string?, if_neg (Nat.not_lt_of_le h.visible)]
  · exact h.quote
  · exact fun _ _ _ _ _ hc => absurd hc h.backslash
  · exact fun _ _ hc => absurd hc h.backslash

/-- **An escaped character is read as itself.** -/
theorem string?_escapedChar (before rest : List Char) (c : Char) :
    string? ⟨some before, none⟩ (escapedChar c ++ rest) = string? ⟨some (c :: before), none⟩ rest := by
  by_cases hcontrol : c.toNat < 0x20
  -- thirty-two characters, five of which have a letter of their own
  · have hc : c = Char.ofNat c.toNat := (Char.ofNat_toNat c).symm
    generalize c.toNat = n at hcontrol hc
    subst hc
    interval_cases n <;> rfl
  · by_cases hquote : c = '"'
    · rw [hquote]
      rfl
    by_cases hbackslash : c = '\\'
    · rw [hbackslash]
      rfl
    have hplain : Plain c := ⟨Nat.le_of_not_lt hcontrol, hquote, hbackslash⟩
    rw [escapedChar_plain hplain, List.singleton_append, string?_plain hplain]
    rfl

theorem string?_flatMap (content before rest : List Char) :
    string? ⟨some before, none⟩ (content.flatMap escapedChar ++ '"' :: rest) =
      some (some (.ofList (before.reverse ++ content)), rest) := by
  induction content generalizing before with
  | nil => rw [List.append_nil]; rfl
  | cons c content ih =>
      rw [List.flatMap_cons, List.append_assoc, string?_escapedChar, ih, List.reverse_cons,
        List.append_assoc]
      rfl

/-- **A string is read as what was written between its quotes.** -/
theorem string?_stringChars (content : String) (rest : List Char) :
    ∃ tail, stringChars content ++ rest = '"' :: tail ∧
      string? .start tail = some (some content, rest) := by
  refine ⟨content.toList.flatMap escapedChar ++ '"' :: rest, ?_, ?_⟩
  · rw [stringChars, List.cons_append, List.append_assoc]
    rfl
  · rw [Partial.start, string?_flatMap, List.reverse_nil, List.nil_append, String.ofList_toList]

/-! ## Numbers -/

/-- A text that no number goes on with: it begins with a blank, a comma or a closing bracket, or not at
    all. -/
def Stops (rest : List Char) : Prop := ∀ c ∈ rest.head?, isBlank c = true ∨ c ∈ [',', ']', '}']

theorem Stops.head_ne {c : Char} {rest : List Char} (h : Stops (c :: rest)) :
    ¬ ('0' ≤ c ∧ c ≤ '9') ∧ c ≠ '.' ∧ c ≠ 'e' ∧ c ≠ 'E' := by
  have hhead := h c rfl
  simp only [isBlank, Bool.or_eq_true, decide_eq_true_eq, List.mem_cons, List.not_mem_nil,
    or_false, or_assoc] at hhead
  rcases hhead with rfl | rfl | rfl | rfl | rfl | rfl | rfl <;> decide

theorem numeral?_digits {digits : List Char} (h : ∀ c ∈ digits, c.isDigit = true) (value : Nat) :
    Text.numeral? Text.digitValue? 10 value digits = some (Nat.ofDigitChars 10 digits value) := by
  induction digits generalizing value with
  | nil => rfl
  | cons c digits ih =>
      obtain ⟨hc, hdigits⟩ := List.forall_mem_cons.mp h
      rw [Text.numeral?, Text.digitValue?_of_isDigit hc, Nat.ofDigitChars_cons,
        Nat.mul_comm 10]
      exact ih hdigits _

theorem isDigit_toDigits (n : Nat) : ∀ c ∈ Nat.toDigits 10 n, c.isDigit = true :=
  fun _ => Nat.isDigit_of_mem_toDigits (by decide) (by decide)

/-- A decimal is read as its number. -/
theorem digits?_toDigits (n : Nat) : Text.digits? (Nat.toDigits 10 n) = some n := by
  rw [Text.digits?, numeral?_digits (isDigit_toDigits n), Nat.ofDigitChars_ten_toDigits]
  exact Nat.toDigits_ne_nil

/-- A decimal does not begin with a zero, unless that is all of it. -/
theorem toDigits_ne_zero_cons (n : Nat) (c : Char) (rest : List Char) :
    Nat.toDigits 10 n ≠ '0' :: c :: rest := by
  induction n using Nat.strongRecOn generalizing c rest with
  | ind n ih =>
      intro h
      by_cases hn : n < 10
      · rw [Nat.toDigits_of_lt_base hn] at h
        exact nomatch (List.cons.inj h).2
      · rw [Nat.toDigits_of_base_le (by decide) (Nat.le_of_not_lt hn)] at h
        have hsmaller : n / 10 < n := by omega
        -- what stands before the last digit is a decimal itself
        rcases hfront : Nat.toDigits 10 (n / 10) with _ | ⟨d, _ | ⟨e, front⟩⟩
        · exact Nat.toDigits_ne_nil hfront
        · rw [hfront] at h
          have hzero := Nat.ofDigitChars_ten_toDigits (n := n / 10)
          rw [hfront, (List.cons.inj h).1] at hzero
          have hval : Nat.ofDigitChars 10 ['0'] 0 = 0 := rfl
          omega
        · rw [hfront] at h
          exact ih (n / 10) hsmaller e front (by rw [hfront, (List.cons.inj h).1])

theorem digitRun_append {digits rest : List Char} (h : ∀ c ∈ digits, c.isDigit = true)
    (hrest : Stops rest) : digitRun (digits ++ rest) = (digits, rest) := by
  have hdigits : ∀ c ∈ digits, (decide ('0' ≤ c) && decide (c ≤ '9')) = true := fun c hc =>
    (Bool.decide_and ..).symm.trans (decide_eq_true (Text.isDigit_iff.mp (h c hc)))
  rw [digitRun, List.span_eq_takeWhile_dropWhile, List.takeWhile_append_of_pos hdigits,
    List.dropWhile_append_of_pos hdigits]
  cases rest with
  | nil => rw [List.takeWhile_nil, List.dropWhile_nil, List.append_nil]
  | cons c rest =>
      have hc : ¬ (decide ('0' ≤ c) && decide (c ≤ '9')) = true := by
        rw [← Bool.decide_and, decide_eq_true_iff]
        exact hrest.head_ne.1
      rw [List.takeWhile_cons_of_neg (p := fun c => '0' ≤ c && c ≤ '9') hc,
        List.dropWhile_cons_of_neg (p := fun c => '0' ≤ c && c ≤ '9') hc, List.append_nil]

theorem wholeDigits?_toDigits (n : Nat) {rest : List Char} (h : Stops rest) :
    wholeDigits? (Nat.toDigits 10 n ++ rest) = some (Nat.toDigits 10 n, rest) := by
  rw [wholeDigits?, digitRun_append (isDigit_toDigits n) h]
  split
  · next heq => exact absurd (Prod.mk.inj heq).1 Nat.toDigits_ne_nil
  · next heq => exact absurd (Prod.mk.inj heq).1 (toDigits_ne_zero_cons n _ _)
  · rfl

theorem skipFraction?_stops {rest : List Char} (h : Stops rest) :
    skipFraction? rest = some (false, rest) := by
  cases rest with
  | nil => rfl
  | cons c rest =>
      rw [skipFraction?]
      exact fun _ heq => absurd (List.cons.inj heq).1 h.head_ne.2.1

theorem skipExponent?_stops {rest : List Char} (h : Stops rest) :
    skipExponent? rest = some (false, rest) := by
  cases rest with
  | nil => rfl
  | cons c rest =>
      refine if_neg ?_
      rw [Bool.or_eq_true, decide_eq_true_iff, decide_eq_true_iff]
      exact fun hc => hc.elim h.head_ne.2.2.1 h.head_ne.2.2.2

/-- The characters with which an integer begins. -/
def Numeric (c : Char) : Prop := (c.isDigit || c == '-') = true

instance (c : Char) : Decidable (Numeric c) := inferInstanceAs (Decidable (_ = true))

theorem Numeric.ne {c d : Char} (h : Numeric c) (hd : ¬ Numeric d) : c ≠ d := fun heq => hd (heq ▸ h)

theorem Numeric.isBlank {c : Char} (h : Numeric c) : isBlank c = false := by
  simp only [Json.isBlank, Bool.or_eq_false_iff, decide_eq_false_iff_not]
  exact ⟨⟨⟨h.ne (by decide), h.ne (by decide)⟩, h.ne (by decide)⟩, h.ne (by decide)⟩

/-- A decimal begins with a digit. -/
theorem exists_toDigits_eq_cons (n : Nat) :
    ∃ c tail, Nat.toDigits 10 n = c :: tail ∧ c.isDigit = true := by
  obtain ⟨c, tail, htail⟩ := List.exists_cons_of_ne_nil (Nat.toDigits_ne_nil (b := 10) (n := n))
  exact ⟨c, tail, htail, isDigit_toDigits n c (htail ▸ List.mem_cons_self)⟩

theorem exists_wholeChars_eq_cons (value : Int) :
    ∃ c tail, wholeChars value = c :: tail ∧ Numeric c := by
  cases value with
  | ofNat n =>
      obtain ⟨c, tail, htail, hc⟩ := exists_toDigits_eq_cons n
      exact ⟨c, tail, htail, Bool.or_eq_true_iff.mpr (.inl hc)⟩
  | negSucc n => exact ⟨'-', _, rfl, by decide⟩

/-- **An integer is read as itself.** -/
theorem number?_wholeChars (value : Int) {rest : List Char} (h : Stops rest) :
    number? (wholeChars value ++ rest) = some (.whole value, rest) := by
  cases value with
  | ofNat n =>
      have hunsigned : ∀ tail, Nat.toDigits 10 n ++ rest ≠ '-' :: tail := by
        intro tail heq
        obtain ⟨c, digits, hdigits, hc⟩ := exists_toDigits_eq_cons n
        rw [hdigits, List.cons_append] at heq
        rw [(List.cons.inj heq).1] at hc
        exact nomatch hc
      rw [wholeChars, number?]
      · simp only [wholeDigits?_toDigits n h, skipFraction?_stops h, skipExponent?_stops h,
          digits?_toDigits]
        rfl
      · exact hunsigned
  | negSucc n =>
      rw [wholeChars, List.cons_append, number?]
      simp only [wholeDigits?_toDigits (n + 1) h, skipFraction?_stops h, skipExponent?_stops h,
        digits?_toDigits]
      rfl

/-! ## Layouts -/

/-- A layout that adds blanks only. -/
structure Layout.Blank (layout : Layout) : Prop where
  newline : ∀ depth, ∀ c ∈ layout.newline depth, isBlank c = true
  colon : ∃ blanks, layout.colon = ':' :: blanks ∧ ∀ c ∈ blanks, isBlank c = true

theorem Layout.blank_compact : Layout.compact.Blank :=
  ⟨fun _ _ => nofun, [], rfl, fun _ => nofun⟩

theorem Layout.blank_pretty : Layout.pretty.Blank := by
  refine ⟨fun depth c hc => ?_, [' '], rfl, fun c hc => List.eq_of_mem_singleton hc ▸ rfl⟩
  rcases List.mem_cons.mp hc with rfl | hspace
  · rfl
  · rw [List.eq_of_mem_replicate hspace]
    rfl

theorem stops_blanks {blanks : List Char} (h : ∀ c ∈ blanks, isBlank c = true) {rest : List Char}
    (hrest : Stops rest) : Stops (blanks ++ rest) := by
  cases blanks with
  | nil => exact hrest
  | cons c blanks =>
      rintro _ ⟨⟩
      exact Or.inl (h c List.mem_cons_self)

theorem stops_cons {c : Char} (h : c ∈ [',', ']', '}']) (rest : List Char) : Stops (c :: rest) := by
  rintro _ ⟨⟩
  exact Or.inr h

/-! ## Steps of the reader -/

/-- A text that begins as a value may, and no blank and no end of a list does. -/
def Begins (cs : List Char) : Prop := ∃ c tail, cs = c :: tail ∧ isBlank c = false ∧ c ≠ ']'

theorem Begins.append {cs : List Char} (h : Begins cs) (rest : List Char) : Begins (cs ++ rest) := by
  obtain ⟨c, tail, rfl, hc⟩ := h
  exact ⟨c, tail ++ rest, rfl, hc⟩

theorem items?_blanks {blanks : List Char} (h : ∀ c ∈ blanks, isBlank c = true) (fuel : Nat)
    (before : List Data) (rest : List Char) :
    items? fuel before (blanks ++ rest) = items? fuel before rest := by
  cases fuel with
  | zero => rw [items?, items?]
  | succ fuel => rw [items?, items?, value?_blanks h]

theorem members?_blanks {blanks : List Char} (h : ∀ c ∈ blanks, isBlank c = true) (fuel : Nat)
    (before : List (Option String × Data)) (rest : List Char) :
    members? fuel before (blanks ++ rest) = members? fuel before rest := by
  cases fuel with
  | zero => rw [members?, members?]
  | succ fuel => rw [members?, members?, skipBlanks_append h]

section

variable {fuel : Nat} {blanks cs rest : List Char}

/-- A bracket opens a list, unless it is closed at once. -/
theorem value?_list (h : ∀ c ∈ blanks, isBlank c = true) (hcs : Begins cs) :
    value? (fuel + 1) ('[' :: (blanks ++ cs)) = items? fuel [] cs := by
  obtain ⟨c, tail, rfl, hc, hclose⟩ := hcs
  rw [value?, skipBlanks_cons (by decide)]
  simp only
  rw [skipBlanks_append h, skipBlanks_cons hc]
  split
  · next heq => exact absurd (List.cons.inj heq).1 hclose
  · rfl

/-- A brace opens a table, which has members if a quote follows. -/
theorem value?_table (h : ∀ c ∈ blanks, isBlank c = true) :
    value? (fuel + 1) ('{' :: (blanks ++ '"' :: cs)) = members? fuel [] ('"' :: cs) := by
  rw [value?, skipBlanks_cons (by decide)]
  simp only
  rw [skipBlanks_append h, skipBlanks_cons (by decide)]
  rfl

/-- A number is read where a digit or a sign stands. -/
theorem value?_number {c : Char} (h : Numeric c) :
    value? (fuel + 1) (c :: cs) = number? (c :: cs) := by
  rw [value?, skipBlanks_cons h.isBlank]
  split <;> first
    | rfl
    | next heq => exact absurd (List.cons.inj heq).1 (h.ne (by decide))

/-- A string is read where a quote stands. -/
theorem value?_string (content : String) :
    value? (fuel + 1) (stringChars content ++ rest) = some (.text content, rest) := by
  obtain ⟨tail, hchars, hstring⟩ := string?_stringChars content rest
  rw [hchars, value?, skipBlanks_cons (by decide)]
  simp only [hstring]

theorem items?_comma {item : Data} (h : value? fuel cs = some (item, ',' :: rest))
    (before : List Data) : items? (fuel + 1) before cs = items? fuel (item :: before) rest := by
  rw [items?, h]
  simp only
  rw [skipBlanks_cons (by decide)]
  rfl

theorem items?_close {item : Data} (h : value? fuel cs = some (item, blanks ++ ']' :: rest))
    (hblanks : ∀ c ∈ blanks, isBlank c = true) (before : List Data) :
    items? (fuel + 1) before cs = some (.list (before.reverse ++ [item]), rest) := by
  rw [items?, h, ← List.reverse_cons]
  simp only
  rw [skipBlanks_append hblanks, skipBlanks_cons (by decide)]
  rfl

/-- Behind its name and a colon a member has its value, and behind that the table goes on or ends. -/
theorem members?_key {value : Data} (h : value? fuel cs = some (value, blanks ++ rest))
    (hblanks : ∀ c ∈ blanks, isBlank c = true) (key : String)
    (before : List (Option String × Data)) :
    members? (fuel + 1) before (stringChars key ++ ':' :: cs) =
      match skipBlanks rest with
      | ',' :: rest => members? fuel ((some key, value) :: before) rest
      | '}' :: rest => some (.table (before.reverse ++ [(some key, value)]), rest)
      | _ => none := by
  obtain ⟨tail, hkey, hstring⟩ := string?_stringChars key (':' :: cs)
  rw [hkey, members?, skipBlanks_cons (by decide), ← List.reverse_cons]
  simp only [hstring]
  rw [skipBlanks_cons (by decide)]
  simp only [h]
  rewrite [skipBlanks_append hblanks]
  rfl

theorem members?_comma {value : Data} (h : value? fuel cs = some (value, ',' :: rest))
    (key : String) (before : List (Option String × Data)) :
    members? (fuel + 1) before (stringChars key ++ ':' :: cs) =
      members? fuel ((some key, value) :: before) rest := by
  have hnoBlanks : ∀ c ∈ ([] : List Char), isBlank c = true := nofun
  rw [members?_key h hnoBlanks, skipBlanks_cons (by decide)]
  rfl

theorem members?_close {value : Data} (h : value? fuel cs = some (value, blanks ++ '}' :: rest))
    (hblanks : ∀ c ∈ blanks, isBlank c = true) (key : String)
    (before : List (Option String × Data)) :
    members? (fuel + 1) before (stringChars key ++ ':' :: cs) =
      some (.table (before.reverse ++ [(some key, value)]), rest) := by
  rw [members?_key h hblanks, skipBlanks_cons (by decide)]
  rfl

end

/-! ## Values -/

theorem begins_chars (layout : Layout) (depth : Nat) (json : Json) :
    Begins (json.chars layout depth) := by
  cases json with
  | null => exact ⟨'n', _, rfl, by decide⟩
  | flag value => cases value <;> exact ⟨_, _, rfl, by decide⟩
  | whole value =>
      obtain ⟨c, tail, htail, hc⟩ := exists_wholeChars_eq_cons value
      exact ⟨c, tail, by rw [chars, htail], hc.isBlank, hc.ne (by decide)⟩
  | text value => exact ⟨'"', _, by rw [chars, stringChars], by decide⟩
  | list items => cases items <;> exact ⟨'[', _, by rw [chars], by decide⟩
  | table members =>
      cases members with
      | nil => exact ⟨'{', _, by rw [chars], by decide⟩
      | cons member members => exact ⟨'{', _, by rw [chars], by decide⟩

variable {layout : Layout}

theorem stops_itemsChars (h : layout.Blank) (depth : Nat) (items : List Json) (rest : List Char) :
    Stops (itemsChars layout (depth + 1) items ++ (layout.newline depth ++ ']' :: rest)) := by
  cases items with
  | nil => exact stops_blanks (h.newline depth) (stops_cons (by decide) rest)
  | cons item items =>
      rw [itemsChars, List.cons_append]
      exact stops_cons (by decide) _

theorem stops_membersChars (h : layout.Blank) (depth : Nat) (members : List (String × Json))
    (rest : List Char) :
    Stops (membersChars layout (depth + 1) members ++ (layout.newline depth ++ '}' :: rest)) := by
  cases members with
  | nil => exact stops_blanks (h.newline depth) (stops_cons (by decide) rest)
  | cons member members =>
      rw [membersChars, List.cons_append]
      exact stops_cons (by decide) _

/-- **One law for one value**: the reader takes the characters of the value and nothing else. -/
def ReadsBack (layout : Layout) (json : Json) : Prop :=
  ∀ depth fuel rest, (json.chars layout depth).length ≤ fuel → Stops rest →
    value? (fuel + 1) (json.chars layout depth ++ rest) = some (json.toData, rest)

/-- The items of a list are read up to its end. -/
theorem items?_itemsChars (h : layout.Blank) {item : Json} {items : List Json}
    (hitem : ReadsBack layout item) (hitems : ∀ item ∈ items, ReadsBack layout item)
    {depth fuel : Nat} (before : List Data) (rest : List Char)
    (hfuel : (item.chars layout (depth + 1)).length +
      (itemsChars layout (depth + 1) items).length ≤ fuel) :
    items? (fuel + 2) before (item.chars layout (depth + 1) ++
      (itemsChars layout (depth + 1) items ++ (layout.newline depth ++ ']' :: rest))) =
      some (.list (before.reverse ++ item.toData :: itemsData items), rest) := by
  induction items generalizing item before fuel with
  | nil =>
      have hread := hitem (depth + 1) fuel _ (Nat.le_of_add_right_le hfuel)
        (stops_itemsChars h depth [] rest)
      exact items?_close hread (h.newline depth) before
  | cons next items ih =>
      have hread := hitem (depth + 1) fuel _ (Nat.le_of_add_right_le hfuel)
        (stops_itemsChars h depth (next :: items) rest)
      obtain ⟨hnext, hitems⟩ := List.forall_mem_cons.mp hitems
      simp only [itemsChars, List.length_cons, List.length_append] at hfuel
      obtain ⟨left, rfl, hleft⟩ : ∃ left, fuel = left + 1 ∧
          (next.chars layout (depth + 1)).length +
            (itemsChars layout (depth + 1) items).length ≤ left :=
        ⟨fuel - 1, by omega, by omega⟩
      rw [itemsChars, List.cons_append, List.append_assoc, List.append_assoc] at hread ⊢
      rw [items?_comma hread, items?_blanks (h.newline (depth + 1)),
        ih hnext hitems (item.toData :: before) hleft, List.reverse_cons, List.append_assoc,
        List.singleton_append, itemsData]

/-- The members of a table are read up to its end. -/
theorem members?_membersChars (h : layout.Blank) (key : String) {value : Json}
    {members : List (String × Json)} (hvalue : ReadsBack layout value)
    (hmembers : ∀ member ∈ members, ReadsBack layout member.2)
    {depth fuel : Nat} (before : List (Option String × Data)) (rest : List Char)
    (hfuel : (value.chars layout (depth + 1)).length +
      (membersChars layout (depth + 1) members).length ≤ fuel) :
    members? (fuel + 2) before (stringChars key ++ (layout.colon ++
      (value.chars layout (depth + 1) ++ (membersChars layout (depth + 1) members ++
        (layout.newline depth ++ '}' :: rest))))) =
      some (.table (before.reverse ++ (some key, value.toData) :: membersData members), rest) := by
  obtain ⟨blanks, hcolon, hblanks⟩ := h.colon
  rw [hcolon, List.cons_append]
  induction members generalizing key value before fuel with
  | nil =>
      have hread := hvalue (depth + 1) fuel _ (Nat.le_of_add_right_le hfuel)
        (stops_membersChars h depth [] rest)
      rw [← value?_blanks hblanks] at hread
      exact members?_close hread (h.newline depth) key before
  | cons next members ih =>
      have hread := hvalue (depth + 1) fuel _ (Nat.le_of_add_right_le hfuel)
        (stops_membersChars h depth (next :: members) rest)
      rw [← value?_blanks hblanks] at hread
      obtain ⟨hnext, hmembers⟩ := List.forall_mem_cons.mp hmembers
      simp only [membersChars, List.length_cons, List.length_append] at hfuel
      obtain ⟨left, rfl, hleft⟩ : ∃ left, fuel = left + 1 ∧
          (next.2.chars layout (depth + 1)).length +
            (membersChars layout (depth + 1) members).length ≤ left :=
        ⟨fuel - 1, by omega, by omega⟩
      simp only [membersChars, hcolon, List.cons_append, List.append_assoc] at hread ⊢
      rw [members?_comma hread, members?_blanks (h.newline (depth + 1)),
        ih next.1 hnext hmembers ((some key, value.toData) :: before) hleft, List.reverse_cons,
        List.append_assoc, List.singleton_append, membersData]

/-- Induction over values: a list and a table have what all of their items and members have. -/
theorem induction {motive : Json → Prop} (null : motive .null)
    (flag : ∀ value, motive (.flag value)) (whole : ∀ value, motive (.whole value))
    (text : ∀ value, motive (.text value))
    (list : ∀ items, (∀ item ∈ items, motive item) → motive (.list items))
    (table : ∀ members, (∀ member ∈ members, motive member.2) → motive (.table members)) :
    ∀ json, motive json
  | .null => null
  | .flag value => flag value
  | .whole value => whole value
  | .text value => text value
  | .list items => list items fun item _ => induction null flag whole text list table item
  | .table members =>
      table members fun member _ => induction null flag whole text list table member.2
termination_by json => sizeOf json
decreasing_by
  · have hitem := List.sizeOf_lt_of_mem ‹item ∈ items›
    rw [Json.list.sizeOf_spec]
    omega
  · obtain ⟨key, value⟩ := member
    have hmember := List.sizeOf_lt_of_mem ‹(key, value) ∈ members›
    rw [Prod.mk.sizeOf_spec] at hmember
    rw [Json.table.sizeOf_spec]
    show sizeOf value < _
    omega

/-- **A value is read as what was written.** -/
theorem readsBack (h : layout.Blank) (json : Json) : ReadsBack layout json := by
  induction json using induction <;> intro depth fuel rest hfuel hrest
  case null => rfl
  case flag value => cases value <;> rfl
  case whole value =>
    obtain ⟨c, tail, htail, hc⟩ := exists_wholeChars_eq_cons value
    have hnumber := number?_wholeChars value hrest
    rw [chars, toData]
    rw [htail, List.cons_append] at hnumber ⊢
    rw [value?_number hc, hnumber]
  case text value => exact value?_string value
  case list items ih =>
    cases items with
    | nil => rfl
    | cons item items =>
        obtain ⟨hitem, hitems⟩ := List.forall_mem_cons.mp ih
        simp only [chars, List.length_cons, List.length_append] at hfuel
        obtain ⟨left, rfl, hleft⟩ : ∃ left, fuel = left + 2 ∧
            (item.chars layout (depth + 1)).length +
              (itemsChars layout (depth + 1) items).length ≤ left :=
          ⟨fuel - 2, by omega, by omega⟩
        simp only [chars, List.cons_append, List.append_assoc, List.nil_append]
        rw [value?_list (h.newline (depth + 1)) ((begins_chars layout (depth + 1) item).append _)]
        exact items?_itemsChars h hitem hitems [] rest hleft
  case table members ih =>
    cases members with
    | nil => rfl
    | cons member members =>
        obtain ⟨hvalue, hmembers⟩ := List.forall_mem_cons.mp ih
        simp only [chars, List.length_cons, List.length_append] at hfuel
        obtain ⟨left, rfl, hleft⟩ : ∃ left, fuel = left + 2 ∧
            (member.2.chars layout (depth + 1)).length +
              (membersChars layout (depth + 1) members).length ≤ left :=
          ⟨fuel - 2, by omega, by omega⟩
        have hread := members?_membersChars h member.1 hvalue hmembers [] rest hleft
        simp only [chars, stringChars, List.cons_append, List.append_assoc, List.nil_append] at hread ⊢
        rw [value?_table (h.newline (depth + 1)), hread]
        rfl

/-! ## Documents -/

theorem read?_chars (h : layout.Blank) (json : Json) :
    read? (.ofList (json.chars layout 0)) = some json.toData := by
  have hread := readsBack h json 0 (2 * (json.chars layout 0).length + 1) [] (by omega) nofun
  rw [List.append_nil] at hread
  rw [read?, String.toList_ofList]
  simp only [hread]
  rfl

/-- **A document on one line is read as the value that was written.** -/
theorem read?_compact (json : Json) : read? json.compact = some json.toData :=
  read?_chars Layout.blank_compact json

/-- **A document laid out over lines is read as the value that was written.** -/
theorem read?_pretty (json : Json) : read? json.pretty = some json.toData :=
  read?_chars Layout.blank_pretty json

end Conformance.Json
