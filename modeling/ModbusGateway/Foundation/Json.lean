import Mathlib

/-!
# JSON texts

Compact printing and reading of JSON values, on lists of characters. Numbers
keep their text; what number it stands for is not decided here. Printing
escapes what the grammar requires and leaves all other characters alone; reading
takes white space and every escape but those of surrogates. What was printed is
read back.
-/
namespace Foundation

inductive Json where
  | null
  | bool (value : Bool)
  | number (text : List Char)
  | string (text : List Char)
  | array (items : List Json)
  | object (fields : List (List Char × Json))

namespace Json

/-! ### Printing -/

/-- The digit of a number below 16. -/
def hexChar (n : Nat) : Char := Nat.digitChar n

/-- A character inside a string. -/
def escape (c : Char) : List Char :=
  if c = '"' then ['\\', '"']
  else if c = '\\' then ['\\', '\\']
  else if c = '\n' then ['\\', 'n']
  else if c = '\r' then ['\\', 'r']
  else if c = '\t' then ['\\', 't']
  else if c = '\x08' then ['\\', 'b']
  else if c = '\x0c' then ['\\', 'f']
  -- The other control characters have no short form.
  else if c.toNat < 0x20 then
    ['\\', 'u', '0', '0', hexChar (c.toNat / 16), hexChar (c.toNat % 16)]
  else [c]

def quote (text : List Char) : List Char := '"' :: text.flatMap escape ++ ['"']

mutual

def print : Json → List Char
  | null => "null".toList
  | bool true => "true".toList
  | bool false => "false".toList
  | number text => text
  | string text => quote text
  | array items => '[' :: printItems items ++ [']']
  | object fields => '\x7b' :: printFields fields ++ ['\x7d']

def printItems : List Json → List Char
  | [] => []
  | [item] => item.print
  | item :: items => item.print ++ ',' :: printItems items

def printFields : List (List Char × Json) → List Char
  | [] => []
  | [(key, value)] => quote key ++ ':' :: value.print
  | (key, value) :: fields => quote key ++ ':' :: value.print ++ ',' :: printFields fields

end

theorem printItems_cons (item next : Json) (items : List Json) :
    printItems (item :: next :: items) = item.print ++ ',' :: printItems (next :: items) := by
  rw [printItems]
  nofun

theorem printFields_cons (key : List Char) (value : Json) (next : List Char × Json)
    (fields : List (List Char × Json)) :
    printFields ((key, value) :: next :: fields) =
      quote key ++ ':' :: value.print ++ ',' :: printFields (next :: fields) := by
  rw [printFields]
  nofun

/-! ### Reading -/

def isSpace (c : Char) : Bool := c = ' ' || c = '\t' || c = '\n' || c = '\r'

def skip (text : List Char) : List Char := text.dropWhile isSpace

/-- The characters of numbers. -/
def isNumberChar (c : Char) : Bool :=
  c.isDigit || c = '-' || c = '+' || c = '.' || c = 'e' || c = 'E'

def unescape (c : Char) : Option Char :=
  if c = '"' || c = '\\' || c = '/' then some c
  else if c = 'n' then some '\n'
  else if c = 'r' then some '\r'
  else if c = 't' then some '\t'
  else if c = 'b' then some '\x08'
  else if c = 'f' then some '\x0c'
  else none

def hexDigit (c : Char) : Option Nat :=
  if '0' ≤ c ∧ c ≤ '9' then some (c.toNat - '0'.toNat)
  else if 'a' ≤ c ∧ c ≤ 'f' then some (c.toNat - 'a'.toNat + 10)
  else if 'A' ≤ c ∧ c ≤ 'F' then some (c.toNat - 'A'.toNat + 10)
  else none

/-- Where the reader of a string is: between characters, behind a backslash, or in the four
digits of a code point. -/
inductive StringState where
  | plain
  | escaped
  | hex (left : Nat) (code : Nat)

/-- The rest of a string, and what follows it. -/
def readString : StringState → List Char → Option (List Char × List Char)
  | _, [] => none
  | .plain, c :: rest =>
    if c = '"' then some ([], rest)
    else if c = '\\' then readString .escaped rest
    -- A control character may only come escaped.
    else if c.toNat < 0x20 then none
    else (readString .plain rest).map fun (text, rest) => (c :: text, rest)
  | .escaped, c :: rest =>
    if c = 'u' then readString (.hex 4 0) rest
    else (unescape c).bind fun plain =>
      (readString .plain rest).map fun (text, rest) => (plain :: text, rest)
  | .hex left code, c :: rest =>
    (hexDigit c).bind fun digit =>
      let code := code * 16 + digit
      if left = 1 then
        if valid : code.isValidChar then
          (readString .plain rest).map fun (text, rest) => (Char.ofNatAux code valid :: text, rest)
        else none
      else readString (.hex (left - 1) code) rest

/-- A word of the grammar at the head of a text. -/
def readWord (word : List Char) (value : Json) (text : List Char) : Option (Json × List Char) :=
  if word.isPrefixOf text then some (value, text.drop word.length) else none

def readNumber (text : List Char) : Option (Json × List Char) :=
  match text.takeWhile isNumberChar with
  | [] => none
  | digits => some (.number digits, text.dropWhile isNumberChar)

mutual

/-- A value and what follows it; `fuel` bounds the depth of the calls. -/
def readValue : Nat → List Char → Option (Json × List Char)
  | 0, _ => none
  | fuel + 1, text =>
    match skip text with
    | [] => none
    | c :: rest =>
      if c = '"' then (readString .plain rest).map fun (text, rest) => (.string text, rest)
      else if c = '[' then
        -- Only an empty array may have its bracket where an item is due.
        if (skip rest).head? = some ']' then some (.array [], (skip rest).tail)
        else (readItems fuel rest).map fun (items, rest) => (.array items, rest)
      else if c = '\x7b' then
        if (skip rest).head? = some '\x7d' then some (.object [], (skip rest).tail)
        else (readFields fuel rest).map fun (fields, rest) => (.object fields, rest)
      else readWord "null".toList .null (c :: rest) <|>
        readWord "true".toList (.bool true) (c :: rest) <|>
        readWord "false".toList (.bool false) (c :: rest) <|> readNumber (c :: rest)

/-- The items of an array up to its end. -/
def readItems : Nat → List Char → Option (List Json × List Char)
  | 0, _ => none
  | fuel + 1, text => do
    let (item, rest) ← readValue fuel text
    match skip rest with
    | ',' :: rest => (readItems fuel rest).map fun (items, rest) => (item :: items, rest)
    | ']' :: rest => some ([item], rest)
    | _ => none

def readFields : Nat → List Char → Option (List (List Char × Json) × List Char)
  | 0, _ => none
  | fuel + 1, text =>
    match skip text with
    | '"' :: rest => do
      let (key, rest) ← readString .plain rest
      match skip rest with
      | ':' :: rest =>
        let (value, rest) ← readValue fuel rest
        match skip rest with
        | ',' :: rest =>
          (readFields fuel rest).map fun (fields, rest) => ((key, value) :: fields, rest)
        | '\x7d' :: rest => some ([(key, value)], rest)
        | _ => none
      | _ => none
    | _ => none

end

/-- The value of a whole text. -/
def parse (text : List Char) : Option Json :=
  match readValue text.length text with
  | some (value, rest) => if skip rest = [] then some value else none
  | none => none

/-! ### Strings -/

theorem hexDigit_hexChar : ∀ n < 16, hexDigit (hexChar n) = some n := by
  decide

theorem readString_digit {left code digit : Nat} {d : Char} (read : hexDigit d = some digit)
    (more : left ≠ 1) (rest : List Char) :
    readString (.hex left code) (d :: rest) =
      readString (.hex (left - 1) (code * 16 + digit)) rest := by
  rw [readString, read]
  exact if_neg more

theorem readString_last {code digit : Nat} {c d : Char} (read : hexDigit d = some digit)
    (whole : code * 16 + digit = c.toNat) (rest : List Char) :
    readString (.hex 1 code) (d :: rest) =
      (readString .plain rest).map fun (text, rest) => (c :: text, rest) := by
  have decoded (n : Nat) (same : n = c.toNat) :
      (if valid : n.isValidChar then
        (readString .plain rest).map fun (text, rest) => (Char.ofNatAux n valid :: text, rest)
      else none) = (readString .plain rest).map fun (text, rest) => (c :: text, rest) := by
    subst same
    exact dif_pos c.valid
  rw [readString, read]
  exact decoded _ whole

/-- An escaped character is read as itself. -/
theorem readString_escape (c : Char) (rest : List Char) :
    readString .plain (escape c ++ rest) =
      (readString .plain rest).map fun (text, rest) => (c :: text, rest) := by
  unfold escape
  split_ifs with quotes backslash newline return' tab backspace feed control
  · subst quotes
    rfl
  · subst backslash
    rfl
  · subst newline
    rfl
  · subst return'
    rfl
  · subst tab
    rfl
  · subst backspace
    rfl
  · subst feed
    rfl
  · have high := hexDigit_hexChar (c.toNat / 16) (by omega)
    have low := hexDigit_hexChar (c.toNat % 16) (Nat.mod_lt _ (by decide))
    have zero : hexDigit '0' = some 0 := by decide
    show readString (.hex 4 0)
      ('0' :: '0' :: hexChar (c.toNat / 16) :: hexChar (c.toNat % 16) :: rest) = _
    rw [readString_digit zero (by decide), readString_digit zero (by decide),
      readString_digit high (by decide)]
    exact readString_last low (by omega) rest
  · simp [readString, quotes, backslash, control]

theorem readString_quote (text rest : List Char) :
    readString .plain (text.flatMap escape ++ '"' :: rest) = some (text, rest) := by
  induction text with
  | nil => rfl
  | cons c text ih =>
    rw [List.flatMap_cons, List.append_assoc, readString_escape, ih]
    rfl

/-! ### Reading what was printed -/

/-- A text that is read as one number. -/
def IsNumber (text : List Char) : Prop := text ≠ [] ∧ ∀ c ∈ text, isNumberChar c = true

instance (text : List Char) : Decidable (IsNumber text) :=
  decidable_of_iff ((!text.isEmpty && text.all isNumberChar) = true) (by simp [IsNumber])

mutual

/-- The numbers of a value are texts of numbers. -/
def Numeric : Json → Prop
  | null | bool _ | string _ => True
  | number text => IsNumber text
  | array items => ItemsNumeric items
  | object fields => FieldsNumeric fields

def ItemsNumeric : List Json → Prop
  | [] => True
  | item :: items => item.Numeric ∧ ItemsNumeric items

def FieldsNumeric : List (List Char × Json) → Prop
  | [] => True
  | (_, value) :: fields => value.Numeric ∧ FieldsNumeric fields

end

theorem numeric_array {items : List Json} (numeric : ∀ item ∈ items, item.Numeric) :
    (array items).Numeric := by
  rw [Numeric]
  induction items with
  | nil => trivial
  | cons item items ih =>
    rw [ItemsNumeric]
    exact ⟨numeric item List.mem_cons_self,
      ih fun item member => numeric item (List.mem_cons_of_mem _ member)⟩

/-- A number ends before this text. -/
def EndsNumber (rest : List Char) : Prop := ∀ c ∈ rest.head?, isNumberChar c = false

theorem endsNumber_cons {c : Char} (mark : isNumberChar c = false) (rest : List Char) :
    EndsNumber (c :: rest) := by
  rintro _ ⟨⟩
  exact mark

/-- No white space, and not the end of an array. -/
structure Begins (c : Char) : Prop where
  notSpace : isSpace c = false
  notBracket : c ≠ ']'

theorem isNumberChar.begins {c : Char} (digit : isNumberChar c = true) :
    Begins c ∧ c ≠ '"' ∧ c ≠ '[' ∧ c ≠ '\x7b' ∧ c ≠ 'n' ∧ c ≠ 't' ∧ c ≠ 'f' := by
  refine ⟨⟨?_, ?_⟩, ?_, ?_, ?_, ?_, ?_, ?_⟩
  · by_contra space
    simp only [isSpace, Bool.not_eq_false, Bool.or_eq_true, decide_eq_true_eq] at space
    rcases space with ((rfl | rfl) | rfl) | rfl <;> exact absurd digit (by decide)
  all_goals
    rintro rfl
    exact absurd digit (by decide)

theorem print_begins {value : Json} (numeric : value.Numeric) :
    ∃ c text, value.print = c :: text ∧ Begins c := by
  cases value with
  | null => exact ⟨'n', _, rfl, by decide, by decide⟩
  | bool value => cases value <;> exact ⟨_, _, rfl, by decide, by decide⟩
  | number text =>
    rw [Numeric] at numeric
    obtain ⟨nonempty, digits⟩ := numeric
    obtain ⟨c, text, rfl⟩ := List.exists_cons_of_ne_nil nonempty
    exact ⟨c, text, by rw [print], (isNumberChar.begins (digits c List.mem_cons_self)).1⟩
  | string text => exact ⟨'"', _, by rw [print]; rfl, by decide, by decide⟩
  | array items => exact ⟨'[', _, by rw [print]; rfl, by decide, by decide⟩
  | object fields => exact ⟨'\x7b', _, by rw [print]; rfl, by decide, by decide⟩

theorem printItems_begins {item : Json} (numeric : item.Numeric) (items : List Json) :
    ∃ c text, printItems (item :: items) = c :: text ∧ Begins c := by
  obtain ⟨c, text, shape, begins⟩ := print_begins numeric
  cases items with
  | nil => exact ⟨c, text, by rw [printItems, shape], begins⟩
  | cons next items => exact ⟨c, _, by rw [printItems_cons, shape, List.cons_append], begins⟩

theorem printFields_begins (field : List Char × Json) (fields : List (List Char × Json)) :
    ∃ text, printFields (field :: fields) = '"' :: text := by
  obtain ⟨key, value⟩ := field
  cases fields with
  | nil => exact ⟨_, by rw [printFields, quote]; rfl⟩
  | cons next fields => exact ⟨_, by rw [printFields_cons, quote]; rfl⟩

theorem skip_of_not_space {c : Char} (text : List Char) (begins : isSpace c = false) :
    skip (c :: text) = c :: text :=
  List.dropWhile_cons_of_neg (by simp [begins])

theorem readNumber_of_endsNumber {text rest : List Char} (digits : IsNumber text)
    (stops : EndsNumber rest) : readNumber (text ++ rest) = some (.number text, rest) := by
  have taken : (text ++ rest).takeWhile isNumberChar = text := by
    rw [List.takeWhile_append_of_pos digits.2]
    cases rest with
    | nil => simp
    | cons c rest => simp [stops c rfl]
  have left : (text ++ rest).dropWhile isNumberChar = rest := by
    rw [List.dropWhile_append_of_pos digits.2]
    cases rest with
    | nil => simp
    | cons c rest => simp [stops c rfl]
  obtain ⟨c, text, rfl⟩ := List.exists_cons_of_ne_nil digits.1
  rw [readNumber, taken, left]

/-- What fits into the fuel is read back. -/
structure Reads (fuel : Nat) : Prop where
  value : ∀ (value : Json) (rest : List Char), value.Numeric → value.print.length ≤ fuel →
    EndsNumber rest → readValue fuel (value.print ++ rest) = some (value, rest)
  items : ∀ (item : Json) (items : List Json) (rest : List Char), ItemsNumeric (item :: items) →
    (printItems (item :: items)).length < fuel →
    readItems fuel (printItems (item :: items) ++ ']' :: rest) = some (item :: items, rest)
  fields : ∀ (field : List Char × Json) (fields : List (List Char × Json)) (rest : List Char),
    FieldsNumeric (field :: fields) → (printFields (field :: fields)).length < fuel →
    readFields fuel (printFields (field :: fields) ++ '\x7d' :: rest) =
      some (field :: fields, rest)

theorem readValue_print {fuel : Nat} (reads : Reads fuel) (value : Json) (rest : List Char)
    (numeric : value.Numeric) (fits : value.print.length ≤ fuel + 1) (stops : EndsNumber rest) :
    readValue (fuel + 1) (value.print ++ rest) = some (value, rest) := by
  cases value with
  | null =>
    rw [print]
    rfl
  | bool value => cases value <;> rfl
  | number text =>
    rw [Numeric] at numeric
    have number := readNumber_of_endsNumber numeric stops
    obtain ⟨c, text, rfl⟩ := List.exists_cons_of_ne_nil numeric.1
    -- What begins a number begins no other value.
    obtain ⟨begins, quote, bracket, brace, null, true', false'⟩ :=
      isNumberChar.begins (numeric.2 c List.mem_cons_self)
    rw [print, List.cons_append, readValue, skip_of_not_space _ begins.notSpace]
    rw [List.cons_append] at number
    simp [quote, bracket, brace, readWord, null.symm, true'.symm, false'.symm, number]
  | string text =>
    have string := readString_quote text rest
    rw [print, readValue, quote, List.append_assoc, List.cons_append,
      skip_of_not_space _ (by decide)]
    simp [string]
  | array items =>
    rw [Numeric] at numeric
    rw [print] at fits ⊢
    cases items with
    | nil => rfl
    | cons item items =>
      have list := reads.items item items rest numeric (by simp at fits; omega)
      rw [ItemsNumeric] at numeric
      -- Its first item does not begin like the end of the array.
      obtain ⟨c, text, shape, begins⟩ := printItems_begins numeric.1 items
      rw [List.cons_append, List.cons_append, List.append_assoc, List.singleton_append, readValue,
        skip_of_not_space _ (by decide)]
      rw [shape, List.cons_append] at list ⊢
      have opened := skip_of_not_space (text ++ ']' :: rest) begins.notSpace
      simp [opened, begins.notBracket, list]
  | object fields =>
    rw [Numeric] at numeric
    rw [print] at fits ⊢
    cases fields with
    | nil => rfl
    | cons field fields =>
      have list := reads.fields field fields rest numeric (by simp at fits; omega)
      obtain ⟨text, shape⟩ := printFields_begins field fields
      rw [List.cons_append, List.cons_append, List.append_assoc, List.singleton_append, readValue,
        skip_of_not_space _ (by decide)]
      rw [shape, List.cons_append] at list ⊢
      simp [skip_of_not_space, isSpace, list]

theorem readItems_print {fuel : Nat} (reads : Reads fuel) (item : Json) (items : List Json)
    (rest : List Char) (numeric : ItemsNumeric (item :: items))
    (fits : (printItems (item :: items)).length < fuel + 1) :
    readItems (fuel + 1) (printItems (item :: items) ++ ']' :: rest) =
      some (item :: items, rest) := by
  rw [ItemsNumeric] at numeric
  obtain ⟨c, text, shape, _⟩ := print_begins numeric.1
  cases items with
  | nil =>
    rw [printItems] at fits ⊢
    have first := reads.value item (']' :: rest) numeric.1 (by omega)
      (endsNumber_cons (by decide) _)
    rw [readItems, first]
    rfl
  | cons next items =>
    rw [printItems_cons] at fits ⊢
    simp only [List.length_append, List.length_cons, shape] at fits
    have first := reads.value item (',' :: (printItems (next :: items) ++ ']' :: rest)) numeric.1
      (by simp [shape]; omega) (endsNumber_cons (by decide) _)
    have others := reads.items next items rest numeric.2 (by omega)
    rw [List.append_assoc, List.cons_append, readItems, first]
    simp [skip_of_not_space, isSpace, others]

theorem readFields_print {fuel : Nat} (reads : Reads fuel) (field : List Char × Json)
    (fields : List (List Char × Json)) (rest : List Char)
    (numeric : FieldsNumeric (field :: fields))
    (fits : (printFields (field :: fields)).length < fuel + 1) :
    readFields (fuel + 1) (printFields (field :: fields) ++ '\x7d' :: rest) =
      some (field :: fields, rest) := by
  obtain ⟨key, value⟩ := field
  rw [FieldsNumeric] at numeric
  cases fields with
  | nil =>
    rw [printFields] at fits ⊢
    simp only [quote, List.length_append, List.length_cons] at fits
    have name := readString_quote key (':' :: (value.print ++ '\x7d' :: rest))
    have last := reads.value value ('\x7d' :: rest) numeric.1 (by omega)
      (endsNumber_cons (by decide) _)
    simp [quote, readFields, skip_of_not_space, isSpace, name, last]
  | cons next fields =>
    rw [printFields_cons] at fits ⊢
    simp only [quote, List.length_append, List.length_cons] at fits
    have name := readString_quote key
      (':' :: (value.print ++ ',' :: (printFields (next :: fields) ++ '\x7d' :: rest)))
    have first := reads.value value (',' :: (printFields (next :: fields) ++ '\x7d' :: rest))
      numeric.1 (by omega) (endsNumber_cons (by decide) _)
    have others := reads.fields next fields rest numeric.2 (by omega)
    simp [quote, readFields, skip_of_not_space, isSpace, name, first, others]

theorem reads (fuel : Nat) : Reads fuel := by
  induction fuel with
  | zero =>
    refine ⟨?_, ?_, ?_⟩
    · intro value rest numeric fits
      obtain ⟨c, text, shape, _⟩ := print_begins numeric
      simp [shape] at fits
    · intro item items rest numeric fits
      omega
    · intro field fields rest numeric fits
      omega
  | succ fuel ih => exact ⟨readValue_print ih, readItems_print ih, readFields_print ih⟩

/-- A printed value is read back. -/
theorem parse_print {value : Json} (numeric : value.Numeric) :
    parse value.print = some value := by
  have whole := (reads value.print.length).value value [] numeric le_rfl nofun
  rw [List.append_nil] at whole
  rw [parse, whole]
  rfl

end Json

end Foundation
