import Mathlib.Data.List.Basic
import Sawang.Foundation.Json

/-!
# Unformatted JSON text

A printer without white space and a recursive-descent parser for what it
prints.  Reading a printed tree gives the tree back, so printing is injective.

The parser carries fuel.  A text of length `n` never needs more than `n + 1`
nested calls, which is what `parse` supplies.
-/

namespace JsonText

/-! ## Printing -/

/-- A digit of a `\u` escape. -/
def hexDigit (value : Nat) : Char :=
  if value < 10 then Char.ofNat (48 + value) else Char.ofNat (87 + value)

/-- The characters a string literal holds for one character of the string. -/
def escapeChar (letter : Char) : List Char :=
  if letter = '"' then ['\\', '"']
  else if letter = '\\' then ['\\', '\\']
  else if letter.toNat = 8 then ['\\', 'b']
  else if letter.toNat = 12 then ['\\', 'f']
  else if letter.toNat = 10 then ['\\', 'n']
  else if letter.toNat = 13 then ['\\', 'r']
  else if letter.toNat = 9 then ['\\', 't']
  else if letter.toNat < 32 then
    ['\\', 'u', '0', '0', hexDigit (letter.toNat / 16), hexDigit (letter.toNat % 16)]
  else [letter]

/-- A string literal with its quotes. -/
def printString (value : String) : List Char :=
  '"' :: (value.toList.flatMap escapeChar ++ ['"'])

def printInt : Int → List Char
  | .ofNat value => Nat.toDigits 10 value
  | .negSucc value => '-' :: Nat.toDigits 10 (value + 1)

/-- A numeral: the mantissa, and the exponent unless it is zero. -/
def printNumber (mantissa exponent : Int) : List Char :=
  if exponent = 0 then printInt mantissa
  else printInt mantissa ++ 'e' :: printInt exponent

mutual

def printValue : Json → List Char
  | .null => ['n', 'u', 'l', 'l']
  | .bool true => ['t', 'r', 'u', 'e']
  | .bool false => ['f', 'a', 'l', 's', 'e']
  | .number mantissa exponent => printNumber mantissa exponent
  | .string value => printString value
  | .array items => '[' :: (printItems items ++ [']'])
  | .object members => '{' :: (printMembers members ++ ['}'])

def printItems : List Json → List Char
  | [] => []
  | item :: rest =>
      match rest with
      | [] => printValue item
      | _ :: _ => printValue item ++ ',' :: printItems rest

def printMembers : List (String × Json) → List Char
  | [] => []
  | (name, value) :: rest =>
      match rest with
      | [] => printString name ++ ':' :: printValue value
      | _ :: _ =>
          printString name ++ ':' :: (printValue value ++ ',' :: printMembers rest)

end

/-! ## Parsing -/

def hexValue (digit : Char) : Nat :=
  if digit.toNat < 58 then digit.toNat - 48 else digit.toNat - 87

/-- The character an escape sequence stands for, and the text after it; the
backslash has been read. -/
def parseEscape : List Char → Option (Char × List Char)
  | '"' :: rest => some ('"', rest)
  | '\\' :: rest => some ('\\', rest)
  | 'b' :: rest => some (Char.ofNat 8, rest)
  | 'f' :: rest => some (Char.ofNat 12, rest)
  | 'n' :: rest => some (Char.ofNat 10, rest)
  | 'r' :: rest => some (Char.ofNat 13, rest)
  | 't' :: rest => some (Char.ofNat 9, rest)
  | 'u' :: a :: b :: c :: d :: rest =>
      some (Char.ofNat (hexValue a * 4096 + hexValue b * 256 + hexValue c * 16 + hexValue d), rest)
  | _ => none

/-- The inside of a string literal up to its closing quote. -/
def parseChars : Nat → List Char → Option (List Char × List Char)
  | 0, _ => none
  | fuel + 1, text =>
      match text with
      | [] => none
      | '"' :: rest => some ([], rest)
      | '\\' :: rest =>
          match parseEscape rest with
          | some (letter, rest) =>
              (parseChars fuel rest).map fun parsed => (letter :: parsed.1, parsed.2)
          | none => none
      | letter :: rest =>
          (parseChars fuel rest).map fun parsed => (letter :: parsed.1, parsed.2)

def parseString (fuel : Nat) (text : List Char) : Option (String × List Char) :=
  (parseChars fuel text).map fun parsed => (String.ofList parsed.1, parsed.2)

/-- A non-empty run of decimal digits. -/
def parseDigits (text : List Char) : Option (Nat × List Char) :=
  match text.takeWhile Char.isDigit with
  | [] => none
  | digits => some (Nat.ofDigitChars 10 digits 0, text.dropWhile Char.isDigit)

def parseInt (text : List Char) : Option (Int × List Char) :=
  match text with
  | '-' :: rest => (parseDigits rest).map fun parsed => (-(parsed.1 : Int), parsed.2)
  | _ => (parseDigits text).map fun parsed => ((parsed.1 : Int), parsed.2)

def parseNumber (text : List Char) : Option (Json × List Char) :=
  match parseInt text with
  | some (mantissa, 'e' :: rest) =>
      (parseInt rest).map fun parsed => (.number mantissa parsed.1, parsed.2)
  | some (mantissa, rest) => some (.number mantissa 0, rest)
  | none => none

mutual

def parseValue : Nat → List Char → Option (Json × List Char)
  | 0, _ => none
  | fuel + 1, text =>
      match text with
      | 'n' :: 'u' :: 'l' :: 'l' :: rest => some (.null, rest)
      | 't' :: 'r' :: 'u' :: 'e' :: rest => some (.bool true, rest)
      | 'f' :: 'a' :: 'l' :: 's' :: 'e' :: rest => some (.bool false, rest)
      | '"' :: rest =>
          (parseString fuel rest).map fun parsed => (.string parsed.1, parsed.2)
      | '[' :: ']' :: rest => some (.array [], rest)
      | '[' :: rest =>
          (parseItems fuel rest).map fun parsed => (.array parsed.1, parsed.2)
      | '{' :: '}' :: rest => some (.object [], rest)
      | '{' :: rest =>
          (parseMembers fuel rest).map fun parsed => (.object parsed.1, parsed.2)
      | _ => parseNumber text

/-- The items of a non-empty array up to its closing bracket. -/
def parseItems : Nat → List Char → Option (List Json × List Char)
  | 0, _ => none
  | fuel + 1, text =>
      match parseValue fuel text with
      | some (item, ',' :: rest) =>
          (parseItems fuel rest).map fun parsed => (item :: parsed.1, parsed.2)
      | some (item, ']' :: rest) => some ([item], rest)
      | _ => none

/-- The members of a non-empty object up to its closing brace. -/
def parseMembers : Nat → List Char → Option (List (String × Json) × List Char)
  | 0, _ => none
  | fuel + 1, text =>
      match text with
      | '"' :: named =>
          match parseString fuel named with
          | some (name, ':' :: valued) =>
              match parseValue fuel valued with
              | some (value, ',' :: rest) =>
                  (parseMembers fuel rest).map fun parsed =>
                    ((name, value) :: parsed.1, parsed.2)
              | some (value, '}' :: rest) => some ([(name, value)], rest)
              | _ => none
          | _ => none
      | _ => none

end

/-- The unformatted text of a tree. -/
def print (tree : Json) : String := String.ofList (printValue tree)

/-- Read a tree at the start of a text. -/
def parse (text : String) : Option Json :=
  (parseValue (text.toList.length + 1) text.toList).map Prod.fst

/-! ## Reading back -/

/-- The text after a numeral does not go on with the numeral. -/
def EndsNumeral (rest : List Char) : Prop :=
  ∀ letter ∈ rest.head?, letter.isDigit = false ∧ letter ≠ 'e'

theorem endsNumeral_cons {letter : Char} {rest : List Char}
    (notDigit : letter.isDigit = false) (notExponent : letter ≠ 'e') :
    EndsNumeral (letter :: rest) := by
  intro head member
  cases member
  exact ⟨notDigit, notExponent⟩

private theorem hexValue_hexDigit :
    ∀ value < 16, hexValue (hexDigit value) = value := by
  decide

private theorem parseChars_escapeChar
    (fuel : Nat) (letter : Char) (rest : List Char) :
    parseChars (fuel + 1) (escapeChar letter ++ rest) =
      (parseChars fuel rest).map
        fun parsed => (letter :: parsed.1, parsed.2) := by
  have restore : ∀ code, letter.toNat = code → letter = Char.ofNat code := by
    intro code equal
    rw [← equal, Char.ofNat_toNat]
  unfold escapeChar
  split_ifs with quote backslash backspace formFeed lineFeed carriage tab small
  · rw [quote]
    rfl
  · rw [backslash]
    rfl
  · rw [restore _ backspace]
    rfl
  · rw [restore _ formFeed]
    rfl
  · rw [restore _ lineFeed]
    rfl
  · rw [restore _ carriage]
    rfl
  · rw [restore _ tab]
    rfl
  · have code :
        hexValue '0' * 4096 + hexValue '0' * 256 +
            hexValue (hexDigit (letter.toNat / 16)) * 16 +
          hexValue (hexDigit (letter.toNat % 16)) = letter.toNat := by
      rw [hexValue_hexDigit _ (by omega), hexValue_hexDigit _ (by omega)]
      have zero : hexValue '0' = 0 := by decide
      omega
    simp only [List.cons_append, List.nil_append, parseChars, parseEscape,
      code, Char.ofNat_toNat]
  · simp [parseChars]

private theorem parseChars_literal (letters : List Char) :
    ∀ (fuel : Nat) (rest : List Char), letters.length < fuel →
      parseChars fuel (letters.flatMap escapeChar ++ '"' :: rest) =
        some (letters, rest) := by
  induction letters with
  | nil =>
      intro fuel rest enough
      cases fuel with
      | zero => simp at enough
      | succ fuel => simp [parseChars]
  | cons letter letters inductionHypothesis =>
      intro fuel rest enough
      cases fuel with
      | zero => simp at enough
      | succ fuel =>
          rw [List.flatMap_cons, List.append_assoc, parseChars_escapeChar,
            inductionHypothesis fuel rest (by simpa using enough)]
          rfl

private theorem length_le_length_flatMap_escapeChar (letters : List Char) :
    letters.length ≤ (letters.flatMap escapeChar).length := by
  induction letters with
  | nil => simp
  | cons letter letters inductionHypothesis =>
      have positive : 1 ≤ (escapeChar letter).length := by
        unfold escapeChar
        repeat' split
        all_goals simp
      simp only [List.flatMap_cons, List.length_cons, List.length_append]
      omega

private theorem parseString_printString
    (value : String) (fuel : Nat) (rest : List Char)
    (enough : (printString value).length ≤ fuel + 1) :
    parseString fuel (value.toList.flatMap escapeChar ++ '"' :: rest) =
      some (value, rest) := by
  have bound := length_le_length_flatMap_escapeChar value.toList
  have short : value.toList.length < fuel := by
    simp only [printString, List.length_cons, List.length_append,
      List.length_nil] at enough
    omega
  simp [parseString, parseChars_literal value.toList fuel rest short]

private theorem parseDigits_toDigits
    (value : Nat) {rest : List Char}
    (ends : ∀ letter ∈ rest.head?, letter.isDigit = false) :
    parseDigits (Nat.toDigits 10 value ++ rest) = some (value, rest) := by
  have digits : ∀ letter ∈ Nat.toDigits 10 value, letter.isDigit = true := by
    intro letter member
    exact Nat.isDigit_of_mem_toDigits (by decide) (by decide) member
  have stop : rest.takeWhile Char.isDigit = [] := by
    cases rest with
    | nil => rfl
    | cons head tail =>
        simp [ends head rfl]
  have stay : rest.dropWhile Char.isDigit = rest := by
    cases rest with
    | nil => rfl
    | cons head tail =>
        simp [ends head rfl]
  have taken :
      (Nat.toDigits 10 value ++ rest).takeWhile Char.isDigit =
        Nat.toDigits 10 value := by
    rw [List.takeWhile_append_of_pos digits, stop, List.append_nil]
  have dropped :
      (Nat.toDigits 10 value ++ rest).dropWhile Char.isDigit = rest := by
    rw [List.dropWhile_append_of_pos digits, stay]
  unfold parseDigits
  rw [taken, dropped]
  split
  · rename_i empty
    exact absurd empty Nat.toDigits_ne_nil
  · simp

private theorem head_toDigits_ne_minus (value : Nat) (rest : List Char) :
    ∀ tail, Nat.toDigits 10 value ++ rest ≠ '-' :: tail := by
  intro tail equal
  cases shape : Nat.toDigits 10 value with
  | nil => exact Nat.toDigits_ne_nil shape
  | cons head digits =>
      have digit : head.isDigit = true :=
        Nat.isDigit_of_mem_toDigits (b := 10) (n := value) (by decide) (by decide)
          (by rw [shape]; exact List.mem_cons_self)
      rw [shape, List.cons_append] at equal
      injection equal with headEqual _
      subst headEqual
      exact absurd digit (by decide)

private theorem parseInt_printInt
    (value : Int) {rest : List Char}
    (ends : ∀ letter ∈ rest.head?, letter.isDigit = false) :
    parseInt (printInt value ++ rest) = some (value, rest) := by
  cases value with
  | ofNat value =>
      unfold parseInt
      split
      · rename_i tail equal
        exact absurd equal (head_toDigits_ne_minus value rest tail)
      · simp [printInt, parseDigits_toDigits value ends]
  | negSucc value =>
      simp only [printInt, List.cons_append, parseInt,
        parseDigits_toDigits (value + 1) ends, Option.map_some]
      rfl

private theorem parseNumber_printNumber
    (mantissa exponent : Int) {rest : List Char} (ends : EndsNumeral rest) :
    parseNumber (printNumber mantissa exponent ++ rest) =
      some (.number mantissa exponent, rest) := by
  have noDigit : ∀ letter ∈ rest.head?, letter.isDigit = false :=
    fun letter member => (ends letter member).1
  unfold printNumber
  split
  · rename_i zero
    unfold parseNumber
    rw [parseInt_printInt mantissa noDigit]
    split
    · rename_i tail equal
      cases equal
      exact absurd rfl (ends 'e' rfl).2
    · rename_i equal
      cases equal
      rw [zero]
    · rename_i equal
      cases equal
  · rw [List.append_assoc, List.cons_append]
    unfold parseNumber
    rw [parseInt_printInt mantissa (by
      intro letter member
      cases member
      decide)]
    simp [parseInt_printInt exponent noDigit]

/-- Numerals start with a digit or a minus sign. -/
private theorem printInt_head (value : Int) :
    ∃ head tail, printInt value = head :: tail ∧
      (head.isDigit = true ∨ head = '-') := by
  cases value with
  | ofNat value =>
      cases shape : Nat.toDigits 10 value with
      | nil => exact absurd shape Nat.toDigits_ne_nil
      | cons head tail =>
          have digit : head.isDigit = true :=
            Nat.isDigit_of_mem_toDigits (b := 10) (n := value)
              (by decide) (by decide) (by rw [shape]; exact List.mem_cons_self)
          exact ⟨head, tail, shape, Or.inl digit⟩
  | negSucc value => exact ⟨'-', _, rfl, Or.inr rfl⟩

private theorem printNumber_head (mantissa exponent : Int) :
    ∃ head tail, printNumber mantissa exponent = head :: tail ∧
      (head.isDigit = true ∨ head = '-') := by
  obtain ⟨head, tail, shape, kind⟩ := printInt_head mantissa
  unfold printNumber
  split
  · exact ⟨head, tail, shape, kind⟩
  · exact ⟨head, tail ++ 'e' :: printInt exponent, by rw [shape]; rfl, kind⟩

private theorem printValue_head (tree : Json) :
    ∃ head tail, printValue tree = head :: tail ∧ head ≠ ']' := by
  cases tree with
  | null => exact ⟨_, _, rfl, by decide⟩
  | bool value => cases value <;> exact ⟨_, _, rfl, by decide⟩
  | number mantissa exponent =>
      obtain ⟨head, tail, shape, kind⟩ := printNumber_head mantissa exponent
      refine ⟨head, tail, shape, ?_⟩
      rintro rfl
      rcases kind with digit | minus
      · exact absurd digit (by decide)
      · exact absurd minus (by decide)
  | string value => exact ⟨_, _, rfl, by decide⟩
  | array items => exact ⟨_, _, rfl, by decide⟩
  | object members => exact ⟨_, _, rfl, by decide⟩

private theorem printItems_head (item : Json) (rest : List Json) :
    ∃ head tail, printItems (item :: rest) = head :: tail ∧ head ≠ ']' := by
  obtain ⟨head, tail, shape, notBracket⟩ := printValue_head item
  cases rest with
  | nil => exact ⟨head, tail, by rw [printItems, shape], notBracket⟩
  | cons next rest =>
      exact ⟨head, tail ++ ',' :: printItems (next :: rest),
        by rw [printItems, shape]; rfl, notBracket⟩

private theorem parseValue_numeral
    (fuel : Nat) {head : Char} (tail : List Char)
    (kind : head.isDigit = true ∨ head = '-') :
    parseValue (fuel + 1) (head :: tail) = parseNumber (head :: tail) := by
  have other : ∀ letter : Char,
      letter.isDigit = false → letter ≠ '-' → head ≠ letter := by
    rintro letter notDigit notMinus rfl
    rcases kind with digit | minus
    · rw [notDigit] at digit
      cases digit
    · exact notMinus minus
  -- the last equation of `parseValue` applies: no other first letter fits
  rw [parseValue]
  all_goals
    intro rest equal
    injection equal with headEqual _
    exact other _ (by decide) (by decide) headEqual

/-- What the three mutual parsers read back at one fuel. -/
private structure ReadsBack (fuel : Nat) : Prop where
  value : ∀ (tree : Json) (rest : List Char), EndsNumeral rest →
    (printValue tree).length < fuel →
    parseValue fuel (printValue tree ++ rest) = some (tree, rest)
  items : ∀ (item : Json) (items : List Json) (rest : List Char),
    (printItems (item :: items)).length + 1 < fuel →
    parseItems fuel (printItems (item :: items) ++ ']' :: rest) =
      some (item :: items, rest)
  members : ∀ (member : String × Json) (members : List (String × Json))
    (rest : List Char),
    (printMembers (member :: members)).length + 1 < fuel →
    parseMembers fuel (printMembers (member :: members) ++ '}' :: rest) =
      some (member :: members, rest)

private theorem parseValue_printValue_succ
    {fuel : Nat} (below : ReadsBack fuel)
    (tree : Json) (rest : List Char) (ends : EndsNumeral rest)
    (enough : (printValue tree).length < fuel + 1) :
    parseValue (fuel + 1) (printValue tree ++ rest) = some (tree, rest) := by
  cases tree with
  | null => simp [printValue, parseValue]
  | bool value => cases value <;> simp [printValue, parseValue]
  | number mantissa exponent =>
      obtain ⟨head, tail, shape, kind⟩ := printNumber_head mantissa exponent
      have numeral := parseNumber_printNumber mantissa exponent ends
      rw [shape, List.cons_append] at numeral
      rw [printValue, shape, List.cons_append, parseValue_numeral fuel _ kind]
      exact numeral
  | string value =>
      have inner := parseString_printString value fuel rest (by
        rw [printValue] at enough
        omega)
      simp [printValue, printString, parseValue, inner]
  | array items =>
      cases items with
      | nil => simp [printValue, printItems, parseValue]
      | cons item items =>
          obtain ⟨head, tail, shape, notBracket⟩ := printItems_head item items
          have inner := below.items item items rest (by
            simp only [printValue, List.length_cons, List.length_append,
              List.length_nil] at enough
            omega)
          rw [printValue, List.cons_append, List.append_assoc,
            List.singleton_append]
          rw [shape, List.cons_append] at inner ⊢
          rw [parseValue]
          · rw [inner]
            rfl
          · intro rest equal
            injection equal with headEqual _
            exact notBracket headEqual
  | object members =>
      cases members with
      | nil => simp [printValue, printMembers, parseValue]
      | cons member members =>
          have inner := below.members member members rest (by
            simp only [printValue, List.length_cons, List.length_append,
              List.length_nil] at enough
            omega)
          obtain ⟨tail, shape⟩ :
              ∃ tail, printMembers (member :: members) = '"' :: tail := by
            obtain ⟨name, value⟩ := member
            cases members <;> exact ⟨_, rfl⟩
          rw [printValue, List.cons_append, List.append_assoc,
            List.singleton_append]
          rw [shape, List.cons_append] at inner ⊢
          rw [parseValue]
          · rw [inner]
            rfl
          · intro rest equal
            injection equal with headEqual _
            exact absurd headEqual (by decide)

private theorem parseItems_printItems_succ
    {fuel : Nat} (below : ReadsBack fuel)
    (item : Json) (items : List Json) (rest : List Char)
    (enough : (printItems (item :: items)).length + 1 < fuel + 1) :
    parseItems (fuel + 1) (printItems (item :: items) ++ ']' :: rest) =
      some (item :: items, rest) := by
  cases items with
  | nil =>
      have inner := below.value item (']' :: rest)
        (endsNumeral_cons (by decide) (by decide)) (by
          rw [printItems] at enough
          omega)
      simp [printItems, parseItems, inner]
  | cons next items =>
      rw [printItems] at enough ⊢
      simp only [List.length_append, List.length_cons] at enough
      have first := below.value item (',' :: (printItems (next :: items) ++ ']' :: rest))
        (endsNumeral_cons (by decide) (by decide)) (by omega)
      have others := below.items next items rest (by omega)
      rw [List.append_assoc, List.cons_append, parseItems, first]
      simp only [others, Option.map_some]

private theorem parseMembers_printMembers_succ
    {fuel : Nat} (below : ReadsBack fuel)
    (member : String × Json) (members : List (String × Json)) (rest : List Char)
    (enough : (printMembers (member :: members)).length + 1 < fuel + 1) :
    parseMembers (fuel + 1) (printMembers (member :: members) ++ '}' :: rest) =
      some (member :: members, rest) := by
  obtain ⟨name, value⟩ := member
  cases members with
  | nil =>
      rw [printMembers] at enough ⊢
      simp only [List.length_append, List.length_cons] at enough
      have named := parseString_printString name fuel
        (':' :: (printValue value ++ '}' :: rest)) (by omega)
      have valued := below.value value ('}' :: rest)
        (endsNumeral_cons (by decide) (by decide)) (by omega)
      simp [printString, parseMembers, named, valued]
  | cons next members =>
      rw [printMembers] at enough ⊢
      simp only [List.length_append, List.length_cons] at enough
      have named := parseString_printString name fuel
        (':' :: (printValue value ++
          ',' :: (printMembers (next :: members) ++ '}' :: rest))) (by omega)
      have valued := below.value value
        (',' :: (printMembers (next :: members) ++ '}' :: rest))
        (endsNumeral_cons (by decide) (by decide)) (by omega)
      have others := below.members next members rest (by omega)
      simp [printString, parseMembers, named, valued, others]

private theorem readsBack (fuel : Nat) : ReadsBack fuel := by
  induction fuel with
  | zero =>
      constructor
      · intro _ _ _ enough
        exact absurd enough (Nat.not_lt_zero _)
      · intro _ _ _ enough
        exact absurd enough (Nat.not_lt_zero _)
      · intro _ _ _ enough
        exact absurd enough (Nat.not_lt_zero _)
  | succ fuel inductionHypothesis =>
      exact {
        value := parseValue_printValue_succ inductionHypothesis
        items := parseItems_printItems_succ inductionHypothesis
        members := parseMembers_printMembers_succ inductionHypothesis }

/-- Reading a printed tree gives the tree back. -/
theorem parse_print (tree : Json) : parse (print tree) = some tree := by
  have whole := (readsBack ((printValue tree).length + 1)).value tree []
    (by intro letter member; cases member) (Nat.lt_succ_self _)
  rw [List.append_nil] at whole
  simp [parse, print, whole]

/-- No tree prints as the empty text. -/
theorem print_ne_empty (tree : Json) : print tree ≠ "" := by
  obtain ⟨head, tail, shape, _⟩ := printValue_head tree
  intro empty
  have lettersEmpty : printValue tree = [] := by
    simpa [print] using congrArg String.toList empty
  rw [shape] at lettersEmpty
  cases lettersEmpty

end JsonText
