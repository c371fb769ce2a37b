import InputSharing.Json.Writer
import InputSharing.Proofs.Json.Reading

/-!
# Values come back from their text

The text of a value is JSON text that denotes it, so reading it gives that value, if its
numbers fit into 64 bits and its arrays and objects do not lie too deep inside one another.
-/

namespace InputSharing.Json

namespace Token

/-! ## Strings -/

theorem spellsChar_writeChar (char : Char) : SpellsChar char (writeChar char) := by
  have short {letter char : Char} (listed : (letter, char) ∈ escapes) :
      SpellsChar char ['\\', letter] :=
    .escape (.letter listed)
  rw [writeChar]
  split_ifs with quote backslash backspace formFeed newline carriageReturn tab control
  · exact short (by rw [quote]; decide)
  · exact short (by rw [backslash]; decide)
  · exact short (by rw [backspace]; decide)
  · exact short (by rw [formFeed]; decide)
  · exact short (by rw [newline]; decide)
  · exact short (by rw [carriageReturn]; decide)
  · exact short (by rw [tab]; decide)
  · have bound : char.toNat < 32 := control
    have zero : HexDigit 0 '0' := ⟨by decide, Or.inl rfl⟩
    have upper : HexDigit (char.toNat / 16) (smallHex (char.toNat / 16)) :=
      ⟨by omega, Or.inl rfl⟩
    have lower : HexDigit (char.toNat % 16) (smallHex (char.toNat % 16)) :=
      ⟨by omega, Or.inl rfl⟩
    have unit := HexUnit.digits zero zero upper lower
    have number : char.toNat / 16 * 16 + char.toNat % 16 = char.toNat := Nat.div_add_mod' _ _
    simp only [Nat.zero_mul, Nat.zero_add, number] at unit
    exact .escape (.units (.single unit))
  · exact .plain (Char.not_lt.1 control) quote backslash

theorem spellsText_flatMap (text : List Char) : SpellsText text (text.flatMap writeChar) := by
  induction text with
  | nil => exact .nil
  | cons first more inductionHypothesis =>
      exact .cons (spellsChar_writeChar first) inductionHypothesis

/-! ## Numerals -/

theorem spelled_writeInt {value : Int} (fits : Fits value) :
    (Token.int value).Spelled (writeInt value) := by
  obtain ⟨digits, decimal⟩ := Digits.exists_decimal value.natAbs
  have whole : SpellsWhole digits (Nat.toDigits 10 value.natAbs) := by
    refine ⟨⟨decimal.nonempty, decimal.small, decimal.written⟩, ?_⟩
    rintro (_ | ⟨second, more⟩) starts
    · rfl
    · exact absurd starts (decimal.leading second more)
  have spelled (negative : Bool) : SpellsNumeral ⟨negative, digits, none, none⟩
      (minus negative ++ Nat.toDigits 10 value.natAbs) := by
    have parts : SpellsNumeral ⟨negative, digits, none, none⟩ _ := .parts whole .absent .absent
    rw [List.append_nil, List.append_nil] at parts
    exact parts
  rw [writeInt]
  split_ifs with below
  · refine .int (spelled true) ⟨rfl, rfl, decimal.toNumber_eq.symm, ?_, fits⟩
    exact iff_of_true rfl below
  · refine .int (spelled false) ⟨rfl, rfl, decimal.toNumber_eq.symm, ?_, fits⟩
    exact iff_of_false Bool.false_ne_true below

/-! ## Values -/

namespace Spells

variable {first second : List Char} {firstTokens secondTokens : List Token}

theorem single {token : Token} {text : List Char} (spelled : token.Spelled text) :
    Spells [token] text := by
  have whole := Spells.token spelled .nil
  rw [List.append_nil] at whole
  exact whole

theorem append (before : Spells firstTokens first) (after : Spells secondTokens second) :
    Spells (firstTokens ++ secondTokens) (first ++ second) := by
  induction before with
  | nil => exact after
  | blank blank _ inductionHypothesis => exact .blank blank inductionHypothesis
  | token spelled _ inductionHypothesis =>
      rw [List.append_assoc]
      exact .token spelled inductionHypothesis

/-- Two texts with a character between them that is a token by itself. -/
theorem around {mark : Token} {char : Char} (symbol : mark.symbol? = some [char])
    (before : Spells firstTokens first) (after : Spells secondTokens second) :
    Spells (firstTokens ++ mark :: secondTokens) (first ++ char :: second) :=
  before.append (.token (.symbol symbol) after)

end Spells

end Token

/-- A value whose numbers are integers of 64 bits, and in which arrays and
objects lie at most so deep inside one another. -/
inductive Writable : (depth : Nat) → Json → Prop where
  | null (depth : Nat) : Writable depth .null
  | bool (depth : Nat) (value : Bool) : Writable depth (.bool value)
  | int (depth : Nat) {value : Int} (fits : Token.Fits value) : Writable depth (.int value)
  | string (depth : Nat) (text : String) : Writable depth (.string text)
  | array {depth : Nat} {elements : List Json}
      (inner : ∀ element ∈ elements, Writable depth element) :
      Writable (depth + 1) (.array elements)
  | object {depth : Nat} {fields : List (String × Json)}
      (inner : ∀ field ∈ fields, Writable depth field.2) :
      Writable (depth + 1) (.object fields)

theorem Writable.nests {depth : Nat} {json : Json} (writable : Writable depth json) :
    Nests depth json := by
  induction writable with
  | null depth => exact .null depth
  | bool depth value => exact .bool depth value
  | int depth fits => exact .int depth _
  | string depth text => exact .string depth text
  | array _ inductionHypothesis => exact .array inductionHypothesis
  | object _ inductionHypothesis => exact .object inductionHypothesis

section Written

open Token

theorem spelled_writeString (text : String) : (Token.string text).Spelled (writeString text) :=
  .string (spellsText_flatMap text.toList)

theorem spells_elementCharacters {elements : List Json}
    (inner : ∀ element ∈ elements, Spells element.tokens element.characters) :
    Spells (elementTokens elements) (elementCharacters elements) := by
  induction elements with
  | nil => exact .nil
  | cons first more inductionHypothesis =>
      have head := inner first List.mem_cons_self
      have later := inductionHypothesis fun element listed =>
        inner element (List.mem_cons_of_mem first listed)
      cases more with
      | nil => exact head
      | cons next rest => exact .around rfl head later

theorem spells_fieldCharacters {fields : List (String × Json)}
    (inner : ∀ field ∈ fields, Spells field.2.tokens field.2.characters) :
    Spells (fieldTokens fields) (fieldCharacters fields) := by
  induction fields with
  | nil => exact .nil
  | cons first more inductionHypothesis =>
      have head : Spells (.string first.1 :: .colon :: first.2.tokens)
          (writeString first.1 ++ ':' :: first.2.characters) :=
        .around rfl (.single (spelled_writeString first.1)) (inner first List.mem_cons_self)
      have later := inductionHypothesis fun field listed =>
        inner field (List.mem_cons_of_mem first listed)
      cases more with
      | nil => exact head
      | cons next rest => exact .around rfl head later

theorem spells_characters {depth : Nat} {json : Json} (writable : Writable depth json) :
    Spells json.tokens json.characters := by
  induction writable with
  | null => exact .single (.symbol rfl)
  | bool depth value => cases value <;> exact .single (.symbol rfl)
  | int _ fits => exact .single (spelled_writeInt fits)
  | string _ text => exact .single (spelled_writeString text)
  | array _ inductionHypothesis =>
      exact .around rfl (.around rfl .nil (spells_elementCharacters inductionHypothesis)) .nil
  | object _ inductionHypothesis =>
      exact .around rfl (.around rfl .nil (spells_fieldCharacters inductionHypothesis)) .nil

/-- A written value is JSON text that denotes this value. -/
theorem denotedBy_write {json : Json} (writable : Writable depthLimit json) :
    json.DenotedBy json.write := by
  refine ⟨writable.nests, ?_⟩
  rw [write, String.toList_ofList]
  exact spells_characters writable

/-- Reading undoes writing. -/
theorem read?_write {json : Json} (writable : Writable depthLimit json) :
    read? json.write = some json :=
  read?_eq_some_iff.2 (denotedBy_write writable)

end Written

end InputSharing.Json
