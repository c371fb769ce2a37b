import InputSharing.Json.Token
import InputSharing.Json.Value

/-!
# Reading JSON

`Json.read?` gives the value of a JSON text, or nothing when the text is not
JSON.  Arrays and objects may lie inside one another up to `Json.depthLimit`
deep.
-/

namespace InputSharing.Json

/-- The greatest number of arrays and objects that lie inside one another, the
outermost included. -/
def depthLimit : Nat := 127

/-! ## What is left -/

/-- What a reader takes off the front of some tokens, and fewer tokens after
it. -/
abbrev Taken (tokens : List Token) (α : Type) : Type :=
  Option { taken : α × List Token // taken.2.length < tokens.length }

theorem fewer_of_cons (first : Token) (rest : List Token) :
    rest.length < (first :: rest).length :=
  Nat.lt_succ_self rest.length

theorem fewer_of_cons_cons (first second : Token) (rest : List Token) :
    rest.length < (first :: second :: rest).length :=
  Nat.lt_trans (fewer_of_cons second rest) (fewer_of_cons first (second :: rest))

theorem fewer_of_followed {next : Token} {rest tokens : List Token}
    (fewer : (next :: rest).length < tokens.length) : rest.length < tokens.length :=
  Nat.lt_trans (fewer_of_cons next rest) fewer

theorem fewer_after {first : Token} {rest last : List Token}
    (fewer : last.length < rest.length) : last.length < (first :: rest).length :=
  Nat.lt_trans fewer (fewer_of_cons first rest)

theorem fewer_after_two {first second : Token} {rest last : List Token}
    (fewer : last.length < rest.length) : last.length < (first :: second :: rest).length :=
  Nat.lt_trans fewer (fewer_of_cons_cons first second rest)

/-! ## Values -/

/-- The elements of an array up to its end, of which there is at least one. -/
def elements? (value? : (tokens : List Token) → Taken tokens Json)
    (tokens : List Token) : Taken tokens (List Json) :=
  match value? tokens with
  | some ⟨(element, .closeArray :: rest), fewer⟩ =>
      some ⟨([element], rest), fewer_of_followed fewer⟩
  | some ⟨(element, .comma :: rest), fewer⟩ =>
      have here : rest.length < tokens.length := fewer_of_followed fewer
      match elements? value? rest with
      | some ⟨(more, last), later⟩ => some ⟨(element :: more, last), Nat.lt_trans later here⟩
      | none => none
  | _ => none
  termination_by tokens.length
  decreasing_by exact here

/-- The fields of an object up to its end, of which there is at least one. -/
def fields? (value? : (tokens : List Token) → Taken tokens Json)
    (tokens : List Token) : Taken tokens (List (String × Json)) :=
  match tokens with
  | .string name :: .colon :: start =>
      match value? start with
      | some ⟨(value, .closeObject :: rest), fewer⟩ =>
          some ⟨([(name, value)], rest), fewer_after_two (fewer_of_followed fewer)⟩
      | some ⟨(value, .comma :: rest), fewer⟩ =>
          have here : rest.length < (Token.string name :: Token.colon :: start).length :=
            fewer_after_two (fewer_of_followed fewer)
          match fields? value? rest with
          | some ⟨(more, last), later⟩ =>
              some ⟨((name, value) :: more, last), Nat.lt_trans later here⟩
          | none => none
      | _ => none
  | _ => none
  termination_by tokens.length
  decreasing_by exact here

/-- A value inside which arrays and objects lie at most `depth` deep. -/
def value? : (depth : Nat) → (tokens : List Token) → Taken tokens Json
  | _, .null :: rest => some ⟨(.null, rest), fewer_of_cons .null rest⟩
  | _, .bool value :: rest => some ⟨(.bool value, rest), fewer_of_cons (.bool value) rest⟩
  | _, .int value :: rest => some ⟨(.int value, rest), fewer_of_cons (.int value) rest⟩
  | _, .real :: rest => some ⟨(.real, rest), fewer_of_cons .real rest⟩
  | _, .string text :: rest => some ⟨(.string text, rest), fewer_of_cons (.string text) rest⟩
  | _ + 1, .openArray :: .closeArray :: rest =>
      some ⟨(.array [], rest), fewer_of_cons_cons .openArray .closeArray rest⟩
  | depth + 1, .openArray :: rest =>
      match elements? (value? depth) rest with
      | some ⟨(elements, last), fewer⟩ => some ⟨(.array elements, last), fewer_after fewer⟩
      | none => none
  | _ + 1, .openObject :: .closeObject :: rest =>
      some ⟨(.object [], rest), fewer_of_cons_cons .openObject .closeObject rest⟩
  | depth + 1, .openObject :: rest =>
      match fields? (value? depth) rest with
      | some ⟨(fields, last), fewer⟩ => some ⟨(.object fields, last), fewer_after fewer⟩
      | none => none
  | _, _ => none

/-- The value that some tokens denote, all of them together. -/
def ofTokens? (tokens : List Token) : Option Json :=
  match value? depthLimit tokens with
  | some ⟨(value, []), _⟩ => some value
  | _ => none

def read? (text : String) : Option Json :=
  (Token.scan text.toList).bind ofTokens?

end InputSharing.Json
