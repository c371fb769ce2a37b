import InputSharing.Json.Value

/-!
# Writing JSON

`Json.write` gives the text of a value, without blanks.  In strings, the quote,
the backslash and the control characters are escaped; every other character
stands for itself.
-/

namespace InputSharing.Json

def smallHex (digit : Nat) : Char := Nat.digitChar digit

def writeChar (char : Char) : List Char :=
  if char = '"' then ['\\', '"']
  else if char = '\\' then ['\\', '\\']
  else if char = '\x08' then ['\\', 'b']
  else if char = '\x0c' then ['\\', 'f']
  else if char = '\n' then ['\\', 'n']
  else if char = '\r' then ['\\', 'r']
  else if char = '\t' then ['\\', 't']
  else if char < ' ' then
    ['\\', 'u', '0', '0', smallHex (char.toNat / 16), smallHex (char.toNat % 16)]
  else [char]

def writeString (text : String) : List Char :=
  '"' :: text.toList.flatMap writeChar ++ ['"']

def writeInt (value : Int) : List Char :=
  if value < 0 then '-' :: Nat.toDigits 10 value.natAbs else Nat.toDigits 10 value.natAbs

mutual

/-- The characters of a value.  The value of a real number is not kept, so any
of them is written as one and the same. -/
def characters : Json → List Char
  | null => ['n', 'u', 'l', 'l']
  | bool true => ['t', 'r', 'u', 'e']
  | bool false => ['f', 'a', 'l', 's', 'e']
  | int value => writeInt value
  | real => ['0', '.', '0']
  | string text => writeString text
  | array elements => '[' :: elementCharacters elements ++ [']']
  | object fields => '\x7b' :: fieldCharacters fields ++ ['\x7d']

def elementCharacters : List Json → List Char
  | [] => []
  | [element] => characters element
  | element :: more => characters element ++ ',' :: elementCharacters more

def fieldCharacters : List (String × Json) → List Char
  | [] => []
  | [(name, value)] => writeString name ++ ':' :: characters value
  | (name, value) :: more =>
      writeString name ++ ':' :: characters value ++ ',' :: fieldCharacters more

end

def write (json : Json) : String := String.ofList json.characters

end InputSharing.Json
