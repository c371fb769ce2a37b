import InputSharing.Proofs.Digits
import InputSharing.Proofs.Json.Grammar
import Mathlib.Data.List.Chain

/-!
# Scanning

A text is split into some tokens exactly if it spells them, as long as punctuation keeps
them apart.  For each kind of piece there are two statements: what is taken off the front
of a text is a spelling of the piece, and a spelling is taken off the front of a text.
The second needs that a numeral does not go on in what follows it.
-/

namespace InputSharing.Json

namespace Token

/-! ## Strings -/

theorem exists_hexUnit {text rest : List Char} {unit : Nat}
    (read : hexUnit? text = some (unit, rest)) :
    ∃ digits, HexUnit unit digits ∧ text = digits ++ rest := by
  unfold hexUnit? at read
  split at read
  · next first second third fourth after =>
    simp only [Option.bind_eq_bind, Option.bind_eq_some_iff, Option.some.injEq,
      Prod.mk.injEq, Digits.below?_sixteen_eq_some_iff] at read
    obtain ⟨a, readA, b, readB, c, readC, d, readD, rfl, rfl⟩ := read
    exact ⟨[first, second, third, fourth], .digits readA readB readC readD, rfl⟩
  · cases read

theorem hexUnit?_append {unit : Nat} {digits : List Char} (spelled : HexUnit unit digits)
    (rest : List Char) : hexUnit? (digits ++ rest) = some (unit, rest) := by
  obtain ⟨a, b, c, d⟩ := spelled
  simp [hexUnit?, Digits.below?_sixteen_eq_some_iff.2 a, Digits.below?_sixteen_eq_some_iff.2 b,
    Digits.below?_sixteen_eq_some_iff.2 c, Digits.below?_sixteen_eq_some_iff.2 d]

theorem lt_of_hexUnit {unit : Nat} {digits : List Char} (spelled : HexUnit unit digits) :
    unit < 0x10000 := by
  obtain ⟨⟨first, _⟩, ⟨second, _⟩, ⟨third, _⟩, ⟨fourth, _⟩⟩ := spelled
  omega

theorem isHighHalf_iff {unit : Nat} :
    isHighHalf unit = true ↔ ∃ high, high < 0x400 ∧ unit = 0xD800 + high := by
  rw [isHighHalf, Bool.and_eq_true, decide_eq_true_eq, decide_eq_true_eq]
  constructor
  · rintro ⟨least, greatest⟩
    exact ⟨unit - 0xD800, by omega, by omega⟩
  · rintro ⟨high, small, rfl⟩
    omega

theorem isLowHalf_iff {unit : Nat} :
    isLowHalf unit = true ↔ ∃ low, low < 0x400 ∧ unit = 0xDC00 + low := by
  rw [isLowHalf, Bool.and_eq_true, decide_eq_true_eq, decide_eq_true_eq]
  constructor
  · rintro ⟨least, greatest⟩
    exact ⟨unit - 0xDC00, by omega, by omega⟩
  · rintro ⟨low, small, rfl⟩
    omega

/-- A unit is the number of a character, unless it is a half of a pair. -/
theorem isValidChar_iff {unit : Nat} (bound : unit < 0x10000) :
    unit.isValidChar ↔ ¬isHighHalf unit = true ∧ ¬isLowHalf unit = true := by
  simp only [Nat.isValidChar, isHighHalf, isLowHalf, Bool.and_eq_true, decide_eq_true_eq]
  omega

theorem toNat_ofNat {number : Nat} (valid : number.isValidChar) :
    (Char.ofNat number).toNat = number := by
  rw [Char.ofNat, dif_pos valid]
  rfl

theorem exists_units {text rest : List Char} {char : Char}
    (read : unit? text = some (char, rest)) :
    ∃ piece, SpellsUnits char piece ∧ text = piece ++ rest := by
  simp only [unit?, Option.bind_eq_bind, Option.bind_eq_some_iff] at read
  obtain ⟨⟨unit, after⟩, front, read⟩ := read
  obtain ⟨first, spelled, rfl⟩ := exists_hexUnit front
  dsimp only at read
  split_ifs at read with upper lower
  · obtain ⟨high, small, rfl⟩ := isHighHalf_iff.1 upper
    split at read
    · next more =>
      simp only [Option.bind_eq_some_iff] at read
      obtain ⟨⟨unit, last⟩, back, read⟩ := read
      obtain ⟨second, spelled', rfl⟩ := exists_hexUnit back
      dsimp only at read
      split_ifs at read with lower
      obtain ⟨low, small', rfl⟩ := isLowHalf_iff.1 lower
      simp only [Option.some.injEq, Prod.mk.injEq, Nat.add_sub_cancel_left] at read
      obtain ⟨rfl, rfl⟩ := read
      refine ⟨first ++ '\\' :: 'u' :: second, .pair small small' ?_ spelled spelled', by simp⟩
      exact toNat_ofNat (Or.inr ⟨by omega, by omega⟩)
    · cases read
  · cases read
    have valid := (isValidChar_iff (lt_of_hexUnit spelled)).2 ⟨upper, lower⟩
    rw [← toNat_ofNat valid] at spelled
    exact ⟨first, .single spelled, rfl⟩

theorem unit?_append {char : Char} {piece : List Char} (spelled : SpellsUnits char piece)
    (rest : List Char) : unit? (piece ++ rest) = some (char, rest) := by
  cases spelled with
  | single unit =>
      obtain ⟨noHigh, noLow⟩ := (isValidChar_iff (lt_of_hexUnit unit)).1 char.valid
      simp [unit?, hexUnit?_append unit, noHigh, noLow]
  | @pair high low first second small small' number unit unit' =>
      have upper := isHighHalf_iff.2 ⟨high, small, rfl⟩
      have lower := isLowHalf_iff.2 ⟨low, small', rfl⟩
      have same : Char.ofNat (0x10000 + high * 0x400 + low) = char := by
        rw [← number, Char.ofNat_toNat]
      simp only [unit?, List.append_assoc, hexUnit?_append unit, List.cons_append,
        Option.bind_eq_bind, Option.bind_some, upper, if_true, hexUnit?_append unit', lower,
        Nat.add_sub_cancel_left, same]

theorem exists_escape {text rest : List Char} {char : Char}
    (read : escape? text = some (char, rest)) :
    ∃ piece, SpellsEscape char piece ∧ text = piece ++ rest := by
  unfold escape? at read
  split at read
  case h_9 text =>
    obtain ⟨piece, spelled, rfl⟩ := exists_units read
    exact ⟨'u' :: piece, .units spelled, rfl⟩
  case h_10 => cases read
  all_goals
    cases read
    exact ⟨[_], .letter (by decide), rfl⟩

theorem escape?_append {char : Char} {piece : List Char} (spelled : SpellsEscape char piece)
    (rest : List Char) : escape? (piece ++ rest) = some (char, rest) := by
  cases spelled with
  | @letter letter _ listed =>
      have all : ∀ entry ∈ escapes, ∀ rest,
          escape? (entry.1 :: rest) = some (entry.2, rest) := by
        simp [escapes, escape?]
      exact all _ listed rest
  | units spelled =>
      rw [List.cons_append, escape?]
      exact unit?_append spelled rest

theorem characters?_escape {text after : List Char} {char : Char}
    (read : escape? text = some (char, after)) :
    characters? ('\\' :: text) =
      (characters? after).map fun (text, last) => (char :: text, last) := by
  rw [characters?]
  split
  · next failed =>
    rw [read] at failed
    cases failed
  · next tested rest found =>
    rw [read] at found
    cases found
    rfl

theorem characters?_plain {char : Char} (quote : char ≠ '"') (backslash : char ≠ '\\')
    (plain : ¬ char < ' ') (rest : List Char) :
    characters? (char :: rest) =
      (characters? rest).map fun (text, last) => (char :: text, last) := by
  rw [characters?.eq_def]
  split
  · next equal => cases equal
  · next equal =>
    cases equal
    exact absurd rfl quote
  · next equal =>
    cases equal
    exact absurd rfl backslash
  · next equal =>
    cases equal
    rw [if_neg plain]

theorem characters?_char {char : Char} {piece : List Char} (spelled : SpellsChar char piece)
    (rest : List Char) :
    characters? (piece ++ rest) =
      (characters? rest).map fun (text, last) => (char :: text, last) := by
  cases spelled with
  | plain visible quote backslash =>
      exact characters?_plain quote backslash (Char.not_lt.2 visible) rest
  | escape spelled => exact characters?_escape (escape?_append spelled rest)

theorem characters?_append {content text : List Char} (spelled : SpellsText content text)
    (rest : List Char) : characters? (text ++ '"' :: rest) = some (content, rest) := by
  induction spelled with
  | nil => rw [List.nil_append, characters?]
  | cons char more inductionHypothesis =>
      rw [List.append_assoc, characters?_char char, inductionHypothesis]
      rfl

theorem exists_text {text content rest : List Char}
    (read : characters? text = some (content, rest)) :
    ∃ piece, SpellsText content piece ∧ text = piece ++ '"' :: rest := by
  fun_induction characters? text generalizing content with
  | case1 => cases read
  | case2 rest =>
      cases read
      exact ⟨[], .nil, rfl⟩
  | case3 text failed =>
      cases read
  | case4 text char after found inductionHypothesis =>
      obtain ⟨⟨content, last⟩, later, same⟩ := Option.map_eq_some_iff.1 read
      cases same
      obtain ⟨first, escape, rfl⟩ := exists_escape found
      obtain ⟨second, spelled, rfl⟩ := inductionHypothesis later
      exact ⟨'\\' :: first ++ second, .cons (.escape escape) spelled, by simp⟩
  | case5 => cases read
  | case6 char text quote backslash visible inductionHypothesis =>
      obtain ⟨⟨content, last⟩, later, same⟩ := Option.map_eq_some_iff.1 read
      cases same
      obtain ⟨piece, spelled, rfl⟩ := inductionHypothesis later
      exact ⟨char :: piece, .cons (.plain (Char.not_lt.1 visible) quote backslash) spelled, rfl⟩

/-! ## Numerals -/

theorem exists_decimals {text rest : List Char} {digits : List Nat}
    (read : someDigits? text = some (digits, rest)) :
    ∃ piece, Decimals digits piece ∧ text = piece ++ rest := by
  rw [someDigits?] at read
  split at read
  · cases read
  · next nonempty =>
    obtain ⟨small, rfl, _⟩ := Digits.take_eq_iff.1 (Option.some.inj read)
    refine ⟨digits.map Nat.digitChar, ⟨?_, small, rfl⟩, rfl⟩
    rintro rfl
    exact nonempty rest (Option.some.inj read)

theorem someDigits?_append {digits : List Nat} {piece rest : List Char}
    (decimals : Decimals digits piece) (ends : rest.head?.bind (Digits.below? 10) = none) :
    someDigits? (piece ++ rest) = some (digits, rest) := by
  obtain ⟨nonempty, small, rfl⟩ := decimals
  rw [someDigits?, Digits.take_eq_iff.2 ⟨small, rfl, ends⟩]
  split
  · next equal => exact absurd (congrArg Prod.fst equal) nonempty
  · rfl

theorem exists_whole {text rest : List Char} {digits : List Nat}
    (read : whole? text = some (digits, rest)) :
    ∃ piece, SpellsWhole digits piece ∧ text = piece ++ rest := by
  rw [whole?] at read
  split at read
  · cases read
  · next single =>
    obtain ⟨piece, decimals, rfl⟩ := exists_decimals read
    refine ⟨piece, ⟨decimals, ?_⟩, rfl⟩
    rintro (_ | ⟨second, more⟩) rfl
    · rfl
    · exact absurd read (single second more rest)

theorem whole?_append {digits : List Nat} {piece rest : List Char}
    (spelled : SpellsWhole digits piece) (ends : rest.head?.bind (Digits.below? 10) = none) :
    whole? (piece ++ rest) = some (digits, rest) := by
  rw [whole?, someDigits?_append spelled.toDecimals ends]
  split
  · next equal =>
    cases equal
    cases spelled.leading _ rfl
  · rfl

/-- A text at whose beginning neither a whole part nor a fraction goes on. -/
def EndsFraction (text : List Char) : Prop :=
  ∀ char ∈ text.head?, Digits.below? 10 char = none ∧ char ≠ '.'

/-- A text at whose beginning no numeral goes on. -/
def EndsNumeral (text : List Char) : Prop :=
  ∀ char ∈ text.head?,
    Digits.below? 10 char = none ∧ char ≠ '.' ∧ char ≠ 'e' ∧ char ≠ 'E'

theorem EndsFraction.ends_digits {text : List Char} (ends : EndsFraction text) :
    text.head?.bind (Digits.below? 10) = none := by
  cases text with
  | nil => rfl
  | cons first rest => exact (ends first rfl).1

theorem EndsNumeral.ends_fraction {text : List Char} (ends : EndsNumeral text) :
    EndsFraction text := by
  intro char head
  obtain ⟨noDigit, noPoint, _⟩ := ends char head
  exact ⟨noDigit, noPoint⟩

theorem exists_fraction {text rest : List Char} {fraction : Option (List Nat)}
    (read : fraction? text = some (fraction, rest)) :
    ∃ piece, SpellsFraction fraction piece ∧ text = piece ++ rest := by
  rw [fraction?.eq_def] at read
  split at read
  · obtain ⟨⟨digits, after⟩, found, same⟩ := Option.map_eq_some_iff.1 read
    cases same
    obtain ⟨piece, decimals, rfl⟩ := exists_decimals found
    exact ⟨'.' :: piece, .present decimals, rfl⟩
  · cases read
    exact ⟨[], .absent, rfl⟩

theorem fraction?_append {fraction : Option (List Nat)} {piece rest : List Char}
    (spelled : SpellsFraction fraction piece) (ends : EndsFraction rest) :
    fraction? (piece ++ rest) = some (fraction, rest) := by
  cases spelled with
  | absent =>
      rw [List.nil_append, fraction?.eq_def]
      split
      · next more => exact absurd rfl (ends '.' rfl).2
      · rfl
  | present decimals =>
      rw [List.cons_append, fraction?, someDigits?_append decimals ends.ends_digits]
      rfl

/-- Digits begin with a digit. -/
theorem exists_head_decimals {digits : List Nat} {text : List Char}
    (decimals : Decimals digits text) :
    ∃ digit more, digit < 10 ∧ text = Nat.digitChar digit :: more := by
  obtain ⟨nonempty, small, rfl⟩ := decimals
  obtain ⟨digit, more, rfl⟩ := List.exists_cons_of_ne_nil nonempty
  exact ⟨digit, more.map Nat.digitChar, small digit List.mem_cons_self, rfl⟩

theorem digitChar_ne_sign :
    ∀ digit < 10, Nat.digitChar digit ≠ '-' ∧ Nat.digitChar digit ≠ '+' := by
  decide

theorem exists_sign (text : List Char) :
    ∃ piece, SpellsSign (sign text).1 piece ∧ text = piece ++ (sign text).2 := by
  rw [sign.eq_def]
  split
  · exact ⟨['-'], .minus, rfl⟩
  · exact ⟨['+'], .plus, rfl⟩
  · exact ⟨[], .absent, rfl⟩

theorem sign_append {minus : Bool} {piece text : List Char} {digits : List Nat}
    (spelled : SpellsSign minus piece) (decimals : Decimals digits text) (rest : List Char) :
    sign (piece ++ (text ++ rest)) = (minus, text ++ rest) := by
  cases spelled with
  | absent =>
      obtain ⟨digit, more, small, rfl⟩ := exists_head_decimals decimals
      obtain ⟨noMinus, noPlus⟩ := digitChar_ne_sign digit small
      rw [List.nil_append, List.cons_append, sign.eq_def]
      split
      · next equal => exact absurd (List.cons.inj equal).1 noMinus
      · next equal => exact absurd (List.cons.inj equal).1 noPlus
      · rfl
  | plus => rfl
  | minus => rfl

theorem exists_exponent {text rest : List Char} {exponent : Option (Bool × List Nat)}
    (read : exponent? text = some (exponent, rest)) :
    ∃ piece, SpellsExponent exponent piece ∧ text = piece ++ rest := by
  cases text with
  | nil =>
      cases read
      exact ⟨[], .absent, rfl⟩
  | cons letter text =>
      rw [exponent?] at read
      split_ifs at read with marked
      · obtain ⟨⟨digits, after⟩, found, same⟩ := Option.map_eq_some_iff.1 read
        cases same
        obtain ⟨piece, decimals, after⟩ := exists_decimals found
        obtain ⟨before, signed, all⟩ := exists_sign text
        refine ⟨letter :: (before ++ piece), .present marked signed decimals, ?_⟩
        rw [List.cons_append, List.append_assoc, ← after]
        exact congrArg (letter :: ·) all
      · cases read
        exact ⟨[], .absent, rfl⟩

theorem exponent?_append {exponent : Option (Bool × List Nat)} {piece rest : List Char}
    (spelled : SpellsExponent exponent piece) (ends : EndsNumeral rest) :
    exponent? (piece ++ rest) = some (exponent, rest) := by
  cases spelled with
  | absent =>
      cases rest with
      | nil => rfl
      | cons first more =>
          obtain ⟨_, _, noSmall, noCapital⟩ := ends first rfl
          rw [List.nil_append, exponent?, if_neg]
          rintro (small | capital)
          · exact noSmall small
          · exact noCapital capital
  | present marked signed decimals =>
      rw [List.cons_append, List.append_assoc, exponent?, if_pos marked,
        sign_append signed decimals]
      dsimp only
      rw [someDigits?_append decimals ends.ends_fraction.ends_digits]
      rfl

/-- Neither an exponent nor what follows a numeral goes on with a fraction. -/
theorem endsFraction_exponent {exponent : Option (Bool × List Nat)} {piece rest : List Char}
    (spelled : SpellsExponent exponent piece) (ends : EndsNumeral rest) :
    EndsFraction (piece ++ rest) := by
  cases spelled with
  | absent => exact ends.ends_fraction
  | present marked =>
      rintro char ⟨⟩
      rcases marked with rfl | rfl
      · decide
      · decide

theorem ends_digits_fraction {fraction : Option (List Nat)} {piece rest : List Char}
    (spelled : SpellsFraction fraction piece) (ends : EndsFraction rest) :
    (piece ++ rest).head?.bind (Digits.below? 10) = none := by
  cases spelled with
  | absent => exact ends.ends_digits
  | present => rfl

/-- What is left of a numeral after its sign. -/
def unsigned? (negative : Bool) (text : List Char) : Option (Numeral × List Char) := do
  let (whole, afterWhole) ← whole? text
  let (fraction, afterFraction) ← fraction? afterWhole
  let (exponent, after) ← exponent? afterFraction
  some (⟨negative, whole, fraction, exponent⟩, after)

theorem numeral?_minus (text : List Char) : numeral? ('-' :: text) = unsigned? true text :=
  rfl

theorem numeral?_of_ne {text : List Char} (unsigned : ∀ rest, text ≠ '-' :: rest) :
    numeral? text = unsigned? false text := by
  rw [numeral?]
  · rfl
  · exact unsigned

theorem exists_unsigned {negative : Bool} {text rest : List Char} {numeral : Numeral}
    (read : unsigned? negative text = some (numeral, rest)) :
    ∃ piece, SpellsNumeral numeral (minus negative ++ piece) ∧ text = piece ++ rest := by
  simp only [unsigned?, Option.bind_eq_bind, Option.bind_eq_some_iff] at read
  obtain ⟨⟨whole, afterWhole⟩, readWhole, ⟨fraction, afterFraction⟩, readFraction,
    ⟨exponent, after⟩, readExponent, same⟩ := read
  cases same
  obtain ⟨first, spellsFirst, rfl⟩ := exists_whole readWhole
  obtain ⟨second, spellsSecond, rfl⟩ := exists_fraction readFraction
  obtain ⟨third, spellsThird, rfl⟩ := exists_exponent readExponent
  exact ⟨first ++ (second ++ third), .parts spellsFirst spellsSecond spellsThird, by simp⟩

theorem exists_numeral {text rest : List Char} {numeral : Numeral}
    (read : numeral? text = some (numeral, rest)) :
    ∃ piece, SpellsNumeral numeral piece ∧ text = piece ++ rest := by
  by_cases signed : ∃ unsigned, text = '-' :: unsigned
  · obtain ⟨unsigned, rfl⟩ := signed
    obtain ⟨piece, spelled, rfl⟩ := exists_unsigned (numeral?_minus unsigned ▸ read)
    exact ⟨'-' :: piece, spelled, rfl⟩
  · rw [numeral?_of_ne (not_exists.1 signed)] at read
    obtain ⟨piece, spelled, rfl⟩ := exists_unsigned read
    exact ⟨piece, spelled, rfl⟩

theorem unsigned?_append {whole : List Nat} {fraction : Option (List Nat)}
    {exponent : Option (Bool × List Nat)} {first second third rest : List Char}
    (spellsWhole : SpellsWhole whole first) (spellsFraction : SpellsFraction fraction second)
    (spellsExponent : SpellsExponent exponent third) (ends : EndsNumeral rest) (negative : Bool) :
    unsigned? negative (first ++ (second ++ (third ++ rest))) =
      some (⟨negative, whole, fraction, exponent⟩, rest) := by
  have stops := endsFraction_exponent spellsExponent ends
  have readExponent := exponent?_append spellsExponent ends
  have readFraction := fraction?_append spellsFraction stops
  have readWhole := whole?_append spellsWhole (ends_digits_fraction spellsFraction stops)
  simp only [unsigned?, readWhole, readFraction, readExponent, Option.bind_eq_bind,
    Option.bind_some]

theorem numeral?_append {numeral : Numeral} {piece rest : List Char}
    (spelled : SpellsNumeral numeral piece) (ends : EndsNumeral rest) :
    numeral? (piece ++ rest) = some (numeral, rest) := by
  obtain @⟨negative, _, _, _, first, second, third, whole, fraction, exponent⟩ := spelled
  have read := unsigned?_append whole fraction exponent ends negative
  simp only [List.append_assoc]
  cases negative with
  | true => exact read
  | false =>
      rw [minus, List.nil_append, numeral?_of_ne, read]
      obtain ⟨digit, more, small, rfl⟩ := exists_head_decimals whole.toDecimals
      intro rest equal
      exact (digitChar_ne_sign digit small).1 (List.cons.inj equal).1

theorem integer?_eq_some_iff {numeral : Numeral} {value : Int} :
    numeral.integer? = some value ↔ numeral.Counts value := by
  obtain ⟨negative, whole, fraction, exponent⟩ := numeral
  constructor
  · intro found
    rw [Numeral.integer?] at found
    split at found
    · next plain bare =>
      dsimp only at plain bare found
      split_ifs at found with below zero above
      · cases found
        refine ⟨plain, bare, Int.natAbs_neg _, iff_of_true below ?_, ?_, ?_⟩
        · omega
        · omega
        · omega
      · cases found
        refine ⟨plain, bare, rfl, iff_of_false below ?_, ?_, ?_⟩
        · omega
        · omega
        · omega
    · cases found
  · rintro ⟨rfl, rfl, magnitude, negative_iff, least, greatest⟩
    dsimp only at magnitude negative_iff
    rw [Numeral.integer?]
    dsimp only
    rw [← magnitude]
    cases negative with
    | true =>
        have below : value < 0 := negative_iff.1 rfl
        rw [if_pos rfl, if_neg (by omega)]
        congr 1
        omega
    | false =>
        have above : ¬value < 0 := fun below => Bool.noConfusion (negative_iff.2 below)
        rw [if_neg (by decide), if_neg (by omega)]
        congr 1
        omega

theorem spelled_ofNumeral {numeral : Numeral} {token : Token} {text : List Char}
    (found : ofNumeral? numeral = some token) (spelled : SpellsNumeral numeral text) :
    token.Spelled text := by
  rw [ofNumeral?] at found
  split at found
  · next value counts =>
    cases found
    exact .int spelled (integer?_eq_some_iff.1 counts)
  · next uncounted =>
    split_ifs at found with infinite
    cases found
    refine .real spelled (fun value counts => ?_) (Bool.eq_false_iff.2 infinite)
    rw [integer?_eq_some_iff.2 counts] at uncounted
    cases uncounted

/-! ## Tokens -/

/-- A token that is no part of any other when something stands next to it. -/
def isPunctuation : Token → Bool
  | openObject | closeObject | openArray | closeArray | comma | colon => true
  | _ => false

theorem exists_next {text rest : List Char} {token : Token}
    (read : next? text = some (token, rest)) :
    ∃ piece, token.Spelled piece ∧ text = piece ++ rest := by
  rw [next?.eq_def] at read
  split at read
  case h_10 text =>
    obtain ⟨⟨content, after⟩, found, same⟩ := Option.map_eq_some_iff.1 read
    cases same
    obtain ⟨piece, spelled, rfl⟩ := exists_text found
    refine ⟨'"' :: piece ++ ['"'], .string ?_, by simp⟩
    rw [String.toList_ofList]
    exact spelled
  case h_11 =>
    simp only [Option.bind_eq_bind, Option.bind_eq_some_iff] at read
    obtain ⟨⟨numeral, after⟩, found, token, denoted, same⟩ := read
    cases same
    obtain ⟨piece, spelled, rfl⟩ := exists_numeral found
    exact ⟨piece, spelled_ofNumeral denoted spelled, rfl⟩
  all_goals
    cases read
    exact ⟨_, .symbol rfl, rfl⟩

/-- A numeral begins with a digit or with a minus. -/
theorem exists_head_numeral {numeral : Numeral} {text : List Char}
    (spelled : SpellsNumeral numeral text) :
    ∃ first more, text = first :: more ∧ (first.isDigit = true ∨ first = '-') := by
  obtain @⟨negative, _, _, _, _, second, third, whole, _, _⟩ := spelled
  cases negative with
  | true => exact ⟨'-', _, rfl, Or.inr rfl⟩
  | false =>
      obtain ⟨digit, more, small, rfl⟩ := exists_head_decimals whole.toDecimals
      have all : ∀ tested < 10, (Nat.digitChar tested).isDigit = true := by decide
      exact ⟨Nat.digitChar digit, more ++ (second ++ third), rfl, Or.inl (all digit small)⟩

theorem next?_numeral {first : Char} (starts : first.isDigit = true ∨ first = '-')
    (rest : List Char) :
    next? (first :: rest) =
      (numeral? (first :: rest)).bind fun (numeral, after) =>
        (ofNumeral? numeral).bind fun token => some (token, after) := by
  rw [next?.eq_def]
  split
  all_goals
    first
      | rfl
      | (next equal =>
          cases equal
          rcases starts with digit | minus
          · exact absurd digit (by decide)
          · exact absurd minus (by decide))

theorem next?_append_numeral {numeral : Numeral} {token : Token} {piece rest : List Char}
    (spelled : SpellsNumeral numeral piece) (denoted : ofNumeral? numeral = some token)
    (ends : EndsNumeral rest) : next? (piece ++ rest) = some (token, rest) := by
  have read := numeral?_append spelled ends
  obtain ⟨first, more, rfl, starts⟩ := exists_head_numeral spelled
  rw [List.cons_append] at read ⊢
  rw [next?_numeral starts, read, Option.bind_some]
  dsimp only
  rw [denoted, Option.bind_some]

theorem next?_append_symbol {token : Token} {piece : List Char}
    (spelled : token.symbol? = some piece) (rest : List Char) :
    next? (piece ++ rest) = some (token, rest) := by
  cases token with
  | bool value => cases value <;> cases spelled <;> rfl
  | int | real | string => cases spelled
  | _ =>
      cases spelled
      rfl

/-- A token is found at the front of a text, whatever follows it if it is punctuation, and
otherwise if no numeral goes on in what follows. -/
theorem next?_append {token : Token} {piece rest : List Char} (spelled : token.Spelled piece)
    (ends : token.isPunctuation = true ∨ EndsNumeral rest) :
    next? (piece ++ rest) = some (token, rest) := by
  cases spelled with
  | symbol spelled => exact next?_append_symbol spelled rest
  | int spelled counts =>
      refine next?_append_numeral spelled ?_ (ends.resolve_left Bool.false_ne_true)
      rw [ofNumeral?, integer?_eq_some_iff.2 counts]
  | @real numeral _ spelled uncounted finite =>
      refine next?_append_numeral spelled ?_ (ends.resolve_left Bool.false_ne_true)
      have absent : numeral.integer? = none :=
        Option.eq_none_iff_forall_ne_some.2 fun value found =>
          uncounted value (integer?_eq_some_iff.1 found)
      rw [ofNumeral?, absent, finite]
      rfl
  | @string content text spelled =>
      rw [List.cons_append, List.cons_append, List.append_assoc, List.singleton_append, next?,
        characters?_append spelled, Option.map_some]
      dsimp only
      rw [String.ofList_toList]

/-! ## Scanning -/

/-- A token begins with a character that is no blank. -/
theorem exists_head_spelled {token : Token} {piece : List Char} (spelled : token.Spelled piece) :
    ∃ first more, piece = first :: more ∧ isBlank first = false := by
  have solid {numeral : Numeral} {text : List Char} (spelled : SpellsNumeral numeral text) :
      ∃ first more, text = first :: more ∧ isBlank first = false := by
    obtain ⟨first, more, rfl, starts⟩ := exists_head_numeral spelled
    refine ⟨first, more, rfl, ?_⟩
    rw [isBlank]
    by_contra blank
    simp only [Bool.not_eq_false, Bool.or_eq_true, decide_eq_true_eq] at blank
    rcases blank with ((rfl | rfl) | rfl) | rfl <;> exact absurd starts (by decide)
  cases spelled with
  | symbol spelled =>
      cases token with
      | bool value => cases value <;> cases spelled <;> exact ⟨_, _, rfl, rfl⟩
      | int | real | string => cases spelled
      | _ =>
          cases spelled
          exact ⟨_, _, rfl, rfl⟩
  | int spelled => exact solid spelled
  | real spelled => exact solid spelled
  | string => exact ⟨'"', _, rfl, rfl⟩

theorem spells_of_scan {text : List Char} {tokens : List Token}
    (scanned : scan text = some tokens) : Spells tokens text := by
  fun_induction scan text generalizing tokens with
  | case1 =>
      cases scanned
      exact .nil
  | case2 char rest blank inductionHypothesis => exact .blank blank (inductionHypothesis scanned)
  | case3 => cases scanned
  | case4 char rest solid token after found shorter inductionHypothesis =>
      obtain ⟨more, later, same⟩ := Option.map_eq_some_iff.1 scanned
      cases same
      obtain ⟨piece, spelled, equal⟩ := exists_next found
      rw [equal]
      exact .token spelled (inductionHypothesis later)
  | case5 => cases scanned

theorem scan_step {char : Char} {rest after : List Char} {token : Token}
    (found : next? (char :: rest) = some (token, after)) (solid : isBlank char = false)
    (shorter : after.length < (char :: rest).length) :
    scan (char :: rest) = (scan after).map (token :: ·) := by
  have dark : ¬ isBlank char = true := by
    rw [solid]
    decide
  rw [scan, if_neg dark]
  split
  · next failed =>
    rw [found] at failed
    cases failed
  · next equal =>
    rw [found] at equal
    cases equal
    rw [if_pos shorter]

/-- One of two tokens that stand side by side keeps them apart. -/
def Apart (first second : Token) : Prop :=
  first.isPunctuation = true ∨ second.isPunctuation = true

theorem endsNumeral_of_isBlank {char : Char} (blank : isBlank char = true) (rest : List Char) :
    EndsNumeral (char :: rest) := by
  rintro tested ⟨⟩
  simp only [isBlank, Bool.or_eq_true, decide_eq_true_eq] at blank
  rcases blank with ((rfl | rfl) | rfl) | rfl <;> decide

theorem endsNumeral_of_isPunctuation {token : Token} {piece : List Char}
    (punctuation : token.isPunctuation = true) (spelled : token.Spelled piece) (rest : List Char) :
    EndsNumeral (piece ++ rest) := by
  cases spelled with
  | symbol spelled =>
      cases token with
      | null | bool | int | real | string => cases punctuation
      | _ =>
          cases spelled
          rintro tested ⟨⟩
          decide
  | _ => cases punctuation

theorem endsNumeral_of_spells {tokens : List Token} {text : List Char}
    (spelled : Spells tokens text)
    (punctuated : ∀ token ∈ tokens.head?, token.isPunctuation = true) : EndsNumeral text := by
  cases spelled with
  | nil =>
      intro char head
      cases head
  | blank blank => exact endsNumeral_of_isBlank blank _
  | token spelled => exact endsNumeral_of_isPunctuation (punctuated _ rfl) spelled _

theorem scan_of_spells {text : List Char} {tokens : List Token} (spelled : Spells tokens text)
    (apart : tokens.IsChain Apart) : scan text = some tokens := by
  induction spelled with
  | nil => rw [scan]
  | @blank char tokens text blank _ inductionHypothesis =>
      rw [scan, if_pos blank, inductionHypothesis apart]
  | @token token tokens piece text spelled more inductionHypothesis =>
      have ends : token.isPunctuation = true ∨ EndsNumeral text := by
        by_cases punctuation : token.isPunctuation = true
        · exact Or.inl punctuation
        · refine Or.inr (endsNumeral_of_spells more fun next head => ?_)
          exact (apart.rel_head? head).resolve_left punctuation
      have found := next?_append spelled ends
      obtain ⟨first, others, rfl, solid⟩ := exists_head_spelled spelled
      rw [List.cons_append] at found ⊢
      rw [scan_step found solid, inductionHypothesis apart.tail, Option.map_some]
      simp only [List.length_cons, List.length_append]
      omega

/-- A text is split into some tokens exactly if it spells them. -/
theorem scan_eq_some_iff {text : List Char} {tokens : List Token}
    (apart : tokens.IsChain Apart) : scan text = some tokens ↔ Spells tokens text :=
  ⟨spells_of_scan, fun spelled => scan_of_spells spelled apart⟩

end Token

end InputSharing.Json
