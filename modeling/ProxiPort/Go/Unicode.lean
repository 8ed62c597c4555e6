import ProxiPort.Go.Strings

/-!
# Case mapping and quoting

The Unicode tables of Go's `unicode` package are a parameter of what depends on
them.  Of the case mapping only its ASCII part is fixed, and that nothing but a
symbol itself is mapped to an ASCII symbol.
-/

namespace ProxiPort.Go

structure Unicode where
  isPrint : Char → Bool
  toLower : Char → Char
  toUpper : Char → Char
  toLower_ascii : ∀ character, character.toNat < 128 → toLower character = character.toLower
  toLower_symbol : ∀ character, (toLower character).toNat < 128 →
    (toLower character).isLower = false → toLower character = character

variable {character : Char}

theorem isLower_toLower (upper : character.isUpper = true) : character.toLower.isLower = true := by
  simp only [Char.isUpper, Char.toLower, Char.isLower, Bool.and_eq_true,
    decide_eq_true_eq, UInt32.le_iff_toNat_le] at upper ⊢
  split <;> grind [UInt32.toNat_add]

theorem toLower_of_not_isUpper (other : character.isUpper = false) : character.toLower = character := by
  simp only [Char.isUpper, Char.toLower] at other ⊢
  split <;> grind

theorem toLower_eq_iff {unicode : Unicode} {character symbol : Char}
    (uncased : symbol.toNat < 128 ∧ symbol.isLower = false ∧ symbol.isUpper = false) :
    unicode.toLower character = symbol ↔ character = symbol := by
  obtain ⟨ascii, lower, upper⟩ := uncased
  constructor
  · rintro rfl
    exact (unicode.toLower_symbol character ascii lower).symm
  · rintro rfl
    rw [unicode.toLower_ascii _ ascii, toLower_of_not_isUpper upper]

def Unicode.ascii : Unicode where
  isPrint := fun character =>
    32 ≤ character.toNat && character.toNat < 127
  toLower := Char.toLower
  toUpper := Char.toUpper
  toLower_ascii := fun _ _ => rfl
  toLower_symbol := by
    intro character _ symbol
    apply toLower_of_not_isUpper
    apply eq_false_of_ne_true
    intro upper
    rw [isLower_toLower upper] at symbol
    cases symbol

variable (unicode : Unicode)

def toLower (text : String) : String := String.ofList (text.toList.map unicode.toLower)

def toUpper (text : String) : String := String.ofList (text.toList.map unicode.toUpper)

def hexadecimal (width value : Nat) : List Char :=
  let digits := Nat.toDigits 16 value
  List.replicate (width - digits.length) '0' ++ digits

def quoteCharacter (character : Char) : List Char :=
  let code := character.toNat
  if character = '"' ∨ character = '\\' then ['\\', character]
  else if unicode.isPrint character then [character]
  else
    match code with
    | 7 => ['\\', 'a']
    | 8 => ['\\', 'b']
    | 9 => ['\\', 't']
    | 10 => ['\\', 'n']
    | 11 => ['\\', 'v']
    | 12 => ['\\', 'f']
    | 13 => ['\\', 'r']
    | _ =>
      if code < 32 ∨ code = 127 then '\\' :: 'x' :: hexadecimal 2 code
      else if code < 0x10000 then '\\' :: 'u' :: hexadecimal 4 code
      else '\\' :: 'U' :: hexadecimal 8 code

def quote (text : String) : String :=
  String.ofList ('"' :: text.toList.flatMap (quoteCharacter unicode) ++ ['"'])

end ProxiPort.Go
