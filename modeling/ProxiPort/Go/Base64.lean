import ProxiPort.Go.Strings

/-!
# Bytes, texts and `encoding/base64`

Conversions between texts and bytes, and `base64.StdEncoding`.  The decoder
skips line breaks and insists on padding, as the Go one does; the offset in
its error is left out.
-/

namespace ProxiPort.Go

open List

def bytes (text : String) : List UInt8 := text.toUTF8.data.toList

/-- `string(data)`, for data that is a text at all. -/
def string (data : List UInt8) : Option String := String.fromUTF8? ⟨⟨data⟩⟩

@[simp] theorem string_bytes (text : String) : string (bytes text) = some text := by
  simp only [string, bytes, String.fromUTF8?]
  exact dif_pos text.isValidUTF8

namespace Base64

def symbol (sextet : Nat) : Char :=
  if sextet < 26 then Char.ofNat ('A'.toNat + sextet)
  else if sextet < 52 then Char.ofNat ('a'.toNat + (sextet - 26))
  else if sextet < 62 then Char.ofNat ('0'.toNat + (sextet - 52))
  else if sextet = 62 then '+'
  else '/'

def sextet (symbol : Char) : Option Nat :=
  if symbol.isUpper then some (symbol.toNat - 'A'.toNat)
  else if symbol.isLower then some (symbol.toNat - 'a'.toNat + 26)
  else if symbol.isDigit then some (symbol.toNat - '0'.toNat + 52)
  else if symbol = '+' then some 62
  else if symbol = '/' then some 63
  else none

def padding : Char := '='

def encodeBytes : List UInt8 → List Char
  | [] => []
  | [a] =>
    [symbol (a.toNat / 4), symbol (a.toNat % 4 * 16), padding, padding]
  | [a, b] =>
    [symbol (a.toNat / 4), symbol (a.toNat % 4 * 16 + b.toNat / 16),
      symbol (b.toNat % 16 * 4), padding]
  | a :: b :: c :: rest =>
    symbol (a.toNat / 4) :: symbol (a.toNat % 4 * 16 + b.toNat / 16) ::
      symbol (b.toNat % 16 * 4 + c.toNat / 64) :: symbol (c.toNat % 64) ::
      encodeBytes rest

def encodeToString (data : List UInt8) : String := String.ofList (encodeBytes data)

def decodeSymbols : List Char → Option (List UInt8)
  | [] => some []
  | a :: b :: c :: d :: rest => do
    let first ← sextet a
    let second ← sextet b
    let head := UInt8.ofNat (first * 4 + second / 16)
    if rest = [] ∧ d = padding then
      if c = padding then return [head]
      let third ← sextet c
      return [head, UInt8.ofNat (second % 16 * 16 + third / 4)]
    let third ← sextet c
    let fourth ← sextet d
    let tail ← decodeSymbols rest
    return head :: UInt8.ofNat (second % 16 * 16 + third / 4) ::
      UInt8.ofNat (third % 4 * 64 + fourth) :: tail
  | _ => none

def isLineBreak (character : Char) : Bool := character = '\n' || character = '\r'

def decodeString (text : String) : Option (List UInt8) :=
  decodeSymbols (text.toList.filter fun character => !isLineBreak character)

variable {index : Nat}

theorem sextet_symbol (small : index < 64) : sextet (symbol index) = some index := by
  have all : ∀ index < 64, sextet (symbol index) = some index := by
    decide +kernel
  exact all index small

/-- The alphabet has no padding, no line breaks and none of the characters
that the formats around encoded texts use as separators. -/
theorem symbol_plain (small : index < 64) : symbol index ∉ [padding, '\n', '\r', ':', '$'] := by
  have all : ∀ index < 64, symbol index ∉ [padding, '\n', '\r', ':', '$'] := by
    decide +kernel
  exact all index small

theorem symbol_ne_padding (small : index < 64) : symbol index ≠ padding := by
  intro same
  exact symbol_plain small (same ▸ mem_cons_self)

variable {data : List UInt8} {character : Char}

theorem mem_encodeBytes (member : character ∈ encodeBytes data) :
    (∃ index < 64, character = symbol index) ∨ character = padding := by
  induction data using encodeBytes.induct with
  | case1 => cases member
  | case2 a =>
    have := a.toNat_lt
    simp only [encodeBytes, mem_cons, not_mem_nil, or_false] at member
    rcases member with known | known | padded | padded
    · exact .inl ⟨_, by omega, known⟩
    · exact .inl ⟨_, by omega, known⟩
    all_goals exact .inr padded
  | case3 a b =>
    have := a.toNat_lt
    have := b.toNat_lt
    simp only [encodeBytes, mem_cons, not_mem_nil, or_false] at member
    rcases member with known | known | known | padded
    on_goal 4 => exact .inr padded
    all_goals exact .inl ⟨_, by omega, known⟩
  | case4 a b c rest induction =>
    have := a.toNat_lt
    have := b.toNat_lt
    have := c.toNat_lt
    simp only [encodeBytes, mem_cons] at member
    rcases member with known | known | known | known | later
    on_goal 5 => exact induction later
    all_goals exact .inl ⟨_, by omega, known⟩

theorem plain_of_mem (member : character ∈ encodeBytes data) :
    character ∉ ['\n', '\r', ':', '$'] := by
  rcases mem_encodeBytes member with ⟨index, small, rfl⟩ | rfl
  · intro separator
    exact symbol_plain small (mem_cons_of_mem _ separator)
  · decide

theorem ofNat_joined {a : UInt8} {value : Nat} (same : value = a.toNat) :
    UInt8.ofNat value = a := by
  rw [same, UInt8.ofNat_toNat]

theorem decodeSymbols_encodeBytes (data : List UInt8) :
    decodeSymbols (encodeBytes data) = some data := by
  induction data using encodeBytes.induct with
  | case1 => rfl
  | case2 a =>
    have := a.toNat_lt
    have head : UInt8.ofNat (a.toNat / 4 * 4 + a.toNat % 4 * 16 / 16) = a := ofNat_joined (by omega)
    simp only [encodeBytes, decodeSymbols]
    rw [sextet_symbol (by omega), sextet_symbol (by omega)]
    simp only [Option.bind_eq_bind, Option.bind_some, head, and_self, if_true]
    rfl
  | case3 a b =>
    have := a.toNat_lt
    have := b.toNat_lt
    have head : UInt8.ofNat (a.toNat / 4 * 4 + (a.toNat % 4 * 16 + b.toNat / 16) / 16) = a :=
      ofNat_joined (by omega)
    have middle : UInt8.ofNat ((a.toNat % 4 * 16 + b.toNat / 16) % 16 * 16 +
          b.toNat % 16 * 4 / 4) = b :=
      ofNat_joined (by omega)
    have notPadding : symbol (b.toNat % 16 * 4) ≠ padding := symbol_ne_padding (by omega)
    simp only [encodeBytes, decodeSymbols]
    rw [sextet_symbol (by omega), sextet_symbol (by omega), sextet_symbol (by omega)]
    simp only [Option.bind_eq_bind, Option.bind_some, head, middle,
      notPadding, and_self, if_true, if_false]
    rfl
  | case4 a b c rest induction =>
    have := a.toNat_lt
    have := b.toNat_lt
    have := c.toNat_lt
    have head : UInt8.ofNat (a.toNat / 4 * 4 + (a.toNat % 4 * 16 + b.toNat / 16) / 16) = a :=
      ofNat_joined (by omega)
    have middle : UInt8.ofNat ((a.toNat % 4 * 16 + b.toNat / 16) % 16 * 16 +
          (b.toNat % 16 * 4 + c.toNat / 64) / 4) = b :=
      ofNat_joined (by omega)
    have last : UInt8.ofNat ((b.toNat % 16 * 4 + c.toNat / 64) % 4 * 64 + c.toNat % 64) = c :=
      ofNat_joined (by omega)
    have notPadding : symbol (c.toNat % 64) ≠ padding := symbol_ne_padding (by omega)
    simp only [encodeBytes, decodeSymbols]
    rw [sextet_symbol (by omega), sextet_symbol (by omega),
      sextet_symbol (by omega), sextet_symbol (by omega)]
    simp only [Option.bind_eq_bind, Option.bind_some, head, middle, last,
      notPadding, and_false, if_false, induction]
    rfl

theorem decodeString_encodeToString (data : List UInt8) :
    decodeString (encodeToString data) = some data := by
  have noBreaks : ∀ character ∈ encodeBytes data, (!isLineBreak character) = true := by
    intro character member
    have plain := plain_of_mem member
    simp only [mem_cons, not_or] at plain
    simp [isLineBreak, plain.1, plain.2.1]
  rw [decodeString, encodeToString, String.toList_ofList,
    filter_eq_self.mpr noBreaks, decodeSymbols_encodeBytes]

theorem encodeToString_plain (data : List UInt8) :
    ':' ∉ (encodeToString data).toList ∧ '$' ∉ (encodeToString data).toList := by
  rw [encodeToString, String.toList_ofList]
  constructor
  all_goals
    intro member
    exact plain_of_mem member (by decide)

theorem encodeToString_ne_empty (present : data ≠ []) : encodeToString data ≠ "" := by
  intro empty
  have decoded := decodeString_encodeToString data
  rw [empty] at decoded
  exact present (Option.some.inj decoded).symm

example : encodeToString [77, 97, 110, 33] = "TWFuIQ==" := by decide +kernel

end Base64

end ProxiPort.Go
