import Mathlib.Data.List.Forall2

/-!
# Limited output

`LimitedWriter` of `client/command.go`: the output of a command is decoded write by write, and no
more than a number of bytes is passed on.
-/

namespace ProxiPort.Commands

open List

structure LimitedWriter where
  /-- `Decoder.Bytes`, which starts anew at every call. -/
  decoder : Option (List UInt8 → Except String (List UInt8))
  limit : Nat

/-- What the underlying writer answers: how many bytes it has taken, and its error. -/
abbrev Writer := List UInt8 → Nat × Option String

namespace LimitedWriter

def decode (w : LimitedWriter) (p : List UInt8) : Except String (List UInt8) :=
  match w.decoder with
  | none => .ok p
  | some decoder => decoder p

/-- `Write`: the writer afterwards, what the underlying writer has taken, and the answer. -/
def write (w : LimitedWriter) (writer : Writer) (p : List UInt8) :
    LimitedWriter × List UInt8 × Nat × Option String :=
  match w.decode p with
  | .error err => (w, [], 0, some err)
  | .ok decoded =>
    let toWrite := if w.limit < decoded.length then w.limit else decoded.length
    if toWrite = 0 then (w, [], p.length, none)
    else
      let (n, err) := writer (decoded.take toWrite)
      ({ w with limit := w.limit - n }, (decoded.take toWrite).take n,
        if err.isSome then n else p.length, err)

/-- One write after the other: all bytes that are passed on, and all answers. -/
def writeAll (writer : Writer) :
    LimitedWriter → List (List UInt8) → List UInt8 × List (Nat × Option String)
  | _, [] => ([], [])
  | w, p :: rest =>
    let (next, passed, answer) := w.write writer p
    let (later, answers) := writeAll writer next rest
    (passed ++ later, answer :: answers)

def works : Writer := fun bytes => (bytes.length, none)

variable {w : LimitedWriter} {p decoded out whole : List UInt8} {chunks : List (List UInt8)}

theorem write_works (read : w.decode p = .ok decoded) :
    w.write works p =
      ({ w with limit := w.limit - decoded.length }, decoded.take w.limit, p.length, none) := by
  simp only [write, read]
  generalize count : (if w.limit < decoded.length then w.limit else decoded.length) = toWrite
  have least : toWrite = min w.limit decoded.length := by
    rw [← count]
    split <;> omega
  have same : decoded.take toWrite = decoded.take w.limit := by
    rw [take_eq_take_iff]
    omega
  split
  · rename_i nothing
    have unchanged : w.limit - decoded.length = w.limit := by omega
    rw [unchanged, ← same, nothing, take_zero]
  · have left : w.limit - (decoded.take w.limit).length = w.limit - decoded.length := by
      rw [length_take]
      omega
    simp only [works, same, left, take_length, Option.isSome_none, Bool.false_eq_true, if_false]

/-- With a writer that works, all writes are answered in full exactly if each of them can be
decoded, and what is passed on is decoded write by write. -/
theorem writeAll_works_iff :
    w.writeAll works chunks = (out, chunks.map fun p => (p.length, none)) ↔
      ∃ parts, Forall₂ (fun p part => w.decode p = .ok part) chunks parts ∧
        out = parts.flatten.take w.limit := by
  induction chunks generalizing w out with
  | nil => simp [writeAll, eq_comm]
  | cons p rest induction =>
    cases read : w.decode p with
    | error err =>
      refine iff_of_false ?_ ?_
      · simp [writeAll, write, read]
      · rintro ⟨_, decodes, _⟩
        cases decodes with
        | cons same _ => cases read.symm.trans same
    | ok decoded =>
      have step := write_works read
      constructor
      · intro all
        rw [writeAll, step] at all
        obtain ⟨bytes, answers⟩ := Prod.mk.inj all
        obtain ⟨parts, decodes, same⟩ := induction.mp (Prod.ext rfl (cons.inj answers).2)
        refine ⟨decoded :: parts, .cons read decodes, ?_⟩
        rw [← bytes, flatten_cons, take_append]
        exact congrArg _ same
      · rintro ⟨_, decodes, rfl⟩
        cases decodes with
        | cons same later =>
          cases read.symm.trans same
          have rest := induction (w := { w with limit := w.limit - decoded.length }).mpr
            ⟨_, later, rfl⟩
          simp only [writeAll, step, rest, map_cons, flatten_cons, take_append]

/-- The first bytes of the decoding of the whole stream are passed on, and every write is answered
in full. -/
def Unaffected (w : LimitedWriter) (chunks : List (List UInt8)) : Prop :=
  ∃ whole, w.decode chunks.flatten = .ok whole ∧
    w.writeAll works chunks = (whole.take w.limit, chunks.map fun p => (p.length, none))

/-- UTF-16 with the low byte first, for characters of one unit; half a unit is replaced. -/
def utf16 : List UInt8 → List UInt8
  | [] => []
  | [_] => "\uFFFD".toUTF8.data.toList
  | low :: high :: rest =>
    (String.singleton (.ofNat (high.toNat * 256 + low.toNat))).toUTF8.data.toList ++ utf16 rest

end LimitedWriter

end ProxiPort.Commands
