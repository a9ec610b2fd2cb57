import Mathlib
import OwlId.Lib.Text

/-! # Words and byte slices of a text

Splitting at white space, and the beginning of a text given by a number of bytes.  A text
is a sequence of characters, so a slice that would cut one in two does not exist.
-/

namespace OwlId.Lib

/-! ## Words -/

/-- The words between runs of `space`, in order. -/
def wordsBy (space : Char → Bool) (s : String) : List String :=
  ((s.toList.splitOnP space).filter (· ≠ [])).map String.ofList

def splitWhitespace (s : String) : List String := wordsBy isWhitespace s

/-! ## Slices -/

def takeBytes : Nat → List Char → Option (List Char)
  | 0, _ => some []
  | _ + 1, [] => none
  | n + 1, c :: rest =>
    if c.utf8Size ≤ n + 1 then (takeBytes (n + 1 - c.utf8Size) rest).map (c :: ·) else none
termination_by structural _ cs => cs

/-- `&s[..n]`; `none` where it panics. -/
def sliceTo (n : Nat) (s : String) : Option String := (takeBytes n s.toList).map String.ofList

/-- The number of bytes of a text in UTF-8. -/
def utf8Bytes (cs : List Char) : Nat := (cs.map Char.utf8Size).sum

theorem takeBytes_eq_some {n : Nat} {cs start : List Char} :
    takeBytes n cs = some start ↔ start <+: cs ∧ utf8Bytes start = n := by
  induction cs generalizing n start with
  | nil =>
    cases n with
    | zero =>
      rw [takeBytes, Option.some.injEq, List.prefix_nil]
      exact ⟨fun empty => ⟨empty.symm, empty ▸ rfl⟩, fun both => both.1.symm⟩
    | succ n =>
      rw [takeBytes, List.prefix_nil]
      refine ⟨nofun, ?_⟩
      rintro ⟨rfl, size⟩
      cases size
  | cons c rest ih =>
    cases n with
    | zero =>
      rw [takeBytes, Option.some.injEq]
      refine ⟨fun empty => empty ▸ ⟨List.nil_prefix, rfl⟩, fun both => ?_⟩
      cases start with
      | nil => rfl
      | cons d others =>
        have positive := d.utf8Size_pos
        have size := both.2
        simp only [utf8Bytes, List.map_cons, List.sum_cons] at size
        omega
    | succ n =>
      rw [takeBytes]
      cases start with
      | nil =>
        refine ⟨fun sliced => ?_, fun both => absurd both.2 (by simp [utf8Bytes])⟩
        split at sliced <;> simp at sliced
      | cons d others =>
        rw [List.cons_prefix_cons]
        simp only [utf8Bytes, List.map_cons, List.sum_cons]
        split
        case isTrue fits =>
          simp only [Option.map_eq_some_iff, ih, List.cons.injEq, utf8Bytes]
          refine ⟨?_, ?_⟩
          · rintro ⟨tail, ⟨within, size⟩, rfl, rfl⟩
            exact ⟨⟨rfl, within⟩, by omega⟩
          · rintro ⟨⟨rfl, within⟩, size⟩
            exact ⟨others, ⟨within, by omega⟩, rfl, rfl⟩
        case isFalse large =>
          refine ⟨nofun, ?_⟩
          rintro ⟨⟨rfl, _⟩, size⟩
          omega

/-- A slice exists exactly where the bytes end between two characters. -/
theorem sliceTo_isSome_iff {n : Nat} {s : String} :
    (sliceTo n s).isSome = true ↔ ∃ start, start <+: s.toList ∧ utf8Bytes start = n := by
  simp only [sliceTo, Option.isSome_map, Option.isSome_iff_exists, takeBytes_eq_some]

end OwlId.Lib
