import Mathlib
import OwlId.Lib.Bytes

/-! # Text that arrives in pieces

Pieces of bytes decoded one by one, and frames ended by a doubled separator.  Reading frames
does not depend on the pieces (`framesOf_append`, `completed_flatten`); decoding does, since a
piece may end inside a character (`fromUtf8_append`, `asBytes_append_eq`).
-/

namespace OwlId.Lib

/-! ## Decoding -/

/-- `std::str::from_utf8`. -/
def fromUtf8 (bytes : Bytes) : Option String := String.fromUTF8? ⟨bytes.toArray⟩

theorem fromUtf8_eq_some {bytes : Bytes} {s : String} :
    fromUtf8 bytes = some s ↔ asBytes s = bytes := by
  rw [fromUtf8, String.fromUTF8?]
  constructor
  · intro decoded
    split at decoded
    next valid =>
      cases decoded
      rfl
    next => cases decoded
  · rintro rfl
    have same : (⟨(asBytes s).toArray⟩ : ByteArray) = s.toByteArray := rfl
    rw [same, dif_pos s.isValidUTF8]
    rfl

@[simp] theorem fromUtf8_asBytes (s : String) : fromUtf8 (asBytes s) = some s :=
  fromUtf8_eq_some.mpr rfl

/-- No encoding of a character begins with that of another. -/
theorem utf8EncodeChar_append_inj {c d : Char} {x y : Bytes}
    (same : String.utf8EncodeChar c ++ x = String.utf8EncodeChar d ++ y) : c = d ∧ x = y := by
  have decoded : ∀ (c : Char) (x : Bytes),
      ByteArray.utf8DecodeChar? (String.utf8EncodeChar c ++ x).toByteArray 0 = some c := by
    intro c x
    rw [List.toByteArray_append]
    exact ByteArray.utf8DecodeChar?_utf8EncodeChar_append
  have chars : c = d := by
    have first := decoded c x
    rw [same, decoded d y] at first
    exact (Option.some.inj first).symm
  subst chars
  exact ⟨rfl, List.append_cancel_left same⟩

/-- A text whose bytes begin with those of another begins with it. -/
theorem asBytes_append_eq {s t : String} {rest : Bytes} (whole : asBytes s ++ rest = asBytes t) :
    ∃ u, asBytes u = rest ∧ t = s ++ u := by
  have chars : ∀ (cs ds : List Char) (rest : Bytes),
      cs.flatMap String.utf8EncodeChar ++ rest = ds.flatMap String.utf8EncodeChar →
        ∃ es, es.flatMap String.utf8EncodeChar = rest ∧ ds = cs ++ es := by
    intro cs
    induction cs with
    | nil => exact fun ds _ whole => ⟨ds, whole.symm, rfl⟩
    | cons c cs ih =>
      intro ds rest whole
      cases ds with
      | nil =>
        have size := congrArg List.length whole
        have positive := c.utf8Size_pos
        simp only [List.flatMap_cons, List.length_append, String.length_utf8EncodeChar,
          List.flatMap_nil, List.length_nil] at size
        omega
      | cons d ds =>
        rw [List.flatMap_cons, List.flatMap_cons, List.append_assoc] at whole
        obtain ⟨same, tails⟩ := utf8EncodeChar_append_inj whole
        obtain ⟨es, encoded, split⟩ := ih ds rest tails
        exact ⟨es, encoded, by rw [same, split]; rfl⟩
  rw [← @String.ofList_toList s, ← @String.ofList_toList t, asBytes_ofList, asBytes_ofList] at whole
  obtain ⟨es, encoded, split⟩ := chars s.toList t.toList rest whole
  refine ⟨String.ofList es, by rw [asBytes_ofList, encoded], ?_⟩
  apply String.toList_inj.mp
  rw [String.toList_append, String.toList_ofList, split]

/-! ## Frames -/

section

variable {α : Type} [DecidableEq α] (sep : α)

/-- The frames ended by two separators, cut at the first ones, and what is left. -/
def framesOf : List α → List (List α) × List α
  | [] => ([], [])
  | [c] => ([], [c])
  | c :: d :: rest =>
    if c = sep ∧ d = sep then
      let (frames, left) := framesOf rest
      ([] :: frames, left)
    else
      match framesOf (d :: rest) with
      | ([], left) => ([], c :: left)
      | (frame :: frames, left) => ((c :: frame) :: frames, left)

/-- One more element in front of an unfinished or a first frame. -/
def putFirst (c : α) : List (List α) × List α → List (List α) × List α
  | ([], left) => ([], c :: left)
  | (frame :: frames, left) => ((c :: frame) :: frames, left)

variable {sep}

theorem framesOf_separators (rest : List α) :
    framesOf sep (sep :: sep :: rest) = ([] :: (framesOf sep rest).1, (framesOf sep rest).2) := by
  rw [framesOf, if_pos ⟨rfl, rfl⟩]

theorem framesOf_cons {c d : α} (other : ¬(c = sep ∧ d = sep)) (rest : List α) :
    framesOf sep (c :: d :: rest) = putFirst c (framesOf sep (d :: rest)) := by
  rw [framesOf, if_neg other]
  rcases framesOf sep (d :: rest) with ⟨frames | ⟨frame, frames⟩, left⟩
  · rfl
  · rfl

/-- Where no frame ends, everything is left. -/
theorem framesOf_left {s : List α} (none : (framesOf sep s).1 = []) : (framesOf sep s).2 = s := by
  induction s using framesOf.induct sep with
  | case1 => rfl
  | case2 c => rfl
  | case3 c d rest both frames left read ih =>
    rw [both.1, both.2, framesOf_separators] at none
    cases none
  | case4 c d rest other left read ih =>
    rw [read] at ih
    rw [framesOf_cons other, read]
    exact congrArg (c :: ·) (ih rfl)
  | case5 c d rest other frame frames left read ih =>
    rw [framesOf_cons other, read] at none
    cases none

/-- A frame ends exactly where two separators stand together. -/
theorem framesOf_eq_nil_iff {s : List α} : (framesOf sep s).1 = [] ↔ ¬[sep, sep] <:+: s := by
  have step : ∀ {c d : α} {rest : List α}, ¬(c = sep ∧ d = sep) →
      ((framesOf sep (d :: rest)).1 = [] ↔ ¬[sep, sep] <:+: d :: rest) →
        ((framesOf sep (c :: d :: rest)).1 = [] ↔ ¬[sep, sep] <:+: c :: d :: rest) := by
    intro c d rest other ih
    have notHere : ¬[sep, sep] <+: c :: d :: rest := by
      rw [List.cons_prefix_cons, List.cons_prefix_cons]
      exact fun both => other ⟨both.1.symm, both.2.1.symm⟩
    rw [List.infix_cons_iff, or_iff_right notHere, ← ih, framesOf_cons other]
    rcases framesOf sep (d :: rest) with ⟨frames | ⟨frame, frames⟩, left⟩
    · simp [putFirst]
    · simp [putFirst]
  induction s using framesOf.induct sep with
  | case1 => simp [framesOf]
  | case2 c => simp [framesOf, List.infix_cons_iff]
  | case3 c d rest both frames left read ih =>
    rw [both.1, both.2, framesOf_separators]
    simp only [reduceCtorEq, false_iff, not_not]
    exact (List.prefix_append [sep, sep] rest).isInfix
  | case4 c d rest other left read ih => exact step other ih
  | case5 c d rest other frame frames left read ih => exact step other ih

/-- The result on a longer text, from that on its beginning. -/
theorem framesOf_append (s t : List α) :
    framesOf sep (s ++ t) =
      ((framesOf sep s).1 ++ (framesOf sep ((framesOf sep s).2 ++ t)).1,
        (framesOf sep ((framesOf sep s).2 ++ t)).2) := by
  induction s using framesOf.induct sep with
  | case1 => rfl
  | case2 c => rfl
  | case3 c d rest both frames left read ih =>
    rw [both.1, both.2, framesOf_separators, List.cons_append, List.cons_append,
      framesOf_separators, ih]
    rfl
  | case4 c d rest other left read ih =>
    have all : left = d :: rest := by
      have none : (framesOf sep (d :: rest)).1 = [] := by rw [read]
      have left := framesOf_left none
      rwa [read] at left
    rw [framesOf_cons other, read, all]
    rfl
  | case5 c d rest other frame frames left read ih =>
    rw [read] at ih
    rw [framesOf_cons other, read, List.cons_append, List.cons_append, framesOf_cons other]
    rw [List.cons_append] at ih
    rw [ih]
    rfl

theorem framesOf_idempotent (s : List α) :
    framesOf sep (framesOf sep s).2 = ([], (framesOf sep s).2) := by
  have whole := @framesOf_append _ _ sep s []
  rw [List.append_nil, List.append_nil] at whole
  have none : (framesOf sep (framesOf sep s).2).1 = [] := by
    have lengths := congrArg (fun result => result.1.length) whole
    simp only [List.length_append] at lengths
    exact List.eq_nil_of_length_eq_zero (by omega)
  exact Prod.ext none (framesOf_left none)

/-! ## Frames of a text in pieces -/

variable (sep)

/-- The frames completed by each piece, after a text that is left from before. -/
def completed (left : List α) : List (List α) → List (List (List α))
  | [] => []
  | piece :: rest =>
    (framesOf sep (left ++ piece)).1 :: completed (framesOf sep (left ++ piece)).2 rest

variable {sep}

theorem completed_append {left : List α} (unfinished : framesOf sep left = ([], left))
    (pieces rest : List (List α)) :
    completed sep left (pieces ++ rest) =
      completed sep left pieces ++
        completed sep (framesOf sep (left ++ pieces.flatten)).2 rest := by
  induction pieces generalizing left with
  | nil => rw [List.flatten_nil, List.append_nil, unfinished, List.nil_append, completed,
      List.nil_append]
  | cons piece pieces ih =>
    rw [List.cons_append, completed, completed, ih (framesOf_idempotent _), List.flatten_cons,
      ← List.append_assoc, framesOf_append (left ++ piece), List.cons_append]

/-- However a text is cut, the same frames are completed. -/
theorem completed_flatten {left : List α} (unfinished : framesOf sep left = ([], left))
    (pieces : List (List α)) :
    (completed sep left pieces).flatten = (framesOf sep (left ++ pieces.flatten)).1 := by
  induction pieces generalizing left with
  | nil =>
    rw [List.flatten_nil, List.append_nil, unfinished]
    rfl
  | cons piece rest ih =>
    rw [completed, List.flatten_cons, ih (framesOf_idempotent _), List.flatten_cons,
      ← List.append_assoc, framesOf_append (left ++ piece)]

end

end OwlId.Lib
