import Mathlib

/-! # Text

The string operations of the standard libraries that the modelled programs use,
with the behaviour their documentation gives them, and the facts about splitting
text at a separator.

`splitChar` is the usual split at a character: `n` separators give `n + 1`
segments, empty ones included.  `joinSegments` is the framing that undoes it,
every segment but the last followed by the separator.  The pair is exact in both
directions on separator-free segments, so a framed string and its list of
segments determine each other (`joinSegments_injective`).
-/

namespace OwlId.Lib

def splitChar (sep : Char) (s : String) : List String :=
  (s.toList.splitOn sep).map String.ofList

/-- Each segment of `init` followed by `sep`, then `last`. -/
def joinSegments (sep : Char) (init : List String) (last : String) : String :=
  match init with
  | [] => last
  | s :: rest => s.push sep ++ joinSegments sep rest last

/-- What is left of `s` when the final `tail` is cut off. -/
def cutTail (s tail : String) : String :=
  String.ofList (s.toList.take (s.toList.length - tail.toList.length))

@[simp] theorem splitChar_ne_nil (sep : Char) (s : String) : splitChar sep s ≠ [] := by
  simp [splitChar]

theorem splitChar_of_notMem {sep : Char} {s : String} (h : sep ∉ s.toList) :
    splitChar sep s = [s] := by
  simp [splitChar, List.splitOn_eq_singleton h]

theorem splitChar_push_append {sep : Char} {s : String} (h : sep ∉ s.toList) (t : String) :
    splitChar sep (s.push sep ++ t) = s :: splitChar sep t := by
  have list : (s.push sep ++ t).toList = s.toList ++ sep :: t.toList := by simp
  simp [splitChar, list, List.splitOn_append_cons_self_of_not_mem h]

theorem splitChar_joinSegments {sep : Char} {init : List String} {last : String}
    (hinit : ∀ s ∈ init, sep ∉ s.toList) (hlast : sep ∉ last.toList) :
    splitChar sep (joinSegments sep init last) = init ++ [last] := by
  induction init with
  | nil => exact splitChar_of_notMem hlast
  | cons s rest ih =>
    have hs := hinit s List.mem_cons_self
    have hrest := fun t ht => hinit t (List.mem_cons_of_mem _ ht)
    simp [joinSegments, splitChar_push_append hs, ih hrest]

theorem notMem_of_mem_splitOn {sep : Char} {l seg : List Char} (h : seg ∈ l.splitOn sep) :
    sep ∉ seg := by
  induction l generalizing seg with
  | nil =>
    simp only [List.splitOn_nil, List.mem_singleton] at h
    simp [h]
  | cons c l ih =>
    rw [List.splitOn_cons_eq_if_modifyHead] at h
    by_cases hc : c = sep
    · subst hc
      simp only [BEq.rfl, if_true, List.mem_cons] at h
      rcases h with rfl | h
      · simp
      · exact ih h
    · obtain ⟨head, tail, split⟩ := List.exists_cons_of_ne_nil (List.splitOn_ne_nil sep l)
      simp only [beq_iff_eq, hc, if_false, split, List.modifyHead_cons, List.mem_cons] at h
      rw [split] at ih
      rcases h with rfl | h
      · have : sep ∉ head := ih (by simp)
        simp only [List.mem_cons, not_or]
        exact ⟨fun e => hc e.symm, this⟩
      · exact ih (by simp [h])

/-- No segment of a split contains the separator. -/
theorem notMem_of_mem_splitChar {sep : Char} {s seg : String} (h : seg ∈ splitChar sep s) :
    sep ∉ seg.toList := by
  simp only [splitChar, List.mem_map] at h
  obtain ⟨chars, member, rfl⟩ := h
  simpa using notMem_of_mem_splitOn member

theorem toList_joinSegments (sep : Char) (init : List String) (last : String) :
    (joinSegments sep init last).toList =
      [sep].intercalate ((init ++ [last]).map String.toList) := by
  induction init with
  | nil => simp [joinSegments, List.intercalate]
  | cons s rest ih =>
    cases rest with
    | nil => simp [joinSegments, List.intercalate]
    | cons t rest => simp_all [joinSegments, List.intercalate]

/-- Splitting and framing again gives the string back. -/
theorem joinSegments_of_splitChar {sep : Char} {s : String} {init : List String} {last : String}
    (h : splitChar sep s = init ++ [last]) : joinSegments sep init last = s := by
  apply String.toList_inj.mp
  rw [toList_joinSegments, ← h]
  have : (splitChar sep s).map String.toList = s.toList.splitOn sep := by
    simp [splitChar, Function.comp_def]
  rw [this, List.intercalate_splitOn]

theorem joinSegments_injective {sep : Char} {init init' : List String} {last last' : String}
    (hinit : ∀ s ∈ init, sep ∉ s.toList) (hlast : sep ∉ last.toList)
    (hinit' : ∀ s ∈ init', sep ∉ s.toList) (hlast' : sep ∉ last'.toList)
    (h : joinSegments sep init last = joinSegments sep init' last') :
    init = init' ∧ last = last' := by
  have segments := congrArg (splitChar sep) h
  rw [splitChar_joinSegments hinit hlast, splitChar_joinSegments hinit' hlast'] at segments
  obtain ⟨hl, hr⟩ := List.append_inj' segments rfl
  exact ⟨hl, by simpa using hr⟩

/-- The framed text is its part before `last`, then `last`. -/
theorem joinSegments_eq_append (sep : Char) (init : List String) (last : String) :
    joinSegments sep init last = joinSegments sep init "" ++ last := by
  induction init with
  | nil => simp [joinSegments]
  | cons s rest ih => rw [joinSegments, ih, joinSegments, String.append_assoc]

@[simp] theorem cutTail_append (s tail : String) : cutTail (s ++ tail) tail = s := by
  simp [cutTail]

/-! ## Trimming, case and numbers -/

/-- The Unicode `White_Space` property. -/
def isWhitespace (c : Char) : Bool :=
  (9 ≤ c.toNat && c.toNat ≤ 13) || c.toNat == 32 || c.toNat == 133 || c.toNat == 160 ||
    c.toNat == 5760 || (8192 ≤ c.toNat && c.toNat ≤ 8202) || c.toNat == 8232 ||
    c.toNat == 8233 || c.toNat == 8239 || c.toNat == 8287 || c.toNat == 12288

def trimBy (space : Char → Bool) (s : String) : String :=
  String.ofList ((s.toList.dropWhile space).reverse.dropWhile space).reverse

def trim (s : String) : String := trimBy isWhitespace s

def asciiUpper (c : Char) : Char :=
  if 'a' ≤ c ∧ c ≤ 'z' then Char.ofNat (c.toNat - 32) else c

def asciiLower (c : Char) : Char :=
  if 'A' ≤ c ∧ c ≤ 'Z' then Char.ofNat (c.toNat + 32) else c

def toAsciiUppercase (s : String) : String := String.ofList (s.toList.map asciiUpper)

def toAsciiLowercase (s : String) : String := String.ofList (s.toList.map asciiLower)

/-- Equality up to the case of ASCII letters. -/
def eqIgnoreAsciiCase (s t : String) : Bool := toAsciiLowercase s == toAsciiLowercase t

def isAsciiAlphabetic (c : Char) : Bool :=
  ('a' ≤ c && c ≤ 'z') || ('A' ≤ c && c ≤ 'Z')

def digitVal (c : Char) : Option Nat :=
  if '0' ≤ c ∧ c ≤ '9' then some (c.toNat - 48) else none

/-- The number a non-empty run of decimal digits denotes. -/
def parseDigits : Nat → List Char → Option Nat
  | acc, [] => some acc
  | acc, c :: cs => (digitVal c).bind fun d => parseDigits (10 * acc + d) cs

/-- An unsigned integer below `bound`: decimal digits after an optional `+`. -/
def parseUnsigned (bound : Nat) (s : String) : Option Nat :=
  let digits := match s.toList with
    | '+' :: rest => rest
    | cs => cs
  if digits = [] then none
  else (parseDigits 0 digits).filter (· < bound)

/-- Every leading copy of the two-character prefix `ab`. -/
def dropPairs (a b : Char) : List Char → List Char
  | x :: y :: rest => if x = a ∧ y = b then dropPairs a b rest else x :: y :: rest
  | cs => cs

/-- `trim_start_matches("0x")`: the prefix is removed as often as it occurs. -/
def trimStart0x (s : String) : String := String.ofList (dropPairs '0' 'x' s.toList)

/-! ## Trimming -/

theorem trimBy_congr {space space' : Char → Bool} {s : String}
    (agree : ∀ c ∈ s.toList, space c = space' c) : trimBy space s = trimBy space' s := by
  have drop : ∀ {cs : List Char}, (∀ c ∈ cs, space c = space' c) →
      cs.dropWhile space = cs.dropWhile space' := by
    intro cs same
    induction cs with
    | nil => rfl
    | cons c rest ih =>
      rw [List.dropWhile_cons, List.dropWhile_cons, same c (by simp),
        ih fun d member => same d (by simp [member])]
  rw [trimBy, trimBy, drop agree, drop]
  intro c member
  exact agree c (List.dropWhile_sublist _ |>.subset (List.mem_reverse.mp member))

theorem trimBy_of_none {space : Char → Bool} {s : String}
    (spaceless : ∀ c ∈ s.toList, space c = false) : trimBy space s = s := by
  have keep : ∀ {cs : List Char}, (∀ c ∈ cs, space c = false) → cs.dropWhile space = cs := by
    intro cs none
    cases cs with
    | nil => rfl
    | cons c rest => rw [List.dropWhile_cons, none c (by simp), if_neg (by simp)]
  rw [trimBy, keep spaceless, keep, List.reverse_reverse, String.ofList_toList]
  intro c member
  exact spaceless c (List.mem_reverse.mp member)

/-- Surrounding spaces do not survive a trim. -/
theorem trimBy_surrounded {space : Char → Bool} {before after : List Char} (s : String)
    (spaces : before.all space = true) (spaces' : after.all space = true) :
    trimBy space (String.ofList (before ++ s.toList ++ after)) = trimBy space s := by
  have dropAll : ∀ {cs tail : List Char}, cs.all space = true →
      (cs ++ tail).dropWhile space = tail.dropWhile space := by
    intro cs tail all
    induction cs with
    | nil => rfl
    | cons c rest ih =>
      rw [List.all_cons, Bool.and_eq_true] at all
      rw [List.cons_append, List.dropWhile_cons, if_pos all.1, ih all.2]
  have dropEnd : ∀ cs : List Char,
      ((cs ++ after).dropWhile space).reverse.dropWhile space =
        (cs.dropWhile space).reverse.dropWhile space := by
    intro cs
    induction cs with
    | nil =>
      have none : (after ++ []).dropWhile space = [] := dropAll spaces'
      rw [List.append_nil] at none
      rw [List.nil_append, none, List.dropWhile_nil]
    | cons c rest ih =>
      by_cases blank : space c = true
      · rw [List.cons_append, List.dropWhile_cons, List.dropWhile_cons, if_pos blank, if_pos blank, ih]
      · rw [List.cons_append, List.dropWhile_cons, List.dropWhile_cons, if_neg blank, if_neg blank,
          ← List.cons_append, List.reverse_append, dropAll (by simpa using spaces')]
  rw [trimBy, trimBy, String.toList_ofList, List.append_assoc, dropAll spaces, dropEnd]

/-- Trimming commutes with a change of characters that keeps spaces. -/
theorem trimBy_map {space : Char → Bool} {f : Char → Char} (keeps : ∀ c, space (f c) = space c)
    (s : String) :
    trimBy space (String.ofList (s.toList.map f)) =
      String.ofList ((trimBy space s).toList.map f) := by
  have drop : ∀ cs : List Char, (cs.map f).dropWhile space = (cs.dropWhile space).map f := by
    intro cs
    induction cs with
    | nil => rfl
    | cons c rest ih =>
      rw [List.map_cons, List.dropWhile_cons, List.dropWhile_cons, keeps, ih]
      by_cases blank : space c = true
      · rw [if_pos blank, if_pos blank]
      · rw [if_neg blank, if_neg blank, List.map_cons]
  simp only [trimBy, String.toList_ofList, drop, ← List.map_reverse]

theorem mem_of_mem_trimBy {space : Char → Bool} {s : String} {c : Char}
    (member : c ∈ (trimBy space s).toList) : c ∈ s.toList := by
  rw [trimBy, String.toList_ofList, List.mem_reverse] at member
  have inner := (List.dropWhile_sublist _).subset member
  exact (List.dropWhile_sublist _).subset (List.mem_reverse.mp inner)

/-! ## ASCII letters -/

theorem charLe_iff (a b : Char) : a ≤ b ↔ a.toNat ≤ b.toNat := UInt32.le_iff_toNat_le

theorem toNat_ofNat_ascii {n : Nat} (ascii : n < 128) : (Char.ofNat n).toNat = n := by
  have valid : n.isValidChar := Or.inl (by omega)
  simp only [Char.ofNat, valid, dif_pos]
  rfl

theorem asciiUpper_toNat (c : Char) : (asciiUpper c).toNat =
    if 97 ≤ c.toNat ∧ c.toNat ≤ 122 then c.toNat - 32 else c.toNat := by
  simp only [asciiUpper, charLe_iff, Char.reduceToNat]
  split
  · exact toNat_ofNat_ascii (by omega)
  · rfl

theorem asciiLower_toNat (c : Char) : (asciiLower c).toNat =
    if 65 ≤ c.toNat ∧ c.toNat ≤ 90 then c.toNat + 32 else c.toNat := by
  simp only [asciiLower, charLe_iff, Char.reduceToNat]
  split
  · exact toNat_ofNat_ascii (by omega)
  · rfl

theorem asciiUpper_eq_self {c : Char} (other : c.toNat < 97 ∨ 122 < c.toNat) :
    asciiUpper c = c := by
  rw [asciiUpper, if_neg]
  simp only [charLe_iff, Char.reduceToNat]
  omega

theorem asciiLower_eq_self {c : Char} (other : c.toNat < 65 ∨ 90 < c.toNat) :
    asciiLower c = c := by
  rw [asciiLower, if_neg]
  simp only [charLe_iff, Char.reduceToNat]
  omega

theorem isWhitespace_visible {c : Char} (ascii : c.toNat < 128) (visible : 33 ≤ c.toNat) :
    isWhitespace c = false := by
  rw [Bool.eq_false_iff]
  simp only [isWhitespace, ne_eq, Bool.or_eq_true, Bool.and_eq_true, decide_eq_true_eq,
    beq_iff_eq]
  omega

theorem isWhitespace_asciiUpper (c : Char) : isWhitespace (asciiUpper c) = isWhitespace c := by
  rw [Bool.eq_iff_iff]
  simp only [isWhitespace, asciiUpper_toNat, Bool.or_eq_true, Bool.and_eq_true,
    decide_eq_true_eq, beq_iff_eq]
  split <;> omega

theorem isWhitespace_asciiLower (c : Char) : isWhitespace (asciiLower c) = isWhitespace c := by
  rw [Bool.eq_iff_iff]
  simp only [isWhitespace, asciiLower_toNat, Bool.or_eq_true, Bool.and_eq_true,
    decide_eq_true_eq, beq_iff_eq]
  split <;> omega

theorem digitVal_asciiLower (c : Char) : digitVal (asciiLower c) = digitVal c := by
  by_cases capital : 65 ≤ c.toNat ∧ c.toNat ≤ 90
  · -- neither the letter nor its lower-case form is a digit
    simp only [digitVal, charLe_iff, Char.reduceToNat, asciiLower_toNat, if_pos capital]
    rw [if_neg (by omega), if_neg (by omega)]
  · rw [asciiLower_eq_self (by omega)]

theorem asciiLower_eq_plus {c : Char} : asciiLower c = '+' ↔ c = '+' := by
  rw [← Char.toNat_inj, ← Char.toNat_inj, asciiLower_toNat]
  simp only [Char.reduceToNat]
  split <;> omega

/-! ## Occurrences -/

/-- A text without the separator occurs on one side of it or on the other. -/
theorem infix_append_cons {α : Type} {sep : α} {needle left right : List α} (absent : sep ∉ needle)
    (nonempty : needle ≠ []) :
    needle <:+: left ++ sep :: right ↔ needle <:+: left ∨ needle <:+: right := by
  constructor
  · rintro ⟨before, after, split⟩
    rw [List.append_assoc] at split
    rcases List.append_eq_append_iff.mp split with ⟨rest, rfl, tail⟩ | ⟨rest, rfl, tail⟩
    · -- the needle starts on the left; it ends there, or it would hold the separator
      rcases List.append_eq_append_iff.mp tail with ⟨beyond, rfl, _⟩ | ⟨beyond, rfl, tail'⟩
      · exact .inl ⟨before, beyond, by simp⟩
      · cases beyond with
        | nil => exact .inl ⟨before, [], by simp⟩
        | cons c beyond =>
          obtain rfl : sep = c := by simpa using congrArg List.head? tail'
          simp at absent
    · cases rest with
      | nil =>
        cases needle with
        | nil => exact absurd rfl nonempty
        | cons c needle =>
          obtain rfl : sep = c := by simpa using congrArg List.head? tail
          simp at absent
      | cons c rest =>
        right
        refine ⟨rest, after, ?_⟩
        simpa using (List.cons.inj tail).2.symm
  · rintro (⟨before, after, rfl⟩ | ⟨before, after, rfl⟩)
    · exact ⟨before, after ++ sep :: right, by simp⟩
    · exact ⟨left ++ sep :: before, after, by simp⟩

end OwlId.Lib
