import Mathlib
import OwlId.Lib.Doubles
import OwlId.Lib.JsText
import OwlId.ProofSystem.Attestation

/-! # The claim-commitment tree in the SDK

The SDK's port of `claim_value32` and `owl_root_for_claims`, with which a wallet
rebuilds the tree the issuer signed.  The port reads the JSON values as JavaScript
does: every number is a double, trimming and case go by Unicode, and dates and
numerals are matched by regular expressions.
-/

namespace OwlId.Sdk

open OwlId.Lib OwlId.ProofSystem

/-! ## JSON numbers in JavaScript -/

/-- A finite double: the integer it holds, or that it holds none (and is not zero). -/
inductive JsNumber where
  | integer (n : Int)
  | fraction
deriving DecidableEq

/-- What `JSON.parse` makes of a number; a `u64` or `i64` is rounded. -/
def jsNumber : Number → JsNumber
  | .posInt n => .integer (roundDouble n)
  | .negInt n => .integer (-(roundDouble n.natAbs : Int))
  | .float bits =>
    match floatInteger bits with
    | some n => .integer n
    | none => .fraction

/-- `Number(n)` of a big integer, `none` being infinite. -/
def numberOf (n : Int) : Option Int :=
  (toDouble n.natAbs).map fun m => if n < 0 then -(m : Int) else m

/-! ## Coercions -/

/-- `/^\d+$/`, with the number it denotes. -/
def decimal (text : String) : Option Nat :=
  if text.toList = [] then none else parseDigits 0 text.toList

/-- A negative number has no digits. -/
def intLE32 (n : Int) : Bytes32 := padBytes (leDigits 16 n.toNat)

def toBigInt : Json → Option Int
  | .number n =>
    match jsNumber n with
    | .integer m => some m
    | .fraction => none
  | .string s => (decimal (jsTrim s)).map Int.ofNat
  | _ => none

def toBool : Json → Option Bool
  | .bool b => some b
  | .number n => some (jsNumber n != .integer 0)
  | .string s =>
    match toLowerCase (jsTrim s) with
    | "true" | "yes" | "1" => some true
    | "false" | "no" | "0" => some false
    | _ => none
  | _ => none

/-- `/^(\d{4})-(\d{2})-(\d{2})/`: what follows the day is not looked at. -/
def matchDate : List Char → Option (Nat × Nat × Nat)
  | y₁ :: y₂ :: y₃ :: y₄ :: dash :: m₁ :: m₂ :: dash' :: d₁ :: d₂ :: _ => do
    let y ← parseDigits 0 [y₁, y₂, y₃, y₄]
    let m ← parseDigits 0 [m₁, m₂]
    let d ← parseDigits 0 [d₁, d₂]
    if dash = '-' ∧ dash' = '-' then some (y, m, d) else none
  | _ => none

def dateToYmd (v : Json) : Option Nat := do
  let s ← v.asStr
  let (y, mm, dd) ← matchDate (jsTrim s).toList
  if mm < 1 ∨ mm > 12 ∨ dd < 1 ∨ dd > 31 then none else some (y * 10000 + mm * 100 + dd)

/-- `0x` is stripped once; what is left has to be 64 hex digits. -/
def hexTo32 (v : Json) : Option Bytes32 := do
  let s ← v.asStr
  let h := String.ofList (strip0x s.toList)
  if utf16Length h = 64 ∧ h.toList.all (fun c => (hexVal c).isSome) = true then
    tryInto32 (parseHexPairs (utf16Units h))
  else none

/-- A level, which is `none` inside where the number is infinite. -/
def verificationLevelToNumber (v : Json) : Option (Option Int) :=
  match toBigInt v with
  | some n => some (numberOf n)
  | none => v.asStr.bind fun s =>
    match toLowerCase (jsTrim s) with
    | "none" | "" => some (some 0)
    | "low" | "basic" => some (some 1)
    | "medium" | "substantial" => some (some 2)
    | "high" => some (some 3)
    | _ => none

/-- The message `BigInt` throws with. -/
def infiniteLevel : String :=
  "The number Infinity cannot be converted to a BigInt because it is not an integer"

/-- `null` is `.ok none`; an infinite level throws. -/
def claimValue32 (name : String) (value : Json) : Except String (Option Bytes32) :=
  match name with
  | "verification_level" =>
    match verificationLevelToNumber value with
    | none => .ok none
    | some (some n) => .ok (some (intLE32 n))
    | some none => .error infiniteLevel
  | "birthdate" => .ok ((dateToYmd value).map fun d : Nat => intLE32 d)
  | "email_verified" | "resident" => .ok ((toBool value).map fun b => intLE32 b.toNat)
  | "nationality" | "residentCountry" =>
    .ok (value.asStr.map fun s => padBytes (asBytes (toUpperCase s)))
  | "personhoodSecret" => .ok (hexTo32 value)
  | _ => .ok none

/-! ## The tree -/

/-- The code units of a string, by which JavaScript orders strings. -/
def utf16Codes (s : String) : List Nat :=
  s.toList.flatMap fun c =>
    if c.toNat < 0x10000 then [c.toNat]
    else [0xd800 + (c.toNat - 0x10000) / 0x400, 0xdc00 + (c.toNat - 0x10000) % 0x400]

/-- The named commitments in the order of their slots; the slots after them are zero. -/
structure OwlRootTree where
  commits : List (String × Bytes32)
deriving DecidableEq

def OwlRootTree.leaves (tree : OwlRootTree) : List Bytes32 := tree.commits.map Prod.snd

/-- The slot of a claim; of two claims with one name the later is kept. -/
def OwlRootTree.indexByName (tree : OwlRootTree) (name : String) : Option Nat :=
  ((List.range tree.commits.length).filter fun i =>
    (tree.commits[i]?.map Prod.fst) == some name).getLast?

section

variable (H : Hashes)

/-- The commitment of a claim that a predicate can bind to. -/
def claimCommitOf (claim : ClaimEntry) : Except String (Option (String × Bytes32)) := do
  let v32 ← claimValue32 claim.name claim.value
  return v32.map fun v32 => (claim.name, claimCommit H claim.name v32 (salt32For H claim.salt))

def buildOwlRootTree (claims : List ClaimEntry) : Except String OwlRootTree := do
  let commits := (← claims.mapM (claimCommitOf H)).filterMap id
  let sorted := commits.insertionSort fun a b => utf16Codes a.1 ≤ utf16Codes b.1
  if countrySetSlots < sorted.length then
    throw ("too many predicate claims: " ++ toString sorted.length ++ " > 256")
  return ⟨sorted⟩

def owlRootBytesLE (built : OwlRootTree) : Bytes32 := frToLeBytes32 (merkleRootOf H built.leaves)

end

end OwlId.Sdk
