import Mathlib
import OwlId.Lib.JsText

/-! # Dust errors

A dust shortfall is the one balance failure worth a retry.  The pipeline of the submits and the
driver of the relay jobs both look for it in the message of the error.
-/

namespace OwlId.Sidecar

open OwlId.Lib

/-- `insufficient\s*funds` or `could not balance dust` starts here, letters in either case. -/
def dustShortfallAt (message : List Char) : Bool :=
  let lower := message.map asciiLower
  ("could not balance dust".toList).isPrefixOf lower ||
    (("insufficient".toList).isPrefixOf lower &&
      ("funds".toList).isPrefixOf ((lower.drop 12).dropWhile isJsWhitespace))

def isDustShortfallError (message : String) : Bool :=
  message.toList.tails.any dustShortfallAt

example : isDustShortfallError "Wallet.InsufficientFunds" = true ∧
    isDustShortfallError "Insufficient Funds: could not balance dust" = true ∧
    isDustShortfallError "Custom error: 170" = false := by decide

end OwlId.Sidecar
