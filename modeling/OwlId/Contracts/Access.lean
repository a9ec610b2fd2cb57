import Mathlib
import OwlId.Lib.Bytes
import OwlId.Lib.Results

/-! # Access control shared by the contracts

The vendored `Initializable`, `Ownable` and `Pausable` modules.  A circuit either
returns or fails with the message of the assertion that stopped it; a failed
circuit has no proof, so its transaction never reaches the ledger.
-/

namespace OwlId.Contracts

open OwlId.Lib

/-! ## Circuits -/

abbrev Circuit := Except String

abbrev assert (condition : Prop) [Decidable condition] (message : String) : Circuit Unit :=
  ensure condition message

/-! ## Principals -/

abbrev ZswapCoinPublicKey := Bytes32

abbrev ContractAddress := Bytes32

/-- `Either<ZswapCoinPublicKey, ContractAddress>`.  Only the side selected by the
    tag is ever read, so `canonicalize` is the identity here. -/
abbrev KeyOrAddress := ZswapCoinPublicKey ⊕ ContractAddress

def isContractAddress : KeyOrAddress → Bool
  | .inl _ => false
  | .inr _ => true

def isKeyOrAddressZero : KeyOrAddress → Bool
  | .inl key => key == zero32
  | .inr address => address == zero32

/-! ## Ledger fields and circuits -/

structure Access where
  owner : KeyOrAddress
  isInitialized : Bool
  isPaused : Bool
deriving DecidableEq

namespace Access

/-- The ledger defaults before the constructor runs. -/
def uninitialized : Access := ⟨.inl zero32, false, false⟩

def assertInitialized (access : Access) : Circuit Unit :=
  assert (access.isInitialized = true) "Initializable: contract not initialized"

def assertNotInitialized (access : Access) : Circuit Unit :=
  assert (access.isInitialized = false) "Initializable: contract already initialized"

def assertPaused (access : Access) : Circuit Unit :=
  assert (access.isPaused = true) "Pausable: not paused"

def assertNotPaused (access : Access) : Circuit Unit :=
  assert (access.isPaused = false) "Pausable: paused"

def assertOnlyOwner (access : Access) (caller : ZswapCoinPublicKey) : Circuit Unit := do
  access.assertInitialized
  match access.owner with
  | .inl owner => assert (caller = owner) "Ownable: caller is not the owner"
  | .inr _ =>
    .error "Ownable: contract address owner authentication is not yet supported"

def unsafeUncheckedTransferOwnership (access : Access) (newOwner : KeyOrAddress) :
    Circuit Access := do
  access.assertInitialized
  return { access with owner := newOwner }

/-- `_transferOwnership`: no caller check. -/
def internalTransferOwnership (access : Access) (newOwner : KeyOrAddress) : Circuit Access := do
  access.assertInitialized
  assert (isContractAddress newOwner = false) "Ownable: unsafe ownership transfer"
  access.unsafeUncheckedTransferOwnership newOwner

def unsafeTransferOwnership (access : Access) (caller : ZswapCoinPublicKey)
    (newOwner : KeyOrAddress) : Circuit Access := do
  access.assertInitialized
  access.assertOnlyOwner caller
  assert (isKeyOrAddressZero newOwner = false) "Ownable: invalid new owner"
  access.unsafeUncheckedTransferOwnership newOwner

def transferOwnership (access : Access) (caller : ZswapCoinPublicKey) (newOwner : KeyOrAddress) :
    Circuit Access := do
  access.assertInitialized
  assert (isContractAddress newOwner = false) "Ownable: unsafe ownership transfer"
  access.unsafeTransferOwnership caller newOwner

/-- `Ownable_initialize`, all a contract's constructor does. -/
def ownableInitialize (access : Access) (initialOwner : KeyOrAddress) : Circuit Access := do
  access.assertNotInitialized
  let access := { access with isInitialized := true }
  assert (isKeyOrAddressZero initialOwner = false) "Ownable: invalid initial owner"
  access.internalTransferOwnership initialOwner

def pause (access : Access) (caller : ZswapCoinPublicKey) : Circuit Access := do
  access.assertOnlyOwner caller
  access.assertNotPaused
  return { access with isPaused := true }

def unpause (access : Access) (caller : ZswapCoinPublicKey) : Circuit Access := do
  access.assertOnlyOwner caller
  access.assertPaused
  return { access with isPaused := false }

end Access

/-! ## Administrative calls -/

inductive AdminCall where
  | pause
  | unpause
  | transferOwnership (newOwner : KeyOrAddress)

def AdminCall.execute (access : Access) (caller : ZswapCoinPublicKey) :
    AdminCall → Circuit Access
  | .pause => access.pause caller
  | .unpause => access.unpause caller
  | .transferOwnership newOwner => access.transferOwnership caller newOwner

end OwlId.Contracts
