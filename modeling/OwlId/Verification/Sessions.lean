import Mathlib
import OwlId.Verification.Dcql

/-! # Challenges and presentation sessions

Two stores hold the nonces a presentation may be bound to: the table of pending
server challenges, and the in-memory presentation sessions.  A nonce of either is
accepted once and before it expires.  Sockets and message relaying are left out;
the random bytes a creation draws are its arguments.
-/

namespace OwlId.Verification

open OwlId.Lib

/-- Seconds of the service's clock. -/
abbrev Time := Int

/-! ## Server challenges -/

structure PendingChallenge where
  challenge : String
  expiresAt : Time
  used : Bool

abbrev Challenges := Table PendingChallenge.challenge

/-- Known, not yet used and not expired. -/
def PendingChallenge.isLive (row : PendingChallenge) (now : Time) : Bool :=
  !row.used && decide (now < row.expiresAt)

/-- The hex of eight random bytes; the insertion fails when the challenge is already there. -/
def Challenges.generateChallenge (challenges : Challenges) (now : Time) (ttl : Nat)
    (random : Vector UInt8 8) : Option (Challenges × String) :=
  let challenge := hexEncode random.toList
  match challenges.find challenge with
  | some _ => none
  | none => some (challenges.insert ⟨challenge, now + ttl, false⟩, challenge)

/-- Marks a live challenge as used; returns whether there was one. -/
def Challenges.validateServerChallenge (challenges : Challenges) (now : Time)
    (challenge : String) : Challenges × Bool :=
  match challenges.find challenge with
  | some row =>
    if row.isLive now then (challenges.insert { row with used := true }, true)
    else (challenges, false)
  | none => (challenges, false)

def Challenges.cleanupPending (challenges : Challenges) (now : Time) : Challenges :=
  challenges.retain fun row => now ≤ row.expiresAt

/-! ## Identifiers -/

/-- Lower-case hyphenated form of a version 4 UUID made from 16 random bytes. -/
def uuidV4 (random : Vector UInt8 16) : String :=
  let version := (random[6] &&& 0x0f) ||| 0x40
  let variant := (random[8] &&& 0x3f) ||| 0x80
  let bytes := ((random.set 6 version).set 8 variant).toList
  hexEncode (bytes.take 4) ++ "-" ++ hexEncode ((bytes.drop 4).take 2) ++ "-" ++
    hexEncode ((bytes.drop 6).take 2) ++ "-" ++ hexEncode ((bytes.drop 8).take 2) ++ "-" ++
    hexEncode (bytes.drop 10)

theorem hyphen_mem_uuidV4 (random : Vector UInt8 16) : '-' ∈ (uuidV4 random).toList := by
  simp [uuidV4]

theorem hyphen_notMem_hexEncode (bytes : Bytes) : '-' ∉ (hexEncode bytes).toList := by
  intro member
  rw [hexEncode, String.toList_ofList] at member
  have digit := mem_hexEncodeChars member
  revert digit
  decide

/-! ## Sessions -/

structure Session where
  id : String
  nonce : String
  expiresAt : Time
  dcqlQuery : Option DcqlRequest
  verifierName : Option String
  audience : Option String

structure SessionRequestData where
  nonce : String
  dcqlQuery : Option DcqlRequest
  verifierName : Option String
  audience : Option String

abbrev PresentationSessionStore := Table Session.id

namespace PresentationSessionStore

/-- Returns the session id and the nonce, drawn from 32 random bytes. -/
def create (store : PresentationSessionStore) (now : Time) (ttlSecs : Nat)
    (idRandom nonceRandom : Vector UInt8 16) (dcqlQuery : Option DcqlRequest)
    (verifierName audience : Option String) : PresentationSessionStore × String × String :=
  let id := uuidV4 idRandom
  let nonce := hexEncode nonceRandom.toList
  (store.insert ⟨id, nonce, now + ttlSecs, dcqlQuery, verifierName, audience⟩, id, nonce)

def getRequestData (store : PresentationSessionStore) (now : Time) (sessionId : String) :
    Option SessionRequestData := do
  let s ← store.find sessionId
  if s.expiresAt < now then none
  else some ⟨s.nonce, s.dcqlQuery, s.verifierName, s.audience⟩

/-- The session a nonce would consume: the first live one that has it. -/
def sessionOfNonce (store : PresentationSessionStore) (now : Time) (nonce : String) :
    Option Session :=
  store.rows.find? fun s => s.nonce = nonce ∧ now < s.expiresAt

/-- Removes the session of the nonce; returns whether there was one. -/
def consumeNonce (store : PresentationSessionStore) (now : Time) (nonce : String) :
    PresentationSessionStore × Bool :=
  match sessionOfNonce store now nonce with
  | some s => (store.erase s.id, true)
  | none => (store, false)

def cleanup (store : PresentationSessionStore) (now : Time) : PresentationSessionStore :=
  store.retain fun s => now < s.expiresAt

theorem sessionOfNonce_eq_some {store : PresentationSessionStore} {now : Time} {nonce : String}
    {s : Session} (found : sessionOfNonce store now nonce = some s) :
    s ∈ store.rows ∧ s.nonce = nonce ∧ now < s.expiresAt :=
  ⟨List.mem_of_find?_eq_some found, by simpa using List.find?_some found⟩

end PresentationSessionStore

end OwlId.Verification
