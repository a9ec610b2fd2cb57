import Mathlib
import OwlId.Issuer.Normalizer

/-! # The Didit provider's decision

`evaluate_decision` turns a decision response into a verdict, and `parse_verification_data`
turns an approved one into claims.  Both look at the first element of the arrays in the
response, or at the older singular field where the array is empty.
-/

namespace OwlId.Issuer

open OwlId.Lib

/-! ## The response -/

structure DiditWarning where
  risk : Option String
  shortDescription : Option String
  longDescription : Option String

/-- `score` is the number as `{}` prints it. -/
structure DiditFaceMatch where
  status : Option String
  score : Option String

structure DiditParsedAddress where
  country : Option String
  isVerified : Option Bool

structure DiditIdVerification where
  status : Option String
  firstName : Option String := none
  lastName : Option String := none
  dateOfBirth : Option String := none
  nationality : Option String := none
  documentType : Option String := none
  documentNumber : Option String := none
  issuingState : Option String := none
  gender : Option String := none
  expirationDate : Option String := none
  dateOfIssue : Option String := none
  portraitImage : Option String := none
  address : Option String := none
  placeOfBirth : Option String := none
  parsedAddress : Option DiditParsedAddress := none
  warnings : Option (List DiditWarning) := none

structure DiditDecisionResponse where
  status : String
  decision : Option String := none
  idVerification : Option DiditIdVerification := none
  idVerifications : Option (List DiditIdVerification) := none
  faceMatches : Option (List DiditFaceMatch) := none

/-! ## The verdict -/

structure VerificationWarning where
  code : String
  shortDescription : String
  longDescription : Option String
  risk : Option String

structure PendingDetails where
  message : String
  providerStatus : String
  warnings : List VerificationWarning
  retryAfterSecs : Nat

inductive DiditOutcome where
  | approved
  | failed (reason : String)
  | pending (details : PendingDetails)

def DiditOutcome.isFailed : DiditOutcome → Bool
  | failed _ => true
  | _ => false

namespace DiditDecisionResponse

/-- The face match that is looked at. -/
def faceMatch (decision : DiditDecisionResponse) : Option DiditFaceMatch :=
  decision.faceMatches.bind List.head?

/-- The id verification that is looked at. -/
def idFirst (decision : DiditDecisionResponse) : Option DiditIdVerification :=
  (decision.idVerifications.bind List.head?).or decision.idVerification

end DiditDecisionResponse

def isPendingStatus (status : String) : Bool :=
  status = "In Review" || status = "Pending" || status = "Processing"

def DiditWarning.surfaced (w : DiditWarning) : VerificationWarning where
  code := w.risk.getD "UNKNOWN"
  shortDescription := w.shortDescription.getD "Review required"
  longDescription := w.longDescription
  risk := w.risk

def verificationDeclined (decision : DiditDecisionResponse) : DiditOutcome :=
  .failed ("Didit verification declined: " ++ decision.decision.getD "Verification rejected")

/-- The verdict where no component is rejected. -/
def routeOnSession (decision : DiditDecisionResponse) : DiditOutcome :=
  let idStatus := decision.idFirst.bind DiditIdVerification.status
  let faceMatchApproved :=
    decide (decision.faceMatch.bind DiditFaceMatch.status = some "Approved")
  if decision.status = "Approved" then
    if idStatus = some "Approved" ∧ (faceMatchApproved ∨ decision.faceMatch.isSome = false) then
      .approved
    else
      .pending ⟨"Verification approved, waiting for data", decision.status, [], 5⟩
  else if decision.status = "Declined" ∨ decision.status = "Rejected" then
    verificationDeclined decision
  else if isPendingStatus decision.status then
    .pending ⟨"Verification requires review (status: " ++ decision.status ++ ")", decision.status,
      (((decision.idFirst.bind DiditIdVerification.warnings).map
        (List.map DiditWarning.surfaced)).getD []), 5⟩
  else .pending ⟨"Unknown status: " ++ decision.status, decision.status, [], 5⟩

/-- A face match is rejected on any status but approved and pending, an id verification and a
session on the statuses that say so. -/
def evaluateDecision (decision : DiditDecisionResponse) : DiditOutcome :=
  match decision.faceMatch.bind DiditFaceMatch.status with
  | some status =>
    if status ≠ "Approved" ∧ isPendingStatus status = false then
      .failed ("Didit face match " ++ status ++ " (face does not match the document portrait" ++
        (((decision.faceMatch.bind DiditFaceMatch.score).map (", score: " ++ ·)).getD "") ++ ")")
    else afterFaceMatch decision
  | none => afterFaceMatch decision
where
  afterFaceMatch (decision : DiditDecisionResponse) : DiditOutcome :=
    match decision.idFirst.bind DiditIdVerification.status with
    | some s =>
      if s = "Declined" ∨ s = "Rejected" ∨ s = "Failed" then
        .failed ("Didit id verification " ++ s)
      else afterIdVerification decision
    | none => afterIdVerification decision
  afterIdVerification (decision : DiditDecisionResponse) : DiditOutcome :=
    if decision.status = "Declined" ∨ decision.status = "Rejected" then
      verificationDeclined decision
    else routeOnSession decision

/-! ## The claims -/

/-- The claims of one id verification; `portrait` fetches an image as base64, if it can. -/
def DiditIdVerification.verificationData (portrait : String → Option String)
    (idVerification : DiditIdVerification) : DiditVerificationData :=
  let parsed := idVerification.parsedAddress
  { firstName := idVerification.firstName.getD ""
    lastName := idVerification.lastName.getD ""
    dateOfBirth := idVerification.dateOfBirth.getD ""
    nationality := idVerification.nationality.getD ""
    documentType := idVerification.documentType.getD ""
    documentNumber := idVerification.documentNumber.getD ""
    issuingState := idVerification.issuingState.getD ""
    gender := idVerification.gender
    expirationDate := idVerification.expirationDate
    dateOfIssue := idVerification.dateOfIssue
    portraitImage := idVerification.portraitImage.bind portrait
    address := idVerification.address
    placeOfBirth := idVerification.placeOfBirth
    -- a country name is cut to two letters
    residentCountry := (parsed.bind DiditParsedAddress.country).map fun c =>
      String.ofList ((toUpperCase c).toList.take 2)
    addressVerified := (parsed.bind DiditParsedAddress.isVerified).getD false }

def parseVerificationData (portrait : String → Option String) (decision : DiditDecisionResponse) :
    Except String DiditVerificationData := do
  let idVerification ← okOr decision.idFirst "No ID verification data in decision"
  return idVerification.verificationData portrait

/-! ## What is declined -/

def DiditFaceMatch.Declined (f : DiditFaceMatch) : Prop :=
  ∃ status, f.status = some status ∧ status ≠ "Approved" ∧ isPendingStatus status = false

def DiditIdVerification.Declined (v : DiditIdVerification) : Prop :=
  ∃ status, v.status = some status ∧
    (status = "Declined" ∨ status = "Rejected" ∨ status = "Failed")

namespace DiditDecisionResponse

def SessionDeclined (decision : DiditDecisionResponse) : Prop :=
  decision.status = "Declined" ∨ decision.status = "Rejected"

def allFaceMatches (decision : DiditDecisionResponse) : List DiditFaceMatch :=
  decision.faceMatches.getD []

/-- Every id verification of the response, in the array and in the singular field. -/
def allIdVerifications (decision : DiditDecisionResponse) : List DiditIdVerification :=
  decision.idVerifications.getD [] ++ decision.idVerification.toList

/-- The first face match or the used id verification is declined, or the session is. -/
def UsedDeclined (decision : DiditDecisionResponse) : Prop :=
  (∃ f, decision.faceMatch = some f ∧ f.Declined) ∨
    (∃ v, decision.idFirst = some v ∧ v.Declined) ∨ decision.SessionDeclined

/-- The session and the used id verification are approved, and the first face match if there is
one. -/
def UsedApproved (decision : DiditDecisionResponse) : Prop :=
  decision.status = "Approved" ∧ (∃ v, decision.idFirst = some v ∧ v.status = some "Approved") ∧
    ∀ f, decision.faceMatch = some f → f.status = some "Approved"

end DiditDecisionResponse

variable {decision : DiditDecisionResponse}

theorem faceMatch_declined_iff : (∃ f, decision.faceMatch = some f ∧ f.Declined) ↔
    ∃ status, decision.faceMatch.bind DiditFaceMatch.status = some status ∧
      status ≠ "Approved" ∧ isPendingStatus status = false := by
  simp only [Option.bind_eq_some_iff, DiditFaceMatch.Declined]
  exact ⟨fun ⟨f, here, status, stated, rejected⟩ => ⟨status, ⟨f, here, stated⟩, rejected⟩,
    fun ⟨status, ⟨f, here, stated⟩, rejected⟩ => ⟨f, here, status, stated, rejected⟩⟩

theorem idFirst_declined_iff : (∃ v, decision.idFirst = some v ∧ v.Declined) ↔
    ∃ status, decision.idFirst.bind DiditIdVerification.status = some status ∧
      (status = "Declined" ∨ status = "Rejected" ∨ status = "Failed") := by
  simp only [Option.bind_eq_some_iff, DiditIdVerification.Declined]
  exact ⟨fun ⟨v, here, status, stated, rejected⟩ => ⟨status, ⟨v, here, stated⟩, rejected⟩,
    fun ⟨status, ⟨v, here, stated⟩, rejected⟩ => ⟨v, here, status, stated, rejected⟩⟩

theorem afterIdVerification_cases :
    (decision.SessionDeclined ∧
      ∃ reason, evaluateDecision.afterIdVerification decision = .failed reason) ∨
    (¬decision.SessionDeclined ∧
      evaluateDecision.afterIdVerification decision = routeOnSession decision) := by
  unfold evaluateDecision.afterIdVerification
  split
  case isTrue declined => exact .inl ⟨declined, _, rfl⟩
  case isFalse live => exact .inr ⟨live, rfl⟩

theorem afterFaceMatch_cases :
    (((∃ v, decision.idFirst = some v ∧ v.Declined) ∨ decision.SessionDeclined) ∧
      ∃ reason, evaluateDecision.afterFaceMatch decision = .failed reason) ∨
    (¬((∃ v, decision.idFirst = some v ∧ v.Declined) ∨ decision.SessionDeclined) ∧
      evaluateDecision.afterFaceMatch decision = routeOnSession decision) := by
  rw [idFirst_declined_iff]
  unfold evaluateDecision.afterFaceMatch
  cases stated : decision.idFirst.bind DiditIdVerification.status with
  | none => simpa using afterIdVerification_cases
  | some status =>
    by_cases rejected : status = "Declined" ∨ status = "Rejected" ∨ status = "Failed"
    · simp only [if_pos rejected]
      exact .inl ⟨.inl ⟨status, rfl, rejected⟩, _, rfl⟩
    · simp only [Option.some.injEq, exists_eq_left', rejected, false_or]
      exact afterIdVerification_cases

/-- A component or the session is rejected, or the session's status decides. -/
theorem evaluateDecision_cases :
    (decision.UsedDeclined ∧ ∃ reason, evaluateDecision decision = .failed reason) ∨
    (¬decision.UsedDeclined ∧ evaluateDecision decision = routeOnSession decision) := by
  rw [DiditDecisionResponse.UsedDeclined, faceMatch_declined_iff]
  unfold evaluateDecision
  cases stated : decision.faceMatch.bind DiditFaceMatch.status with
  | none => simpa using afterFaceMatch_cases
  | some status =>
    by_cases rejected : status ≠ "Approved" ∧ isPendingStatus status = false
    · simp only [if_pos rejected]
      exact .inl ⟨.inl ⟨status, rfl, rejected⟩, _, rfl⟩
    · simp only [Option.some.injEq, exists_eq_left', rejected, false_or]
      exact afterFaceMatch_cases

theorem routeOnSession_not_failed (live : ¬decision.SessionDeclined) :
    (routeOnSession decision).isFailed = false := by
  rw [DiditDecisionResponse.SessionDeclined] at live
  unfold routeOnSession
  simp only [if_neg live]
  split
  · split <;> rfl
  · split <;> rfl

theorem evaluateDecision_failed_iff :
    (evaluateDecision decision).isFailed = true ↔ decision.UsedDeclined := by
  obtain ⟨declined, reason, failed⟩ | ⟨live, routed⟩ := @evaluateDecision_cases decision
  · rw [failed]
    exact iff_of_true rfl declined
  · rw [routed, routeOnSession_not_failed fun declined => live (.inr (.inr declined))]
    exact iff_of_false nofun live

theorem routeOnSession_approved_iff :
    routeOnSession decision = .approved ↔ decision.status = "Approved" ∧
      decision.idFirst.bind DiditIdVerification.status = some "Approved" ∧
      (decision.faceMatch.bind DiditFaceMatch.status = some "Approved" ∨
        decision.faceMatch.isSome = false) := by
  unfold routeOnSession verificationDeclined
  by_cases approved : decision.status = "Approved"
  · simp only [approved, ↓reduceIte, decide_eq_true_eq, true_and]
    split
    case isTrue components => exact iff_of_true rfl components
    case isFalse missing => exact iff_of_false nofun missing
  · simp only [if_neg approved]
    refine iff_of_false ?_ fun all => approved all.1
    split
    · nofun
    · split <;> nofun

theorem usedApproved_iff : decision.UsedApproved ↔ decision.status = "Approved" ∧
    decision.idFirst.bind DiditIdVerification.status = some "Approved" ∧
    (decision.faceMatch.bind DiditFaceMatch.status = some "Approved" ∨
      decision.faceMatch.isSome = false) := by
  rw [DiditDecisionResponse.UsedApproved, Option.bind_eq_some_iff]
  cases decision.faceMatch with
  | none => simp
  | some f => simp

theorem not_usedDeclined_of_usedApproved (approved : decision.UsedApproved) :
    ¬decision.UsedDeclined := by
  obtain ⟨session, ⟨used, isUsed, idApproved⟩, face⟩ := approved
  rintro (⟨f, isFirst, status, stated, notApproved, _⟩ | ⟨v, isFirst, status, stated, rejected⟩ |
    sessionDeclined)
  · rw [face f isFirst] at stated
    exact notApproved (Option.some.inj stated).symm
  · obtain rfl := Option.some.inj (isUsed.symm.trans isFirst)
    obtain rfl := Option.some.inj (idApproved.symm.trans stated)
    revert rejected
    decide
  · rw [DiditDecisionResponse.SessionDeclined, session] at sessionDeclined
    revert sessionDeclined
    decide

theorem evaluateDecision_approved_iff :
    evaluateDecision decision = .approved ↔ decision.UsedApproved := by
  rw [usedApproved_iff, ← routeOnSession_approved_iff]
  obtain ⟨declined, reason, failed⟩ | ⟨_, routed⟩ := @evaluateDecision_cases decision
  · rw [failed]
    refine iff_of_false nofun fun routed => ?_
    exact not_usedDeclined_of_usedApproved
      (usedApproved_iff.mpr (routeOnSession_approved_iff.mp routed)) declined
  · rw [routed]

/-! ## Whether the verdict is conservative -/

theorem faceMatch_eq (decision : DiditDecisionResponse) :
    decision.faceMatch = decision.allFaceMatches.head? := by
  unfold DiditDecisionResponse.faceMatch DiditDecisionResponse.allFaceMatches
  cases decision.faceMatches <;> rfl

theorem idFirst_eq (decision : DiditDecisionResponse) :
    decision.idFirst = decision.allIdVerifications.head? := by
  unfold DiditDecisionResponse.idFirst DiditDecisionResponse.allIdVerifications
  rw [List.head?_append]
  cases decision.idVerifications <;> cases decision.idVerification <;> rfl

/-- Every component of an approved decision has passed, the id verification that is turned into
    claims among them, and a declined component fails it. -/
structure ConservativeVerdict (decision : DiditDecisionResponse) : Prop where
  approved : evaluateDecision decision = .approved →
    decision.status = "Approved" ∧
      (∃ used, decision.idFirst = some used ∧ used.status = some "Approved" ∧ ∀ portrait,
        parseVerificationData portrait decision = .ok (used.verificationData portrait)) ∧
      (∀ v ∈ decision.allIdVerifications, ¬v.Declined) ∧
      ∀ f ∈ decision.allFaceMatches, f.status = some "Approved"
  declined : (decision.SessionDeclined ∨ (∃ used, decision.idFirst = some used ∧ used.Declined) ∨
      ∃ f ∈ decision.allFaceMatches, f.Declined) →
    (evaluateDecision decision).isFailed = true

/-- The elements that are looked at speak for those that are not. -/
structure FirstSpeaksForAll (decision : DiditDecisionResponse) : Prop where
  approved : decision.UsedApproved →
    (∀ v ∈ decision.allIdVerifications.tail, ¬v.Declined) ∧
      ∀ f ∈ decision.allFaceMatches.tail, f.status = some "Approved"
  declined : (∃ f ∈ decision.allFaceMatches.tail, f.Declined) → decision.UsedDeclined

/-- Membership in a list whose first element is known. -/
theorem mem_iff_head_or_tail {α : Type} {xs : List α} {a : α} :
    a ∈ xs ↔ xs.head? = some a ∨ a ∈ xs.tail := by
  cases xs with
  | nil => simp
  | cons first rest => simp [eq_comm]

theorem conservative_iff (decision : DiditDecisionResponse) :
    ConservativeVerdict decision ↔ FirstSpeaksForAll decision := by
  refine ⟨fun conservative => ⟨fun used => ?_, ?_⟩, fun first => ⟨fun approved => ?_, ?_⟩⟩
  · obtain ⟨_, _, ids, faces⟩ := conservative.approved (evaluateDecision_approved_iff.mpr used)
    exact ⟨fun v member => ids v (List.mem_of_mem_tail member),
      fun f member => faces f (List.mem_of_mem_tail member)⟩
  · rintro ⟨f, member, declined⟩
    exact evaluateDecision_failed_iff.mp
      (conservative.declined (.inr (.inr ⟨f, List.mem_of_mem_tail member, declined⟩)))
  · have used := evaluateDecision_approved_iff.mp approved
    obtain ⟨ids, faces⟩ := first.approved used
    have notDeclined := not_usedDeclined_of_usedApproved used
    obtain ⟨session, ⟨v, isUsed, idApproved⟩, face⟩ := used
    refine ⟨session, ⟨v, isUsed, idApproved, fun portrait => ?_⟩, ?_, ?_⟩
    · rw [parseVerificationData, isUsed]
      rfl
    · intro w member
      rcases mem_iff_head_or_tail.mp member with isFirst | later
      · have isUsed := (idFirst_eq decision).trans isFirst
        exact fun declined => notDeclined (.inr (.inl ⟨w, isUsed, declined⟩))
      · exact ids w later
    · intro f member
      rcases mem_iff_head_or_tail.mp member with isFirst | later
      · exact face f ((faceMatch_eq decision).trans isFirst)
      · exact faces f later
  · rw [evaluateDecision_failed_iff]
    rintro (session | used | ⟨f, member, declined⟩)
    · exact .inr (.inr session)
    · exact .inr (.inl used)
    · rcases mem_iff_head_or_tail.mp member with isFirst | later
      · exact .inl ⟨f, (faceMatch_eq decision).trans isFirst, declined⟩
      · exact first.declined ⟨f, later, declined⟩

/-- A second face match that is declined is not looked at. -/
def secondFaceDeclined : DiditDecisionResponse where
  status := "Approved"
  idVerifications := some [{ status := some "Approved" }]
  faceMatches := some [⟨some "Approved", some "99.5"⟩, ⟨some "Declined", some "12"⟩]

theorem verdict_not_conservative : ¬ConservativeVerdict secondFaceDeclined := by
  intro conservative
  have failed := conservative.declined (.inr (.inr ⟨⟨some "Declined", some "12"⟩, by
    simp [DiditDecisionResponse.allFaceMatches, secondFaceDeclined],
    "Declined", rfl, by decide, by decide⟩))
  revert failed
  decide

end OwlId.Issuer
