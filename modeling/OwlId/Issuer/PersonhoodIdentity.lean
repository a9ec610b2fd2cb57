import Mathlib
import OwlId.Issuer.Normalizer
import OwlId.Lib.Bytes
import OwlId.Lib.Joined
import OwlId.Lib.Text
import OwlId.Lib.UnicodeCase

/-! # What identifies a person

The issuer derives the secret that marks one human from a document number or a government id,
and finds a person's backups by a text made of the same claims.  Both are joined from the
claims' own texts, with a placeholder for one that is missing.

`personhood_injective_iff` says which two identities get one secret, and which two subjects one
text: those that differ by a placeholder, or by a text that goes on over a separator.
-/

namespace OwlId.Issuer

open OwlId.Lib

/-! ## Personhood -/

/-- The hashes a secret is derived with, over digests and secrets of any kind. -/
structure PersonhoodHashes (Digest Secret : Type) where
  sha256 : List UInt8 → Digest
  /-- Salt, input and info. -/
  hkdf : Digest → Digest → List UInt8 → Secret

inductive EidClass where
  | digid
  | bankid
  | eidas
deriving DecidableEq

def EidClass.name : EidClass → String
  | .digid => "digid"
  | .bankid => "bankid"
  | .eidas => "eidas"

def govEidClass (providerId : String) : Option EidClass :=
  let p := toAsciiLowercase providerId
  if containsText p "digid" then some .digid
  else if containsText p "bankid" then some .bankid
  else if containsText p "eidas" then some .eidas
  else none

/-- A text without the blanks around it, unless nothing is left. -/
def filled (field : Option String) : Option String := (field.map trim).filter (· ≠ "")

/-- The identifier and its namespace. -/
def personhoodIdentity (claims : VerifiedIdentityClaims) : Option (String × String) :=
  match filled claims.documentNumber with
  | some doc =>
    let country := (filled claims.issuingCountry).getD "??"
    let dtype := (filled claims.documentType).getD "doc"
    some (doc, "doc:" ++ country ++ ":" ++ dtype)
  | none =>
    match govEidClass claims.providerId with
    | some cls =>
      let nid := trim claims.nationalId
      if nid ≠ "" then some (nid, "eid:" ++ cls.name) else none
    | none => none

section

variable {Digest Secret : Type} (H : PersonhoodHashes Digest Secret)

def personhoodIdentityHash (ns identifier : String) : Digest :=
  H.sha256 (asBytes "owlid:personhood:identity" ++ [0] ++ asBytes ns ++ [0] ++ asBytes identifier)

/-- The salt is the digest of the issuer's key. -/
def derivePersonhoodSecret (issuerPrivateKeyHex : String) (identityHash : Digest) : Secret :=
  H.hkdf (H.sha256 (asBytes issuerPrivateKeyHex)) identityHash (asBytes "owlid:personhood:secret")

def derivePersonhood (claims : VerifiedIdentityClaims) (issuerPrivateKey : String) :
    Option Secret :=
  (personhoodIdentity claims).map fun (identifier, ns) =>
    derivePersonhoodSecret H issuerPrivateKey (personhoodIdentityHash H ns identifier)

end

/-! ## Recovery subjects -/

def recoverySubjectMaterial (claims : VerifiedIdentityClaims) : Option String :=
  let provider := toLowerCase claims.providerId
  if provider ∈ ["google", "apple", "microsoft"] ∧ claims.nationalId ≠ "" then
    some ("oidc:" ++ provider ++ ":" ++ claims.nationalId)
  else match claims.documentNumber.filter (· ≠ "") with
    | some documentNumber =>
      let country := claims.issuingCountry.getD "unknown"
      let docType := claims.documentType.getD "unknown"
      some ("doc:" ++ provider ++ ":" ++ country ++ ":" ++ docType ++ ":" ++ documentNumber)
    | none =>
      if claims.nationalId ≠ "" then some ("eid:" ++ provider ++ ":" ++ claims.nationalId)
      else none

/-! ## The identities behind the texts -/

/-- Who a secret stands for. -/
inductive Identity where
  | document (country type : Option String) (number : String)
  | eid (cls : EidClass) (nationalId : String)
deriving DecidableEq

def identityOf (claims : VerifiedIdentityClaims) : Option Identity :=
  match filled claims.documentNumber with
  | some number =>
    some (.document (filled claims.issuingCountry) (filled claims.documentType) number)
  | none =>
    (govEidClass claims.providerId).bind fun cls =>
      (filled (some claims.nationalId)).map fun nid => .eid cls nid

/-- Whose backups a text stands for; a provider is named in small letters. -/
inductive Subject where
  | oidc (provider nationalId : String)
  | document (provider : String) (country type : Option String) (number : String)
  | eid (provider nationalId : String)
deriving DecidableEq

def subjectOf (claims : VerifiedIdentityClaims) : Option Subject :=
  let provider := toLowerCase claims.providerId
  if provider ∈ ["google", "apple", "microsoft"] ∧ claims.nationalId ≠ "" then
    some (.oidc provider claims.nationalId)
  else match claims.documentNumber.filter (· ≠ "") with
    | some number => some (.document provider claims.issuingCountry claims.documentType number)
    | none => if claims.nationalId ≠ "" then some (.eid provider claims.nationalId) else none

/-! ## Fields of the texts -/

def nul : Char := Char.ofNat 0

/-- The fields of an identity, as they are written after the kind and its colon. -/
def Identity.first : Identity → List Char
  | .document country _ _ => (country.getD "??").toList
  | .eid cls _ => cls.name.toList

def Identity.rest : Identity → List (Char × List Char)
  | .document _ type number => [(':', (type.getD "doc").toList), (nul, number.toList)]
  | .eid _ nationalId => [(nul, nationalId.toList)]

def Subject.first : Subject → List Char
  | .oidc provider _ | .document provider _ _ _ | .eid provider _ => provider.toList

def Subject.rest : Subject → List (Char × List Char)
  | .oidc _ nationalId | .eid _ nationalId => [(':', nationalId.toList)]
  | .document _ country type number =>
    [(':', (country.getD "unknown").toList), (':', (type.getD "unknown").toList),
      (':', number.toList)]

/-- Two document identities that are written as one text. -/
inductive Identity.Confused : Identity → Identity → Prop where
  /-- One names what the other leaves out, by the placeholder for it. -/
  | placeholder {country type country' type' : Option String} {number : String}
      (other : (country, type) ≠ (country', type'))
      (countries : country.getD "??" = country'.getD "??")
      (types : type.getD "doc" = type'.getD "doc") :
      Confused (.document country type number) (.document country' type' number)
  | shifted {country type country' type' : Option String} {number number' : String}
      (fields : Shifted (Identity.document country type number).first
        (Identity.document country type number).rest
        (Identity.document country' type' number').first
        (Identity.document country' type' number').rest) :
      Confused (.document country type number) (.document country' type' number')

/-- Two subjects that are written as one text. -/
inductive Subject.Confused : Subject → Subject → Prop where
  | placeholder {provider : String} {country type country' type' : Option String}
      {number : String} (other : (country, type) ≠ (country', type'))
      (countries : country.getD "unknown" = country'.getD "unknown")
      (types : type.getD "unknown" = type'.getD "unknown") :
      Confused (.document provider country type number)
        (.document provider country' type' number)
  | document {provider provider' : String} {country type country' type' : Option String}
      {number number' : String}
      (fields : Shifted (Subject.document provider country type number).first
        (Subject.document provider country type number).rest
        (Subject.document provider' country' type' number').first
        (Subject.document provider' country' type' number').rest) :
      Confused (.document provider country type number)
        (.document provider' country' type' number')
  | eid {provider provider' nationalId nationalId' : String}
      (fields : Shifted (Subject.eid provider nationalId).first
        (Subject.eid provider nationalId).rest
        (Subject.eid provider' nationalId').first (Subject.eid provider' nationalId').rest) :
      Confused (.eid provider nationalId) (.eid provider' nationalId')

theorem Identity.Confused.ne {i j : Identity} (confused : i.Confused j) : i ≠ j := by
  intro same
  cases confused with
  | placeholder other _ _ =>
    cases same
    exact other rfl
  | shifted fields =>
    cases same
    exact fields.ne ⟨rfl, rfl⟩

theorem Subject.Confused.ne {t u : Subject} (confused : t.Confused u) : t ≠ u := by
  intro same
  cases confused with
  | placeholder other _ _ =>
    cases same
    exact other rfl
  | document fields =>
    cases same
    exact fields.ne ⟨rfl, rfl⟩
  | eid fields =>
    cases same
    exact fields.ne ⟨rfl, rfl⟩

/-! ## The texts of identities -/


/-- The identifier and the namespace of an identity. -/
def Identity.handle : Identity → String × String
  | .document country type number =>
    (number, "doc:" ++ country.getD "??" ++ ":" ++ type.getD "doc")
  | .eid cls nationalId => (nationalId, "eid:" ++ cls.name)

theorem personhoodIdentity_eq (claims : VerifiedIdentityClaims) :
    personhoodIdentity claims = (identityOf claims).map Identity.handle := by
  rw [personhoodIdentity, identityOf]
  cases filled claims.documentNumber with
  | some doc => rfl
  | none =>
    cases govEidClass claims.providerId with
    | none => rfl
    | some cls =>
      by_cases blank : trim claims.nationalId = ""
      · simp [filled, blank]
      · simp [filled, blank, Identity.handle]

theorem EidClass.name_injective : Function.Injective EidClass.name := by
  intro c d same
  cases c <;> cases d <;> first | rfl | exact absurd same (by decide)

theorem EidClass.nul_notMem_name (c : EidClass) : nul ∉ c.name.toList := by
  cases c <;> decide

def Identity.kind : Identity → List Char
  | .document _ _ _ => "doc:".toList
  | .eid _ _ => "eid:".toList

/-- Kind and fields, as they are hashed. -/
theorem Identity.handle_text (i : Identity) :
    i.handle.2.toList ++ nul :: i.handle.1.toList = i.kind ++ joined i.first i.rest := by
  cases i with
  | document country type number =>
    simp [Identity.handle, Identity.kind, Identity.first, Identity.rest, joined]
  | eid cls nationalId =>
    simp [Identity.handle, Identity.kind, Identity.first, Identity.rest, joined]

theorem Identity.document_fields_eq_iff (country type country' type' : Option String)
    (number number' : String) :
    joined (Identity.document country type number).first
        (Identity.document country type number).rest =
      joined (Identity.document country' type' number').first
        (Identity.document country' type' number').rest ↔
      Identity.document country type number = Identity.document country' type' number' ∨
        (Identity.document country type number).Confused
          (Identity.document country' type' number') := by
  have seps : (Identity.document country type number).rest.map Prod.fst =
      (Identity.document country' type' number').rest.map Prod.fst := rfl
  rw [joined_eq_iff seps]
  constructor
  · intro same
    rcases same with ⟨countries, rest⟩ | shifted
    · have countries : country.getD "??" = country'.getD "??" := String.toList_inj.mp countries
      have ⟨types, numbers⟩ : type.getD "doc" = type'.getD "doc" ∧ number = number' := by
        simpa [Identity.rest, String.toList_inj] using rest
      rw [numbers]
      by_cases fields : (country, type) = (country', type')
      · have ⟨here, there⟩ := Prod.mk.inj fields
        exact .inl (by rw [here, there])
      · exact .inr (.placeholder fields countries types)
    · exact .inr (.shifted shifted)
  · intro same
    rcases same with same | confused
    · rw [same]
      exact .inl ⟨rfl, rfl⟩
    · cases confused with
      | placeholder _ countries types =>
        refine .inl ⟨congrArg String.toList countries, ?_⟩
        rw [Identity.rest, Identity.rest, types]
      | shifted fields => exact .inr fields

theorem Identity.eid_fields_eq_iff (cls cls' : EidClass) (nationalId nationalId' : String) :
    joined (Identity.eid cls nationalId).first (Identity.eid cls nationalId).rest =
      joined (Identity.eid cls' nationalId').first (Identity.eid cls' nationalId').rest ↔
      Identity.eid cls nationalId = Identity.eid cls' nationalId' := by
  have seps : (Identity.eid cls nationalId).rest.map Prod.fst =
      (Identity.eid cls' nationalId').rest.map Prod.fst := rfl
  rw [joined_eq_iff seps]
  constructor
  · intro same
    rcases same with ⟨classes, rest⟩ | shifted
    · have classes := EidClass.name_injective (String.toList_inj.mp classes)
      have ids : nationalId = nationalId' := by
        simpa [Identity.rest, String.toList_inj] using rest
      rw [classes, ids]
    · -- no class has the separator in its name
      cases shifted.mem_of_two with
      | inl inside => exact absurd inside cls.nul_notMem_name
      | inr inside => exact absurd inside cls'.nul_notMem_name
  · intro same
    rw [same]
    exact .inl ⟨rfl, rfl⟩

def Identity.initial : Identity → Char
  | .document _ _ _ => 'd'
  | .eid _ _ => 'e'

/-- The text that is hashed, kind and fields. -/
def Identity.text (i : Identity) : List Char := i.kind ++ joined i.first i.rest

theorem Identity.text_head (i : Identity) : i.text.head? = some i.initial := by
  cases i <;> rfl

/-- Identities of two kinds are told apart by the first letter. -/
theorem Identity.text_eq_iff_of_apart {i j : Identity} (apart : i.initial ≠ j.initial) :
    i.text = j.text ↔ i = j ∨ i.Confused j := by
  constructor
  · intro same
    have heads := i.text_head.symm.trans ((congrArg List.head? same).trans j.text_head)
    exact absurd (Option.some.inj heads) apart
  · intro same
    cases same with
    | inl same => exact absurd (congrArg Identity.initial same) apart
    | inr confused => cases confused <;> exact absurd rfl apart

/-- Two identities are hashed from one text exactly when they are the same or confused. -/
theorem Identity.text_eq_iff (i j : Identity) : i.text = j.text ↔ i = j ∨ i.Confused j := by
  cases i with
  | document country type number =>
    cases j with
    | document country' type' number' =>
      rw [Identity.text, Identity.text, Identity.kind, Identity.kind, List.append_cancel_left_eq]
      exact document_fields_eq_iff country type country' type' number number'
    | eid cls nationalId => exact text_eq_iff_of_apart (show 'd' ≠ 'e' by decide)
  | eid cls nationalId =>
    cases j with
    | document country type number => exact text_eq_iff_of_apart (show 'e' ≠ 'd' by decide)
    | eid cls' nationalId' =>
      rw [Identity.text, Identity.text, Identity.kind, Identity.kind, List.append_cancel_left_eq,
        eid_fields_eq_iff]
      constructor
      · exact .inl
      · intro same
        cases same with
        | inl same => exact same
        | inr confused => cases confused

/-! ## The texts of subjects -/

def Subject.kind : Subject → List Char
  | .oidc _ _ => "oidc:".toList
  | .document _ _ _ _ => "doc:".toList
  | .eid _ _ => "eid:".toList

def Subject.initial : Subject → Char
  | .oidc _ _ => 'o'
  | .document _ _ _ _ => 'd'
  | .eid _ _ => 'e'

/-- The material of a subject. -/
def Subject.text (t : Subject) : List Char := t.kind ++ joined t.first t.rest

theorem recoverySubjectMaterial_eq (claims : VerifiedIdentityClaims) :
    recoverySubjectMaterial claims =
      (subjectOf claims).map fun t => String.ofList t.text := by
  have written : ∀ (t : Subject) (s : String), s.toList = t.text → s = String.ofList t.text :=
    fun t s same => by rw [← same, String.ofList_toList]
  rw [recoverySubjectMaterial, subjectOf]
  by_cases account : toLowerCase claims.providerId ∈ ["google", "apple", "microsoft"] ∧
      claims.nationalId ≠ ""
  · rw [if_pos account, if_pos account]
    exact congrArg some (written (.oidc _ _) _ (by
      simp [Subject.text, Subject.kind, Subject.first, Subject.rest, joined]))
  · rw [if_neg account, if_neg account]
    cases claims.documentNumber.filter (· ≠ "") with
    | some number =>
      exact congrArg some (written (.document _ _ _ _) _ (by
        simp [Subject.text, Subject.kind, Subject.first, Subject.rest, joined]))
    | none =>
      by_cases numbered : claims.nationalId ≠ ""
      · simp only [if_pos numbered]
        exact congrArg some (written (.eid _ _) _ (by
          simp [Subject.text, Subject.kind, Subject.first, Subject.rest, joined]))
      · simp only [if_neg numbered]
        rfl

/-- An account belongs to a provider known by name. -/
def Subject.Known : Subject → Prop
  | .oidc provider _ => provider ∈ ["google", "apple", "microsoft"]
  | _ => True

theorem subjectOf_known {claims : VerifiedIdentityClaims} {t : Subject}
    (found : subjectOf claims = some t) : t.Known := by
  rw [subjectOf] at found
  split at found
  · next account =>
    obtain rfl := Option.some.inj found
    exact account.1
  · split at found
    · obtain rfl := Option.some.inj found
      trivial
    · split at found
      · obtain rfl := Option.some.inj found
        trivial
      · cases found

theorem Subject.text_head (t : Subject) : t.text.head? = some t.initial := by
  cases t <;> rfl

theorem Subject.text_eq_iff_of_apart {t u : Subject} (apart : t.initial ≠ u.initial) :
    t.text = u.text ↔ t = u ∨ t.Confused u := by
  constructor
  · intro same
    have heads := t.text_head.symm.trans ((congrArg List.head? same).trans u.text_head)
    exact absurd (Option.some.inj heads) apart
  · intro same
    cases same with
    | inl same => exact absurd (congrArg Subject.initial same) apart
    | inr confused => cases confused <;> exact absurd rfl apart

theorem Subject.document_text_eq_iff (provider provider' : String)
    (country type country' type' : Option String) (number number' : String) :
    (Subject.document provider country type number).text =
        (Subject.document provider' country' type' number').text ↔
      Subject.document provider country type number =
          Subject.document provider' country' type' number' ∨
        (Subject.document provider country type number).Confused
          (Subject.document provider' country' type' number') := by
  have seps : (Subject.document provider country type number).rest.map Prod.fst =
      (Subject.document provider' country' type' number').rest.map Prod.fst := rfl
  rw [Subject.text, Subject.text, Subject.kind, Subject.kind, List.append_cancel_left_eq,
    joined_eq_iff seps]
  constructor
  · intro same
    rcases same with ⟨providers, rest⟩ | shifted
    · have providers : provider = provider' := String.toList_inj.mp providers
      have ⟨countries, types, numbers⟩ : country.getD "unknown" = country'.getD "unknown" ∧
          type.getD "unknown" = type'.getD "unknown" ∧ number = number' := by
        simpa [Subject.rest, String.toList_inj] using rest
      rw [providers, numbers]
      by_cases fields : (country, type) = (country', type')
      · have ⟨here, there⟩ := Prod.mk.inj fields
        exact .inl (by rw [here, there])
      · exact .inr (.placeholder fields countries types)
    · exact .inr (.document shifted)
  · intro same
    rcases same with same | confused
    · rw [same]
      exact .inl ⟨rfl, rfl⟩
    · cases confused with
      | placeholder _ countries types =>
        refine .inl ⟨rfl, ?_⟩
        rw [Subject.rest, Subject.rest, countries, types]
      | document fields => exact .inr fields

theorem Subject.oidc_text_eq_iff {provider provider' nationalId nationalId' : String}
    (known : (Subject.oidc provider nationalId).Known)
    (known' : (Subject.oidc provider' nationalId').Known) :
    (Subject.oidc provider nationalId).text = (Subject.oidc provider' nationalId').text ↔
      Subject.oidc provider nationalId = Subject.oidc provider' nationalId' := by
  have seps : (Subject.oidc provider nationalId).rest.map Prod.fst =
      (Subject.oidc provider' nationalId').rest.map Prod.fst := rfl
  have plain : ∀ p ∈ ["google", "apple", "microsoft"], ':' ∉ p.toList := by decide
  rw [Subject.text, Subject.text, Subject.kind, Subject.kind, List.append_cancel_left_eq,
    joined_eq_iff seps]
  constructor
  · intro same
    rcases same with ⟨providers, rest⟩ | shifted
    · have providers : provider = provider' := String.toList_inj.mp providers
      have ids : nationalId = nationalId' := by
        simpa [Subject.rest, String.toList_inj] using rest
      rw [providers, ids]
    · cases shifted.mem_of_two with
      | inl inside => exact absurd inside (plain provider known)
      | inr inside => exact absurd inside (plain provider' known')
  · intro same
    rw [same]
    exact .inl ⟨rfl, rfl⟩

theorem Subject.eid_text_eq_iff (provider provider' nationalId nationalId' : String) :
    (Subject.eid provider nationalId).text = (Subject.eid provider' nationalId').text ↔
      Subject.eid provider nationalId = Subject.eid provider' nationalId' ∨
        (Subject.eid provider nationalId).Confused (Subject.eid provider' nationalId') := by
  have seps : (Subject.eid provider nationalId).rest.map Prod.fst =
      (Subject.eid provider' nationalId').rest.map Prod.fst := rfl
  rw [Subject.text, Subject.text, Subject.kind, Subject.kind, List.append_cancel_left_eq,
    joined_eq_iff seps]
  constructor
  · intro same
    rcases same with ⟨providers, rest⟩ | shifted
    · have providers : provider = provider' := String.toList_inj.mp providers
      have ids : nationalId = nationalId' := by
        simpa [Subject.rest, String.toList_inj] using rest
      exact .inl (by rw [providers, ids])
    · exact .inr (.eid shifted)
  · intro same
    rcases same with same | confused
    · rw [same]
      exact .inl ⟨rfl, rfl⟩
    · cases confused with
      | eid fields => exact .inr fields

/-- Two subjects have one text exactly when they are the same or confused. -/
theorem Subject.text_eq_iff {t u : Subject} (known : t.Known) (known' : u.Known) :
    t.text = u.text ↔ t = u ∨ t.Confused u := by
  cases t with
  | oidc provider nationalId =>
    cases u with
    | oidc provider' nationalId' =>
      rw [oidc_text_eq_iff known known']
      constructor
      · exact .inl
      · intro same
        cases same with
        | inl same => exact same
        | inr confused => cases confused
    | document _ _ _ _ => exact text_eq_iff_of_apart (show 'o' ≠ 'd' by decide)
    | eid _ _ => exact text_eq_iff_of_apart (show 'o' ≠ 'e' by decide)
  | document provider country type number =>
    cases u with
    | oidc _ _ => exact text_eq_iff_of_apart (show 'd' ≠ 'o' by decide)
    | document provider' country' type' number' =>
      exact document_text_eq_iff provider provider' country type country' type' number number'
    | eid _ _ => exact text_eq_iff_of_apart (show 'd' ≠ 'e' by decide)
  | eid provider nationalId =>
    cases u with
    | oidc _ _ => exact text_eq_iff_of_apart (show 'e' ≠ 'o' by decide)
    | document _ _ _ _ => exact text_eq_iff_of_apart (show 'e' ≠ 'd' by decide)
    | eid provider' nationalId' => exact eid_text_eq_iff provider provider' nationalId nationalId'

/-! ## Secrets -/

section

variable {Digest Secret : Type} {H : PersonhoodHashes Digest Secret}

theorem derivePersonhood_eq (claims : VerifiedIdentityClaims) (key : String) :
    derivePersonhood H claims key = (identityOf claims).map fun i =>
      derivePersonhoodSecret H key (personhoodIdentityHash H i.handle.2 i.handle.1) := by
  rw [derivePersonhood, personhoodIdentity_eq, Option.map_map]
  rfl

/-- Under one key two identities have one secret exactly when they are hashed from one text. -/
theorem secret_eq_iff (digests : Function.Injective H.sha256)
    (secrets : ∀ salt info, Function.Injective fun input => H.hkdf salt input info)
    (key : String) (i j : Identity) :
    derivePersonhoodSecret H key (personhoodIdentityHash H i.handle.2 i.handle.1) =
        derivePersonhoodSecret H key (personhoodIdentityHash H j.handle.2 j.handle.1) ↔
      i.text = j.text := by
  have bytes : ∀ k : Identity, asBytes k.handle.2 ++ [0] ++ asBytes k.handle.1 =
      asBytes (String.ofList k.text) := by
    intro k
    have parts : String.ofList k.text =
        k.handle.2 ++ (String.singleton nul ++ k.handle.1) := by
      apply String.toList_inj.mp
      rw [String.toList_ofList, Identity.text, ← k.handle_text]
      simp
    have zero : asBytes (String.singleton nul) = [0] := by decide
    rw [parts, asBytes_append, asBytes_append, zero, List.append_assoc]
  rw [derivePersonhoodSecret, derivePersonhoodSecret, (secrets _ _).eq_iff, personhoodIdentityHash,
    personhoodIdentityHash, digests.eq_iff]
  simp only [List.append_assoc, List.append_cancel_left_eq]
  rw [← List.append_assoc, ← List.append_assoc, bytes, bytes, asBytes_inj, String.ofList_inj]

end

/-! ## Who shares a secret -/

/-- With hashes that are injective, two claims' secrets are equal just when their identities are,
unless the identities are confused; and two subjects have two texts unless they are confused. -/
theorem personhood_injective_iff {Digest Secret : Type} (H : PersonhoodHashes Digest Secret)
    (digests : Function.Injective H.sha256)
    (secrets : ∀ salt info, Function.Injective fun input => H.hkdf salt input info) :
    (∀ (key : String) (a b : VerifiedIdentityClaims) (s t : Secret),
      derivePersonhood H a key = some s → derivePersonhood H b key = some t →
        ∃ i j, identityOf a = some i ∧ identityOf b = some j ∧
          ((s = t ↔ i = j) ↔ ¬ i.Confused j)) ∧
    ∀ (a b : VerifiedIdentityClaims) (m n : String),
      recoverySubjectMaterial a = some m → recoverySubjectMaterial b = some n →
        ∃ t u, subjectOf a = some t ∧ subjectOf b = some u ∧
          ((t ≠ u → m ≠ n) ↔ ¬ t.Confused u) := by
  constructor
  · intro key a b s t first second
    rw [derivePersonhood_eq, Option.map_eq_some_iff] at first second
    have ⟨i, here, secret⟩ := first
    have ⟨j, there, secret'⟩ := second
    refine ⟨i, j, here, there, ?_⟩
    rw [← secret, ← secret', secret_eq_iff digests secrets, i.text_eq_iff]
    constructor
    · intro faithful confused
      exact confused.ne (faithful.mp (.inr confused))
    · intro clear
      constructor
      · intro same
        exact same.resolve_right clear
      · exact .inl
  · intro a b m n first second
    rw [recoverySubjectMaterial_eq, Option.map_eq_some_iff] at first second
    have ⟨t, here, text⟩ := first
    have ⟨u, there, text'⟩ := second
    refine ⟨t, u, here, there, ?_⟩
    rw [← text, ← text', ne_eq, ne_eq, String.ofList_inj,
      Subject.text_eq_iff (subjectOf_known here) (subjectOf_known there)]
    constructor
    · intro distinct confused
      exact distinct confused.ne (.inr confused)
    · intro clear different same
      cases same with
      | inl same => exact different same
      | inr confused => exact clear confused

/-- Hashes that show what they are given. -/
def transparentHashes :
    PersonhoodHashes (List UInt8) (List UInt8 × List UInt8 × List UInt8) where
  sha256 bytes := bytes
  hkdf salt input info := (salt, input, info)

/-- A scanned document. -/
def scannedDocument (country type : String) : VerifiedIdentityClaims where
  firstName := "Jan"
  lastName := "de Vries"
  dateOfBirth := sentinelDob
  nationality := "NL"
  nationalId := ""
  documentType := some type
  documentNumber := some "123"
  issuingCountry := some country
  country := "NL"
  isOver18 := true
  isOver21 := true
  isOver65 := false
  isEuCitizen := true
  isResident := false
  verifiedAt := "now"
  verificationLevel := .high
  providerId := "didit"
  verificationMethod := "document_liveness"

theorem identityOf_scanned_colon_country :
    identityOf (scannedDocument "NL:ID" "card") =
      some (.document (some "NL:ID") (some "card") "123") := by
  decide

theorem identityOf_scanned_colon_type :
    identityOf (scannedDocument "NL" "ID:card") =
      some (.document (some "NL") (some "ID:card") "123") := by
  decide

theorem personhood_injective_at_scanned :
    (∃ s t i j,
      derivePersonhood transparentHashes (scannedDocument "NL:ID" "card") "key" = some s ∧
      derivePersonhood transparentHashes (scannedDocument "NL" "ID:card") "key" = some t ∧
      identityOf (scannedDocument "NL:ID" "card") = some i ∧
      identityOf (scannedDocument "NL" "ID:card") = some j ∧
      ((s = t ↔ i = j) ↔ ¬ i.Confused j)) ∧
    ∃ m n t u,
      recoverySubjectMaterial (scannedDocument "NL:ID" "card") = some m ∧
      recoverySubjectMaterial (scannedDocument "NL" "ID:card") = some n ∧
      subjectOf (scannedDocument "NL:ID" "card") = some t ∧
      subjectOf (scannedDocument "NL" "ID:card") = some u ∧
      ((t ≠ u → m ≠ n) ↔ ¬ t.Confused u) := by
  have injective := personhood_injective_iff transparentHashes (fun _ _ same => same)
    fun _ _ _ _ same => (Prod.mk.inj (Prod.mk.inj same).2).1
  constructor
  · have first := derivePersonhood_eq (H := transparentHashes)
      (scannedDocument "NL:ID" "card") "key"
    have second := derivePersonhood_eq (H := transparentHashes)
      (scannedDocument "NL" "ID:card") "key"
    rw [identityOf_scanned_colon_country] at first
    rw [identityOf_scanned_colon_type] at second
    have ⟨i, j, exactly⟩ := injective.1 "key" _ _ _ _ first second
    exact ⟨_, _, i, j, first, second, exactly⟩
  · have ⟨t, u, exactly⟩ := injective.2 (scannedDocument "NL:ID" "card")
      (scannedDocument "NL" "ID:card") _ _ rfl rfl
    exact ⟨_, _, t, u, rfl, rfl, exactly⟩

/-- A card of "NL:ID" and an "ID:card" of "NL" under one number get one secret and one text. -/
theorem colon_shares_secret :
    identityOf (scannedDocument "NL:ID" "card") ≠ identityOf (scannedDocument "NL" "ID:card") ∧
      derivePersonhood transparentHashes (scannedDocument "NL:ID" "card") "key" =
        derivePersonhood transparentHashes (scannedDocument "NL" "ID:card") "key" ∧
      (derivePersonhood transparentHashes (scannedDocument "NL" "ID:card") "key").isSome = true ∧
      subjectOf (scannedDocument "NL:ID" "card") ≠ subjectOf (scannedDocument "NL" "ID:card") ∧
      recoverySubjectMaterial (scannedDocument "NL:ID" "card") =
        recoverySubjectMaterial (scannedDocument "NL" "ID:card") := by
  rw [derivePersonhood_eq, derivePersonhood_eq, identityOf_scanned_colon_country,
    identityOf_scanned_colon_type]
  have handles : (Identity.document (some "NL:ID") (some "card") "123").handle =
      (Identity.document (some "NL") (some "ID:card") "123").handle := by decide
  refine ⟨by decide, ?_, rfl, by decide, by decide⟩
  rw [Option.map_some, Option.map_some, handles]

end OwlId.Issuer
