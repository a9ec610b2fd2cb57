import Mathlib
import OwlId.Verification.ApiKeys

/-! # Who may call the service

A caller shows an API key or the token of a dashboard session.  Below are the gates in front of the
routes, the requests of the dashboard that change the tables behind the gates, and the keys that
are set up when the service starts.  A request reads first and writes later, so that others can get
between the two.
-/

namespace OwlId.Verification

open OwlId.Lib OwlId.ProofSystem

/-! ## Callers -/

/-- Header values, where they are visible ASCII. -/
structure Headers where
  authorization : Option String
  cookie : Option String

/-- What a session token says. -/
structure Claims where
  sub : String
  permissions : List String
  exp : Time
  iat : Time

/-- Token signatures with the secret of the service, password hashes and the reader of ids. -/
structure AccessLibs where
  hashes : Hashes
  encode : Claims → Except String String
  decode : Time → String → Option Claims
  bcryptVerify : String → String → Except String Bool
  bcryptHash : String → Except String String
  parseUuid : String → Option Nat

inductive Principal where
  | apiKey (row : ApiKey)
  | adminSession (username : String) (permissions : List String)

def Principal.hasPermission (permission : String) : Principal → Bool
  | .apiKey row => row.hasPermission permission
  | .adminSession _ permissions => permissions.any (· == permission)

/-- The session is one of the account. -/
def Principal.ofAccount (username : String) : Principal → Bool
  | .apiKey _ => false
  | .adminSession other _ => other == username

inductive AuthError where
  | missingApiKey
  | invalidApiKey
  | insufficientPermissions (permission : String)

inductive AdminError where
  | unauthorized (message : String)
  | badRequest (message : String)
  | notFound (message : String)
  | conflict (message : String)
  | internal (message : String)

def stripPrefix (head text : String) : Option String :=
  if head.toList <+: text.toList then some (String.ofList (text.toList.drop head.length)) else none

def extractApiKey (headers : Headers) : Option String := do
  let auth ← headers.authorization
  let token ← stripPrefix "Bearer " auth
  if trim token = "" then none else some (trim token)

def adminCookieName : String := "owlid_admin_token"

/-- The first session cookie that is not empty. -/
def readTokenFromCookies (headers : Headers) : Option String := do
  let header ← headers.cookie
  (splitChar ';' header).findSome? fun pair =>
    (stripPrefix (adminCookieName ++ "=") (trim pair)).filter (· ≠ "")

def extractAdminToken (headers : Headers) : Option String :=
  (readTokenFromCookies headers).or (headers.authorization.bind (stripPrefix "Bearer "))

/-! ## Admin accounts -/

structure AdminUser where
  id : Nat
  username : String
  passwordHash : String
  isActive : Bool
  createdAt : Time
  lastLoginAt : Option Time

/-- `username` is `UNIQUE`, and so is the primary key. -/
structure AdminUsers where
  table : Table AdminUser.username
  ids : (table.rows.map AdminUser.id).Nodup

namespace AdminUsers

variable (users : AdminUsers)

def activeByName (username : String) : Option AdminUser :=
  (users.table.find username).filter AdminUser.isActive

def byId (id : Nat) : Option AdminUser := users.table.rows.find? fun user => user.id = id

def activeCount : Nat := users.table.rows.countP AdminUser.isActive

/-- An insertion, unless a row has the name or the id. -/
def insert (user : AdminUser) : Option AdminUsers :=
  if fresh : user.id ∉ users.table.rows.map AdminUser.id then
    if unused : user.username ∉ users.table.rows.map AdminUser.username then
      some
        { table :=
            { rows := users.table.rows ++ [user]
              unique := by
                rw [List.map_append, List.nodup_append]
                exact ⟨users.table.unique, List.nodup_singleton _, by
                  rintro a here b there rfl
                  exact unused (List.mem_singleton.mp there ▸ here)⟩ }
          ids := by
            rw [List.map_append, List.nodup_append]
            exact ⟨users.ids, List.nodup_singleton _, by
              rintro a here b there rfl
              exact fresh (List.mem_singleton.mp there ▸ here)⟩ }
    else none
  else none

/-- An `UPDATE … WHERE id = …` of other columns than the name and the id. -/
def update (id : Nat) (f : AdminUser → AdminUser)
    (keeps : ∀ user, (f user).username = user.username ∧ (f user).id = user.id) : AdminUsers where
  table :=
    { rows := users.table.rows.map fun user => if user.id = id then f user else user
      unique := by
        have same : AdminUser.username ∘ (fun user => if user.id = id then f user else user) =
            AdminUser.username := by
          funext user
          simp only [Function.comp]
          split
          · exact (keeps user).1
          · rfl
        rw [List.map_map, same]
        exact users.table.unique }
  ids := by
    have same : AdminUser.id ∘ (fun user => if user.id = id then f user else user) =
        AdminUser.id := by
      funext user
      simp only [Function.comp]
      split
      · exact (keeps user).2
      · rfl
    rw [List.map_map, same]
    exact users.ids

def setPassword (id : Nat) (passwordHash : String) : AdminUsers :=
  users.update id (fun user => { user with passwordHash }) fun _ => ⟨rfl, rfl⟩

def setLastLogin (id : Nat) (now : Time) : AdminUsers :=
  users.update id (fun user => { user with lastLoginAt := some now }) fun _ => ⟨rfl, rfl⟩

def deactivate (id : Nat) : AdminUsers :=
  users.update id (fun user => { user with isActive := false }) fun _ => ⟨rfl, rfl⟩

end AdminUsers

/-! ## The requests of the dashboard -/

structure LoginRequest where
  username : String
  password : String

structure CreateApiKeyRequest where
  name : String
  description : Option String
  permissions : List String
  keyType : KeyType
  environment : Environment

/-- A request behind the session gate; a new key comes with its random bytes. -/
inductive AdminRequest where
  | changePassword (currentPassword newPassword : String)
  | createAdminUser (username password : String)
  | deactivateAdminUser (id : String)
  | createApiKey (req : CreateApiKeyRequest) (bytes : Bytes32)
  | deactivateApiKey (id : String)

/-- What is left of a request when its checks are made. -/
inductive Write where
  | mint (user : AdminUser) (mustChangeDefaultPassword : Bool)
  | setPassword (user : AdminUser) (passwordHash : String)
  | insertAdmin (username passwordHash : String)
  | deactivateAdmin (target : AdminUser)
  | insertApiKey (req : CreateApiKeyRequest) (generated : GeneratedKey)
  | deactivateApiKey (id : Nat)

inductive AdminReply where
  | loggedIn (token username : String) (expiresIn : Nat) (mustChangeDefaultPassword : Bool)
  | passwordChanged (username : String)
  | userCreated (user : AdminUser)
  | userDeactivated
  | keyCreated (key keyPreview : String) (keyType : KeyType) (environment : Environment)
    (name : String) (permissions : List String)
  | keyDeactivated

structure AccessState where
  clock : Time
  apiKeys : ApiKeyTable
  adminUsers : AdminUsers
  /-- The tokens handed out. -/
  minted : List Claims
  /-- The requests that have made their checks. -/
  pending : List Write

section

variable (L : AccessLibs)

def resolvePrincipal (s : AccessState) (headers : Headers) : Except AuthError Principal :=
  let shown := extractApiKey headers
  match shown.bind fun key => (s.apiKeys.findByKey L.hashes s.clock key).toOption with
  | some row =>
    if row.isValid s.clock then .ok (.apiKey row)
    else fallback shown
  | none => fallback shown
where
  fallback (shown : Option String) : Except AuthError Principal :=
    match readTokenFromCookies headers with
    | some token =>
      match L.decode s.clock token with
      | some claims => .ok (.adminSession claims.sub claims.permissions)
      | none => .error .invalidApiKey
    | none => if shown.isSome then .error .invalidApiKey else .error .missingApiKey

def validateWithPermission (s : AccessState) (headers : Headers) (required : String) :
    Except AuthError Principal := do
  let principal ← resolvePrincipal L s headers
  ensure (principal.hasPermission required = true) (.insufficientPermissions required)
  return principal

def validateToken (now : Time) (token : String) : Except AdminError Claims :=
  okOr (L.decode now token) (.unauthorized "Invalid or expired token")

def requireJwt (s : AccessState) (headers : Headers) : Except AdminError Principal := do
  let token ← okOr (extractAdminToken headers) (.unauthorized "Missing admin session")
  let claims ← validateToken L s.clock token
  return .adminSession claims.sub claims.permissions

def adminTokenTtlSecs : Nat := 86400

def defaultAdminPermissions : List String := ["admin", "gdpr", "verify"]

def defaultAdminPassword : String := "admin"

def minAdminPasswordLen : Nat := 12

def tokenClaims (now : Time) (username : String) : Claims :=
  ⟨username, defaultAdminPermissions, now + adminTokenTtlSecs, now⟩

def bcryptVerify (password hash : String) : Except AdminError Bool :=
  mapErr (fun e => .internal ("Bcrypt error: " ++ e)) (L.bcryptVerify password hash)

def bcryptHash (password : String) : Except AdminError String :=
  mapErr (fun e => .internal ("Bcrypt error: " ++ e)) (L.bcryptHash password)

/-- The checks of a login; the token is made afterwards. -/
def login (s : AccessState) (req : LoginRequest) : Except AdminError Write := do
  let user ← okOr (s.adminUsers.activeByName req.username) (.unauthorized "Invalid credentials")
  let valid ← bcryptVerify L req.password user.passwordHash
  ensure (valid = true) (.unauthorized "Invalid credentials")
  return .mint user
    ((L.bcryptVerify defaultAdminPassword user.passwordHash).toOption.getD false)

def changePassword (s : AccessState) (headers : Headers)
    (currentPassword newPassword : String) : Except AdminError Write := do
  let token ← okOr (extractAdminToken headers) (.unauthorized "Not authenticated")
  let claims ← validateToken L s.clock token
  let user ← okOr (s.adminUsers.activeByName claims.sub) (.unauthorized "Account not found")
  let currentOk ← bcryptVerify L currentPassword user.passwordHash
  ensure (currentOk = true) (.unauthorized "Current password is incorrect")
  ensure (newPassword ≠ currentPassword)
    (.badRequest "New password must differ from current password")
  ensure (newPassword ≠ defaultAdminPassword)
    (.badRequest "New password may not be the built-in default")
  ensure (minAdminPasswordLen ≤ (asBytes newPassword).length)
    (.badRequest "New password must be at least 12 characters")
  return .setPassword user (← bcryptHash L newPassword)

def createAdminUser (s : AccessState) (username password : String) :
    Except AdminError Write := do
  let username := trim username
  ensure (username ≠ "" ∧ (asBytes username).length ≤ 50)
    (.badRequest "Username must be 1–50 characters")
  ensure (minAdminPasswordLen ≤ (asBytes password).length)
    (.badRequest "Password must be at least 12 characters")
  ensure (s.adminUsers.table.find username = none) (.conflict "Username already taken")
  return .insertAdmin username (← bcryptHash L password)

/-- The count of the active accounts is the last thing that is read. -/
def deactivateAdminUser (s : AccessState) (principal : Principal) (id : String) :
    Except AdminError Write := do
  let uuid ← okOr (L.parseUuid id) (.badRequest "Invalid UUID")
  let target ← okOr (s.adminUsers.byId uuid) (.notFound "Account not found")
  ensure (principal.ofAccount target.username = false)
    (.badRequest "You cannot deactivate your own account")
  ensure (1 < s.adminUsers.activeCount)
    (.badRequest "Cannot deactivate the last active admin account")
  return .deactivateAdmin target

def createApiKey (req : CreateApiKeyRequest) (bytes : Bytes32) : Except AdminError Write := do
  ensure (req.keyType = .pk → ∀ p ∈ req.permissions, p = "verify")
    (.badRequest "Publishable keys (pk_*) may only carry the `verify` permission")
  ensure (req.permissions ≠ []) (.badRequest "At least one permission must be selected")
  return .insertApiKey req (generate req.keyType req.environment bytes)

def deactivateApiKey (id : String) : Except AdminError Write := do
  let uuid ← okOr (L.parseUuid id) (.badRequest "Invalid UUID")
  return .deactivateApiKey uuid

/-- The checks of a request. -/
def checkRequest (s : AccessState) (headers : Headers) (principal : Principal) :
    AdminRequest → Except AdminError Write
  | .changePassword currentPassword newPassword =>
    changePassword L s headers currentPassword newPassword
  | .createAdminUser username password => createAdminUser L s username password
  | .deactivateAdminUser id => deactivateAdminUser L s principal id
  | .createApiKey req bytes => createApiKey req bytes
  | .deactivateApiKey id => deactivateApiKey L id

/-! ## Writes -/

def keyRow (H : Hashes) (now : Time) (id : Nat) (raw name : String) (description : Option String)
    (permissions : List String) (createdBy : String) (keyType : KeyType)
    (environment : Environment) (keyPreview : String) : ApiKey where
  id := id
  keyHash := hashKey H raw
  name := name
  description := description
  permissions := .array (permissions.map .string)
  isActive := true
  createdAt := now
  lastUsedAt := none
  expiresAt := none
  createdBy := some createdBy
  keyType := keyType
  environment := environment
  keyPreview := keyPreview

/-- The rest of a request, with a fresh id for what it inserts. -/
def Write.finish (s : AccessState) (id : Nat) : Write → Except AdminError (AccessState × AdminReply)
  | .mint user mustChange => do
    let claims := tokenClaims s.clock user.username
    let token ← mapErr (fun e => .internal ("JWT creation failed: " ++ e)) (L.encode claims)
    return ({ s with
      adminUsers := s.adminUsers.setLastLogin user.id s.clock
      minted := claims :: s.minted },
      .loggedIn token user.username adminTokenTtlSecs mustChange)
  | .setPassword user passwordHash =>
    .ok ({ s with adminUsers := s.adminUsers.setPassword user.id passwordHash },
      .passwordChanged user.username)
  | .insertAdmin username passwordHash => do
    let user : AdminUser := ⟨id, username, passwordHash, true, s.clock, none⟩
    let adminUsers ← okOr (s.adminUsers.insert user) (.internal "duplicate key")
    return ({ s with adminUsers }, .userCreated user)
  | .deactivateAdmin target => do
    ensure (s.adminUsers.byId target.id ≠ none) (.notFound "Account not found")
    return ({ s with adminUsers := s.adminUsers.deactivate target.id }, .userDeactivated)
  | .insertApiKey req generated => do
    let row := keyRow L.hashes s.clock id generated.raw req.name req.description req.permissions
      "admin-dashboard" generated.keyType generated.environment generated.preview
    let apiKeys ← mapErr (fun _ => .internal "duplicate key") (s.apiKeys.create row)
    return ({ s with apiKeys },
      .keyCreated generated.raw generated.preview generated.keyType generated.environment req.name
        req.permissions)
  | .deactivateApiKey uuid => do
    ensure (∃ row ∈ s.apiKeys.rows, row.id = uuid) (.notFound "API key not found")
    return ({ s with apiKeys := s.apiKeys.deactivateWhere fun row => row.id = uuid },
      .keyDeactivated)

/-! ## Configured keys -/

/-- Short keys are kept as they are. -/
def apiKeyPreview (key : String) : String :=
  if key.toList.length ≤ 16 then key
  else String.ofList (key.toList.take 14) ++ "..." ++
    String.ofList (key.toList.drop (key.toList.length - 4))

/-- A configured key is inserted unless it authenticates already. -/
def ensureConfiguredApiKey (H : Hashes) (keys : ApiKeyTable) (now : Time) (id : Nat)
    (value : Option String) (name description : String) (permissions : List String) :
    Except KeyError ApiKeyTable :=
  match value.filter (trim · ≠ "") with
  | none => .ok keys
  | some key =>
    match keys.findByKey H now key with
    | .ok _ => .ok keys
    | .error _ => keys.create (keyRow H now id key name (some description) permissions "system"
        (apiKeyTypeAndEnv key).1 (apiKeyTypeAndEnv key).2 (apiKeyPreview key))

/-- The keys in the environment of the service. -/
structure AccessConfig where
  verifierApiKey : Option String
  apiKeyDev : Option String

def ensureVerifierKey (H : Hashes) (cfg : AccessConfig) (keys : ApiKeyTable) (now : Time)
    (id : Nat) : Except KeyError ApiKeyTable :=
  ensureConfiguredApiKey H keys now id cfg.verifierApiKey "Verifier App Key"
    "Browser publishable key used by the hosted verifier app" ["verify"]

def ensureDevKey (H : Hashes) (cfg : AccessConfig) (keys : ApiKeyTable) (now : Time) (id : Nat) :
    Except KeyError ApiKeyTable :=
  ensureConfiguredApiKey H keys now id cfg.apiKeyDev "Terraform Dev Key"
    "Operator/service key provisioned from deployment configuration"
    ["verify", "manage_issuers", "manage_revocations", "admin", "gdpr"]

/-- The keys after a start of the service, and whether it started. -/
def startKeys (H : Hashes) (cfg : AccessConfig) (keys : ApiKeyTable) (now : Time)
    (verifierId devId : Nat) : ApiKeyTable × Bool :=
  match ensureVerifierKey H cfg keys now verifierId with
  | .error _ => (keys, false)
  | .ok keys =>
    match ensureDevKey H cfg keys now devId with
    | .error _ => (keys, false)
    | .ok keys => (keys, true)

/-! ## Runs -/

/-- The session tokens that are shown to one of the gates. -/
def shownTokens (headers : Headers) : List String :=
  (readTokenFromCookies headers).toList ++ (extractAdminToken headers).toList

/-- Tokens that decode were handed out, and are at most a minute past their expiry. -/
def Genuine (s : AccessState) (headers : Headers) : Prop :=
  ∀ token ∈ shownTokens headers, ∀ claims, L.decode s.clock token = some claims →
    claims ∈ s.minted ∧ s.clock ≤ claims.exp + 60

inductive AccessStep (cfg : AccessConfig) (s : AccessState) : AccessState → Prop where
  | tick (now : Time) (later : s.clock ≤ now) : AccessStep cfg s { s with clock := now }
  | login (req : LoginRequest) (write : Write) (checked : login L s req = .ok write) :
    AccessStep cfg s { s with pending := write :: s.pending }
  | admin (headers : Headers) (principal : Principal) (req : AdminRequest) (write : Write)
    (genuine : Genuine L s headers) (allowed : requireJwt L s headers = .ok principal)
    (checked : checkRequest L s headers principal req = .ok write) :
    AccessStep cfg s { s with pending := write :: s.pending }
  /-- A pending request writes. -/
  | finish (before after : List Write) (write : Write) (id : Nat) (next : AccessState)
    (reply : AdminReply) (waiting : s.pending = before ++ write :: after)
    (written : write.finish L { s with pending := before ++ after } id = .ok (next, reply)) :
    AccessStep cfg s next
  /-- A pending request fails, or its handler is gone. -/
  | drop (before after : List Write) (write : Write)
    (waiting : s.pending = before ++ write :: after) :
    AccessStep cfg s { s with pending := before ++ after }
  /-- The service starts again, or one more instance of it. -/
  | start (verifierId devId : Nat) :
    AccessStep cfg s { s with
      apiKeys := (startKeys L.hashes cfg s.apiKeys s.clock verifierId devId).1 }
  /-- The scheduled clean-up. -/
  | expire : AccessStep cfg s { s with apiKeys := s.apiKeys.deactivateExpired s.clock }

/-- Every order of requests, clean-ups and starts. -/
def AccessReaches (cfg : AccessConfig) : AccessState → AccessState → Prop :=
  Relation.ReflTransGen (AccessStep L cfg)

end

end OwlId.Verification
