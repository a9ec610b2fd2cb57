import Mathlib
import OwlId.Verification.Access

/-! # Access over whole runs

What a request that gets through a gate rests on, whatever happened before it, and what a
deactivation is worth afterwards.
-/

namespace OwlId.Verification

open OwlId.Lib OwlId.ProofSystem

/-! ## Nothing is taken back -/

/-- A row of the accounts stays, and is not activated again. -/
def AdminUsers.Kept (users users' : AdminUsers) : Prop :=
  ∀ user ∈ users.table.rows, ∃ user' ∈ users'.table.rows, user'.id = user.id ∧
    user'.username = user.username ∧ (user'.isActive = true → user.isActive = true)

/-- A row of the keys stays as it is, but for its being active. -/
def ApiKeyTable.Kept (keys keys' : ApiKeyTable) : Prop :=
  ∀ row ∈ keys.rows, ∃ row' ∈ keys'.rows, row'.keyHash = row.keyHash ∧
    row'.expiresAt = row.expiresAt ∧ (row'.isActive = true → row.isActive = true)

structure AccessState.Grown (s s' : AccessState) : Prop where
  clock : s.clock ≤ s'.clock
  users : s.adminUsers.Kept s'.adminUsers
  keys : ApiKeyTable.Kept s.apiKeys s'.apiKeys

namespace AdminUsers

variable {users users' : AdminUsers}

theorem Kept.refl : users.Kept users := fun user among => ⟨user, among, rfl, rfl, id⟩

theorem Kept.trans {users'' : AdminUsers} (first : users.Kept users')
    (second : users'.Kept users'') : users.Kept users'' := by
  intro user among
  obtain ⟨user', among', sameId, sameName, inactive⟩ := first user among
  obtain ⟨user'', among'', sameId', sameName', inactive'⟩ := second user' among'
  exact ⟨user'', among'', sameId'.trans sameId, sameName'.trans sameName,
    fun active => inactive (inactive' active)⟩

theorem insert_rows {user : AdminUser} (inserted : users.insert user = some users') :
    users'.table.rows = users.table.rows ++ [user] := by
  rw [AdminUsers.insert] at inserted
  split at inserted
  · split at inserted
    · exact Option.some.inj inserted ▸ rfl
    · cases inserted
  · cases inserted

theorem kept_insert {user : AdminUser} (inserted : users.insert user = some users') :
    users.Kept users' := by
  intro old among
  refine ⟨old, ?_, rfl, rfl, id⟩
  rw [insert_rows inserted]
  exact List.mem_append_left _ among

theorem kept_update {id : Nat} {f : AdminUser → AdminUser}
    {keeps : ∀ user, (f user).username = user.username ∧ (f user).id = user.id}
    (inactive : ∀ user, (f user).isActive = true → user.isActive = true) :
    users.Kept (users.update id f keeps) := by
  intro user among
  refine ⟨if user.id = id then f user else user, List.mem_map.mpr ⟨user, among, rfl⟩, ?_⟩
  split
  · exact ⟨(keeps user).2, (keeps user).1, inactive user⟩
  · exact ⟨rfl, rfl, fun active => active⟩

theorem kept_setPassword (id : Nat) (hash : String) : users.Kept (users.setPassword id hash) :=
  kept_update fun _ active => active

theorem kept_setLastLogin (id : Nat) (now : Time) : users.Kept (users.setLastLogin id now) :=
  kept_update fun _ active => active

theorem kept_deactivate (id : Nat) : users.Kept (users.deactivate id) :=
  kept_update fun _ active => absurd active Bool.false_ne_true

end AdminUsers

namespace ApiKeyTable

variable {keys keys' : ApiKeyTable}

theorem Kept.refl : Kept keys keys := fun row among => ⟨row, among, rfl, rfl, id⟩

theorem Kept.trans {keys'' : ApiKeyTable} (first : Kept keys keys') (second : Kept keys' keys'') :
    Kept keys keys'' := by
  intro row among
  obtain ⟨row', among', sameHash, sameExpiry, inactive⟩ := first row among
  obtain ⟨row'', among'', sameHash', sameExpiry', inactive'⟩ := second row' among'
  exact ⟨row'', among'', sameHash'.trans sameHash, sameExpiry'.trans sameExpiry,
    fun active => inactive (inactive' active)⟩

theorem kept_deactivateWhere (which : ApiKey → Bool) : Kept keys (keys.deactivateWhere which) := by
  intro row among
  refine ⟨_, mem_deactivateWhere.mpr ⟨row, among, rfl⟩, ?_⟩
  split
  · exact ⟨rfl, rfl, fun active => absurd active Bool.false_ne_true⟩
  · exact ⟨rfl, rfl, id⟩

theorem kept_create {row : ApiKey} (created : keys.create row = .ok keys') : Kept keys keys' := by
  obtain ⟨unknown, rfl⟩ := create_eq_ok.mp created
  intro old among
  have other : old.keyHash ≠ row.keyHash := by
    intro same
    rw [Table.find_eq_some.mpr ⟨among, same⟩] at unknown
    cases unknown
  have found : (keys.insert row).find old.keyHash = some old := by
    rw [Table.find_insert, if_neg other, Table.find_eq_some.mpr ⟨among, rfl⟩]
  exact ⟨old, (Table.find_eq_some.mp found).1, rfl, rfl, fun active => active⟩

/-- A configured key is there already, or it is a new row. -/
theorem ensureConfigured_cases {H : Hashes} {now : Time} {id : Nat} {value : Option String}
    {name description : String} {permissions : List String}
    (ensured : ensureConfiguredApiKey H keys now id value name description permissions =
      .ok keys') :
    keys' = keys ∨ ∃ key preview, value = some key ∧ trim key ≠ "" ∧
      keys.find (hashKey H key) = none ∧
      keys' = keys.insert (keyRow H now id key name (some description) permissions "system"
        (apiKeyTypeAndEnv key).1 (apiKeyTypeAndEnv key).2 preview) := by
  rw [ensureConfiguredApiKey] at ensured
  split at ensured
  · exact .inl (Except.ok.inj ensured).symm
  · rename_i key configured
    split at ensured
    · exact .inl (Except.ok.inj ensured).symm
    · obtain ⟨unknown, rfl⟩ := create_eq_ok.mp ensured
      obtain ⟨here, visible⟩ := Option.filter_eq_some_iff.mp configured
      exact .inr ⟨key, _, here, by simpa using visible, unknown, rfl⟩

theorem kept_ensureConfigured {H : Hashes} {now : Time} {id : Nat} {value : Option String}
    {name description : String} {permissions : List String}
    (ensured : ensureConfiguredApiKey H keys now id value name description permissions =
      .ok keys') : Kept keys keys' := by
  rcases ensureConfigured_cases ensured with rfl | ⟨key, preview, _, _, unknown, rfl⟩
  · exact .refl
  · exact kept_create (create_eq_ok.mpr ⟨unknown, rfl⟩)

theorem kept_startKeys (H : Hashes) (cfg : AccessConfig) (now : Time) (verifierId devId : Nat) :
    Kept keys (startKeys H cfg keys now verifierId devId).1 := by
  unfold startKeys
  split
  · exact .refl
  · rename_i verifier
    split
    · exact kept_ensureConfigured verifier
    · rename_i dev
      exact (kept_ensureConfigured verifier).trans (kept_ensureConfigured dev)

end ApiKeyTable

variable {L : AccessLibs} {cfg : AccessConfig} {s s' : AccessState}

theorem AccessState.Grown.refl : s.Grown s := ⟨le_refl _, .refl, .refl⟩

theorem AccessState.Grown.trans {s'' : AccessState} (first : s.Grown s') (second : s'.Grown s'') :
    s.Grown s'' :=
  ⟨first.clock.trans second.clock, first.users.trans second.users, first.keys.trans second.keys⟩

/-- What a write does, if it succeeds. -/
inductive Finished (L : AccessLibs) (s : AccessState) (id : Nat) : Write → AccessState → Prop where
  | mint (user : AdminUser) (mustChange : Bool) : Finished L s id (.mint user mustChange)
    { s with
      adminUsers := s.adminUsers.setLastLogin user.id s.clock
      minted := tokenClaims s.clock user.username :: s.minted }
  | setPassword (user : AdminUser) (hash : String) : Finished L s id (.setPassword user hash)
    { s with adminUsers := s.adminUsers.setPassword user.id hash }
  | insertAdmin (username hash : String) (adminUsers : AdminUsers)
    (inserted : s.adminUsers.insert ⟨id, username, hash, true, s.clock, none⟩ = some adminUsers) :
    Finished L s id (.insertAdmin username hash) { s with adminUsers }
  | deactivateAdmin (target : AdminUser) : Finished L s id (.deactivateAdmin target)
    { s with adminUsers := s.adminUsers.deactivate target.id }
  | insertApiKey (req : CreateApiKeyRequest) (generated : GeneratedKey) (apiKeys : ApiKeyTable)
    (created : s.apiKeys.create (keyRow L.hashes s.clock id generated.raw req.name req.description
      req.permissions "admin-dashboard" generated.keyType generated.environment
      generated.preview) = .ok apiKeys) :
    Finished L s id (.insertApiKey req generated) { s with apiKeys }
  | deactivateApiKey (uuid : Nat) : Finished L s id (.deactivateApiKey uuid)
    { s with apiKeys := s.apiKeys.deactivateWhere fun row => row.id = uuid }

theorem finished_of_finish {id : Nat} {write : Write} {reply : AdminReply}
    (written : write.finish L s id = .ok (s', reply)) : Finished L s id write s' := by
  cases write <;> simp only [Write.finish, bind_eq_ok, mapErr_eq_ok, okOr_eq_ok, ensure_eq_ok,
    pure_eq_ok, Prod.mk.injEq, Except.ok.injEq, exists_const] at written
  case mint user mustChange =>
    obtain ⟨_, _, rfl, _⟩ := written
    exact .mint user mustChange
  case setPassword user hash =>
    obtain ⟨rfl, _⟩ := written
    exact .setPassword user hash
  case insertAdmin username hash =>
    obtain ⟨adminUsers, inserted, rfl, _⟩ := written
    exact .insertAdmin username hash adminUsers inserted
  case deactivateAdmin target =>
    obtain ⟨_, rfl, _⟩ := written
    exact .deactivateAdmin target
  case insertApiKey req generated =>
    obtain ⟨apiKeys, created, rfl, _⟩ := written
    exact .insertApiKey req generated apiKeys created
  case deactivateApiKey uuid =>
    obtain ⟨_, rfl, _⟩ := written
    exact .deactivateApiKey uuid

theorem Finished.grown {id : Nat} {write : Write} (finished : Finished L s id write s') :
    s.Grown s' := by
  cases finished with
  | mint user mustChange => exact ⟨le_refl _, AdminUsers.kept_setLastLogin _ _, .refl⟩
  | setPassword user hash => exact ⟨le_refl _, AdminUsers.kept_setPassword _ _, .refl⟩
  | insertAdmin username hash adminUsers inserted =>
    exact ⟨le_refl _, AdminUsers.kept_insert inserted, .refl⟩
  | deactivateAdmin target => exact ⟨le_refl _, AdminUsers.kept_deactivate _, .refl⟩
  | insertApiKey req generated apiKeys created =>
    exact ⟨le_refl _, .refl, ApiKeyTable.kept_create created⟩
  | deactivateApiKey uuid => exact ⟨le_refl _, .refl, ApiKeyTable.kept_deactivateWhere _⟩

theorem Finished.pending_eq {id : Nat} {write : Write} (finished : Finished L s id write s') :
    s'.pending = s.pending := by
  cases finished <;> rfl

theorem Finished.minted_cases {id : Nat} {write : Write} (finished : Finished L s id write s') :
    s'.minted = s.minted ∨ ∃ user mustChange, write = .mint user mustChange ∧
      s'.minted = tokenClaims s.clock user.username :: s.minted := by
  cases finished with
  | mint user mustChange => exact .inr ⟨user, mustChange, rfl, rfl⟩
  | _ => exact .inl rfl

theorem mem_pending {before after : List Write} {write other : Write}
    (here : s.pending = before ++ write :: after) (among : other ∈ before ++ after) :
    other ∈ s.pending := by
  rw [here]
  rcases List.mem_append.mp among with early | late
  · exact List.mem_append_left _ early
  · exact List.mem_append_right _ (List.mem_cons_of_mem _ late)

theorem step_grown (step : AccessStep L cfg s s') : s.Grown s' := by
  cases step with
  | tick now later => exact ⟨later, .refl, .refl⟩
  | login req write checked => exact ⟨le_refl _, .refl, .refl⟩
  | admin headers principal req write genuine allowed checked => exact ⟨le_refl _, .refl, .refl⟩
  | finish before after write id next reply waiting written =>
    have grown := (finished_of_finish written).grown
    exact ⟨grown.clock, grown.users, grown.keys⟩
  | drop before after write waiting => exact ⟨le_refl _, .refl, .refl⟩
  | start verifierId devId => exact ⟨le_refl _, .refl, ApiKeyTable.kept_startKeys _ _ _ _ _⟩
  | expire => exact ⟨le_refl _, .refl, ApiKeyTable.kept_deactivateWhere _⟩

theorem reaches_grown (reached : AccessReaches L cfg s s') : s.Grown s' := by
  induction reached with
  | refl => exact .refl
  | tail _ step ih => exact ih.trans (step_grown step)

/-- What passing the checks of a request shows. -/
inductive Checked (s : AccessState) : Write → Prop where
  | setPassword (user : AdminUser) (hash : String) : Checked s (.setPassword user hash)
  | insertAdmin (username hash : String) : Checked s (.insertAdmin username hash)
  | deactivateAdmin (target : AdminUser) (several : 1 < s.adminUsers.activeCount) :
    Checked s (.deactivateAdmin target)
  | insertApiKey (req : CreateApiKeyRequest) (bytes : Bytes32)
    (publishable : req.keyType = .pk → ∀ p ∈ req.permissions, p = "verify") :
    Checked s (.insertApiKey req (generate req.keyType req.environment bytes))
  | deactivateApiKey (uuid : Nat) : Checked s (.deactivateApiKey uuid)

theorem checked_of_check {headers : Headers} {principal : Principal} {req : AdminRequest}
    {write : Write} (checked : checkRequest L s headers principal req = .ok write) :
    Checked s write := by
  cases req with
  | changePassword currentPassword newPassword =>
    simp only [checkRequest, changePassword, bind_eq_ok, pure_eq_ok] at checked
    obtain ⟨_, _, _, _, user, _, _, _, _, _, _, _, _, _, _, _, hash, _, rfl⟩ := checked
    exact .setPassword user hash
  | createAdminUser username password =>
    simp only [checkRequest, createAdminUser, bind_eq_ok, pure_eq_ok] at checked
    obtain ⟨_, _, _, _, _, _, hash, _, rfl⟩ := checked
    exact .insertAdmin _ hash
  | deactivateAdminUser id =>
    simp only [checkRequest, deactivateAdminUser, bind_eq_ok, ensure_eq_ok, pure_eq_ok,
      exists_const] at checked
    obtain ⟨_, _, target, _, _, several, rfl⟩ := checked
    exact .deactivateAdmin target several
  | createApiKey req bytes =>
    simp only [checkRequest, createApiKey, bind_eq_ok, ensure_eq_ok, pure_eq_ok,
      exists_const] at checked
    obtain ⟨publishable, _, rfl⟩ := checked
    exact .insertApiKey req bytes publishable
  | deactivateApiKey id =>
    simp only [checkRequest, deactivateApiKey, bind_eq_ok, pure_eq_ok] at checked
    obtain ⟨uuid, _, rfl⟩ := checked
    exact .deactivateApiKey uuid

theorem login_eq_ok {req : LoginRequest} {write : Write} (checked : login L s req = .ok write) :
    ∃ user mustChange, write = .mint user mustChange ∧
      s.adminUsers.activeByName req.username = some user ∧
      L.bcryptVerify req.password user.passwordHash = .ok true := by
  simp only [login, bcryptVerify, bind_eq_ok, okOr_eq_ok, mapErr_eq_ok, ensure_eq_ok, pure_eq_ok,
    exists_const] at checked
  obtain ⟨user, found, valid, matches', rfl, rfl⟩ := checked
  exact ⟨user, _, rfl, found, matches'⟩

/-! ## Through a gate -/

theorem fallback_eq_ok {headers : Headers} {shown : Option String} {principal : Principal}
    (resolved : resolvePrincipal.fallback L s headers shown = .ok principal) :
    ∃ token claims, readTokenFromCookies headers = some token ∧
      L.decode s.clock token = some claims ∧
      principal = .adminSession claims.sub claims.permissions := by
  unfold resolvePrincipal.fallback at resolved
  split at resolved
  · rename_i token cookie
    split at resolved
    · rename_i claims decoded
      exact ⟨token, claims, cookie, decoded, (Except.ok.inj resolved).symm⟩
    · cases resolved
  · split at resolved
    · cases resolved
    · cases resolved

/-- A caller is the row of a valid key that was shown, or a session whose cookie decodes. -/
theorem resolvePrincipal_cases {headers : Headers} {principal : Principal}
    (resolved : resolvePrincipal L s headers = .ok principal) :
    (∃ key row, principal = .apiKey row ∧ extractApiKey headers = some key ∧
      s.apiKeys.find (hashKey L.hashes key) = some row ∧ row.isValid s.clock = true) ∨
    ∃ token claims, readTokenFromCookies headers = some token ∧
      L.decode s.clock token = some claims ∧
      principal = .adminSession claims.sub claims.permissions := by
  unfold resolvePrincipal at resolved
  dsimp only at resolved
  split at resolved
  · rename_i row found
    obtain ⟨key, shown, returned⟩ := Option.bind_eq_some_iff.mp found
    split at resolved
    · cases looked : s.apiKeys.findByKey L.hashes s.clock key with
      | error e =>
        rw [looked] at returned
        cases returned
      | ok row' =>
        rw [looked] at returned
        obtain rfl : row' = row := Option.some.inj returned
        exact .inl ⟨key, row', (Except.ok.inj resolved).symm, shown,
          ApiKeyTable.findByKey_eq_ok.mp looked⟩
    · exact .inr (fallback_eq_ok resolved)
  · exact .inr (fallback_eq_ok resolved)

theorem requireJwt_eq_ok {headers : Headers} {principal : Principal} :
    requireJwt L s headers = .ok principal ↔
      ∃ token claims, extractAdminToken headers = some token ∧
        L.decode s.clock token = some claims ∧
        principal = .adminSession claims.sub claims.permissions := by
  simp only [requireJwt, validateToken, bind_eq_ok, okOr_eq_ok, pure_eq_ok]
  constructor
  · rintro ⟨token, shown, claims, decoded, rfl⟩
    exact ⟨token, claims, shown, decoded, rfl⟩
  · rintro ⟨token, claims, shown, decoded, rfl⟩
    exact ⟨token, shown, claims, decoded, rfl⟩

/-! ## Two accounts -/

def sampleAccessLibs : AccessLibs where
  hashes := sampleHashes
  encode claims := .ok claims.sub
  decode now token :=
    if now ≤ 1700000000 + 86400 + 60 then some (tokenClaims 1700000000 token) else none
  bcryptVerify password hash := .ok (hash == "hash of " ++ password)
  bcryptHash password := .ok ("hash of " ++ password)
  parseUuid id := if id = "first" then some 1 else if id = "second" then some 2 else none

def sampleAdmin : AdminUser := ⟨1, "admin", "hash of admin", true, 1600000000, none⟩

def sampleOperator : AdminUser := ⟨2, "operator", "hash of battery staple", true, 1600000000, none⟩

def sampleAccounts : AdminUsers where
  table := ⟨[sampleAdmin, sampleOperator], by decide⟩
  ids := by decide

def sampleDashboard : AccessState := ⟨1700000000, Table.empty, sampleAccounts, [], []⟩

/-- Nobody has logged in yet. -/
structure AccessState.Fresh (s : AccessState) : Prop where
  minted : s.minted = []
  pending : s.pending = []

theorem sampleDashboard_fresh : sampleDashboard.Fresh := ⟨rfl, rfl⟩

/-- The second account has a session. -/
def sampleOneSession : AccessState :=
  { sampleDashboard with
    adminUsers := sampleAccounts.setLastLogin 2 1700000000
    minted := [tokenClaims 1700000000 "operator"] }

/-- Both accounts have one. -/
def sampleTwoSessions : AccessState :=
  { sampleOneSession with
    adminUsers := sampleOneSession.adminUsers.setLastLogin 1 1700000000
    minted := [tokenClaims 1700000000 "admin", tokenClaims 1700000000 "operator"] }

def sampleCookie (token : String) : Headers := ⟨none, some ("owlid_admin_token=" ++ token)⟩

section

variable (cfg : AccessConfig)

theorem sampleTwoSessions_reached :
    AccessReaches sampleAccessLibs cfg sampleDashboard sampleTwoSessions := by
  have operator : AccessStep sampleAccessLibs cfg sampleDashboard
      { sampleDashboard with pending := [.mint sampleOperator false] } :=
    .login ⟨"operator", "battery staple"⟩ _ rfl
  have signed : AccessStep sampleAccessLibs cfg
      { sampleDashboard with pending := [.mint sampleOperator false] } sampleOneSession :=
    .finish [] [] (.mint sampleOperator false) 0 _ (.loggedIn "operator" "operator" 86400 false)
      rfl rfl
  have admin : AccessStep sampleAccessLibs cfg sampleOneSession
      { sampleOneSession with pending := [.mint sampleAdmin true] } :=
    .login ⟨"admin", "admin"⟩ _ rfl
  have signed' : AccessStep sampleAccessLibs cfg
      { sampleOneSession with pending := [.mint sampleAdmin true] } sampleTwoSessions :=
    .finish [] [] (.mint sampleAdmin true) 0 _ (.loggedIn "admin" "admin" 86400 true) rfl rfl
  exact (((Relation.ReflTransGen.single operator).tail signed).tail admin).tail signed'

theorem sample_genuine {token : String} (one : token = "admin" ∨ token = "operator")
    {s : AccessState} (minted : s.minted = sampleTwoSessions.minted)
    (early : s.clock ≤ 1700086460) : Genuine sampleAccessLibs s (sampleCookie token) := by
  intro shown among claims decoded
  obtain rfl : shown = token := by
    rcases one with rfl | rfl
    · exact (List.mem_cons.mp among).elim id fun rest => List.mem_singleton.mp rest
    · exact (List.mem_cons.mp among).elim id fun rest => List.mem_singleton.mp rest
  have same : claims = tokenClaims 1700000000 shown := by
    simp only [sampleAccessLibs] at decoded
    split at decoded
    · exact (Option.some.inj decoded).symm
    · cases decoded
  subst same
  refine ⟨?_, early⟩
  rw [minted]
  rcases one with rfl | rfl
  · exact List.mem_cons_self
  · exact List.mem_cons_of_mem _ List.mem_cons_self

/-- The second account has deactivated the first, whose session goes on. -/
def sampleDismissed : AccessState :=
  { sampleTwoSessions with adminUsers := sampleTwoSessions.adminUsers.deactivate 1 }

def sampleDismissal : Write :=
  .deactivateAdmin { sampleAdmin with lastLoginAt := some 1700000000 }

theorem sampleDismissed_reached :
    AccessReaches sampleAccessLibs cfg sampleDashboard sampleDismissed := by
  have asked : AccessStep sampleAccessLibs cfg sampleTwoSessions
      { sampleTwoSessions with pending := [sampleDismissal] } :=
    .admin (sampleCookie "operator") (.adminSession "operator" defaultAdminPermissions)
      (.deactivateAdminUser "first") _ (sample_genuine (.inr rfl) rfl (by decide)) rfl rfl
  have written : AccessStep sampleAccessLibs cfg
      { sampleTwoSessions with pending := [sampleDismissal] } sampleDismissed :=
    .finish [] [] sampleDismissal 0 _ .userDeactivated rfl rfl
  exact ((sampleTwoSessions_reached cfg).tail asked).tail written

end

/-! ## Deactivated keys -/

/-- The key is known, and deactivated or expired. -/
def ApiKeyTable.Invalid (H : Hashes) (keys : ApiKeyTable) (now : Time) (key : String) : Prop :=
  ∃ row, keys.find (hashKey H key) = some row ∧ row.isValid now = false

namespace ApiKeyTable

variable {H : Hashes} {keys keys' : ApiKeyTable} {now now' : Time} {key : String}

theorem Invalid.kept (invalid : keys.Invalid H now key) (kept : Kept keys keys')
    (later : now ≤ now') : keys'.Invalid H now' key := by
  obtain ⟨row, found, invalid⟩ := invalid
  obtain ⟨among, here⟩ := Table.find_eq_some.mp found
  obtain ⟨row', among', sameHash, sameExpiry, inactive⟩ := kept row among
  refine ⟨row', Table.find_eq_some.mpr ⟨among', sameHash.trans here⟩, ?_⟩
  rw [ApiKey.isValid, Bool.and_eq_false_iff, Bool.not_eq_false'] at invalid ⊢
  rcases invalid with deactivated | expired
  · refine .inl ?_
    rw [Bool.eq_false_iff] at deactivated ⊢
    exact fun active => deactivated (inactive active)
  · refine .inr ?_
    rw [ApiKey.expired, Option.any_eq_true] at expired ⊢
    obtain ⟨expiresAt, expires, past⟩ := expired
    refine ⟨expiresAt, sameExpiry.trans expires, ?_⟩
    rw [decide_eq_true_eq] at past ⊢
    exact lt_of_lt_of_le past later

theorem Invalid.findByKey_ne (invalid : keys.Invalid H now key) (row : ApiKey) :
    keys.findByKey H now key ≠ .ok row := by
  intro returned
  obtain ⟨found, valid⟩ := findByKey_eq_ok.mp returned
  obtain ⟨row', found', invalid⟩ := invalid
  obtain rfl := Option.some.inj (found.symm.trans found')
  rw [invalid] at valid
  cases valid

/-- The insertion runs into the row that is there. -/
theorem Invalid.ensureConfigured_ne (invalid : keys.Invalid H now key) (visible : trim key ≠ "")
    {id : Nat} {name description : String} {permissions : List String} :
    ensureConfiguredApiKey H keys now id (some key) name description permissions ≠ .ok keys' := by
  intro ensured
  have configured : (some key).filter (trim · ≠ "") = some key :=
    Option.filter_eq_some_iff.mpr ⟨rfl, by simpa using visible⟩
  simp only [ensureConfiguredApiKey, configured] at ensured
  cases returned : keys.findByKey H now key with
  | ok row => exact invalid.findByKey_ne row returned
  | error e =>
    rw [returned] at ensured
    obtain ⟨unknown, _⟩ := create_eq_ok.mp ensured
    obtain ⟨row, found, _⟩ := invalid
    have found : keys.find (hashKey H key) = none := unknown
    simp_all

end ApiKeyTable

/-- A key that is no longer valid, deactivated or expired, never authenticates again, and while it
    is configured the service does not even start. -/
theorem invalid_keys_stay_out (reached : AccessReaches L cfg s s') {key : String} {row : ApiKey}
    (known : s.apiKeys.find (hashKey L.hashes key) = some row)
    (invalid : row.isValid s.clock = false) :
    (∀ headers, extractApiKey headers = some key →
      ∀ row', resolvePrincipal L s' headers ≠ .ok (.apiKey row')) ∧
    (trim key ≠ "" → cfg.verifierApiKey = some key ∨ cfg.apiKeyDev = some key →
      ∀ verifierId devId,
        (startKeys L.hashes cfg s'.apiKeys s'.clock verifierId devId).2 = false) := by
  have grown := reaches_grown reached
  have invalid : s'.apiKeys.Invalid L.hashes s'.clock key :=
    ApiKeyTable.Invalid.kept ⟨row, known, invalid⟩ grown.keys grown.clock
  constructor
  · intro headers shown row' resolved
    rcases resolvePrincipal_cases resolved with ⟨other, _, _, shown', found, valid⟩ |
        ⟨_, _, _, _, session⟩
    · obtain rfl := Option.some.inj (shown.symm.trans shown')
      exact invalid.findByKey_ne _ (ApiKeyTable.findByKey_eq_ok.mpr ⟨found, valid⟩)
    · cases session
  · intro visible configured verifierId devId
    unfold startKeys
    cases verifier : ensureVerifierKey L.hashes cfg s'.apiKeys s'.clock verifierId with
    | error e => rfl
    | ok keys =>
      rcases configured with here | here
      · rw [ensureVerifierKey, here] at verifier
        exact absurd verifier (invalid.ensureConfigured_ne visible)
      · have invalid := invalid.kept (ApiKeyTable.kept_ensureConfigured verifier) (le_refl _)
        cases dev : ensureDevKey L.hashes cfg keys s'.clock devId with
        | error e => simp only [dev]
        | ok keys =>
          rw [ensureDevKey, here] at dev
          exact absurd dev (invalid.ensureConfigured_ne visible)

def sampleDeployKey : String := "owlid_sk_test_battery"

/-- The key of the deployment has been deactivated. -/
def sampleRevoked : AccessState :=
  { sampleDashboard with
    apiKeys := ApiKeyTable.deactivateWhere (Table.empty.insert (keyRow sampleHashes 1600000000 7
      sampleDeployKey "Terraform Dev Key" none ["verify", "admin"] "system" .sk .test sampleDeployKey))
      fun row => row.id = 7 }

/-- A day later the key is refused, and the service that is configured with it does not start. -/
theorem invalid_keys_stay_out_at_sample :
    (∀ row, resolvePrincipal sampleAccessLibs { sampleRevoked with clock := 1700086400 }
      ⟨some ("Bearer " ++ sampleDeployKey), none⟩ ≠ .ok (.apiKey row)) ∧
    (startKeys sampleHashes ⟨none, some sampleDeployKey⟩ sampleRevoked.apiKeys 1700086400 8 9).2 =
      false := by
  have later : AccessStep sampleAccessLibs ⟨none, some sampleDeployKey⟩ sampleRevoked
      { sampleRevoked with clock := 1700086400 } := .tick 1700086400 (by decide)
  have known : sampleRevoked.apiKeys.find (hashKey sampleAccessLibs.hashes sampleDeployKey) =
      some { keyRow sampleHashes 1600000000 7 sampleDeployKey "Terraform Dev Key" none
        ["verify", "admin"] "system" .sk .test sampleDeployKey with isActive := false } := by
    simp [sampleRevoked, ApiKeyTable.deactivateWhere, Table.find, Table.insert, Table.empty, keyRow,
      sampleAccessLibs]
  obtain ⟨refused, stopped⟩ :=
    invalid_keys_stay_out (Relation.ReflTransGen.single later) known rfl
  exact ⟨refused _ rfl, stopped (by decide) (.inr rfl) 8 9⟩

/-! ## Publishable keys -/

/-- The text of the deployment's own key makes it a publishable one, and the key of the verifier
    app is not the same. -/
def DevKeyPublishable (H : Hashes) (cfg : AccessConfig) : Prop :=
  ∃ key, cfg.apiKeyDev = some key ∧ trim key ≠ "" ∧ (apiKeyTypeAndEnv key).1 = .pk ∧
    ∀ verifier, cfg.verifierApiKey = some verifier → trim verifier ≠ "" →
      hashKey H verifier ≠ hashKey H key

/-- If the key is publishable, `verify` is all it permits. -/
def ApiKey.VerifyOnly (row : ApiKey) : Prop :=
  row.keyType = .pk → ∀ permission, row.hasPermission permission = true → permission = "verify"

structure VerifyOnly (s : AccessState) : Prop where
  rows : ∀ row ∈ s.apiKeys.rows, row.VerifyOnly
  pending : ∀ req generated, .insertApiKey req generated ∈ s.pending → generated.keyType = .pk →
    ∀ p ∈ req.permissions, p = "verify"

theorem hasPermission_keyRow {H : Hashes} {now : Time} {id : Nat} {raw name : String}
    {description : Option String} {permissions : List String} {createdBy : String}
    {keyType : KeyType} {environment : Environment} {keyPreview permission : String} :
    (keyRow H now id raw name description permissions createdBy keyType environment
      keyPreview).hasPermission permission = true ↔ permission ∈ permissions := by
  simp [ApiKey.hasPermission, keyRow, Json.asArray, Json.asStr]

namespace ApiKeyTable

variable {H : Hashes} {keys keys' : ApiKeyTable} {now : Time} {id : Nat} {value : Option String}
  {name description : String} {permissions : List String}

theorem mem_create {row other : ApiKey} (created : keys.create row = .ok keys')
    (among : other ∈ keys'.rows) : other = row ∨ other ∈ keys.rows := by
  obtain ⟨_, rfl⟩ := create_eq_ok.mp created
  exact Table.mem_insert among

/-- A configured key is known once it is set up. -/
theorem find_ensureConfigured
    (ensured : ensureConfiguredApiKey H keys now id value name description permissions =
      .ok keys') {key : String} (here : value = some key) (visible : trim key ≠ "") :
    keys'.find (hashKey H key) ≠ none := by
  subst here
  have configured : (some key).filter (trim · ≠ "") = some key :=
    Option.filter_eq_some_iff.mpr ⟨rfl, by simpa using visible⟩
  simp only [ensureConfiguredApiKey, configured] at ensured
  cases looked : keys.findByKey H now key with
  | ok row =>
    rw [looked] at ensured
    obtain rfl := Except.ok.inj ensured
    rw [(findByKey_eq_ok.mp looked).1]
    exact Option.some_ne_none row
  | error e =>
    rw [looked] at ensured
    obtain ⟨_, rfl⟩ := create_eq_ok.mp ensured
    rw [Table.find_insert]
    split
    · exact Option.some_ne_none _
    · rename_i different
      exact absurd rfl different

/-- A configured key that is not known is inserted. -/
theorem ensureConfigured_unknown {key : String} (visible : trim key ≠ "")
    (unknown : keys.find (hashKey H key) = none) :
    ∃ preview, ensureConfiguredApiKey H keys now id (some key) name description permissions =
      .ok (keys.insert (keyRow H now id key name (some description) permissions "system"
        (apiKeyTypeAndEnv key).1 (apiKeyTypeAndEnv key).2 preview)) := by
  have configured : (some key).filter (trim · ≠ "") = some key :=
    Option.filter_eq_some_iff.mpr ⟨rfl, by simpa using visible⟩
  refine ⟨apiKeyPreview key, ?_⟩
  simp only [ensureConfiguredApiKey, configured]
  cases looked : keys.findByKey H now key with
  | ok row => cases unknown.symm.trans (findByKey_eq_ok.mp looked).1
  | error e => exact create_eq_ok.mpr ⟨unknown, rfl⟩

theorem find_of_empty (empty : keys.rows = []) (hash : String) : keys.find hash = none := by
  simp [Table.find, empty]

/-- Setting up the key of the verifier app leaves another key unknown. -/
theorem exists_ensureVerifierKey {cfg : AccessConfig} {key : String} (empty : keys.rows = [])
    (different : ∀ verifier, cfg.verifierApiKey = some verifier → trim verifier ≠ "" →
      hashKey H verifier ≠ hashKey H key) (id : Nat) :
    ∃ keys', ensureVerifierKey H cfg keys now id = .ok keys' ∧
      keys'.find (hashKey H key) = none := by
  rw [ensureVerifierKey]
  cases configured : cfg.verifierApiKey with
  | none => exact ⟨keys, rfl, find_of_empty empty _⟩
  | some verifier =>
    by_cases visible : trim verifier ≠ ""
    · obtain ⟨preview, ensured⟩ := @ensureConfigured_unknown H keys now id "Verifier App Key"
        "Browser publishable key used by the hosted verifier app" ["verify"] verifier visible
        (find_of_empty empty _)
      refine ⟨_, ensured, ?_⟩
      rw [Table.find_insert, if_neg, find_of_empty empty]
      exact fun same => different verifier configured visible same.symm
    · have blank : (some verifier).filter (trim · ≠ "") = none := by
        rw [Option.filter_eq_none_iff]
        intro other same shown
        obtain rfl := Option.some.inj same
        exact visible (by simpa using shown)
      exact ⟨keys, by simp only [ensureConfiguredApiKey, blank], find_of_empty empty _⟩

/-- The deployment's own key, when it is not known, becomes an operator's key of its own type. -/
theorem exists_ensureDevKey {cfg : AccessConfig} {key : String} (here : cfg.apiKeyDev = some key)
    (visible : trim key ≠ "") (unknown : keys.find (hashKey H key) = none) (id : Nat) :
    ∃ row : ApiKey, ensureDevKey H cfg keys now id = .ok (keys.insert row) ∧
      row.keyType = (apiKeyTypeAndEnv key).1 ∧ row.hasPermission "admin" = true := by
  obtain ⟨preview, ensured⟩ := @ensureConfigured_unknown H keys now id "Terraform Dev Key"
    "Operator/service key provisioned from deployment configuration"
    ["verify", "manage_issuers", "manage_revocations", "admin", "gdpr"] key visible unknown
  rw [← here] at ensured
  exact ⟨_, ensured, rfl, hasPermission_keyRow.mpr (by simp)⟩

theorem verifyOnly_deactivateWhere {which : ApiKey → Bool}
    (rows : ∀ row ∈ keys.rows, row.VerifyOnly) :
    ∀ row ∈ (keys.deactivateWhere which).rows, row.VerifyOnly := by
  intro row among
  obtain ⟨old, there, rfl⟩ := mem_deactivateWhere.mp among
  split
  · exact rows old there
  · exact rows old there

end ApiKeyTable

theorem startKeys_verifyOnly (secret : ¬ DevKeyPublishable L.hashes cfg) {keys : ApiKeyTable}
    {now : Time} {verifierId devId : Nat}
    (rows : ∀ row ∈ keys.rows, row.VerifyOnly) :
    ∀ row ∈ (startKeys L.hashes cfg keys now verifierId devId).1.rows, row.VerifyOnly := by
  unfold startKeys
  split
  · exact rows
  · rename_i keys₁ verifier
    have rows₁ : ∀ row ∈ keys₁.rows, row.VerifyOnly := by
      rcases ApiKeyTable.ensureConfigured_cases verifier with rfl | ⟨key, _, _, _, _, rfl⟩
      · exact rows
      · intro row among publishable permission has
        rcases Table.mem_insert among with rfl | old
        · simpa using hasPermission_keyRow.mp has
        · exact rows row old publishable permission has
    split
    · exact rows₁
    · rename_i keys₂ dev
      rcases ApiKeyTable.ensureConfigured_cases dev with rfl | ⟨key, _, here, visible, unknown, rfl⟩
      · exact rows₁
      · intro row among publishable permission has
        rcases Table.mem_insert among with rfl | old
        · -- such a key would have been set up for the verifier app already
          refine absurd ⟨key, here, visible, publishable, ?_⟩ secret
          intro other configured shown same
          refine ApiKeyTable.find_ensureConfigured verifier configured shown ?_
          rw [same]
          exact unknown
        · exact rows₁ row old publishable permission has

theorem verifyOnly_step (secret : ¬ DevKeyPublishable L.hashes cfg)
    (step : AccessStep L cfg s s') (only : VerifyOnly s) : VerifyOnly s' := by
  cases step with
  | tick now later => exact ⟨only.rows, only.pending⟩
  | login req write checked =>
    refine ⟨only.rows, ?_⟩
    intro req generated among
    obtain ⟨_, _, rfl, _⟩ := login_eq_ok checked
    rcases List.mem_cons.mp among with same | earlier
    · cases same
    · exact only.pending req generated earlier
  | admin headers principal req write genuine allowed checked =>
    refine ⟨only.rows, ?_⟩
    intro req generated among publishable
    rcases List.mem_cons.mp among with same | earlier
    · have shape := checked_of_check checked
      rw [← same] at shape
      cases shape with
      | insertApiKey req bytes carries => exact carries publishable
    · exact only.pending req generated earlier publishable
  | finish before after write id next reply here written =>
    have finished := finished_of_finish written
    refine ⟨?_, ?_⟩
    · cases finished with
      | insertApiKey req generated apiKeys created =>
        intro row among publishable permission has
        rcases ApiKeyTable.mem_create created among with rfl | old
        · refine only.pending req generated ?_ publishable permission
            (hasPermission_keyRow.mp has)
          rw [here]
          exact List.mem_append_right _ List.mem_cons_self
        · exact only.rows row old publishable permission has
      | deactivateApiKey uuid => exact ApiKeyTable.verifyOnly_deactivateWhere only.rows
      | _ => exact only.rows
    · intro req generated among
      rw [finished.pending_eq] at among
      exact only.pending req generated (mem_pending here among)
  | drop before after write here =>
    refine ⟨only.rows, ?_⟩
    intro req generated among
    exact only.pending req generated (mem_pending here among)
  | start verifierId devId => exact ⟨startKeys_verifyOnly secret only.rows, only.pending⟩
  | expire => exact ⟨ApiKeyTable.verifyOnly_deactivateWhere only.rows, only.pending⟩

/-- A publishable key permits nothing but `verify`, in every run from an empty table, if and only
    if the deployment's own key is not a publishable one. -/
theorem publishable_keys_verify_only_iff (L : AccessLibs) (cfg : AccessConfig)
    {start : AccessState} (fresh : start.pending = []) (empty : start.apiKeys.rows = []) :
    (∀ s, AccessReaches L cfg start s → ∀ row ∈ s.apiKeys.rows, row.VerifyOnly) ↔
      ¬ DevKeyPublishable L.hashes cfg := by
  constructor
  · rintro only ⟨key, here, visible, publishable, different⟩
    obtain ⟨keys, verifier, unknown⟩ :=
      @ApiKeyTable.exists_ensureVerifierKey _ _ start.clock cfg key empty different 1
    obtain ⟨row, dev, kind, admin⟩ :=
      @ApiKeyTable.exists_ensureDevKey _ _ start.clock cfg key here visible unknown 2
    have started : (startKeys L.hashes cfg start.apiKeys start.clock 1 2).1 =
        keys.insert row := by
      simp only [startKeys, verifier, dev]
    have among : row ∈ (startKeys L.hashes cfg start.apiKeys start.clock 1 2).1.rows := by
      rw [started, Table.insert_rows]
      exact List.mem_append_right _ (List.mem_singleton_self row)
    have alone := only _ (Relation.ReflTransGen.single (.start 1 2)) row among
      (kind.trans publishable) "admin" admin
    exact absurd alone (by decide)
  · intro secret s reached
    have held : VerifyOnly s := by
      induction reached with
      | refl => exact ⟨by simp [empty], by simp [fresh]⟩
      | tail _ step ih => exact verifyOnly_step secret step ih
    exact held.rows

/-- With a deployment key of the publishable format a publishable key permits more. -/
theorem publishable_keys_verify_only_iff_at_sample :
    (∀ s, AccessReaches sampleAccessLibs ⟨none, some sampleDeployKey⟩ sampleDashboard s →
      ∀ row ∈ s.apiKeys.rows, row.VerifyOnly) ∧
    ¬ ∀ s, AccessReaches sampleAccessLibs ⟨none, some "owlid_pk_test_battery"⟩ sampleDashboard s →
      ∀ row ∈ s.apiKeys.rows, row.VerifyOnly := by
  rw [publishable_keys_verify_only_iff _ _ rfl rfl, publishable_keys_verify_only_iff _ _ rfl rfl,
    not_not]
  constructor
  · rintro ⟨key, here, _, publishable, _⟩
    obtain rfl := Option.some.inj here
    exact absurd publishable (by decide)
  · exact ⟨_, rfl, by decide, by decide, fun _ configured => by cases configured⟩

end OwlId.Verification
