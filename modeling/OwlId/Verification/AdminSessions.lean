import Mathlib
import OwlId.Verification.AccessRuns

/-! # Sessions of the dashboard

A session rests on a login, and it outlasts the deactivation of its account, but not for long.  The
accounts themselves are kept from being deactivated to the last one by a count that is read before
the write; whether that is enough depends on what gets between the two.
-/

namespace OwlId.Verification

open OwlId.Lib OwlId.ProofSystem

variable {L : AccessLibs} {cfg : AccessConfig} {s s' : AccessState}

/-! ## Sessions -/

/-- Before the state, somebody who knew its password logged in to the account, then active. -/
def LoggedIn (L : AccessLibs) (cfg : AccessConfig) (start s : AccessState) (user : AdminUser) :
    Prop :=
  ∃ before password, AccessReaches L cfg start before ∧ AccessReaches L cfg before s ∧
    user ∈ before.adminUsers.table.rows ∧ user.isActive = true ∧
    L.bcryptVerify password user.passwordHash = .ok true

/-- Whoever has a token, or is about to get one, has logged in. -/
structure Warranted (L : AccessLibs) (cfg : AccessConfig) (start s : AccessState) : Prop where
  pending : ∀ user mustChange, .mint user mustChange ∈ s.pending → LoggedIn L cfg start s user
  minted : ∀ claims ∈ s.minted, ∃ user signed, LoggedIn L cfg start signed user ∧
    AccessReaches L cfg signed s ∧ claims = tokenClaims signed.clock user.username

theorem LoggedIn.later {start : AccessState} {user : AdminUser}
    (loggedIn : LoggedIn L cfg start s user) (reached : AccessReaches L cfg s s') :
    LoggedIn L cfg start s' user := by
  obtain ⟨before, password, first, second, among, active, known⟩ := loggedIn
  exact ⟨before, password, first, second.trans reached, among, active, known⟩

theorem activeByName_eq_some {users : AdminUsers} {username : String} {user : AdminUser}
    (found : users.activeByName username = some user) :
    user ∈ users.table.rows ∧ user.username = username ∧ user.isActive = true := by
  obtain ⟨here, active⟩ := Option.filter_eq_some_iff.mp found
  obtain ⟨among, named⟩ := Table.find_eq_some.mp here
  exact ⟨among, named, active⟩

theorem warranted_step {start : AccessState} (reached : AccessReaches L cfg start s)
    (step : AccessStep L cfg s s') (warranted : Warranted L cfg start s) :
    Warranted L cfg start s' := by
  have one : AccessReaches L cfg s s' := Relation.ReflTransGen.single step
  have kept : ∀ claims ∈ s.minted, ∃ user signed, LoggedIn L cfg start signed user ∧
      AccessReaches L cfg signed s' ∧ claims = tokenClaims signed.clock user.username := by
    intro claims among
    obtain ⟨user, signed, loggedIn, onward, same⟩ := warranted.minted claims among
    exact ⟨user, signed, loggedIn, onward.trans one, same⟩
  have waiting : ∀ user mustChange, .mint user mustChange ∈ s.pending →
      LoggedIn L cfg start s' user :=
    fun user mustChange among => (warranted.pending user mustChange among).later one
  cases step with
  | tick now later => exact ⟨waiting, kept⟩
  | login req write checked =>
    refine ⟨?_, kept⟩
    intro user mustChange among
    obtain ⟨known, _, rfl, found, valid⟩ := login_eq_ok checked
    rcases List.mem_cons.mp among with same | earlier
    · obtain ⟨rfl, _⟩ := Write.mint.inj same
      obtain ⟨row, _, active⟩ := activeByName_eq_some found
      exact ⟨s, req.password, reached, one, row, active, valid⟩
    · exact waiting user mustChange earlier
  | admin headers principal req write genuine allowed checked =>
    refine ⟨?_, kept⟩
    intro user mustChange among
    rcases List.mem_cons.mp among with same | earlier
    · have shape := checked_of_check checked
      rw [← same] at shape
      cases shape
    · exact waiting user mustChange earlier
  | finish before after write id next reply here written =>
    have finished := finished_of_finish written
    constructor
    · intro user mustChange among
      rw [finished.pending_eq] at among
      exact waiting user mustChange (mem_pending here among)
    · intro claims among
      rcases finished.minted_cases with same | ⟨user, mustChange, rfl, more⟩
      · rw [same] at among
        exact kept claims among
      · rw [more] at among
        rcases List.mem_cons.mp among with rfl | earlier
        · refine ⟨user, s, warranted.pending user mustChange ?_, one, rfl⟩
          rw [here]
          exact List.mem_append_right _ List.mem_cons_self
        · exact kept claims earlier
  | drop before after write here =>
    refine ⟨?_, kept⟩
    intro user mustChange among
    exact waiting user mustChange (mem_pending here among)
  | start verifierId devId => exact ⟨waiting, kept⟩
  | expire => exact ⟨waiting, kept⟩

theorem reaches_warranted {start : AccessState} (fresh : start.Fresh)
    (reached : AccessReaches L cfg start s) : Warranted L cfg start s := by
  induction reached with
  | refl => exact ⟨by simp [fresh.pending], by simp [fresh.minted]⟩
  | tail reached step ih => exact warranted_step reached step ih

/-- The caller's session, if it is one, has a token that was handed out. -/
theorem minted_of_session {headers : Headers} (genuine : Genuine L s headers)
    {principal : Principal}
    (passes : requireJwt L s headers = .ok principal ∨
      resolvePrincipal L s headers = .ok principal) :
    (∃ row, principal = .apiKey row) ∨ ∃ claims ∈ s.minted, s.clock ≤ claims.exp + 60 ∧
      principal = .adminSession claims.sub claims.permissions := by
  rcases passes with allowed | resolved
  · obtain ⟨token, claims, shown, decoded, rfl⟩ := requireJwt_eq_ok.mp allowed
    have among : token ∈ shownTokens headers := by simp [shownTokens, shown]
    obtain ⟨minted, live⟩ := genuine token among claims decoded
    exact .inr ⟨claims, minted, live, rfl⟩
  · rcases resolvePrincipal_cases resolved with ⟨_, row, rfl, _⟩ | session
    · exact .inl ⟨row, rfl⟩
    · obtain ⟨token, claims, cookie, decoded, rfl⟩ := session
      have among : token ∈ shownTokens headers := by simp [shownTokens, cookie]
      obtain ⟨minted, live⟩ := genuine token among claims decoded
      exact .inr ⟨claims, minted, live, rfl⟩

/-- A request that is let through with a permission shows the text of a valid key whose row has
    the permission, or comes at most a day and a minute after the token was handed out to somebody
    who had logged in to the account while it was active. -/
theorem permitted_requests_warranted {start : AccessState} (fresh : start.Fresh)
    (reached : AccessReaches L cfg start s) {headers : Headers} (genuine : Genuine L s headers)
    {required : String} {principal : Principal}
    (passes : validateWithPermission L s headers required = .ok principal) :
    (∃ key row, principal = .apiKey row ∧ extractApiKey headers = some key ∧
      s.apiKeys.find (hashKey L.hashes key) = some row ∧ row.isValid s.clock = true ∧
      row.hasPermission required = true) ∨
    ∃ user signed, principal = .adminSession user.username defaultAdminPermissions ∧
      required ∈ defaultAdminPermissions ∧ LoggedIn L cfg start signed user ∧
      AccessReaches L cfg signed s ∧ s.clock ≤ signed.clock + 86400 + 60 := by
  simp only [validateWithPermission, bind_eq_ok, ensure_eq_ok, pure_eq_ok, exists_const] at passes
  obtain ⟨_, resolved, permitted, rfl⟩ := passes
  rcases resolvePrincipal_cases resolved with ⟨key, row, rfl, shown, found, valid⟩ | session
  · exact .inl ⟨key, row, rfl, shown, found, valid, permitted⟩
  · obtain ⟨token, claims, cookie, decoded, rfl⟩ := session
    have among : token ∈ shownTokens headers := by simp [shownTokens, cookie]
    obtain ⟨minted, live⟩ := genuine token among claims decoded
    obtain ⟨user, signed, loggedIn, onward, rfl⟩ :=
      (reaches_warranted fresh reached).minted claims minted
    refine .inr ⟨user, signed, rfl, ?_, loggedIn, onward, live⟩
    simpa [Principal.hasPermission, tokenClaims] using permitted

/-- The first account gets through until a day after its login, though it was deactivated. -/
theorem permitted_requests_warranted_at_sample :
    ∃ user signed, user.username = "admin" ∧
      LoggedIn sampleAccessLibs ⟨none, none⟩ sampleDashboard signed user ∧
      AccessReaches sampleAccessLibs ⟨none, none⟩ signed sampleDismissed := by
  have passes : validateWithPermission sampleAccessLibs sampleDismissed (sampleCookie "admin")
      "gdpr" = .ok (.adminSession "admin" defaultAdminPermissions) := rfl
  rcases permitted_requests_warranted sampleDashboard_fresh (sampleDismissed_reached _)
    (sample_genuine (.inl rfl) rfl (by decide)) passes with ⟨_, _, key, _⟩ | session
  · cases key
  · obtain ⟨user, signed, same, _, loggedIn, onward, _⟩ := session
    exact ⟨user, signed, (Principal.adminSession.inj same).1.symm, loggedIn, onward⟩

/-- A deactivated account is not found by its name any more. -/
theorem activeByName_none {users users' : AdminUsers} {user : AdminUser}
    (kept : users.Kept users') (among : user ∈ users.table.rows)
    (inactive : user.isActive = false) : users'.activeByName user.username = none := by
  obtain ⟨user', among', _, sameName, still⟩ := kept user among
  have found : users'.table.find user.username = some user' :=
    Table.find_eq_some.mpr ⟨among', sameName⟩
  rw [AdminUsers.activeByName, found, Option.filter_eq_none_iff]
  intro other same active
  obtain rfl := Option.some.inj same
  rw [still active] at inactive
  cases inactive

/-- The account gets no more tokens, and those it has expire by the limit. -/
structure LoggedOut (username : String) (limit : Time) (s : AccessState) : Prop where
  pending : ∀ user mustChange, .mint user mustChange ∈ s.pending → user.username ≠ username
  minted : ∀ claims ∈ s.minted, claims.sub = username → claims.exp ≤ limit

theorem loggedOut_step {username : String} {limit : Time}
    (inactive : s.adminUsers.activeByName username = none) (step : AccessStep L cfg s s')
    (out : LoggedOut username limit s) : LoggedOut username limit s' := by
  cases step with
  | tick now later => exact ⟨out.pending, out.minted⟩
  | login req write checked =>
    refine ⟨?_, out.minted⟩
    intro user mustChange among
    obtain ⟨known, _, rfl, found, _⟩ := login_eq_ok checked
    rcases List.mem_cons.mp among with same | earlier
    · obtain ⟨rfl, _⟩ := Write.mint.inj same
      obtain ⟨_, named, _⟩ := activeByName_eq_some found
      rintro rfl
      rw [← named, inactive] at found
      cases found
    · exact out.pending user mustChange earlier
  | admin headers principal req write genuine allowed checked =>
    refine ⟨?_, out.minted⟩
    intro user mustChange among
    rcases List.mem_cons.mp among with same | earlier
    · have shape := checked_of_check checked
      rw [← same] at shape
      cases shape
    · exact out.pending user mustChange earlier
  | finish before after write id next reply here written =>
    have finished := finished_of_finish written
    constructor
    · intro user mustChange among
      rw [finished.pending_eq] at among
      exact out.pending user mustChange (mem_pending here among)
    · intro claims among named
      rcases finished.minted_cases with same | ⟨user, mustChange, rfl, more⟩
      · rw [same] at among
        exact out.minted claims among named
      · rw [more] at among
        rcases List.mem_cons.mp among with rfl | earlier
        · refine absurd named (out.pending user mustChange ?_)
          rw [here]
          exact List.mem_append_right _ List.mem_cons_self
        · exact out.minted claims earlier named
  | drop before after write here =>
    refine ⟨?_, out.minted⟩
    intro user mustChange among
    exact out.pending user mustChange (mem_pending here among)
  | start verifierId devId => exact ⟨out.pending, out.minted⟩
  | expire => exact ⟨out.pending, out.minted⟩

theorem loggedOut_run {user : AdminUser} {limit : Time} (reached : AccessReaches L cfg s s')
    (among : user ∈ s.adminUsers.table.rows) (inactive : user.isActive = false)
    (out : LoggedOut user.username limit s) : LoggedOut user.username limit s' := by
  induction reached with
  | refl => exact out
  | tail onward step ih =>
    exact loggedOut_step (activeByName_none (reaches_grown onward).users among inactive) step ih

/-- Once an account is deactivated, and no login to it is under way, its sessions are over within a
    day and a minute; there is no way back. -/
theorem deactivated_accounts_expire {start : AccessState} (fresh : start.Fresh)
    (reached : AccessReaches L cfg start s) (later : AccessReaches L cfg s s') {user : AdminUser}
    (among : user ∈ s.adminUsers.table.rows) (inactive : user.isActive = false)
    (quiet : ∀ other mustChange, .mint other mustChange ∈ s.pending →
      other.username ≠ user.username)
    {headers : Headers} (genuine : Genuine L s' headers) {principal : Principal}
    (passes : requireJwt L s' headers = .ok principal ∨
      resolvePrincipal L s' headers = .ok principal)
    (account : principal.ofAccount user.username = true) :
    s'.clock ≤ s.clock + 86400 + 60 := by
  have out : LoggedOut user.username (s.clock + 86400) s := by
    refine ⟨quiet, ?_⟩
    intro claims minted _
    obtain ⟨owner, signed, _, onward, rfl⟩ := (reaches_warranted fresh reached).minted claims minted
    have := (reaches_grown onward).clock
    exact Int.add_le_add_right this 86400
  have out' := loggedOut_run later among inactive out
  rcases minted_of_session genuine passes with ⟨row, rfl⟩ | ⟨claims, minted, live, rfl⟩
  · cases account
  · have := out'.minted claims minted (by simpa [Principal.ofAccount] using account)
    exact live.trans (Int.add_le_add_right this 60)

theorem deactivated_accounts_expire_at_sample :
    ({ sampleDismissed with clock := 1700086000 } : AccessState).clock ≤
      sampleDismissed.clock + 86400 + 60 := by
  have later : AccessStep sampleAccessLibs ⟨none, none⟩ sampleDismissed
      { sampleDismissed with clock := 1700086000 } := .tick 1700086000 (by decide)
  have among : { sampleAdmin with lastLoginAt := some 1700000000, isActive := false } ∈
      sampleDismissed.adminUsers.table.rows := List.mem_cons_self
  exact deactivated_accounts_expire sampleDashboard_fresh (sampleDismissed_reached _)
    (Relation.ReflTransGen.single later) among rfl (by simp [sampleDismissed, sampleTwoSessions,
      sampleOneSession, sampleDashboard])
    (sample_genuine (.inl rfl) rfl (by decide))
    (.inl (rfl : requireJwt sampleAccessLibs _ (sampleCookie "admin") =
      .ok (.adminSession "admin" defaultAdminPermissions))) rfl

/-! ## The last account -/

theorem countP_update {users : List AdminUser} {f : AdminUser → AdminUser} {id : Nat}
    (ids : (users.map AdminUser.id).Nodup) {user : AdminUser} (among : user ∈ users)
    (here : user.id = id) (active : user.isActive = true) (off : (f user).isActive = false) :
    (users.map fun user => if user.id = id then f user else user).countP AdminUser.isActive + 1 =
      users.countP AdminUser.isActive := by
  induction users with
  | nil => cases among
  | cons first rest ih =>
    rw [List.map_cons, List.nodup_cons] at ids
    obtain ⟨fresh, ids⟩ := ids
    rcases List.mem_cons.mp among with rfl | later
    · have others : (rest.map fun user => if user.id = id then f user else user) = rest := by
        refine (List.map_congr_left fun other there => ?_).trans (List.map_id rest)
        rw [if_neg]
        · rfl
        · rintro same
          exact fresh (List.mem_map.mpr ⟨other, there, same.trans here.symm⟩)
      rw [List.map_cons, others, if_pos here, List.countP_cons_of_neg (by simp [off]),
        List.countP_cons_of_pos active]
    · have different : first.id ≠ id := by
        intro same
        exact fresh (List.mem_map.mpr ⟨user, later, here.trans same.symm⟩)
      rw [List.map_cons, if_neg different, List.countP_cons, List.countP_cons, ← ih ids later]
      omega

namespace AdminUsers

variable {users users' : AdminUsers}

theorem activeCount_deactivate {user : AdminUser} (among : user ∈ users.table.rows)
    (active : user.isActive = true) :
    (users.deactivate user.id).activeCount + 1 = users.activeCount :=
  countP_update users.ids among rfl active rfl

theorem activeCount_le_deactivate (id : Nat) :
    users.activeCount ≤ (users.deactivate id).activeCount + 1 := by
  by_cases hit : ∃ user ∈ users.table.rows, user.id = id ∧ user.isActive = true
  · obtain ⟨user, among, rfl, active⟩ := hit
    exact (activeCount_deactivate among active).ge
  · have same : (users.deactivate id).activeCount = users.activeCount := by
      rw [activeCount, activeCount, deactivate, update, List.countP_map]
      refine List.countP_congr fun user among => ?_
      simp only [Function.comp]
      split
      · rename_i here
        have : user.isActive ≠ true := fun active => hit ⟨user, among, here, active⟩
        simp [this]
      · rfl
    omega

theorem activeCount_update {id : Nat} {f : AdminUser → AdminUser}
    {keeps : ∀ user, (f user).username = user.username ∧ (f user).id = user.id}
    (same : ∀ user, (f user).isActive = user.isActive) :
    (users.update id f keeps).activeCount = users.activeCount := by
  rw [activeCount, activeCount, update, List.countP_map]
  refine List.countP_congr fun user among => ?_
  simp only [Function.comp]
  split
  · rw [same]
  · rfl

theorem activeCount_setPassword (id : Nat) (hash : String) :
    (users.setPassword id hash).activeCount = users.activeCount :=
  activeCount_update fun _ => rfl

theorem activeCount_setLastLogin (id : Nat) (now : Time) :
    (users.setLastLogin id now).activeCount = users.activeCount :=
  activeCount_update fun _ => rfl

end AdminUsers

def Write.isDeactivation : Write → Bool
  | .deactivateAdmin _ => true
  | _ => false

/-- The deactivations that have counted the accounts and not yet written. -/
def AccessState.deactivating (s : AccessState) : Nat := s.pending.countP Write.isDeactivation

/-- A step after which no two deactivations are under way. -/
def SerialStep (L : AccessLibs) (cfg : AccessConfig) (s s' : AccessState) : Prop :=
  AccessStep L cfg s s' ∧ s'.deactivating ≤ 1

theorem Finished.activeCount_le {id : Nat} {write : Write} (finished : Finished L s id write s') :
    s.adminUsers.activeCount ≤
      s'.adminUsers.activeCount + if write.isDeactivation then 1 else 0 := by
  cases finished with
  | mint user mustChange => exact (AdminUsers.activeCount_setLastLogin user.id s.clock).ge
  | setPassword user hash => exact (AdminUsers.activeCount_setPassword user.id hash).ge
  | insertAdmin username hash adminUsers inserted =>
    refine Nat.le_add_right_of_le ?_
    rw [AdminUsers.activeCount, AdminUsers.activeCount, AdminUsers.insert_rows inserted,
      List.countP_append]
    exact Nat.le_add_right _ _
  | deactivateAdmin target => exact AdminUsers.activeCount_le_deactivate target.id
  | insertApiKey req generated apiKeys created => exact Nat.le_add_right _ _
  | deactivateApiKey uuid => exact Nat.le_add_right _ _

theorem survives_step (step : SerialStep L cfg s s')
    (several : s.deactivating < s.adminUsers.activeCount) :
    s'.deactivating < s'.adminUsers.activeCount := by
  obtain ⟨step, serial⟩ := step
  cases step with
  | tick now later => exact several
  | login req write checked =>
    obtain ⟨_, _, rfl, _⟩ := login_eq_ok checked
    exact several
  | admin headers principal req write genuine allowed checked =>
    have shape := checked_of_check checked
    cases shape with
    | deactivateAdmin target more => exact lt_of_le_of_lt serial more
    | _ => exact several
  | finish before after write id next reply here written =>
    have finished := finished_of_finish written
    have fewer := finished.activeCount_le
    rw [AccessState.deactivating, here, List.countP_append, List.countP_cons] at several
    rw [AccessState.deactivating, finished.pending_eq, List.countP_append]
    dsimp only at fewer several
    omega
  | drop before after write here =>
    rw [AccessState.deactivating, here, List.countP_append, List.countP_cons] at several
    rw [AccessState.deactivating, List.countP_append]
    dsimp only
    omega
  | start verifierId devId => exact several
  | expire => exact several

/-- As long as no two deactivations are under way at once, some account stays active. -/
theorem accounts_survive_serial_deactivations
    (reached : Relation.ReflTransGen (SerialStep L cfg) s s')
    (several : s.deactivating < s.adminUsers.activeCount) : 0 < s'.adminUsers.activeCount := by
  have kept : s'.deactivating < s'.adminUsers.activeCount := by
    induction reached with
    | refl => exact several
    | tail _ step ih => exact survives_step step ih
  exact Nat.zero_lt_of_lt kept

/-- One after the other, the second account deactivates the first and is then the last one. -/
theorem accounts_survive_serial_deactivations_at_sample :
    0 < sampleDismissed.adminUsers.activeCount := by
  have asked : SerialStep sampleAccessLibs ⟨none, none⟩ sampleTwoSessions
      { sampleTwoSessions with pending := [sampleDismissal] } :=
    ⟨.admin (sampleCookie "operator") (.adminSession "operator" defaultAdminPermissions)
      (.deactivateAdminUser "first") _ (sample_genuine (.inr rfl) rfl (by decide)) rfl rfl,
      by decide⟩
  have written : SerialStep sampleAccessLibs ⟨none, none⟩
      { sampleTwoSessions with pending := [sampleDismissal] } sampleDismissed :=
    ⟨.finish [] [] sampleDismissal 0 _ .userDeactivated rfl rfl, by decide⟩
  exact accounts_survive_serial_deactivations
    ((Relation.ReflTransGen.single asked).tail written) (by decide)

/-! ## Nobody left -/

/-- No account is active, no request is under way, and every token has expired. -/
structure LockedOut (s : AccessState) : Prop where
  accounts : s.adminUsers.activeCount = 0
  idle : s.pending = []
  expired : ∀ claims ∈ s.minted, claims.exp + 60 < s.clock

theorem LockedOut.requireJwt_ne (out : LockedOut s) {headers : Headers}
    (genuine : Genuine L s headers) (principal : Principal) :
    requireJwt L s headers ≠ .ok principal := by
  intro allowed
  obtain ⟨token, claims, shown, decoded, rfl⟩ := requireJwt_eq_ok.mp allowed
  have among : token ∈ shownTokens headers := by simp [shownTokens, shown]
  obtain ⟨minted, live⟩ := genuine token among claims decoded
  exact absurd (out.expired claims minted) (not_lt.mpr live)

theorem lockedOut_step (out : LockedOut s) (step : AccessStep L cfg s s') : LockedOut s' := by
  cases step with
  | tick now later =>
    exact ⟨out.accounts, out.idle, fun claims minted =>
      lt_of_lt_of_le (out.expired claims minted) later⟩
  | login req write checked =>
    obtain ⟨user, _, _, found, _⟩ := login_eq_ok checked
    obtain ⟨among, _, active⟩ := activeByName_eq_some found
    exact absurd active (List.countP_eq_zero.mp out.accounts user among)
  | admin headers principal req write genuine allowed checked =>
    exact absurd allowed (out.requireJwt_ne genuine principal)
  | finish before after write id next reply here written => simp [out.idle] at here
  | drop before after write here => simp [out.idle] at here
  | start verifierId devId => exact ⟨out.accounts, out.idle, out.expired⟩
  | expire => exact ⟨out.accounts, out.idle, out.expired⟩

theorem lockedOut_run (out : LockedOut s) (reached : AccessReaches L cfg s s') : LockedOut s' := by
  induction reached with
  | refl => exact out
  | tail _ step ih => exact lockedOut_step ih step

theorem byId_eq_some {users : AdminUsers} {user : AdminUser} (among : user ∈ users.table.rows) :
    users.byId user.id = some user := by
  cases found : users.byId user.id with
  | none => simpa using List.find?_eq_none.mp found user among
  | some other =>
    have same : other.id = user.id := by simpa using List.find?_some found
    rw [List.inj_on_of_nodup_map users.ids (List.mem_of_find?_eq_some found) among same]

theorem exists_expiry (minted : List Claims) :
    ∃ limit : Time, ∀ claims ∈ minted, claims.exp + 60 < limit := by
  induction minted with
  | nil => exact ⟨0, by simp⟩
  | cons first rest ih =>
    obtain ⟨limit, expired⟩ := ih
    refine ⟨max limit (first.exp + 61), ?_⟩
    intro claims among
    rcases List.mem_cons.mp among with rfl | later
    · exact lt_of_lt_of_le (Int.add_lt_add_left (by decide) _) (le_max_right _ _)
    · exact lt_of_lt_of_le (expired claims later) (le_max_left _ _)

/-- The checks of a deactivation by another account. -/
theorem deactivation_checked {headers : Headers} {principal : Principal} {target : AdminUser}
    {id : String} (among : target ∈ s.adminUsers.table.rows)
    (several : 1 < s.adminUsers.activeCount) (parsed : L.parseUuid id = some target.id)
    (other : principal.ofAccount target.username = false) :
    checkRequest L s headers principal (.deactivateAdminUser id) =
      .ok (.deactivateAdmin target) := by
  simp [checkRequest, deactivateAdminUser, parsed, byId_eq_some among, other, several, okOr,
    ensure, bind, Except.bind, pure, Except.pure]

theorem deactivation_finished {target : AdminUser} {id : Nat}
    (known : ∃ user ∈ s.adminUsers.table.rows, user.id = target.id) :
    Write.finish L s id (.deactivateAdmin target) =
      .ok ({ s with adminUsers := s.adminUsers.deactivate target.id }, .userDeactivated) := by
  have found : s.adminUsers.byId target.id ≠ none := by
    obtain ⟨user, among, same⟩ := known
    rw [← same, byId_eq_some among]
    exact Option.some_ne_none user
  simp [Write.finish, found, ensure, bind, Except.bind, pure, Except.pure]

/-- When the last two active accounts deactivate each other at once, both requests succeed.  When
    the sessions are over, no account can be used or made any more. -/
theorem overlapping_deactivations_lock_out (idle : s.pending = []) {first second : AdminUser}
    (among : first ∈ s.adminUsers.table.rows) (among' : second ∈ s.adminUsers.table.rows)
    (active : first.isActive = true) (active' : second.isActive = true)
    (different : first.id ≠ second.id) (two : s.adminUsers.activeCount = 2)
    {headers headers' : Headers} (genuine : Genuine L s headers) (genuine' : Genuine L s headers')
    {principal principal' : Principal} (allowed : requireJwt L s headers = .ok principal)
    (allowed' : requireJwt L s headers' = .ok principal')
    (other : principal.ofAccount second.username = false)
    (other' : principal'.ofAccount first.username = false) {id id' : String}
    (parsed : L.parseUuid id = some second.id) (parsed' : L.parseUuid id' = some first.id) :
    ∃ s', AccessReaches L cfg s s' ∧ ∀ s'', AccessReaches L cfg s' s'' →
      s''.adminUsers.activeCount = 0 ∧
      ∀ shown, Genuine L s'' shown → ∀ caller, requireJwt L s'' shown ≠ .ok caller := by
  have several : 1 < s.adminUsers.activeCount := by omega
  have asked : AccessStep L cfg s { s with pending := [.deactivateAdmin second] } := by
    have checked := @deactivation_checked L s headers principal second id among' several parsed
      other
    have step := @AccessStep.admin L cfg s headers principal _ _ genuine allowed checked
    rwa [idle] at step
  have asked' : AccessStep L cfg { s with pending := [.deactivateAdmin second] }
      { s with pending := [.deactivateAdmin first, .deactivateAdmin second] } :=
    .admin headers' principal' (.deactivateAdminUser id') _ genuine' allowed'
      (deactivation_checked among several parsed' other')
  have written : AccessStep L cfg
      { s with pending := [.deactivateAdmin first, .deactivateAdmin second] }
      { s with
        adminUsers := s.adminUsers.deactivate second.id
        pending := [.deactivateAdmin first] } :=
    .finish [.deactivateAdmin first] [] _ 0 _ .userDeactivated rfl
      (deactivation_finished ⟨second, among', rfl⟩)
  have still : first ∈ (s.adminUsers.deactivate second.id).table.rows :=
    List.mem_map.mpr ⟨first, among, if_neg different⟩
  have written' : AccessStep L cfg
      { s with
        adminUsers := s.adminUsers.deactivate second.id
        pending := [.deactivateAdmin first] }
      { s with
        adminUsers := (s.adminUsers.deactivate second.id).deactivate first.id
        pending := [] } :=
    .finish [] [] _ 0 _ .userDeactivated rfl (deactivation_finished ⟨first, still, rfl⟩)
  have one := AdminUsers.activeCount_deactivate among' active'
  have none := AdminUsers.activeCount_deactivate still active
  obtain ⟨limit, expired⟩ := exists_expiry s.minted
  have waited : AccessStep L cfg
      { s with
        adminUsers := (s.adminUsers.deactivate second.id).deactivate first.id
        pending := [] }
      { s with
        clock := max s.clock limit
        adminUsers := (s.adminUsers.deactivate second.id).deactivate first.id
        pending := [] } := .tick _ (le_max_left _ _)
  refine ⟨_, ((((Relation.ReflTransGen.single asked).tail asked').tail written).tail
    written').tail waited, ?_⟩
  intro s'' onward
  have out : LockedOut s'' := by
    refine lockedOut_run ⟨?_, rfl, ?_⟩ onward
    · dsimp only
      omega
    · intro claims minted
      exact lt_of_lt_of_le (expired claims minted) (le_max_right _ _)
  exact ⟨out.accounts, fun _ genuine caller => out.requireJwt_ne genuine caller⟩

/-- Two sessions, two active accounts. -/
theorem overlapping_deactivations_lock_out_at_sample :
    ∃ s', AccessReaches sampleAccessLibs ⟨none, none⟩ sampleTwoSessions s' ∧
      ∀ s'', AccessReaches sampleAccessLibs ⟨none, none⟩ s' s'' →
        s''.adminUsers.activeCount = 0 ∧ ∀ shown, Genuine sampleAccessLibs s'' shown →
          ∀ caller, requireJwt sampleAccessLibs s'' shown ≠ .ok caller :=
  overlapping_deactivations_lock_out rfl List.mem_cons_self
    (List.mem_cons_of_mem _ List.mem_cons_self) rfl rfl (by decide) (by decide)
    (sample_genuine (.inl rfl) rfl (by decide)) (sample_genuine (.inr rfl) rfl (by decide))
    (rfl : requireJwt sampleAccessLibs sampleTwoSessions (sampleCookie "admin") =
      .ok (.adminSession "admin" defaultAdminPermissions))
    (rfl : requireJwt sampleAccessLibs sampleTwoSessions (sampleCookie "operator") =
      .ok (.adminSession "operator" defaultAdminPermissions))
    (by decide) (by decide) (rfl : sampleAccessLibs.parseUuid "second" = some 2)
    (rfl : sampleAccessLibs.parseUuid "first" = some 1)

end OwlId.Verification
