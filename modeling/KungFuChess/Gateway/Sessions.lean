import KungFuChess.Gateway.Accounts
import KungFuChess.Library.UniqueKeys

/-!
# Who a session belongs to

What the steps of the `/auth` routes write, in the table and in the session store, and
what follows for every order of them: a name is registered once, whatever its spelling,
and a token stands for the user whose password was given when it was handed out.
-/

set_option autoImplicit false

namespace KungFuChess

namespace AuthService

variable {Salt Hash : Type} (libraries : AuthLibraries Salt Hash) (settings : AuthSettings)

/-! ## What a step writes -/

/-- The rows without their ratings. -/
def identities (service : AuthService Hash) : List (UserId × UserDraft Hash) :=
  service.users.map fun user => (user.id, user.toUserDraft)

theorem mem_identities {service : AuthService Hash} {id : UserId} {draft : UserDraft Hash} :
    (id, draft) ∈ service.identities ↔
      ∃ user ∈ service.users, user.id = id ∧ user.toUserDraft = draft := by
  unfold identities
  rw [List.mem_map]
  constructor
  · rintro ⟨user, member, same⟩
    exact ⟨user, member, congrArg Prod.fst same, congrArg Prod.snd same⟩
  · rintro ⟨user, member, rfl, rfl⟩
    exact ⟨user, member, rfl⟩

/-- A step that adds no row. -/
def KeepsUsers (service : AuthService Hash) (taken : AuthStep Salt) : Prop :=
  (service.step libraries settings taken).identities = service.identities ∧
    ∀ user, (service.answer libraries settings taken).1 ≠ some (.created user)

/-- A commit that adds a row: no other row has its id or its name. -/
structure AddsUser (service : AuthService Hash) (taken : AuthStep Salt) (id : UserId)
    (draft : UserDraft Hash) : Prop where
  drafted : draft ∈ service.drafts
  fits : Fits draft
  free : ∀ user ∈ service.users, ¬ Clashes draft id user
  adds : (service.step libraries settings taken).identities = service.identities ++ [(id, draft)]
  creates : ∀ user, (service.answer libraries settings taken).1 = some (.created user) →
    user = { id := id, username := draft.username, rating := 1200 }

/-- A commit adds its row, unless something is in the way. -/
theorem commit_cases (service : AuthService Hash) (place : Nat) (id : UserId)
    (outcome : CommitOutcome) :
    service.KeepsUsers libraries settings (.commit place id outcome : AuthStep Salt) ∨
      ∃ draft, service.AddsUser libraries settings (.commit place id outcome : AuthStep Salt) id
        draft := by
  cases found : service.drafts[place]? with
  | none =>
      left
      simp only [KeepsUsers, step, answer, commit, found]
      exact ⟨trivial, fun _ => nofun⟩
  | some draft =>
      by_cases refused : outcome = .commitFails ∨ ¬ Fits draft
      · left
        simp only [KeepsUsers, step, answer, commit, found, if_pos refused]
        exact ⟨rfl, fun _ => nofun⟩
      · by_cases clashes : (service.users.any fun user => Clashes draft id user) = true
        · left
          simp only [KeepsUsers, step, answer, commit, found, if_neg refused, if_pos clashes]
          exact ⟨rfl, fun _ => nofun⟩
        · right
          refine ⟨draft, List.mem_of_getElem? found, ?_, ?_, ?_, ?_⟩
          · exact not_not.mp fun tooLong => refused (.inr tooLong)
          · intro user member clash
            exact clashes (List.any_eq_true.mpr ⟨user, member, decide_eq_true clash⟩)
          · simp only [step, answer, commit, found, if_neg refused, if_neg clashes, identities,
              List.map_append, List.map_cons, List.map_nil]
          · intro user created
            simp only [answer, commit, found, if_neg refused, if_neg clashes] at created
            split at created
            · cases created
              rfl
            · cases created

/-- **What a step does to the table.** It adds no row, or it is a commit that adds one. -/
theorem users_cases (service : AuthService Hash) (taken : AuthStep Salt) :
    service.KeepsUsers libraries settings taken ∨
      ∃ id draft, service.AddsUser libraries settings taken id draft := by
  cases taken with
  | commit place id outcome =>
      rcases commit_cases libraries settings service place id outcome with keeps | ⟨draft, adds⟩
      · exact .inl keeps
      · exact .inr ⟨id, draft, adds⟩
  | register username password salt fails =>
      left
      simp only [KeepsUsers, step, answer, register]
      split
      · exact ⟨rfl, fun _ => nofun⟩
      · split
        · exact ⟨rfl, fun _ => nofun⟩
        · split
          · exact ⟨rfl, fun _ => nofun⟩
          · exact ⟨rfl, fun _ => nofun⟩
  | login username password fails =>
      left
      simp only [KeepsUsers, step, answer, login]
      split
      · exact ⟨rfl, fun _ => nofun⟩
      · split
        · exact ⟨rfl, fun _ => nofun⟩
        · split
          · exact ⟨rfl, fun _ => nofun⟩
          · split
            · exact ⟨rfl, fun _ => nofun⟩
            · exact ⟨rfl, fun _ => nofun⟩
  | createSession place token fails =>
      left
      simp only [KeepsUsers, step, answer, createSession]
      split
      · exact ⟨rfl, fun _ => nofun⟩
      · split
        · exact ⟨rfl, fun _ => nofun⟩
        · exact ⟨rfl, fun _ => nofun⟩
  | me token fails =>
      left
      refine ⟨rfl, fun user created => ?_⟩
      simp only [answer, me] at created
      split at created
      · cases created
      · cases created
  | logout token fails =>
      left
      simp only [KeepsUsers, step, answer, logout]
      split
      · exact ⟨rfl, fun _ => nofun⟩
      · exact ⟨rfl, fun _ => nofun⟩
  | rate id rating =>
      left
      refine ⟨?_, fun _ => nofun⟩
      simp only [step, answer, rate, identities, List.map_map]
      refine List.map_congr_left fun user _ => ?_
      rw [Function.comp_apply]
      split
      · rfl
      · rfl
  | wait seconds => exact .inl ⟨rfl, fun _ => nofun⟩

/-- A row that is in the table stays, but for its rating. -/
theorem identities_step_subset {service : AuthService Hash} {identity : UserId × UserDraft Hash}
    (taken : AuthStep Salt) (member : identity ∈ service.identities) :
    identity ∈ (service.step libraries settings taken).identities := by
  rcases users_cases libraries settings service taken with keeps | ⟨id, draft, adds⟩
  · exact keeps.1 ▸ member
  · exact adds.adds ▸ List.mem_append_left _ member

/-- A registration both validators pass, and the row it leads to. -/
def Registers (username password : PythonString) (salt : Salt) (draft : UserDraft Hash) : Prop :=
  ∃ credentials, CredentialsRequest.validate libraries.toUnicodeData username password =
    .ok credentials ∧ libraries.draft credentials salt = draft

/-- A login both validators pass, with the name and the password of a row. -/
def Admits (username password : PythonString) (draft : UserDraft Hash) : Prop :=
  ∃ credentials, CredentialsRequest.validate libraries.toUnicodeData username password =
    .ok credentials ∧ libraries.normalizeUsername credentials.username = draft.usernameNormalized ∧
    libraries.verifyPassword draft.passwordHash credentials.password = true

/-- A draft comes from a registration. -/
theorem drafts_step {service : AuthService Hash} {taken : AuthStep Salt} {draft : UserDraft Hash}
    (member : draft ∈ (service.step libraries settings taken).drafts) :
    draft ∈ service.drafts ∨
      ∃ username password salt, taken = .register username password salt false ∧
        Registers libraries username password salt draft := by
  cases taken with
  | register username password salt fails =>
      simp only [step, answer, register] at member
      split at member
      · exact .inl member
      · next credentials valid =>
          split at member
          · exact .inl member
          · next works =>
              split at member
              · exact .inl member
              · rcases List.mem_append.mp member with old | isNew
                · exact .inl old
                · exact .inr ⟨username, password, salt, by rw [eq_false_of_ne_true works],
                    credentials, valid, (List.mem_singleton.mp isNew).symm⟩
  | commit place id outcome =>
      left
      simp only [step, answer, commit] at member
      split at member
      · exact member
      · split at member
        · exact List.mem_of_mem_eraseIdx member
        · split at member
          · exact List.mem_of_mem_eraseIdx member
          · exact List.mem_of_mem_eraseIdx member
  | login username password fails =>
      left
      simp only [step, answer, login] at member
      split at member
      · exact member
      · split at member
        · exact member
        · split at member
          · exact member
          · split at member
            · exact member
            · exact member
  | createSession place token fails =>
      left
      simp only [step, answer, createSession] at member
      split at member
      · exact member
      · split at member
        · exact member
        · exact member
  | me token fails => exact .inl member
  | logout token fails =>
      left
      simp only [step, answer, logout] at member
      split at member
      · exact member
      · exact member
  | rate id rating => exact .inl member
  | wait seconds => exact .inl member

/-- A login that was authenticated gave the name and the password of a row. -/
theorem logins_step {service : AuthService Hash} {taken : AuthStep Salt} {user : User Hash}
    (member : user ∈ (service.step libraries settings taken).logins) :
    user ∈ service.logins ∨
      ∃ username password, taken = .login username password false ∧ user ∈ service.users ∧
        Admits libraries username password user.toUserDraft := by
  cases taken with
  | login username password fails =>
      simp only [step, answer, login] at member
      split at member
      · exact .inl member
      · next credentials valid =>
          split at member
          · exact .inl member
          · next works =>
              split at member
              · exact .inl member
              · next row found =>
                  split at member
                  · next verified =>
                      rcases List.mem_append.mp member with old | isNew
                      · exact .inl old
                      · rw [List.mem_singleton.mp isNew]
                        have named := List.find?_some found
                        exact .inr ⟨username, password, by rw [eq_false_of_ne_true works],
                          List.mem_of_find?_eq_some found, credentials, valid,
                          (of_decide_eq_true named).symm, verified⟩
                  · exact .inl member
  | register username password salt fails =>
      left
      simp only [step, answer, register] at member
      split at member
      · exact member
      · split at member
        · exact member
        · split at member
          · exact member
          · exact member
  | commit place id outcome =>
      left
      simp only [step, answer, commit] at member
      split at member
      · exact member
      · split at member
        · exact member
        · split at member
          · exact member
          · exact member
  | createSession place token fails =>
      left
      simp only [step, answer, createSession] at member
      split at member
      · exact member
      · split at member
        · exact List.mem_of_mem_eraseIdx member
        · exact List.mem_of_mem_eraseIdx member
  | me token fails => exact .inl member
  | logout token fails =>
      left
      simp only [step, answer, logout] at member
      split at member
      · exact member
      · exact member
  | rate id rating => exact .inl member
  | wait seconds => exact .inl member

/-! ## The session store -/

open ExpiringStore (Operation)

/-- What a step does to the session store. -/
def sessionOperation (service : AuthService Hash) :
    AuthStep Salt → Option (Operation String UserId)
  | .createSession place token false =>
      (service.logins[place]?).map fun user =>
        .set (sessionKey token) user.id settings.sessionTtlSeconds
  | .logout token false => if token = "" then none else some (.delete (sessionKey token))
  | .wait seconds => some (.advance seconds)
  | _ => none

theorem sessions_step (service : AuthService Hash) (taken : AuthStep Salt) :
    (service.step libraries settings taken).sessions =
      Trace.run ExpiringStore.apply service.sessions
        (service.sessionOperation settings taken).toList := by
  cases taken with
  | createSession place token fails =>
      simp only [step, answer, createSession]
      cases fails with
      | true => split <;> rfl
      | false =>
          rw [sessionOperation]
          split
          · next missing =>
              rw [missing]
              rfl
          · next found =>
              rw [found]
              rfl
  | logout token fails =>
      simp only [step, answer, logout]
      cases fails with
      | true => exact congrArg sessions (if_pos (.inr rfl))
      | false =>
          rw [sessionOperation]
          by_cases empty : token = ""
          · rw [if_pos (.inl empty), if_pos empty]
            rfl
          · rw [if_neg (by simpa using empty), if_neg empty]
            rfl
  | wait seconds => rfl
  | register username password salt fails =>
      simp only [step, answer, register]
      split
      · rfl
      · split
        · rfl
        · split
          · rfl
          · rfl
  | commit place id outcome =>
      simp only [step, answer, commit]
      split
      · rfl
      · split
        · rfl
        · split
          · rfl
          · rfl
  | login username password fails =>
      simp only [step, answer, login]
      split
      · rfl
      · split
        · rfl
        · split
          · rfl
          · split
            · rfl
            · rfl
  | me token fails => rfl
  | rate id rating => rfl

/-- What the steps of a run do to the session store. -/
def sessionOperations (service : AuthService Hash) (steps : List (AuthStep Salt)) :
    List (Operation String UserId) :=
  (Trace.visits (step libraries settings) service steps).filterMap fun visit =>
    visit.1.sessionOperation settings visit.2

theorem sessionOperations_cons (service : AuthService Hash) (taken : AuthStep Salt)
    (rest : List (AuthStep Salt)) :
    service.sessionOperations libraries settings (taken :: rest) =
      (service.sessionOperation settings taken).toList ++
        (service.step libraries settings taken).sessionOperations libraries settings rest := by
  unfold sessionOperations
  rw [show Trace.visits (step libraries settings) service (taken :: rest) =
    (service, taken) :: _ from rfl, List.filterMap_cons]
  cases service.sessionOperation settings taken with
  | none => rfl
  | some operation => rfl

theorem sessionOperations_append (first second : List (AuthStep Salt)) :
    ∀ service : AuthService Hash,
      service.sessionOperations libraries settings (first ++ second) =
        service.sessionOperations libraries settings first ++
          (Trace.run (step libraries settings) service first).sessionOperations libraries settings
            second := by
  intro service
  unfold sessionOperations
  rw [Trace.visits_append, List.filterMap_append]

/-- The session store has run the operations. -/
theorem sessions_run (steps : List (AuthStep Salt)) : ∀ service : AuthService Hash,
    (Trace.run (step libraries settings) service steps).sessions =
      Trace.run ExpiringStore.apply service.sessions
        (service.sessionOperations libraries settings steps) := by
  induction steps with
  | nil => exact fun _ => rfl
  | cons taken rest ih =>
      intro service
      rw [Trace.run_cons, ih, sessions_step, sessionOperations_cons, Trace.run_append]

/-- The time that passes in steps. -/
def waited (steps : List (AuthStep Salt)) : Nat :=
  (steps.map fun taken => match taken with
    | .wait seconds => seconds
    | _ => 0).sum

/-- Only waiting takes time. -/
theorem elapsed_sessionOperations (steps : List (AuthStep Salt)) : ∀ service : AuthService Hash,
    ExpiringStore.elapsed (service.sessionOperations libraries settings steps) = waited steps := by
  induction steps with
  | nil => exact fun _ => rfl
  | cons taken rest ih =>
      intro service
      have onward := ih (service.step libraries settings taken)
      unfold ExpiringStore.elapsed at onward ⊢
      rw [sessionOperations_cons, List.map_append, List.sum_append, onward]
      refine Eq.trans ?_ List.sum_cons.symm
      refine congrArg (· + waited rest) ?_
      cases taken with
      | wait seconds => exact Nat.add_zero seconds
      | createSession place token fails =>
          cases fails with
          | true => rfl
          | false =>
              rw [sessionOperation]
              cases service.logins[place]? with
              | none => rfl
              | some user => rfl
      | logout token fails =>
          cases fails with
          | true => rfl
          | false =>
              rw [sessionOperation]
              split
              · rfl
              · rfl
      | register username password salt fails => rfl
      | commit place id outcome => rfl
      | login username password fails => rfl
      | me token fails => rfl
      | rate id rating => rfl

/-- A session is only written by the login that hands out its token. -/
theorem sessionOperation_eq_set {service : AuthService Hash} {taken : AuthStep Salt} {token : String}
    {id : UserId} {lifetime : Nat} :
    service.sessionOperation settings taken = some (.set (sessionKey token) id lifetime) ↔
      ∃ place holder, taken = .createSession place token false ∧
        service.logins[place]? = some holder ∧ holder.id = id ∧
        lifetime = settings.sessionTtlSeconds := by
  constructor
  · intro writes
    unfold sessionOperation at writes
    split at writes
    · next place written =>
        obtain ⟨holder, found, same⟩ := Option.map_eq_some_iff.mp writes
        injection same with keys ids lifetimes
        rw [sessionKey_inj.mp keys]
        exact ⟨place, holder, rfl, found, ids, lifetimes.symm⟩
    · split at writes
      · cases writes
      · cases writes
    · cases writes
    · cases writes
  · rintro ⟨place, holder, rfl, found, rfl, rfl⟩
    rw [sessionOperation, found]
    rfl

/-- A step that hands out a token, or deletes its session. -/
def Rewrites (token : String) (service : AuthService Hash) (taken : AuthStep Salt) : Prop :=
  ∃ operation ∈ service.sessionOperation settings taken, operation.key? = some (sessionKey token)

/-- **Who a token stands for.** The user it was last handed out to, as long as the login is
not too long ago and the session was not deleted. -/
theorem resolveSession_after {token : String} (given : token ≠ "") (id : UserId)
    (steps : List (AuthStep Salt)) :
    (after libraries settings steps).resolveSession token = some id ↔
      ∃ before place holder later, steps = before ++ .createSession place token false :: later ∧
        (after libraries settings before).logins[place]? = some holder ∧ holder.id = id ∧
        (∀ visit ∈ Trace.visits (step libraries settings)
          (after libraries settings (before ++ [.createSession place token false])) later,
          ¬ Rewrites settings token visit.1 visit.2) ∧
        waited later < settings.sessionTtlSeconds := by
  rw [resolveSession, if_neg given, after, sessions_run]
  refine (ExpiringStore.get_run_iff _).trans ?_
  constructor
  · rintro ⟨first, lifetime, second, split, unnamed, alive⟩
    obtain ⟨visitsBefore, onward, visitsSplit, rfl, tail⟩ := List.filterMap_eq_append_iff.mp split
    obtain ⟨passed, visit, visitsAfter, rfl, nothing, writes, rest⟩ :=
      List.filterMap_eq_cons_iff.mp tail
    obtain ⟨before, later, rfl, _, atVisit, onwards⟩ :=
      Trace.visits_eq_append_cons (visitsSplit.trans (List.append_assoc ..).symm)
    obtain ⟨place, holder, isCreate, found, same, rfl⟩ :=
      (sessionOperation_eq_set settings).mp writes
    rw [isCreate] at onwards
    refine ⟨before, place, holder, later, by rw [isCreate], ?_, same, ?_, ?_⟩
    · rw [after, ← atVisit]
      exact found
    · rintro laterVisit member ⟨operation, does, named⟩
      refine unnamed operation ?_ named
      rw [← rest, onwards]
      exact List.mem_filterMap.mpr ⟨laterVisit, member, does⟩
    · rw [← rest, onwards] at alive
      exact (elapsed_sessionOperations libraries settings later _) ▸ alive
  · rintro ⟨before, place, holder, later, rfl, found, rfl, untouched, alive⟩
    refine ⟨sessionOperations libraries settings {} before, settings.sessionTtlSeconds,
      sessionOperations libraries settings
        (after libraries settings (before ++ [.createSession place token false])) later, ?_, ?_, ?_⟩
    · have writes : (after libraries settings before).sessionOperation settings
          (.createSession place token false : AuthStep Salt) =
            some (.set (sessionKey token) holder.id settings.sessionTtlSeconds) :=
        (sessionOperation_eq_set settings).mpr ⟨place, holder, rfl, found, rfl, rfl⟩
      rw [sessionOperations_append, sessionOperations_cons, ← after, writes, after, after,
        Trace.run_append]
      rfl
    · intro operation member named
      obtain ⟨visit, visited, does⟩ := List.mem_filterMap.mp member
      exact untouched visit visited ⟨operation, does, named⟩
    · rwa [elapsed_sessionOperations]

/-! ## What every order of the steps keeps -/

/-- The rows have each an id and a name of their own, and come from registrations; logins
that were authenticated gave the name and the password of a row. -/
structure Sound (steps : List (AuthStep Salt)) (service : AuthService Hash) : Prop where
  ids : (service.identities.map fun identity => identity.1).Nodup
  names : (service.identities.map fun identity => identity.2.usernameNormalized).Nodup
  rows : ∀ identity ∈ service.identities, Fits identity.2 ∧
    ∃ username password salt, AuthStep.register username password salt false ∈ steps ∧
      Registers libraries username password salt identity.2
  drafts : ∀ draft ∈ service.drafts,
    ∃ username password salt, AuthStep.register username password salt false ∈ steps ∧
      Registers libraries username password salt draft
  logins : ∀ user ∈ service.logins, (user.id, user.toUserDraft) ∈ service.identities ∧
    ∃ username password, AuthStep.login username password false ∈ steps ∧
      Admits libraries username password user.toUserDraft

/-- What was said of the steps before is true of more steps. -/
theorem Sound.step {steps : List (AuthStep Salt)} {service : AuthService Hash}
    (sound : Sound libraries steps service) (taken : AuthStep Salt) :
    Sound libraries (steps ++ [taken]) (service.step libraries settings taken) := by
  have origin : ∀ draft ∈ service.drafts,
      ∃ username password salt, AuthStep.register username password salt false ∈ steps ++ [taken] ∧
        Registers libraries username password salt draft := by
    intro draft member
    obtain ⟨username, password, salt, inSteps, registers⟩ := sound.drafts draft member
    exact ⟨username, password, salt, List.mem_append_left _ inSteps, registers⟩
  have old : ∀ identity ∈ service.identities, Fits identity.2 ∧
      ∃ username password salt, AuthStep.register username password salt false ∈ steps ++ [taken] ∧
        Registers libraries username password salt identity.2 := by
    intro identity member
    obtain ⟨fits, username, password, salt, inSteps, registers⟩ := sound.rows identity member
    exact ⟨fits, username, password, salt, List.mem_append_left _ inSteps, registers⟩
  have drafts : ∀ draft ∈ (service.step libraries settings taken).drafts,
      ∃ username password salt, AuthStep.register username password salt false ∈ steps ++ [taken] ∧
        Registers libraries username password salt draft := by
    intro draft member
    rcases drafts_step libraries settings member with
      before | ⟨username, password, salt, rfl, registers⟩
    · exact origin draft before
    · exact ⟨username, password, salt, List.mem_append_right _ List.mem_cons_self, registers⟩
  have logins : ∀ user ∈ (service.step libraries settings taken).logins,
      (user.id, user.toUserDraft) ∈ (service.step libraries settings taken).identities ∧
        ∃ username password, AuthStep.login username password false ∈ steps ++ [taken] ∧
          Admits libraries username password user.toUserDraft := by
    intro user member
    rcases logins_step libraries settings member with
      before | ⟨username, password, rfl, isRow, admits⟩
    · obtain ⟨present, username, password, inSteps, admits⟩ := sound.logins user before
      exact ⟨identities_step_subset libraries settings taken present, username, password,
        List.mem_append_left _ inSteps, admits⟩
    · exact ⟨identities_step_subset libraries settings _
        (mem_identities.mpr ⟨user, isRow, rfl, rfl⟩), username, password,
        List.mem_append_right _ List.mem_cons_self, admits⟩
  rcases users_cases libraries settings service taken with ⟨same, _⟩ | ⟨id, draft, adds⟩
  · exact ⟨same ▸ sound.ids, same ▸ sound.names, same ▸ old, drafts, logins⟩
  · have free : ∀ identity ∈ service.identities,
        identity.2.usernameNormalized ≠ draft.usernameNormalized ∧ identity.1 ≠ id := by
      rintro ⟨rowId, rowDraft⟩ member
      obtain ⟨user, isRow, rfl, rfl⟩ := mem_identities.mp member
      exact not_or.mp (adds.free user isRow)
    refine ⟨?_, ?_, ?_, drafts, logins⟩
    · rw [adds.adds, List.map_append]
      refine sound.ids.append (List.nodup_singleton _) ?_
      rintro taken member isNew
      obtain ⟨identity, isRow, rfl⟩ := List.mem_map.mp member
      exact (free identity isRow).2 (List.mem_singleton.mp isNew)
    · rw [adds.adds, List.map_append]
      refine sound.names.append (List.nodup_singleton _) ?_
      rintro taken member isNew
      obtain ⟨identity, isRow, rfl⟩ := List.mem_map.mp member
      exact (free identity isRow).1 (List.mem_singleton.mp isNew)
    · intro identity member
      rw [adds.adds] at member
      rcases List.mem_append.mp member with isRow | isNew
      · exact old identity isRow
      · rw [List.mem_singleton.mp isNew]
        exact ⟨adds.fits, origin draft adds.drafted⟩

theorem after_append (steps : List (AuthStep Salt)) (taken : AuthStep Salt) :
    after libraries settings (steps ++ [taken]) =
      (after libraries settings steps).step libraries settings taken :=
  Trace.run_append ..

theorem after_sound (steps : List (AuthStep Salt)) :
    Sound libraries steps (after libraries settings steps) := by
  induction steps using List.reverseRecOn with
  | nil =>
      refine ⟨List.nodup_nil, List.nodup_nil, ?_, ?_, ?_⟩
      · exact fun _ member => absurd member List.not_mem_nil
      · exact fun _ member => absurd member List.not_mem_nil
      · exact fun _ member => absurd member List.not_mem_nil
  | append_singleton steps taken sound =>
      rw [after_append]
      exact sound.step libraries settings taken

/-- The user a step answers to have been created. -/
def createdUser (service : AuthService Hash) (taken : AuthStep Salt) : Option UserResponse :=
  match (service.answer libraries settings taken).1 with
  | some (.created user) => some user
  | _ => none

theorem createdUser_eq_some {service : AuthService Hash} {taken : AuthStep Salt}
    {user : UserResponse} (created : service.createdUser libraries settings taken = some user) :
    (service.answer libraries settings taken).1 = some (.created user) := by
  unfold createdUser at created
  split at created
  · next same =>
      cases created
      exact same
  · cases created

/-- The users of the registrations that succeeded, in their order. -/
def createdUsers (steps : List (AuthStep Salt)) : List UserResponse :=
  (Trace.visits (step libraries settings) {} steps).filterMap fun visit =>
    visit.1.createdUser libraries settings visit.2

/-- Who was told to be registered has a row. -/
theorem createdUsers_sublist (steps : List (AuthStep Salt)) :
    ((createdUsers libraries settings steps).map fun user => (user.id, user.username)).Sublist
      ((after libraries settings steps).identities.map fun identity =>
        (identity.1, identity.2.username)) := by
  induction steps using List.reverseRecOn with
  | nil => exact List.Sublist.slnil
  | append_singleton steps taken ih =>
      have split : createdUsers libraries settings (steps ++ [taken]) =
          createdUsers libraries settings steps ++
            ((after libraries settings steps).createdUser libraries settings taken).toList := by
        unfold createdUsers
        rw [Trace.visits_append, List.filterMap_append]
        refine congrArg (_ ++ ·) ?_
        change List.filterMap _ [(after libraries settings steps, taken)] = _
        rw [List.filterMap_cons, List.filterMap_nil]
        cases (after libraries settings steps).createdUser libraries settings taken with
        | none => rfl
        | some user => rfl
      rw [split, after_append, List.map_append]
      rcases users_cases libraries settings (after libraries settings steps) taken with
        ⟨same, none⟩ | ⟨id, draft, adds⟩
      · cases created : (after libraries settings steps).createdUser libraries settings taken with
        | none => simpa [same] using ih
        | some user => exact absurd (createdUser_eq_some libraries settings created) (none user)
      · rw [adds.adds, List.map_append]
        refine ih.append ?_
        cases created : (after libraries settings steps).createdUser libraries settings taken with
        | none => exact List.nil_sublist _
        | some user =>
            rw [adds.creates user (createdUser_eq_some libraries settings created)]
            exact List.Sublist.refl _

/-- **A name is registered once.** In every order of the steps, and however commits fail:
no two rows share an id or a normalized name; every row has a name the validator passes,
with its normalized form, both of at most 32 characters; and the users that were told to be
registered are among the rows, each once, in their order. -/
theorem after_registers (steps : List (AuthStep Salt)) :
    ((after libraries settings steps).users.map User.id).Nodup ∧
    ((after libraries settings steps).users.map fun user => user.usernameNormalized).Nodup ∧
    (∀ user ∈ (after libraries settings steps).users, Fits user.toUserDraft ∧
      user.usernameNormalized = libraries.normalizeUsername user.username ∧
      ∃ given, libraries.validateUsername given = .ok user.username) ∧
    ((createdUsers libraries settings steps).map fun user => (user.id, user.username)).Sublist
      ((after libraries settings steps).users.map fun user => (user.id, user.username)) := by
  have sound := after_sound libraries settings steps
  have ids := sound.ids
  have names := sound.names
  have created := createdUsers_sublist libraries settings steps
  rw [identities, List.map_map] at ids names created
  refine ⟨ids, names, ?_, created⟩
  intro user isRow
  obtain ⟨fits, username, password, salt, _, credentials, _, same⟩ :=
    sound.rows _ (mem_identities.mpr ⟨user, isRow, rfl, rfl⟩)
  dsimp only at same
  refine ⟨fits, ?_, ?_⟩
  · rw [← same]
    rfl
  · rw [← same]
    exact credentials.usernameIsValid

/-! ## Whose password -/

/-- A password of a login that is the one of the registration of a row. -/
structure Proves (steps : List (AuthStep Salt)) (username password : PythonString)
    (draft : UserDraft Hash) : Prop where
  valid : ∃ credentials, CredentialsRequest.validate libraries.toUnicodeData username password =
    .ok credentials ∧ libraries.normalizeUsername credentials.username = draft.usernameNormalized
  registered : ∃ name salt, AuthStep.register name password salt false ∈ steps ∧
    Registers libraries name password salt draft

/-- With a hasher that tells passwords apart, who is admitted gave the password of the
registration. -/
theorem admits_iff (verifies : ∀ salt password given,
      libraries.verifyPassword (libraries.hashPassword salt password) given = true ↔
        given = password)
    {steps : List (AuthStep Salt)} {draft : UserDraft Hash}
    (registered : ∃ name word salt, AuthStep.register name word salt false ∈ steps ∧
      Registers libraries name word salt draft) {username password : PythonString} :
    Admits libraries username password draft ↔ Proves libraries steps username password draft := by
  constructor
  · rintro ⟨credentials, valid, same, verified⟩
    obtain ⟨name, word, salt, inSteps, registering, accepted, rfl⟩ := registered
    have given := (verifies salt registering.password credentials.password).mp verified
    rw [(CredentialsRequest.validate_eq_ok valid).2,
      (CredentialsRequest.validate_eq_ok accepted).2] at given
    rw [given] at valid ⊢
    exact ⟨⟨credentials, valid, same⟩, name, salt, inSteps, registering, accepted, rfl⟩
  · rintro ⟨⟨credentials, valid, same⟩, name, salt, _, registering, accepted, rfl⟩
    refine ⟨credentials, valid, same, (verifies salt registering.password _).mpr ?_⟩
    rw [(CredentialsRequest.validate_eq_ok valid).2,
      (CredentialsRequest.validate_eq_ok accepted).2]

/-- When a login goes through. -/
theorem login_eq_none {service : AuthService Hash} {username password : PythonString} :
    (service.login libraries username password false).1 = none ↔
      ∃ user, Admits libraries username password user.toUserDraft ∧
        service.findByName user.usernameNormalized = some user := by
  constructor
  · intro passes
    simp only [login] at passes
    split at passes
    · cases passes
    · next credentials valid =>
        rw [if_neg Bool.false_ne_true] at passes
        split at passes
        · cases passes
        · next user found =>
            split at passes
            · next verified =>
                have named : user.usernameNormalized = _ := of_decide_eq_true (List.find?_some found :)
                exact ⟨user, ⟨credentials, valid, named.symm, verified⟩, named ▸ found⟩
            · cases passes
  · rintro ⟨user, ⟨credentials, valid, named, verified⟩, found⟩
    simp only [login, valid, named, found]
    rw [if_neg Bool.false_ne_true, if_pos verified]

/-- Who a token shows. -/
theorem me_eq_current {service : AuthService Hash} (ids : (service.users.map User.id).Nodup)
    {token : String} {user : UserResponse} :
    service.me token false = .current user ↔
      ∃ id, service.resolveSession token = some id ∧
        ∃ row ∈ service.users, row.id = id ∧ row.response = user := by
  rw [me, if_neg Bool.false_ne_true, getCurrentUser]
  cases service.resolveSession token with
  | none =>
      constructor
      · intro answered
        cases answered
      · rintro ⟨_, resolves, _⟩
        cases resolves
  | some id =>
      dsimp only
      constructor
      · intro answered
        split at answered
        · cases answered
        · next row found =>
            obtain ⟨isRow, same⟩ := (UniqueKeys.find?_eq_some ids).mp found
            exact ⟨id, rfl, row, isRow, same, AuthResponse.current.inj answered⟩
      · rintro ⟨other, resolves, row, isRow, same, rfl⟩
        cases resolves
        rw [(UniqueKeys.find?_eq_some ids).mpr ⟨isRow, same⟩]

/-- A row stays in every later table. -/
theorem identities_after_subset {before : List (AuthStep Salt)}
    {identity : UserId × UserDraft Hash}
    (member : identity ∈ (after libraries settings before).identities)
    (later : List (AuthStep Salt)) :
    identity ∈ (after libraries settings (before ++ later)).identities := by
  rw [after, Trace.run_append]
  refine Trace.run_invariant (motive := fun service : AuthService Hash =>
    identity ∈ service.identities) ?_ later member
  exact fun _ taken present => identities_step_subset libraries settings taken present

/-- **Whose session it is.** With a hasher that tells passwords apart, and in every order
of the steps: a login goes through exactly when it gives, in any spelling, the name of a
row and the password the row was registered with; and a token stands for a user exactly
when it was last handed out to that user, by a login that gave that password, with no
deletion and less than the lifetime of a session since. -/
theorem after_authenticates (verifies : ∀ salt password given,
      libraries.verifyPassword (libraries.hashPassword salt password) given = true ↔
        given = password)
    (steps : List (AuthStep Salt)) :
    (∀ username password,
      ((after libraries settings steps).login libraries username password false).1 = none ↔
        ∃ user ∈ (after libraries settings steps).users,
          Proves libraries steps username password user.toUserDraft) ∧
    ∀ token, token ≠ "" → ∀ user : UserResponse,
      (after libraries settings steps).me token false = .current user ↔
        ∃ before place holder later, steps = before ++ .createSession place token false :: later ∧
          (after libraries settings before).logins[place]? = some holder ∧
          (∀ visit ∈ Trace.visits (step libraries settings)
            (after libraries settings (before ++ [.createSession place token false])) later,
            ¬ Rewrites settings token visit.1 visit.2) ∧
          waited later < settings.sessionTtlSeconds ∧
          (∃ username password, AuthStep.login username password false ∈ before ∧
            Proves libraries before username password holder.toUserDraft) ∧
          ∃ row ∈ (after libraries settings steps).users,
            row.id = holder.id ∧ row.toUserDraft = holder.toUserDraft ∧ row.response = user := by
  have sound := after_sound libraries settings steps
  have ids := sound.ids
  have names := sound.names
  rw [identities, List.map_map] at ids names
  refine ⟨?_, ?_⟩
  · intro username password
    rw [login_eq_none]
    constructor
    · rintro ⟨user, admits, found⟩
      have isRow := ((UniqueKeys.find?_eq_some names).mp found).1
      have origin := (sound.rows _ (mem_identities.mpr ⟨user, isRow, rfl, rfl⟩)).2
      exact ⟨user, isRow, (admits_iff libraries verifies origin).mp admits⟩
    · rintro ⟨user, isRow, proves⟩
      have origin := (sound.rows _ (mem_identities.mpr ⟨user, isRow, rfl, rfl⟩)).2
      exact ⟨user, (admits_iff libraries verifies origin).mpr proves,
        (UniqueKeys.find?_eq_some names).mpr ⟨isRow, rfl⟩⟩
  · intro token given user
    rw [me_eq_current ids]
    constructor
    · rintro ⟨id, resolves, row, isRow, rfl, response⟩
      obtain ⟨before, place, holder, later, rfl, found, same, untouched, alive⟩ :=
        (resolveSession_after libraries settings given _ _).mp resolves
      obtain ⟨present, username, password, inBefore, admits⟩ :=
        (after_sound libraries settings before).logins holder (List.mem_of_getElem? found)
      have origin := ((after_sound libraries settings before).rows _ present).2
      refine ⟨before, place, holder, later, rfl, found, untouched, alive,
        ⟨username, password, inBefore, (admits_iff libraries verifies origin).mp admits⟩,
        row, isRow, same.symm, ?_, response⟩
      have stays := identities_after_subset libraries settings present
        (.createSession place token false :: later)
      have isListed := mem_identities.mpr ⟨row, isRow, rfl, rfl⟩
      exact congrArg Prod.snd (UniqueKeys.row_ext sound.ids isListed stays same.symm)
    · rintro ⟨before, place, holder, later, rfl, found, untouched, alive, _, row, isRow, same, _,
        response⟩
      exact ⟨holder.id, (resolveSession_after libraries settings given _ _).mpr
        ⟨before, place, holder, later, rfl, found, rfl, untouched, alive⟩, row, isRow, same, response⟩

/-- Latin letters folded to lower case, and a hasher that keeps the password. -/
def plainLibraries : AuthLibraries Unit PythonString :=
  { latinData with
    casefold := fun name => name.map fun point =>
      if codePoint 'A' ≤ point ∧ point ≤ codePoint 'Z' then point + 0x20 else point
    hashPassword := fun _ password => password
    verifyPassword := fun hash given => decide (given = hash) }

/-- A user registers, logs in under another spelling and waits. -/
def oneLogin : List (AuthStep Unit) :=
  [.register (codePoints "Tamar") (codePoints "correct horse") () false,
    .commit 0 7 .refreshed,
    .login (codePoints "TAMAR") (codePoints "correct horse") false,
    .createSession 0 "fresh" false,
    .wait 3599]

theorem after_authenticates_oneLogin :
    ∃ before place holder later, oneLogin = before ++ .createSession place "fresh" false :: later ∧
      (after plainLibraries {} before).logins[place]? = some holder ∧
      waited later < 3600 ∧
      ∃ username password, AuthStep.login username password false ∈ before ∧
        Proves plainLibraries before username password holder.toUserDraft := by
  have verifies : ∀ (salt : Unit) (password given : PythonString),
      plainLibraries.verifyPassword (plainLibraries.hashPassword salt password) given = true ↔
        given = password := fun _ _ _ => decide_eq_true_iff
  obtain ⟨before, place, holder, later, split, found, _, alive, proved, _⟩ :=
    ((after_authenticates plainLibraries {} verifies oneLogin).2 "fresh" (by decide)
      { id := 7, username := codePoints "Tamar", rating := 1200 }).mp (by decide +kernel)
  exact ⟨before, place, holder, later, split, found, alive, proved⟩

end AuthService

end KungFuChess
