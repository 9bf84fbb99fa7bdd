import Aar.Activation.Sessions
import Aar.Lib.Run
import Mathlib.Data.List.Induction

/-! Session grants stay within the activation they were issued in, along every run of calls. -/

namespace Aar.Activation

open Guarded Stateful

section Durable

variable {store store' : GenerationStore} {generation : PositiveCounter}
  {grantSet : WorkbenchGrantSet}

/-- The current set is the one of the current generation. -/
def GenerationStore.Held (store : GenerationStore) : Prop :=
  ∀ current ∈ store.currentGrantSet, store.currentRuntimeGeneration = some current.runtimeGeneration

/-- Generations only grow, the set of a generation stays, and a set is only given up for another. -/
structure Advances (store store' : GenerationStore) : Prop where
  grows : ∀ current ∈ store.currentRuntimeGeneration,
    ∃ later ∈ store'.currentRuntimeGeneration, current.val ≤ later.val
  stays : store'.currentRuntimeGeneration = store.currentRuntimeGeneration →
    ∀ current ∈ store.currentGrantSet, store'.currentGrantSet = some current
  keeps : store.currentGrantSet ≠ none → store'.currentGrantSet ≠ none

theorem Advances.refl : Advances store store where
  grows current now := ⟨current, now, Nat.le_refl _⟩
  stays _ _ now := now
  keeps set := set

/-- A store that advances twice has advanced. -/
theorem Advances.trans {store'' : GenerationStore} (first : Advances store store')
    (second : Advances store' store'') : Advances store store'' where
  grows current now := by
    obtain ⟨middle, then', below⟩ := first.grows current now
    obtain ⟨later, last, above⟩ := second.grows middle then'
    exact ⟨later, last, Nat.le_trans below above⟩
  stays same current now := by
    -- The generation in between lies between two equal ones.
    have between : store'.currentRuntimeGeneration = store.currentRuntimeGeneration := by
      cases was : store.currentRuntimeGeneration with
      | none =>
        cases middle : store'.currentRuntimeGeneration with
        | none => rfl
        | some value =>
          obtain ⟨later, last, -⟩ := second.grows value middle
          rw [same, was] at last
          cases last
      | some first' =>
        obtain ⟨middle, then', below⟩ := first.grows first' was
        obtain ⟨later, last, above⟩ := second.grows middle then'
        rw [same, was] at last
        cases last
        rw [then']
        exact congrArg some (Subtype.ext (by omega))
    exact second.stays (same.trans between.symm) current (first.stays between current now)
  keeps set := second.keeps (first.keeps set)

theorem refuseOlder_ok {passed : Unit} : store.refuseOlder generation = .ok passed ↔
    ∀ current ∈ store.currentRuntimeGeneration, current.val ≤ generation.val := by
  simp only [GenerationStore.refuseOlder, require_ok, Nat.not_lt]

/-- A fence advances the store to a published generation, or leaves it where it is. -/
theorem establishDurableFence_ok {generations : DurableGenerations} (held : store.Held)
    (made : store.establishDurableFence generations = .ok store') :
    store'.Held ∧ Advances store store' := by
  unfold GenerationStore.establishDurableFence at made
  cases highest : Table.fetchMax generations (fun _ => True)
      fun found => found.runtimeGeneration.val with
  | none =>
    simp only [highest, Except.ok.injEq] at made
    exact made ▸ ⟨held, .refl⟩
  | some found =>
    have adopts : GenerationStore.Held ⟨some found.runtimeGeneration, some found⟩ := by
      intro current now
      cases now
      rfl
    simp only [highest] at made
    cases was : store.currentRuntimeGeneration with
    | none =>
      simp only [was, Except.ok.injEq] at made
      subst made
      refine ⟨adopts, ⟨fun current now => ?_, fun same => ?_, fun _ set => by cases set⟩⟩
      · rw [was] at now
        cases now
      · rw [was] at same
        cases same
    | some current =>
      simp only [was] at made
      by_cases below : current.val < found.runtimeGeneration.val
      · simp only [if_pos below, Except.ok.injEq] at made
        subst made
        refine ⟨adopts, ⟨fun value now => ?_, fun same => ?_, fun _ set => by cases set⟩⟩
        · rw [was] at now
          cases now
          exact ⟨_, rfl, Nat.le_of_lt below⟩
        · rw [was] at same
          cases same
          exact absurd below (Nat.lt_irrefl _)
      · simp only [if_neg below] at made
        by_cases equal : current = found.runtimeGeneration
        · simp only [if_pos equal] at made
          cases set : store.currentGrantSet with
          | none =>
            simp only [set, Except.ok.injEq] at made
            subst made
            refine ⟨fun value now => ?_, ⟨fun value now => ?_, fun _ value now => ?_,
              fun absent => absurd set absent⟩⟩
            · cases now
              exact congrArg some equal
            · rw [was] at now
              exact ⟨value, now, Nat.le_refl _⟩
            · rw [set] at now
              cases now
          | some value =>
            simp only [set, bind_ok, require_ok, pure_ok] at made
            obtain ⟨-, -, rfl⟩ := made
            exact ⟨held, .refl⟩
        · simp only [if_neg equal, Except.ok.injEq] at made
          exact made ▸ ⟨held, .refl⟩

/-- A current set is replaced only together with its generation. -/
theorem setCurrent_ok (bound : grantSet.runtimeGeneration = generation)
    (made : store.setCurrent generation grantSet = .ok store') :
    store' = ⟨some generation, some grantSet⟩ ∧ store'.Held ∧ Advances store store' := by
  unfold GenerationStore.setCurrent at made
  simp only [bind_ok, require_ok, pure_ok, refuseOlder_ok] at made
  obtain ⟨-, newer, -, unchanged, rfl⟩ := made
  refine ⟨rfl, fun current now => ?_, ⟨fun current now => ?_, fun same current now => ?_,
    fun _ set => by cases set⟩⟩
  · cases now
    exact congrArg some bound.symm
  · exact ⟨generation, rfl, newer current now⟩
  · exact congrArg some (unchanged same.symm current now).symm

/-- Bindings that are checked name the generation of the set they are checked against. -/
theorem checkPersistedBinding_ok {expected : ExpectedBindings} {passed : Unit}
    (checked : checkPersistedBinding grantSet expected = .ok passed) :
    expected.runtimeGeneration = grantSet.runtimeGeneration := by
  unfold checkPersistedBinding at checked
  cases found : (expected.checks grantSet).find? fun check => !check.2 with
  | some check => simp [found] at checked
  | none =>
    have all := List.find?_eq_none.mp found ("runtime_generation", _) List.mem_cons_self
    simpa using all

theorem validateBindings_ok {request : PublishRequest} {expected : ExpectedBindings}
    (validated : validateBindings request = .ok expected) :
    expected.runtimeGeneration = request.grantSet.runtimeGeneration := by
  simp only [validateBindings, bind_ok, pure_ok] at validated
  obtain ⟨_, -, _, checked, rfl⟩ := validated
  exact checkPersistedBinding_ok checked

/-- A publication advances the store, and one that returns has made its set the current one. -/
theorem publishDurable_leads (request : PublishRequest) (tree : PublicationAnswers)
    (held : store.Held) :
    Leads (publishDurable request tree) store
      (fun result later => later = ⟨some result.grantSet.runtimeGeneration, some result.grantSet⟩ ∧
        later.Held ∧ Advances store later)
      (fun _ later => later.Held ∧ Advances store later) := by
  have refused : store.Held ∧ Advances store store := ⟨held, .refl⟩
  refine Leads.bind (Leads.lift (fun expected validated => ?_) fun _ _ => refused)
  have named := validateBindings_ok validated
  refine Leads.bind (Leads.get (Leads.bind (Leads.lift (fun _ _ => ?_) fun _ _ => refused)))
  refine Leads.bind (Leads.lift (fun generations _ => ?_) fun _ _ => refused)
  refine Leads.bind (Leads.get (Leads.bind (Leads.lift (fun fenced made => ?_)
    fun _ _ => refused)))
  refine Leads.bind (Leads.set ?_)
  -- From here on the fence stays, whatever is refused.
  obtain ⟨held', advances⟩ := establishDurableFence_ok held made
  have refused' : fenced.Held ∧ Advances store fenced := ⟨held', advances⟩
  refine Leads.bind (Leads.get (Leads.bind (Leads.lift (fun _ _ => ?_) fun _ _ => refused')))
  refine Leads.bind (Leads.lift (fun existing _ => ?_) fun _ _ => refused')
  cases existing with
  | some existing =>
    refine Leads.bind (Leads.lift (fun _ checked => ?_) fun _ _ => refused')
    refine Leads.bind (Leads.demand (fun same => ?_) fun _ => refused')
    refine Leads.bind (Leads.get (Leads.bind (Leads.lift (fun later set => ?_)
      fun _ _ => refused')))
    refine Leads.bind (Leads.set (Leads.pure ?_))
    have bound := (checkPersistedBinding_ok checked).symm
    obtain ⟨rfl, held'', moved⟩ := setCurrent_ok bound set
    exact ⟨by rw [bound], held'', advances.trans moved⟩
  | none =>
    refine Leads.bind (Leads.lift (fun readback _ => ?_) fun _ _ => refused')
    refine Leads.bind (Leads.demand (fun same => ?_) fun _ => refused')
    refine Leads.bind (Leads.get (Leads.bind (Leads.lift (fun later set => ?_)
      fun _ _ => refused')))
    refine Leads.bind (Leads.set (Leads.pure ?_))
    have bound : readback.runtimeGeneration = expected.runtimeGeneration := by
      rw [same, named]
    obtain ⟨rfl, held'', moved⟩ := setCurrent_ok bound set
    exact ⟨by rw [bound], held'', advances.trans moved⟩

/-- A verification that returns has found its set current; one that raises may have advanced. -/
theorem verifyDurable_leads (grantSet : WorkbenchGrantSet) (tree : VerificationAnswers)
    (held : store.Held) :
    Leads (verifyDurable grantSet tree) store
      (fun _ later => later = ⟨some grantSet.runtimeGeneration, some grantSet⟩ ∧ later.Held ∧
        Advances store later)
      (fun _ later => later.Held ∧ Advances store later) := by
  have refused : store.Held ∧ Advances store store := ⟨held, .refl⟩
  refine Leads.bind (Leads.lift (fun generations _ => ?_) fun _ _ => refused)
  refine Leads.bind (Leads.get (Leads.bind (Leads.lift (fun fenced made => ?_)
    fun _ _ => refused)))
  refine Leads.bind (Leads.set (Leads.bind (Leads.get ?_)))
  have refused' := establishDurableFence_ok held made
  refine Leads.bind (Leads.demand (fun current => ?_) fun _ => refused')
  refine Leads.bind (Leads.lift (fun persisted _ => ?_) fun _ _ => refused')
  refine Leads.demand (fun _ => ⟨?_, refused'⟩) fun _ => refused'
  cases fenced
  obtain ⟨rfl, rfl⟩ := current
  rfl

end Durable

section Owner

variable {store later : ActivationStore} {grantSet : WorkbenchGrantSet}
  {grant : IssuedWorkbenchGrant} {generation : PositiveCounter}

/-- A grant with every binding of a grant set, within its policy. -/
structure IssuedWorkbenchGrant.BoundTo (grant : IssuedWorkbenchGrant)
    (grantSet : WorkbenchGrantSet) : Prop where
  digest : grant.grantSetDigest = grantSet.grantSetDigest
  generation : grant.runtimeGeneration = grantSet.runtimeGeneration
  activation : grant.activationGeneration = grantSet.activationGeneration
  profile : grant.profileDigest = grantSet.profileDigest
  authority : grant.activationAuthorityDigest = grantSet.activationAuthorityDigest
  capabilities : grant.capabilityDigest = grantSet.capabilityDigest
  routes : grant.routeCatalogDigest = grantSet.routeCatalogDigest
  budget : grant.budget = grantSet.budgetCeiling
  principal : grant.principalId ∈ grantSet.principalIds
  capability : grant.capability ∈ grantSet.capabilities
  ttl : grant.expiresAtUnixMs.val - grant.issuedAtUnixMs.val ≤ grantSet.maxTtlMs

theorem IssuedWorkbenchGrant.BoundTo.revoke (bound : grant.BoundTo grantSet) :
    grant.revoke.BoundTo grantSet := ⟨bound.digest, bound.generation, bound.activation,
  bound.profile, bound.authority, bound.capabilities, bound.routes, bound.budget, bound.principal,
  bound.capability, bound.ttl⟩

/--
What holds of a store and its sessions between two calls.

Grants of the current generation are bound to the current set, and only they can be accepted.
Their generation has been observed, so nothing clears them while it stays current.
-/
structure ActivationStore.Sound (store : ActivationStore) : Prop where
  held : store.durable.Held
  named : ∀ {grantId grant}, store.sessions.sessionGrants grantId = some grant →
    grant.grantId.val = grantId
  past : ∀ {grantId grant}, store.sessions.sessionGrants grantId = some grant →
    ∃ current ∈ store.durable.currentRuntimeGeneration, grant.runtimeGeneration.val ≤ current.val
  seen : ∀ observed ∈ store.sessions.observedRuntimeGeneration,
    ∃ current ∈ store.durable.currentRuntimeGeneration, observed.val ≤ current.val
  current : ∀ {grantId grant}, store.sessions.sessionGrants grantId = some grant →
    store.durable.currentRuntimeGeneration = some grant.runtimeGeneration →
    store.sessions.observedRuntimeGeneration = some grant.runtimeGeneration ∧
      ∃ grantSet ∈ store.durable.currentGrantSet, grant.BoundTo grantSet

theorem ActivationStore.Sound.new (start : Option PositiveCounter) :
    (ActivationStore.new start).Sound where
  held _ now := by cases now
  named found := by cases found
  past found := by cases found
  seen _ now := by cases now
  current found := by cases found

/-- A store without grants is sound when it has observed its own generation. -/
theorem ActivationStore.Sound.clear (held : store.durable.Held)
    (now : store.durable.currentRuntimeGeneration = some generation) :
    ActivationStore.Sound { store with sessions := .clear generation } where
  held := held
  named found := by cases found
  past found := by cases found
  seen observed is := by
    cases is
    exact ⟨generation, now, Nat.le_refl _⟩
  current found := by cases found

/-- A sound store stays sound when its durable part advances. -/
theorem ActivationStore.Sound.advance (sound : store.Sound) {durable : GenerationStore}
    (held : durable.Held) (advances : Advances store.durable durable) :
    ActivationStore.Sound { store with durable } where
  held := held
  named := sound.named
  past found := by
    obtain ⟨current, now, below⟩ := sound.past found
    obtain ⟨next, then', above⟩ := advances.grows current now
    exact ⟨next, then', Nat.le_trans below above⟩
  seen observed is := by
    obtain ⟨current, now, below⟩ := sound.seen observed is
    obtain ⟨next, then', above⟩ := advances.grows current now
    exact ⟨next, then', Nat.le_trans below above⟩
  current {grantId grant} found now := by
    -- A grant of the new generation is one of the old generation, so both are the same.
    obtain ⟨current, was, below⟩ := sound.past found
    obtain ⟨next, then', above⟩ := advances.grows current was
    have now' : durable.currentRuntimeGeneration = some grant.runtimeGeneration := now
    rw [now'] at then'
    cases then'
    have equal : current = grant.runtimeGeneration := Subtype.ext (by omega)
    subst equal
    obtain ⟨observed, grantSet, set, bound⟩ := sound.current found was
    exact ⟨observed, grantSet, advances.stays (now'.trans was.symm) grantSet set, bound⟩

/-- Recording a grant of its own id keeps a store sound when the grant meets the invariant. -/
theorem ActivationStore.Sound.record (sound : store.Sound)
    (past : ∃ current ∈ store.durable.currentRuntimeGeneration,
      grant.runtimeGeneration.val ≤ current.val)
    (bound : store.durable.currentRuntimeGeneration = some grant.runtimeGeneration →
      store.sessions.observedRuntimeGeneration = some grant.runtimeGeneration ∧
        ∃ grantSet ∈ store.durable.currentGrantSet, grant.BoundTo grantSet) :
    ActivationStore.Sound { store with sessions := store.sessions.record grant } := by
  -- Every entry is the recorded one, under its own id, or one that was there.
  have entry : ∀ {grantId other},
      (store.sessions.record grant).sessionGrants grantId = some other →
      (grantId = grant.grantId.val ∧ other = grant) ∨
        store.sessions.sessionGrants grantId = some other := by
    intro grantId other found
    simp only [SessionGrantOwner.record, Function.update_apply] at found
    split at found
    · next same => exact .inl ⟨same, (Option.some.inj found).symm⟩
    · exact .inr found
  refine ⟨sound.held, fun found => ?_, fun found => ?_, sound.seen, fun found now => ?_⟩
  · rcases entry found with ⟨rfl, rfl⟩ | kept
    · rfl
    · exact sound.named kept
  · rcases entry found with ⟨-, rfl⟩ | kept
    · exact past
    · exact sound.past kept
  · rcases entry found with ⟨-, rfl⟩ | kept
    · exact bound now
    · exact sound.current kept now

/--
What a refused call does to the sessions: nothing, or it clears them for a newly observed
generation, which is later than the one of every grant it drops.
-/
def Settles (store later : ActivationStore) : Prop :=
  later.sessions = store.sessions ∨
    ∃ generation, later.durable.currentRuntimeGeneration = some generation ∧
      later.sessions = .clear generation ∧
      store.sessions.observedRuntimeGeneration ≠ some generation ∧
      ∀ grantId grant, store.sessions.sessionGrants grantId = some grant →
        grant.runtimeGeneration.val < generation.val

/-- The grants of a generation that has not been observed yet are of earlier generations. -/
theorem ActivationStore.Sound.outdated (sound : store.Sound)
    (now : store.durable.currentRuntimeGeneration = some generation)
    (unseen : store.sessions.observedRuntimeGeneration ≠ some generation) {grantId : String}
    (found : store.sessions.sessionGrants grantId = some grant) :
    grant.runtimeGeneration.val < generation.val := by
  obtain ⟨current, was, below⟩ := sound.past found
  cases now.symm.trans was
  refine Nat.lt_of_le_of_ne below fun equal => unseen ?_
  have same : grant.runtimeGeneration = generation := Subtype.ext equal
  exact same ▸ (sound.current found (same ▸ now)).1

/-- The current set that a call has read and verified, and the store it did so in. -/
structure Authorized (store : ActivationStore) (grantSet : WorkbenchGrantSet)
    (later : ActivationStore) : Prop where
  sound : later.Sound
  durable : later.durable = store.durable
  current : store.durable.currentGrantSet = some grantSet
  observed : later.sessions.observedRuntimeGeneration = some grantSet.runtimeGeneration
  settles : Settles store later

/-- Reading the current set observes its generation. -/
theorem requireCurrentGrantSet_leads (sound : store.Sound) :
    Leads requireCurrentGrantSet store (fun grantSet later => Authorized store grantSet later)
      (fun _ later => later = store) := by
  refine Leads.bind (Leads.get ?_)
  cases set : store.durable.currentGrantSet with
  | none => exact Leads.throw rfl
  | some grantSet =>
    have now := sound.held grantSet set
    refine Leads.bind (Leads.get ?_)
    by_cases unseen : store.sessions.observedRuntimeGeneration ≠ some grantSet.runtimeGeneration
    · -- The generation is new to the sessions, so they are cleared.
      rw [if_pos unseen]
      refine Leads.bind (Leads.modify (Leads.pure ⟨.clear sound.held now, rfl, set, rfl, .inr ?_⟩))
      exact ⟨_, now, rfl, unseen, fun _ _ found => sound.outdated now unseen found⟩
    · rw [if_neg unseen]
      exact Leads.bind (Leads.pure
        (Leads.pure ⟨sound, rfl, set, not_not.mp unseen, .inl rfl⟩))

/-- A verification that fails leaves the sessions, or clears them for the generation it adopted. -/
theorem verifyCurrentPersisted_leads (sound : store.Sound) (tree : VerificationAnswers)
    (set : store.durable.currentGrantSet = some grantSet) :
    Leads (verifyCurrentPersisted grantSet tree) store (fun _ later => later = store)
      (fun _ later => later.Sound ∧ Advances store.durable later.durable ∧
        (later.sessions = store.sessions ∧ later.durable.currentRuntimeGeneration =
            store.durable.currentRuntimeGeneration ∨
          ∃ generation, later.durable.currentRuntimeGeneration = some generation ∧
            later.sessions = .clear generation ∧ generation ≠ grantSet.runtimeGeneration)) := by
  have durable := verifyDurable_leads grantSet tree sound.held
  have now := sound.held grantSet set
  unfold Leads at durable ⊢
  simp only [verifyCurrentPersisted, onDurable]
  cases ran : verifyDurable grantSet tree store.durable with
  | ok passed next =>
    simp only [ran] at durable ⊢
    -- The verified set is the one the store has held all along.
    obtain ⟨rfl, -, -⟩ := durable
    cases store with
    | mk held sessions =>
      cases held
      cases now
      cases set
      rfl
  | error refused next =>
    simp only [ran] at durable ⊢
    obtain ⟨held, advances⟩ := durable
    have advanced := sound.advance held advances
    cases set' : next.currentGrantSet with
    | none => exact absurd set' (advances.keeps (by simp [set]))
    | some refreshed =>
      have now' := held refreshed set'
      by_cases moved : refreshed.runtimeGeneration ≠ grantSet.runtimeGeneration
      · simp only [if_pos moved]
        have cleared : ActivationStore.Sound ⟨next, .clear refreshed.runtimeGeneration⟩ :=
          ActivationStore.Sound.clear advanced.held now'
        exact ⟨cleared, advances, .inr ⟨_, now', rfl, moved⟩⟩
      · simp only [if_neg moved]
        exact ⟨advanced, advances, .inl ⟨trivial, now'.trans ((not_not.mp moved) ▸ now.symm)⟩⟩

/--
A call that reads and verifies the current set goes on from an authorized store.

When either fails, the store has at most advanced and its sessions have settled.
-/
theorem authority_leads {α : Type} (sound : store.Sound) {tree : VerificationAnswers}
    {rest : WorkbenchGrantSet → StoreM α} {returned : α → ActivationStore → Prop}
    {raised : ProviderReadyActivationError → ActivationStore → Prop}
    (granted : ∀ grantSet later, Authorized store grantSet later →
      Leads (rest grantSet) later returned raised)
    (refused : ∀ error later, later.Sound → Advances store.durable later.durable →
      Settles store later → raised error later) :
    Leads (requireCurrentGrantSet >>= fun grantSet =>
      verifyCurrentPersisted grantSet tree >>= fun _ => rest grantSet) store returned raised := by
  refine Leads.bind ((requireCurrentGrantSet_leads sound).mono ?_ ?_)
  · intro grantSet middle authorized
    have set : middle.durable.currentGrantSet = some grantSet :=
      authorized.durable ▸ authorized.current
    have now := sound.held grantSet authorized.current
    refine Leads.bind ((verifyCurrentPersisted_leads authorized.sound tree set).mono ?_ ?_)
    · intro _ later same
      exact same ▸ granted grantSet middle authorized
    · intro error later verified
      obtain ⟨sound', advances, change⟩ := verified
      rw [authorized.durable] at advances change
      refine refused error later sound' advances ?_
      rcases change with ⟨sessions, generation⟩ | ⟨generation, now', cleared, moved⟩
      · -- The sessions are as the observation left them.
        rcases authorized.settles with same | ⟨observed, was, cleared, unseen, outdated⟩
        · exact .inl (sessions.trans same)
        · rw [authorized.durable] at was
          exact .inr ⟨observed, generation.trans was, sessions.trans cleared, unseen, outdated⟩
      · -- The adopted generation is later than everything the sessions have seen.
        obtain ⟨next, then', above⟩ := advances.grows _ now
        cases now'.symm.trans then'
        have beyond : grantSet.runtimeGeneration.val < generation.val :=
          Nat.lt_of_le_of_ne above fun equal => moved (Subtype.ext equal.symm)
        refine .inr ⟨generation, now', cleared, fun seen => ?_, fun grantId grant found => ?_⟩
        · obtain ⟨current, was, below⟩ := sound.seen generation seen
          cases now.symm.trans was
          omega
        · obtain ⟨current, was, below⟩ := sound.past found
          cases now.symm.trans was
          omega
  · intro error later same
    exact same ▸ refused error store sound .refl (.inl rfl)

/-- An expiry keeps the time to live within the policy of the set. -/
theorem expiry_ok {request : IssueRequest} {issuedAt : Counter} {expires : Nat}
    (made : request.expiry grantSet issuedAt = .ok expires) :
    expires - issuedAt.val ≤ grantSet.maxTtlMs := by
  unfold IssueRequest.expiry at made
  split at made
  · simp only [bind_ok, require_ok, pure_ok] at made
    obtain ⟨ttl, -, -, within, rfl⟩ := made
    omega
  · simp only [bind_ok, require_ok, pure_ok] at made
    obtain ⟨expires, -, -, -, -, within, rfl⟩ := made
    exact within
  · cases made

/-- A grant is made for the current set, under an id that is not live. -/
theorem grant_ok {request : IssueRequest} {issuedAt : Counter}
    {live : String → Option IssuedWorkbenchGrant}
    (made : request.grant grantSet issuedAt live = .ok grant) :
    grant.BoundTo grantSet ∧ grant.revoked = false ∧ live grant.grantId.val = none := by
  simp only [IssueRequest.grant, bind_ok, require_ok] at made
  obtain ⟨-, principal, -, capability, expires, within, -, -, -, free, made⟩ := made
  split at made
  · simp only [pure_ok] at made
    subst made
    obtain ⟨principalId, listed, same⟩ := List.mem_map.mp principal
    obtain ⟨name, offered, same'⟩ := List.mem_map.mp capability
    refine ⟨⟨rfl, rfl, rfl, rfl, rfl, rfl, rfl, rfl, ?_, ?_, expiry_ok within⟩, rfl, free⟩
    · exact (Subtype.ext same : principalId = ⟨request.principalId, _⟩) ▸ listed
    · exact (Subtype.ext same' : name = ⟨request.capability, _⟩) ▸ offered
  · exact absurd made throw_ok

/-- A reference that names a grant, by its id or by its own value. -/
def GrantReference.Names : GrantReference → IssuedWorkbenchGrant → Prop
  | .object named, grant => named = grant
  | .identifier grantId, grant => grantId = grant.grantId.val
  | .otherType, _ => False

/-- A resolved reference names a live grant. -/
theorem resolveSessionGrant_ok {reference : GrantReference} (sound : store.Sound)
    (made : store.sessions.resolveSessionGrant reference = .ok grant) :
    reference.Names grant ∧ store.sessions.sessionGrants grant.grantId.val = some grant := by
  unfold SessionGrantOwner.resolveSessionGrant at made
  cases reference with
  | object named =>
    simp only [ok_bind, bind_ok, orRaise_ok, require_ok, pure_ok] at made
    obtain ⟨stored, found, -, same, rfl⟩ := made
    exact ⟨same.symm, same ▸ found⟩
  | identifier grantId =>
    simp only [ok_bind, bind_ok, orRaise_ok, pure_ok] at made
    obtain ⟨stored, found, rfl⟩ := made
    have named := sound.named found
    exact ⟨named.symm, named.symm ▸ found⟩
  | otherType => simp only [Bind.bind, Except.bind, reduceCtorEq] at made

end Owner

section Calls

variable {store later : ActivationStore} {grant : IssuedWorkbenchGrant}

/-- What a session presents matches a grant and the current set, while the grant is valid. -/
structure AcceptRequest.Admits (request : AcceptRequest) (grant : IssuedWorkbenchGrant)
    (currentSet : WorkbenchGrantSet) : Prop where
  generation : request.runtimeGeneration = .integer currentSet.runtimeGeneration.val
  principal : grant.principalId.val = request.principalId
  session : grant.sessionId.val = request.sessionId
  capability : ∀ wanted ∈ request.capability, grant.capability.val = wanted
  activation : ∀ wanted ∈ request.activationGeneration,
    wanted = currentSet.activationGeneration.val
  profile : ∀ wanted ∈ request.profileId, wanted = currentSet.profileId.val
  profileDigest : ∀ wanted ∈ request.profileDigest, wanted = currentSet.profileDigest
  capabilityDigest : ∀ wanted ∈ request.capabilityDigest, wanted = currentSet.capabilityDigest
  time : ∃ now : Nat, request.nowUnixMs = .integer now ∧ grant.issuedAtUnixMs.val ≤ now ∧
    now < grant.expiresAtUnixMs.val

/-- What one call does to the sessions, by what it returns or raises. -/
def Changes (store later : ActivationStore) :
    Except ProviderReadyActivationError StoreAnswer → Prop
  | .ok (.published _) =>
    later.sessions.sessionGrants = store.sessions.sessionGrants ∨ Settles store later
  | .ok .verified => later.sessions = store.sessions
  | .ok (.issued grant) => ∃ grantSet middle, Authorized store grantSet middle ∧
    middle.sessions.sessionGrants grant.grantId.val = none ∧
    later = { middle with sessions := middle.sessions.record grant } ∧
    grant.BoundTo grantSet ∧ grant.revoked = false
  | .ok (.accepted grant) => later = store ∧ grant.revoked = false ∧
    store.sessions.sessionGrants grant.grantId.val = some grant ∧
    ∃ currentSet ∈ store.durable.currentGrantSet, grant.BoundTo currentSet
  | .ok (.revoked grant) => ∃ stored,
    store.sessions.sessionGrants stored.grantId.val = some stored ∧
    grant = stored.revoke ∧ later = { store with sessions := store.sessions.record stored.revoke }
  | .error _ => Settles store later

/-- What every call does: it keeps the store sound, advances it and changes the sessions so. -/
structure Effect (store later : ActivationStore)
    (result : Except ProviderReadyActivationError StoreAnswer) : Prop where
  sound : later.Sound
  advances : Advances store.durable later.durable
  changes : Changes store later result

theorem Effect.refused {error : ProviderReadyActivationError} (sound : store.Sound) :
    Effect store store (.error error) := ⟨sound, .refl, .inl rfl⟩

theorem validateUnixMs_ok {value : IntegerArgument} {fieldName : String} {made : Counter}
    (validated : validateUnixMs value fieldName = .ok made) : value = .integer made.val := by
  unfold validateUnixMs at validated
  split at validated
  · split at validated
    · cases validated
      rfl
    · cases validated
  · cases validated

theorem validateGeneration_ok {value : IntegerArgument} {made : PositiveCounter}
    (validated : validateGeneration value = .ok made) : value = .integer made.val := by
  unfold validateGeneration at validated
  split at validated
  · split at validated
    · cases validated
      rfl
    · cases validated
  · cases validated

/-- An issued grant is recorded for the current set, under an id that was not live. -/
theorem issueSessionGrant_leads (sound : store.Sound) (request : IssueRequest)
    (tree : VerificationAnswers) :
    Leads (issueSessionGrant request tree) store
      (fun grant later => Effect store later (.ok (.issued grant)))
      (fun error later => Effect store later (.error error)) := by
  refine Leads.bind (Leads.demand (fun _ => ?_) fun _ => .refused sound)
  refine Leads.bind (Leads.lift (fun issuedAt _ => ?_) fun _ _ => .refused sound)
  refine Leads.bind (Leads.demand (fun _ => ?_) fun _ => .refused sound)
  refine authority_leads sound (fun grantSet middle authorized => ?_)
    fun error later sound' advances settles => ⟨sound', advances, settles⟩
  have advances : Advances store.durable middle.durable := authorized.durable ▸ .refl
  refine Leads.bind (Leads.get (Leads.bind (Leads.lift (fun grant made => ?_) fun _ _ => ?_)))
  · obtain ⟨bound, fresh, free⟩ := grant_ok made
    have now : middle.durable.currentRuntimeGeneration = some grant.runtimeGeneration := by
      rw [authorized.durable, bound.generation]
      exact sound.held grantSet authorized.current
    have set : middle.durable.currentGrantSet = some grantSet :=
      authorized.durable ▸ authorized.current
    refine Leads.bind (Leads.modify (Leads.pure ⟨?_, advances, grantSet, middle, authorized, free,
      rfl, bound, fresh⟩))
    exact authorized.sound.record ⟨_, now, Nat.le_refl _⟩ fun _ =>
      ⟨bound.generation ▸ authorized.observed, grantSet, set, bound⟩
  · exact ⟨authorized.sound, advances, authorized.settles⟩

/-- An accepted grant is live, bound to the current set and admitted; accepting changes nothing. -/
theorem acceptSessionGrant_leads (sound : store.Sound) (reference : GrantReference)
    (request : AcceptRequest) (tree : VerificationAnswers) :
    Leads (acceptSessionGrant reference request tree) store
      (fun grant later => Effect store later (.ok (.accepted grant)) ∧ reference.Names grant ∧
        ∃ currentSet ∈ store.durable.currentGrantSet,
          grant.BoundTo currentSet ∧ request.Admits grant currentSet)
      (fun error later => Effect store later (.error error)) := by
  refine Leads.bind (Leads.lift (fun generation generated => ?_) fun _ _ => .refused sound)
  refine Leads.bind (Leads.lift (fun now timed => ?_) fun _ _ => .refused sound)
  refine Leads.bind (Leads.get (Leads.bind (Leads.lift (fun stored found => ?_)
    fun _ _ => .refused sound)))
  refine Leads.bind (Leads.demand (fun valid => ?_) fun _ => .refused sound)
  obtain ⟨named, live⟩ := resolveSessionGrant_ok sound found
  refine authority_leads sound (fun currentSet middle authorized => ?_)
    fun error later sound' advances settles => ⟨sound', advances, settles⟩
  have advances : Advances store.durable middle.durable := authorized.durable ▸ .refl
  cases checked : (request.checks stored currentSet generation now).find? fun check => !check.2 with
  | some check => exact Leads.throw ⟨authorized.sound, advances, authorized.settles⟩
  | none =>
    have passed := List.find?_eq_none.mp checked
    simp only [AcceptRequest.checks, List.mem_cons, List.not_mem_nil, or_false, forall_eq_or_imp,
      forall_eq, Bool.not_eq_true', decide_eq_false_iff_not, not_not] at passed
    obtain ⟨asked, belongs, -, -, -, -, -, -, principal, session, -, capability, activation,
      profile, profileDigest, capabilityDigest, time⟩ := passed
    subst asked
    -- A live grant of the current generation was issued for the current set.
    have now' := sound.held currentSet authorized.current
    obtain ⟨observed, bound', set, bound⟩ := sound.current live (belongs ▸ now')
    cases authorized.current.symm.trans set
    have unchanged : middle = store := by
      have sessions : middle.sessions = store.sessions := by
        rcases authorized.settles with kept | ⟨generation, then', -, unseen, -⟩
        · exact kept
        · rw [authorized.durable, now', ← belongs] at then'
          exact absurd (observed.trans then') unseen
      have durable := authorized.durable
      cases middle
      cases sessions
      cases durable
      rfl
    have admits : request.Admits stored currentSet :=
      { generation := validateGeneration_ok generated
        principal, session, capability, activation, profile, profileDigest, capabilityDigest
        time := ⟨now.val, validateUnixMs_ok timed, by omega⟩ }
    have effect : Effect store middle (.ok (.accepted stored)) :=
      ⟨authorized.sound, advances, unchanged, valid, live, currentSet, set, bound⟩
    exact Leads.pure ⟨effect, named, currentSet, set, bound, admits⟩

/-- A revoked grant stays in its place with the mark of revocation. -/
theorem revokeSessionGrant_leads (sound : store.Sound) (reference : GrantReference) :
    Leads (revokeSessionGrant reference) store
      (fun grant later => Effect store later (.ok (.revoked grant)))
      (fun error later => Effect store later (.error error)) := by
  refine Leads.bind (Leads.get (Leads.bind (Leads.lift (fun stored found => ?_)
    fun _ _ => .refused sound)))
  obtain ⟨-, live⟩ := resolveSessionGrant_ok sound found
  refine Leads.bind (Leads.modify (Leads.pure ⟨?_, .refl, stored, live, rfl, rfl⟩))
  obtain ⟨current, was, below⟩ := sound.past live
  refine sound.record ⟨current, was, below⟩ fun now => ?_
  obtain ⟨observed, grantSet, set, bound⟩ := sound.current live now
  exact ⟨observed, grantSet, set, bound.revoke⟩

/-- A computation of the durable store reaches in the composed store what it reaches alone. -/
theorem onDurable_leads {α : Type}
    {program : EStateM ProviderReadyActivationError GenerationStore α}
    {returned : α → ActivationStore → Prop}
    {raised : ProviderReadyActivationError → ActivationStore → Prop}
    (leads : Leads program store.durable
      (fun value durable => returned value { store with durable })
      fun error durable => raised error { store with durable }) :
    Leads (onDurable program) store returned raised := by
  unfold Leads at leads ⊢
  unfold onDurable
  cases ran : program store.durable with
  | ok value durable => simpa only [ran] using leads
  | error error durable => simpa only [ran] using leads

/-- A publication observes its generation, and clears the sessions only when it is new to them. -/
theorem publish_leads (sound : store.Sound) (request : PublishRequest)
    (tree : PublicationAnswers) :
    Leads (publish request tree) store
      (fun result later => Effect store later (.ok (.published result)))
      (fun error later => Effect store later (.error error)) := by
  refine Leads.bind (onDurable_leads ((publishDurable_leads request tree sound.held).mono ?_ ?_))
  · intro result durable published
    obtain ⟨rfl, held, advances⟩ := published
    have advanced := sound.advance held advances
    refine Leads.bind (Leads.bind (Leads.get ?_))
    dsimp only
    split
    · next unseen =>
      have cleared := ActivationStore.Sound.clear advanced.held rfl
      refine Leads.modify (Leads.pure ⟨cleared, advances, .inr (.inr ⟨_, rfl, rfl, unseen.2, ?_⟩)⟩)
      exact fun _ _ found => advanced.outdated rfl unseen.2 found
    · -- The grants stay, of whatever generation they are.
      refine Leads.modify (Leads.pure ⟨?_, advances, .inl rfl⟩)
      refine ⟨held, advanced.named, advanced.past, fun observed is => ?_, fun found now => ?_⟩
      · cases is
        exact ⟨_, rfl, Nat.le_refl _⟩
      · exact ⟨now, (advanced.current found now).2⟩
  · intro error durable refused
    obtain ⟨held, advances⟩ := refused
    exact ⟨sound.advance held advances, advances, .inl rfl⟩

/-- Every call keeps the store sound, advances it and changes the sessions by its result. -/
theorem StoreCall.effect (sound : store.Sound) (call : StoreCall) :
    Effect store (call.step store) (call.result store) := by
  have leads : Leads call.perform store (fun answered later => Effect store later (.ok answered))
      (fun error later => Effect store later (.error error)) := by
    cases call with
    | publish request tree =>
      exact Leads.bind ((publish_leads sound request tree).mono
        (fun _ _ effect => Leads.pure effect) fun _ _ effect => effect)
    | verifyPersisted currentSet tree =>
      have verifies := verifyDurable_leads currentSet tree sound.held
      refine Leads.bind (onDurable_leads (verifies.mono ?_ ?_))
      · intro _ durable verified
        obtain ⟨-, held, advances⟩ := verified
        exact Leads.pure ⟨sound.advance held advances, advances, rfl⟩
      · intro error durable refused
        obtain ⟨held, advances⟩ := refused
        exact ⟨sound.advance held advances, advances, .inl rfl⟩
    | issue request tree =>
      exact Leads.bind ((issueSessionGrant_leads sound request tree).mono
        (fun _ _ effect => Leads.pure effect) fun _ _ effect => effect)
    | accept reference request tree =>
      exact Leads.bind ((acceptSessionGrant_leads sound reference request tree).mono
        (fun _ _ accepted => Leads.pure accepted.1) fun _ _ effect => effect)
    | revoke reference =>
      exact Leads.bind ((revokeSessionGrant_leads sound reference).mono
        (fun _ _ effect => Leads.pure effect) fun _ _ effect => effect)
  exact Leads.ends (fun answered later => Effect store later answered) leads

end Calls

section Runs

variable {store : ActivationStore} {grant : IssuedWorkbenchGrant} {grantId : String}
  {generation : PositiveCounter} {start : Option PositiveCounter}

/-- A run of calls on a new store. -/
abbrev runCalls (start : Option PositiveCounter) (calls : List StoreCall) : ActivationStore :=
  Runs.run StoreCall.step calls (.new start)

theorem runCalls_sound (calls : List StoreCall) : (runCalls start calls).Sound := by
  have preserved : ∀ (call : StoreCall) (store : ActivationStore), store.Sound →
      (call.step store).Sound := fun call _ sound => (call.effect sound).sound
  exact Runs.run_invariant preserved (.new start)

/-- Only a call that issues answers with an issued grant. -/
theorem StoreCall.issued_by {call : StoreCall}
    (issued : call.result store = .ok (.issued grant)) :
    ∃ request tree, call = .issue request tree := by
  unfold StoreCall.result StoreCall.perform at issued
  cases call with
  | issue request tree => exact ⟨request, tree, rfl⟩
  -- Every other call dresses up its result as another answer.
  | _ =>
    simp only [answer_bind_pure] at issued
    generalize answer _ store = answered at issued
    cases answered <;> cases issued

/-- A grant of the generation that is current after a call was of the one current before it. -/
theorem ActivationStore.Sound.unmoved (sound : store.Sound) {call : StoreCall}
    (now : (call.step store).durable.currentRuntimeGeneration = some grant.runtimeGeneration)
    (found : store.sessions.sessionGrants grantId = some grant) :
    store.durable.currentRuntimeGeneration = some grant.runtimeGeneration := by
  obtain ⟨current, was, below⟩ := sound.past found
  obtain ⟨next, then', above⟩ := (call.effect sound).advances.grows current was
  cases now.symm.trans then'
  have equal : current = grant.runtimeGeneration := Subtype.ext (by omega)
  exact equal ▸ was

/-- A live grant after a call was issued or marked by it, or was live before it. -/
theorem StoreCall.live_before (sound : store.Sound) (call : StoreCall)
    (found : (call.step store).sessions.sessionGrants grantId = some grant)
    (valid : grant.revoked = false)
    (now : (call.step store).durable.currentRuntimeGeneration = some grant.runtimeGeneration) :
    call.result store = .ok (.issued grant) ∨
      (store.sessions.sessionGrants grantId = some grant ∧
        store.durable.currentRuntimeGeneration = some grant.runtimeGeneration ∧
        ∀ revoked, call.result store = .ok (.revoked revoked) →
          revoked.grantId ≠ grant.grantId) := by
  have changes := (call.effect sound).changes
  have named := (call.effect sound).sound.named found
  -- What was live already has kept its generation.
  have before (live : store.sessions.sessionGrants grantId = some grant) :=
    sound.unmoved now live
  have settled (settles : Settles store (call.step store)) :
      store.sessions.sessionGrants grantId = some grant := by
    rcases settles with same | ⟨observed, -, cleared, -, -⟩
    · exact same ▸ found
    · rw [cleared] at found
      cases found
  cases answered : call.result store with
  | error refused =>
    rw [answered] at changes
    exact .inr ⟨settled changes, before (settled changes), fun _ made => by cases made⟩
  | ok answer =>
    rw [answered] at changes
    cases answer with
    | published result =>
      have live : store.sessions.sessionGrants grantId = some grant := by
        rcases changes with same | settles
        · exact same ▸ found
        · exact settled settles
      exact .inr ⟨live, before live, fun _ made => by cases made⟩
    | verified =>
      have same : (call.step store).sessions = store.sessions := changes
      have live := same ▸ found
      exact .inr ⟨live, before live, fun _ made => by cases made⟩
    | accepted other =>
      have same : call.step store = store := changes.1
      rw [same] at found
      exact .inr ⟨found, before found, fun _ made => by cases made⟩
    | issued other =>
      obtain ⟨grantSet, middle, authorized, -, stepped, -, -⟩ := changes
      rw [stepped] at found
      simp only [SessionGrantOwner.record, Function.update_apply] at found
      split at found
      · exact .inl (by rw [Option.some.inj found])
      · -- The other grants are the ones that the observation left.
        have live : store.sessions.sessionGrants grantId = some grant := by
          rcases authorized.settles with same | ⟨observed, -, cleared, -, -⟩
          · exact same ▸ found
          · rw [cleared] at found
            cases found
        exact .inr ⟨live, before live, fun _ made => by cases made⟩
    | revoked other =>
      obtain ⟨stored, was, marked, stepped⟩ := changes
      rw [stepped] at found
      simp only [SessionGrantOwner.record, Function.update_apply] at found
      split at found
      · rw [← Option.some.inj found] at valid
        cases valid
      · next apart =>
        refine .inr ⟨found, before found, fun revoked made same => apart ?_⟩
        cases made
        rw [← named, ← same, marked]

/-- A grant that was issued in the generation still current, and that no call has revoked since. -/
def IssuedWithin (start : Option PositiveCounter) (calls : List StoreCall)
    (grant : IssuedWorkbenchGrant) : Prop :=
  ∃ before request tree after, calls = before ++ .issue request tree :: after ∧
    (StoreCall.issue request tree).result (runCalls start before) = .ok (.issued grant) ∧
    ∀ done call more, after = done ++ call :: more →
      let store := runCalls start (before ++ .issue request tree :: done)
      store.durable.currentRuntimeGeneration = some grant.runtimeGeneration ∧
        ∀ revoked, call.result store = .ok (.revoked revoked) → revoked.grantId ≠ grant.grantId

/-- Every valid grant of the current generation has been issued in it and not been revoked. -/
theorem issued_within (calls : List StoreCall)
    (found : (runCalls start calls).sessions.sessionGrants grantId = some grant)
    (valid : grant.revoked = false)
    (now : (runCalls start calls).durable.currentRuntimeGeneration =
      some grant.runtimeGeneration) : IssuedWithin start calls grant := by
  -- By induction on the calls from the last one, which issued the grant or met it live.
  induction calls using List.reverseRecOn with
  | nil => cases found
  | append_singleton calls call ih =>
    have sound : (runCalls start calls).Sound := runCalls_sound calls
    have stepped : runCalls start (calls ++ [call]) = call.step (runCalls start calls) :=
      Runs.run_append
    rw [stepped] at found now
    rcases call.live_before sound found valid now with issued | ⟨live, was, unrevoked⟩
    · obtain ⟨request, tree, rfl⟩ := StoreCall.issued_by issued
      refine ⟨calls, request, tree, [], rfl, issued, fun done call more split => ?_⟩
      exact absurd split (by simp)
    · obtain ⟨before, request, tree, after, rfl, issued, undisturbed⟩ := ih live was
      refine ⟨before, request, tree, after ++ [call], by simp, issued, ?_⟩
      intro done later more split
      rcases List.eq_nil_or_concat more with rfl | ⟨rest, last, rfl⟩
      · -- The last call is the one just considered.
        obtain ⟨rfl, same⟩ := List.append_inj' split rfl
        cases same
        exact ⟨was, unrevoked⟩
      · refine undisturbed done later rest ?_
        have same : after ++ [call] = (done ++ later :: rest) ++ [last] := by simpa using split
        exact (List.append_inj' same rfl).1

/-- Sessions that settle keep the grants of the generation that is current then. -/
theorem Settles.keeps {later : ActivationStore} (settles : Settles store later)
    (now : later.durable.currentRuntimeGeneration = some grant.runtimeGeneration)
    (found : store.sessions.sessionGrants grantId = some grant) :
    later.sessions.sessionGrants grantId = some grant := by
  rcases settles with same | ⟨observed, then', -, -, outdated⟩
  · exact same ▸ found
  · cases now.symm.trans then'
    exact absurd (outdated grantId grant found) (Nat.lt_irrefl _)

/-- A revoked grant stays in its place while its generation is current. -/
theorem StoreCall.revoked_stays (sound : store.Sound) (call : StoreCall)
    (found : store.sessions.sessionGrants grantId = some grant) (revoked : grant.revoked = true)
    (now : (call.step store).durable.currentRuntimeGeneration = some grant.runtimeGeneration) :
    (call.step store).sessions.sessionGrants grantId = some grant := by
  have changes := (call.effect sound).changes
  have named := sound.named found
  cases answered : call.result store with
  | error refused =>
    rw [answered] at changes
    exact Settles.keeps changes now found
  | ok answer =>
    rw [answered] at changes
    cases answer with
    | published result =>
      rcases changes with same | settles
      · exact same ▸ found
      · exact settles.keeps now found
    | verified =>
      have same : (call.step store).sessions = store.sessions := changes
      exact same ▸ found
    | accepted other =>
      have same : call.step store = store := changes.1
      rw [same]
      exact found
    | issued other =>
      -- The issued id was free, and the revoked grant has its own.
      obtain ⟨grantSet, middle, authorized, free, stepped, -, -⟩ := changes
      rw [stepped] at now ⊢
      have kept := authorized.settles.keeps now found
      have apart : grantId ≠ other.grantId.val := by
        intro same
        rw [← same, kept] at free
        cases free
      simpa only [SessionGrantOwner.record, Function.update_of_ne apart] using kept
    | revoked other =>
      obtain ⟨stored, was, marked, stepped⟩ := changes
      rw [stepped]
      by_cases same : grantId = stored.grantId.val
      · -- Revoking the grant again leaves its mark as it is.
        have equal : stored = grant := Option.some.inj (was.symm.trans (same ▸ found))
        have again : grant.revoke = grant := by
          cases grant
          cases revoked
          rfl
        rw [same, equal, again]
        exact Function.update_self _ _ _
      · have apart : grantId ≠ stored.revoke.grantId.val := same
        simpa only [SessionGrantOwner.record, Function.update_of_ne apart] using found

/-- An id is used up for a generation that has passed, or under a grant that stays revoked. -/
def Retired (grantId : String) (generation : PositiveCounter) (store : ActivationStore) : Prop :=
  (∃ current ∈ store.durable.currentRuntimeGeneration, generation.val < current.val) ∨
    ∃ grant, store.sessions.sessionGrants grantId = some grant ∧ grant.revoked = true ∧
      grant.runtimeGeneration = generation

/-- An id that is used up stays so. -/
theorem Retired.step (sound : store.Sound) (retired : Retired grantId generation store)
    (call : StoreCall) : Retired grantId generation (call.step store) := by
  have advances := (call.effect sound).advances
  rcases retired with ⟨current, was, below⟩ | ⟨grant, found, revoked, rfl⟩
  · obtain ⟨next, then', above⟩ := advances.grows current was
    exact .inl ⟨next, then', by omega⟩
  · obtain ⟨current, was, below⟩ := sound.past found
    obtain ⟨next, then', above⟩ := advances.grows current was
    by_cases passed : grant.runtimeGeneration.val < next.val
    · exact .inl ⟨next, then', passed⟩
    · have equal : next = grant.runtimeGeneration := Subtype.ext (by omega)
      subst equal
      exact .inr ⟨grant, call.revoked_stays sound found revoked then', revoked, rfl⟩

/-- An id that is used up is neither accepted nor issued in its generation. -/
theorem Retired.unanswered (sound : store.Sound) (retired : Retired grantId generation store)
    {call : StoreCall} (answers : call.result store = .ok (.accepted grant) ∨
      call.result store = .ok (.issued grant)) :
    ¬ (grant.grantId.val = grantId ∧ grant.runtimeGeneration = generation) := by
  intro same
  obtain ⟨rfl, rfl⟩ := same
  have effect := call.effect sound
  -- What is accepted or issued is of the current generation, and found valid or free.
  have fresh : store.durable.currentRuntimeGeneration = some grant.runtimeGeneration ∧
      ∀ other, store.sessions.sessionGrants grant.grantId.val = some other →
        other.runtimeGeneration = grant.runtimeGeneration → other.revoked = false := by
    have changes := effect.changes
    rcases answers with accepted | issued
    · rw [accepted] at changes
      obtain ⟨-, valid, live, currentSet, set, bound⟩ := changes
      refine ⟨bound.generation ▸ sound.held currentSet set, fun other found _ => ?_⟩
      cases live.symm.trans found
      exact valid
    · rw [issued] at changes
      obtain ⟨grantSet, middle, authorized, free, -, bound, -⟩ := changes
      have now : store.durable.currentRuntimeGeneration = some grant.runtimeGeneration :=
        bound.generation ▸ sound.held grantSet authorized.current
      refine ⟨now, fun other found equal => ?_⟩
      have kept := authorized.settles.keeps (authorized.durable ▸ equal ▸ now) found
      rw [free] at kept
      cases kept
  rcases retired with ⟨current, was, below⟩ | ⟨other, found, revoked, equal⟩
  · cases fresh.1.symm.trans was
    exact Nat.lt_irrefl _ below
  · rw [fresh.2 other found equal] at revoked
    cases revoked

/-- An accepted grant is the one presented, bound to the current set and admitted. -/
theorem accepted_bound (sound : store.Sound) {reference : GrantReference}
    {request : AcceptRequest} {tree : VerificationAnswers}
    (accepted : (StoreCall.accept reference request tree).result store = .ok (.accepted grant)) :
    reference.Names grant ∧ ∃ currentSet ∈ store.durable.currentGrantSet,
      grant.BoundTo currentSet ∧ request.Admits grant currentSet := by
  have answered : answer (acceptSessionGrant reference request tree) store = .ok grant := by
    unfold StoreCall.result StoreCall.perform at accepted
    simp only [answer_bind_pure] at accepted
    generalize answer _ store = answered at accepted ⊢
    cases answered <;> cases accepted
    rfl
  exact ((acceptSessionGrant_leads sound reference request tree).answered answered).2

/--
Session grants never outlive their authority.

In every run of publications, verifications, issues, acceptances and revocations, whatever the
authority tree answers: an accepted grant was issued in the generation still current and has not
been revoked since, it carries every binding of the current set, and what was presented matches it
while it is valid; a revoked id is neither accepted nor issued again in its generation; and a
refused call leaves the grants, or clears those of earlier generations for one newly observed.
-/
theorem session_grants_within_authority (start : Option PositiveCounter) (calls : List StoreCall) :
    let store := runCalls start calls
    (∀ reference request tree grant,
      (StoreCall.accept reference request tree).result store = .ok (.accepted grant) →
      IssuedWithin start calls grant ∧ grant.revoked = false ∧ reference.Names grant ∧
        ∃ currentSet ∈ ((StoreCall.accept reference request tree).step
            store).durable.currentGrantSet,
          grant.BoundTo currentSet ∧ request.Admits grant currentSet) ∧
    (∀ reference revoked,
      (StoreCall.revoke reference).result store = .ok (.revoked revoked) →
      ∀ (more : List StoreCall) (call : StoreCall) (grant : IssuedWorkbenchGrant),
        let later := Runs.run StoreCall.step more ((StoreCall.revoke reference).step store)
        call.result later = .ok (.accepted grant) ∨ call.result later = .ok (.issued grant) →
        ¬ (grant.grantId = revoked.grantId ∧
          grant.runtimeGeneration = revoked.runtimeGeneration)) ∧
    ∀ call error, StoreCall.result call store = .error error →
      Settles store (call.step store) := by
  intro store
  have sound : store.Sound := runCalls_sound calls
  refine ⟨fun reference request tree grant accepted => ?_,
    fun reference revoked marked more call grant => ?_, fun call error refused => ?_⟩
  · obtain ⟨named, currentSet, set, bound, admits⟩ := accepted_bound sound accepted
    have effect := (StoreCall.accept reference request tree).effect sound
    have changes := effect.changes
    rw [accepted] at changes
    obtain ⟨same, valid, live, -⟩ := changes
    have now : store.durable.currentRuntimeGeneration = some grant.runtimeGeneration :=
      bound.generation ▸ sound.held currentSet set
    refine ⟨issued_within calls live valid now, valid, named, currentSet, ?_, bound, admits⟩
    rw [same]
    exact set
  · intro later answers same
    have effect := (StoreCall.revoke reference).effect sound
    have changes := effect.changes
    rw [marked] at changes
    obtain ⟨stored, live, rfl, stepped⟩ := changes
    -- The revoked grant is in its place right after the call, and from there on.
    have placed : Retired stored.grantId.val stored.runtimeGeneration
        ((StoreCall.revoke reference).step store) := by
      refine .inr ⟨stored.revoke, ?_, rfl, rfl⟩
      rw [stepped]
      exact Function.update_self _ _ _
    have preserved : ∀ (call : StoreCall) (state : ActivationStore),
        state.Sound ∧ Retired stored.grantId.val stored.runtimeGeneration state →
        (call.step state).Sound ∧
          Retired stored.grantId.val stored.runtimeGeneration (call.step state) :=
      fun call _ held => ⟨(call.effect held.1).sound, held.2.step held.1 call⟩
    have both : later.Sound ∧ Retired stored.grantId.val stored.runtimeGeneration later :=
      Runs.run_invariant preserved ⟨effect.sound, placed⟩
    exact both.2.unanswered both.1 answers ⟨congrArg Subtype.val same.1, same.2⟩
  · have changes := (call.effect sound).changes
    rw [refused] at changes
    exact changes

/-- A grant set of the first generation, for one principal and one capability. -/
def Sample.grantSet : WorkbenchGrantSet where
  runtimeGeneration := ⟨1, by decide⟩
  activationGeneration := ⟨1, by decide⟩
  profileId := ⟨"profile", by decide⟩
  profileDigest := "profile"
  activationAuthorityDigest := "authority"
  capabilityDigest := "capabilities"
  routeCatalogDigest := "routes"
  principalIds := [⟨"principal", by decide⟩]
  capabilities := [⟨"model.request", by decide⟩]
  budgetCeiling := ⟨1000, 1, ⟨0, by decide⟩, ⟨0, by decide⟩, 0, 0, by decide, by decide, by decide,
    by decide⟩
  maxTtlMs := 1000
  grantSetDigest := "set"
  ttl := by decide

/-- A tree that answers with the sample set. -/
def Sample.verification : VerificationAnswers := ⟨.ok [Sample.grantSet], .ok Sample.grantSet⟩

/-- A session's request for a grant of one second. -/
def Sample.issue : IssueRequest where
  principalId := "principal"
  sessionId := "session"
  capability := "model.request"
  issuedAtUnixMs := .integer 5
  policyApproved := true
  ttlMs := some (.integer 1000)
  grantId := some "grant"
  drawnId := "drawn"

/-- What the session presents with its grant. -/
def Sample.accept : AcceptRequest where
  principalId := "principal"
  sessionId := "session"
  capability := some "model.request"
  runtimeGeneration := .integer 1
  nowUnixMs := .integer 5

-- A grant is accepted after it is issued, and no more after it is revoked.
example :
    let published : StoreCall :=
      .publish ⟨Sample.grantSet, none, none, none, none, none, none, none⟩
        ⟨.ok [], .ok none, .ok Sample.grantSet⟩
    let issued := runCalls none [published, .issue Sample.issue Sample.verification]
    let accept : StoreCall := .accept (.identifier "grant") Sample.accept Sample.verification
    (accept.result issued).toBool = true ∧
      (accept.result ((StoreCall.revoke (.identifier "grant")).step issued)).toBool = false := by
  decide +kernel

end Runs

end Aar.Activation
