import Aar.Proofs.BrokerCalls

/-! Broker spending stays within the budget as long as calls with a usage come one after another. -/

namespace Aar.Broker

open Guarded Table BrokerJournal

theorem counter_add {counter : String × (BrokerUsage → Nat) × (Budget → Nat)}
    (listed : counter ∈ counters) (first second : BrokerUsage) :
    counter.2.1 (first.add second) = counter.2.1 first + counter.2.1 second := by
  simp only [counters, List.mem_cons, List.not_mem_nil, or_false] at listed
  rcases listed with rfl | rfl | rfl | rfl | rfl <;> rfl

theorem counter_empty {counter : String × (BrokerUsage → Nat) × (Budget → Nat)}
    (listed : counter ∈ counters) : counter.2.1 {} = 0 := by
  simp only [counters, List.mem_cons, List.not_mem_nil, or_false] at listed
  rcases listed with rfl | rfl | rfl | rfl | rfl <;> rfl

/-- What a call adds to a sum over the calls that satisfy a condition. -/
def charge (counted : BrokerCall → Prop) [DecidablePred counted] (counter : BrokerUsage → Nat)
    (call : BrokerCall) : Nat :=
  if counted call then counter call.usage else 0

/-- The sum of a counter over the calls that are not started. -/
def spent (counter : BrokerUsage → Nat) (calls : List BrokerCall) : Nat :=
  (calls.map (charge (·.state ≠ .started) counter)).sum

/-- The usage an admission reads is the sum over the calls that are not started. -/
theorem usage_ok {calls : List BrokerCall} {used : BrokerUsage} (ran : usage calls = .ok used)
    {counter : String × (BrokerUsage → Nat) × (Budget → Nat)} (listed : counter ∈ counters) :
    counter.2.1 used = spent counter.2.1 calls := by
  -- The total read so far and the calls that are left make up the sum.
  have along : ∀ (rest : List BrokerCall) (total : BrokerUsage),
      rest.foldlM (fun total call => if call.state = .started then .ok total
        else total.plus call.usage) total = .ok used →
      counter.2.1 used = counter.2.1 total + spent counter.2.1 rest := by
    intro rest
    induction rest with
    | nil =>
      intro total read
      simp only [List.foldlM_nil, pure_ok] at read
      simp [spent, read]
    | cons call rest ih =>
      intro total read
      simp only [List.foldlM_cons, bind_ok] at read
      obtain ⟨next, added, read⟩ := read
      have later := ih next read
      by_cases started : call.state = .started
      · simp only [started, if_true, Except.ok.injEq] at added
        subst added
        simpa [spent, charge, started] using later
      · simp only [if_neg started, BrokerUsage.plus, bind_ok, require_ok, pure_ok] at added
        obtain ⟨_, -, rfl⟩ := added
        rw [counter_add listed] at later
        simp only [spent, List.map_cons, List.sum_cons, charge, ne_eq, started, not_false_eq_true,
          if_true] at later ⊢
        omega
  have read := along calls {} ran
  rwa [counter_empty listed, Nat.zero_add] at read

theorem Fits.within {budget : Budget} {used more : BrokerUsage} (fits : Fits budget used more)
    {counter : String × (BrokerUsage → Nat) × (Budget → Nat)} (listed : counter ∈ counters) :
    counter.2.1 used + counter.2.1 more ≤ counter.2.2 budget := by
  rw [← counter_add listed]
  exact fits.2 counter listed

/-- A row of a pass is still the row it was read as, as far as sequence and method go. -/
def Known (calls : List BrokerCall) (row : BrokerCall) : Prop :=
  ∃ stored ∈ calls, stored.sequence = row.sequence ∧ stored.method = row.method

/-- The budget behind a waiting invocation: its call holds its usage, on top of what it read. -/
structure Backed (budget : Budget) (calls : List BrokerCall) (call : AdmittedCall) : Prop where
  fits : Fits budget call.currentUsage call.invocation.usage
  usage : ∀ row ∈ calls, row.sequence = call.sequence → row.state = .started →
    row.usage = call.invocation.usage
  current : ∀ row ∈ calls, row.sequence = call.sequence → row.state = .started → row.usage ≠ {} →
    ∀ counter ∈ counters, counter.2.1 call.currentUsage = spent counter.2.1 calls

/-- What a pass has decided spends nothing on a call that is not a model call, and what it spends on
a started one still fits. -/
def Affordable (budget : Budget) (calls : List BrokerCall) (row : BrokerCall) : Decision → Prop
  | .resolve _ (some committedUsage) _ _ => row.method = .modelRequest ∧
    ∀ stored ∈ calls, stored.sequence = row.sequence → stored.state = .started →
      ∀ counter ∈ counters,
        spent counter.2.1 calls + counter.2.1 committedUsage ≤ counter.2.2 budget
  | .unresolved _ _ _ (some _) => row.method = .modelRequest
  | .resolve _ none _ _ | .unresolved _ _ _ none => True

/-- What holds of a flight over the calls of a funded journal. -/
def Founded (budget : Budget) (calls : List BrokerCall) : BrokerFlight → Prop
  | .admitted call => Backed budget calls call ∧ (call.invocation.checked →
    ∀ row ∈ calls, row.sequence = call.sequence → row.method = .effectPropose)
  | .calling call => Backed budget calls call
  | .settling _ _ _ => True
  | .passing rows => ∀ row ∈ rows, Known calls row
  | .deciding row decision rows =>
    Known calls row ∧ Affordable budget calls row decision ∧ ∀ row ∈ rows, Known calls row

/-- The calls of a journal whose spending is under control: at most one started call has a usage, and
the budget holds it on top of what is spent. -/
structure FundedCalls (budget : Budget) (calls : List BrokerCall) : Prop where
  single : ∀ row ∈ calls, ∀ other ∈ calls, row.state = .started → other.state = .started →
    row.usage ≠ {} → other.usage ≠ {} → row.sequence = other.sequence
  reserved : ∀ row ∈ calls, row.state = .started → row.usage ≠ {} → ∀ counter ∈ counters,
    spent counter.2.1 calls + counter.2.1 row.usage ≤ counter.2.2 budget
  rejected : ∀ row ∈ calls, row.state = .rejectedBeforeSend →
    row.usage = {} ∧ row.method = .effectPropose
  metered : ∀ row ∈ calls, row.method = .modelRequest → row.state = .started → row.usage ≠ {}

/-- How calls go on so that what holds of a flight stays: a started call was started with the same
usage, or is new, or was rejected; and what is spent is the same while a started call has a usage. -/
structure Continues (calls calls' : List BrokerCall) : Prop where
  known : ∀ row ∈ calls, ∃ row' ∈ calls', row'.sequence = row.sequence ∧ row'.method = row.method
  started : ∀ row' ∈ calls', row'.state = .started →
    (∀ row ∈ calls, row.sequence ≠ row'.sequence) ∨
      ∃ row ∈ calls, row.sequence = row'.sequence ∧
        (row.state = .started ∧ row.usage = row'.usage ∨ row.state = .rejectedBeforeSend)
  spent : ∀ row' ∈ calls', row'.state = .started → row'.usage ≠ {} → ∀ counter ∈ counters,
    spent counter.2.1 calls' = spent counter.2.1 calls

section Continuing

variable {budget : Budget} {calls calls' : List BrokerCall} {row row' : BrokerCall}
  {call : AdmittedCall} {decision : Decision}

theorem Known.continues (known : Known calls row) (continues : Continues calls calls') :
    Known calls' row := by
  obtain ⟨stored, member, sequence, method⟩ := known
  obtain ⟨stored', there, same, kept⟩ := continues.known stored member
  exact ⟨stored', there, same.trans sequence, kept.trans method⟩

/-- A waiting invocation stays backed, as long as its row was there and was not rejected. -/
theorem Backed.continues (backed : Backed budget calls call) (continues : Continues calls calls')
    (there : ∃ row ∈ calls, row.sequence = call.sequence)
    (waits : ∀ row ∈ calls, row.sequence = call.sequence → row.state ≠ .rejectedBeforeSend) :
    Backed budget calls' call := by
  have before : ∀ row' ∈ calls', row'.sequence = call.sequence → row'.state = .started →
      ∃ row ∈ calls, row.sequence = call.sequence ∧ row.state = .started ∧
        row.usage = row'.usage := by
    intro row' member same started
    obtain ⟨stored, member', at_⟩ := there
    rcases continues.started row' member started with fresh | ⟨row, old, named, state⟩
    · exact absurd (at_.trans same.symm) (fresh stored member')
    · rcases state with ⟨state, usage⟩ | state
      · exact ⟨row, old, named.trans same, state, usage⟩
      · exact absurd state (waits row old (named.trans same))
  refine ⟨backed.fits, fun row' member same started => ?_,
    fun row' member same started charged counter listed => ?_⟩
  · obtain ⟨row, old, at_, state, usage⟩ := before row' member same started
    exact usage.symm.trans (backed.usage row old at_ state)
  · obtain ⟨row, old, at_, state, usage⟩ := before row' member same started
    rw [continues.spent row' member started charged counter listed]
    exact backed.current row old at_ state (usage ▸ charged) counter listed

/-- A decision of a pass stays affordable. -/
theorem Affordable.continues (affordable : Affordable budget calls row decision)
    (funded : FundedCalls budget calls) (funded' : FundedCalls budget calls')
    (keyed : Keyed BrokerCall.sequence calls) (keyed' : Keyed BrokerCall.sequence calls')
    (continues : Continues calls calls') (known : Known calls row) :
    Affordable budget calls' row decision := by
  cases decision with
  | unresolved _ _ _ committedUsage =>
    cases committedUsage
    · trivial
    · exact affordable
  | resolve _ committedUsage _ _ =>
    cases committedUsage with
    | none => trivial
    | some committedUsage =>
      obtain ⟨method, affordable⟩ := affordable
      refine ⟨method, fun stored' member same started counter listed => ?_⟩
      obtain ⟨stored, old, at_, kept⟩ := known
      obtain ⟨again, there, same', method'⟩ := continues.known stored old
      -- The started row is the model call the pass read, so it was started before and is charged.
      obtain rfl := keyed'.unique member there (same.trans (same'.trans at_).symm)
      have charged := funded'.metered stored' member
        (method'.trans (kept.trans method)) started
      have state : stored.state = .started := by
        rcases continues.started stored' member started with fresh | ⟨row, old', named, state⟩
        · exact absurd same'.symm (fresh stored old)
        · obtain rfl := keyed.unique old' old (named.trans same')
          rcases state with ⟨state, -⟩ | state
          · exact state
          · have effect := (funded.rejected row old state).2
            rw [kept, method] at effect
            cases effect
      rw [continues.spent stored' member started charged counter listed]
      exact affordable stored old at_ state counter listed

theorem spent_replace (replaces : Replaces BrokerCall.sequence row row' calls calls')
    (counter : BrokerUsage → Nat) :
    spent counter calls' + charge (·.state ≠ .started) counter row =
      spent counter calls + charge (·.state ≠ .started) counter row' :=
  replaces.sum _

/-- Calls stay funded when one of them ends or is marked: an end spends only what was reserved. -/
theorem FundedCalls.replace (funded : FundedCalls budget calls)
    (replaces : Replaces BrokerCall.sequence row row' calls calls')
    (method : row'.method = row.method)
    (started : row'.state = .started → row.state = .started ∧ row'.usage = row.usage)
    (uncharged : row.state = .started → row'.state ≠ .started → row.usage = {} → row'.usage = {})
    (kept : row.state ≠ .started → row'.usage = row.usage)
    (rejected : row'.state = .rejectedBeforeSend →
      row'.usage = {} ∧ row'.method = .effectPropose) :
    FundedCalls budget calls' ∧ Continues calls calls' := by
  have origin : ∀ other ∈ calls', other = row' ∨ (other ∈ calls ∧ other.sequence ≠ row.sequence) :=
    fun other => replaces.mem.mp
  -- While a started call has a usage, an end of another call spends nothing.
  have same : ∀ other ∈ calls', other.state = .started → other.usage ≠ {} →
      ∀ counter ∈ counters, spent counter.2.1 calls' = spent counter.2.1 calls := by
    intro other member state charged counter listed
    have changed := spent_replace replaces counter.2.1
    by_cases before : row.state = .started
    · by_cases after : row'.state = .started
      · simpa [charge, before, after] using changed
      · have empty : row.usage = {} := by
          rcases origin other member with rfl | ⟨old, apart⟩
          · exact absurd state after
          · by_contra charged'
            exact apart (funded.single other old row replaces.old state before charged charged')
        simpa [charge, before, after, uncharged before after empty, counter_empty listed]
          using changed
    · have after : row'.state ≠ .started := fun state => before (started state).1
      simpa [charge, before, after, kept before] using changed
  -- A started call of the new table was started with the same usage.
  have earlier : ∀ other ∈ calls', other.state = .started → ∃ old ∈ calls,
      old.sequence = other.sequence ∧ old.state = .started ∧ old.usage = other.usage ∧
        old.method = other.method := by
    intro other member state
    rcases origin other member with rfl | ⟨old, -⟩
    · obtain ⟨before, usage⟩ := started state
      exact ⟨row, replaces.old, replaces.named.symm, before, usage.symm, method.symm⟩
    · exact ⟨other, old, rfl, state, rfl, rfl⟩
  refine ⟨⟨fun first one second two state state' charged charged' => ?_,
    fun other member state charged counter listed => ?_, fun other member state => ?_,
    fun other member model state => ?_⟩, fun stored member => ?_, fun other member state => ?_, same⟩
  · obtain ⟨old, there, at_, before, usage, -⟩ := earlier first one state
    obtain ⟨old', there', at', before', usage', -⟩ := earlier second two state'
    rw [← at_, ← at']
    exact funded.single old there old' there' before before' (usage ▸ charged) (usage' ▸ charged')
  · obtain ⟨old, there, -, before, usage, -⟩ := earlier other member state
    rw [same other member state charged counter listed, ← usage]
    exact funded.reserved old there before (usage ▸ charged) counter listed
  · rcases origin other member with rfl | ⟨old, -⟩
    · exact rejected state
    · exact funded.rejected other old state
  · obtain ⟨old, there, -, before, usage, kind⟩ := earlier other member state
    rw [← usage]
    exact funded.metered old there (kind.trans model) before
  · by_cases here : stored.sequence = row.sequence
    · obtain rfl := replaces.only member here
      exact ⟨row', replaces.mem.mpr (.inl rfl), replaces.named, method⟩
    · exact ⟨stored, replaces.mem.mpr (.inr ⟨member, here⟩), rfl, rfl⟩
  · obtain ⟨old, there, at_, before, usage, -⟩ := earlier other member state
    exact .inr ⟨old, there, at_, .inl ⟨before, usage⟩⟩

/-- Calls stay funded when one more is started that the budget holds. -/
theorem FundedCalls.start (funded : FundedCalls budget calls)
    (origin : ∀ other ∈ calls', other = row' ∨ other ∈ calls)
    (same : ∀ counter ∈ counters, spent counter.2.1 calls' = spent counter.2.1 calls)
    (begun : row'.state = .started)
    (fits : ∀ counter ∈ counters,
      spent counter.2.1 calls + counter.2.1 row'.usage ≤ counter.2.2 budget)
    (lone : row'.usage ≠ {} → ∀ other ∈ calls, other.state = .started → other.usage = {})
    (metered : row'.method = .modelRequest → row'.usage ≠ {}) : FundedCalls budget calls' := by
  refine ⟨fun first one second two state state' charged charged' => ?_,
    fun other member state charged counter listed => ?_, fun other member rejected => ?_,
    fun other member model state => ?_⟩
  · rcases origin first one with rfl | old <;> rcases origin second two with rfl | old'
    · rfl
    · exact absurd (lone charged second old' state') charged'
    · exact absurd (lone charged' first old state) charged
    · exact funded.single first old second old' state state' charged charged'
  · rw [same counter listed]
    rcases origin other member with rfl | old
    · exact fits counter listed
    · exact funded.reserved other old state charged counter listed
  · rcases origin other member with rfl | old
    · rw [begun] at rejected
      cases rejected
    · exact funded.rejected other old rejected
  · rcases origin other member with rfl | old
    · exact metered model
    · exact funded.metered other old model state

end Continuing

instance (budget : Budget) (used more : BrokerUsage) : Decidable (Fits budget used more) :=
  inferInstanceAs (Decidable (_ ∧ _))

/-- The invocation of a sequence has stored a success and has not ended. -/
def BrokerFlight.Settles (sequence : Nat) : BrokerFlight → Prop
  | settling call _ _ => call.sequence = sequence
  | _ => False

/-- The invocation of a sequence has stored a success that takes the total over the budget. -/
def BrokerFlight.Overdraws (budget : Budget) (sequence : Nat) : BrokerFlight → Prop
  | settling call _ usage => call.sequence = sequence ∧ ¬ Fits budget call.currentUsage usage
  | _ => False

instance (sequence : Nat) : DecidablePred (BrokerFlight.Settles sequence)
  | .settling call _ _ => inferInstanceAs (Decidable (call.sequence = sequence))
  | .admitted _ | .calling _ | .passing _ | .deciding _ _ _ => inferInstanceAs (Decidable False)

instance (budget : Budget) (sequence : Nat) : DecidablePred (BrokerFlight.Overdraws budget sequence)
  | .settling _ _ _ => inferInstanceAs (Decidable (_ ∧ _))
  | .admitted _ | .calling _ | .passing _ | .deciding _ _ _ => inferInstanceAs (Decidable False)

namespace BrokerSystem

variable {H : Hashing} {budget : Budget} {s s' : BrokerSystem} {flight : BrokerFlight}
  {call : AdmittedCall} {row row' : BrokerCall} {calls' : List BrokerCall}
  {response : BrokerResponse} {usage : BrokerUsage} {decision : Decision}

/-- A success of a sequence takes the total over the budget and has not been failed again. -/
def Overdrawn (budget : Budget) (s : BrokerSystem) (sequence : Nat) : Prop :=
  ∃ flight ∈ s.flights, flight.Overdraws budget sequence

instance (sequence : Nat) : Decidable (s.Overdrawn budget sequence) :=
  inferInstanceAs (Decidable (∃ flight ∈ s.flights, _))

/-- The sum of a counter over the successes that do not wait to be failed again. -/
def owned (budget : Budget) (counter : BrokerUsage → Nat) (s : BrokerSystem) : Nat :=
  (s.calls.map (charge (fun row => row.state = .succeeded ∧ ¬ s.Overdrawn budget row.sequence)
    counter)).sum

/-- A journal whose spending is under control. -/
structure Funded (budget : Budget) (s : BrokerSystem) : Prop where
  calls : FundedCalls budget s.calls
  flights : ∀ flight ∈ s.flights, Founded budget s.calls flight
  within : ∀ counter ∈ counters, owned budget counter.2.1 s ≤ counter.2.2 budget

theorem Funded.empty : Funded budget empty where
  calls := ⟨fun _ member => absurd member List.not_mem_nil,
    fun _ member => absurd member List.not_mem_nil, fun _ member => absurd member List.not_mem_nil,
    fun _ member => absurd member List.not_mem_nil⟩
  flights _ member := absurd member List.not_mem_nil
  within _ _ := Nat.zero_le _

/-- A sum over more calls is larger. -/
theorem charges_mono {counted wider : BrokerCall → Prop} [DecidablePred counted]
    [DecidablePred wider] {calls : List BrokerCall} (counter : BrokerUsage → Nat)
    (within : ∀ call ∈ calls, counted call → wider call) :
    (calls.map (charge counted counter)).sum ≤ (calls.map (charge wider counter)).sum := by
  induction calls with
  | nil => exact Nat.le_refl _
  | cons call rest ih =>
    have later := ih fun other member => within other (List.mem_cons_of_mem _ member)
    have first : charge counted counter call ≤ charge wider counter call := by
      by_cases holds : counted call
      · simp [charge, holds, within call List.mem_cons_self holds]
      · simp [charge, holds]
    simp only [List.map_cons, List.sum_cons]
    omega

theorem owned_le_spent (counter : BrokerUsage → Nat) : owned budget counter s ≤ spent counter s.calls :=
  charges_mono counter fun call _ holds => by simp [holds.1]

theorem owned_flights (counter : BrokerUsage → Nat)
    (overdrawn : ∀ sequence, s.Overdrawn budget sequence → s'.Overdrawn budget sequence)
    (same : s'.calls = s.calls) : owned budget counter s' ≤ owned budget counter s := by
  rw [owned, owned, same]
  exact charges_mono counter fun call _ holds => ⟨holds.1, fun beyond => holds.2 (overdrawn _ beyond)⟩

/-- A replaced row adds at most its own usage to the successes. -/
theorem owned_replace (budget : Budget) (replaces : Replaces BrokerCall.sequence row row' s.calls s'.calls)
    (overdrawn : ∀ sequence, sequence ≠ row.sequence → s.Overdrawn budget sequence →
      s'.Overdrawn budget sequence) (counter : BrokerUsage → Nat) :
    owned budget counter s' ≤ owned budget counter s +
      charge (fun row => row.state = .succeeded ∧ ¬ s'.Overdrawn budget row.sequence) counter row' := by
  have others : ∀ rows : List BrokerCall, (∀ other ∈ rows, other.sequence ≠ row.sequence) →
      (rows.map (charge (fun row => row.state = .succeeded ∧ ¬ s'.Overdrawn budget row.sequence)
        counter)).sum ≤
      (rows.map (charge (fun row => row.state = .succeeded ∧ ¬ s.Overdrawn budget row.sequence)
        counter)).sum := fun rows apart =>
    charges_mono counter fun call member holds =>
      ⟨holds.1, fun beyond => holds.2 (overdrawn _ (apart call member) beyond)⟩
  rw [owned, owned]
  generalize s.calls = rows at replaces
  generalize s'.calls = rows' at replaces
  cases replaces with
  | intro before after apart _ =>
    have left := others before fun other member => apart other (List.mem_append_left _ member)
    have right := others after fun other member => apart other (List.mem_append_right _ member)
    simp only [List.map_append, List.map_cons, List.sum_append, List.sum_cons]
    omega

theorem Overdrawn.leave {sequence : Nat} (beyond : s.Overdrawn budget sequence)
    (passed : ¬ flight.Overdraws budget sequence) :
    (s.leave flight).Overdrawn budget sequence := by
  obtain ⟨other, member, draws⟩ := beyond
  refine ⟨other, (List.mem_erase_of_ne ?_).mpr member, draws⟩
  rintro rfl
  exact passed draws

/-- A journal stays funded when a flight leaves that is not overdrawn. -/
theorem Funded.leave (funded : Funded budget s) (passed : ∀ sequence, ¬ flight.Overdraws budget sequence) :
    Funded budget (s.leave flight) where
  calls := funded.calls
  flights other member := funded.flights other (List.mem_of_mem_erase member)
  within counter listed := by
    have fewer : owned budget counter.2.1 (s.leave flight) ≤
        owned budget counter.2.1 s :=
      owned_flights _ (fun sequence beyond => beyond.leave (passed sequence)) rfl
    exact Nat.le_trans fewer (funded.within counter listed)

/-- A journal stays funded when a founded flight enters. -/
theorem Funded.enter (funded : Funded budget s) (founded : Founded budget s.calls flight) :
    Funded budget (s.enter flight) where
  calls := funded.calls
  flights other member := by
    rcases List.mem_cons.mp member with rfl | before
    · exact founded
    · exact funded.flights other before
  within counter listed := by
    have grows : ∀ sequence, s.Overdrawn budget sequence →
        (s.enter flight).Overdrawn budget sequence := fun _ ⟨other, member, draws⟩ =>
      ⟨other, List.mem_cons_of_mem _ member, draws⟩
    have fewer : owned budget counter.2.1 (s.enter flight) ≤
        owned budget counter.2.1 s := owned_flights _ grows rfl
    exact Nat.le_trans fewer (funded.within counter listed)

/-- A flight stays founded when the calls go on. -/
theorem Founded.continues (orderly : Orderly s) (keyed : Keyed BrokerCall.sequence calls')
    (funded : FundedCalls budget s.calls) (funded' : FundedCalls budget calls')
    (continues : Continues s.calls calls') (member : flight ∈ s.flights)
    (founded : Founded budget s.calls flight) : Founded budget calls' flight := by
  have there : ∀ call : AdmittedCall, flight.call = some call → ∃ row ∈ s.calls, row.sequence = call.sequence :=
    fun call about => (orderly.flying flight member call about).imp fun _ ⟨stored, same, _⟩ =>
      ⟨stored, same⟩
  have waits : ∀ call : AdmittedCall, flight.Waiting call.sequence → ∀ row ∈ s.calls,
      row.sequence = call.sequence → row.state ≠ .rejectedBeforeSend :=
    fun call waits row stored same => orderly.not_rejected member (same ▸ waits) stored
  have rows : ∀ rows : List BrokerCall, (∀ row ∈ rows, Known s.calls row) →
      ∀ row ∈ rows, Known calls' row := fun _ known row listed =>
    (known row listed).continues continues
  cases flight with
  | admitted call =>
    refine ⟨founded.1.continues continues (there call rfl) (waits call rfl),
      fun checked row stored same => ?_⟩
    obtain ⟨old, before, at_⟩ := there call rfl
    obtain ⟨again, here, same', method⟩ := continues.known old before
    obtain rfl := keyed.unique here stored ((same'.trans at_).trans same.symm)
    exact method.trans (founded.2 checked old before at_)
  | calling call => exact Backed.continues founded continues (there call rfl) (waits call rfl)
  | settling => trivial
  | passing listed => exact rows listed founded
  | deciding row decision listed =>
    obtain ⟨known, affordable, known'⟩ := founded
    exact ⟨known.continues continues,
      affordable.continues funded funded' orderly.keyed keyed continues known, rows listed known'⟩

/-- A journal stays funded when its calls go on within the budget; new flights are founded. -/
theorem Funded.moves (funded : Funded budget s) (orderly : Orderly s)
    (keyed : Keyed BrokerCall.sequence s'.calls) (funded' : FundedCalls budget s'.calls)
    (continues : Continues s.calls s'.calls)
    (flights : ∀ flight ∈ s'.flights, flight ∈ s.flights ∨ Founded budget s'.calls flight)
    (within : ∀ counter ∈ counters, owned budget counter.2.1 s' ≤ counter.2.2 budget) :
    Funded budget s' where
  calls := funded'
  flights flight member := by
    rcases flights flight member with before | founded
    · exact Founded.continues orderly keyed funded.calls funded' continues before
        (funded.flights flight before)
    · exact founded
  within := within

/-- A journal stays funded when a started call ends or is marked: what it spends was reserved. -/
theorem Funded.replace (funded : Funded budget s) (orderly : Orderly s)
    (replaces : Replaces BrokerCall.sequence row row' s.calls s'.calls)
    (flights : ∀ flight ∈ s'.flights, flight ∈ s.flights ∨ Founded budget s'.calls flight)
    (overdrawn : ∀ sequence, s.Overdrawn budget sequence → s'.Overdrawn budget sequence)
    (started : row.state = .started) (method : row'.method = row.method)
    (marked : row'.state = .started → row'.usage = row.usage)
    (uncharged : row'.state ≠ .started → row.usage = {} → row'.usage = {})
    (rejected : row'.state = .rejectedBeforeSend →
      row'.usage = {} ∧ row'.method = .effectPropose)
    (within : row'.state = .succeeded → row.usage ≠ {} → ¬ s'.Overdrawn budget row.sequence →
      ∀ counter ∈ counters,
        spent counter.2.1 s.calls + counter.2.1 row'.usage ≤ counter.2.2 budget) :
    Funded budget s' := by
  obtain ⟨funded', continues⟩ := funded.calls.replace replaces method
    (fun state => ⟨started, marked state⟩) (fun _ => uncharged) (absurd started) rejected
  refine funded.moves orderly (replaces.keyed orderly.keyed) funded' continues flights
    fun counter listed => ?_
  have grown := owned_replace budget replaces (fun sequence _ => overdrawn sequence) counter.2.1
  have owned' := funded.within counter listed
  have part : owned budget counter.2.1 s ≤ spent counter.2.1 s.calls := owned_le_spent _
  unfold charge at grown
  split at grown
  next counted =>
    by_cases empty : row.usage = {}
    · -- What had nothing reserved spends nothing.
      rw [uncharged (by simp [counted.1]) empty, counter_empty listed] at grown
      omega
    · have fits := within counted.1 empty (by rw [← replaces.named]; exact counted.2) counter listed
      omega
  next => omega

/-- A journal stays funded when a call is failed again that has not been started any more. -/
theorem Funded.demote {error : BrokerError} (funded : Funded budget s) (orderly : Orderly s)
    (found : callAt s.calls call.sequence = some row) (ended : row.Ended)
    (same : row.sequence = call.sequence) :
    Funded budget ((s.leave (.settling call response usage)).store
      (BrokerJournal.demote call.sequence error s.calls)) := by
  have replaces := patch_replaces (·.state = .succeeded) (demoted error) (fun _ => rfl)
    orderly.keyed found
  -- The replaced row keeps its method and its usage, and it has failed.
  have failed : (if row.state = .succeeded then demoted error row else row).state = .failed ∧
      (if row.state = .succeeded then demoted error row else row).usage = row.usage ∧
      (if row.state = .succeeded then demoted error row else row).method = row.method := by
    split
    next => exact ⟨rfl, rfl, rfl⟩
    next state => exact ⟨ended.resolve_left state, rfl, rfl⟩
  generalize (if row.state = .succeeded then demoted error row else row) = row' at replaces failed
  obtain ⟨state, kept, method⟩ := failed
  have opened : row.state ≠ .started := by rcases ended with state | state <;> simp [state]
  obtain ⟨funded', continues⟩ := funded.calls.replace replaces method
    (by simp [state]) (fun started => absurd started opened) (fun _ => kept) (by simp [state])
  refine funded.moves orderly (replaces.keyed orderly.keyed) funded' continues
    (fun flight member => .inl (List.mem_of_mem_erase member)) fun counter listed => ?_
  have apart : ∀ sequence, sequence ≠ row.sequence → s.Overdrawn budget sequence →
      ((s.leave (.settling call response usage)).store
        (BrokerJournal.demote call.sequence error s.calls)).Overdrawn budget sequence :=
    fun sequence apart beyond => Overdrawn.leave beyond fun draws =>
      apart (draws.1.symm.trans same.symm)
  have shrunk := owned_replace budget replaces apart counter.2.1
  have owned' := funded.within counter listed
  simp only [charge, state, reduceCtorEq, false_and, if_false, Nat.add_zero] at shrunk
  exact Nat.le_trans shrunk owned'

/-- What may happen without spending more than the budget: an answer meets a started call, a charge
is admitted while no started call has a usage, and no success that takes the total over the budget
is repeated, or left behind by a stop, before it is failed again. -/
def Prudent (budget : Budget) : BrokerEvent → BrokerSystem → Prop
  | .admitCall invocation _ _, s =>
    (∀ row ∈ s.calls, row.idempotencyKey = invocation.idempotencyKey →
      ¬ s.Overdrawn budget row.sequence) ∧
    (invocation.usage ≠ {} → (∀ row ∈ s.calls, row.idempotencyKey = invocation.idempotencyKey →
        row.state = .rejectedBeforeSend) →
      ∀ row ∈ s.calls, row.state = .started → row.usage = {})
  | .answer call answer, s => Timely (.answer call answer) s
  | .stop flight, s => flight ∈ s.flights → ∀ row ∈ s.calls, ¬ flight.Overdraws budget row.sequence
  | _, _ => True

theorem Prudent.timely {event : BrokerEvent} (prudent : Prudent budget event s) :
    Timely event s := by
  cases event
  case answer => exact prudent
  all_goals trivial

/-- A prudent stop leaves no success behind that is over the budget. -/
theorem Prudent.stop (prudent : Prudent budget (.stop flight) s) (orderly : Orderly s)
    (member : flight ∈ s.flights) (sequence : Nat) : ¬ flight.Overdraws budget sequence := by
  intro draws
  cases flight with
  | settling call =>
    obtain ⟨row, stored, -, same, -⟩ := orderly.located member rfl
    exact prudent member row stored ⟨same.symm, draws.2⟩
  | admitted | calling | passing | deciding => exact draws

/-- What a pass decides is affordable. -/
theorem decide_affordable {finding : Finding}
    (decides : BrokerJournal.decide budget s.calls row.method finding = some decision) :
    Affordable budget s.calls row decision := by
  cases finding with
  | unresolved =>
    cases decides
    trivial
  | recovered =>
    simp only [BrokerJournal.decide, Option.map_eq_some_iff] at decides
    obtain ⟨_, -, rfl⟩ := decides
    trivial
  | routed response committedUsage maxOutputTokens compensation =>
    simp only [BrokerJournal.decide] at decides
    split at decides
    next method =>
      simp only [Option.some.injEq, decideRouted] at decides
      subst decides
      split
      next => exact method
      next => trivial
      next limits =>
        split
        · exact method
        · refine ⟨method, fun stored member same started counter listed => ?_⟩
          simp only [bind_ok] at limits
          obtain ⟨used, read, total, added, within⟩ := limits
          have fits : Fits budget used committedUsage :=
            fits_iff.mp (by simp only [added, ok_bind, within])
          rw [← usage_ok read listed]
          exact Fits.within fits listed
    next => cases decides

/-- A journal stays funded when an invocation is admitted that the budget holds. -/
theorem Funded.start {invocation : Invocation} {used : BrokerUsage} (row' : BrokerCall)
    (funded : Funded budget s) (orderly : Orderly s) (keyed : Keyed BrokerCall.sequence calls')
    (origin : ∀ other ∈ calls', other = row' ∨ other ∈ s.calls)
    (known : ∀ row ∈ s.calls, ∃ row' ∈ calls', row'.sequence = row.sequence ∧
      row'.method = row.method)
    (here : row' ∈ calls') (begun : row'.state = .started) (holds : row'.usage = invocation.usage)
    (new : (∀ row ∈ s.calls, row.sequence ≠ row'.sequence) ∨
      ∃ row ∈ s.calls, row.sequence = row'.sequence ∧ row.state = .rejectedBeforeSend)
    (same : ∀ counter ∈ counters, spent counter.2.1 calls' = spent counter.2.1 s.calls)
    (owned' : ∀ counter, owned budget counter (s.store calls') ≤ owned budget counter s)
    (read : BrokerJournal.usage s.calls = .ok used) (fits : Fits budget used invocation.usage)
    (lone : invocation.usage ≠ {} → ∀ other ∈ s.calls, other.state = .started → other.usage = {})
    (metered : row'.method = .modelRequest → row'.usage ≠ {})
    (effect : invocation.checked → row'.method = .effectPropose) :
    Funded budget ((s.store calls').enter (.admitted ⟨invocation, row'.sequence, used⟩)) := by
  have room : ∀ counter ∈ counters,
      spent counter.2.1 s.calls + counter.2.1 row'.usage ≤ counter.2.2 budget :=
    fun counter listed => by
      rw [← usage_ok read listed, holds]
      exact Fits.within fits listed
  have funded' : FundedCalls budget calls' :=
    funded.calls.start origin same begun room (holds ▸ lone) metered
  have continues : Continues s.calls calls' := by
    refine ⟨known, fun other member state => ?_, fun _ _ _ _ => same⟩
    rcases origin other member with rfl | old
    · exact new.imp_right fun ⟨row, stored, named, state⟩ => ⟨row, stored, named, .inr state⟩
    · exact .inr ⟨other, old, rfl, .inl ⟨state, rfl⟩⟩
  have stored : Funded budget (s.store calls') :=
    funded.moves orderly keyed funded' continues (fun _ => .inl) fun counter listed =>
      Nat.le_trans (owned' _) (funded.within counter listed)
  -- The new row is the only one of its sequence.
  have only : ∀ other ∈ calls', other.sequence = row'.sequence → other = row' :=
    fun other member => keyed.unique member here
  refine stored.enter ⟨⟨fits, fun other member at_ _ => ?_, fun _ _ _ _ _ counter listed => ?_⟩,
    fun checked other member at_ => ?_⟩
  · rw [only other member at_, holds]
  · exact (usage_ok read listed).trans (same counter listed).symm
  · rw [only other member at_]
    exact effect checked

/-- A journal stays funded under a prudent admission. -/
theorem Funded.admitCall {invocation : Invocation} {authority : Except BrokerError Unit}
    {control : OperationControl} (funded : Funded budget s) (orderly : Orderly s)
    (prudent : Prudent budget (.admitCall invocation authority control) s) :
    Funded budget (s.admitCall H budget invocation authority control) := by
  simp only [BrokerSystem.admitCall]
  split
  next => exact funded
  next response calls ran =>
    cases BrokerJournal.admit_ok orderly.keyed ran with
    | replayed => exact ⟨funded.calls, funded.flights, funded.within⟩
  next sequence used calls ran =>
    cases BrokerJournal.admit_ok orderly.keyed ran with
    | @reopened row _ _ found named rejected unanswered read fits replaces =>
      obtain ⟨empty, effect⟩ := funded.calls.rejected row replaces.old rejected
      have lone : invocation.usage ≠ {} → ∀ other ∈ s.calls, other.state = .started →
          other.usage = {} := fun charged => prudent.2 charged fun other member at_ => by
        rw [orderly.named.unique member replaces.old (at_.trans named.symm)]
        exact rejected
      refine Funded.start (BrokerJournal.reopened invocation row) funded orderly (replaces.keyed orderly.keyed)
        (fun other member => (replaces.mem.mp member).imp_right And.left) ?_
        (replaces.mem.mpr (.inl rfl)) rfl rfl (.inr ⟨row, replaces.old, rfl, rejected⟩)
        (fun counter listed => ?_) (fun counter => ?_) read fits lone ?_ fun _ => effect
      · intro other member
        by_cases at_ : other.sequence = row.sequence
        · obtain rfl := replaces.only member at_
          exact ⟨_, replaces.mem.mpr (.inl rfl), rfl, rfl⟩
        · exact ⟨other, replaces.mem.mpr (.inr ⟨member, at_⟩), rfl, rfl⟩
      · have changed := spent_replace replaces counter.2.1
        simpa [charge, rejected, empty, counter_empty listed, BrokerJournal.reopened] using changed
      · have stored : Replaces BrokerCall.sequence row (BrokerJournal.reopened invocation row) s.calls
            (s.store calls).calls := replaces
        have grown := owned_replace budget stored (fun _ _ => id) counter
        simpa [charge, BrokerJournal.reopened] using grown
      · intro model
        cases effect.symm.trans model
    | inserted fresh read fits =>
      have unused := startedCall_fresh H invocation s.calls
      have lone : invocation.usage ≠ {} → ∀ other ∈ s.calls, other.state = .started →
          other.usage = {} := fun charged => prudent.2 charged fun other member at_ =>
        absurd at_ (fresh other member)
      refine Funded.start _ funded orderly (orderly.keyed.append (.added _ unused))
        (fun other member => ?_) (fun other member => ⟨other, List.mem_append_left _ member, rfl, rfl⟩)
        (List.mem_append_right _ List.mem_cons_self) rfl rfl (.inl unused) (fun counter listed => ?_)
        (fun counter => ?_) read fits lone (fun model empty => ?_)
        fun checked => (invocation.compensates checked).1
      · simpa [or_comm] using member
      · simp [spent, charge, startedCall]
      · simp only [owned, store, List.map_append, List.sum_append]
        simp only [charge, startedCall, Overdrawn, List.map_cons, List.map_nil, List.sum_cons,
          List.sum_nil, reduceCtorEq, false_and, if_false, Nat.add_zero]
        exact Nat.le_refl _
      · have one := invocation.charges model
        rw [show invocation.usage = {} from empty] at one
        cases one

/-- A journal stays funded between an admission and the provider. -/
theorem Funded.recheck {authority : Except BrokerError Unit} (funded : Funded budget s)
    (orderly : Orderly s) (member : .admitted call ∈ s.flights) :
    Funded budget ((s.leave (.admitted call)).recheck call authority) := by
  obtain ⟨row, stored, found, same, named⟩ := orderly.located member rfl
  obtain ⟨backed, effect⟩ := funded.flights _ member
  have left : Funded budget (s.leave (.admitted call)) := funded.leave fun _ => id
  have sent : Funded budget ((s.leave (.admitted call)).send call) := by
    have entered : Funded budget ((s.leave (.admitted call)).enter (.calling call)) :=
      left.enter backed
    exact ⟨entered.calls, entered.flights, entered.within⟩
  cases authority with
  | ok => exact sent
  | error error =>
    simp only [BrokerSystem.recheck]
    split
    next checked =>
      have replaces := patch_replaces (·.state = .started) (BrokerJournal.rejected error)
        (fun _ => rfl) orderly.keyed found
      by_cases started : row.state = .started
      · rw [if_pos started] at replaces
        exact left.replace (orderly.leave _) replaces (fun _ => .inl) (fun _ => id) started rfl
          (by intros; contradiction) (fun _ _ => rfl)
          (fun _ => ⟨rfl, effect checked row stored same⟩) (by intros; contradiction)
      · -- A call that has ended in the meantime stays as it is.
        rw [if_neg started] at replaces
        have unchanged : rejectBeforeSend call.sequence error s.calls = s.calls := replaces.same
        rw [show (s.leave (.admitted call)).calls = s.calls from rfl, unchanged]
        exact left
    next => exact sent

theorem limits_ok : limits budget call usage = .ok () ↔ Fits budget call.currentUsage usage :=
  fits_iff

/-- A journal stays funded when the answer of a provider meets a started call. -/
theorem Funded.answer {answer : CallAnswer} (funded : Funded budget s) (orderly : Orderly s)
    (member : .calling call ∈ s.flights) (timely : Timely (.answer call answer) s) :
    Funded budget ((s.leave (.calling call)).answer H budget call answer) := by
  obtain ⟨row, stored, found, same, named⟩ := orderly.located member rfl
  have backed : Backed budget s.calls call := funded.flights _ member
  have left : Funded budget (s.leave (.calling call)) := funded.leave fun _ => id
  have ordered := orderly.leave (.calling call)
  have fails : ∀ code action, row.state = .started → Funded budget
      ((s.leave (.calling call)).store (patchCell BrokerCall.sequence s.calls call.sequence
        (fun _ => True) (failed code action))) := by
    intro code action started
    have replaces := patch_replaces (fun _ => True) (failed code action) (fun _ => rfl)
      orderly.keyed found
    exact left.replace ordered replaces (fun _ => .inl) (fun _ => id) started rfl
      (by intros; contradiction) (fun _ _ => rfl) (by intros; contradiction)
      (by intros; contradiction)
  cases answer with
  | indeterminate => exact left
  | quarantined reasonCode => exact fails _ _ (timely (fun impossible => by cases impossible) member row stored same)
  | raised code => exact fails _ _ (timely (fun impossible => by cases impossible) member row stored same)
  | responded response committedUsage =>
    have started := timely (fun impossible => by cases impossible) member row stored same
    have holds := backed.usage row stored same started
    simp only [BrokerSystem.answer]
    split
    next =>
      -- What reports its usage is a model call, and a model call is admitted with a usage.
      have free : row.usage = {} → actualUsage call committedUsage = {} := by
        intro empty
        simp only [actualUsage]
        split
        next metered =>
          have one := call.invocation.charges (call.invocation.meters metered)
          rw [← holds, empty] at one
          cases one
        next => rw [← holds, empty]
      generalize actualUsage call committedUsage = usage at free ⊢
      have replaces := patch_replaces (fun _ => True) (succeeded H response usage) (fun _ => rfl)
        orderly.keyed found
      have answered : Replaces BrokerCall.sequence row (succeeded H response usage row) _ _ :=
        replaces
      refine left.replace ordered answered (fun flight there => ?_) ?_ started rfl
        (by intros; contradiction) (fun _ => free) (by intros; contradiction)
        fun _ charged passed counter listed => ?_
      · rcases List.mem_cons.mp there with rfl | before
        · exact .inr trivial
        · exact .inl before
      · intro sequence drawn
        obtain ⟨other, there, draws⟩ := drawn
        exact ⟨other, List.mem_cons_of_mem _ there, draws⟩
      · have fits : Fits budget call.currentUsage usage := by
          by_contra beyond
          exact passed ⟨_, List.mem_cons_self, same.symm, beyond⟩
        rw [show (s.leave (.calling call)).calls = s.calls from rfl,
          ← backed.current row stored same started charged counter listed]
        exact Fits.within fits listed
    next => exact fails _ _ started

/-- A journal stays funded when an invocation whose success is stored ends. -/
theorem Funded.settle {postCheck : Except BrokerError Unit} (funded : Funded budget s)
    (orderly : Orderly s) (member : .settling call response usage ∈ s.flights) :
    Funded budget ((s.leave (.settling call response usage)).settle budget call response usage
      postCheck) := by
  obtain ⟨row, stored, found, same, named⟩ := orderly.located member rfl
  obtain ⟨other, there, at_, ended, -⟩ := orderly.settled call response usage member
  obtain rfl := orderly.keyed.unique there stored (at_.trans same.symm)
  simp only [BrokerSystem.settle]
  split
  next => exact funded.demote orderly found ended same
  next kept =>
    obtain ⟨_, within, -⟩ := bind_ok.mp kept
    have left : Funded budget (s.leave (.settling call response usage)) :=
      funded.leave fun _ draws => draws.2 (limits_ok.mp within)
    exact ⟨left.calls, left.flights, left.within⟩

/-- A journal stays funded when a pass carries a decision out. -/
theorem Funded.apply {rows : List BrokerCall} {authorityDigest : Digest} {now : Nat}
    (funded : Funded budget s) (orderly : Orderly s) (known : Known s.calls row)
    (affordable : Affordable budget s.calls row decision) (left : ∀ row ∈ rows, Known s.calls row) :
    Funded budget (s.apply H row decision rows authorityDigest now) := by
  -- The call of the pass is a model call when its usage is given, and then it holds a usage.
  have metered : ∀ stored ∈ s.calls, stored.sequence = row.sequence → stored.state = .started →
      row.method = .modelRequest → stored.usage ≠ {} := by
    intro stored member same started model
    obtain ⟨other, there, at_, method⟩ := known
    obtain rfl := orderly.keyed.unique member there (same.trans at_.symm)
    exact funded.calls.metered stored member (method.trans model) started
  simp only [BrokerSystem.apply]
  split
  next => exact funded
  next calls ran =>
    have passes : ∀ s' : BrokerSystem, Funded budget s' → Carries (fun row row' =>
        row'.sequence = row.sequence ∧ row'.method = row.method) s.calls s'.calls →
        Funded budget (s'.enter (.passing rows)) := by
      intro s' funded' carries
      refine funded'.enter fun row listed => ?_
      obtain ⟨stored, member, same, method⟩ := left row listed
      obtain ⟨stored', there, same', method'⟩ := carries stored member
      exact ⟨stored', there, same'.trans same, method'.trans method⟩
    cases apply_ok orderly.keyed ran with
    | nothing => exact passes _ funded (Carries.refl fun _ => ⟨rfl, rfl⟩)
    | @resolved stored _ response committedUsage _ _ reconciliation found started _ replaces =>
      have same : stored.sequence = row.sequence := (cell_some found).2
      refine passes (s.store calls) ?_ (replaces.carries (fun _ => ⟨rfl, rfl⟩) ⟨rfl, rfl⟩)
      refine funded.replace orderly replaces (fun _ => .inl) (fun _ => id) started rfl
        (by intros; contradiction) (fun _ empty => ?_) (by intros; contradiction)
        fun _ charged _ => ?_
      · cases committedUsage with
        | none => exact empty
        | some => exact absurd empty (metered stored replaces.old same started affordable.1)
      · cases committedUsage with
        | none => exact funded.calls.reserved stored replaces.old started charged
        | some => exact affordable.2 stored replaces.old same started
    | @unresolved stored _ committedUsage action _ _ reconciliation found started _ replaces =>
      have same : stored.sequence = row.sequence := (cell_some found).2
      refine passes (s.store calls) ?_ (replaces.carries (fun _ => ⟨rfl, rfl⟩) ⟨rfl, rfl⟩)
      by_cases pending : reconciliation.action = .pending
      · -- The call stays started.
        have stays : (BrokerJournal.unresolved reconciliation committedUsage now stored).state =
            .started := by simp [BrokerJournal.unresolved, pending]
        refine funded.replace orderly replaces (fun _ => .inl) (fun _ => id) started rfl
          (fun _ => ?_) (absurd stays) (fun state => ?_) fun state => ?_
        · simp [BrokerJournal.unresolved, pending]
        · cases stays.symm.trans state
        · cases stays.symm.trans state
      · refine funded.replace orderly replaces (fun _ => .inl) (fun _ => id) started rfl
          (fun state => ?_) (fun _ empty => ?_) (fun state => ?_) fun state => ?_
        · simp [BrokerJournal.unresolved, pending] at state
        · cases committedUsage with
          | none => simp [BrokerJournal.unresolved, pending]
          | some => exact absurd empty (metered stored replaces.old same started affordable)
        · simp [BrokerJournal.unresolved, pending] at state
        · simp [BrokerJournal.unresolved, pending] at state

/-- One prudent step keeps a journal funded. -/
theorem Funded.step {event : BrokerEvent} (funded : Funded budget s) (orderly : Orderly s)
    (prudent : Prudent budget event s) : Funded budget (step H budget event s) := by
  have placed : ∀ (flight : BrokerFlight) (act : BrokerSystem → BrokerSystem),
      (flight ∈ s.flights → Funded budget (act (s.leave flight))) →
      Funded budget (s.from_ flight act) := fun _ _ => from_holds funded
  cases event <;> simp only [BrokerSystem.step]
  case admitCall => exact funded.admitCall orderly prudent
  case recheck call authority =>
    refine placed _ _ fun member => ?_
    exact funded.recheck orderly member
  case answer call answer =>
    refine placed _ _ fun member => ?_
    exact funded.answer orderly member prudent
  case settle call response usage postCheck =>
    refine placed _ _ fun member => ?_
    exact funded.settle orderly member
  case startPass =>
    refine funded.enter fun row member => ?_
    exact ⟨row, (List.mem_filter.mp member).1, rfl, rfl⟩
  case decide row rows finding =>
    refine placed _ _ fun member => ?_
    have known : ∀ other ∈ row :: rows, Known s.calls other := funded.flights _ member
    have left : Funded budget (s.leave (.passing (row :: rows))) := funded.leave fun _ => id
    split
    next => exact left
    next decision decides =>
      exact left.enter ⟨known row List.mem_cons_self, decide_affordable decides,
        fun other listed => known other (List.mem_cons_of_mem _ listed)⟩
  case apply row decision rows authorityDigest now =>
    refine placed _ _ fun member => ?_
    obtain ⟨known, affordable, later⟩ := funded.flights _ member
    have left : Funded budget (s.leave (.deciding row decision rows)) := funded.leave fun _ => id
    exact left.apply (orderly.leave _) known affordable later
  case stop flight =>
    by_cases member : flight ∈ s.flights
    · exact funded.leave (Prudent.stop prudent orderly member)
    · have kept : s.leave flight = s := by simp [BrokerSystem.leave, List.erase_of_not_mem member]
      rw [kept]
      exact funded

/-- What holds of the successes over the budget: each is a call that has ended, that waits to be
failed again while it counts as succeeded, and whose response was never returned. -/
structure Honest (budget : Budget) (s : BrokerSystem) : Prop where
  alone : ∀ sequence, Flights.count (BrokerFlight.Settles sequence) s.flights ≤ 1
  settling : ∀ call response usage, .settling call response usage ∈ s.flights → ∀ row ∈ s.calls,
    row.sequence = call.sequence → row.state = .succeeded
  exceeded : ∀ key ∈ s.exceeded, ∃ row ∈ s.calls, row.idempotencyKey = key ∧ row.Ended ∧
    (row.state = .succeeded → s.Overdrawn budget row.sequence)
  kept : ∀ key ∈ s.exceeded, ∀ response, (key, response) ∉ s.returned

theorem Honest.empty : Honest budget empty where
  alone _ := Nat.zero_le _
  settling _ _ _ member := absurd member List.not_mem_nil
  exceeded _ member := absurd member List.not_mem_nil
  kept _ member := absurd member List.not_mem_nil

theorem Overdraws.settles {sequence : Nat} (draws : flight.Overdraws budget sequence) :
    flight.Settles sequence := by
  cases flight with
  | settling => exact draws.1
  | admitted | calling | passing | deciding => exact draws.elim

/-- The responses over the budget stay unreturned when a flight leaves that is not over it. -/
theorem Honest.leave (honest : Honest budget s)
    (passed : ∀ sequence, ¬ flight.Overdraws budget sequence) : Honest budget (s.leave flight) where
  alone sequence := Nat.le_trans Flights.count_leave_le (honest.alone sequence)
  settling call response usage member :=
    honest.settling call response usage (List.mem_of_mem_erase member)
  exceeded key member := by
    obtain ⟨row, stored, named, ended, beyond⟩ := honest.exceeded key member
    exact ⟨row, stored, named, ended, fun state => (beyond state).leave (passed _)⟩
  kept := honest.kept

/-- A flight that stores no success changes nothing about those over the budget. -/
theorem Honest.enter (honest : Honest budget s) (passed : ∀ sequence, ¬ flight.Settles sequence) :
    Honest budget (s.enter flight) where
  alone sequence := by
    have grown : Flights.count (BrokerFlight.Settles sequence) (s.enter flight).flights = _ :=
      Flights.count_enter _
    rw [grown, if_neg (passed sequence)]
    exact honest.alone sequence
  settling call response usage member := by
    rcases List.mem_cons.mp member with rfl | before
    · exact absurd rfl (passed call.sequence)
    · exact honest.settling call response usage before
  exceeded key member := by
    obtain ⟨row, stored, named, ended, beyond⟩ := honest.exceeded key member
    refine ⟨row, stored, named, ended, fun state => ?_⟩
    obtain ⟨other, there, draws⟩ := beyond state
    exact ⟨other, List.mem_cons_of_mem _ there, draws⟩
  kept := honest.kept

/-- A change that keeps the ended calls changes nothing about those over the budget. -/
theorem Honest.store (honest : Honest budget s) (orderly : Orderly s)
    (keyed : Keyed BrokerCall.sequence calls') (kept : ∀ row ∈ s.calls, row.Ended → row ∈ calls') :
    Honest budget (s.store calls') where
  alone := honest.alone
  settling call response usage member row there same := by
    obtain ⟨stored, old, at_, ended, -⟩ := orderly.settled call response usage member
    obtain rfl := keyed.unique there (kept stored old ended) (same.trans at_.symm)
    exact honest.settling call response usage member row old same
  exceeded key member := by
    obtain ⟨row, stored, named, ended, beyond⟩ := honest.exceeded key member
    exact ⟨row, kept row stored ended, named, ended, beyond⟩
  kept := honest.kept

theorem keeps_ended (replaces : Replaces BrokerCall.sequence row row' s.calls calls')
    (opened : ¬ row.Ended) : ∀ other ∈ s.calls, other.Ended → other ∈ calls' := by
  refine fun other member ended => replaces.mem.mpr (.inr ⟨member, fun same => opened ?_⟩)
  rw [← replaces.only member same]
  exact ended

/-- The success of a started call joins those over the budget exactly when the budget does not hold
it. -/
theorem Honest.succeed (honest : Honest budget s) (orderly : Orderly s) (member : row ∈ s.calls)
    (same : row.sequence = call.sequence)
    (named : row.idempotencyKey = call.invocation.idempotencyKey) (started : row.state = .started) :
    Honest budget (s.succeed H budget call response usage) := by
  have found : callAt s.calls row.sequence = some row := orderly.keyed.fetch member
  rw [same] at found
  have replaces := patch_replaces (fun _ => True) (succeeded H response usage) (fun _ => rfl)
    orderly.keyed found
  rw [if_pos trivial] at replaces
  have opened := BrokerCall.not_ended_of_started started
  have keyed := replaces.keyed orderly.keyed
  have here := replaces.mem.mpr (.inl rfl)
  have stored : Honest budget (s.store (recordSucceeded H call.sequence response usage s.calls)) :=
    honest.store orderly keyed (keeps_ended replaces opened)
  -- A started call has no success that waits for its end.
  have free : Flights.count (BrokerFlight.Settles call.sequence) s.flights = 0 := by
    refine Flights.count_eq_zero.mpr fun flight there settles => ?_
    cases flight with
    | settling other response usage =>
      have state := honest.settling other response usage there row member (same.trans settles.symm)
      cases started.symm.trans state
    | admitted | calling | passing | deciding => exact settles.elim
  have older : ∀ {exceeded : List String}, ∀ key ∈ s.exceeded, ∃ row ∈
      recordSucceeded H call.sequence response usage s.calls, row.idempotencyKey = key ∧ row.Ended ∧
        (row.state = .succeeded → Overdrawn budget
          { (s.store (recordSucceeded H call.sequence response usage s.calls)).enter
              (.settling call response usage) with exceeded } row.sequence) := by
    intro _ key listed
    obtain ⟨row, there, named, ended, beyond⟩ := stored.exceeded key listed
    refine ⟨row, there, named, ended, fun state => ?_⟩
    obtain ⟨other, there, draws⟩ := beyond state
    exact ⟨other, List.mem_cons_of_mem _ there, draws⟩
  refine ⟨fun sequence => ?_, fun other answer used there row' stored' at_ => ?_, fun key listed => ?_,
    fun key listed answer returned => ?_⟩
  · have grown : Flights.count (BrokerFlight.Settles sequence)
        (.settling call response usage :: s.flights) = _ := Flights.count_enter _
    change Flights.count _ (.settling call response usage :: s.flights) ≤ 1
    rw [grown]
    by_cases at_ : call.sequence = sequence
    · subst at_
      rw [free]
      split <;> simp
    · have apart : ¬ (BrokerFlight.settling call response usage).Settles sequence := at_
      rw [if_neg apart]
      exact honest.alone sequence
  · rcases List.mem_cons.mp there with hit | before
    · cases hit
      obtain rfl := keyed.unique stored' here (at_.trans same.symm)
      rfl
    · exact stored.settling other answer used before row' stored' at_
  · simp only [BrokerSystem.succeed] at listed ⊢
    split at listed
    next error beyond =>
      rcases List.mem_cons.mp listed with rfl | before
      · refine ⟨_, here, named, .inl rfl, fun _ => ⟨_, List.mem_cons_self, same.symm, fun fits => ?_⟩⟩
        cases beyond.symm.trans (limits_ok.mpr fits)
      · exact older key before
    next => exact older key listed
  · simp only [BrokerSystem.succeed] at listed
    have before : key ∈ s.exceeded → False := fun before => honest.kept key before answer returned
    split at listed
    next =>
      rcases List.mem_cons.mp listed with rfl | later
      · -- A returned response is one of a call that has ended.
        obtain ⟨other, there, at_, ended, -⟩ := orderly.returned _ answer returned
        obtain rfl := orderly.named.unique there member (at_.trans named.symm)
        exact opened ended
      · exact before later
    next => exact before listed

/-- The end of an invocation fails its success again when the budget does not hold it. -/
theorem Honest.settle {postCheck : Except BrokerError Unit} (honest : Honest budget s)
    (orderly : Orderly s) (member : .settling call response usage ∈ s.flights) :
    Honest budget ((s.leave (.settling call response usage)).settle budget call response usage
      postCheck) := by
  obtain ⟨row, stored, found, same, named⟩ := orderly.located member rfl
  have state := honest.settling call response usage member row stored same
  -- No other success of the sequence waits for its end.
  have only : ∀ flight ∈ s.flights, flight.Settles row.sequence →
      flight = .settling call response usage := by
    intro flight there settles
    by_contra apart
    have none_ := Flights.count_leave_only (honest.alone row.sequence) member same.symm
    exact Flights.count_eq_zero.mp none_ flight ((List.mem_erase_of_ne apart).mpr there) settles
  simp only [BrokerSystem.settle]
  split
  next error _ =>
    have replaces := patch_replaces (·.state = .succeeded) (demoted error) (fun _ => rfl)
      orderly.keyed found
    rw [if_pos state] at replaces
    refine ⟨fun sequence => Nat.le_trans Flights.count_leave_le (honest.alone sequence),
      fun other answer used there row' stored' at_ => ?_, fun key listed => ?_, honest.kept⟩
    · have before := List.mem_of_mem_erase there
      rcases replaces.mem.mp stored' with rfl | ⟨old, -⟩
      · -- The flight that is left would be a second one of this sequence.
        have none_ := Flights.count_leave_only (honest.alone row.sequence) member same.symm
        exact absurd at_.symm (Flights.count_eq_zero.mp none_ _ there)
      · exact honest.settling other answer used before row' old at_
    · obtain ⟨other, there, named', ended, beyond⟩ := honest.exceeded key listed
      by_cases at_ : other.sequence = row.sequence
      · obtain rfl := replaces.only there at_
        exact ⟨_, replaces.mem.mpr (.inl rfl), named', .inr rfl, by intros; contradiction⟩
      · refine ⟨other, replaces.mem.mpr (.inr ⟨there, at_⟩), named', ended, fun succeeded => ?_⟩
        refine Overdrawn.leave (beyond succeeded) fun draws => at_ ?_
        exact draws.1.symm.trans same.symm
  next kept =>
    obtain ⟨_, within, -⟩ := bind_ok.mp kept
    have fits := limits_ok.mp within
    have left : Honest budget (s.leave (.settling call response usage)) :=
      honest.leave fun _ draws => draws.2 fits
    refine { left with kept := fun key listed answer returned => ?_ }
    rcases List.mem_cons.mp returned with hit | before
    · cases hit
      -- What is over the budget waits in a flight that is not this one.
      obtain ⟨other, there, at_, -, beyond⟩ := honest.exceeded _ listed
      obtain rfl := orderly.named.unique there stored (at_.trans named.symm)
      obtain ⟨flight, waits, draws⟩ := beyond state
      cases only flight waits (Overdraws.settles draws)
      exact draws.2 fits
    · exact honest.kept key listed answer before

/-- One prudent step keeps what is over the budget unreturned. -/
theorem Honest.step {event : BrokerEvent} (honest : Honest budget s) (orderly : Orderly s)
    (prudent : Prudent budget event s) : Honest budget (step H budget event s) := by
  have placed : ∀ (flight : BrokerFlight) (act : BrokerSystem → BrokerSystem),
      (flight ∈ s.flights → Honest budget (act (s.leave flight))) →
      Honest budget (s.from_ flight act) := fun _ _ => from_holds honest
  cases event <;> simp only [BrokerSystem.step]
  case admitCall invocation authority control =>
    simp only [BrokerSystem.admitCall]
    split
    next => exact honest
    next response calls ran =>
      cases BrokerJournal.admit_ok orderly.keyed ran with
      | @replayed row _ member named succeeded stored =>
        refine { honest with kept := fun key listed answer returned => ?_ }
        rcases List.mem_cons.mp returned with hit | before
        · cases hit
          obtain ⟨other, there, at_, -, beyond⟩ := honest.exceeded _ listed
          obtain rfl := orderly.named.unique there member (at_.trans named.symm)
          exact prudent.1 other there at_ (beyond succeeded)
        · exact honest.kept key listed answer before
    next sequence used calls ran =>
      have kept : ∀ row ∈ s.calls, row.Ended → row ∈ calls := by
        cases BrokerJournal.admit_ok orderly.keyed ran with
        | reopened _ _ rejected _ _ _ replaces =>
          exact keeps_ended replaces (BrokerCall.not_ended_of_rejected rejected)
        | inserted => exact fun row member _ => List.mem_append_left _ member
      have keyed : Keyed BrokerCall.sequence calls := by
        have next : Keyed BrokerCall.sequence
            (s.admitCall H budget invocation authority control).calls := orderly.admitCall.1.keyed
        simp only [BrokerSystem.admitCall, ran] at next
        exact next
      exact (honest.store orderly keyed kept).enter fun _ => id
  case recheck call authority =>
    refine placed _ _ fun member => ?_
    have left : Honest budget (s.leave (.admitted call)) := honest.leave fun _ => id
    have sent : Honest budget ((s.leave (.admitted call)).send call) := by
      have entered : Honest budget ((s.leave (.admitted call)).enter (.calling call)) :=
        left.enter fun _ => id
      exact ⟨entered.alone, entered.settling, entered.exceeded, entered.kept⟩
    cases authority with
    | ok => exact sent
    | error error =>
      simp only [BrokerSystem.recheck]
      split
      · obtain ⟨row, stored, found, same, named⟩ := orderly.located member rfl
        have replaces := patch_replaces (·.state = .started) (BrokerJournal.rejected error)
          (fun _ => rfl) orderly.keyed found
        refine left.store (orderly.leave _) (replaces.keyed orderly.keyed) ?_
        split at replaces
        next started => exact keeps_ended replaces (BrokerCall.not_ended_of_started started)
        next =>
          have unchanged : rejectBeforeSend call.sequence error s.calls = s.calls := replaces.same
          intro row member _
          change row ∈ rejectBeforeSend call.sequence error s.calls
          rw [unchanged]
          exact member
      · exact sent
  case answer call answer =>
    refine placed _ _ fun member => ?_
    obtain ⟨row, stored, found, same, named⟩ := orderly.located member rfl
    have left : Honest budget (s.leave (.calling call)) := honest.leave fun _ => id
    have fails : ∀ code action, row.state = .started → Honest budget
        ((s.leave (.calling call)).store (patchCell BrokerCall.sequence s.calls call.sequence
          (fun _ => True) (failed code action))) := by
      intro code action started
      have replaces := patch_replaces (fun _ => True) (failed code action) (fun _ => rfl)
        orderly.keyed found
      exact left.store (orderly.leave _) (replaces.keyed orderly.keyed)
        (keeps_ended replaces (BrokerCall.not_ended_of_started started))
    cases answer with
    | indeterminate => exact left
    | quarantined reasonCode => exact fails _ _ (prudent (fun impossible => by cases impossible) member row stored same)
    | raised code => exact fails _ _ (prudent (fun impossible => by cases impossible) member row stored same)
    | responded response committedUsage =>
      have started := prudent (fun impossible => by cases impossible) member row stored same
      simp only [BrokerSystem.answer]
      split
      · exact left.succeed (orderly.leave _) stored same named started
      · exact fails _ _ started
  case settle call response usage postCheck =>
    refine placed _ _ fun member => ?_
    exact honest.settle orderly member
  case startPass => exact honest.enter fun _ => id
  case decide row rows finding =>
    refine placed _ _ fun member => ?_
    have left : Honest budget (s.leave (.passing (row :: rows))) := honest.leave fun _ => id
    split
    · exact left
    · exact left.enter fun _ => id
  case apply row decision rows authorityDigest now =>
    refine placed _ _ fun member => ?_
    have left : Honest budget (s.leave (.deciding row decision rows)) := honest.leave fun _ => id
    simp only [BrokerSystem.apply]
    split
    next => exact left
    next calls ran =>
      refine Honest.enter ?_ fun _ => id
      cases apply_ok orderly.keyed ran with
      | nothing => exact left
      | resolved found started _ replaces | unresolved found started _ replaces =>
        exact left.store (orderly.leave _) (replaces.keyed orderly.keyed)
          (keeps_ended replaces (BrokerCall.not_ended_of_started started))
  case stop flight =>
    by_cases member : flight ∈ s.flights
    · exact honest.leave (Prudent.stop prudent orderly member)
    · have kept : s.leave flight = s := by simp [BrokerSystem.leave, List.erase_of_not_mem member]
      rw [kept]
      exact honest

/-- The sum of a counter over the successes whose invocations have ended. -/
def recorded (counter : BrokerUsage → Nat) (s : BrokerSystem) : Nat :=
  (s.calls.map (charge (fun row => row.state = .succeeded ∧
    Flights.count (BrokerFlight.Settles row.sequence) s.flights = 0) counter)).sum

/-- What was recorded stays within the budget, and no response over the budget was returned. -/
structure SpendingBounded (budget : Budget) (s : BrokerSystem) : Prop where
  within : ∀ counter ∈ counters, recorded counter.2.1 s ≤ counter.2.2 budget
  unreturned : ∀ key ∈ s.exceeded, ∀ response, (key, response) ∉ s.returned

theorem recorded_le_owned (counter : BrokerUsage → Nat) :
    recorded counter s ≤ owned budget counter s :=
  charges_mono counter fun _ _ counted => ⟨counted.1, fun ⟨flight, member, draws⟩ =>
    Flights.count_eq_zero.mp counted.2 flight member (Overdraws.settles draws)⟩

/-- Along a run in which every answer meets a started call, charges are admitted one after another,
and no success over the budget is repeated or left behind, spending is bounded. -/
theorem broker_spending_bounded {events : List BrokerEvent}
    (allow : Runs.Allowed (step H budget) (Prudent budget) events BrokerSystem.empty) :
    SpendingBounded budget (Runs.run (step H budget) events BrokerSystem.empty) := by
  have preserved : ∀ event s, Prudent budget event s →
      (Orderly s ∧ Funded budget s ∧ Honest budget s) →
      Orderly (step H budget event s) ∧ Funded budget (step H budget event s) ∧
        Honest budget (step H budget event s) := by
    rintro event s prudent ⟨orderly, funded, honest⟩
    exact ⟨(orderly.step prudent.timely).1, funded.step orderly prudent,
      honest.step orderly prudent⟩
  obtain ⟨-, funded, honest⟩ := allow.invariant preserved ⟨.empty, .empty, .empty⟩
  refine ⟨fun counter listed => ?_, honest.kept⟩
  exact Nat.le_trans (recorded_le_owned _) (funded.within counter listed)

instance : ∀ event s, Decidable (Prudent budget event s)
  | .admitCall _ _ _, _ => inferInstanceAs (Decidable (_ ∧ _))
  | .answer call answer, s => inferInstanceAs (Decidable (Timely (.answer call answer) s))
  | .stop flight, s => inferInstanceAs (Decidable (flight ∈ s.flights →
      ∀ row ∈ s.calls, ¬ flight.Overdraws budget row.sequence))
  | .recheck _ _, _ | .settle _ _ _ _, _ | .startPass, _ | .decide _ _ _, _
  | .apply _ _ _ _ _, _ => inferInstanceAs (Decidable True)

/-- A write of 60 bytes. -/
def Sample.put (key : String) : Invocation where
  method := .artifactPut
  grantId := "grant"
  idempotencyKey := key
  requestJson := key
  responseModel := "BrokerReceipt"
  usage := { artifactBytes := 60 }
  expectedControlRevision := none
  requireNotCancelled := false
  checked := false
  metered := false
  charges := nofun
  compensates := nofun
  meters := nofun

/-- The invocation has entered the provider. -/
def Sample.sent (call : AdmittedCall) : List BrokerEvent :=
  [.admitCall call.invocation (.ok ()) ⟨0, false⟩, .recheck call (.ok ())]

/-- The provider has answered, and the invocation has ended. -/
def Sample.done (call : AdmittedCall) : List BrokerEvent :=
  [.answer call (.responded (Sample.receipt "stored") {}),
    .settle call (Sample.receipt "stored") call.invocation.usage (.ok ())]

/-- Two writes that the budget holds are stored one after the other. -/
theorem broker_spending_bounded_sample :
    SpendingBounded { wallTimeMs := 1000, artifactBytes := 120 }
      (Runs.run (step .readable { wallTimeMs := 1000, artifactBytes := 120 })
        (Sample.sent ⟨Sample.put "first", 1, {}⟩ ++ Sample.done ⟨Sample.put "first", 1, {}⟩ ++
          Sample.sent ⟨Sample.put "second", 2, { artifactBytes := 60 }⟩ ++
          Sample.done ⟨Sample.put "second", 2, { artifactBytes := 60 }⟩) BrokerSystem.empty) :=
  broker_spending_bounded (by decide +kernel)

/-- A model call that reserves ten output tokens. -/
def Sample.ask : Invocation where
  method := .modelRequest
  grantId := "grant"
  idempotencyKey := "ask"
  requestJson := "ask"
  responseModel := "BrokerReceipt"
  usage := { modelRequests := 1, outputTokens := 10 }
  expectedControlRevision := none
  requireNotCancelled := false
  checked := false
  metered := true
  charges _ := rfl
  compensates := nofun
  meters _ := rfl

/-- Two writes that are in flight at once are both recorded, over the budget; and the response of a
model call over the budget is returned by an invocation that meets it before it is failed again. -/
theorem broker_spending_bounded_not :
    (∃ events, ∃ counter ∈ counters,
      counter.2.2 { wallTimeMs := 1000, artifactBytes := 100 } < recorded counter.2.1
        (Runs.run (step .readable { wallTimeMs := 1000, artifactBytes := 100 }) events
          BrokerSystem.empty)) ∧
    ∃ events key response,
      let s := Runs.run (step .readable { wallTimeMs := 1000, modelRequests := 1, outputTokens := 10 })
        events BrokerSystem.empty
      key ∈ s.exceeded ∧ (key, response) ∈ s.returned := by
  constructor
  · let first : AdmittedCall := ⟨Sample.put "first", 1, {}⟩
    let second : AdmittedCall := ⟨Sample.put "second", 2, {}⟩
    refine ⟨Sample.sent first ++ Sample.sent second ++ Sample.done first ++ Sample.done second,
      ("artifact_bytes", (·.artifactBytes), (·.artifactBytes)), by simp [counters], ?_⟩
    decide +kernel
  · refine ⟨Sample.sent ⟨Sample.ask, 1, {}⟩ ++
      [.answer ⟨Sample.ask, 1, {}⟩ (.responded (Sample.receipt "long")
        { modelRequests := 1, outputTokens := 50 }),
        .admitCall Sample.ask (.ok ()) ⟨0, false⟩], "ask", Sample.receipt "long", ?_⟩
    decide +kernel

end BrokerSystem

end Aar.Broker
