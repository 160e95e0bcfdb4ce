import Firebot.Enrollment.TokenStore

/-!
# A token is used once

The transactions refine a store of things that are used once: what is committed is the history of such a store,
each use is of the token last issued for the device, and the row of a device is always what the history says.
The argument is about the locks. A transaction holds the lock of the row that it will write, and a row with a
lock is written by no other; a transaction that has inserted a row holds its device.

The expiry is not kept: the predicate of the `SELECT` is looked at again after the wait for the lock, but with
the reading of the clock from before the wait. And the answer is made after the commit.

**So a token is used once at most, whatever transactions run and however their statements interleave, and where
no activation waits across the expiry of its row every use is in time** (`tokens_single_use`). Nothing is said
of a credential whose answer does not reach the device.
-/

namespace Firebot.Enrollment

/-! ## What is to hold -/

/-- The row of a token that stands, and how it was consumed. -/
def EnrollmentToken.ofStanding (stands : IssuedToken × Option Consumption) : EnrollmentToken :=
  { stands.1 with consumedAt := stands.2.map (·.consumedAt) }

/-- No token is used twice. A use is of the token that was last issued for the device, with a text that has its
hash. The rows are what the history says, so that nothing but a use consumes one; what has ended holds no lock;
and a token that stands unused, and is neither locked nor expired, is accepted. -/
structure SingleUse (hash : String → String) (w : World) : Prop where
  used_once : ((OneTime.used w.history).map (·.2.id)).Nodup
  last_issued : ∀ since deviceId token how before, w.history = since ++ .use deviceId token how :: before →
    token.deviceId = deviceId ∧ token.tokenHash = hash how.token ∧
    ∃ between earlier, before = between ++ .issue deviceId token :: earlier ∧ ∀ op ∈ between, op.key ≠ deviceId
  stored : ∀ deviceId, w.rows deviceId = (OneTime.standing deviceId w.history).map .ofStanding
  released : ∀ transaction, w.transactions transaction = .idle → ∀ id, w.locks id ≠ some transaction
  usable : ∀ transaction deviceId token text, w.transactions transaction = .idle → validDeviceId deviceId = true →
    OneTime.standing deviceId w.history = some (token, none) → w.locks token.id = none → w.clock < token.expiresAt →
    token.tokenHash = hash text →
    (w.run hash (.activate transaction deviceId text :: List.replicate 4 (.go transaction))).history =
      .use deviceId token { token := text, consumedAt := w.clock, answer := respond deviceId token.credentialJson }
        :: w.history

/-- The use was before the token's expiry, and was answered. -/
def UsedInTime : OneTime String IssuedToken Consumption → Prop
  | .issue _ _ => True
  | .use _ token how => how.consumedAt < token.expiresAt ∧ how.answer.isSome = true

instance : ∀ op, Decidable (UsedInTime op)
  | .issue _ _ => isTrue trivial
  | .use _ token how => inferInstanceAs (Decidable (how.consumedAt < token.expiresAt ∧ how.answer.isSome = true))

/-- Every token was used before its expiry, and its use was answered. -/
def InTime (w : World) : Prop := ∀ op ∈ w.history, UsedInTime op

instance (w : World) : Decidable (InTime w) := inferInstanceAs (Decidable (∀ op ∈ w.history, UsedInTime op))

/-- A value that a text field of the answer takes. -/
def plainText (value : JsonTree) : Bool := (value.asText.bind JsonText.plain).isSome

/-- The fields of a credential that the answer has as texts, each with a default of its own. -/
def textFields : List String :=
  ["profile_id", "mqtt_host", "device_token", "ca_cert", "site_code", "map_code", "map_version", "map_checksum"]

/-- A credential that `activate` can answer with: it has a password, and no field of another kind than the answer's. -/
def answerable (cred : List (JsonText × JsonTree)) : Bool :=
  (cred.lookup (.chars "mqtt_password")).any plainText &&
    (cred.lookup (.chars "mqtt_port")).all (fun port => (intOf port).isSome) &&
      textFields.all fun name => (cred.lookup (.chars name)).all plainText

/-- The clock has come to the row's expiry since it was read. -/
def Crossed (row : EnrollmentToken) (since clock : Time) : Prop := since < row.expiresAt ∧ row.expiresAt ≤ clock

instance (row : EnrollmentToken) (since clock : Time) : Decidable (Crossed row since clock) :=
  inferInstanceAs (Decidable (_ ∧ _))

/-- The expiry of the row that a transaction is about to use has not come since its `SELECT` was sent. -/
def Transaction.Prompt (hash : String → String) (clock : Time) : Transaction → Prop
  | .comparing token since row => row.tokenHash = hash token → ¬ Crossed row since clock
  | .idle | .issuing _ | .deleting _ _ | .inserting _ _ | .inserted _ _ | .selecting _ _ _ | .locking _ _ _ _
  | .consumed _ _ _ | .refused _ => True

instance (hash : String → String) (clock : Time) : ∀ point : Transaction, Decidable (point.Prompt hash clock)
  | .comparing token since row => inferInstanceAs (Decidable (row.tokenHash = hash token → ¬ Crossed row since clock))
  | .idle | .issuing _ | .deleting _ _ | .inserting _ _ | .inserted _ _ | .selecting _ _ _ | .locking _ _ _ _
  | .consumed _ _ _ | .refused _ => isTrue trivial

/-- No activation has waited across the expiry of the row that it is about to use, and every token is issued with a
credential that can be answered with. -/
def Prompt (hash : String → String) (w : World) : Event → Prop
  | .go transaction => (w.transactions transaction).Prompt hash w.clock
  | .issue _ _ credential _ _ => answerable credential = true
  | .activate _ _ _ | .rollback _ | .clock _ => True

instance (hash : String → String) (w : World) : ∀ event, Decidable (Prompt hash w event)
  | .go transaction => inferInstanceAs (Decidable ((w.transactions transaction).Prompt hash w.clock))
  | .issue _ _ credential _ _ => inferInstanceAs (Decidable (answerable credential = true))
  | .activate _ _ _ | .rollback _ | .clock _ => isTrue trivial

/-! ## What is kept -/

/-- What the point of a transaction says of the rows. -/
def Fits (hash : String → String) (rows : String → Option EnrollmentToken) : Transaction → Prop
  | .inserted token deleted => ∀ row, rows token.deviceId = some row → deleted = some row.id
  | .comparing _ since row => rows row.deviceId = some row ∧ row.consumable since = true
  | .consumed token row _ => rows row.deviceId = some row ∧ row.consumedAt = none ∧ row.tokenHash = hash token
  | .idle | .issuing _ | .deleting _ _ | .inserting _ _ | .selecting _ _ _ | .locking _ _ _ _ | .refused _ => True

/-- The entry is under the device of its token, and a use is with a text that has the token's hash. -/
def Keyed (hash : String → String) : OneTime String IssuedToken Consumption → Prop
  | .issue deviceId token => token.deviceId = deviceId
  | .use deviceId token how => token.deviceId = deviceId ∧ token.tokenHash = hash how.token

/-- The locks are those that the transactions hold. -/
structure Locked (w : World) : Prop where
  locks : ∀ id transaction, w.locks id = some transaction ↔ (w.transactions transaction).holds = some id
  inserts : ∀ deviceId transaction,
    w.inserts deviceId = some transaction ↔ (w.transactions transaction).claims = some deviceId

/-- Every token has a number of its own. -/
structure Numbered (w : World) : Prop where
  issued : ∀ entry ∈ OneTime.issued w.history, entry.2.id < w.drawn
  distinct : ((OneTime.issued w.history).map (·.2.id)).Nodup
  carried : ∀ transaction token, (w.transactions transaction).carries = some token →
    token.id < w.drawn ∧ ∀ entry ∈ OneTime.issued w.history, entry.2.id ≠ token.id
  apart : ∀ transaction transaction' token token', (w.transactions transaction).carries = some token →
    (w.transactions transaction').carries = some token' → token.id = token'.id → transaction = transaction'

/-- The rows are what the sound history says, and fit what the transactions are about to do. -/
structure Faithful (hash : String → String) (w : World) : Prop where
  keyed : ∀ op ∈ w.history, Keyed hash op
  sound : OneTime.Sound w.history
  stored : ∀ deviceId, w.rows deviceId = (OneTime.standing deviceId w.history).map .ofStanding
  fits : ∀ transaction, Fits hash w.rows (w.transactions transaction)

/-! ## What a step can do -/

section

variable {hash : String → String} {w : World}

/-- What can happen in a step. -/
inductive Moves (hash : String → String) (w : World) (event : Event) : World → Prop
  | stays : Moves hash w event w
  | clock (now : Time) : Moves hash w event { w with clock := now }
  | draws (transaction : Nat) (token : IssuedToken) (ttlSeconds : Int) (text : String)
      (idle : w.transactions transaction = .idle) (number : token.id = w.drawn)
      (issued : event = .issue transaction token.deviceId token.credentialJson ttlSeconds text) :
      Moves hash w event ({ w with drawn := w.drawn + 1 }.goTo transaction (.issuing token))
  | goes (transaction : Nat) (point : Transaction) (holds : point.holds = (w.transactions transaction).holds)
      (claims : point.claims = (w.transactions transaction).claims)
      (carries : ∀ token, point.carries = some token → (w.transactions transaction).carries = some token)
      (fits : Fits hash w.rows point)
      (consumes : ∀ token row consumedAt, point = .consumed token row consumedAt → event = .go transaction ∧
        ∃ since, w.transactions transaction = .comparing token since row ∧ row.tokenHash = hash token ∧
          consumedAt = w.clock) :
      Moves hash w event (w.goTo transaction point)
  | locks (transaction id : Nat) (point : Transaction) (free : w.locks id = none)
      (none_ : (w.transactions transaction).holds = none) (holds : point.holds = some id)
      (claims : point.claims = (w.transactions transaction).claims)
      (carries : ∀ token, point.carries = some token → (w.transactions transaction).carries = some token)
      (fits : Fits hash w.rows point) (before : ∀ token row consumedAt, point ≠ .consumed token row consumedAt) :
      Moves hash w event ((w.lock id transaction).goTo transaction point)
  | inserts (transaction : Nat) (token : IssuedToken) (deleted : Option Nat)
      (was : w.transactions transaction = .inserting token deleted) (free : w.inserts token.deviceId = none)
      (replaces : ∀ row, w.rows token.deviceId = some row → deleted = some row.id) :
      Moves hash w event ((w.claim token.deviceId transaction).goTo transaction (.inserted token deleted))
  | ends (transaction : Nat) : Moves hash w event (w.release transaction)
  | issues (transaction : Nat) (token : IssuedToken) (deleted : Option Nat)
      (was : w.transactions transaction = .inserted token deleted) :
      Moves hash w event
        ((w.commit { token with consumedAt := none } (.issue token.deviceId token)).release transaction)
  | uses (transaction : Nat) (token : String) (row : EnrollmentToken) (consumedAt : Time)
      (was : w.transactions transaction = .consumed token row consumedAt) :
      Moves hash w event
        ((w.commit { row with consumedAt := some consumedAt } (.use row.deviceId row.toIssuedToken
          { token, consumedAt, answer := respond row.deviceId row.credentialJson })).release transaction)

/-- The row that is found is the device's, with its id. -/
theorem rowOf_spec {deviceId : String} {id : Nat} {row : EnrollmentToken} (h : w.rowOf deviceId id = some row) :
    w.rows deviceId = some row ∧ row.id = id := by
  obtain ⟨found, same⟩ := Option.filter_eq_some_iff.mp h
  exact ⟨found, of_decide_eq_true same⟩

/-- The row of a device bears its id. -/
theorem Faithful.deviceId (faithful : Faithful hash w) {deviceId : String} {row : EnrollmentToken}
    (found : w.rows deviceId = some row) : row.deviceId = deviceId := by
  rw [faithful.stored] at found
  obtain ⟨stands, standing, rfl⟩ := Option.map_eq_some_iff.mp found
  obtain ⟨op, mem, same⟩ := OneTime.mem_of_standing standing
  have keyed := faithful.keyed op mem
  rcases same with rfl | ⟨how, rfl⟩
  · exact keyed
  · exact keyed.1

/-- What a transaction does next is one of its moves. -/
theorem go_moves (faithful : Faithful hash w) (transaction : Nat) :
    Moves hash w (.go transaction) (w.go hash transaction) := by
  unfold World.go
  cases was : w.transactions transaction with
  | idle => exact .stays
  | issuing token =>
    exact .goes _ _ (by rw [was]; rfl) (by rw [was]; rfl) (by rw [was]; exact fun _ h => h) trivial (by simp)
  | deleting token seen =>
    cases seen with
    | none => exact .goes _ _ (by rw [was]; rfl) (by rw [was]; rfl) (by rw [was]; exact fun _ h => h) trivial (by simp)
    | some seen =>
      dsimp only
      split
      · exact .stays
      · rename_i free
        split
        · rename_i row found
          obtain ⟨_, rfl⟩ := rowOf_spec found
          exact .locks _ _ _ (Option.not_isSome_iff_eq_none.mp free) (by rw [was]; rfl) rfl (by rw [was]; rfl)
            (by rw [was]; exact fun _ h => h) trivial (by simp)
        · exact .goes _ _ (by rw [was]; rfl) (by rw [was]; rfl) (by rw [was]; exact fun _ h => h) trivial (by simp)
  | inserting token deleted =>
    dsimp only
    split
    · exact .stays
    · rename_i free
      split
      · split
        · exact .stays
        · exact .ends _
      · rename_i none_
        refine .inserts _ _ _ was (Option.not_isSome_iff_eq_none.mp free) ?_
        intro row found
        unfold World.conflict at none_
        rw [found, Option.filter_eq_none_iff] at none_
        have removed := none_ row rfl
        exact (by simpa using removed : some row.id = deleted).symm
  | inserted token deleted => exact .issues _ _ _ was
  | selecting deviceId token now =>
    dsimp only
    split
    · exact .goes _ _ (by rw [was]; rfl) (by rw [was]; rfl) (by simp [Transaction.carries]) trivial (by simp)
    · exact .goes _ _ (by rw [was]; rfl) (by rw [was]; rfl) (by simp [Transaction.carries]) trivial (by simp)
  | locking deviceId token now seen =>
    dsimp only
    split
    · exact .stays
    · rename_i free
      split
      · rename_i row found
        obtain ⟨own, consumable⟩ := Option.filter_eq_some_iff.mp found
        obtain ⟨stored, rfl⟩ := rowOf_spec own
        refine .locks _ _ _ (Option.not_isSome_iff_eq_none.mp free) (by rw [was]; rfl) rfl (by rw [was]; rfl)
          (by simp [Transaction.carries]) ⟨?_, consumable⟩ (by simp)
        rw [faithful.deviceId stored]
        exact stored
      · exact .goes _ _ (by rw [was]; rfl) (by rw [was]; rfl) (by simp [Transaction.carries]) trivial (by simp)
  | comparing token since row =>
    dsimp only
    obtain ⟨found, consumable⟩ : w.rows row.deviceId = some row ∧ row.consumable since = true := by
      have fits := faithful.fits transaction
      rwa [was] at fits
    have fresh := Option.isNone_iff_eq_none.mp (Bool.and_eq_true_iff.mp consumable).1
    split
    · rename_i right
      refine .goes _ _ (by rw [was]; rfl) (by rw [was]; rfl) (by simp [Transaction.carries]) ⟨found, fresh, right⟩ ?_
      intro token' row' consumedAt same
      cases same
      exact ⟨rfl, since, was, right, rfl⟩
    · exact .goes _ _ (by rw [was]; rfl) (by rw [was]; rfl) (by simp [Transaction.carries]) trivial (by simp)
  | consumed token row consumedAt => exact .uses _ _ _ _ was
  | refused held => exact .ends _

/-- Every event is one of the moves. -/
theorem step_moves (faithful : Faithful hash w) (event : Event) : Moves hash w event (w.step hash event) := by
  cases event with
  | issue transaction deviceId credential ttlSeconds token =>
    unfold World.step
    dsimp only
    split
    · rename_i was
      exact .draws _ _ _ _ was rfl rfl
    · exact .stays
  | activate transaction deviceId token =>
    unfold World.step
    dsimp only
    split
    · rename_i was
      split
      · exact .goes _ _ (by rw [was]; rfl) (by rw [was]; rfl) (by simp [Transaction.carries]) trivial (by simp)
      · exact .stays
    · exact .stays
  | go transaction => exact go_moves faithful transaction
  | rollback transaction => exact .ends _
  | clock now => exact .clock now

/-! ## Locks -/

@[simp] theorem goTo_self (transaction : Nat) (point : Transaction) :
    (w.goTo transaction point).transactions transaction = point := Function.update_self ..

/-- The other transactions stay where they are. -/
theorem goTo_other {transaction transaction' : Nat} (other : transaction' ≠ transaction) (point : Transaction) :
    (w.goTo transaction point).transactions transaction' = w.transactions transaction' := Function.update_of_ne other ..

/-- The holder of a lock is one transaction. -/
theorem Locked.eq_of_holds (locked : Locked w) {transaction transaction' id : Nat}
    (holds : (w.transactions transaction).holds = some id) (holds' : (w.transactions transaction').holds = some id) :
    transaction = transaction' := by
  rw [← locked.locks] at holds holds'
  exact Option.some_inj.mp (holds.symm.trans holds')

/-- One transaction has inserted a row for a device. -/
theorem Locked.eq_of_claims (locked : Locked w) {transaction transaction' : Nat} {deviceId : String}
    (claims : (w.transactions transaction).claims = some deviceId)
    (claims' : (w.transactions transaction').claims = some deviceId) : transaction = transaction' := by
  rw [← locked.inserts] at claims claims'
  exact Option.some_inj.mp (claims.symm.trans claims')

/-- A transaction that takes no lock and gives none back leaves the locks right. -/
theorem Locked.goTo (locked : Locked w) {transaction : Nat} {point : Transaction}
    (holds : point.holds = (w.transactions transaction).holds)
    (claims : point.claims = (w.transactions transaction).claims) : Locked (w.goTo transaction point) where
  locks id transaction' := by
    refine (locked.locks id transaction').trans ?_
    by_cases own : transaction' = transaction
    · rw [own, goTo_self, holds]
    · rw [goTo_other own]
  inserts deviceId transaction' := by
    refine (locked.inserts deviceId transaction').trans ?_
    by_cases own : transaction' = transaction
    · rw [own, goTo_self, claims]
    · rw [goTo_other own]

/-- A free row that is locked has one holder. -/
theorem Locked.lock (locked : Locked w) {transaction id : Nat} {point : Transaction} (free : w.locks id = none)
    (none_ : (w.transactions transaction).holds = none) (holds : point.holds = some id)
    (claims : point.claims = (w.transactions transaction).claims) :
    Locked ((w.lock id transaction).goTo transaction point) where
  locks id' transaction' := by
    show Function.update w.locks id (some transaction) id' = _ ↔ _
    by_cases own : transaction' = transaction
    · rw [own, goTo_self, holds]
      by_cases same : id' = id
      · rw [same, Function.update_self]
        exact iff_of_true rfl rfl
      · rw [Function.update_of_ne same, locked.locks, none_]
        exact iff_of_false (by simp) fun equal => same (Option.some_inj.mp equal).symm
    · rw [goTo_other own]
      show _ ↔ (w.transactions transaction').holds = some id'
      by_cases same : id' = id
      · rw [same, Function.update_self, ← locked.locks, free]
        exact iff_of_false (fun equal => own (Option.some_inj.mp equal).symm) (by simp)
      · rw [Function.update_of_ne same]
        exact locked.locks id' transaction'
  inserts deviceId transaction' := by
    refine (locked.inserts deviceId transaction').trans ?_
    by_cases own : transaction' = transaction
    · rw [own, goTo_self, claims]
    · rw [goTo_other own]
      rfl

/-- So has a device that is claimed for an insertion. -/
theorem Locked.claim (locked : Locked w) {transaction : Nat} {point : Transaction} {deviceId : String}
    (free : w.inserts deviceId = none) (none_ : (w.transactions transaction).claims = none)
    (holds : point.holds = (w.transactions transaction).holds) (claims : point.claims = some deviceId) :
    Locked ((w.claim deviceId transaction).goTo transaction point) where
  locks id transaction' := by
    refine (locked.locks id transaction').trans ?_
    by_cases own : transaction' = transaction
    · rw [own, goTo_self, holds]
    · rw [goTo_other own]
      rfl
  inserts deviceId' transaction' := by
    show Function.update w.inserts deviceId (some transaction) deviceId' = _ ↔ _
    by_cases own : transaction' = transaction
    · rw [own, goTo_self, claims]
      by_cases same : deviceId' = deviceId
      · rw [same, Function.update_self]
        exact iff_of_true rfl rfl
      · rw [Function.update_of_ne same, locked.inserts, none_]
        exact iff_of_false (by simp) fun equal => same (Option.some_inj.mp equal).symm
    · rw [goTo_other own]
      show _ ↔ (w.transactions transaction').claims = some deviceId'
      by_cases same : deviceId' = deviceId
      · rw [same, Function.update_self, ← locked.inserts, free]
        exact iff_of_false (fun equal => own (Option.some_inj.mp equal).symm) (by simp)
      · rw [Function.update_of_ne same]
        exact locked.inserts deviceId' transaction'

/-- What has ended holds nothing. -/
theorem Locked.release (locked : Locked w) (transaction : Nat) : Locked (w.release transaction) where
  locks id transaction' := by
    show (if w.locks id = some transaction then none else w.locks id) = _ ↔
      ((w.goTo transaction .idle).transactions transaction').holds = _
    by_cases own : transaction' = transaction
    · rw [own, goTo_self]
      refine iff_of_false ?_ (by simp [Transaction.holds])
      split
      · simp
      · assumption
    · rw [goTo_other own, ← locked.locks]
      split
      · rename_i held
        rw [held]
        exact iff_of_false (by simp) fun equal => own (Option.some_inj.mp equal).symm
      · rfl
  inserts deviceId transaction' := by
    show (if w.inserts deviceId = some transaction then none else w.inserts deviceId) = _ ↔
      ((w.goTo transaction .idle).transactions transaction').claims = _
    by_cases own : transaction' = transaction
    · rw [own, goTo_self]
      refine iff_of_false ?_ (by simp [Transaction.claims])
      split
      · simp
      · assumption
    · rw [goTo_other own, ← locked.inserts]
      split
      · rename_i held
        rw [held]
        exact iff_of_false (by simp) fun equal => own (Option.some_inj.mp equal).symm
      · rfl

/-- A commit changes no lock. -/
theorem Locked.commit (locked : Locked w) (row : EnrollmentToken) (op : OneTime String IssuedToken Consumption) :
    Locked (w.commit row op) := ⟨locked.locks, locked.inserts⟩

/-- Every move leaves each lock with the transaction that holds it. -/
theorem Locked.moves (locked : Locked w) {event : Event} {w' : World} (moves : Moves hash w event w') : Locked w' := by
  cases moves with
  | stays => exact locked
  | clock now => exact ⟨locked.locks, locked.inserts⟩
  | draws transaction token ttlSeconds text idle number issued =>
    have drawn : Locked { w with drawn := w.drawn + 1 } := ⟨locked.locks, locked.inserts⟩
    refine drawn.goTo ?_ ?_
    · show none = (w.transactions transaction).holds
      rw [idle]
      rfl
    · show none = (w.transactions transaction).claims
      rw [idle]
      rfl
  | goes transaction point holds claims carries fits consumes => exact locked.goTo holds claims
  | locks transaction id point free none_ holds claims carries fits before => exact locked.lock free none_ holds claims
  | inserts transaction token deleted was free replaces =>
    exact locked.claim free (by rw [was]; rfl) (by rw [was]; rfl) rfl
  | ends transaction => exact locked.release transaction
  | issues transaction token deleted was => exact (locked.commit _ _).release transaction
  | uses transaction token row consumedAt was => exact (locked.commit _ _).release transaction

/-! ## Numbers -/

/-- Nothing is drawn or issued, and no transaction carries more. -/
theorem Numbered.of_carries (numbered : Numbered w) {w' : World} (drawn : w'.drawn = w.drawn)
    (history : OneTime.issued w'.history = OneTime.issued w.history)
    (carries : ∀ transaction token, (w'.transactions transaction).carries = some token →
      (w.transactions transaction).carries = some token) : Numbered w' where
  issued := by
    rw [history, drawn]
    exact numbered.issued
  distinct := by
    rw [history]
    exact numbered.distinct
  carried transaction token carried := by
    rw [history, drawn]
    exact numbered.carried transaction token (carries transaction token carried)
  apart transaction transaction' token token' carried carried' :=
    numbered.apart transaction transaction' token token' (carries _ _ carried) (carries _ _ carried')

/-- A move of one transaction gives no token to another. -/
theorem carries_goTo {transaction : Nat} {point : Transaction}
    (carries : ∀ token, point.carries = some token → (w.transactions transaction).carries = some token)
    (transaction' : Nat) (token : IssuedToken)
    (carried : ((w.goTo transaction point).transactions transaction').carries = some token) :
    (w.transactions transaction').carries = some token := by
  by_cases own : transaction' = transaction
  · subst own
    rw [goTo_self] at carried
    exact carries token carried
  · rwa [goTo_other own] at carried

/-- A transaction that ends carries none, and the others keep theirs. -/
theorem carries_release {transaction transaction' : Nat} {token : IssuedToken}
    (carried : ((w.release transaction).transactions transaction').carries = some token) :
    transaction' ≠ transaction ∧ (w.transactions transaction').carries = some token := by
  have at_ : ((w.goTo transaction .idle).transactions transaction').carries = some token := carried
  by_cases own : transaction' = transaction
  · rw [own, goTo_self] at at_
    cases at_
  · rw [goTo_other own] at at_
    exact ⟨own, at_⟩

/-- A new token bears the next number. -/
theorem Numbered.draw (numbered : Numbered w) {transaction : Nat} {token : IssuedToken} (number : token.id = w.drawn) :
    Numbered ({ w with drawn := w.drawn + 1 }.goTo transaction (.issuing token)) := by
  have carries : ∀ transaction' token',
      ((({ w with drawn := w.drawn + 1 } : World).goTo transaction (.issuing token)).transactions transaction').carries
        = some token' → (transaction' = transaction ∧ token' = token) ∨ (w.transactions transaction').carries = some token' := by
    intro transaction' token' carried
    by_cases own : transaction' = transaction
    · rw [own, goTo_self] at carried
      exact .inl ⟨own, (Option.some_inj.mp carried).symm⟩
    · rw [goTo_other own] at carried
      exact .inr carried
  refine ⟨fun entry mem => Nat.lt_succ_of_lt (numbered.issued entry mem), numbered.distinct, ?_, ?_⟩
  · intro transaction' token' carried
    rcases carries _ _ carried with ⟨_, rfl⟩ | before
    · refine ⟨?_, fun entry mem => ?_⟩
      · rw [number]
        exact Nat.lt_succ_self _
      · rw [number]
        exact (numbered.issued entry mem).ne
    · have old := numbered.carried _ _ before
      exact ⟨Nat.lt_succ_of_lt old.1, old.2⟩
  · intro transaction₁ transaction₂ token₁ token₂ carried₁ carried₂ same
    rcases carries _ _ carried₁ with ⟨rfl, rfl⟩ | before₁ <;> rcases carries _ _ carried₂ with ⟨rfl, rfl⟩ | before₂
    · rfl
    · have old := (numbered.carried _ _ before₂).1
      omega
    · have old := (numbered.carried _ _ before₁).1
      omega
    · exact numbered.apart _ _ _ _ before₁ before₂ same

/-- What is committed is no longer carried. -/
theorem Numbered.issue (numbered : Numbered w) {transaction : Nat} {token : IssuedToken} {deleted : Option Nat}
    (was : w.transactions transaction = .inserted token deleted) :
    Numbered ((w.commit { token with consumedAt := none } (.issue token.deviceId token)).release transaction) := by
  obtain ⟨bound, new⟩ := numbered.carried transaction token (by rw [was]; rfl)
  refine ⟨?_, ?_, ?_, ?_⟩
  · intro entry mem
    rcases List.mem_cons.mp mem with rfl | mem
    · exact bound
    · exact numbered.issued entry mem
  · refine List.nodup_cons.mpr ⟨?_, numbered.distinct⟩
    intro mem
    obtain ⟨entry, mem, same⟩ := List.mem_map.mp mem
    exact new entry mem same
  · intro transaction' token' carried
    obtain ⟨other, before⟩ := carries_release carried
    obtain ⟨bound', new'⟩ := numbered.carried _ _ before
    refine ⟨bound', fun entry mem => ?_⟩
    rcases List.mem_cons.mp mem with rfl | mem
    · intro same
      exact other (numbered.apart _ _ _ _ before (by rw [was]; rfl) same.symm)
    · exact new' entry mem
  · intro transaction₁ transaction₂ token₁ token₂ carried₁ carried₂ same
    exact numbered.apart _ _ _ _ (carries_release carried₁).2 (carries_release carried₂).2 same

/-- The ids stay below the next one. -/
theorem Numbered.moves (numbered : Numbered w) {event : Event} {w' : World} (moves : Moves hash w event w') :
    Numbered w' := by
  cases moves with
  | stays => exact numbered
  | clock now => exact numbered.of_carries rfl rfl fun _ _ carried => carried
  | draws transaction token ttlSeconds text idle number issued => exact numbered.draw number
  | goes transaction point holds claims carries fits consumes =>
    exact numbered.of_carries rfl rfl (carries_goTo carries)
  | locks transaction id point free none_ holds claims carries fits before =>
    exact numbered.of_carries rfl rfl (@carries_goTo (w.lock id transaction) _ _ carries)
  | inserts transaction token deleted was free replaces =>
    refine numbered.of_carries rfl rfl (carries_goTo (w := w.claim token.deviceId transaction) ?_)
    intro token' same
    show (w.transactions transaction).carries = _
    rw [was]
    exact same
  | ends transaction => exact numbered.of_carries rfl rfl fun _ _ carried => (carries_release carried).2
  | issues transaction token deleted was => exact numbered.issue was
  | uses transaction token row consumedAt was =>
    exact numbered.of_carries rfl rfl fun _ _ carried => (carries_release carried).2

/-! ## The history -/

/-- The rows and the history stay, and one transaction comes to a point that fits. -/
theorem Faithful.goTo (faithful : Faithful hash w) {w' : World} {transaction : Nat} {point : Transaction}
    (rows : w'.rows = w.rows) (history : w'.history = w.history)
    (transactions : w'.transactions = (w.goTo transaction point).transactions) (fits : Fits hash w.rows point) :
    Faithful hash w' where
  keyed := by
    rw [history]
    exact faithful.keyed
  sound := by
    rw [history]
    exact faithful.sound
  stored := by
    rw [history, rows]
    exact faithful.stored
  fits transaction' := by
    rw [transactions, rows]
    by_cases own : transaction' = transaction
    · rw [own, goTo_self]
      exact fits
    · rw [goTo_other own]
      exact faithful.fits transaction'

/-- A row is committed by a transaction that ends with it, and the points of the others still fit. -/
theorem Faithful.commit (faithful : Faithful hash w) {transaction : Nat} {row : EnrollmentToken}
    {op : OneTime String IssuedToken Consumption} (keyed : Keyed hash op) (sound : OneTime.Sound (op :: w.history))
    (key : op.key = row.deviceId)
    (stands : (OneTime.standing row.deviceId (op :: w.history)).map EnrollmentToken.ofStanding = some row)
    (fits : ∀ transaction', transaction' ≠ transaction →
      Fits hash (Function.update w.rows row.deviceId (some row)) (w.transactions transaction')) :
    Faithful hash ((w.commit row op).release transaction) where
  keyed op' mem := by
    rcases List.mem_cons.mp mem with rfl | mem
    · exact keyed
    · exact faithful.keyed op' mem
  sound := sound
  stored deviceId := by
    show Function.update w.rows row.deviceId (some row) deviceId = (OneTime.standing deviceId (op :: w.history)).map _
    by_cases same : deviceId = row.deviceId
    · rw [same, Function.update_self, stands]
    · rw [Function.update_of_ne same, OneTime.standing_other fun equal => same (equal.symm.trans key)]
      exact faithful.stored deviceId
  fits transaction' := by
    show Fits hash (Function.update w.rows row.deviceId (some row)) (((w.commit row op).goTo transaction .idle).transactions transaction')
    by_cases own : transaction' = transaction
    · rw [own, goTo_self]
      trivial
    · rw [goTo_other own]
      exact fits transaction' own

/-- No other transaction has written for the device of a row that is inserted, or holds the row in its place. -/
theorem Faithful.issue (faithful : Faithful hash w) (locked : Locked w) {transaction : Nat} {token : IssuedToken}
    {deleted : Option Nat} (was : w.transactions transaction = .inserted token deleted) :
    Faithful hash ((w.commit { token with consumedAt := none } (.issue token.deviceId token)).release transaction) := by
  have replaces : ∀ row, w.rows token.deviceId = some row → deleted = some row.id := by
    have fits := faithful.fits transaction
    rwa [was] at fits
  have unheld : ∀ transaction' row, transaction' ≠ transaction → (w.transactions transaction').holds = some row.id →
      w.rows row.deviceId = some row → row.deviceId ≠ token.deviceId := by
    intro transaction' row other holds found same
    rw [same] at found
    refine other (locked.eq_of_holds holds ?_)
    rw [was]
    exact replaces row found
  refine faithful.commit rfl faithful.sound rfl ?_ ?_
  · rw [OneTime.standing_issue, if_pos rfl]
    rfl
  · intro transaction' other
    have fits := faithful.fits transaction'
    cases point : w.transactions transaction' with
    | inserted token' deleted' =>
      rw [point] at fits
      intro row found
      have apart : token'.deviceId ≠ token.deviceId := by
        intro same
        refine other (@Locked.eq_of_claims w locked _ _ token.deviceId ?_ ?_)
        · rw [point, ← same]
          rfl
        · rw [was]
          rfl
      rw [Function.update_of_ne apart] at found
      exact fits row found
    | comparing text since row =>
      rw [point] at fits
      refine ⟨?_, fits.2⟩
      rw [Function.update_of_ne (unheld transaction' row other (by rw [point]; rfl) fits.1)]
      exact fits.1
    | consumed text row consumedAt =>
      rw [point] at fits
      refine ⟨?_, fits.2⟩
      rw [Function.update_of_ne (unheld transaction' row other (by rw [point]; rfl) fits.1)]
      exact fits.1
    | _ => trivial

/-- A row that a transaction is about to consume stands unused. -/
theorem Faithful.stands (faithful : Faithful hash w) {transaction : Nat} {token : String} {row : EnrollmentToken}
    {consumedAt : Time} (was : w.transactions transaction = .consumed token row consumedAt) :
    OneTime.standing row.deviceId w.history = some (row.toIssuedToken, none) := by
  have fits := faithful.fits transaction
  rw [was] at fits
  obtain ⟨found, fresh, _⟩ := fits
  rw [faithful.stored] at found
  obtain ⟨⟨issued, how⟩, standing, same⟩ := Option.map_eq_some_iff.mp found
  rw [standing]
  cases how with
  | none =>
    rw [← same]
    rfl
  | some how =>
    rw [← same] at fresh
    cases fresh

/-- No other transaction holds the row that is consumed. -/
theorem Faithful.use (faithful : Faithful hash w) (locked : Locked w) {transaction : Nat} {token : String}
    {row : EnrollmentToken} {consumedAt : Time} (was : w.transactions transaction = .consumed token row consumedAt) :
    Faithful hash ((w.commit { row with consumedAt := some consumedAt } (.use row.deviceId row.toIssuedToken
      { token, consumedAt, answer := respond row.deviceId row.credentialJson })).release transaction) := by
  obtain ⟨found, fresh, right⟩ : w.rows row.deviceId = some row ∧ row.consumedAt = none ∧ row.tokenHash = hash token := by
    have fits := faithful.fits transaction
    rwa [was] at fits
  have unheld : ∀ transaction' row', transaction' ≠ transaction → (w.transactions transaction').holds = some row'.id →
      w.rows row'.deviceId = some row' → row'.deviceId ≠ row.deviceId := by
    intro transaction' row' other holds found' same
    rw [same, found] at found'
    cases found'
    refine other (locked.eq_of_holds holds ?_)
    rw [was]
    rfl
  refine faithful.commit ⟨rfl, right⟩ ⟨faithful.stands was, faithful.sound⟩ rfl ?_ ?_
  · rw [OneTime.standing_use, if_pos rfl]
    rfl
  · intro transaction' other
    have fits := faithful.fits transaction'
    cases point : w.transactions transaction' with
    | inserted token' deleted' =>
      rw [point] at fits
      intro row' found'
      by_cases same : token'.deviceId = row.deviceId
      · rw [same, Function.update_self] at found'
        cases found'
        exact fits row (by rw [same]; exact found)
      · rw [Function.update_of_ne same] at found'
        exact fits row' found'
    | comparing text since row' =>
      rw [point] at fits
      refine ⟨?_, fits.2⟩
      rw [Function.update_of_ne (unheld transaction' row' other (by rw [point]; rfl) fits.1)]
      exact fits.1
    | consumed text row' consumedAt' =>
      rw [point] at fits
      refine ⟨?_, fits.2⟩
      rw [Function.update_of_ne (unheld transaction' row' other (by rw [point]; rfl) fits.1)]
      exact fits.1
    | _ => trivial

/-- Every move keeps what the rows and the transactions say of the history. -/
theorem Faithful.moves (faithful : Faithful hash w) (locked : Locked w) {event : Event} {w' : World}
    (moves : Moves hash w event w') : Faithful hash w' := by
  cases moves with
  | stays => exact faithful
  | clock now => exact ⟨faithful.keyed, faithful.sound, faithful.stored, faithful.fits⟩
  | draws transaction token ttlSeconds text idle number issued => exact faithful.goTo rfl rfl rfl trivial
  | goes transaction point holds claims carries fits consumes => exact faithful.goTo rfl rfl rfl fits
  | locks transaction id point free none_ holds claims carries fits before => exact faithful.goTo rfl rfl rfl fits
  | inserts transaction token deleted was free replaces => exact faithful.goTo rfl rfl rfl replaces
  | ends transaction => exact faithful.goTo rfl rfl rfl trivial
  | issues transaction token deleted was => exact faithful.issue locked was
  | uses transaction token row consumedAt was => exact faithful.use locked was

/-! ## A token that stands is accepted -/

/-- A row that can be consumed is locked next. -/
theorem go_selecting {transaction : Nat} {deviceId text : String} {now : Time} {row : EnrollmentToken}
    (was : w.transactions transaction = .selecting deviceId text now) (found : w.rows deviceId = some row)
    (consumable : row.consumable now = true) :
    w.go hash transaction = w.goTo transaction (.locking deviceId text now row.id) := by
  have selected : (w.rows deviceId).filter (fun row => row.consumable now) = some row :=
    Option.filter_eq_some_iff.mpr ⟨found, consumable⟩
  unfold World.go
  simp [was, selected]

/-- A free row that can be consumed is compared next. -/
theorem go_locking {transaction : Nat} {deviceId text : String} {now : Time} {row : EnrollmentToken}
    (was : w.transactions transaction = .locking deviceId text now row.id) (free : w.locks row.id = none)
    (found : w.rows deviceId = some row) (consumable : row.consumable now = true) :
    w.go hash transaction = (w.lock row.id transaction).goTo transaction (.comparing text now row) := by
  have own : w.rowOf deviceId row.id = some row := Option.filter_eq_some_iff.mpr ⟨found, decide_eq_true rfl⟩
  have selected : (w.rowOf deviceId row.id).filter (fun row => row.consumable now) = some row :=
    Option.filter_eq_some_iff.mpr ⟨own, consumable⟩
  unfold World.go
  simp [was, free, selected]

/-- The right token is consumed at the clock of that step. -/
theorem go_comparing {transaction : Nat} {text : String} {since : Time} {row : EnrollmentToken}
    (was : w.transactions transaction = .comparing text since row) (right : row.tokenHash = hash text) :
    w.go hash transaction = w.goTo transaction (.consumed text row w.clock) := by
  unfold World.go
  simp [was, right]

/-- The commit of a consumed row is the use. -/
theorem go_consumed {transaction : Nat} {text : String} {row : EnrollmentToken} {consumedAt : Time}
    (was : w.transactions transaction = .consumed text row consumedAt) :
    (w.go hash transaction).history = .use row.deviceId row.toIssuedToken
      { token := text, consumedAt, answer := respond row.deviceId row.credentialJson } :: w.history := by
  unfold World.go
  rw [was]
  rfl

/-- A character of a device id is no white space. -/
theorem not_isSpace {c : Char} (range : (48 ≤ c.toNat ∧ c.toNat ≤ 122) ∨ c.toNat = 45) : isSpace c = false := by
  unfold isSpace
  simp
  omega

/-- A valid device id has no white space. -/
theorem validDeviceId_char {deviceId : String} (valid : validDeviceId deviceId = true) {c : Char}
    (mem : c ∈ deviceId.toList) : isSpace c = false := by
  apply not_isSpace
  unfold validDeviceId at valid
  have range := List.all_eq_true.mp (Bool.and_eq_true_iff.mp valid).2 c mem
  simp only [Char.le_def, UInt32.le_iff_toNat_le, Bool.or_eq_true, Bool.and_eq_true, decide_eq_true_eq] at range
  rcases range with (((⟨lo, hi⟩ | ⟨lo, hi⟩) | ⟨lo, hi⟩) | rfl) | rfl
  · exact .inl ⟨le_trans (by decide) lo, le_trans hi (by decide)⟩
  · exact .inl ⟨le_trans (by decide) lo, le_trans hi (by decide)⟩
  · exact .inl ⟨le_trans (by decide) lo, le_trans hi (by decide)⟩
  · exact .inl (by decide)
  · exact .inr (by decide)

/-- A text without white space loses none. -/
theorem dropWhile_isSpace {text : List Char} (none_ : ∀ c ∈ text, isSpace c = false) : text.dropWhile isSpace = text := by
  cases text with
  | nil => rfl
  | cons c text => exact List.dropWhile_cons_of_neg (by simp [none_ c List.mem_cons_self])

/-- A valid device id has no white space around it. -/
theorem strip_valid {deviceId : String} (valid : validDeviceId deviceId = true) :
    String.ofList (strip deviceId.toList) = deviceId := by
  unfold strip trim
  rw [dropWhile_isSpace fun c mem => validDeviceId_char valid mem,
    dropWhile_isSpace fun c mem => validDeviceId_char valid (List.mem_reverse.mp mem), List.reverse_reverse,
    String.ofList_toList]

/-- An activation that nothing disturbs accepts the token that stands. -/
theorem Faithful.accepts (faithful : Faithful hash w) {transaction : Nat} {deviceId text : String} {token : IssuedToken}
    (idle : w.transactions transaction = .idle) (valid : validDeviceId deviceId = true)
    (stands : OneTime.standing deviceId w.history = some (token, none)) (free : w.locks token.id = none)
    (early : w.clock < token.expiresAt) (right : token.tokenHash = hash text) :
    (w.run hash (.activate transaction deviceId text :: List.replicate 4 (.go transaction))).history =
      .use deviceId token { token := text, consumedAt := w.clock, answer := respond deviceId token.credentialJson }
        :: w.history := by
  let row : EnrollmentToken := { token with consumedAt := none }
  have found : w.rows deviceId = some row := by
    rw [faithful.stored, stands]
    rfl
  have own : row.deviceId = deviceId := faithful.deviceId found
  have consumable : row.consumable w.clock = true := by
    unfold EnrollmentToken.consumable
    simp [row, early]
  let selecting := w.goTo transaction (.selecting deviceId text w.clock)
  let locking := selecting.goTo transaction (.locking deviceId text w.clock row.id)
  let comparing := (locking.lock row.id transaction).goTo transaction (.comparing text w.clock row)
  let consumed := comparing.goTo transaction (.consumed text row w.clock)
  have activated : w.step hash (.activate transaction deviceId text) = selecting := by
    unfold World.step
    simp [strip_valid valid, valid, idle, selecting]
  have selects : selecting.go hash transaction = locking := go_selecting (goTo_self _ _) found consumable
  have locks : locking.go hash transaction = comparing := go_locking (goTo_self _ _) free found consumable
  have compares : comparing.go hash transaction = consumed := go_comparing (goTo_self _ _) right
  have commits := @go_consumed hash consumed transaction text row w.clock (goTo_self _ _)
  show (World.go hash (World.go hash (World.go hash (World.go hash (w.step hash (.activate transaction deviceId text))
    transaction) transaction) transaction) transaction).history = _
  rw [activated, selects, locks, compares, commits, own]
  rfl

/-! ## Runs -/

/-- The locks, the numbers and the history of a run. -/
structure Kept (hash : String → String) (w : World) : Prop where
  locked : Locked w
  numbered : Numbered w
  faithful : Faithful hash w

/-- Every event keeps the locks, the ids and the history in step. -/
theorem Kept.step (kept : Kept hash w) (event : Event) : Kept hash (w.step hash event) := by
  have moves := step_moves kept.faithful event
  exact ⟨kept.locked.moves moves, kept.numbered.moves moves, kept.faithful.moves kept.locked moves⟩

/-- An empty table is kept. -/
theorem Kept.initial (clock : Time) : Kept hash (World.initial clock) where
  locked := ⟨fun _ _ => by simp [World.initial, Transaction.holds], fun _ _ => by simp [World.initial, Transaction.claims]⟩
  numbered :=
    ⟨fun _ none => absurd none List.not_mem_nil, List.nodup_nil,
      fun _ _ none => by simp [World.initial, Transaction.carries] at none,
      fun _ _ _ _ none => by simp [World.initial, Transaction.carries] at none⟩
  faithful := ⟨fun _ none => absurd none List.not_mem_nil, trivial, fun _ => rfl, fun _ => trivial⟩

/-- From that it follows that every issue is used once at most. -/
theorem Kept.singleUse (kept : Kept hash w) : SingleUse hash w where
  used_once := by
    have once : (OneTime.used w.history).Nodup := kept.faithful.sound.nodup_used (List.Nodup.of_map _ kept.numbered.distinct)
    refine once.map_on ?_
    intro entry mem entry' mem' same
    exact List.inj_on_of_nodup_map kept.numbered.distinct (kept.faithful.sound.mem_issued mem)
      (kept.faithful.sound.mem_issued mem') same
  last_issued := by
    intro since deviceId token how before split
    have keyed := kept.faithful.keyed (.use deviceId token how) (by rw [split]; simp)
    have sound := kept.faithful.sound
    rw [split] at sound
    exact ⟨keyed.1, keyed.2, sound.issued_before⟩
  stored := kept.faithful.stored
  released := by
    intro transaction idle id held
    rw [kept.locked.locks, idle] at held
    cases held
  usable := fun _ _ _ _ idle valid stands free early right => kept.faithful.accepts idle valid stands free early right

/-- A credential that can be answered with is answered with. -/
theorem respond_isSome {deviceId : String} {cred : List (JsonText × JsonTree)} (can : answerable cred = true) :
    (respond deviceId cred).isSome = true := by
  unfold answerable at can
  obtain ⟨⟨password, port⟩, texts⟩ : (_ ∧ _) ∧ _ := by simpa only [Bool.and_eq_true] using can
  have text (name default : String) (mem : name ∈ textFields) : ∃ a, textOf cred name (some default) = some a := by
    have plain := List.all_eq_true.mp texts name mem
    unfold textOf
    cases found : cred.lookup (.chars name) with
    | none => exact ⟨default, rfl⟩
    | some value =>
      rw [found] at plain
      exact Option.isSome_iff_exists.mp plain
  obtain ⟨profileId, has_profile⟩ := text "profile_id" "firebot_ros1_standard_v1" (by decide)
  obtain ⟨mqttHost, has_host⟩ := text "mqtt_host" "" (by decide)
  obtain ⟨deviceToken, has_token⟩ := text "device_token" "" (by decide)
  obtain ⟨caCert, has_cert⟩ := text "ca_cert" "/etc/firebot/production-ca.crt" (by decide)
  obtain ⟨siteCode, has_site⟩ := text "site_code" "" (by decide)
  obtain ⟨mapCode, has_map⟩ := text "map_code" "" (by decide)
  obtain ⟨mapVersion, has_version⟩ := text "map_version" "" (by decide)
  obtain ⟨mapChecksum, has_checksum⟩ := text "map_checksum" "" (by decide)
  obtain ⟨mqttPassword, has_password⟩ : ∃ a, textOf cred "mqtt_password" none = some a := by
    obtain ⟨value, found, plain⟩ := (Option.any_eq_true _ _).mp password
    unfold textOf
    rw [found]
    exact Option.isSome_iff_exists.mp plain
  obtain ⟨mqttPort, has_port⟩ : ∃ n, intOf ((cred.lookup (.chars "mqtt_port")).getD (.int 8883)) = some n := by
    cases found : cred.lookup (.chars "mqtt_port") with
    | none => exact ⟨8883, rfl⟩
    | some value =>
      rw [found] at port
      exact Option.isSome_iff_exists.mp port
  unfold respond
  rw [has_profile, has_host, has_token, has_cert, has_site, has_map, has_version, has_checksum, has_password, has_port]
  rfl

/-- Every credential can be answered with; what has been used was used in time, and so is what is about to be. -/
structure Timed (w : World) : Prop where
  carried : ∀ transaction token, (w.transactions transaction).carries = some token →
    answerable token.credentialJson = true
  rows : ∀ deviceId row, w.rows deviceId = some row → answerable row.credentialJson = true
  used : InTime w
  using_ : ∀ transaction token row consumedAt, w.transactions transaction = .consumed token row consumedAt →
    consumedAt < row.expiresAt

/-- One transaction comes to a point, and nothing is committed. -/
theorem Timed.goTo (timed : Timed w) {w' : World} {transaction : Nat} {point : Transaction}
    (history : w'.history = w.history) (rows : w'.rows = w.rows)
    (transactions : w'.transactions = (w.goTo transaction point).transactions)
    (carries : ∀ token, point.carries = some token → answerable token.credentialJson = true)
    (good : ∀ token row consumedAt, point = .consumed token row consumedAt → consumedAt < row.expiresAt) :
    Timed w' where
  carried transaction' token carried := by
    rw [transactions] at carried
    by_cases own : transaction' = transaction
    · rw [own, goTo_self] at carried
      exact carries _ carried
    · rw [goTo_other own] at carried
      exact timed.carried _ _ carried
  rows := by
    rw [rows]
    exact timed.rows
  used := by
    unfold InTime
    rw [history]
    exact timed.used
  using_ transaction' token row consumedAt at_ := by
    rw [transactions] at at_
    by_cases own : transaction' = transaction
    · rw [own, goTo_self] at at_
      exact good _ _ _ at_
    · rw [goTo_other own] at at_
      exact timed.using_ _ _ _ _ at_

/-- A transaction ends with a commit that is no use too late. -/
theorem Timed.commit (timed : Timed w) {transaction : Nat} {row : EnrollmentToken}
    {op : OneTime String IssuedToken Consumption} (can : answerable row.credentialJson = true)
    (good : UsedInTime op) : Timed ((w.commit row op).release transaction) := by
  have ended : Timed (w.release transaction) := timed.goTo rfl rfl rfl (by simp [Transaction.carries]) (by simp)
  refine ⟨ended.carried, fun deviceId row' found => ?_, fun op' mem => ?_, ended.using_⟩
  · have found' : Function.update w.rows row.deviceId (some row) deviceId = some row' := found
    by_cases same : deviceId = row.deviceId
    · rw [same, Function.update_self] at found'
      cases found'
      exact can
    · rw [Function.update_of_ne same] at found'
      exact timed.rows deviceId row' found'
  · rcases List.mem_cons.mp mem with rfl | mem
    · exact good
    · exact timed.used op' mem

/-- A prompt move keeps every use in time. -/
theorem Timed.moves (timed : Timed w) (faithful : Faithful hash w) {event : Event} (prompt : Prompt hash w event)
    {w' : World} (moves : Moves hash w event w') : Timed w' := by
  cases moves with
  | stays => exact timed
  | clock now => exact ⟨timed.carried, timed.rows, timed.used, timed.using_⟩
  | draws transaction token ttlSeconds text idle number issued =>
    subst issued
    refine timed.goTo rfl rfl rfl ?_ (by simp)
    rintro _ ⟨⟩
    exact prompt
  | goes transaction point holds claims carries fits consumes =>
    refine timed.goTo rfl rfl rfl (fun token carried => timed.carried _ _ (carries token carried)) ?_
    intro token row consumedAt same
    obtain ⟨rfl, since, was, right, rfl⟩ := consumes token row consumedAt same
    have uncrossed : (w.transactions transaction).Prompt hash w.clock := prompt
    have found := faithful.fits transaction
    rw [was] at uncrossed found
    -- the test of the `SELECT`: the row had not expired when the clock was read for it
    have early : since < row.expiresAt := of_decide_eq_true (Bool.and_eq_true_iff.mp found.2).2
    refine Int.not_le.mp fun late => uncrossed right ⟨early, late⟩
  | locks transaction id point free none_ holds claims carries fits before =>
    exact timed.goTo rfl rfl rfl (fun token carried => timed.carried _ _ (carries token carried))
      fun token row consumedAt same => absurd same (before token row consumedAt)
  | inserts transaction token deleted was free replaces =>
    refine timed.goTo rfl rfl rfl ?_ (by simp)
    rintro _ ⟨⟩
    exact timed.carried transaction token (by rw [was]; rfl)
  | ends transaction => exact timed.goTo rfl rfl rfl (by simp [Transaction.carries]) (by simp)
  | issues transaction token deleted was =>
    exact timed.commit (timed.carried transaction token (by rw [was]; rfl)) trivial
  | uses transaction token row consumedAt was =>
    obtain ⟨found, _⟩ : w.rows row.deviceId = some row ∧ row.consumedAt = none ∧ row.tokenHash = hash token := by
      have fits := faithful.fits transaction
      rwa [was] at fits
    have can := timed.rows _ _ found
    exact timed.commit can ⟨timed.using_ _ _ _ _ was, respond_isSome can⟩

end

/-- Whatever transactions run and however their statements interleave, every token is used once at most, only for
its device and only while it is the last one issued for it, and only a use makes it unusable; and where no activation
waits across the expiry of its row, and every credential that is issued can be answered with, every use is in time and
answered. -/
theorem tokens_single_use (hash : String → String) (clock : Time) (events : List Event) :
    SingleUse hash ((World.initial clock).run hash events) ∧
      (Runs.Meets (World.step hash) (Prompt hash) (World.initial clock) events →
        InTime ((World.initial clock).run hash events)) := by
  have start : Kept hash (World.initial clock) := Kept.initial clock
  constructor
  · exact (Runs.run_of_step (fun _ event kept => kept.step event) (World.initial clock) events start).singleUse
  · intro prompt
    have empty : Timed (World.initial clock) := by
      constructor
      · rintro _ _ ⟨⟩
      · rintro _ _ ⟨⟩
      · exact fun _ none => absurd none List.not_mem_nil
      · rintro _ _ _ _ ⟨⟩
    have kept : Kept hash ((World.initial clock).run hash events) ∧ Timed ((World.initial clock).run hash events) := by
      refine @Runs.invariant _ _ _ _ (fun w => Kept hash w ∧ Timed w) ?_ _ _ ⟨start, empty⟩ prompt
      intro w event kept ok
      exact ⟨kept.1.step event, kept.2.moves kept.1.faithful ok (step_moves kept.1.faithful event)⟩
    exact kept.2.used

/-- A credential with what an answer needs. -/
def someCredential : List (JsonText × JsonTree) := [(.chars "mqtt_password", .str (.chars "pw"))]

/-- A token is issued for ten seconds. -/
def someIssue : List Event := .issue 0 "vehicle_1" someCredential 10 "token" :: List.replicate 4 (.go 0)

/-- It is presented, once and again. -/
def someActivations : List Event :=
  (.activate 1 " vehicle_1" "token" :: List.replicate 4 (.go 1)) ++
    (.activate 2 "vehicle_1" "token" :: List.replicate 2 (.go 2))

/-- Both activations are uses in time. -/
theorem activated_in_time :
    ((World.initial 0).run id (someIssue ++ someActivations)).history.length = 2 ∧
      InTime ((World.initial 0).run id (someIssue ++ someActivations)) :=
  ⟨by decide +kernel, (tokens_single_use id 0 _).2 (by decide +kernel)⟩

/-- An activation with the wrong text holds the lock while the token expires; the other one has read the clock. -/
def lateActivations : List Event :=
  [.activate 1 "vehicle_1" "wrong", .go 1, .go 1, .activate 2 "vehicle_1" "token", .go 2, .go 2, .clock (11 * second),
    .go 1, .go 1, .go 2, .go 2, .go 2]

/-- The token is used a second after its expiry. -/
theorem expired_used : ¬ InTime ((World.initial 0).run id (someIssue ++ lateActivations)) := by decide +kernel

end Firebot.Enrollment
