import Mathlib.Data.List.Nodup
import Mathlib.Logic.Function.Basic
import Firebot.Data.Json
import Firebot.Lib.Run

/-!
# Refresh sessions

`/auth/login`, `/auth/refresh`, `/auth/logout` and `/auth/change-password` read and write the table of refresh
sessions in transactions of their own, under READ COMMITTED and without row locks that would order them: a
request reads what is committed, decides, writes, and commits. An `UPDATE` revokes the rows that were committed
when it began. Each of these is a step of its own here.

Sessions are numbered in the order in which they are committed, a family has the number of its first session,
and a token carries the number of its session, its family and its expiry. What refuses a login before the
password is looked at (the throttle and the lock) is an answer.

Beside the tables the model keeps what each request has asked for, noted when it arrives, and what has been
answered: which sessions were rotated, for which families a rotated token was presented again, and which were
to end with a logout or a new password. Nothing of it is read by a request, and none of it depends on what a
request has revoked. **`Secure` is what the answers promise**; `Undisturbed` is the order of steps in which the
promises are kept. Nothing is said of access tokens, which live on until they expire.
-/

namespace Firebot.Auth

/-! ## Rows -/

/-- A refresh token, as `decode_refresh_token` reads it. -/
structure Token where
  session : Nat
  family : Nat
  expiresAt : Time
  deriving DecidableEq

/-- `RefreshSession`; the token stands for its hash. -/
structure Session where
  user : String
  family : Nat
  token : Token
  csrfHash : String
  expiresAt : Time
  revokedAt : Option Time
  replacedBy : Option Nat

/-- The session is neither revoked nor expired. -/
def Session.live (s : Session) (now : Time) : Prop := s.revokedAt = none ∧ now < s.expiresAt

/-- The columns of `User` that the requests read. -/
structure User where
  passwordHash : String
  active : Bool

/-- Argon2, the digest of a CSRF token, and `refresh_token_days`. -/
structure Library where
  verifyPassword : String → String → Bool
  csrfDigest : String → String
  refreshTokenDays : Nat

/-! ## Requests -/

/-- Why sessions are revoked: a token was presented that is no longer live, the user has logged out, or has a new
password. -/
inductive Cause where
  | presented (family : Nat)
  | logout (family : Nat)
  | password (user hash : String)

namespace Cause

/-- The sessions that the `UPDATE` finds. -/
def covers : Cause → Session → Bool
  | .presented family, s | .logout family, s => s.family = family
  | .password user _, s => s.user = user

/-- How the request is answered once the `UPDATE` is committed. -/
def status : Cause → Nat
  | .presented _ => 401
  | .logout _ => 204
  | .password .. => 200

end Cause

/-- What `issue_session` makes, the numbers apart. -/
structure Issue where
  tokenExpiresAt : Time
  expiresAt : Time
  csrfHash : String

/-- How far a request has come: what it has read, or what it will commit. -/
inductive Request where
  | idle
  | refreshing (token : Token) (found : Option Session)
  | rotating (token : Token) (session : Session) (revokedAt : Time) (issue : Issue)
  | loggingOut (found : Session)
  | changing (user hash : String)
  | revoking (cause : Cause) (numbers : List Nat) (revokedAt : Time)
  | loggingIn (user : String)
  | issuing (user : String) (issue : Issue)

/-- What a request asks for: a first session, a new one for a token (`rotated`: it has a successor already), the
end of a family, a new password. -/
inductive Ask where
  | login
  | refresh (token : Token) (rotated : Bool)
  | logout (family : Nat)
  | password (user : String)

/-- What a step is given: two readings of the clock, the CSRF header and cookie, and a random CSRF token. -/
structure Answer where
  now : Time
  storedAt : Time
  header : Option String
  cookie : Option String
  csrfToken : String

/-- What can happen: a request arrives and reads, goes on by a step, or is dropped. -/
inductive Event where
  | login (request : Nat) (user password : String) (admitted : Bool)
  | refresh (request : Nat) (token : Token) (now : Time)
  | logout (request : Nat) (token : Token)
  | changePassword (request : Nat) (user current hash : String)
  | go (request : Nat) (answer : Answer)
  | drop (request : Nat)

/-- The committed rows and the requests under way; and beside them what each request asks for, how many sessions
were committed when it came to where it is, and what has been answered. -/
structure World where
  users : String → Option User
  sessions : List Session
  requests : Nat → Request
  asks : Nat → Ask
  seen : Nat → Nat
  rotations : List Nat
  reused : List Nat
  ended : List Nat

namespace World

variable (lib : Library) (w : World)

/-- Before anyone has logged in. -/
def initial (users : String → Option User) : World where
  users := users
  sessions := []
  requests := fun _ => .idle
  asks := fun _ => .login
  seen := fun _ => 0
  rotations := []
  reused := []
  ended := []

/-- A request goes on to another point. -/
def goTo (request : Nat) (point : Request) : World :=
  { w with requests := Function.update w.requests request point
           seen := Function.update w.seen request w.sessions.length }

/-- A request arrives and asks. -/
def ask (request : Nat) (what : Ask) : World := { w with asks := Function.update w.asks request what }

/-- The families of which the user has a session. -/
def familiesOf (user : String) : List Nat := (w.sessions.filter (·.user = user)).map (·.family)

/-- The session that the answer says has been rotated. -/
def rotates : Ask → Nat → List Nat
  | .refresh token _, 200 => [token.session]
  | _, _ => []

/-- The family for which a rotated token was presented again. -/
def reuses : Ask → List Nat
  | .refresh token true => [token.family]
  | _ => []

/-- The families that the answer says have ended. -/
def ends : Ask → Nat → List Nat
  | .logout family, 204 => [family]
  | .password user, 200 => w.familiesOf user
  | _, _ => []

/-- A request is over, and answered. -/
def answer (request status : Nat) : World :=
  { w.goTo request .idle with
    rotations := w.rotations ++ rotates (w.asks request) status
    reused := w.reused ++ reuses (w.asks request)
    ended := w.ended ++ w.ends (w.asks request) status }

/-- The session of a token. -/
def sessionOf (token : Token) : Option Session := (w.sessions[token.session]?).filter fun s => s.token = token

/-- The numbers of the sessions that an `UPDATE` finds. -/
def covered (cause : Cause) : List Nat :=
  (List.range w.sessions.length).filter fun i => (w.sessions[i]?).any cause.covers

/-- `issue_session`, up to the flush. -/
def issueSession (a : Answer) : Issue where
  tokenExpiresAt := (a.now + lib.refreshTokenDays * 86400 * second) / second * second
  expiresAt := a.storedAt + lib.refreshTokenDays * 86400 * second
  csrfHash := lib.csrfDigest a.csrfToken

/-- A new session is committed. -/
def append (user : String) (family : Nat) (issue : Issue) : World :=
  { w with sessions := w.sessions ++ [
      { user, family, token := { session := w.sessions.length, family, expiresAt := issue.tokenExpiresAt }
        csrfHash := issue.csrfHash, expiresAt := issue.expiresAt, revokedAt := none, replacedBy := none }] }

/-- A session is committed as replaced by the next one. -/
def replace (parent : Nat) (revokedAt : Time) : World :=
  { w with sessions := w.sessions.modify parent fun s =>
      { s with revokedAt := some revokedAt, replacedBy := some w.sessions.length } }

/-- Sessions are committed as revoked. -/
def revoke (numbers : List Nat) (revokedAt : Time) : World :=
  { w with sessions := w.sessions.mapIdx fun i s => if i ∈ numbers then { s with revokedAt := some revokedAt } else s }

/-- The new password is committed with the revocation. -/
def setPassword : Cause → World
  | .presented _ | .logout _ => w
  | .password user hash =>
    { w with users := Function.update w.users user ((w.users user).map fun u => { u with passwordHash := hash }) }

/-- `validate_csrf`. -/
def validCsrf (s : Session) (a : Answer) : Bool :=
  match a.header, a.cookie with
  | some header, some cookie => header ≠ "" && header = cookie && lib.csrfDigest header = s.csrfHash
  | _, _ => false

/-- A step of a request. -/
def go (request : Nat) (a : Answer) : World :=
  match w.requests request with
  | .idle => w
  | .refreshing token found =>
    match found with
    | none =>
      w.goTo request (.revoking (.presented token.family) (w.covered (.presented token.family)) a.now)
    | some s =>
      if s.revokedAt.isSome || s.expiresAt ≤ a.now then
        w.goTo request (.revoking (.presented token.family) (w.covered (.presented token.family)) a.now)
      else if !validCsrf lib s a then w.answer request 403
      else
        match w.users s.user with
        | none => w.answer request 401
        | some user =>
          if !user.active then w.answer request 401
          else w.goTo request (.rotating token s a.now (issueSession lib a))
  | .rotating token s revokedAt issue =>
    ((w.replace token.session revokedAt).append s.user s.family issue).answer request 200
  | .loggingOut s =>
    if !validCsrf lib s a then w.answer request 403
    else w.goTo request (.revoking (.logout s.family) (w.covered (.logout s.family)) a.now)
  | .changing user hash =>
    w.goTo request (.revoking (.password user hash) (w.covered (.password user hash)) a.now)
  | .revoking cause numbers revokedAt =>
    ((w.revoke numbers revokedAt).setPassword cause).answer request cause.status
  | .loggingIn user => w.goTo request (.issuing user (issueSession lib a))
  | .issuing user issue => (w.append user w.sessions.length issue).answer request 200

/-- The token's session has a successor. -/
def rotated (token : Token) : Bool := (w.sessionOf token).isSome && w.rotations.contains token.session

/-- What happens; a request arrives where none is under way. -/
def step : Event → World
  | .login request user password admitted =>
    match w.requests request, w.users user with
    | .idle, some u =>
      if admitted && lib.verifyPassword password u.passwordHash && u.active then
        (w.ask request .login).goTo request (.loggingIn user)
      else w
    | _, _ => w
  | .refresh request token now =>
    match w.requests request with
    | .idle =>
      let asked := w.ask request (.refresh token (w.rotated token))
      -- `decode_refresh_token` refuses a token that has expired
      if token.expiresAt ≤ now then asked.answer request 401
      else asked.goTo request (.refreshing token (w.sessionOf token))
    | _ => w
  | .logout request token =>
    match w.requests request, w.sessionOf token with
    | .idle, some s => (w.ask request (.logout s.family)).goTo request (.loggingOut s)
    | _, _ => w
  | .changePassword request user current hash =>
    match w.requests request, w.users user with
    | .idle, some u =>
      if u.active && lib.verifyPassword current u.passwordHash then
        (w.ask request (.password user)).goTo request (.changing user hash)
      else w
    | _, _ => w
  | .go request a => w.go lib request a
  | .drop request => w.goTo request .idle

/-- The world after a run. -/
abbrev run (events : List Event) : World := Runs.run (step lib) w events

end World

/-! ## What is to hold -/

/-- **At any time a family has one live session at most; no session is rotated twice; and no session is live of a
family for which a rotated token was presented again, or which was to end with a logout or a new password.** -/
structure Secure (w : World) : Prop where
  one_live : ∀ (i j : Nat) (s s' : Session), w.sessions[i]? = some s → w.sessions[j]? = some s' → s.family = s'.family →
    ∀ now, s.live now → s'.live now → i = j
  rotated_once : w.rotations.Nodup
  reused : ∀ s ∈ w.sessions, s.family ∈ w.reused → ∀ now, ¬ s.live now
  ended : ∀ s ∈ w.sessions, s.family ∈ w.ended → ∀ now, ¬ s.live now

/-- What the request is about to commit fits: the session that it rotates is as the request has read it, and every
session that was committed since its `UPDATE` began and that the `UPDATE` is about is revoked. -/
def World.Fits (w : World) (request : Nat) : Prop :=
  match w.requests request with
  | .rotating token read _ _ => ∀ s, w.sessions[token.session]? = some s → s.revokedAt = read.revokedAt
  | .revoking cause _ _ => ∀ (i : Nat) s, w.seen request ≤ i → w.sessions[i]? = some s → cause.covers s = true →
      s.revokedAt ≠ none
  | _ => True

/-- A request goes on while what it is about to commit fits, and a rotated token that has expired is presented only
if its family has no session left. -/
def Undisturbed (w : World) : Event → Prop
  | .go request _ => w.Fits request
  | .refresh _ token now => w.rotated token = true → token.expiresAt ≤ now →
      ∀ s ∈ w.sessions, s.family = token.family → s.revokedAt ≠ none
  | .login _ _ _ _ | .logout _ _ | .changePassword _ _ _ _ | .drop _ => True

end Firebot.Auth
