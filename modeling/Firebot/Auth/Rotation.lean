import Firebot.Auth.Sessions

/-!
# When refresh sessions stay secure

A rotation and a revocation change nothing but when a session was revoked (`Revised`); a login and a rotation
append a session. The invariant `Sound` has one session that is not revoked for each family, none that was
rotated, and none of a family for which the answers promise that there is none; and it says of every request
under way what it has asked for and what it has read (`Grounded`).

**So the answers are kept in every state of an undisturbed run** (`sessions_secure`). Nothing is said of a family
after a run in which two requests have read the same session.
-/

namespace Firebot.Auth

/-! ## Revisions -/

/-- A session later on: it may have been revoked. -/
structure Becomes (s s' : Session) : Prop where
  family : s'.family = s.family
  user : s'.user = s.user
  token : s'.token = s.token
  stays : s'.revokedAt = none → s.revokedAt = none

/-- The sessions are as before, but for what was revoked since. -/
structure Revised (before after : List Session) : Prop where
  length : after.length = before.length
  same : ∀ (i : Nat) s', after[i]? = some s' → ∃ s, before[i]? = some s ∧ Becomes s s'

/-- A session is still there after a revision. -/
theorem Revised.kept {before after : List Session} (h : Revised before after) {i : Nat} {s : Session}
    (there : before[i]? = some s) : ∃ s', after[i]? = some s' ∧ Becomes s s' := by
  have within : i < after.length := by
    rw [h.length]
    exact (List.getElem?_eq_some_iff.mp there).1
  obtain ⟨s₀, found, same⟩ := h.same i after[i] (List.getElem?_eq_getElem within)
  cases there.symm.trans found
  exact ⟨after[i], List.getElem?_eq_getElem within, same⟩

/-- One session is revoked. -/
theorem revised_modify (sessions : List Session) (parent : Nat) (now : Time) (next : Option Nat) :
    Revised sessions (sessions.modify parent fun s => { s with revokedAt := some now, replacedBy := next }) where
  length := List.length_modify ..
  same := by
    intro i s' there
    rw [List.getElem?_modify] at there
    obtain ⟨s, found, own⟩ := Option.map_eq_some_iff.mp there
    refine ⟨s, found, ?_⟩
    rw [← own]
    split
    · exact ⟨rfl, rfl, rfl, fun live => by cases live⟩
    · exact ⟨rfl, rfl, rfl, fun live => live⟩

/-- Some sessions are revoked. -/
theorem revised_mapIdx (sessions : List Session) (numbers : List Nat) (now : Time) :
    Revised sessions
      (sessions.mapIdx fun i s => if i ∈ numbers then { s with revokedAt := some now } else s) where
  length := List.length_mapIdx
  same := by
    intro i s' there
    rw [List.getElem?_mapIdx] at there
    obtain ⟨s, found, own⟩ := Option.map_eq_some_iff.mp there
    refine ⟨s, found, ?_⟩
    rw [← own]
    split
    · exact ⟨rfl, rfl, rfl, fun live => by cases live⟩
    · exact ⟨rfl, rfl, rfl, fun live => live⟩

/-- The sessions of before are there, of the same families and users. -/
structure Extended (before after : List Session) : Prop where
  length : before.length ≤ after.length
  same : ∀ (i : Nat) s s', before[i]? = some s → after[i]? = some s' → s'.family = s.family ∧ s'.user = s.user

theorem Revised.extended {before after : List Session} (h : Revised before after) : Extended before after where
  length := h.length.ge
  same i s s' there there' := by
    obtain ⟨t, found, becomes⟩ := h.same i s' there'
    cases there.symm.trans found
    exact ⟨becomes.family, becomes.user⟩

theorem extended_append (sessions : List Session) (new : Session) : Extended sessions (sessions ++ [new]) where
  length := by simp
  same i s s' there there' := by
    rw [List.getElem?_append_left (List.getElem?_eq_some_iff.mp there).1, there] at there'
    cases there'
    exact ⟨rfl, rfl⟩

theorem Extended.trans {a b c : List Session} (ab : Extended a b) (bc : Extended b c) : Extended a c where
  length := ab.length.trans bc.length
  same i s s'' there there'' := by
    have within := (List.getElem?_eq_some_iff.mp there).1.trans_le ab.length
    have between := List.getElem?_eq_getElem within
    obtain ⟨family, user⟩ := ab.same i s _ there between
    obtain ⟨family', user'⟩ := bc.same i _ s'' between there''
    exact ⟨family'.trans family, user'.trans user⟩

/-- A session of the longer table under an old number is found in the old one. -/
theorem Extended.old {before after : List Session} (h : Extended before after) {i : Nat} {s' : Session}
    (there : after[i]? = some s') (within : i < before.length) :
    ∃ s, before[i]? = some s ∧ s'.family = s.family ∧ s'.user = s.user :=
  ⟨before[i], List.getElem?_eq_getElem within, h.same i _ s' (List.getElem?_eq_getElem within) there⟩

/-- An `UPDATE` goes by the family or by the user. -/
theorem covers_congr {s s' : Session} (family : s'.family = s.family) (user : s'.user = s.user) (cause : Cause) :
    cause.covers s' = cause.covers s := by
  cases cause <;> simp [Cause.covers, family, user]

namespace World

/-! ## The invariant -/

/-- What holds of the rows: a family has one session at most that is not revoked and belongs to one user, a rotated
session is revoked, and so are those of the families that are to have none. -/
structure Rows (sessions : List Session) (rotations barred : List Nat) : Prop where
  one_left : ∀ (i j : Nat) (s s' : Session), sessions[i]? = some s → sessions[j]? = some s' →
    s.family = s'.family → s.revokedAt = none → s'.revokedAt = none → i = j
  owner : ∀ (i j : Nat) (s s' : Session), sessions[i]? = some s → sessions[j]? = some s' →
    s.family = s'.family → s.user = s'.user
  numbered : ∀ (i : Nat) s, sessions[i]? = some s → s.family < sessions.length
  tokens : ∀ (i : Nat) s, sessions[i]? = some s → s.token.family = s.family
  rotated_once : rotations.Nodup
  rotated : ∀ i ∈ rotations, ∃ s, sessions[i]? = some s ∧ s.revokedAt ≠ none
  closed : ∀ (i : Nat) s, sessions[i]? = some s → s.family ∈ barred → s.revokedAt ≠ none
  closed_numbered : ∀ f ∈ barred, f < sessions.length

/-- The session with this number has this family and this user. -/
def Has (w : World) (number family : Nat) (user : String) : Prop :=
  ∃ s, w.sessions[number]? = some s ∧ s.family = family ∧ s.user = user

/-- The revocation is what the request has asked for. -/
def Answers (w : World) (ask : Ask) : Cause → Prop
  | .presented family => ∃ token rotated, ask = .refresh token rotated ∧ token.family = family ∧
      (rotated = true → family < w.sessions.length)
  | .logout family => ask = .logout family ∧ family < w.sessions.length
  | .password user _ => ask = .password user

/-- What a request has asked for that has come to a point, and what it has read on the way: a rotated token is one
whose session is revoked, and an `UPDATE` has found every session of before. -/
def Grounded (w : World) (ask : Ask) (seen : Nat) : Request → Prop
  | .idle => True
  | .loggingIn _ | .issuing _ _ => ask = .login
  | .refreshing token found => ∃ rotated, ask = .refresh token rotated ∧
      (rotated = true → token.family < w.sessions.length ∧ ∃ s, found = some s ∧ s.revokedAt ≠ none) ∧
      ∀ s, found = some s → w.Has token.session s.family s.user
  | .rotating token read _ _ => ask = .refresh token false ∧ read.revokedAt = none ∧
      w.Has token.session read.family read.user
  | .loggingOut s => ask = .logout s.family ∧ s.family < w.sessions.length
  | .changing user _ => ask = .password user
  | .revoking cause numbers _ => w.Answers ask cause ∧ seen ≤ w.sessions.length ∧
      ∀ (i : Nat) s, i < seen → w.sessions[i]? = some s → cause.covers s = true → i ∈ numbers

/-- What holds between the steps of an undisturbed run. -/
structure Sound (w : World) : Prop where
  rows : Rows w.sessions w.rotations (w.reused ++ w.ended)
  grounded : ∀ request, w.Grounded (w.asks request) (w.seen request) (w.requests request)

/-! ## The rows -/

namespace Rows

variable {sessions after : List Session} {rotations barred : List Nat}

theorem initial : Rows [] [] [] where
  one_left i j s s' first := by cases first
  owner i j s s' first := by cases first
  numbered i s there := by cases there
  tokens i s there := by cases there
  rotated_once := List.nodup_nil
  rotated i mem := absurd mem List.not_mem_nil
  closed i s there := by cases there
  closed_numbered f mem := absurd mem List.not_mem_nil

/-- Sessions are revoked. -/
theorem revised (h : Rows sessions rotations barred) (revised : Revised sessions after) :
    Rows after rotations barred where
  one_left := by
    intro i j s s' first second same live live'
    obtain ⟨t, there, becomes⟩ := revised.same i s first
    obtain ⟨t', there', becomes'⟩ := revised.same j s' second
    exact h.one_left i j t t' there there' (by rw [← becomes.family, ← becomes'.family, same])
      (becomes.stays live) (becomes'.stays live')
  owner := by
    intro i j s s' first second same
    obtain ⟨t, there, becomes⟩ := revised.same i s first
    obtain ⟨t', there', becomes'⟩ := revised.same j s' second
    rw [becomes.user, becomes'.user]
    exact h.owner i j t t' there there' (by rw [← becomes.family, ← becomes'.family, same])
  numbered := by
    intro i s there
    obtain ⟨t, before, becomes⟩ := revised.same i s there
    rw [becomes.family, revised.length]
    exact h.numbered i t before
  tokens := by
    intro i s there
    obtain ⟨t, before, becomes⟩ := revised.same i s there
    rw [becomes.token, becomes.family]
    exact h.tokens i t before
  rotated_once := h.rotated_once
  rotated := by
    intro i mem
    obtain ⟨s, there, revoked⟩ := h.rotated i mem
    obtain ⟨s', found, becomes⟩ := revised.kept there
    exact ⟨s', found, fun live => revoked (becomes.stays live)⟩
  closed := by
    intro i s there shut live
    obtain ⟨t, before, becomes⟩ := revised.same i s there
    exact h.closed i t before (becomes.family ▸ shut) (becomes.stays live)
  closed_numbered := by
    rw [revised.length]
    exact h.closed_numbered

/-- A session is appended to a family that is not closed and has none left. -/
theorem append (h : Rows sessions rotations barred) {new : Session} (numbered : new.family ≤ sessions.length)
    (token : new.token.family = new.family)
    (none_left : ∀ (i : Nat) s, sessions[i]? = some s → s.family = new.family → s.revokedAt ≠ none)
    (owned : ∀ (i : Nat) s, sessions[i]? = some s → s.family = new.family → s.user = new.user)
    (unclosed : new.family ∉ barred) : Rows (sessions ++ [new]) rotations barred := by
  have cases_of : ∀ (i : Nat) s, (sessions ++ [new])[i]? = some s →
      sessions[i]? = some s ∨ i = sessions.length ∧ s = new := by
    intro i s there
    by_cases within : i < sessions.length
    · exact .inl ((List.getElem?_append_left within).symm.trans there)
    · have there := (List.getElem?_append_right (Nat.le_of_not_lt within)).symm.trans there
      obtain ⟨short, own⟩ := List.getElem?_eq_some_iff.mp there
      rw [List.length_singleton] at short
      rw [List.getElem_singleton] at own
      exact .inr ⟨by omega, own.symm⟩
  have still : ∀ {i : Nat} {s}, sessions[i]? = some s → (sessions ++ [new])[i]? = some s := by
    intro i s there
    exact (List.getElem?_append_left (List.getElem?_eq_some_iff.mp there).1).trans there
  have longer : (sessions ++ [new]).length = sessions.length + 1 := by
    rw [List.length_append, List.length_singleton]
  refine ⟨?_, ?_, ?_, ?_, h.rotated_once, ?_, ?_, ?_⟩
  · intro i j s s' first second same live live'
    rcases cases_of i s first with before | ⟨last, rfl⟩ <;> rcases cases_of j s' second with before' | ⟨last', rfl⟩
    · exact h.one_left i j s s' before before' same live live'
    · exact absurd live (none_left i s before same)
    · exact absurd live' (none_left j s' before' same.symm)
    · rw [last, last']
  · intro i j s s' first second same
    rcases cases_of i s first with before | ⟨_, rfl⟩ <;> rcases cases_of j s' second with before' | ⟨_, rfl⟩
    · exact h.owner i j s s' before before' same
    · exact owned i s before same
    · exact (owned j s' before' same.symm).symm
    · rfl
  · intro i s there
    rw [longer]
    rcases cases_of i s there with before | ⟨_, rfl⟩
    · exact Nat.lt_succ_of_lt (h.numbered i s before)
    · exact Nat.lt_succ_of_le numbered
  · intro i s there
    rcases cases_of i s there with before | ⟨_, rfl⟩
    · exact h.tokens i s before
    · exact token
  · intro i mem
    obtain ⟨s, there, revoked⟩ := h.rotated i mem
    exact ⟨s, still there, revoked⟩
  · intro i s there shut
    rcases cases_of i s there with before | ⟨_, rfl⟩
    · exact h.closed i s before shut
    · exact absurd shut unclosed
  · intro f mem
    rw [longer]
    exact Nat.lt_succ_of_lt (h.closed_numbered f mem)

/-- What an answer promises is kept when it is given. -/
theorem answered (h : Rows sessions rotations barred) {new barred' : List Nat}
    (once : (rotations ++ new).Nodup) (rotated : ∀ i ∈ new, ∃ s, sessions[i]? = some s ∧ s.revokedAt ≠ none)
    (shut : ∀ f ∈ barred', f ∈ barred ∨ f < sessions.length ∧
      ∀ (i : Nat) s, sessions[i]? = some s → s.family = f → s.revokedAt ≠ none) :
    Rows sessions (rotations ++ new) barred' where
  one_left := h.one_left
  owner := h.owner
  numbered := h.numbered
  tokens := h.tokens
  rotated_once := once
  rotated i mem := (List.mem_append.mp mem).elim (h.rotated i) (rotated i)
  closed i s there mem := (shut s.family mem).elim (h.closed i s there) fun now => now.2 i s there rfl
  closed_numbered f mem := (shut f mem).elim (h.closed_numbered f) And.left

end Rows

/-- What a request has read is still there when sessions have come or been revoked. -/
theorem Grounded.mono {w w' : World} {ask : Ask} {seen : Nat} {point : Request} (h : w.Grounded ask seen point)
    (extended : Extended w.sessions w'.sessions) : w'.Grounded ask seen point := by
  have kept : ∀ number family user, w.Has number family user → w'.Has number family user := by
    rintro number family user ⟨s, there, rfl, rfl⟩
    have within := (List.getElem?_eq_some_iff.mp there).1.trans_le extended.length
    exact ⟨w'.sessions[number], List.getElem?_eq_getElem within,
      extended.same number s _ there (List.getElem?_eq_getElem within)⟩
  cases point with
  | idle => trivial
  | loggingIn | issuing | changing => exact h
  | refreshing token found =>
    obtain ⟨rotated, asked, revoked, has⟩ := h
    exact ⟨rotated, asked, fun again => ⟨(revoked again).1.trans_le extended.length, (revoked again).2⟩,
      fun s is_found => kept _ _ _ (has s is_found)⟩
  | rotating token read revokedAt issue => exact ⟨h.1, h.2.1, kept _ _ _ h.2.2⟩
  | loggingOut s => exact ⟨h.1, h.2.trans_le extended.length⟩
  | revoking cause numbers revokedAt =>
    obtain ⟨answers, started, found⟩ := h
    refine ⟨?_, started.trans extended.length, ?_⟩
    · cases cause with
      | presented family =>
        obtain ⟨token, rotated, asked, own, there⟩ := answers
        exact ⟨token, rotated, asked, own, fun again => (there again).trans_le extended.length⟩
      | logout family => exact ⟨answers.1, answers.2.trans_le extended.length⟩
      | password => exact answers
    · intro i s' early there covers
      obtain ⟨s, before, family, user⟩ := extended.old there (early.trans_le started)
      exact found i s early before ((covers_congr family user cause).symm.trans covers)

namespace Sound

variable {w : World} {request : Nat}

theorem secure (h : Sound w) : Secure w where
  one_live i j s s' first second same now live live' :=
    h.rows.one_left i j s s' first second same live.1 live'.1
  rotated_once := h.rows.rotated_once
  reused := by
    intro s mem closed now live
    obtain ⟨i, there⟩ := List.mem_iff_getElem?.mp mem
    exact h.rows.closed i s there (List.mem_append_left _ closed) live.1
  ended := by
    intro s mem closed now live
    obtain ⟨i, there⟩ := List.mem_iff_getElem?.mp mem
    exact h.rows.closed i s there (List.mem_append_right _ closed) live.1

theorem initial (users : String → Option User) : Sound (.initial users) where
  rows := .initial
  grounded _ := trivial

/-! ## Requests -/

/-- A request goes on. -/
theorem goTo (h : Sound w) {point : Request} (grounded : w.Grounded (w.asks request) w.sessions.length point) :
    Sound (w.goTo request point) where
  rows := h.rows
  grounded := by
    intro other
    show w.Grounded (w.asks other) (Function.update w.seen request w.sessions.length other)
      (Function.update w.requests request point other)
    by_cases same : other = request
    · rw [same, Function.update_self, Function.update_self]
      exact grounded
    · rw [Function.update_of_ne same, Function.update_of_ne same]
      exact h.grounded other

/-- A request arrives. -/
theorem ask (h : Sound w) (idle : w.requests request = .idle) (what : Ask) : Sound (w.ask request what) where
  rows := h.rows
  grounded := by
    intro other
    show w.Grounded (Function.update w.asks request what other) (w.seen other) (w.requests other)
    by_cases same : other = request
    · rw [same, idle]
      trivial
    · rw [Function.update_of_ne same]
      exact h.grounded other

/-- What the request asked for, once it has arrived. -/
theorem asked (request : Nat) (what : Ask) : (w.ask request what).asks request = what := Function.update_self ..

/-- A request is answered. -/
theorem answer (h : Sound w) {status : Nat} (once : (w.rotations ++ rotates (w.asks request) status).Nodup)
    (rotated : ∀ i ∈ rotates (w.asks request) status, ∃ s, w.sessions[i]? = some s ∧ s.revokedAt ≠ none)
    (shut : ∀ f ∈ reuses (w.asks request) ++ w.ends (w.asks request) status, f < w.sessions.length ∧
      ∀ (i : Nat) s, w.sessions[i]? = some s → s.family = f → s.revokedAt ≠ none) :
    Sound (w.answer request status) where
  rows := by
    refine h.rows.answered once rotated fun f mem => ?_
    change f ∈ (w.reused ++ reuses (w.asks request)) ++ (w.ended ++ w.ends (w.asks request) status) at mem
    simp only [List.mem_append] at mem shut ⊢
    rcases mem with (before | now) | before | now
    · exact .inl (.inl before)
    · exact .inr (shut f (.inl now))
    · exact .inl (.inr before)
    · exact .inr (shut f (.inr now))
  grounded := by
    have gone : Sound (w.goTo request .idle) := h.goTo trivial
    exact gone.grounded

/-- A request that rotates nothing is answered once the families it ends have no session left. -/
theorem shut (h : Sound w) {status : Nat} (unrotated : rotates (w.asks request) status = [])
    (shut : ∀ f ∈ reuses (w.asks request) ++ w.ends (w.asks request) status, f < w.sessions.length ∧
      ∀ (i : Nat) s, w.sessions[i]? = some s → s.family = f → s.revokedAt ≠ none) :
    Sound (w.answer request status) := by
  refine h.answer ?_ ?_ shut
  · rw [unrotated, List.append_nil]
    exact h.rows.rotated_once
  · rw [unrotated]
    exact List.forall_mem_nil _

/-- A request is answered with nothing to promise. -/
theorem dismiss (h : Sound w) {status : Nat} (rotates : rotates (w.asks request) status = [])
    (reuses : reuses (w.asks request) = []) (ends : w.ends (w.asks request) status = []) :
    Sound (w.answer request status) := by
  refine h.shut rotates ?_
  rw [reuses, ends]
  exact List.forall_mem_nil _

/-- The tables are written. -/
theorem written (h : Sound w) {w' : World} (rows : Rows w'.sessions w.rotations (w.reused ++ w.ended))
    (extended : Extended w.sessions w'.sessions) (requests : w'.requests = w.requests) (asks : w'.asks = w.asks)
    (seen : w'.seen = w.seen) (rotations : w'.rotations = w.rotations)
    (closed : w'.reused ++ w'.ended = w.reused ++ w.ended) : Sound w' where
  rows := by
    rw [rotations, closed]
    exact rows
  grounded := by
    intro request
    rw [requests, asks, seen]
    exact (h.grounded request).mono extended

/-! ## Commits -/

/-- A rotation is committed whose session is as it was read. -/
theorem rotate (h : Sound w) {token : Token} {read : Session} (asks : w.asks request = .refresh token false)
    (has : w.Has token.session read.family read.user)
    (unrevoked : ∀ s, w.sessions[token.session]? = some s → s.revokedAt = none) (revokedAt : Time) (issue : Issue) :
    Sound (((w.replace token.session revokedAt).append read.user read.family issue).answer request 200) := by
  obtain ⟨s, there, own, owner⟩ := has
  have live := unrevoked s there
  have revised := revised_modify w.sessions token.session revokedAt (some w.sessions.length)
  have replaced : ∀ t, (w.replace token.session revokedAt).sessions[token.session]? = some t → t.revokedAt ≠ none := by
    intro t after
    have after : (w.sessions.modify token.session fun s =>
        { s with revokedAt := some revokedAt, replacedBy := some w.sessions.length })[token.session]? = some t := after
    rw [List.getElem?_modify_eq, there] at after
    cases after
    exact Option.some_ne_none _
  have rows : Rows ((w.replace token.session revokedAt).append read.user read.family issue).sessions w.rotations
      (w.reused ++ w.ended) := by
    refine (h.rows.revised revised).append ?_ rfl ?_ ?_ ?_
    · show read.family ≤ (w.sessions.modify token.session _).length
      rw [List.length_modify, ← own]
      exact Nat.le_of_lt (h.rows.numbered _ s there)
    · -- the one session that the family has left is the replaced one
      intro i t after same gone
      obtain ⟨t', before, becomes⟩ := revised.same i t after
      have last := h.rows.one_left i token.session t' s before there (by rw [← becomes.family, same, own])
        (becomes.stays gone) live
      rw [last] at after
      exact replaced t after gone
    · intro i t after same
      obtain ⟨t', before, becomes⟩ := revised.same i t after
      rw [becomes.user, show read.user = s.user from owner.symm]
      exact h.rows.owner i token.session t' s before there (by rw [← becomes.family, same, own])
    · intro shut
      exact h.rows.closed _ s there (own ▸ shut) live
  have extended : Extended w.sessions ((w.replace token.session revokedAt).append read.user read.family issue).sessions := by
    have longer := extended_append (w.replace token.session revokedAt).sessions
      { user := read.user, family := read.family,
        token := { session := (w.replace token.session revokedAt).sessions.length, family := read.family
                   expiresAt := issue.tokenExpiresAt }
        csrfHash := issue.csrfHash, expiresAt := issue.expiresAt, revokedAt := none, replacedBy := none }
    exact revised.extended.trans longer
  refine (h.written rows extended rfl rfl rfl rfl rfl).answer ?_ ?_ ?_
  · show (w.rotations ++ rotates (w.asks request) 200).Nodup
    rw [asks]
    refine h.rows.rotated_once.append (List.nodup_singleton _) (List.disjoint_singleton.mpr fun earlier => ?_)
    obtain ⟨t, found, gone⟩ := h.rows.rotated token.session earlier
    cases there.symm.trans found
    exact gone live
  · show ∀ i ∈ rotates (w.asks request) 200, _
    rw [asks]
    intro i mem
    rw [List.mem_singleton.mp mem]
    obtain ⟨t, after, _⟩ := revised.kept there
    refine ⟨t, ?_, replaced t after⟩
    exact (List.getElem?_append_left (List.getElem?_eq_some_iff.mp after).1).trans after
  · show ∀ f ∈ reuses (w.asks request) ++ World.ends _ (w.asks request) 200, _
    rw [asks]
    exact List.forall_mem_nil _

/-- A revocation leaves no session that it is about, if nothing was committed since it began that it should have
found. -/
theorem revoke_leaves {cause : Cause} {numbers : List Nat} {seen : Nat}
    (found : ∀ (i : Nat) s, i < seen → w.sessions[i]? = some s → cause.covers s = true → i ∈ numbers)
    (fits : ∀ (i : Nat) s, seen ≤ i → w.sessions[i]? = some s → cause.covers s = true → s.revokedAt ≠ none)
    (revokedAt : Time) {i : Nat} {s : Session} (there : (w.revoke numbers revokedAt).sessions[i]? = some s)
    (covers : cause.covers s = true) : s.revokedAt ≠ none := by
  intro live
  have there : (w.sessions.mapIdx fun i s => if i ∈ numbers then { s with revokedAt := some revokedAt } else s)[i]? =
      some s := there
  rw [List.getElem?_mapIdx] at there
  obtain ⟨t, before, own⟩ := Option.map_eq_some_iff.mp there
  split at own
  · rw [← own] at live
    cases live
  next missed =>
    rw [own] at before
    rcases Nat.lt_or_ge i seen with early | late
    · exact missed (found i s early before covers)
    · exact fits i s late before covers live

/-- A revocation is committed, and nothing was committed since it began that it should have found. -/
theorem revokes (h : Sound w) {cause : Cause} {numbers : List Nat} {seen : Nat}
    (answers : w.Answers (w.asks request) cause)
    (found : ∀ (i : Nat) s, i < seen → w.sessions[i]? = some s → cause.covers s = true → i ∈ numbers)
    (fits : ∀ (i : Nat) s, seen ≤ i → w.sessions[i]? = some s → cause.covers s = true → s.revokedAt ≠ none)
    (revokedAt : Time) : Sound (((w.revoke numbers revokedAt).setPassword cause).answer request cause.status) := by
  have revised := revised_mapIdx w.sessions numbers revokedAt
  have table : ((w.revoke numbers revokedAt).setPassword cause).sessions = (w.revoke numbers revokedAt).sessions := by
    cases cause <;> rfl
  have gone : ∀ (i : Nat) s, ((w.revoke numbers revokedAt).setPassword cause).sessions[i]? = some s →
      cause.covers s = true → s.revokedAt ≠ none := by
    rw [table]
    exact fun i s there covers => revoke_leaves found fits revokedAt there covers
  have sound : Sound ((w.revoke numbers revokedAt).setPassword cause) := by
    refine h.written ?_ ?_ ?_ ?_ ?_ ?_ ?_
    · rw [table]
      exact h.rows.revised revised
    · rw [table]
      exact revised.extended
    all_goals cases cause <;> rfl
  have asks : ((w.revoke numbers revokedAt).setPassword cause).asks request = w.asks request := by
    cases cause <;> rfl
  have length : ((w.revoke numbers revokedAt).setPassword cause).sessions.length = w.sessions.length := by
    rw [table]
    exact revised.length
  cases cause with
  | presented family =>
    obtain ⟨token, rotated, asked, own, there⟩ := answers
    refine sound.shut ?_ ?_
    · rw [asks, asked]
      rfl
    · rw [asks, asked]
      intro f mem
      cases rotated with
      | false => cases mem
      | true =>
        obtain rfl : f = token.family := List.mem_singleton.mp mem
        rw [length, own]
        exact ⟨there rfl, fun i s inside same => gone i s inside (decide_eq_true same)⟩
  | logout family =>
    refine sound.shut ?_ ?_
    · rw [asks, answers.1]
      rfl
    · rw [asks, answers.1]
      intro f mem
      obtain rfl : f = family := List.mem_singleton.mp mem
      rw [length]
      exact ⟨answers.2, fun i s inside same => gone i s inside (decide_eq_true same)⟩
  | password user hash =>
    have answers : w.asks request = .password user := answers
    refine sound.shut ?_ ?_
    · rw [asks, answers]
      rfl
    · rw [asks, answers]
      intro f mem
      -- a family belongs to one user, and so all of it has been found
      obtain ⟨t, inside, rfl⟩ := List.mem_map.mp mem
      obtain ⟨there, mine⟩ := List.mem_filter.mp inside
      obtain ⟨j, found⟩ := List.mem_iff_getElem?.mp there
      refine ⟨sound.rows.numbered j t found, fun i s inside same => gone i s inside ?_⟩
      exact decide_eq_true ((sound.rows.owner i j s t inside found same).trans (of_decide_eq_true mine))

/-- A first session is committed. -/
theorem issue (h : Sound w) (asks : w.asks request = .login) (user : String) (issue : Issue) :
    Sound ((w.append user w.sessions.length issue).answer request 200) := by
  have sound : Sound (w.append user w.sessions.length issue) := by
    refine h.written (h.rows.append (Nat.le_refl _) rfl ?_ ?_ ?_) (extended_append _ _) rfl rfl rfl rfl rfl
    · intro i s there same
      exact absurd (h.rows.numbered i s there) (by rw [same]; exact Nat.lt_irrefl _)
    · intro i s there same
      exact absurd (h.rows.numbered i s there) (by rw [same]; exact Nat.lt_irrefl _)
    · intro shut
      exact absurd (h.rows.closed_numbered _ shut) (Nat.lt_irrefl _)
  have asks : (w.append user w.sessions.length issue).asks request = .login := asks
  exact sound.dismiss (by rw [asks]; rfl) (by rw [asks]; rfl) (by rw [asks]; rfl)

/-! ## Every step -/

variable {lib : Library}

theorem has_of_sessionOf {token : Token} {s : Session} (found : w.sessionOf token = some s) :
    w.Has token.session s.family s.user :=
  ⟨s, (Option.filter_eq_some_iff.mp found).1, rfl, rfl⟩

/-- A rotated token is one of a session that is revoked. -/
theorem of_rotated (h : Sound w) {token : Token} (rotated : w.rotated token = true) :
    token.family < w.sessions.length ∧ ∃ s, w.sessionOf token = some s ∧ s.revokedAt ≠ none := by
  obtain ⟨some_session, earlier⟩ := Bool.and_eq_true_iff.mp rotated
  obtain ⟨s, found⟩ := Option.isSome_iff_exists.mp some_session
  obtain ⟨there, own⟩ := Option.filter_eq_some_iff.mp found
  obtain ⟨t, there', revoked⟩ := h.rows.rotated token.session (List.contains_iff_mem.mp earlier)
  cases there.symm.trans there'
  have family : token.family = s.family := by
    rw [← of_decide_eq_true own]
    exact h.rows.tokens _ s there
  exact ⟨family ▸ h.rows.numbered _ s there, s, found, revoked⟩

/-- An `UPDATE` finds what is committed when it begins. -/
theorem mem_covered {cause : Cause} {i : Nat} {s : Session} (there : w.sessions[i]? = some s)
    (covers : cause.covers s = true) : i ∈ w.covered cause := by
  refine List.mem_filter.mpr ⟨List.mem_range.mpr (List.getElem?_eq_some_iff.mp there).1, ?_⟩
  rw [there]
  exact covers

/-- A request goes on to the revocation that it has asked for. -/
theorem toRevoking (h : Sound w) {cause : Cause} (answers : w.Answers (w.asks request) cause) (now : Time) :
    Sound (w.goTo request (.revoking cause (w.covered cause) now)) :=
  h.goTo ⟨answers, Nat.le_refl _, fun _ _ _ there covers => mem_covered there covers⟩

theorem go (h : Sound w) {a : Answer} (undisturbed : Undisturbed w (.go request a)) : Sound (w.go lib request a) := by
  have fits : Fits w request := undisturbed
  have grounded := h.grounded request
  unfold Fits at fits
  unfold World.go
  cases here : w.requests request with
  | idle => exact h
  | refreshing token found =>
    rw [here] at grounded
    obtain ⟨rotated, asked, revoked, has⟩ := grounded
    have answers : w.Answers (w.asks request) (.presented token.family) :=
      ⟨token, rotated, asked, rfl, fun again => (revoked again).1⟩
    cases found with
    | none => exact h.toRevoking answers a.now
    | some s =>
      dsimp only
      split
      · exact h.toRevoking answers a.now
      next valid =>
        have live : s.revokedAt = none := by
          simp only [Bool.or_eq_true, not_or, Option.isSome_iff_ne_none, ne_eq, not_not] at valid
          exact valid.1
        -- the session is not revoked, so the token has no successor
        have first : rotated = false := by
          cases rotated with
          | false => rfl
          | true =>
            obtain ⟨_, t, same, gone⟩ := revoked rfl
            cases same
            exact absurd live gone
        subst first
        have refused (status : Nat) (other : status ≠ 200) : Sound (w.answer request status) := by
          refine h.dismiss ?_ (by rw [asked]; rfl) (by rw [asked]; rfl)
          rw [asked]
          unfold rotates
          split
          next again => cases again; exact absurd rfl other
          · rfl
        split
        · exact refused 403 (by decide)
        · split
          · exact refused 401 (by decide)
          · split
            · exact refused 401 (by decide)
            · exact h.goTo ⟨asked, live, has s rfl⟩
  | rotating token read revokedAt issue =>
    rw [here] at grounded fits
    exact h.rotate grounded.1 grounded.2.2 (fun s there => (fits s there).trans grounded.2.1) revokedAt issue
  | loggingOut s =>
    rw [here] at grounded
    dsimp only
    split
    · exact h.dismiss (by rw [grounded.1]; rfl) (by rw [grounded.1]; rfl) (by rw [grounded.1]; rfl)
    · have answers : w.Answers (w.asks request) (.logout s.family) := grounded
      exact h.toRevoking answers a.now
  | changing user hash =>
    rw [here] at grounded
    have answers : w.Answers (w.asks request) (.password user hash) := grounded
    exact h.toRevoking answers a.now
  | revoking cause numbers revokedAt =>
    rw [here] at grounded fits
    exact h.revokes grounded.1 grounded.2.2 fits revokedAt
  | loggingIn user =>
    rw [here] at grounded
    exact h.goTo grounded
  | issuing user issue =>
    rw [here] at grounded
    exact h.issue grounded user issue

theorem step (h : Sound w) {e : Event} (undisturbed : Undisturbed w e) : Sound (w.step lib e) := by
  cases e with
  | login request user password admitted =>
    unfold World.step
    dsimp only
    split
    next idle _ =>
      split
      · exact (h.ask idle .login).goTo (asked request .login)
      · exact h
    · exact h
  | refresh request token now =>
    unfold World.step
    dsimp only
    split
    next idle =>
      have arrived := h.ask idle (.refresh token (w.rotated token))
      have asked : (w.ask request (.refresh token (w.rotated token))).asks request =
        .refresh token (w.rotated token) := asked request _
      split
      next expired =>
        refine arrived.shut ?_ ?_
        · rw [asked]
          rfl
        · rw [asked]
          intro f mem
          cases rotated : w.rotated token with
          | false =>
            rw [rotated] at mem
            cases mem
          | true =>
            rw [rotated] at mem
            obtain rfl : f = token.family := List.mem_singleton.mp mem
            exact ⟨(h.of_rotated rotated).1, fun i s there same =>
              undisturbed rotated expired s (List.mem_iff_getElem?.mpr ⟨i, there⟩) same⟩
      · refine arrived.goTo ⟨w.rotated token, asked, fun rotated => h.of_rotated rotated, ?_⟩
        exact fun s found => has_of_sessionOf found
    · exact h
  | logout request token =>
    unfold World.step
    dsimp only
    split
    next s idle found =>
      refine (h.ask idle (.logout s.family)).goTo ⟨asked request _, ?_⟩
      exact h.rows.numbered _ s (Option.filter_eq_some_iff.mp found).1
    · exact h
  | changePassword request user current hash =>
    unfold World.step
    dsimp only
    split
    next idle _ =>
      split
      · exact (h.ask idle (.password user)).goTo (asked request _)
      · exact h
    · exact h
  | go request a => exact h.go undisturbed
  | drop request => exact h.goTo trivial

end Sound

end World

/-- **Where no rotation is committed for a session that was revoked since it was read, and no revocation misses a
session that was committed since it began, the answers are kept in every state.** -/
theorem sessions_secure (lib : Library) (users : String → Option User) (events : List Event)
    (undisturbed : Runs.Meets (World.step lib) Undisturbed (World.initial users) events) (before after : List Event)
    (split : events = before ++ after) : Secure ((World.initial users).run lib before) :=
  (Runs.states_of_meets (I := World.Sound) (fun _ _ h ok => h.step ok) (World.Sound.initial users) undisturbed
    before after split).secure

/-! ## Two requests with one token -/

/-- Any password is right, and a token is good for a day. -/
def openLibrary : Library where
  verifyPassword _ _ := true
  csrfDigest text := text
  refreshTokenDays := 1

/-- One active user. -/
def oneUser : String → Option User := fun name => if name = "u" then some { passwordHash := "", active := true } else none

/-- A step with the right CSRF token. -/
def goes (request : Nat) : Event :=
  .go request { now := 0, storedAt := 0, header := some "c", cookie := some "c", csrfToken := "c" }

/-- The token of the first session. -/
def firstToken : Token where
  session := 0
  family := 0
  expiresAt := 86400 * second

/-- A login, and a refresh with its token. -/
def refreshed : List Event :=
  [.login 0 "u" "p" true, goes 0, goes 0, .refresh 1 firstToken 0, goes 1, goes 1]

/-- One refresh after the login is secure. -/
theorem refreshed_secure : Secure ((World.initial oneUser).run openLibrary refreshed) := by
  apply sessions_secure openLibrary oneUser refreshed _ refreshed [] (List.append_nil _).symm
  refine ⟨trivial, trivial, trivial, ?_, trivial, ?_, trivial⟩
  · intro rotated
    exact absurd rotated (by decide +kernel)
  · intro s there
    cases there
    rfl

/-- Two refreshes with the same token that both read before either commits. -/
def both : List Event :=
  [.login 0 "u" "p" true, goes 0, goes 0, .refresh 1 firstToken 0, .refresh 2 firstToken 0, goes 1, goes 2, goes 1,
    goes 2]

/-- Both yield a session. -/
theorem two_live : ¬ Secure ((World.initial oneUser).run openLibrary both) := by
  intro secure
  have twice : ((World.initial oneUser).run openLibrary both).rotations = [0, 0] := by decide +kernel
  have once := secure.rotated_once
  rw [twice] at once
  exact absurd once (by decide)

end Firebot.Auth
