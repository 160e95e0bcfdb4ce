import Mathlib.Data.List.Nodup

/-!
# Things that are used once

Under each key one thing at most is standing: `issue` puts a new one in the place of the old one, and `use` uses
up the one that stands, with what is kept of its use. A history is the list of what has happened, the newest
first. `standing` is what stands under a key and how it was used, if it was. `Sound` says that every use was of
the thing that stood there, unused.

What is issued once is then used at most once (`nodup_used`), and every use comes after its issue with nothing
else under its key in between (`Sound.issued_before`).
-/

universe u v w

/-- One thing that has happened. -/
inductive OneTime (κ : Type u) (α : Type v) (β : Type w) where
  | issue (key : κ) (thing : α)
  | use (key : κ) (thing : α) (how : β)

namespace OneTime

variable {κ : Type u} {α : Type v} {β : Type w}

/-- The key that it is about. -/
def key : OneTime κ α β → κ
  | .issue k _ => k
  | .use k _ _ => k

/-- The things issued, with their keys. -/
def issued (history : List (OneTime κ α β)) : List (κ × α) :=
  history.filterMap fun
    | .issue k a => some (k, a)
    | .use _ _ _ => none

/-- The things used, with their keys. -/
def used (history : List (OneTime κ α β)) : List (κ × α) :=
  history.filterMap fun
    | .issue _ _ => none
    | .use k a _ => some (k, a)

variable [DecidableEq κ]

/-- What stands under a key, and how it was used. -/
def standing (k : κ) : List (OneTime κ α β) → Option (α × Option β)
  | [] => none
  | .issue k' a :: history => if k' = k then some (a, none) else standing k history
  | .use k' a how :: history => if k' = k then some (a, some how) else standing k history

/-- Every use was of what stood under its key, unused. -/
def Sound : List (OneTime κ α β) → Prop
  | [] => True
  | .issue _ _ :: history => Sound history
  | .use k a _ :: history => standing k history = some (a, none) ∧ Sound history

section

variable {history : List (OneTime κ α β)} {k k' : κ} {a a' : α} {how : β}

theorem standing_issue : standing k (.issue k' a :: history) = if k' = k then some (a, none) else standing k history :=
  rfl

theorem standing_use :
    standing k (.use k' a how :: history) = if k' = k then some (a, some how) else standing k history := rfl

/-- What happens under another key. -/
theorem standing_other {op : OneTime κ α β} (other : op.key ≠ k) : standing k (op :: history) = standing k history := by
  cases op with
  | issue key thing => exact if_neg other
  | use key thing how => exact if_neg other

/-- What stands under a key was issued or used there. -/
theorem mem_of_standing {stands : α × Option β} (h : standing k history = some stands) :
    ∃ op ∈ history, op = .issue k stands.1 ∨ ∃ how, op = .use k stands.1 how := by
  induction history with
  | nil => cases h
  | cons op history ih =>
    by_cases same : op.key = k
    · refine ⟨op, List.mem_cons_self, ?_⟩
      cases op with
      | issue key thing =>
        obtain rfl : key = k := same
        rw [standing_issue, if_pos rfl] at h
        cases h
        exact .inl rfl
      | use key thing how =>
        obtain rfl : key = k := same
        rw [standing_use, if_pos rfl] at h
        cases h
        exact .inr ⟨how, rfl⟩
    · rw [standing_other same] at h
      obtain ⟨op', mem, was⟩ := ih h
      exact ⟨op', List.mem_cons_of_mem _ mem, was⟩

/-- What stands unused was issued, and nothing has happened under its key since. -/
theorem issued_of_standing (stands : standing k history = some (a, none)) :
    ∃ since before, history = since ++ .issue k a :: before ∧ ∀ op ∈ since, op.key ≠ k := by
  induction history with
  | nil => cases stands
  | cons op history ih =>
    by_cases same : op.key = k
    · cases op with
      | issue key thing =>
        obtain rfl : key = k := same
        rw [standing_issue, if_pos rfl] at stands
        cases stands
        exact ⟨[], history, rfl, fun _ none => absurd none List.not_mem_nil⟩
      | use key thing how =>
        obtain rfl : key = k := same
        rw [standing_use, if_pos rfl] at stands
        cases stands
    · rw [standing_other same] at stands
      obtain ⟨since, before, split, others⟩ := ih stands
      refine ⟨op :: since, before, by rw [split]; rfl, ?_⟩
      intro op' mem
      rcases List.mem_cons.mp mem with rfl | mem
      · exact same
      · exact others op' mem

theorem Sound.tail {op : OneTime κ α β} (sound : Sound (op :: history)) : Sound history := by
  cases op with
  | issue => exact sound
  | use => exact sound.2

theorem Sound.drop {since : List (OneTime κ α β)} (sound : Sound (since ++ history)) : Sound history := by
  induction since with
  | nil => exact sound
  | cons op since ih => exact ih (Sound.tail sound)

/-- A use comes after the issue of the same thing, and nothing has happened under its key in between. -/
theorem Sound.issued_before {since before : List (OneTime κ α β)} (sound : Sound (since ++ .use k a how :: before)) :
    ∃ between earlier, before = between ++ .issue k a :: earlier ∧ ∀ op ∈ between, op.key ≠ k :=
  issued_of_standing (Sound.drop sound).1

theorem mem_issued_of_standing (stands : standing k history = some (a, none)) : (k, a) ∈ issued history := by
  obtain ⟨since, before, rfl, _⟩ := issued_of_standing stands
  unfold issued
  rw [List.filterMap_append]
  exact List.mem_append_right _ List.mem_cons_self

/-- What was used was issued. -/
theorem Sound.mem_issued (sound : Sound history) {entry : κ × α} (mem : entry ∈ used history) :
    entry ∈ issued history := by
  induction history with
  | nil => cases mem
  | cons op history ih =>
    cases op with
    | issue key thing => exact List.mem_cons_of_mem _ (ih sound mem)
    | use key thing how =>
      rcases List.mem_cons.mp mem with rfl | mem
      · show (key, thing) ∈ issued history
        exact mem_issued_of_standing sound.1
      · exact ih sound.2 mem

/-- What stands unused has not been used, where nothing is issued twice. -/
theorem Sound.notMem_used (sound : Sound history) (distinct : (issued history).Nodup)
    (stands : standing k history = some (a, none)) : (k, a) ∉ used history := by
  induction history with
  | nil => exact List.not_mem_nil
  | cons op history ih =>
    cases op with
    | issue key thing =>
      rw [standing_issue] at stands
      obtain ⟨new, distinct⟩ := List.nodup_cons.mp distinct
      by_cases same : key = k
      · rw [if_pos same] at stands
        cases stands
        cases same
        exact fun mem => new (Sound.mem_issued (show Sound history from sound) mem)
      · rw [if_neg same] at stands
        exact ih sound distinct stands
    | use key thing how =>
      rw [standing_use] at stands
      by_cases same : key = k
      · rw [if_pos same] at stands
        cases stands
      · rw [if_neg same] at stands
        intro mem
        rcases List.mem_cons.mp mem with equal | mem
        · exact same (Prod.ext_iff.mp equal).1.symm
        · exact ih sound.2 distinct stands mem

/-- What is issued once is used once at most. -/
theorem Sound.nodup_used (sound : Sound history) (distinct : (issued history).Nodup) : (used history).Nodup := by
  induction history with
  | nil => exact List.nodup_nil
  | cons op history ih =>
    cases op with
    | issue key thing => exact ih sound (List.nodup_cons.mp distinct).2
    | use key thing how =>
      exact List.nodup_cons.mpr ⟨Sound.notMem_used sound.2 distinct sound.1, ih sound.2 distinct⟩

end

end OneTime
