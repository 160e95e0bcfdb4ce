/-!
# A look, and what has come since

Something is looked at and acted on later, and nothing is locked in between. Whoever has looked keeps a list
of what has come since. `Covers` says that the list misses nothing that is there: a look that finds nothing
begins with an empty list, what comes is noted, and what goes needs no note. An act finds nothing in its way
once nothing on its list is there any more.
-/

namespace Watch

universe u

variable {ι : Type u} {present present' : ι → Prop} {since : List ι}

/-- Whatever is there has come since the look. -/
def Covers (present : ι → Prop) (since : List ι) : Prop := ∀ i, present i → i ∈ since

/-- A look that finds nothing. -/
theorem covers_nil (nothing : ∀ i, ¬ present i) : Covers present [] := by
  intro i there
  exact absurd there (nothing i)

/-- Something comes and is noted. -/
theorem Covers.note (covers : Covers present since) {i : ι}
    (came : ∀ j, present' j → j = i ∨ present j) : Covers present' (i :: since) := by
  intro j there
  rcases came j there with rfl | before
  · exact List.mem_cons_self
  · exact List.mem_cons_of_mem _ (covers j before)

/-- Nothing comes. -/
theorem Covers.mono (covers : Covers present since) (kept : ∀ i, present' i → present i) :
    Covers present' since := by
  intro i there
  exact covers i (kept i there)

/-- Nothing on the list is there any more, and so nothing is. -/
theorem Covers.nothing (covers : Covers present since) (gone : ∀ i ∈ since, ¬ present i) (i : ι) :
    ¬ present i := by
  intro there
  exact gone i (covers i there) there

end Watch
