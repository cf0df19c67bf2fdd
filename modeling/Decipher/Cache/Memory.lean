/-!
# Caches in memory

A memory cache holds one value at most for each digest.  The last value that was
set under a digest is the one that is there.
-/

namespace Decipher

structure MemoryCache (α : Type) where
  /-- The digests that have a value, each once, with their values. -/
  entries : List (String × α)

namespace MemoryCache

variable {α : Type}

/-- A cache without values. -/
def empty : MemoryCache α := ⟨[]⟩

/-- The value under a digest. -/
def get? (c : MemoryCache α) (digest : String) : Option α := c.entries.lookup digest

/-- Takes the value under a digest away. -/
def erase (c : MemoryCache α) (digest : String) : MemoryCache α :=
  ⟨c.entries.filter fun e => digest != e.1⟩

/-- Puts a value under a digest, in the stead of the one that was there. -/
def set (c : MemoryCache α) (digest : String) (value : α) : MemoryCache α :=
  ⟨(digest, value) :: (c.erase digest).entries⟩

/-- The number of digests that have a value. -/
def size (c : MemoryCache α) : Nat := c.entries.length

/-- Whether no digest has a value. -/
def isEmpty (c : MemoryCache α) : Bool := c.entries.isEmpty

/-! ## What is found after a change -/

@[simp] theorem get?_empty (digest : String) : (empty : MemoryCache α).get? digest = none := rfl

theorem lookup_filter_ne (digest other : String) (entries : List (String × α)) :
    (entries.filter fun e => digest != e.1).lookup other =
      if other = digest then none else entries.lookup other := by
  induction entries with
  | nil => simp
  | cons e rest ih =>
    obtain ⟨key, value⟩ := e
    by_cases hk : digest = key
    · subst hk
      by_cases ho : other = digest
      · simp [ho]
      · simp [ih, ho, List.lookup_cons, beq_false_of_ne ho]
    · by_cases ho : other = key
      · have hd : other ≠ digest := fun h => hk (h.symm.trans ho)
        simp [ho, hk, ho ▸ hd]
      · simp [hk, List.lookup_cons, beq_false_of_ne ho, ih]

@[simp] theorem get?_erase (c : MemoryCache α) (digest other : String) :
    (c.erase digest).get? other = if other = digest then none else c.get? other :=
  lookup_filter_ne digest other c.entries

@[simp] theorem get?_set (c : MemoryCache α) (digest other : String) (value : α) :
    (c.set digest value).get? other = if other = digest then some value else c.get? other := by
  by_cases h : other = digest
  · simp [set, get?, h]
  · have := get?_erase c digest other
    simp only [get?, h, if_false] at this
    simp [set, get?, List.lookup_cons, beq_false_of_ne h, h, this]

end MemoryCache

end Decipher
