namespace RobotBus

/-- Tables in ascending order of their keys. Storing under a key that is present replaces its entry
in place, so that `get?` obeys the same laws whatever the order of the entries. -/
structure Directory (α β : Type) where
  entries : List (α × β)
deriving DecidableEq, Repr

namespace Directory

variable {α β γ : Type}

def empty : Directory α β := ⟨[]⟩

def keys (t : Directory α β) : List α := t.entries.map Prod.fst

def size (t : Directory α β) : Nat := t.entries.length

variable [DecidableEq α]

def lookup (k : α) : List (α × β) → Option β
  | [] => none
  | (k', v) :: m => if k' = k then some v else lookup k m

def get? (t : Directory α β) (k : α) : Option β := lookup k t.entries

def contains (t : Directory α β) (k : α) : Bool := (t.get? k).isSome

def store [LT α] [DecidableLT α] (k : α) (v : β) : List (α × β) → List (α × β)
  | [] => [(k, v)]
  | (k', v') :: m =>
    if k' = k then (k, v) :: m
    else if k < k' then (k, v) :: (k', v') :: m
    else (k', v') :: store k v m

def insert [LT α] [DecidableLT α] (t : Directory α β) (k : α) (v : β) : Directory α β :=
  ⟨store k v t.entries⟩

def erase (t : Directory α β) (k : α) : Directory α β := ⟨t.entries.filter (fun e ↦ e.1 ≠ k)⟩

/-- A later entry of the list replaces an earlier one of the same key. -/
def ofList [LT α] [DecidableLT α] (l : List (α × β)) : Directory α β :=
  l.foldl (fun t e ↦ t.insert e.1 e.2) empty

@[simp] theorem get?_empty (k : α) : (empty : Directory α β).get? k = none := rfl

@[simp] theorem get?_insert [LT α] [DecidableLT α] (t : Directory α β) (k k' : α) (v : β) :
    (t.insert k v).get? k' = if k = k' then some v else t.get? k' := by
  simp only [get?, insert]
  induction t.entries with
  | nil => rfl
  | cons e m ih =>
    obtain ⟨l, w⟩ := e
    by_cases hl : l = k
    · subst hl; by_cases hk : l = k' <;> simp [store, lookup, hk]
    · by_cases hlt : k < l
      · simp [store, lookup, hl, hlt]
      · by_cases hk : l = k'
        · subst hk; simp [store, lookup, hl, hlt, Ne.symm hl]
        · simp [store, lookup, hl, hlt, hk, ih]

@[simp] theorem get?_erase (t : Directory α β) (k k' : α) :
    (t.erase k).get? k' = if k = k' then none else t.get? k' := by
  simp only [get?, erase]
  induction t.entries with
  | nil => simp [lookup]
  | cons e m ih =>
    obtain ⟨l, w⟩ := e
    by_cases hl : l = k
    · subst hl; by_cases hk : l = k' <;> simp_all [lookup]
    · by_cases hk : l = k' <;> by_cases hkk : k = k' <;> simp_all [lookup]

end Directory

end RobotBus
