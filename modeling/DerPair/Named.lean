namespace DerPair

-- Values held under names. Putting a value under a known name replaces it.
structure Named (α : Type) where
  entries : List (String × α)

namespace Named

def empty : Named α := ⟨[]⟩

def get? (held : Named α) (name : String) : Option α := held.entries.lookup name

def replace (name : String) (value : α) : List (String × α) → List (String × α)
  | [] => [(name, value)]
  | (known, old) :: rest =>
    if name = known then (known, value) :: rest else (known, old) :: replace name value rest

def put (held : Named α) (name : String) (value : α) : Named α :=
  ⟨replace name value held.entries⟩

theorem lookup_replace (entries : List (String × α)) (name other : String) (value : α) :
    (replace name value entries).lookup other =
      if other = name then some value else entries.lookup other := by
  induction entries with
  | nil =>
    by_cases same : other = name
    · simp [replace, same]
    · simp [replace, List.lookup_cons, same, beq_false_of_ne same]
  | cons entry rest ih =>
    obtain ⟨known, old⟩ := entry
    by_cases found : name = known
    · subst found
      by_cases same : other = name
      · simp [replace, same]
      · simp [replace, List.lookup_cons, same, beq_false_of_ne same]
    · by_cases same : other = known
      · subst same
        simp [replace, found, Ne.symm found]
      · simpa [replace, found, List.lookup_cons, beq_false_of_ne same] using ih

theorem get?_put (held : Named α) (name other : String) (value : α) :
    (held.put name value).get? other = if other = name then some value else held.get? other :=
  lookup_replace _ _ _ _

end Named
end DerPair
