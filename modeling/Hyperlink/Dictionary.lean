/-!
# Hyperlink.Dictionary — pairs in ascending order of their keys

A dictionary holds one value per key, in ascending order of the keys by code point. `insert` puts a pair in its
place and replaces the value of a key that is there already, so the last pair of a key wins in `ofPairs`.
-/

namespace Hyperlink.Dictionary

variable {α : Type}

/-- Puts the pair in its place; the value of a key that is there already is replaced. -/
def insert (key : String) (value : α) : List (String × α) → List (String × α)
  | [] => [(key, value)]
  | p :: ps =>
    if key < p.1 then (key, value) :: p :: ps
    else if p.1 < key then p :: insert key value ps
    else (key, value) :: ps

/-- The pairs in ascending order of their keys; of several pairs with one key the last wins. -/
def ofPairs (ps : List (String × α)) : List (String × α) :=
  ps.foldl (fun d p => insert p.1 p.2 d) []

@[simp] theorem ofPairs_nil : ofPairs ([] : List (String × α)) = [] := rfl

theorem ofPairs_concat (ps : List (String × α)) (p : String × α) :
    ofPairs (ps ++ [p]) = insert p.1 p.2 (ofPairs ps) := by
  simp [ofPairs, List.foldl_append]

/-- The keys are those of the pairs. -/
theorem mem_keys_insert {key k : String} {value : α} {d : List (String × α)} :
    k ∈ (insert key value d).map Prod.fst ↔ k = key ∨ k ∈ d.map Prod.fst := by
  induction d with
  | nil => simp [insert]
  | cons p ps ih =>
    unfold insert
    split
    · simp
    · split
      · simp only [List.map_cons, List.mem_cons, ih]
        grind
      · next h1 h2 =>
        have : p.1 = key := String.le_antisymm (String.not_lt.1 h1) (String.not_lt.1 h2)
        simp [this]

end Hyperlink.Dictionary
