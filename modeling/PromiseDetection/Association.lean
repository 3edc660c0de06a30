/-!
Association lists.

A list of pairs holds under a key what the first pair with this key says. A key is given another
value by taking its pairs out and putting the new one in front.
-/

namespace PromiseDetection.Association

variable {Key Value : Type} [DecidableEq Key]

theorem lookup_cons (known : Key × Value) (rest : List (Key × Value)) (sought : Key) :
    (known :: rest).lookup sought =
      if sought = known.1 then some known.2 else rest.lookup sought := by
  rw [List.lookup_cons]
  by_cases same : sought = known.1
  · simp [same]
  · simp [same, beq_eq_false_iff_ne.mpr same]

theorem lookup_without (pairs : List (Key × Value)) (key sought : Key) :
    (pairs.filter fun known => known.1 ≠ key).lookup sought =
      if sought = key then none else pairs.lookup sought := by
  induction pairs with
  | nil => simp
  | cons known rest inductionHypothesis =>
    by_cases dropped : known.1 = key
    · simp only [List.filter_cons, dropped, lookup_cons]
      split <;> simp_all
    · simp only [List.filter_cons, lookup_cons]
      by_cases same : sought = known.1 <;> simp_all [lookup_cons]

theorem lookup_replaced (pairs : List (Key × Value)) (key sought : Key) (value : Value) :
    ((key, value) :: pairs.filter fun known => known.1 ≠ key).lookup sought =
      if sought = key then some value else pairs.lookup sought := by
  rw [lookup_cons, lookup_without]
  split <;> rfl

end PromiseDetection.Association
