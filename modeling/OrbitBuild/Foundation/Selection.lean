import Mathlib.Data.Prod.Lex

/-! # The last of the greatest elements

`Iterator::max_by_key` keeps, from left to right, the later of two elements whose
keys are equal. The greatest of a concatenation is the later of the two greatest
(`maxByKey_append`), and a search among the elements that meet one condition with a
search among those that meet another to fall back on is a single search under the
lexicographic key (`maxByKey_or`).
-/

namespace Selection

universe u v

variable {α : Type u} {κ : Type v} [LinearOrder κ] (key : α → κ)

/-- The better of the best element so far and the next one. -/
def later (best next : α) : α := if key next < key best then best else next

/-- `Iterator::max_by_key`. -/
def maxByKey : List α → Option α
  | [] => none
  | first :: rest => some (rest.foldl (later key) first)

variable {key}

/-- The later of two maxima is no smaller than the first. -/
theorem le_later_left (best next : α) : key best ≤ key (later key best next) := by
  unfold later
  split
  · exact le_rfl
  · next notBelow => exact not_lt.mp notBelow

/-- The later of two maxima is no smaller than the second. -/
theorem le_later_right (best next : α) : key next ≤ key (later key best next) := by
  unfold later
  split
  · next below => exact below.le
  · exact le_rfl

/-- The scan returns one of the elements. -/
theorem foldl_later_mem (first : α) (rest : List α) :
    rest.foldl (later key) first ∈ first :: rest := by
  induction rest generalizing first with
  | nil => exact List.mem_singleton_self first
  | cons next rest ih =>
      rcases List.mem_cons.mp (ih (later key first next)) with same | inside
      · rw [List.foldl_cons, same]
        unfold later
        split
        · exact List.mem_cons_self
        · exact List.mem_cons_of_mem _ List.mem_cons_self
      · exact List.mem_cons_of_mem _ (List.mem_cons_of_mem _ inside)

/-- No element exceeds what the scan returns. -/
theorem le_foldl_later (first : α) (rest : List α) :
    ∀ element ∈ first :: rest, key element ≤ key (rest.foldl (later key) first) := by
  induction rest generalizing first with
  | nil =>
      intro element member
      rw [List.mem_singleton.mp member]
      exact le_rfl
  | cons next rest ih =>
      intro element member
      have bound := ih (later key first next)
      rcases List.mem_cons.mp member with rfl | tail
      · exact (le_later_left element next).trans (bound _ List.mem_cons_self)
      · rcases List.mem_cons.mp tail with rfl | inside
        · exact (le_later_right first element).trans (bound _ List.mem_cons_self)
        · exact bound element (List.mem_cons_of_mem _ inside)

/-- Only an empty list has no maximum. -/
theorem maxByKey_eq_none {elements : List α} : maxByKey key elements = none ↔ elements = [] := by
  cases elements with
  | nil => exact ⟨fun _ => rfl, fun _ => rfl⟩
  | cons first rest => simp only [maxByKey, reduceCtorEq]

/-- The maximum is one of the elements. -/
theorem maxByKey_mem {elements : List α} {best : α} (found : maxByKey key elements = some best) :
    best ∈ elements := by
  cases elements with
  | nil => cases found
  | cons first rest =>
      cases found
      exact foldl_later_mem first rest

/-- No element exceeds the maximum. -/
theorem le_of_maxByKey {elements : List α} {best element : α}
    (found : maxByKey key elements = some best) (member : element ∈ elements) :
    key element ≤ key best := by
  cases elements with
  | nil => cases found
  | cons first rest =>
      cases found
      exact le_foldl_later first rest element member

/-- With more elements to choose from the choice does not get worse. -/
theorem maxByKey_mono {elements others : List α} (included : ∀ element ∈ elements, element ∈ others)
    {best : α} (found : maxByKey key elements = some best) :
    ∃ other, maxByKey key others = some other ∧ key best ≤ key other := by
  have listed : best ∈ others := included best (maxByKey_mem found)
  cases chosen : maxByKey key others with
  | none =>
      rw [maxByKey_eq_none.mp chosen] at listed
      exact absurd listed List.not_mem_nil
  | some other => exact ⟨other, rfl, le_of_maxByKey chosen listed⟩

/-- The greatest key depends on the elements only, not on their order. -/
theorem map_maxByKey_congr {first second : List α}
    (same : ∀ element, element ∈ first ↔ element ∈ second) :
    (maxByKey key first).map key = (maxByKey key second).map key := by
  cases foundFirst : maxByKey key first with
  | none =>
      have empty : second = [] := by
        apply List.eq_nil_iff_forall_not_mem.mpr
        intro element member
        rw [← same, maxByKey_eq_none.mp foundFirst] at member
        exact List.not_mem_nil member
      rw [maxByKey_eq_none.mpr empty]
  | some best =>
      cases foundSecond : maxByKey key second with
      | none =>
          have member := (same best).mp (maxByKey_mem foundFirst)
          rw [maxByKey_eq_none.mp foundSecond] at member
          exact absurd member List.not_mem_nil
      | some other =>
          have below := le_of_maxByKey foundSecond ((same best).mp (maxByKey_mem foundFirst))
          have above := le_of_maxByKey foundFirst ((same other).mpr (maxByKey_mem foundSecond))
          rw [Option.map_some, Option.map_some, below.antisymm above]

/-- The scan keeps an element that exceeds all later ones. -/
theorem foldl_later_of_lt {best : α} {rest : List α}
    (below : ∀ element ∈ rest, key element < key best) : rest.foldl (later key) best = best := by
  induction rest with
  | nil => rfl
  | cons next rest ih =>
      rw [List.foldl_cons, later, if_pos (below next List.mem_cons_self)]
      exact ih fun element member => below element (List.mem_cons_of_mem _ member)

/-- The scan ends with a last element that no other exceeds. -/
theorem foldl_later_of_le {first best : α} {rest : List α}
    (bounded : ∀ element ∈ first :: rest, key element ≤ key best) :
    (rest ++ [best]).foldl (later key) first = best := by
  have under : key (rest.foldl (later key) first) ≤ key best :=
    bounded _ (foldl_later_mem first rest)
  rw [List.foldl_append, List.foldl_cons, List.foldl_nil, later, if_neg under.not_gt]

/-- The best element splits the list: nothing before it is greater, and everything
after it is smaller. -/
theorem maxByKey_eq_some {elements : List α} {best : α} :
    maxByKey key elements = some best ↔
      ∃ before after, elements = before ++ best :: after ∧
        (∀ element ∈ before, key element ≤ key best) ∧
        ∀ element ∈ after, key element < key best := by
  constructor
  · intro found
    cases elements with
    | nil => cases found
    | cons first rest =>
        have folded := Option.some.inj found
        clear found
        induction rest generalizing first with
        | nil => exact ⟨[], [], by rw [← folded]; rfl, nofun, nofun⟩
        | cons next rest ih =>
            obtain ⟨before, after, split, bounded, below⟩ := ih (later key first next) folded
            have upper : key (later key first next) ≤ key best := by
              rw [← folded, List.foldl_cons]
              exact le_foldl_later _ _ _ List.mem_cons_self
            have front := (le_later_left first next).trans upper
            cases before with
            | cons head before =>
                obtain ⟨-, tail⟩ := List.cons.inj split
                refine ⟨first :: next :: before, after, by rw [tail]; rfl, ?_, below⟩
                intro element member
                rcases List.mem_cons.mp member |>.imp_right List.mem_cons.mp with rfl | rfl | inside
                · exact front
                · exact (le_later_right first element).trans upper
                · exact bounded element (List.mem_cons_of_mem _ inside)
            | nil =>
                obtain ⟨chosen, tail⟩ := List.cons.inj split
                unfold later at chosen
                split at chosen
                · next smaller =>
                    subst chosen
                    refine ⟨[], next :: rest, rfl, nofun, ?_⟩
                    intro element member
                    rcases List.mem_cons.mp member with rfl | inside
                    · exact smaller
                    · exact below element (tail ▸ inside)
                · subst chosen
                  refine ⟨[first], after, by rw [tail]; rfl, ?_, below⟩
                  intro element member
                  rw [List.mem_singleton.mp member]
                  exact front
  · intro both
    obtain ⟨before, after, rfl, bounded, below⟩ := both
    cases before with
    | nil => exact congrArg some (foldl_later_of_lt below)
    | cons first before =>
        have chosen := foldl_later_of_le bounded
        rw [List.cons_append, maxByKey, List.append_cons, List.foldl_append, chosen,
          foldl_later_of_lt below]

/-! ## Concatenation and fallback -/

theorem later_of_lt {best next : α} (below : key next < key best) : later key best next = best :=
  if_pos below

theorem later_of_le {best next : α} (above : key best ≤ key next) : later key best next = next :=
  if_neg above.not_gt

/-- The later of two maxima does not depend on how a list is bracketed. -/
theorem later_assoc (first second third : α) :
    later key (later key first second) third = later key first (later key second third) := by
  rcases lt_or_ge (key second) (key first) with dropped | kept
  · rw [later_of_lt dropped]
    rcases lt_or_ge (key third) (key second) with below | above
    · rw [later_of_lt below, later_of_lt dropped, later_of_lt (below.trans dropped)]
    · rw [later_of_le above]
  · rw [later_of_le kept]
    have raised : key first ≤ key (later key second third) :=
      kept.trans (le_later_left second third)
    rw [later_of_le raised]

/-- A first element competes with the greatest of the others. -/
theorem maxByKey_cons (first : α) (rest : List α) :
    maxByKey key (first :: rest) = (some first).merge (later key) (maxByKey key rest) := by
  cases rest with
  | nil => rfl
  | cons next rest =>
      simp only [maxByKey, Option.merge, List.foldl_cons, Option.some.injEq]
      induction rest generalizing next with
      | nil => rfl
      | cons head rest ih => rw [List.foldl_cons, List.foldl_cons, later_assoc, ih]

/-- The greatest of a concatenation. -/
theorem maxByKey_append (first second : List α) :
    maxByKey key (first ++ second) =
      (maxByKey key first).merge (later key) (maxByKey key second) := by
  induction first with
  | nil =>
      rw [List.nil_append]
      cases maxByKey key second with
      | none => rfl
      | some best => rfl
  | cons head first ih =>
      rw [List.cons_append, maxByKey_cons, ih, maxByKey_cons]
      cases maxByKey key first with
      | none => cases maxByKey key second <;> rfl
      | some best =>
          cases maxByKey key second with
          | none => rfl
          | some other => simp only [Option.merge, later_assoc]

variable (key) in
/-- The greatest of the elements that pass, found in one scan from a best one so far. -/
theorem foldl_merge_later (pass : α → Bool) (elements : List α) (best : Option α) :
    elements.foldl (fun best next =>
        if pass next then best.merge (later key) (some next) else best) best =
      best.merge (later key) (maxByKey key (elements.filter pass)) := by
  induction elements generalizing best with
  | nil => cases best <;> rfl
  | cons first rest ih =>
      rw [List.foldl_cons, ih, List.filter_cons]
      cases pass first with
      | false => simp only [Bool.false_eq_true, ↓reduceIte]
      | true =>
          simp only [↓reduceIte, maxByKey_cons]
          cases best with
          | none => cases maxByKey key (rest.filter pass) <;> rfl
          | some best =>
              cases maxByKey key (rest.filter pass) with
              | none => rfl
              | some other => simp only [Option.merge, later_assoc]

/-- The maximum of images is the image of the maximum by their keys. -/
theorem maxByKey_map {β : Type*} (transform : β → α) (elements : List β) :
    maxByKey key (elements.map transform) =
      (maxByKey (fun element => key (transform element)) elements).map transform := by
  induction elements with
  | nil => rfl
  | cons first rest ih =>
      rw [List.map_cons, maxByKey_cons, maxByKey_cons, ih]
      cases maxByKey (fun element => key (transform element)) rest with
      | none => rfl
      | some best =>
          simp only [Option.merge, Option.map_some, later]
          split <;> rfl

/-- Elements that meet the condition come before all others. -/
def preferring (condition : α → Bool) (key : α → κ) (element : α) : Bool ×ₗ κ :=
  toLex (condition element, key element)

section Fallback

variable {first second : α → Bool} {best next : α}

/-- Between elements that are equally preferred the key decides. -/
theorem later_preferring_same (same : first best = first next) :
    later (preferring first key) best next = later key best next := by
  simp only [later, preferring, Prod.Lex.toLex_lt_toLex, same, lt_irrefl, true_and, false_or]

/-- A preferred element stays, whatever the keys. -/
theorem later_preferring_dropped (met : first best = true) (unmet : first next = false) :
    later (preferring first key) best next = best := by
  apply later_of_lt
  simp only [preferring, Prod.Lex.toLex_lt_toLex, met, unmet, Bool.false_lt_true, true_or]

/-- A preferred element wins over one that is not, whatever the keys. -/
theorem later_preferring_raised (unmet : first best = false) (met : first next = true) :
    later (preferring first key) best next = next := by
  apply later_of_le
  simp only [preferring, Prod.Lex.toLex_le_toLex, unmet, met, Bool.false_lt_true, true_or]

/-- **A search with a fallback is one search.** -/
theorem maxByKey_or (first second : α → Bool) (elements : List α) :
    (maxByKey key (elements.filter first)).or (maxByKey key (elements.filter second)) =
      maxByKey (preferring first key)
        (elements.filter fun element => first element || second element) := by
  induction elements with
  | nil => rfl
  | cons head rest ih =>
      have met_of_found : ∀ {best}, maxByKey key (rest.filter first) = some best →
          first best = true := fun found => (List.mem_filter.mp (maxByKey_mem found)).2
      have unmet_of_absent : maxByKey key (rest.filter first) = none →
          ∀ {best}, maxByKey key (rest.filter second) = some best → first best = false := by
        intro absent best found
        have member := (List.mem_filter.mp (maxByKey_mem found)).1
        have excluded := List.filter_eq_nil_iff.mp (maxByKey_eq_none.mp absent) _ member
        exact Bool.eq_false_iff.mpr excluded
      cases met : first head with
      | true =>
          simp only [List.filter_cons, met, Bool.true_or, ↓reduceIte, maxByKey_cons, ← ih]
          cases found : maxByKey key (rest.filter first) with
          | some best =>
              have same := met.trans (met_of_found found).symm
              simp only [Option.merge, Option.some_or, later_preferring_same same]
          | none =>
              cases fallback : maxByKey key (rest.filter second) with
              | none => simp only [Option.merge, Option.some_or, Option.none_or]
              | some best =>
                  have dropped : later (preferring first key) head best = head :=
                    later_preferring_dropped met (unmet_of_absent found fallback)
                  simp only [Option.merge, Option.some_or, Option.none_or, dropped]
      | false =>
          cases able : second head with
          | false => simpa only [List.filter_cons, met, able, Bool.or_self, Bool.false_eq_true,
              ↓reduceIte] using ih
          | true =>
              simp only [List.filter_cons, met, able, Bool.or_true, ↓reduceIte, maxByKey_cons,
                ← ih, Bool.false_eq_true]
              cases found : maxByKey key (rest.filter first) with
              | some best =>
                  have raised : later (preferring first key) head best = best :=
                    later_preferring_raised met (met_of_found found)
                  simp only [Option.merge, Option.some_or, raised]
              | none =>
                  cases fallback : maxByKey key (rest.filter second) with
                  | none => rfl
                  | some best =>
                      have same := met.trans (unmet_of_absent found fallback).symm
                      simp only [Option.merge, Option.none_or, later_preferring_same same]

end Fallback

end Selection
