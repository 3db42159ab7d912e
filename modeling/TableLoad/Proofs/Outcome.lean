import Mathlib.Data.List.Forall2
import TableLoad.Conversion.Convert
import TableLoad.Conversion.Verify

/-!
# Steps that may fail

When a chain of failing steps succeeds, when a list of checked or converted items
does, and what failures and results are like.
-/

set_option autoImplicit false

namespace TableLoad

section Chains

variable {ε α β : Type}

theorem bind_eq_ok_iff (first : Except ε α) (next : α → Except ε β) (result : β) :
    (first >>= next) = .ok result ↔ ∃ value, first = .ok value ∧ next value = .ok result := by
  cases first with
  | error cause => simp [bind, Except.bind]
  | ok value => simp [bind, Except.bind]

theorem bind_eq_error_iff (first : Except ε α) (next : α → Except ε β) (cause : ε) :
    (first >>= next) = .error cause ↔
      first = .error cause ∨ ∃ value, first = .ok value ∧ next value = .error cause := by
  cases first with
  | error reason => simp [bind, Except.bind]
  | ok value => simp [bind, Except.bind]

theorem pure_eq_ok_iff (value result : β) :
    (pure value : Except ε β) = .ok result ↔ value = result := by
  simp [pure, Except.pure]

end Chains

section Lists

variable {ε α β : Type}

theorem exists_left_of_related {related : α → β → Prop} {left : List α} {right : List β}
    (all : List.Forall₂ related left right) {b : β} (member : b ∈ right) :
    ∃ a ∈ left, related a b := by
  induction all with
  | nil => simp at member
  | @cons a c left right first _ ih =>
    rcases List.mem_cons.mp member with same | later
    · exact ⟨a, by simp, same ▸ first⟩
    · obtain ⟨partner, inside, holds⟩ := ih later
      exact ⟨partner, by simp [inside], holds⟩

theorem exists_right_of_related {related : α → β → Prop} {left : List α} {right : List β}
    (all : List.Forall₂ related left right) {a : α} (member : a ∈ left) :
    ∃ b ∈ right, related a b :=
  exists_left_of_related all.flip member

theorem related_at {related : α → β → Prop} {left : List α} {right : List β}
    (all : List.Forall₂ related left right) {i : Nat} {b : β} (found : right[i]? = some b) :
    ∃ a, left[i]? = some a ∧ related a b := by
  induction all generalizing i with
  | nil => simp at found
  | @cons a c left right first _ ih =>
    cases i with
    | zero =>
      cases found
      exact ⟨a, rfl, first⟩
    | succ i => exact ih (by simpa using found)

theorem forEachFrom_ok_iff (check : Nat → α → Except ε Unit) (good : α → Prop)
    (items : List α)
    (each : ∀ item ∈ items, ∀ index, check index item = .ok () ↔ good item)
    (index : Nat) :
    forEachFrom check index items = .ok () ↔ ∀ item ∈ items, good item := by
  induction items generalizing index with
  | nil => simp [forEachFrom]
  | cons item rest ih =>
    have head := each item (by simp) index
    have tail := ih (fun other member => each other (by simp [member])) (index + 1)
    rw [forEachFrom, bind_eq_ok_iff]
    simp only [List.mem_cons, forall_eq_or_imp]
    constructor
    · rintro ⟨_, first, later⟩
      exact ⟨head.mp first, tail.mp later⟩
    · rintro ⟨first, later⟩
      exact ⟨(), head.mpr first, tail.mpr later⟩

theorem mapEachFrom_total (convert : Nat → α → Except ε β) (related : α → β → Prop)
    (items : List α)
    (each : ∀ item ∈ items, ∀ index, ∃ result, convert index item = .ok result ∧
      related item result)
    (index : Nat) :
    ∃ results, mapEachFrom convert index items = .ok results ∧
      List.Forall₂ related items results := by
  induction items generalizing index with
  | nil => exact ⟨[], rfl, .nil⟩
  | cons item rest ih =>
    obtain ⟨result, first, relatedFirst⟩ := each item (by simp) index
    obtain ⟨results, later, relatedLater⟩ :=
      ih (fun other member => each other (by simp [member])) (index + 1)
    refine ⟨result :: results, ?_, .cons relatedFirst relatedLater⟩
    simp [mapEachFrom, first, later, bind, Except.bind, pure, Except.pure]

theorem mapEachFrom_related (convert : Nat → α → Except ε β) (related : α → β → Prop)
    (items : List α)
    (each : ∀ item ∈ items, ∀ index result, convert index item = .ok result →
      related item result)
    (index : Nat) (results : List β)
    (converted : mapEachFrom convert index items = .ok results) :
    List.Forall₂ related items results := by
  induction items generalizing index results with
  | nil =>
    have empty : [] = results := by simpa [mapEachFrom] using converted
    rw [← empty]
    exact .nil
  | cons item rest ih =>
    rw [mapEachFrom, bind_eq_ok_iff] at converted
    obtain ⟨result, first, converted⟩ := converted
    rw [bind_eq_ok_iff] at converted
    obtain ⟨others, later, whole⟩ := converted
    rw [pure_eq_ok_iff] at whole
    rw [← whole]
    exact .cons (each item (by simp) index result first)
      (ih (fun other member => each other (by simp [member])) (index + 1) others later)

/-- Items that are all good and stay as they are make the same list, and no others
make a list at all. -/
theorem mapEachFrom_unchanged (convert : Nat → α → Except ε α) (good : α → Prop)
    (items : List α)
    (each : ∀ item ∈ items, ∀ index result,
      convert index item = .ok result ↔ good item ∧ result = item)
    (index : Nat) (results : List α) :
    mapEachFrom convert index items = .ok results ↔
      (∀ item ∈ items, good item) ∧ results = items := by
  induction items generalizing index results with
  | nil => simp [mapEachFrom, eq_comm]
  | cons item rest ih =>
    have head := each item List.mem_cons_self index
    have tail := ih (fun other member => each other (List.mem_cons_of_mem item member)) (index + 1)
    rw [mapEachFrom, bind_eq_ok_iff, List.forall_mem_cons]
    constructor
    · rintro ⟨result, first, converted⟩
      rw [bind_eq_ok_iff] at converted
      obtain ⟨others, later, whole⟩ := converted
      obtain ⟨goodItem, rfl⟩ := (head result).mp first
      obtain ⟨goodRest, rfl⟩ := (tail others).mp later
      rw [pure_eq_ok_iff] at whole
      exact ⟨⟨goodItem, goodRest⟩, whole.symm⟩
    · rintro ⟨⟨goodItem, goodRest⟩, rfl⟩
      refine ⟨item, (head item).mpr ⟨goodItem, rfl⟩, ?_⟩
      rw [bind_eq_ok_iff]
      exact ⟨rest, (tail rest).mpr ⟨goodRest, rfl⟩, rfl⟩

theorem mapEachFrom_at (convert : Nat → α → Except ε β) (items : List α) (index : Nat)
    (results : List β) (converted : mapEachFrom convert index items = .ok results) (place : Nat)
    (item : α) (found : items[place]? = some item) :
    ∃ result, results[place]? = some result ∧ convert (index + place) item = .ok result := by
  induction items generalizing index results place with
  | nil => simp at found
  | cons head rest ih =>
    rw [mapEachFrom, bind_eq_ok_iff] at converted
    obtain ⟨result, first, converted⟩ := converted
    rw [bind_eq_ok_iff] at converted
    obtain ⟨others, later, whole⟩ := converted
    rw [pure_eq_ok_iff] at whole
    subst whole
    cases place with
    | zero =>
      cases found
      exact ⟨result, rfl, first⟩
    | succ place =>
      obtain ⟨one, oneAt, fine⟩ := ih (index + 1) others later place found
      rw [Nat.add_assoc, Nat.add_comm 1] at fine
      exact ⟨one, oneAt, fine⟩

theorem mapEachFrom_append (convert : Nat → α → Except ε β) (front back : List α) (index : Nat) :
    mapEachFrom convert index (front ++ back) = (do
      let first ← mapEachFrom convert index front
      return first ++ (← mapEachFrom convert (index + front.length) back)) := by
  induction front generalizing index with
  | nil =>
    rw [List.nil_append, List.length_nil, Nat.add_zero]
    cases mapEachFrom convert index back <;> rfl
  | cons item rest ih =>
    have count : index + 1 + rest.length = index + (item :: rest).length := by
      rw [List.length_cons]
      omega
    rw [List.cons_append, mapEachFrom, mapEachFrom, ih (index + 1), count]
    cases convert index item with
    | error cause => rfl
    | ok result =>
      cases mapEachFrom convert (index + 1) rest with
      | error cause => rfl
      | ok results =>
        cases mapEachFrom convert (index + (item :: rest).length) back <;> rfl

/-- The error that ends a conversion is that of the first item that is not converted. -/
theorem mapEachFrom_stops (convert : Nat → α → Except ε β) (items : List α) (index : Nat)
    (cause : ε) (stopped : mapEachFrom convert index items = .error cause) :
    ∃ place item, items[place]? = some item ∧ convert (index + place) item = .error cause ∧
      ∀ earlier < place, ∀ other, items[earlier]? = some other →
        ∃ result, convert (index + earlier) other = .ok result := by
  induction items generalizing index with
  | nil => cases stopped
  | cons item rest ih =>
    rw [mapEachFrom, bind_eq_error_iff] at stopped
    rcases stopped with head | ⟨result, head, stopped⟩
    · exact ⟨0, item, rfl, head, fun _ impossible => absurd impossible (Nat.not_lt_zero _)⟩
    rw [bind_eq_error_iff] at stopped
    rcases stopped with tail | ⟨results, _, impossible⟩
    · obtain ⟨place, found, foundAt, failed, before⟩ := ih (index + 1) tail
      refine ⟨place + 1, found, foundAt, ?_, ?_⟩
      · rwa [Nat.add_assoc, Nat.add_comm 1] at failed
      · intro earlier less other otherAt
        cases earlier with
        | zero =>
          cases otherAt
          exact ⟨result, head⟩
        | succ earlier =>
          have fine := before earlier (Nat.lt_of_succ_lt_succ less) other otherAt
          rwa [Nat.add_assoc, Nat.add_comm 1] at fine
    · cases impossible

end Lists

section Yields

variable {ε α β : Type} {failing : ε → Prop} {good : α → Prop} {fine : β → Prop}

/-- Whatever comes of a step: a failure or a result of the stated kind. -/
def Yields (failing : ε → Prop) (good : α → Prop) : Except ε α → Prop
  | .error cause => failing cause
  | .ok result => good result

theorem yields_mono {worse : ε → Prop} {better : α → Prop} {outcome : Except ε α}
    (kinds : ∀ cause, failing cause → worse cause) (results : ∀ result, good result → better result)
    (yields : Yields failing good outcome) : Yields worse better outcome := by
  cases outcome with
  | error cause => exact kinds cause yields
  | ok result => exact results result yields

theorem yields_of_ok {outcome : Except ε α} (fails : Yields failing (fun _ => True) outcome)
    (results : ∀ result, outcome = .ok result → good result) : Yields failing good outcome := by
  cases outcome with
  | error cause => exact fails
  | ok result => exact results result rfl

theorem yields_bind {first : Except ε α} {next : α → Except ε β} (start : Yields failing good first)
    (later : ∀ result, good result → Yields failing fine (next result)) :
    Yields failing fine (first >>= next) := by
  cases first with
  | error cause => exact start
  | ok result => exact later result start

theorem yields_pure {first : Except ε α} {make : α → β} (start : Yields failing good first) :
    Yields failing (fun _ => True) (first >>= fun result => pure (make result)) :=
  yields_bind start fun _ _ => trivial

theorem yields_mapM {read : α → Except ε β} (items : List α)
    (each : ∀ item ∈ items, Yields failing fine (read item)) :
    Yields failing (fun results => ∀ result ∈ results, fine result) (items.mapM read) := by
  induction items with
  | nil => exact fun _ member => absurd member List.not_mem_nil
  | cons item rest ih =>
    rw [List.mapM_cons]
    refine yields_bind (each item List.mem_cons_self) fun result first => ?_
    refine yields_bind (ih fun other member => each other (List.mem_cons_of_mem item member)) ?_
    intro results later
    exact List.forall_mem_cons.mpr ⟨first, later⟩

theorem yields_forEachFrom {check : Nat → α → Except ε Unit} (items : List α)
    (each : ∀ item ∈ items, ∀ index, Yields failing (fun _ => True) (check index item))
    (index : Nat) : Yields failing (fun _ => True) (forEachFrom check index items) := by
  induction items generalizing index with
  | nil => trivial
  | cons item rest ih =>
    rw [forEachFrom]
    refine yields_bind (each item List.mem_cons_self index) fun _ _ => ?_
    exact ih (fun other member => each other (List.mem_cons_of_mem item member)) (index + 1)

theorem yields_mapEachFrom {convert : Nat → α → Except ε β} (items : List α)
    (each : ∀ item ∈ items, ∀ index, Yields failing fine (convert index item)) (index : Nat) :
    Yields failing (fun results => ∀ result ∈ results, fine result)
      (mapEachFrom convert index items) := by
  induction items generalizing index with
  | nil => exact fun _ member => absurd member List.not_mem_nil
  | cons item rest ih =>
    rw [mapEachFrom]
    refine yields_bind (each item List.mem_cons_self index) fun result first => ?_
    refine yields_bind
      (ih (fun other member => each other (List.mem_cons_of_mem item member)) (index + 1)) ?_
    intro results later
    exact List.forall_mem_cons.mpr ⟨first, later⟩

end Yields

end TableLoad
