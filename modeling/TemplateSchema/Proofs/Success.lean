import Mathlib.Data.List.Forall2
import TemplateSchema.Schema.Reading
import TemplateSchema.Failure
/-!
What the success of a composed run says of its parts.
-/
set_option autoImplicit false
namespace TemplateSchema

variable {ε δ α β : Type}

namespace Success

theorem bind_exact {x : Except ε α} {next : α → Except ε β} {b : β} :
    x >>= next = .ok b ↔ ∃ a, x = .ok a ∧ next a = .ok b := by
  cases x <;> simp [bind,Except.bind]

theorem bind_fails {x : Except ε α} {next : α → Except ε β} {e : ε} :
    x >>= next = .error e ↔ x = .error e ∨ ∃ a, x = .ok a ∧ next a = .error e := by
  cases x <;> simp [bind,Except.bind]

theorem map_exact {x : Except ε α} {f : α → β} {b : β} : x.map f = .ok b ↔ ∃ a, x = .ok a ∧ f a = b := by
  cases x <;> simp [Except.map]

theorem mapError_exact {x : Except ε α} {f : ε → δ} {a : α} : x.mapError f = .ok a ↔ x = .ok a := by
  constructor
  · intro mapped
    cases x <;> cases mapped
    rfl
  · rintro rfl
    rfl

theorem mapError_fails {x : Except ε α} {f : ε → δ} {d : δ} :
    x.mapError f = .error d ↔ ∃ e, x = .error e ∧ f e = d := by
  constructor
  · intro mapped
    cases x <;> cases mapped
    exact ⟨_,rfl,rfl⟩
  · rintro ⟨e,rfl,rfl⟩
    rfl

-- Where rows are made one by one, what is made from a row is found.
theorem row_made {R : α → β → Prop} {as : List α} {bs : List β} {a : α} (each : List.Forall₂ R as bs)
    (member : a ∈ as) : ∃ b ∈ bs, R a b := by
  induction each with
  | nil => cases member
  | cons first _ ih =>
    rcases List.mem_cons.mp member with rfl | later
    · exact ⟨_,List.mem_cons_self,first⟩
    · obtain ⟨b,inside,made⟩ := ih later
      exact ⟨b,List.mem_cons_of_mem _ inside,made⟩

end Success

namespace Traced

theorem pure_outcome (a : α) : (pure a : Traced α).outcome = .ok a :=
  rfl

theorem done_bind (a : α) (next : α → Traced β) : (done a >>= next) = next a :=
  rfl

theorem bind_outcome {x : Traced α} {next : α → Traced β} {b : β} :
    (x >>= next).outcome = .ok b ↔ ∃ a, x.outcome = .ok a ∧ (next a).outcome = .ok b := by
  change (Traced.andThen x next).outcome = .ok b ↔ _
  unfold Traced.andThen
  cases x.outcome <;> simp

theorem bind_fails {x : Traced α} {next : α → Traced β} {f : Failure} :
    (x >>= next).outcome = .error f ↔
      x.outcome = .error f ∨ ∃ a, x.outcome = .ok a ∧ (next a).outcome = .error f := by
  change (Traced.andThen x next).outcome = .error f ↔ _
  unfold Traced.andThen
  cases x.outcome <;> simp

theorem bind_congr {x : Traced α} {next other : α → Traced β} (same : ∀ a, x.outcome = .ok a → next a = other a) :
    x >>= next = x >>= other := by
  change Traced.andThen x next = Traced.andThen x other
  unfold Traced.andThen
  cases succeeded : x.outcome with
  | ok a => simp only [same a succeeded]
  | error f => rfl

theorem ofExcept_outcome (x : Except Failure α) : (ofExcept x).outcome = x := by
  cases x <;> rfl

-- A run ends well with a good result, or badly with a failure that is foreseen.
def Meets (x : Traced α) (good : α → Prop) (bad : Failure → Prop) : Prop :=
  (∀ a, x.outcome = .ok a → good a) ∧ ∀ f, x.outcome = .error f → bad f

section Meets

variable {good : α → Prop} {bad : Failure → Prop}

theorem meets_pure {a : α} (holds : good a) : Meets (pure a : Traced α) good bad :=
  ⟨by rintro _ ⟨⟩; exact holds,by rintro _ ⟨⟩⟩

theorem meets_failed {f : Failure} (foreseen : bad f) : Meets (failed f : Traced α) good bad :=
  ⟨by rintro _ ⟨⟩,by rintro _ ⟨⟩; exact foreseen⟩

theorem meets_bind {middle : α → Prop} {good : β → Prop} {x : Traced α} {next : α → Traced β}
    (first : x.Meets middle bad) (later : ∀ a, middle a → (next a).Meets good bad) : (x >>= next).Meets good bad := by
  change (Traced.andThen x next).Meets good bad
  unfold Traced.andThen
  obtain ⟨succeeds,fails⟩ := first
  cases outcome : x.outcome with
  | error f => exact meets_failed (fails f outcome)
  | ok a =>
    obtain ⟨goodNext,badNext⟩ := later a (succeeds a outcome)
    exact ⟨goodNext,badNext⟩

theorem meets_ofExcept {x : Except Failure α} (succeeds : ∀ a, x = .ok a → good a)
    (fails : ∀ f, x = .error f → bad f) : (ofExcept x).Meets good bad := by
  unfold Meets
  rw [ofExcept_outcome]
  exact ⟨succeeds,fails⟩

theorem Meets.weaken {worse : Failure → Prop} {x : Traced α} (meets : x.Meets good bad)
    (weaker : ∀ f, bad f → worse f) : x.Meets good worse :=
  ⟨meets.1,fun f failed => weaker f (meets.2 f failed)⟩

end Meets

end Traced

namespace Reading

theorem and_exact {x : Reading α} {y : Reading β} {a : α} {b : β} :
    x.and y = .ok (a,b) ↔ x = .ok a ∧ y = .ok b := by
  cases x <;> cases y <;> simp [Reading.and]

theorem under_exact {segment : Segment} {x : Reading α} {a : α} : under segment x = .ok a ↔ x = .ok a :=
  Success.mapError_exact

end Reading

end TemplateSchema
