import TemplateSchema.Proofs.Success
import TemplateSchema.Template.Extraction
/-!
What extraction gives for every text: no schema, a mapping of declarations, or one of two failures.
Both come from a scalar that is well-formed and still has no value, so that it is no fault of the
text's syntax: one under a tag of the front matter, or an integer of too many digits in the directive.
-/
set_option autoImplicit false
namespace TemplateSchema.Template

variable {text : String} {f : Failure} {v : Value}

-- A mapping whose `fields` are a mapping of mappings.
def IsSchema (v : Value) : Prop :=
  ∃ entries fields, v = .map entries ∧ Entries.field entries Declaration.fieldsKey = .map fields ∧
    ∀ entry ∈ fields, ∃ declared, entry.2 = .map declared

-- The front matter holds a scalar that its tag has no value for.
inductive Unvalued (text : String) : Failure → Prop where
  | scalar {front : String} {cs : List Char} {fault : Yaml.ScalarFault}
      (framed : (FrontMatter.split text).1 = some front)
      (refused : Yaml.load front = .error (.flaw cs (.scalar fault))) :
      Unvalued text (.yaml (.flaw front.toList (.scalar fault)))

-- There is no front matter, it is broken, or it is about something else.
def IsSilent (text : String) : Prop :=
  ∀ front, (FrontMatter.split text).1 = some front → match Yaml.load front with
    | .ok v => (v.entries?.bind fun entries => Entries.field? entries schemaKey) = none
    | .error (.flaw _ (.scalar _)) => False
    | .error _ => True

-- The directive is looked at, and it holds an integer of too many digits.
inductive Overlong (text : String) : Failure → Prop where
  | digits {literal : String} {count : Nat} (silent : IsSilent text)
      (found : Directive.literal? text = some literal) (refused : Json.read literal = .error (.digits count)) :
      Overlong text (.digits count)

theorem frontMatter_fails : (inFrontMatter text).outcome = .error f ↔ Unvalued text f := by
  constructor
  · intro failed
    unfold inFrontMatter at failed
    cases framed : (FrontMatter.split text).1 with
    | none => rw [framed] at failed; cases failed
    | some front =>
      rw [framed] at failed
      simp only at failed
      cases read : Yaml.load front with
      | ok v =>
        rw [read] at failed
        simp only at failed
        split at failed <;> cases failed
      | error fault =>
        rw [read] at failed
        rcases fault with ⟨code,position⟩ | ⟨cs,⟨level,report⟩ | fault⟩
        · cases failed
        · cases failed
        · cases failed
          exact .scalar framed read
  · rintro ⟨framed,refused⟩
    unfold inFrontMatter
    simp only [framed,refused]
    rfl

theorem frontMatter_absent : (inFrontMatter text).outcome = .ok .absent ↔ IsSilent text := by
  unfold inFrontMatter IsSilent
  cases framed : (FrontMatter.split text).1 with
  | none => simp [Traced.pure_outcome]
  | some front =>
    simp only [Option.some.injEq,forall_eq']
    cases read : Yaml.load front with
    | ok v =>
      simp only
      cases v.entries?.bind fun entries => Entries.field? entries schemaKey <;> simp [Traced.pure_outcome]
    | error fault =>
      rcases fault with ⟨code,position⟩ | ⟨cs,⟨level,report⟩ | fault⟩
      · exact iff_of_true rfl trivial
      · exact iff_of_true rfl trivial
      · simp [Traced.failed]

theorem directive_fails : (inDirective text).outcome = .error f ↔
    ∃ literal count, Directive.literal? text = some literal ∧ Json.read literal = .error (.digits count) ∧
      f = .digits count := by
  unfold inDirective
  cases found : Directive.literal? text with
  | none => simp [Traced.pure_outcome]
  | some literal =>
    cases read : Json.read literal with
    | ok v => simp [Traced.pure_outcome,read]
    | error fault =>
      cases fault with
      | digits count => simp [Traced.failed,read,eq_comm]
      | malformed reason position line column =>
        simp only [read]
        constructor
        · intro failed
          split at failed <;> cases failed
        · rintro ⟨_,_,same,refused,_⟩
          cases same
          rw [read] at refused
          cases refused

theorem checked_exact (candidate : Value) :
    (checked candidate).outcome = .ok none ∨
      (checked candidate).outcome = .ok (some candidate) ∧ IsSchema candidate := by
  unfold checked
  cases candidate with
  | map entries =>
    simp only
    cases declared : Entries.field entries Declaration.fieldsKey with
    | map fields =>
      simp only
      cases first : firstUndeclared? fields with
      | some entry => exact .inl rfl
      | none =>
        refine .inr ⟨rfl,entries,fields,rfl,declared,?_⟩
        intro entry member
        have mapping := List.find?_eq_none.mp first entry member
        cases v : entry.2 with
        | map declared => exact ⟨_,rfl⟩
        | _ => rw [v] at mapping; exact absurd rfl mapping
    | _ => exact .inl rfl
  | _ => exact .inl rfl

theorem candidate_exact (candidate : Candidate) :
    (checkedCandidate candidate).outcome = .ok none ∨
      ∃ v, (checkedCandidate candidate).outcome = .ok (some v) ∧ IsSchema v := by
  cases candidate with
  | absent => exact .inl rfl
  | declared v =>
    rcases checked_exact v with none_ | ⟨some_,isSchema⟩
    · cases v <;> first | exact .inl rfl | exact .inl none_
    · cases v <;> first | exact .inl rfl | exact .inr ⟨_,some_,isSchema⟩

theorem candidate_total (candidate : Candidate) : (checkedCandidate candidate).outcome ≠ .error f := by
  rcases candidate_exact candidate with none_ | ⟨v,some_,_⟩
  · rw [none_]; intro failed; cases failed
  · rw [some_]; intro failed; cases failed

theorem extract_found (found : (extract text).outcome = .ok (some v)) : IsSchema v := by
  obtain ⟨candidate,_,found⟩ := Traced.bind_outcome.mp found
  have given {candidate : Candidate} (found : (checkedCandidate candidate).outcome = .ok (some v)) :
      IsSchema v := by
    rcases candidate_exact candidate with none_ | ⟨v,some_,isSchema⟩
    · rw [none_] at found; cases found
    · rw [some_] at found; cases found; exact isSchema
  cases candidate with
  | absent =>
    obtain ⟨candidate,_,found⟩ := Traced.bind_outcome.mp found
    exact given found
  | declared w => exact given found

theorem extract_fails : (extract text).outcome = .error f ↔ Unvalued text f ∨ Overlong text f := by
  have step : (extract text).outcome = .error f ↔ (inFrontMatter text).outcome = .error f ∨
      (inFrontMatter text).outcome = .ok .absent ∧ (inDirective text).outcome = .error f := by
    unfold extract
    rw [Traced.bind_fails]
    refine or_congr_right ?_
    constructor
    · rintro ⟨candidate,read,failed⟩
      cases candidate with
      | absent =>
        rcases Traced.bind_fails.mp failed with failed | ⟨candidate,_,failed⟩
        · exact ⟨read,failed⟩
        · exact absurd failed (candidate_total candidate)
      | declared w => exact absurd failed (candidate_total (.declared w))
    · rintro ⟨read,failed⟩
      exact ⟨_,read,Traced.bind_fails.mpr (.inl failed)⟩
  rw [step,frontMatter_fails,frontMatter_absent,directive_fails]
  refine or_congr_right ?_
  constructor
  · rintro ⟨silent,literal,count,found,refused,rfl⟩
    exact .digits silent found refused
  · rintro ⟨silent,found,refused⟩
    exact ⟨silent,_,_,found,refused,rfl⟩

-- Every text gives no schema, a schema, or one of the two failures, and these in no other case.
theorem extract_exact (text : String) :
    (∀ v, (extract text).outcome = .ok (some v) → IsSchema v) ∧
      ∀ f, (extract text).outcome = .error f ↔ Unvalued text f ∨ Overlong text f :=
  ⟨fun _ => extract_found,fun _ => extract_fails⟩

-- What is said where a template cannot be looked into.
def failureMessage? (text : String) : Option String :=
  match (extract text).outcome with
  | .ok _ => none
  | .error f => some f.message

theorem message_exact {message : String} : failureMessage? text = some message ↔
    ∃ f, (extract text).outcome = .error f ∧ f.message = message := by
  unfold failureMessage?
  cases (extract text).outcome <;> simp

-- A day in a thirteenth month is a timestamp by its form, so the template does not load at all.
theorem impossible_day_escapes : ∃ f, (extract "---\ndue: 2024-13-01\n---\n").outcome = .error f ∧
    f.message = "month must be in 1..12" :=
  message_exact.mp (by decide +kernel)

end TemplateSchema.Template
