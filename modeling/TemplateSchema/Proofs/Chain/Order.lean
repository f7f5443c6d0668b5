import TemplateSchema.Proofs.Chain.Calls
import TemplateSchema.Proofs.Chain.Fields
/-!
The order of the calls in a chain. Calls that supply values for a common key compete; a chain whose
competing calls keep their order declares the same, and what it declares is normalized to the same field.
-/
set_option autoImplicit false
namespace TemplateSchema

namespace Normal

open Declaration (dateBound)

variable {keys others : Entries} {name : Value}

theorem dateBound_same {key : String} (same : Entries.field? others key = Entries.field? keys key) :
    dateBound others key = dateBound keys key := by
  rw [dateBound,dateBound,Declaration.given_same same]

-- Declarations in which the same is found are normalized to the same field.
theorem field_found (same : ∀ key, Entries.field? others key = Entries.field? keys key) :
    field name (Declaration.ofValue (.map others)) = field name (Declaration.ofValue (.map keys)) := by
  have alike : Declaration.AreAlike others keys := fun key _ => same key
  have head : header name others = header name keys := header_alike alike
  have type : Entries.field others Declaration.typeKey = Entries.field keys Declaration.typeKey :=
    Declaration.field_same (same _)
  rw [Declaration.ofValue,Declaration.ofValue,type]
  cases Kind.read? (Entries.field keys Declaration.typeKey) with
  | none => simp only [field,head,type]
  | some kind =>
    cases kind with
    | string => exact string_alike alike
    | number => exact number_alike alike
    | boolean => simp only [field,head]
    | date =>
      simp only [field,date,dateBound_same (same _),same,headerWith_same (same _) (same _)]
    | array =>
      have item (f : Field) : array name others f = array name keys f := array_alike alike
      simp only [field,Declaration.nested_exact,same,item]
    | object =>
      rw [Declaration.propertiesIn_exact,Declaration.propertiesIn_exact,same]
      cases (Entries.field? keys Declaration.propertiesKey).elim (.error (.missing Declaration.propertiesKey))
        Declaration.propertiesOf with
      | error gap => rfl
      | ok properties => simp only [Declaration.ofProperties,field,head]
    | enum => exact enum_alike alike
    | record => simp only [field,Declaration.nested_exact,same,head]

end Normal

namespace Chain

-- Two calls that write a common key.
def Compete (kind : Kind) (a b : Call) : Prop :=
  ∃ key v w, Supplies kind a key v ∧ Supplies kind b key w

-- The calls in another order, each with the place that it had: of two calls that compete, the one that
-- stood in front still does.
def IsReordering (kind : Kind) (calls others : List Call) : Prop :=
  ∃ placed : List (Call × Nat), placed.Perm calls.zipIdx ∧ others = placed.map Prod.fst ∧
    placed.Pairwise fun a b => Compete kind a.1 b.1 → a.2 < b.2

section Orders

variable {kind : Kind} {calls others : List Call} {key : String} {v : Value}

theorem reordering_perm (reordering : IsReordering kind calls others) : others.Perm calls := by
  obtain ⟨placed,perm,rfl,_⟩ := reordering
  simpa using perm.map Prod.fst

-- Calls that compete with each other are not reordered among themselves.
theorem reordering_kept (reordering : IsReordering kind calls others) {p : Call → Bool}
    (compete : ∀ a b, p a = true → p b = true → Compete kind a b) : others.filter p = calls.filter p := by
  obtain ⟨placed,perm,rfl,kept⟩ := reordering
  have numbered : calls.zipIdx.Pairwise fun a b => a.2 < b.2 := by
    have places : (calls.zipIdx.map Prod.snd).Pairwise (· < ·) := by
      rw [List.zipIdx_map_snd]
      exact List.pairwise_lt_range'
    exact List.pairwise_map.mp places
  have competing : (placed.filter (p ∘ Prod.fst)).Pairwise fun a b => a.2 < b.2 := by
    refine (kept.filter _).imp_of_mem ?_
    intro a b left right ordered
    exact ordered (compete _ _ (List.mem_filter.mp left).2 (List.mem_filter.mp right).2)
  have same : placed.filter (p ∘ Prod.fst) = calls.zipIdx.filter (p ∘ Prod.fst) := by
    refine (perm.filter _).eq_of_pairwise ?_ competing (numbered.filter _)
    intro a b _ _ less more
    exact absurd less (Nat.lt_asymm more)
  have spelled : calls.filter p = (calls.zipIdx.filter (p ∘ Prod.fst)).map Prod.fst := by
    rw [← List.filter_map,List.zipIdx_map_fst]
  rw [List.filter_map,same,spelled]

-- Only the calls that supply anything for the key decide what the last of them supplies.
theorem lastSupplied_filter {p : Call → Bool} (exact_ : ∀ call, p call = true ↔ ∃ v, Supplies kind call key v) :
    LastSupplied kind calls key v ↔ ∃ call, (calls.filter p).getLast? = some call ∧ Supplies kind call key v := by
  have last (call : Call) : (calls.filter p).getLast? = some call ↔
      p call = true ∧ ∃ before after, calls = before ++ call :: after ∧ ∀ later ∈ after, p later = false := by
    rw [← List.head?_reverse,← List.filter_reverse,List.head?_filter,List.find?_eq_some_iff_append]
    refine and_congr_right fun _ => ?_
    constructor
    · rintro ⟨back,front,whole,silent⟩
      refine ⟨front.reverse,back.reverse,by simpa using congrArg List.reverse whole,?_⟩
      simpa using silent
    · rintro ⟨before,after,rfl,silent⟩
      exact ⟨after.reverse,before.reverse,by simp,by simpa using silent⟩
  have silent (call : Call) : p call = false ↔ ∀ w, ¬ Supplies kind call key w := by
    rw [← Bool.not_eq_true,exact_,not_exists]
  simp only [last,exact_,silent]
  constructor
  · rintro ⟨before,call,after,whole,supplies,others⟩
    exact ⟨call,⟨⟨v,supplies⟩,before,after,whole,others⟩,supplies⟩
  · rintro ⟨call,⟨_,before,after,whole,others⟩,supplies⟩
    exact ⟨before,call,after,whole,supplies,others⟩

theorem lastSupplied_reordered (reordering : IsReordering kind calls others) :
    LastSupplied kind others key v ↔ LastSupplied kind calls key v := by
  classical
  have exact_ (call : Call) : decide (∃ v, Supplies kind call key v) = true ↔ ∃ v, Supplies kind call key v := by simp
  rw [lastSupplied_filter exact_,lastSupplied_filter exact_,reordering_kept reordering]
  intro a b left right
  obtain ⟨v,first⟩ := (exact_ a).mp left
  obtain ⟨w,second⟩ := (exact_ b).mp right
  exact ⟨key,v,w,first,second⟩

end Orders

section Dictionaries

variable {kind : Kind} {d e : Entries} {call : Call} {calls : List Call} {name key : String} {args : List Value}

theorem writeAll_dictionary {entries : List (String × Value)} (dictionary : d.IsDictionary) :
    (writeAll d entries).IsDictionary := by
  induction entries generalizing d with
  | nil => exact dictionary
  | cons entry rest ih => exact ih dictionary.insert

theorem applyAll_dictionary (typed : HasType d kind) (dictionary : d.IsDictionary)
    (applied : (applyAll d calls).outcome = .ok e) : e.IsDictionary := by
  induction calls generalizing d with
  | nil =>
    cases applied
    exact dictionary
  | cons call rest ih =>
    obtain ⟨next,first,behind⟩ := applyAll_cons.mp applied
    have typed_ := apply_typed typed first
    obtain ⟨_,_,rfl⟩ := (apply_exact typed).mp first
    exact ih typed_ (writeAll_dictionary dictionary) behind

-- Calls write under whole names alone.
theorem applyAll_torn {key : Text} (torn : key.isWhole = false) (typed : HasType d kind)
    (applied : (applyAll d calls).outcome = .ok e) : Entries.field? e key = Entries.field? d key := by
  have kept (entries : List (String × Value)) (d : Entries) :
      Entries.field? (writeAll d entries) key = Entries.field? d key := by
    induction entries generalizing d with
    | nil => rfl
    | cons entry rest ih =>
      have other : Text.whole entry.1 ≠ key := by
        rintro rfl
        cases torn
      exact (ih _).trans (by rw [Entries.field_insert,if_neg other])
  induction calls generalizing d with
  | nil =>
    cases applied
    rfl
  | cons call rest ih =>
    obtain ⟨next,first,behind⟩ := applyAll_cons.mp applied
    have typed_ := apply_typed typed first
    obtain ⟨found,_,rfl⟩ := (apply_exact typed).mp first
    rw [ih typed_ behind,kept]

-- What a first call gives: a type, and at most one key besides, which holds what the type is made of.
theorem build_typed (built : build name args = .ok d) : ∃ kind entries, d = typed kind entries ∧
    (entries = [] ∨ ∃ key v, entries = [(key,v)] ∧ key ∈ structuralKeys ∧ "type" ≠ key) := by
  have bare (kind : Kind) : ∃ own entries, typed kind [] = typed own entries ∧
      (entries = [] ∨ ∃ key v, entries = [(key,v)] ∧ key ∈ structuralKeys ∧ "type" ≠ key) :=
    ⟨kind,[],rfl,.inl rfl⟩
  have made (kind : Kind) (v : Value) {key : String} (structural : key ∈ structuralKeys) (other : "type" ≠ key) :
      ∃ own entries, typed kind [(key,v)] = typed own entries ∧
        (entries = [] ∨ ∃ key v, entries = [(key,v)] ∧ key ∈ structuralKeys ∧ "type" ≠ key) :=
    ⟨kind,_,rfl,.inr ⟨key,v,rfl,structural,other⟩⟩
  unfold build at built
  split at built
  · cases built
    exact bare .string
  split at built
  · cases built
    exact bare .number
  split at built
  · cases built
    exact bare .boolean
  split at built
  · cases built
    exact bare .date
  split at built
  · split at built
    · cases built
      exact made .array _ (by decide) (by decide)
    · cases built
  split at built
  · split at built
    · obtain ⟨declared,_,rfl⟩ := Success.map_exact.mp built
      exact made .object _ (by decide) (by decide)
    · cases built
  split at built
  · split at built
    · split at built
      · cases built
        exact made .enum _ (by decide) (by decide)
      · cases built
    · cases built
  split at built
  · split at built
    · cases built
      exact made .record _ (by decide) (by decide)
    · cases built
  · cases built

-- A first call gives a dictionary of a type, and nothing that other calls supply.
theorem build_begun (built : build name args = .ok d) : HasType d (kindOf d) ∧ d.IsDictionary ∧
    ∀ key, key ∉ structuralKeys → Entries.field? d key = none := by
  obtain ⟨kind,entries,rfl,made⟩ := build_typed built
  have structural : ∀ entry ∈ entries, entry.1 ∈ structuralKeys := by
    rcases made with rfl | ⟨key,v,rfl,structural,_⟩
    · simp
    · simpa using structural
  have dictionary : (typed kind entries).IsDictionary := by
    rcases made with rfl | ⟨key,v,rfl,_,other⟩
    · refine ⟨by simp [typed,typeKey],?_⟩
      simp [typed,Entries.AreDistinct]
    · refine ⟨by simp [typed,typeKey],?_⟩
      simp [typed,Entries.AreDistinct,typeKey,Value.same_text,other]
  refine ⟨?_,dictionary,fun key other => typed_absent structural other⟩
  rw [kindOf_typed (typed_type entries)]
  exact typed_type entries

end Dictionaries

section Chains

variable {kind : Kind} {d e : Entries} {calls others : List Call} {name : String} {args : List Value}

-- Calls are refused in every order, or in none.
theorem accepted_reordered (typed : HasType d kind) (perm : others.Perm calls) :
    (∃ f, (applyAll d others).outcome = .ok f) ↔ ∃ e, (applyAll d calls).outcome = .ok e := by
  rw [applyAll_accepted typed,applyAll_accepted typed]
  simp only [perm.mem_iff]

theorem found_reordered {f : Entries} (typed : HasType d kind) (applied : (applyAll d calls).outcome = .ok e)
    (reordering : IsReordering kind calls others) (again : (applyAll d others).outcome = .ok f) (key : Text) :
    Entries.field? f key = Entries.field? e key := by
  cases key with
  | torn front half back => rw [applyAll_torn rfl typed again,applyAll_torn rfl typed applied]
  | whole key =>
    apply Option.ext
    intro v
    rw [applyAll_found typed again,applyAll_found typed applied,lastSupplied_reordered reordering]
    simp only [(reordering_perm reordering).mem_iff]

-- Behind a first call, calls that are accepted leave what it gave, and what the last of them that
-- supplies anything for a key supplies; in every order that keeps competing calls in theirs, they are
-- accepted and leave the same, which is the same field.
theorem calls_reordered (built : build name args = .ok d) (applied : (applyAll d calls).outcome = .ok e) :
    e.IsDictionary ∧ (∀ key ∈ structuralKeys, Entries.field? e key = Entries.field? d key) ∧
    (∀ key, key ∉ structuralKeys → ∀ v, Entries.field? e key = some v ↔ LastSupplied (kindOf d) calls key v) ∧
    ∀ others, IsReordering (kindOf d) calls others → ∃ f, (applyAll d others).outcome = .ok f ∧ f.Perm e ∧
      (∀ fieldName, Normal.field fieldName (Declaration.ofValue (.map f)) =
        Normal.field fieldName (Declaration.ofValue (.map e))) ∧
      ∀ text, Spells text (name,args) others → (declarationOf text).outcome = .ok f := by
  obtain ⟨typed,dictionary,absent⟩ := build_begun built
  refine ⟨applyAll_dictionary typed dictionary applied,fun key => applyAll_kept typed applied,?_,?_⟩
  · intro key other v
    rw [applyAll_found typed applied,absent key other]
    simp
  · intro others reordering
    obtain ⟨f,again⟩ := (accepted_reordered typed (reordering_perm reordering)).mpr ⟨e,applied⟩
    have same := found_reordered typed applied reordering again
    refine ⟨f,again,?_,fun _ => Normal.field_found same,?_⟩
    · exact (applyAll_dictionary typed dictionary again).perm (applyAll_dictionary typed dictionary applied) same
    · intro text spells
      exact declarationOf_run.mpr ⟨name,args,others,d,spells,built,again⟩

end Chains

section Codes

def leastThree : Call := ("min",[.int 3])
def leastOne : Call := ("min",[.int 1])
def isEmail : Call := ("email",[])

-- At least three characters, an address, and then one character is enough.
def codeDeclaration : Entries :=
  [(.text "type",.text "string"),(.text "minLength",.int 1),(.text "format",.text "email")]

def codeText : String := "z.string().email().min(3).min(1)"

def codeSentence : Sentence :=
  .of (.of "string".toList .done) (.more (.of "email".toList .done)
    (.more (.of "min".toList (.last (.number ['3']))) (.more (.of "min".toList (.last (.number ['1']))) .done)))

theorem code_scanned : Scans codeText.toList codeSentence.lexemes := by
  rw [scans_map]
  decide +kernel

theorem code_spelled : Spells codeText ("string",[]) [isEmail,leastThree,leastOne] :=
  ⟨_,_,code_scanned,by cbv,by cbv⟩

theorem email_apart {n : Int} : ¬ Compete .string isEmail ("min",[.int n]) := by
  rintro ⟨key,v,w,format,bound⟩
  have formatted : writes .string isEmail.1 isEmail.2 = .ok (some [("format",.text "email")]) := rfl
  have bounded : writes .string "min" [.int n] = .ok (some [("minLength",.int n)]) := rfl
  have first := (supplies_member formatted).mpr format
  have second := (supplies_member bounded).mpr bound
  simp only [List.mem_singleton,Prod.mk.injEq] at first second
  rw [first.1] at second
  exact absurd second.1 (by decide)

-- The two lower bounds keep their order.
theorem code_reordering : IsReordering .string [leastThree,isEmail,leastOne] [isEmail,leastThree,leastOne] := by
  refine ⟨[(isEmail,1),(leastThree,0),(leastOne,2)],List.Perm.swap _ _ _,rfl,?_⟩
  simp only [List.pairwise_cons,List.mem_cons,List.not_mem_nil,or_false,forall_eq_or_imp,forall_eq]
  exact ⟨⟨fun compete => absurd compete email_apart,fun _ => by decide⟩,fun _ => by decide,by simp⟩

theorem code_reordered : build "string" [] = .ok (typed .string []) ∧
    (applyAll (typed .string []) [leastThree,isEmail,leastOne]).outcome = .ok codeDeclaration ∧
    ∃ f, (declarationOf codeText).outcome = .ok f ∧ f.Perm codeDeclaration := by
  have built : build "string" [] = .ok (typed .string []) := rfl
  have applied : (applyAll (typed .string []) [leastThree,isEmail,leastOne]).outcome = .ok codeDeclaration := by cbv
  obtain ⟨_,_,_,each⟩ := calls_reordered built applied
  rw [kindOf_typed (typed_type [])] at each
  obtain ⟨f,_,perm,_,read⟩ := each _ code_reordering
  exact ⟨built,applied,f,read _ code_spelled,perm⟩

end Codes

end Chain

end TemplateSchema
