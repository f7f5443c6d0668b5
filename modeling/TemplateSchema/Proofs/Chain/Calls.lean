import TemplateSchema.Proofs.Chain.WellFormed
/-!
The calls of a chain, one after another. Each call supplies values for some keys or for none, by its
method and the declared type; what a declaration holds under a key is what the last call that supplies
anything for the key supplied, or else what was there before.
-/
set_option autoImplicit false
namespace TemplateSchema.Chain

-- A declaration with each of the calls applied in turn.
def applyAll (declaration : Entries) (calls : List Call) : Traced Entries :=
  calls.foldlM (fun d call => apply d call.1 call.2) declaration

section Writes

variable {kind : Kind} {call : Call} {entries : List (String × Value)} {key : String} {v : Value}

-- No call supplies what holds a declaration together.
theorem supplies_apart (supplies : Supplies kind call key v) : key ∉ structuralKeys :=
  supplies.written.apart

theorem writeAll_once {d : Entries} (once : (entries.map Prod.fst).Nodup) (member : (key,v) ∈ entries) :
    Entries.field? (writeAll d entries) key = some v := by
  induction entries generalizing d with
  | nil => cases member
  | cons entry rest ih =>
    obtain ⟨fresh,once⟩ := List.nodup_cons.mp once
    rcases List.mem_cons.mp member with rfl | behind
    · have apart : ∀ entry ∈ rest, entry.1 ≠ key := fun other member same =>
        fresh (List.mem_map.mpr ⟨other,member,same⟩)
      have kept := writeAll_apart (d := Entries.insert d (.text key) v) apart
      rwa [Entries.field_insert,if_pos rfl] at kept
    · exact ih once behind

-- What is written for a key, or else what there was.
theorem writeAll_exact {d : Entries} (once : (entries.map Prod.fst).Nodup) :
    Entries.field? (writeAll d entries) key = some v ↔
      (key,v) ∈ entries ∨ (∀ w, (key,w) ∉ entries) ∧ Entries.field? d key = some v := by
  by_cases known : ∃ w, (key,w) ∈ entries
  · obtain ⟨w,member⟩ := known
    have now : Entries.field? (writeAll d entries) key = some w := writeAll_once once member
    constructor
    · intro found
      obtain rfl : w = v := Option.some.inj (now.symm.trans found)
      exact .inl member
    · rintro (again | ⟨fresh,_⟩)
      · exact writeAll_once once again
      · exact absurd member (fresh w)
  · have fresh : ∀ w, (key,w) ∉ entries := not_exists.mp known
    have apart : ∀ entry ∈ entries, entry.1 ≠ key := by
      rintro ⟨own,w⟩ member rfl
      exact fresh w member
    rw [writeAll_apart apart]
    simp [fresh]

end Writes

section Step

variable {kind : Kind} {d e : Entries} {call : Call} {key : String} {v w : Value}

-- What a call leaves under a key: what it supplies, or else what there was.
theorem apply_found (typed : HasType d kind) (applied : (apply d call.1 call.2).outcome = .ok e) :
    Entries.field? e key = some v ↔
      Supplies kind call key v ∨ (∀ w, ¬ Supplies kind call key w) ∧ Entries.field? d key = some v := by
  obtain ⟨found,written,rfl⟩ := (apply_exact typed).mp applied
  cases found with
  | none =>
    have silent (w : Value) : ¬ Supplies kind call key w := by
      intro supplies
      obtain ⟨_,again,_⟩ := supplies_written supplies
      cases written.symm.trans again
    simp [silent,writeAll]
  | some entries =>
    rw [Option.getD_some,writeAll_exact (writes_tells written).once]
    simp only [supplies_member written]

-- No call touches what holds a declaration together.
theorem apply_kept (typed : HasType d kind) (applied : (apply d call.1 call.2).outcome = .ok e)
    (structural : key ∈ structuralKeys) : Entries.field? e key = Entries.field? d key := by
  apply Option.ext
  intro v
  rw [apply_found typed applied]
  have silent : ∀ w, ¬ Supplies kind call key w := fun w supplies => supplies_apart supplies structural
  simp [silent]

theorem apply_typed (typed : HasType d kind) (applied : (apply d call.1 call.2).outcome = .ok e) : HasType e kind :=
  (apply_kept typed applied (by decide)).trans typed

end Step

-- The last of the calls that supply anything for a key supplies a value.
def LastSupplied (kind : Kind) (calls : List Call) (key : String) (v : Value) : Prop :=
  ∃ before call after, calls = before ++ call :: after ∧ Supplies kind call key v ∧
    ∀ later ∈ after, ∀ w, ¬ Supplies kind later key w

section Run

variable {kind : Kind} {d e : Entries} {call : Call} {calls rest : List Call} {key : String} {v : Value}

theorem lastSupplied_nil : ¬ LastSupplied kind [] key v := by
  rintro ⟨before,call,after,whole,_⟩
  simp at whole

theorem lastSupplied_cons : LastSupplied kind (call :: rest) key v ↔ LastSupplied kind rest key v ∨
    (∀ later ∈ rest, ∀ w, ¬ Supplies kind later key w) ∧ Supplies kind call key v := by
  constructor
  · rintro ⟨before,own,after,whole,supplies,last⟩
    cases before with
    | nil =>
      obtain ⟨rfl,rfl⟩ := List.cons.inj whole
      exact .inr ⟨last,supplies⟩
    | cons first before =>
      obtain ⟨rfl,rfl⟩ := List.cons.inj whole
      exact .inl ⟨before,own,after,rfl,supplies,last⟩
  · rintro (⟨before,own,after,rfl,supplies,last⟩ | ⟨last,supplies⟩)
    · exact ⟨call :: before,own,after,rfl,supplies,last⟩
    · exact ⟨[],call,rest,rfl,supplies,last⟩

theorem applyAll_cons : (applyAll d (call :: rest)).outcome = .ok e ↔
    ∃ next, (apply d call.1 call.2).outcome = .ok next ∧ (applyAll next rest).outcome = .ok e := by
  rw [applyAll,List.foldlM_cons,Traced.bind_outcome]
  rfl

-- What a run leaves under a key: what the last call for it supplies, or else what there was.
theorem applyAll_found (typed : HasType d kind) (applied : (applyAll d calls).outcome = .ok e) :
    Entries.field? e key = some v ↔ LastSupplied kind calls key v ∨
      (∀ call ∈ calls, ∀ w, ¬ Supplies kind call key w) ∧ Entries.field? d key = some v := by
  induction calls generalizing d with
  | nil =>
    cases applied
    simp [lastSupplied_nil]
  | cons call rest ih =>
    obtain ⟨next,first,behind⟩ := applyAll_cons.mp applied
    rw [ih (apply_typed typed first) behind,apply_found typed first,lastSupplied_cons,List.forall_mem_cons]
    tauto

theorem applyAll_kept (typed : HasType d kind) (applied : (applyAll d calls).outcome = .ok e)
    (structural : key ∈ structuralKeys) : Entries.field? e key = Entries.field? d key := by
  apply Option.ext
  intro v
  rw [applyAll_found typed applied]
  have silent (call : Call) (w : Value) : ¬ Supplies kind call key w := fun supplies =>
    supplies_apart supplies structural
  have never : ¬ LastSupplied kind calls key v := by
    rintro ⟨_,call,_,_,supplies,_⟩
    exact silent call v supplies
  simp [silent,never]

-- A run comes to its end if each of its calls has an effect, or is ignored, on its own.
theorem applyAll_accepted (typed : HasType d kind) : (∃ e, (applyAll d calls).outcome = .ok e) ↔
    ∀ call ∈ calls, ∃ found, writes kind call.1 call.2 = .ok found := by
  induction calls generalizing d with
  | nil => simp [applyAll,Traced.pure_outcome]
  | cons call rest ih =>
    rw [List.forall_mem_cons]
    constructor
    · rintro ⟨e,applied⟩
      obtain ⟨next,first,behind⟩ := applyAll_cons.mp applied
      obtain ⟨found,written,_⟩ := (apply_exact typed).mp first
      exact ⟨⟨found,written⟩,(ih (apply_typed typed first)).mp ⟨e,behind⟩⟩
    · rintro ⟨⟨found,written⟩,others⟩
      have first : (apply d call.1 call.2).outcome = .ok (writeAll d (found.getD [])) :=
        (apply_exact typed).mpr ⟨found,written,rfl⟩
      obtain ⟨e,behind⟩ := (ih (apply_typed typed first)).mpr others
      exact ⟨e,applyAll_cons.mpr ⟨_,first,behind⟩⟩

end Run

-- The calls that are written behind a first one, with their arguments.
def Modifiers.calls : Modifiers → Except Failure (List Call)
  | .done => .ok []
  | .more next rest => do
    let call ← next.meaning
    let others ← rest.calls
    .ok (call :: others)

-- A text for a chain of calls, the first one apart.
def Spells (text : String) (first : Call) (calls : List Call) : Prop :=
  ∃ opening rest, Scans text.toList (Sentence.of opening rest).lexemes ∧ opening.meaning = .ok first ∧
    rest.calls = .ok calls

section Chains

variable {text : String} {sentence : Sentence} {opening : Invocation} {rest : Modifiers} {d e : Entries}

-- What modifiers mean is a run of the calls that they are.
theorem modifiers_run : (modifiers : Modifiers) → ∀ {d e : Entries}, modifiers.meaning d = .ok e ↔
    ∃ calls, modifiers.calls = .ok calls ∧ (applyAll d calls).outcome = .ok e
  | .done, d, e => by simp [Modifiers.meaning,Modifiers.calls,applyAll,Traced.pure_outcome]
  | .more next rest, d, e => by
    rw [Modifiers.meaning,Modifiers.calls]
    simp only [Success.bind_exact,Except.ok.injEq]
    constructor
    · rintro ⟨call,meant,middle,applied,behind⟩
      obtain ⟨calls,spelled,run⟩ := (modifiers_run rest).mp behind
      exact ⟨call :: calls,⟨call,meant,calls,spelled,rfl⟩,applyAll_cons.mpr ⟨middle,applied,run⟩⟩
    · rintro ⟨_,⟨call,meant,calls,spelled,rfl⟩,run⟩
      obtain ⟨middle,applied,run⟩ := applyAll_cons.mp run
      exact ⟨call,meant,middle,applied,(modifiers_run rest).mpr ⟨calls,spelled,run⟩⟩

theorem sentence_run : (Sentence.of opening rest).meaning = .ok e ↔ ∃ name args calls d,
    opening.meaning = .ok (name,args) ∧ rest.calls = .ok calls ∧ build name args = .ok d ∧
      (applyAll d calls).outcome = .ok e := by
  rw [Sentence.meaning]
  simp only [Success.bind_exact,Success.mapError_exact,modifiers_run]
  constructor
  · rintro ⟨⟨name,args⟩,meant,d,built,calls,spelled,run⟩
    exact ⟨name,args,calls,d,meant,spelled,built,run⟩
  · rintro ⟨name,args,calls,d,meant,spelled,built,run⟩
    exact ⟨(name,args),meant,d,built,calls,spelled,run⟩

-- A text is read as what a run of the calls that it spells comes to.
theorem declarationOf_run : (declarationOf text).outcome = .ok e ↔ ∃ name args calls d,
    Spells text (name,args) calls ∧ build name args = .ok d ∧ (applyAll d calls).outcome = .ok e := by
  constructor
  · intro read
    obtain ⟨⟨opening,rest⟩,scans,meant⟩ := (declarationOf_meets text).1 e read
    obtain ⟨name,args,calls,d,begun,spelled,built,run⟩ := sentence_run.mp meant
    exact ⟨name,args,calls,d,⟨opening,rest,scans,begun,spelled⟩,built,run⟩
  · rintro ⟨name,args,calls,d,⟨opening,rest,scans,begun,spelled⟩,built,run⟩
    exact declarationOf_complete scans (sentence_run.mpr ⟨name,args,calls,d,begun,spelled,built,run⟩)

end Chains

end TemplateSchema.Chain
