import TemplateSchema.Proofs.Chain.Declarations
import TemplateSchema.Proofs.Chain.Writes
import TemplateSchema.Proofs.Value.Entries
import TemplateSchema.Value.Instant
/-!
What a builder chain that means something declares. No call touches the keys that hold a declaration
together, so whatever else the calls of a chain write, at every depth there is one of the eight types
with what it is made of. Bounds that fit the type are all that is written for a bound, if those that
are given fit.
-/
set_option autoImplicit false
namespace TemplateSchema.Chain

def HasType (d : Entries) (kind : Kind) : Prop :=
  Entries.field? d "type" = some (.text kind.name)

-- The kinds that are not made of other declarations, nor of options.
def IsScalar (kind : Kind) : Prop :=
  kind = .string ∨ kind = .number ∨ kind = .boolean ∨ kind = .date

-- A declaration that is one at every depth, and has a property there that depends on its type.
inductive IsField (P : Kind → Entries → Prop) : Entries → Prop where
  | scalar {d : Entries} {kind : Kind} (typed : HasType d kind) (holds : P kind d) (isScalar : IsScalar kind) :
      IsField P d
  | enum {d : Entries} {options : List Text} (typed : HasType d .enum) (holds : P .enum d)
      (listed : Entries.field? d "options" = some (.list (options.map Value.text))) : IsField P d
  | array {d item : Entries} (typed : HasType d .array) (holds : P .array d)
      (items : Entries.field? d "items" = some (.map item)) (nested : IsField P item) : IsField P d
  | object {d : Entries} {properties : List (Text × Entries)} (typed : HasType d .object) (holds : P .object d)
      (declared : Entries.field? d "properties" = some (.map (properties.map fun p => (.text p.1,.map p.2))))
      (nested : ∀ p ∈ properties, IsField P p.2) : IsField P d
  | record {d value : Entries} (typed : HasType d .record) (holds : P .record d)
      (values : Entries.field? d "values" = some (.map value)) (nested : IsField P value) : IsField P d

-- The keys that a declaration is held together by.
def structuralKeys : List String :=
  ["type","items","properties","values","options"]

section Fields

variable {P Q : Kind → Entries → Prop} {d e : Entries}

theorem IsField.imp (field : IsField P d) (weaker : ∀ kind d, P kind d → Q kind d) : IsField Q d := by
  induction field with
  | scalar typed holds isScalar => exact .scalar typed (weaker _ _ holds) isScalar
  | enum typed holds listed => exact .enum typed (weaker _ _ holds) listed
  | array typed holds items _ ih => exact .array typed (weaker _ _ holds) items ih
  | object typed holds declared _ ih => exact .object typed (weaker _ _ holds) declared ih
  | record typed holds values _ ih => exact .record typed (weaker _ _ holds) values ih

-- What is written elsewhere leaves a declaration one.
theorem IsField.kept (field : IsField P d)
    (same : ∀ key ∈ structuralKeys, Entries.field? e key = Entries.field? d key)
    (holds : ∀ kind, HasType d kind → P kind d → P kind e) : IsField P e := by
  have typed {kind : Kind} (typed : HasType d kind) : HasType e kind := (same "type" (by decide)).trans typed
  cases field with
  | scalar type here isScalar => exact .scalar (typed type) (holds _ type here) isScalar
  | enum type here listed => exact .enum (typed type) (holds _ type here) ((same "options" (by decide)).trans listed)
  | array type here items nested =>
    exact .array (typed type) (holds _ type here) ((same "items" (by decide)).trans items) nested
  | object type here declared nested =>
    exact .object (typed type) (holds _ type here) ((same "properties" (by decide)).trans declared) nested
  | record type here values nested =>
    exact .record (typed type) (holds _ type here) ((same "values" (by decide)).trans values) nested

end Fields

-- What a bound of a kind may be: a whole number, any number, or text that is read as a moment; or null.
def FitsBound (kind : Kind) (v : Value) : Prop :=
  match kind with
  | .string | .array => v = .null ∨ ∃ n, v.count? = some n
  | .number => v = .null ∨ (∃ n, v.count? = some n) ∨ ∃ x, v = .float x
  | .date => v = .null ∨ ∃ s m, v = .text s ∧ s.spelled?.bind Moment.read? = some m
  | _ => True

section Writes

variable {kind : Kind} {method : String} {args : List Value} {entries : List (String × Value)} {key : String}
  {v : Value}

-- What a call may write.
inductive Written (kind : Kind) (method : String) (args : List Value) : String → Value → Prop where
  | optional : Written kind method args "optional" (.bool true)
  | default (v : Value) : Written kind method args "default" v
  | description (s : Text) : Written kind method args "description" (.text s)
  | integer : Written kind method args "integer" (.bool true)
  | positive : Written kind method args "positive" (.bool true)
  | format (s : String) : Written kind method args "format" (.text s)
  | one {low high : String} (keys : boundKeys? kind = some (low,high)) (sized : kind = .string ∨ kind = .array) :
      Written kind method args low (.int 1)
  | bound {low high key : String} {v : Value} (keys : boundKeys? kind = some (low,high))
      (isBound_ : isBound method = true) (first : args.head? = some v) (side : key = low ∨ key = high) :
      Written kind method args key v

theorem Supplies.written (supplies : Supplies kind (method,args) key v) : Written kind method args key v := by
  cases supplies with
  | min keys => exact .bound keys rfl rfl (.inl rfl)
  | max keys => exact .bound keys rfl rfl (.inr rfl)
  | lowLength keys => exact .bound keys rfl rfl (.inl rfl)
  | highLength keys => exact .bound keys rfl rfl (.inr rfl)
  | nonempty keys sized => exact .one keys sized
  | integer => exact .integer
  | positive => exact .positive
  | format => exact .format _
  | optional => exact .optional
  | default => exact .default _
  | description => exact .description _

theorem writes_written (written : writes kind method args = .ok (some entries)) :
    ∀ entry ∈ entries, Written kind method args entry.1 entry.2 :=
  fun entry member => ((writes_tells written).supplied entry member).written

-- A call does not write what holds a declaration together.
theorem Written.apart (written : Written kind method args key v) : key ∉ structuralKeys := by
  have bounds {low high : String} (keys : boundKeys? kind = some (low,high)) :
      low ∉ structuralKeys ∧ high ∉ structuralKeys := by
    cases kind <;> cases keys <;> decide
  cases written with
  | one keys sized => exact (bounds keys).1
  | bound keys isBound_ first side =>
    rcases side with rfl | rfl
    · exact (bounds keys).1
    · exact (bounds keys).2
  | _ => decide

theorem writeAll_found {d : Entries} (found : Entries.field? (writeAll d entries) key = some v) :
    (key,v) ∈ entries ∨ Entries.field? d key = some v := by
  induction entries generalizing d with
  | nil => exact .inr found
  | cons entry rest ih =>
    rcases ih found with later | earlier
    · exact .inl (List.mem_cons_of_mem _ later)
    · rw [Entries.field_insert] at earlier
      split at earlier
      · rename_i same
        refine .inl (List.mem_cons.mpr (.inl ?_))
        rw [← Text.whole.inj same,← Option.some.inj earlier]
      · exact .inr earlier

theorem writeAll_apart {d : Entries} (apart : ∀ entry ∈ entries, entry.1 ≠ key) :
    Entries.field? (writeAll d entries) key = Entries.field? d key := by
  induction entries generalizing d with
  | nil => rfl
  | cons entry rest ih =>
    obtain ⟨different,others⟩ := List.forall_mem_cons.mp apart
    have behind := ih (d := Entries.insert d (.text entry.1) entry.2) others
    rw [Entries.field_insert,if_neg (mt Text.whole.inj different)] at behind
    exact behind

end Writes

-- What the keys of a declaration hold besides its parts. The bounds fit as far as it is agreed that
-- those that are given do.
structure IsAnnotated (agreed : Prop) (kind : Kind) (d : Entries) : Prop where
  description : ∀ v, Entries.field? d "description" = some v → ∃ s, v = .text s
  integer : ∀ v, Entries.field? d "integer" = some v → v = .bool true
  positive : ∀ v, Entries.field? d "positive" = some v → v = .bool true
  format : ∀ v, Entries.field? d "format" = some v → ∃ s, v = .text s
  bounds : agreed → ∀ low high, boundKeys? kind = some (low,high) → ∀ key, key = low ∨ key = high →
    ∀ v, Entries.field? d key = some v → FitsBound kind v

-- An argument for a bound is one that fits, or there is none.
def FitsCall (kind : Kind) (method : String) (args : List Value) : Prop :=
  isBound method = true → ∀ v, args.head? = some v → FitsBound kind v

section Calls

variable {agreed : Prop} {kind : Kind} {d e : Entries} {method : String} {args : List Value}

theorem kindOf_typed (typed : HasType d kind) : kindOf d = kind := by
  have found : Entries.getOrNull d typeKey = .text kind.name := Entries.field_found typed
  rw [kindOf,found]
  change (Kind.ofName? kind.name).getD .string = kind
  cases kind <;> decide

theorem Written.valued {key : String} {v : Value} (written : Written kind method args key v) :
    (key = "description" → ∃ s, v = .text s) ∧ (key = "integer" → v = .bool true) ∧
      (key = "positive" → v = .bool true) ∧ (key = "format" → ∃ s, v = .text s) := by
  cases written with
  | one keys sized => cases kind <;> cases keys <;> simp
  | bound keys isBound_ first side => cases kind <;> cases keys <;> rcases side with rfl | rfl <;> simp
  | _ => simp

theorem Written.fitting {low high key : String} {v : Value} (written : Written kind method args key v)
    (fits : FitsCall kind method args) (keys : boundKeys? kind = some (low,high)) (side : key = low ∨ key = high) :
    FitsBound kind v := by
  cases written with
  | one own sized => rcases sized with rfl | rfl <;> exact .inr ⟨1,rfl⟩
  | bound own isBound_ first _ => exact fits isBound_ v first
  | _ => cases kind <;> cases keys <;> simp at side

theorem annotated_written {entries : List (String × Value)} (annotated : IsAnnotated agreed kind d)
    (written : ∀ entry ∈ entries, Written kind method args entry.1 entry.2)
    (fits : agreed → FitsCall kind method args) : IsAnnotated agreed kind (writeAll d entries) := by
  constructor
  · intro v found
    rcases writeAll_found found with new | old
    · exact (written _ new).valued.1 rfl
    · exact annotated.description v old
  · intro v found
    rcases writeAll_found found with new | old
    · exact (written _ new).valued.2.1 rfl
    · exact annotated.integer v old
  · intro v found
    rcases writeAll_found found with new | old
    · exact (written _ new).valued.2.2.1 rfl
    · exact annotated.positive v old
  · intro v found
    rcases writeAll_found found with new | old
    · exact (written _ new).valued.2.2.2 rfl
    · exact annotated.format v old
  · intro agrees low high keys key side v found
    rcases writeAll_found found with new | old
    · exact (written _ new).fitting (fits agrees) keys side
    · exact annotated.bounds agrees low high keys key side v old

-- A call comes to nothing but what it writes.
theorem apply_exact (typed : HasType d kind) : (apply d method args).outcome = .ok e ↔
    ∃ found, writes kind method args = .ok found ∧ e = writeAll d (found.getD []) := by
  unfold apply
  simp only [kindOf_typed typed]
  split
  · rename_i written
    simp [written,Traced.failed]
  · rename_i written
    simp [written,Traced.done,eq_comm]
  · rename_i written
    rw [Traced.bind_outcome]
    simp [written,Traced.record,Traced.pure_outcome,writeAll,eq_comm]

-- A call leaves a declaration one, of the same type.
theorem apply_field (typed : HasType d kind) (field : IsField (IsAnnotated agreed) d)
    (fits : agreed → FitsCall kind method args) (applied : (apply d method args).outcome = .ok e) :
    HasType e kind ∧ IsField (IsAnnotated agreed) e := by
  obtain ⟨found,writes_,rfl⟩ := (apply_exact typed).mp applied
  cases found with
  | none => exact ⟨typed,field⟩
  | some entries =>
    have written := writes_written writes_
    have same : ∀ key ∈ structuralKeys, Entries.field? (writeAll d entries) key = Entries.field? d key := by
      intro key member
      apply writeAll_apart
      intro entry inside equal
      exact (written entry inside).apart (equal ▸ member)
    refine ⟨(same "type" (by decide)).trans typed,field.kept same ?_⟩
    intro own isOwn annotated
    obtain rfl : own = kind := (kindOf_typed isOwn).symm.trans (kindOf_typed typed)
    exact annotated_written annotated written fits

end Calls

-- Chains in a value are declarations, as far as a call looks for them: in the value itself, or under
-- the names of a mapping.
def IsSound (P : Kind → Entries → Prop) : Value → Prop
  | .chain d => IsField P d
  | .map entries => ∀ entry ∈ entries,
      (∃ name, entry.1 = .text name) ∧ ∀ d, entry.2 = .chain d → IsField P d
  | _ => True

section Build

variable {P : Kind → Entries → Prop} {agreed : Prop} {kind : Kind} {d : Entries} {name : String} {args : List Value}

theorem typed_absent {entries : List (String × Value)} {key : String}
    (structural : ∀ entry ∈ entries, entry.1 ∈ structuralKeys) (other : key ∉ structuralKeys) :
    Entries.field? (typed kind entries) key = none := by
  have apart {own : String} (member : own ∈ structuralKeys) : Value.same (.text own) (.text key) = false := by
    rw [Value.same_text,beq_eq_false_iff_ne]
    intro same
    exact other (Text.whole.inj same ▸ member)
  apply Entries.field_absent
  intro entry member
  rcases List.mem_cons.mp member with rfl | inside
  · exact apart (by decide)
  · obtain ⟨own,isOwn,rfl⟩ := List.mem_map.mp inside
    exact apart (structural own isOwn)

theorem annotated_typed {entries : List (String × Value)}
    (structural : ∀ entry ∈ entries, entry.1 ∈ structuralKeys) : IsAnnotated agreed kind (typed kind entries) := by
  have absent {key : String} {v : Value} (other : key ∉ structuralKeys) :
      ¬ Entries.field? (typed kind entries) key = some v := by
    rw [typed_absent structural other]
    simp
  constructor
  · exact fun v found => absurd found (absent (by decide))
  · exact fun v found => absurd found (absent (by decide))
  · exact fun v found => absurd found (absent (by decide))
  · exact fun v found => absurd found (absent (by decide))
  · intro _ low high keys key side v found
    refine absurd found (absent ?_)
    cases kind <;> cases keys <;> rcases side with rfl | rfl <;> decide

theorem typed_type (entries : List (String × Value)) : HasType (typed kind entries) kind :=
  Entries.field_cons "type"

theorem typed_found {key : String} {v : Value} (different : "type" ≠ key) :
    Entries.field? (typed kind [(key,v)]) key = some v := by
  change Entries.field? ((.text "type",.text kind.name) :: [(.text key,v)]) key = some v
  rw [Entries.field_cons,if_neg (mt Text.whole.inj different),Entries.field_cons,if_pos rfl]

theorem chain_found {index : Nat} (sound : ∀ v ∈ args, IsSound P v) (found : chainAt? args index = some d) :
    IsField P d := by
  unfold chainAt? at found
  split at found
  · rename_i declaration isChain
    cases found
    exact sound _ (List.mem_of_getElem? isChain)
  · cases found

theorem properties_sound {entries declared : Entries} (sound : IsSound P (.map entries))
    (read : properties entries = .ok declared) : ∃ rows : List (Text × Entries),
      declared = rows.map (fun row => (.text row.1,.map row.2)) ∧ ∀ row ∈ rows, IsField P row.2 := by
  induction entries generalizing declared with
  | nil => cases read; exact ⟨[],rfl,by simp⟩
  | cons entry rest ih =>
    obtain ⟨key,v⟩ := entry
    obtain ⟨⟨⟨name,named⟩,chain⟩,others⟩ := List.forall_mem_cons.mp sound
    obtain rfl : key = .text name := named
    cases v with
    | chain declaration =>
      obtain ⟨behind,tail,rfl⟩ := Success.map_exact.mp read
      obtain ⟨rows,rfl,each⟩ := ih others tail
      exact ⟨(name,declaration) :: rows,rfl,List.forall_mem_cons.mpr ⟨chain declaration rfl,each⟩⟩
    | _ => cases read

theorem texts_listed {options : List Value} (texts : options.all Value.isText = true) :
    ∃ names : List Text, options = names.map Value.text := by
  induction options with
  | nil => exact ⟨[],rfl⟩
  | cons v rest ih =>
    rw [List.all_cons,Bool.and_eq_true] at texts
    obtain ⟨names,rfl⟩ := ih texts.2
    cases v with
    | text s => exact ⟨s :: names,rfl⟩
    | _ => cases texts.1

-- A first call gives a declaration of the type that it is named for.
theorem build_field (sound : ∀ v ∈ args, IsSound (IsAnnotated agreed) v) (built : build name args = .ok d) :
    ∃ kind, Kind.ofName? name = some kind ∧ HasType d kind ∧ IsField (IsAnnotated agreed) d := by
  have scalar {kind : Kind} (isScalar : IsScalar kind) : IsField (IsAnnotated agreed) (typed kind []) :=
    .scalar (typed_type []) (annotated_typed (by simp)) isScalar
  have annotated {kind : Kind} {key : String} {v : Value} (member : key ∈ structuralKeys) :
      IsAnnotated agreed kind (typed kind [(key,v)]) :=
    annotated_typed (by simpa using member)
  unfold build at built
  split at built
  · rename_i same
    cases built
    exact ⟨.string,by rw [same]; decide,typed_type [],scalar (.inl rfl)⟩
  split at built
  · rename_i same
    cases built
    exact ⟨.number,by rw [same]; decide,typed_type [],scalar (.inr (.inl rfl))⟩
  split at built
  · rename_i same
    cases built
    exact ⟨.boolean,by rw [same]; decide,typed_type [],scalar (.inr (.inr (.inl rfl)))⟩
  split at built
  · rename_i same
    cases built
    exact ⟨.date,by rw [same]; decide,typed_type [],scalar (.inr (.inr (.inr rfl)))⟩
  split at built
  · rename_i same
    split at built
    · rename_i item found
      cases built
      refine ⟨.array,by rw [same]; decide,typed_type _,?_⟩
      exact .array (typed_type _) (annotated (by decide)) (typed_found (by decide)) (chain_found sound found)
    · cases built
  split at built
  · rename_i same
    split at built
    · obtain ⟨declared,read,rfl⟩ := Success.map_exact.mp built
      obtain ⟨rows,rfl,each⟩ := properties_sound (sound _ List.mem_cons_self) read
      refine ⟨.object,by rw [same]; decide,typed_type _,?_⟩
      exact .object (typed_type _) (annotated (by decide)) (typed_found (by decide)) each
    · cases built
  split at built
  · rename_i same
    split at built
    · split at built
      · rename_i texts
        cases built
        obtain ⟨names,rfl⟩ := texts_listed texts
        refine ⟨.enum,by rw [same]; decide,typed_type _,?_⟩
        exact .enum (typed_type _) (annotated (by decide)) (typed_found (by decide))
      · cases built
    · cases built
  split at built
  · rename_i same
    split at built
    · rename_i value found
      cases built
      refine ⟨.record,by rw [same]; decide,typed_type _,?_⟩
      exact .record (typed_type _) (annotated (by decide)) (typed_found (by decide)) (chain_found sound found)
    · cases built
  · cases built

end Build

def Invocation.name : Invocation → String
  | .of name _ => String.ofList name

-- The argument for a bound, if the call gives one, fits a declaration of the kind.
def Invocation.Fits (kind : Kind) : Invocation → Prop
  | .of name arguments => ∀ args, arguments.meaning = .ok args → FitsCall kind (String.ofList name) args

-- The bounds that are given fit, in every chain of a derivation.
mutual

def Term.BoundsFit : Term → Prop
  | .chain sentence => sentence.BoundsFit
  | .object pairs => pairs.BoundsFit
  | .array terms => terms.BoundsFit
  | _ => True

def Sentence.BoundsFit : Sentence → Prop
  | .of first rest => first.BoundsFit ∧ ∀ kind, Kind.ofName? first.name = some kind → rest.BoundsFit kind

def Invocation.BoundsFit : Invocation → Prop
  | .of _ arguments => arguments.BoundsFit

def Modifiers.BoundsFit : Modifiers → Kind → Prop
  | .done, _ => True
  | .more next rest, kind => next.BoundsFit ∧ next.Fits kind ∧ rest.BoundsFit kind

def Terms.BoundsFit : Terms → Prop
  | .done => True
  | .last term => term.BoundsFit
  | .more term rest => term.BoundsFit ∧ rest.BoundsFit

def Pairs.BoundsFit : Pairs → Prop
  | .done => True
  | .last _ term => term.BoundsFit
  | .more _ term rest => term.BoundsFit ∧ rest.BoundsFit

end

section Meanings

variable {P : Kind → Entries → Prop} {agreed : Prop}

theorem latest_sound {pairs : List (String × Value)} (sound : ∀ pair ∈ pairs, IsSound P pair.2) :
    IsSound P (.map (latest pairs)) := by
  intro entry member
  obtain ⟨name,_,rfl⟩ := List.mem_map.mp member
  refine ⟨⟨name,rfl⟩,?_⟩
  intro d isChain
  cases found : pairs.reverse.lookup name with
  | none => simp [found] at isChain
  | some v =>
    obtain ⟨before,behind,whole,_⟩ := List.lookup_eq_some_iff.mp found
    have member : (name,v) ∈ pairs := List.mem_reverse.mp (by simp [whole])
    have here := sound _ member
    simp only [found,Option.getD_some] at isChain
    rw [isChain] at here
    exact here

theorem number_sound {digits : List Char} {v : Value} (read : numberValue digits = .ok v) : IsSound P v := by
  unfold numberValue at read
  split at read
  · cases read
    trivial
  · split at read
    · cases read
    · cases read
      trivial

mutual

theorem term_sound : (term : Term) → ∀ {v : Value}, (agreed → term.BoundsFit) → term.meaning = .ok v →
    IsSound (IsAnnotated agreed) v
  | .chain sentence, _, fits, meant => by
    obtain ⟨d,inner,rfl⟩ := Success.map_exact.mp meant
    exact sentence_field sentence fits inner
  | .object pairs, _, fits, meant => by
    obtain ⟨named,inner,rfl⟩ := Success.map_exact.mp meant
    exact latest_sound (pairs_sound pairs fits inner)
  | .array terms, _, _, meant => by
    obtain ⟨values,_,rfl⟩ := Success.map_exact.mp meant
    trivial
  | .text _, _, _, meant => by cases meant; trivial
  | .number digits, _, _, meant => number_sound meant
  | .yes, _, _, meant => by cases meant; trivial
  | .no, _, _, meant => by cases meant; trivial
  | .null, _, _, meant => by cases meant; trivial
  | .undefined, _, _, meant => by cases meant; trivial

theorem sentence_field : (sentence : Sentence) → ∀ {d : Entries}, (agreed → sentence.BoundsFit) →
    sentence.meaning = .ok d → IsField (IsAnnotated agreed) d
  | .of (.of name arguments) rest, _, fits, meant => by
    rw [Sentence.meaning,Success.bind_exact] at meant
    obtain ⟨⟨called,args⟩,first,begun⟩ := meant
    obtain ⟨declaration,built,ended⟩ := Success.bind_exact.mp begun
    obtain ⟨_,values,same⟩ := Success.map_exact.mp first
    cases same
    have sound := terms_sound arguments (fun agrees => (fits agrees).1) values
    obtain ⟨kind,named,typed,field⟩ := build_field sound (Success.mapError_exact.mp built)
    exact modifiers_field rest (fun agrees => (fits agrees).2 kind named) typed field ended

theorem modifiers_field : (modifiers : Modifiers) → ∀ {kind : Kind} {d e : Entries},
    (agreed → modifiers.BoundsFit kind) → HasType d kind → IsField (IsAnnotated agreed) d →
      modifiers.meaning d = .ok e → IsField (IsAnnotated agreed) e
  | .done, _, _, _, _, _, field, meant => by cases meant; exact field
  | .more (.of name arguments) rest, _, _, _, fits, typed, field, meant => by
    rw [Modifiers.meaning,Success.bind_exact] at meant
    obtain ⟨⟨called,args⟩,next,begun⟩ := meant
    obtain ⟨declaration,applied,ended⟩ := Success.bind_exact.mp begun
    obtain ⟨_,values,same⟩ := Success.map_exact.mp next
    cases same
    obtain ⟨still,changed⟩ := apply_field typed field (fun agrees => (fits agrees).2.1 _ values) applied
    exact modifiers_field rest (fun agrees => (fits agrees).2.2) still changed ended

theorem terms_sound : (terms : Terms) → ∀ {values : List Value}, (agreed → terms.BoundsFit) →
    terms.meaning = .ok values → ∀ v ∈ values, IsSound (IsAnnotated agreed) v
  | .done, _, _, meant => by cases meant; simp
  | .last term, _, fits, meant => by
    obtain ⟨v,first,rfl⟩ := Success.map_exact.mp meant
    simpa using term_sound term fits first
  | .more term rest, _, fits, meant => by
    rw [Terms.meaning,Success.bind_exact] at meant
    obtain ⟨v,first,meant⟩ := meant
    obtain ⟨others,behind,meant⟩ := Success.bind_exact.mp meant
    cases meant
    have here := term_sound term (fun agrees => (fits agrees).1) first
    exact List.forall_mem_cons.mpr ⟨here,terms_sound rest (fun agrees => (fits agrees).2) behind⟩

theorem pairs_sound : (pairs : Pairs) → ∀ {named : List (String × Value)}, (agreed → pairs.BoundsFit) →
    pairs.meaning = .ok named → ∀ pair ∈ named, IsSound (IsAnnotated agreed) pair.2
  | .done, _, _, meant => by cases meant; simp
  | .last key term, _, fits, meant => by
    obtain ⟨v,first,rfl⟩ := Success.map_exact.mp meant
    simpa using term_sound term fits first
  | .more key term rest, _, fits, meant => by
    rw [Pairs.meaning,Success.bind_exact] at meant
    obtain ⟨v,first,meant⟩ := meant
    obtain ⟨others,behind,meant⟩ := Success.bind_exact.mp meant
    cases meant
    have here := term_sound term (fun agrees => (fits agrees).1) first
    exact List.forall_mem_cons.mpr ⟨here,pairs_sound rest (fun agrees => (fits agrees).2) behind⟩

end

end Meanings

end TemplateSchema.Chain
