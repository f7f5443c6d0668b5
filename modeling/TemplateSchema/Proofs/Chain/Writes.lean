import TemplateSchema.Chain.Meaning
/-!
What a call of a chain writes. By its method and the declared type a call supplies values for some keys or
for none, and it writes just these, each key once.
-/
set_option autoImplicit false
namespace TemplateSchema.Chain

-- A method with its arguments.
abbrev Call := String × List Value

-- What a call supplies for a key of a declaration of a kind; the other calls have no meaning there.
inductive Supplies (kind : Kind) : Call → String → Value → Prop where
  | min {low high : String} (keys : boundKeys? kind = some (low,high)) (v : Value) (rest : List Value) :
      Supplies kind ("min",v :: rest) low v
  | max {low high : String} (keys : boundKeys? kind = some (low,high)) (v : Value) (rest : List Value) :
      Supplies kind ("max",v :: rest) high v
  | lowLength {low high : String} (keys : boundKeys? kind = some (low,high)) (v : Value) (rest : List Value) :
      Supplies kind ("length",v :: rest) low v
  | highLength {low high : String} (keys : boundKeys? kind = some (low,high)) (v : Value) (rest : List Value) :
      Supplies kind ("length",v :: rest) high v
  | nonempty {low high : String} (keys : boundKeys? kind = some (low,high))
      (sized : kind = .string ∨ kind = .array) (args : List Value) : Supplies kind ("nonempty",args) low (.int 1)
  | integer (counted : kind = .number) (args : List Value) : Supplies kind ("int",args) "integer" (.bool true)
  | positive (counted : kind = .number) (args : List Value) : Supplies kind ("positive",args) "positive" (.bool true)
  | format (textual : kind = .string) {method : String} (known : method ∈ ["email","url","uuid"])
      (args : List Value) : Supplies kind (method,args) "format" (.text method)
  | optional (args : List Value) : Supplies kind ("optional",args) "optional" (.bool true)
  | default (args : List Value) : Supplies kind ("default",args) "default" (args.headD .null)
  | description (s : Text) (rest : List Value) :
      Supplies kind ("describe",.text s :: rest) "description" (.text s)

section Writes

variable {kind : Kind} {call : Call} {key : String} {v : Value}

theorem bounds_apart {low high : String} (keys : boundKeys? kind = some (low,high)) : low ≠ high := by
  cases kind <;> cases keys <;> decide

theorem format_known {method : String} : (Format.ofName? method).isSome = true ↔ method ∈ ["email","url","uuid"] := by
  unfold Format.ofName? Format.all
  simp only [List.find?_isSome,List.mem_cons,List.not_mem_nil,or_false,beq_iff_eq]
  constructor
  · rintro ⟨f,_,rfl⟩
    cases f <;> simp [Format.name]
  · rintro (rfl | rfl | rfl)
    · exact ⟨.email,by simp,rfl⟩
    · exact ⟨.url,by simp,rfl⟩
    · exact ⟨.uuid,by simp,rfl⟩

theorem supplies_written (supplies : Supplies kind call key v) :
    ∃ entries, writes kind call.1 call.2 = .ok (some entries) ∧ (key,v) ∈ entries := by
  cases supplies with
  | min keys => simp [writes,isBound,keys,boundWrites]
  | max keys => simp [writes,isBound,keys,boundWrites]
  | lowLength keys => simp [writes,isBound,keys,boundWrites]
  | highLength keys => simp [writes,isBound,keys,boundWrites]
  | nonempty keys sized => simp [writes,isBound,keys,sized]
  | integer counted => simp [writes,isBound,counted]
  | positive counted => simp [writes,isBound,counted]
  | format textual known =>
    have isFormat := format_known.mpr known
    simp only [List.mem_cons,List.not_mem_nil,or_false] at known
    rcases known with rfl | rfl | rfl <;> simp [writes,isBound,textual,isFormat]
  | optional => simp [writes,isBound,commonWrites,format_known]
  | default => simp [writes,isBound,commonWrites,format_known]
  | description => simp [writes,isBound,commonWrites,format_known]

-- The entries that a call writes: one for each key, and nothing but what the call supplies.
structure Tells (kind : Kind) (call : Call) (entries : List (String × Value)) : Prop where
  once : (entries.map Prod.fst).Nodup
  supplied : ∀ entry ∈ entries, Supplies kind call entry.1 entry.2

theorem tells_single (supplies : Supplies kind call key v) : Tells kind call [(key,v)] :=
  ⟨by simp,by simpa using supplies⟩

section Entries

variable {method : String} {args : List Value} {entries : List (String × Value)}

theorem bound_tells {low high : String} {bound : Value} {rest : List Value} (isBound_ : isBound method = true)
    (keys : boundKeys? kind = some (low,high)) :
    Tells kind (method,bound :: rest) (boundWrites low high method bound) := by
  simp only [isBound,Bool.or_eq_true,beq_iff_eq] at isBound_
  rcases isBound_ with (rfl | rfl) | rfl
  · exact tells_single (.min keys bound rest)
  · exact tells_single (.max keys bound rest)
  · refine ⟨by simp [boundWrites,bounds_apart keys],?_⟩
    simpa [boundWrites] using ⟨.lowLength keys bound rest,.highLength keys bound rest⟩

theorem common_tells (written : commonWrites method args = .ok (some entries)) : Tells kind (method,args) entries := by
  unfold commonWrites at written
  split at written
  · rename_i same
    cases written
    rw [same]
    exact tells_single (.optional args)
  split at written
  · rename_i same
    cases written
    rw [same]
    exact tells_single (.default args)
  split at written
  · rename_i same
    split at written
    · rename_i s rest
      cases written
      rw [same]
      exact tells_single (.description s rest)
    · cases written
  · cases written

theorem writes_tells (written : writes kind method args = .ok (some entries)) : Tells kind (method,args) entries := by
  unfold writes at written
  split at written
  · rename_i low high isBound_ keys
    split at written
    · cases written
      exact bound_tells isBound_ keys
    · cases written
  split at written
  · rename_i sized
    obtain ⟨⟨low,high⟩,keys,rfl⟩ := Option.map_eq_some_iff.mp (Except.ok.inj written)
    obtain ⟨rfl,sized⟩ := sized
    exact tells_single (.nonempty keys sized args)
  split at written
  · rename_i counted
    cases written
    obtain ⟨rfl,counted⟩ := counted
    exact tells_single (.integer counted args)
  split at written
  · rename_i counted
    cases written
    obtain ⟨rfl,counted⟩ := counted
    exact tells_single (.positive counted args)
  split at written
  · rename_i textual
    cases written
    exact tells_single (.format textual.1 (format_known.mp textual.2) args)
  · exact common_tells written

end Entries

theorem supplies_member {entries : List (String × Value)} (written : writes kind call.1 call.2 = .ok (some entries)) :
    (key,v) ∈ entries ↔ Supplies kind call key v := by
  constructor
  · exact (writes_tells written).supplied (key,v)
  · intro supplies
    obtain ⟨own,again,member⟩ := supplies_written supplies
    cases written.symm.trans again
    exact member

end Writes

end TemplateSchema.Chain
