import TemplateSchema.Proofs.Chain.Sound
/-!
Every sentence that has a meaning is read, up to its end and no further.
-/
set_option autoImplicit false
namespace TemplateSchema.Chain

namespace Reads

variable {ts rest : List Token} {l : Lexeme} {ls ms : List Lexeme}

theorem nil_exact : Reads ts rest [] ↔ ts = rest := by
  constructor
  · rintro ⟨used,rfl,same⟩
    rw [List.map_eq_nil_iff.mp same,List.nil_append]
  · rintro rfl
    exact nil ts

theorem cons_exact : Reads ts rest (l :: ls) ↔ ∃ t others, ts = t :: others ∧ t.lexeme = l ∧ Reads others rest ls := by
  constructor
  · rintro ⟨used,rfl,same⟩
    obtain ⟨t,others,rfl,isFirst,later⟩ := List.map_eq_cons_iff.mp same
    exact ⟨t,others ++ rest,rfl,isFirst,others,rfl,later⟩
  · rintro ⟨t,others,rfl,same,later⟩
    exact later.cons same

theorem single_exact : Reads ts rest [l] ↔ ∃ t, ts = t :: rest ∧ t.lexeme = l := by
  rw [cons_exact]
  constructor
  · rintro ⟨t,others,rfl,same,later⟩
    obtain rfl := nil_exact.mp later
    exact ⟨t,rfl,same⟩
  · rintro ⟨t,rfl,same⟩
    exact ⟨t,rest,rfl,same,nil rest⟩

theorem append_exact : Reads ts rest (ls ++ ms) ↔ ∃ middle, Reads ts middle ls ∧ Reads middle rest ms := by
  constructor
  · rintro ⟨used,rfl,same⟩
    obtain ⟨front,back,rfl,first,second⟩ := List.map_eq_append_iff.mp same
    exact ⟨back ++ rest,⟨front,by simp,first⟩,back,rfl,second⟩
  · rintro ⟨middle,first,second⟩
    exact first.trans second

end Reads

-- A reader that leaves just the given tokens.
def Leaves {α : Type} {P : List Token → Prop} (x : Traced (α × { left : List Token // P left })) (a : α)
    (rest : List Token) : Prop :=
  ∃ left, x.outcome = .ok (a,left) ∧ left.val = rest

section Marks

variable {ts rest : List Token} {t : Token} {m : Char}

theorem isMark_of (same : t.lexeme = mark m) : t.isMark m = true := by
  obtain ⟨kind,text⟩ := Prod.mk.inj same
  simp [Token.isMark,kind,text]

theorem expect_next (same : t.lexeme = mark m) : (expect m (t :: rest)).outcome = .ok ⟨rest,Nat.lt_succ_self _⟩ := by
  simp only [expect,isMark_of same,if_true]
  rfl

theorem accept_next (same : t.lexeme = mark m) : accept? m (t :: rest) = some ⟨rest,Nat.lt_succ_self _⟩ := by
  simp only [accept?,isMark_of same,if_true]

theorem accept_other (single : isMark m = true) (formed : t.IsFormed) (different : t.lexeme ≠ mark m) :
    accept? m (t :: rest) = none := by
  have isNot : ¬ t.isMark m = true := mt (isMark_lexeme single formed).mp different
  simp only [accept?,isNot]
  rfl

end Marks

-- A term does not begin like what closes a list of terms.
theorem term_first (term : Term) :
    ∃ l ls, term.lexemes = l :: ls ∧ ∀ m, l = mark m → m = '\x7b' ∨ m = '[' := by
  cases term with
  | chain sentence =>
    obtain ⟨first,rest⟩ := sentence
    exact ⟨_,_,by rw [Term.lexemes,Sentence.lexemes],by simp [word,mark]⟩
  | object pairs => exact ⟨_,_,by rw [Term.lexemes],by simp [mark]⟩
  | array terms => exact ⟨_,_,by rw [Term.lexemes],by simp [mark]⟩
  | _ => exact ⟨_,_,by rw [Term.lexemes],by simp [word,mark]⟩

theorem term_open {term : Term} {ts rest : List Token} {m : Char} (single : isMark m = true)
    (formed : ∀ t ∈ ts, t.IsFormed) (reads : Reads ts rest term.lexemes)
    (closes : m ≠ '\x7b' ∧ m ≠ '[') : accept? m ts = none := by
  obtain ⟨l,ls,lexemes,first⟩ := term_first term
  rw [lexemes] at reads
  obtain ⟨t,others,rfl,same,_⟩ := Reads.cons_exact.mp reads
  refine accept_other single (formed t (by simp)) ?_
  intro isMark
  rcases first m (same.symm.trans isMark) with rfl | rfl
  · exact closes.1 rfl
  · exact closes.2 rfl

-- The words that stand for a value by themselves.
theorem word_complete {ts rest : List Token} {s : String} {v : Value} (reads : Reads ts rest [word s])
    (known : (s = "true" ∧ v = .bool true) ∨ (s = "false" ∧ v = .bool false) ∨ (s = "null" ∧ v = .null) ∨
      (s = "undefined" ∧ v = .null)) : Leaves (value ts) v rest := by
  obtain ⟨t,rfl,same⟩ := Reads.single_exact.mp reads
  obtain ⟨kind,text⟩ := Prod.mk.inj same
  rw [value.eq_def]
  simp only [kind,text]
  rcases known with ⟨rfl,rfl⟩ | ⟨rfl,rfl⟩ | ⟨rfl,rfl⟩ | ⟨rfl,rfl⟩
  · exact ⟨_,rfl,rfl⟩
  · exact ⟨_,rfl,rfl⟩
  · exact ⟨_,rfl,rfl⟩
  · exact ⟨_,rfl,rfl⟩

theorem mark_inj {c d : Char} (same : mark c = mark d) : c = d := by
  simpa [mark] using same

theorem accept_unlike {t : Token} {rest : List Token} {c m : Char} (single : isMark m = true) (formed : t.IsFormed)
    (same : t.lexeme = mark c) (different : c ≠ m) : accept? m (t :: rest) = none :=
  accept_other single formed fun isMark => different (mark_inj (same.symm.trans isMark))

-- What closes a list of terms begins none, and does not go on with a chain or with the list.
theorem closing_exact {closing : Char} (isClosing : closing = ')' ∨ closing = ']') :
    isMark closing = true ∧ (closing ≠ '\x7b' ∧ closing ≠ '[') ∧ closing ≠ '.' ∧ closing ≠ ',' := by
  rcases isClosing with rfl | rfl <;> decide

theorem key_unmarked (key : Key) {c : Char} : key.lexeme ≠ mark c := by
  cases key <;> simp [Key.lexeme,mark]

theorem key_reads {t : Token} {key : Key} (same : t.lexeme = key.lexeme) :
    (t.kind = .string ∨ t.kind = .name) ∧ (if t.kind = .string then unquoted t.text else t.shown) = key.name := by
  cases key with
  | quoted text =>
    obtain ⟨kind,rfl⟩ := Prod.mk.inj same
    exact ⟨.inl kind,by rw [if_pos kind]; rfl⟩
  | named text =>
    obtain ⟨kind,rfl⟩ := Prod.mk.inj same
    exact ⟨.inr kind,by rw [if_neg (by simp [kind])]; rfl⟩

mutual

theorem value_complete : (term : Term) → ∀ {ts rest : List Token} {v : Value}, (∀ t ∈ ts, t.IsFormed) →
    Reads ts rest term.lexemes → term.meaning = .ok v → accept? '.' rest = none → Leaves (value ts) v rest
  | .text quoted, ts, rest, v, formed, reads, meant, ends => by
    obtain ⟨t,rfl,same⟩ := Reads.single_exact.mp reads
    obtain ⟨kind,text⟩ := Prod.mk.inj same
    cases meant
    rw [value.eq_def]
    simp only [kind,text]
    exact ⟨_,rfl,rfl⟩
  | .number digits, ts, rest, v, formed, reads, meant, ends => by
    obtain ⟨t,rfl,same⟩ := Reads.single_exact.mp reads
    obtain ⟨kind,text⟩ := Prod.mk.inj same
    rw [value.eq_def]
    simp only [kind,text]
    refine ⟨_,Traced.bind_outcome.mpr ⟨v,?_,rfl⟩,rfl⟩
    rw [Traced.ofExcept_outcome]
    exact meant
  | .yes, ts, rest, v, formed, reads, meant, ends => by
    cases meant
    exact word_complete reads (by simp)
  | .no, ts, rest, v, formed, reads, meant, ends => by
    cases meant
    exact word_complete reads (by simp)
  | .null, ts, rest, v, formed, reads, meant, ends => by
    cases meant
    exact word_complete reads (by simp)
  | .undefined, ts, rest, v, formed, reads, meant, ends => by
    cases meant
    exact word_complete reads (by simp)
  | .chain (.of first more), ts, rest, v, formed, reads, meant, ends => by
    obtain ⟨t,others,rfl,same,later⟩ := Reads.cons_exact.mp reads
    obtain ⟨point,tail,rfl,isPoint,later⟩ := Reads.cons_exact.mp later
    obtain ⟨middle,called,modified⟩ := Reads.append_exact.mp later
    rw [Term.meaning,Sentence.meaning] at meant
    obtain ⟨result,whole,rfl⟩ := Success.map_exact.mp meant
    obtain ⟨⟨name,arguments⟩,values,whole⟩ := Success.bind_exact.mp whole
    obtain ⟨declaration,built,folded⟩ := Success.bind_exact.mp whole
    have inner : ∀ u ∈ tail, u.IsFormed := fun u member => formed u (by simp [member])
    obtain ⟨left,call_,rfl⟩ := call_complete first inner called values
    obtain ⟨last,calls_,rfl⟩ := calls_complete more
      (fun u member => inner u (called.subset member)) modified folded ends
    obtain ⟨kind,text⟩ := Prod.mk.inj same
    rw [value.eq_def]
    simp only [kind,text]
    have built_ := (Traced.ofExcept_outcome _).trans built
    exact ⟨_,Traced.bind_outcome.mpr ⟨_,expect_next isPoint,Traced.bind_outcome.mpr ⟨_,call_,
      Traced.bind_outcome.mpr ⟨_,built_,Traced.bind_outcome.mpr ⟨_,calls_,rfl⟩⟩⟩⟩,rfl⟩
  | .object pairs, ts, rest, v, formed, reads, meant, ends => by
    obtain ⟨t,others,rfl,same,later⟩ := Reads.cons_exact.mp reads
    rw [Term.meaning] at meant
    obtain ⟨named,inner,rfl⟩ := Success.map_exact.mp meant
    obtain ⟨found,⟨left,read,rfl⟩,pairs_⟩ := members_complete pairs
      (fun u member => formed u (List.mem_cons_of_mem t member)) later inner
    obtain ⟨kind,text⟩ := Prod.mk.inj same
    rw [value.eq_def]
    simp only [kind,text]
    rw [← pairs_,← objectOf_latest]
    exact ⟨_,Traced.bind_outcome.mpr ⟨_,read,rfl⟩,rfl⟩
  | .array terms, ts, rest, v, formed, reads, meant, ends => by
    obtain ⟨t,others,rfl,same,later⟩ := Reads.cons_exact.mp reads
    rw [Term.meaning] at meant
    obtain ⟨values,inner,rfl⟩ := Success.map_exact.mp meant
    obtain ⟨left,read,rfl⟩ := items_complete (.inr rfl) terms
      (fun u member => formed u (List.mem_cons_of_mem t member)) later inner
    obtain ⟨kind,text⟩ := Prod.mk.inj same
    rw [value.eq_def]
    simp only [kind,text]
    exact ⟨_,Traced.bind_outcome.mpr ⟨_,read,rfl⟩,rfl⟩

theorem call_complete : (i : Invocation) → ∀ {ts rest : List Token} {r : String × List Value},
    (∀ t ∈ ts, t.IsFormed) → Reads ts rest i.lexemes → i.meaning = .ok r → Leaves (call ts) r rest
  | .of name arguments, ts, rest, r, formed, reads, meant => by
    obtain ⟨t,others,rfl,same,later⟩ := Reads.cons_exact.mp reads
    obtain ⟨opening,tail,rfl,isOpening,later⟩ := Reads.cons_exact.mp later
    rw [Invocation.meaning] at meant
    obtain ⟨values,inner,rfl⟩ := Success.map_exact.mp meant
    obtain ⟨left,read,rfl⟩ := items_complete (.inl rfl) arguments
      (fun u member => formed u (by simp [member])) later inner
    obtain ⟨kind,text⟩ := Prod.mk.inj same
    rw [call.eq_def]
    simp only [kind,if_true,Token.shown,text]
    exact ⟨_,Traced.bind_outcome.mpr ⟨_,expect_next isOpening,Traced.bind_outcome.mpr ⟨_,read,rfl⟩⟩,rfl⟩

theorem calls_complete : (more : Modifiers) → ∀ {ts rest : List Token} {declaration result : Entries},
    (∀ t ∈ ts, t.IsFormed) → Reads ts rest more.lexemes → more.meaning declaration = .ok result →
    accept? '.' rest = none → Leaves (calls declaration ts) result rest
  | .done, ts, rest, declaration, result, formed, reads, meant, ends => by
    obtain rfl := Reads.nil_exact.mp reads
    cases meant
    rw [calls.eq_def,ends]
    exact ⟨_,rfl,rfl⟩
  | .more next others, ts, rest, declaration, result, formed, reads, meant, ends => by
    obtain ⟨point,tail,rfl,isPoint,later⟩ := Reads.cons_exact.mp reads
    obtain ⟨middle,called,modified⟩ := Reads.append_exact.mp later
    rw [Modifiers.meaning] at meant
    obtain ⟨⟨name,arguments⟩,values,meant⟩ := Success.bind_exact.mp meant
    obtain ⟨changed,applied,folded⟩ := Success.bind_exact.mp meant
    have inner : ∀ u ∈ tail, u.IsFormed := fun u member => formed u (by simp [member])
    obtain ⟨left,call_,rfl⟩ := call_complete next inner called values
    obtain ⟨last,calls_,rfl⟩ := calls_complete others
      (fun u member => inner u (called.subset member)) modified folded ends
    rw [calls.eq_def,accept_next isPoint]
    exact ⟨_,Traced.bind_outcome.mpr ⟨_,call_,
      Traced.bind_outcome.mpr ⟨_,applied,Traced.bind_outcome.mpr ⟨_,calls_,rfl⟩⟩⟩,rfl⟩

theorem items_complete {closing : Char} (isClosing : closing = ')' ∨ closing = ']') : (terms : Terms) →
    ∀ {ts rest : List Token} {values : List Value}, (∀ t ∈ ts, t.IsFormed) →
    Reads ts rest (terms.lexemes ++ [mark closing]) → terms.meaning = .ok values →
    Leaves (items closing ts) values rest
  | .done, ts, rest, values, formed, reads, meant => by
    obtain ⟨t,rfl,same⟩ := Reads.single_exact.mp reads
    cases meant
    rw [items.eq_def,accept_next same]
    exact ⟨_,rfl,rfl⟩
  | .last term, ts, rest, values, formed, reads, meant => by
    obtain ⟨middle,first,closed⟩ := Reads.append_exact.mp reads
    obtain ⟨t,rfl,same⟩ := Reads.single_exact.mp closed
    obtain ⟨single,opens,noPoint,noComma⟩ := closing_exact isClosing
    have isFormed := formed t (first.subset (by simp))
    rw [Terms.meaning] at meant
    obtain ⟨v,inner,rfl⟩ := Success.map_exact.mp meant
    obtain ⟨⟨_,less⟩,read,rfl⟩ := value_complete term formed first inner (accept_unlike rfl isFormed same noPoint)
    rw [items.eq_def,term_open single formed first opens]
    refine ⟨⟨rest,?_⟩,Traced.bind_outcome.mpr ⟨_,read,?_⟩,rfl⟩
    · exact Nat.lt_of_succ_lt less
    · simp only [accept_unlike rfl isFormed same noComma]
      exact Traced.bind_outcome.mpr ⟨_,expect_next same,rfl⟩
  | .more term others, ts, rest, values, formed, reads, meant => by
    rw [Terms.lexemes,List.append_assoc] at reads
    obtain ⟨middle,first,separated⟩ := Reads.append_exact.mp reads
    obtain ⟨t,tail,rfl,same,later⟩ := Reads.cons_exact.mp separated
    obtain ⟨single,opens,_,_⟩ := closing_exact isClosing
    have isFormed := formed t (first.subset (by simp))
    rw [Terms.meaning] at meant
    obtain ⟨v,inner,meant⟩ := Success.bind_exact.mp meant
    obtain ⟨more,outer,equal⟩ := Success.bind_exact.mp meant
    cases equal
    obtain ⟨⟨_,less⟩,read,rfl⟩ := value_complete term formed first inner
      (accept_unlike rfl isFormed same (by decide))
    obtain ⟨left,rest_,rfl⟩ := items_complete isClosing others
      (fun u member => formed u (first.subset (List.mem_cons_of_mem t member))) later outer
    rw [items.eq_def,term_open single formed first opens]
    refine ⟨⟨left.val,?_⟩,Traced.bind_outcome.mpr ⟨_,read,?_⟩,rfl⟩
    · exact Nat.lt_trans left.property (Nat.lt_of_succ_lt less)
    · simp only [accept_next same]
      exact Traced.bind_outcome.mpr ⟨_,rest_,rfl⟩

theorem members_complete : (pairs : Pairs) → ∀ {ts rest : List Token} {named : List (String × Value)},
    (∀ t ∈ ts, t.IsFormed) → Reads ts rest (pairs.lexemes ++ [mark '\x7d']) → pairs.meaning = .ok named →
    ∃ found, Leaves (members ts) found rest ∧ found.map Member.pair = named
  | .done, ts, rest, named, formed, reads, meant => by
    obtain ⟨t,rfl,same⟩ := Reads.single_exact.mp reads
    cases meant
    rw [members.eq_def,accept_next same]
    exact ⟨[],⟨_,rfl,rfl⟩,rfl⟩
  | .last key term, ts, rest, named, formed, reads, meant => by
    obtain ⟨t,others,rfl,isKey,later⟩ := Reads.cons_exact.mp reads
    obtain ⟨colon,tail,rfl,isColon,later⟩ := Reads.cons_exact.mp later
    obtain ⟨middle,first,closed⟩ := Reads.append_exact.mp later
    obtain ⟨close,rfl,isClose⟩ := Reads.single_exact.mp closed
    have inner : ∀ u ∈ tail, u.IsFormed := fun u member => formed u (by simp [member])
    have isFormed := inner close (first.subset (by simp))
    rw [Pairs.meaning] at meant
    obtain ⟨v,value_,rfl⟩ := Success.map_exact.mp meant
    obtain ⟨⟨_,less⟩,read,rfl⟩ := value_complete term inner first value_
      (accept_unlike rfl isFormed isClose (by decide))
    obtain ⟨kind,name⟩ := key_reads isKey
    rw [members.eq_def,accept_other rfl (formed t (by simp)) (by rw [isKey]; exact key_unmarked key)]
    simp only [kind,if_true,name]
    refine ⟨[.placed key.name v tail (close :: rest)],⟨⟨rest,?_⟩,Traced.bind_outcome.mpr ⟨_,expect_next isColon,
      Traced.bind_outcome.mpr ⟨_,read,?_⟩⟩,rfl⟩,rfl⟩
    · simp only [List.length_cons] at less ⊢
      omega
    · simp only [accept_unlike rfl isFormed isClose (m := ',') (by decide)]
      exact Traced.bind_outcome.mpr ⟨_,expect_next isClose,rfl⟩
  | .more key term others, ts, rest, named, formed, reads, meant => by
    rw [Pairs.lexemes,List.cons_append,List.cons_append,List.append_assoc] at reads
    obtain ⟨t,behind,rfl,isKey,later⟩ := Reads.cons_exact.mp reads
    obtain ⟨colon,tail,rfl,isColon,later⟩ := Reads.cons_exact.mp later
    obtain ⟨middle,first,separated⟩ := Reads.append_exact.mp later
    obtain ⟨comma,after,rfl,isComma,later⟩ := Reads.cons_exact.mp separated
    have inner : ∀ u ∈ tail, u.IsFormed := fun u member => formed u (by simp [member])
    have isFormed := inner comma (first.subset (by simp))
    rw [Pairs.meaning] at meant
    obtain ⟨v,value_,meant⟩ := Success.bind_exact.mp meant
    obtain ⟨more,outer,equal⟩ := Success.bind_exact.mp meant
    cases equal
    obtain ⟨⟨_,less⟩,read,rfl⟩ := value_complete term inner first value_
      (accept_unlike rfl isFormed isComma (by decide))
    obtain ⟨found,⟨left,rest_,rfl⟩,rfl⟩ := members_complete others
      (fun u member => inner u (first.subset (List.mem_cons_of_mem comma member))) later outer
    obtain ⟨kind,name⟩ := key_reads isKey
    rw [members.eq_def,accept_other rfl (formed t (by simp)) (by rw [isKey]; exact key_unmarked key)]
    simp only [kind,if_true,name]
    have fewer := left.property
    refine ⟨.placed key.name v tail (comma :: after) :: found,⟨⟨left.val,?_⟩,
      Traced.bind_outcome.mpr ⟨_,expect_next isColon,Traced.bind_outcome.mpr ⟨_,read,?_⟩⟩,rfl⟩,rfl⟩
    · simp only [List.length_cons] at less ⊢
      omega
    · simp only [accept_next isComma]
      exact Traced.bind_outcome.mpr ⟨_,rest_,rfl⟩

end

end TemplateSchema.Chain
