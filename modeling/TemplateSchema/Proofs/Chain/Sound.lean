import TemplateSchema.Proofs.Chain.Scanning
/-!
Whatever is read is a sentence of the grammar, and what is read from it is its meaning. A reading
that fails does so with a fault of the text, if no integer in it is too long.
-/
set_option autoImplicit false
namespace TemplateSchema.Chain

-- The tokens in front of a rest, and what they are.
def Reads (ts rest : List Token) (ls : List Lexeme) : Prop :=
  ∃ used, ts = used ++ rest ∧ used.map Token.lexeme = ls

namespace Reads

variable {ts rest last : List Token} {t : Token} {l : Lexeme} {ls ms : List Lexeme}

theorem nil (ts : List Token) : Reads ts ts [] :=
  ⟨[],rfl,rfl⟩

theorem cons (same : t.lexeme = l) (others : Reads ts rest ls) : Reads (t :: ts) rest (l :: ls) := by
  obtain ⟨used,rfl,rfl⟩ := others
  exact ⟨t :: used,rfl,by rw [List.map_cons,same]⟩

theorem single (same : t.lexeme = l) : Reads (t :: ts) ts [l] :=
  (nil ts).cons same

theorem trans (first : Reads ts rest ls) (second : Reads rest last ms) : Reads ts last (ls ++ ms) := by
  obtain ⟨used,rfl,rfl⟩ := first
  obtain ⟨more,rfl,rfl⟩ := second
  exact ⟨used ++ more,by simp,by simp⟩

theorem subset (reads : Reads ts rest ls) : rest ⊆ ts := by
  obtain ⟨used,rfl,_⟩ := reads
  exact List.subset_append_right used rest

end Reads

-- An integer that is not turned into a number.
def Lexeme.IsLong (l : Lexeme) : Prop :=
  l.1 = .number ∧ l.2.any (fun c => c == '.' || c == 'e' || c == 'E') = false ∧
    Numeral.digitLimit < Numeral.digitCount l.2

def Refused (all : List Token) (f : Failure) : Prop :=
  (∃ fault, f = .chain fault) ∨ ∃ t ∈ all, Lexeme.IsLong t.lexeme

theorem lexeme_of {t : Token} {kind : TokenKind} {text : List Char} (isKind : t.kind = kind)
    (hasText : t.text = text) : t.lexeme = (kind,text) := by
  rw [Token.lexeme,isKind,hasText]

section Marks

variable {all ts : List Token} {t : Token} {m : Char}

theorem isMark_lexeme (single : isMark m = true) (formed : t.IsFormed) : t.isMark m = true ↔ t.lexeme = mark m := by
  unfold Token.isMark Token.lexeme mark
  simp only [Bool.and_eq_true,bne_iff_ne,beq_iff_eq,Prod.mk.injEq]
  constructor
  · rintro ⟨_,text⟩
    exact ⟨formed m single text,text⟩
  · rintro ⟨kind,text⟩
    exact ⟨by simp [kind],text⟩

theorem fail_meets {α : Type} {good : α → Prop} (fault : Fault) : (fail fault).Meets good (Refused all) :=
  Traced.meets_failed (.inl ⟨fault,rfl⟩)

theorem expect_meets (single : isMark m = true) (formed : ∀ t ∈ ts, t.IsFormed) :
    (expect m ts).Meets (fun rest => Reads ts rest.val [mark m]) (Refused all) := by
  cases ts with
  | nil => exact fail_meets _
  | cons t rest =>
    by_cases isMark : t.isMark m = true
    · simp only [expect,isMark,if_true]
      rw [isMark_lexeme single (formed t (by simp))] at isMark
      exact Traced.meets_pure (.single isMark)
    · simp only [expect,isMark]
      exact fail_meets _

theorem accept_reads {rest : Shorter ts} (single : isMark m = true) (formed : ∀ t ∈ ts, t.IsFormed)
    (accepted : accept? m ts = some rest) : Reads ts rest.val [mark m] := by
  cases ts with
  | nil => cases accepted
  | cons t tail =>
    by_cases isMark : t.isMark m = true
    · simp only [accept?,isMark,if_true] at accepted
      rw [isMark_lexeme single (formed t (by simp))] at isMark
      cases accepted
      exact .single isMark
    · simp only [accept?,isMark] at accepted
      cases accepted

theorem number_meets (isNumber : t.kind = .number) (member : t ∈ all) :
    (Traced.ofExcept (numberValue t.text)).Meets (fun v => (Term.number t.text).meaning = .ok v) (Refused all) := by
  refine Traced.meets_ofExcept (fun v read => by rw [Term.meaning,read]) ?_
  intro f failed
  unfold numberValue at failed
  split at failed
  · cases failed
  · rename_i noFraction
    split at failed
    · rename_i long
      exact .inr ⟨t,member,isNumber,Bool.eq_false_iff.mpr noFraction,long⟩
    · cases failed

theorem apply_meets (declaration : Entries) (name : String) (arguments : List Value) :
    (apply declaration name arguments).Meets
      (fun next => (apply declaration name arguments).outcome = .ok next) (Refused all) := by
  refine ⟨fun _ => id,?_⟩
  intro f failed
  unfold apply at failed
  simp only at failed
  split at failed
  · cases failed
    exact .inl ⟨_,rfl⟩
  · cases failed
  · cases failed

theorem build_meets (name : String) (arguments : List Value) :
    (Traced.ofExcept ((build name arguments).mapError Failure.chain)).Meets
      (fun declaration => (build name arguments).mapError Failure.chain = .ok declaration) (Refused all) := by
  refine Traced.meets_ofExcept (fun _ => id) ?_
  intro f failed
  obtain ⟨fault,_,rfl⟩ := Success.mapError_fails.mp failed
  exact .inl ⟨fault,rfl⟩

end Marks

-- A member whose value is what the first of the tokens hold, up to a rest.
def Member.placed (name : String) (v : Value) (ts rest : List Token) : Member :=
  ⟨name,v,(ts.head?.map Token.start).getD 0,lastStop ts rest⟩

-- The place of a member in the text is that of the tokens of its value.
def Spans (ts : List Token) (m : Member) : Prop :=
  ∃ (before used after : List Token) (term : Term), ts = before ++ used ++ after ∧
    used.map Token.lexeme = term.lexemes ∧ term.meaning = .ok m.value ∧
    m.start = (used.head?.map Token.start).getD 0 ∧ m.stop = (used.getLast?.map Token.stop).getD 0

theorem Spans.behind {ts rest : List Token} {ls : List Lexeme} {m : Member} (spans : Spans rest m)
    (reads : Reads ts rest ls) : Spans ts m := by
  obtain ⟨before,used,after,term,rfl,spans⟩ := spans
  obtain ⟨front,rfl,_⟩ := reads
  exact ⟨front ++ before,used,after,term,by simp,spans⟩

theorem term_lexemes (term : Term) : term.lexemes ≠ [] := by
  cases term with
  | chain sentence => cases sentence; simp [Term.lexemes,Sentence.lexemes]
  | _ => simp [Term.lexemes]

theorem spans_of {ts rest : List Token} {term : Term} {name : String} {v : Value} (reads : Reads ts rest term.lexemes)
    (meant : term.meaning = .ok v) :
    Spans ts (.placed name v ts rest) := by
  obtain ⟨used,rfl,same⟩ := reads
  refine ⟨[],used,rest,term,rfl,same,meant,?_,?_⟩
  · cases used with
    | nil => exact absurd same.symm (term_lexemes term)
    | cons t others => rfl
  · simp [Member.placed,lastStop]

theorem key_of {t : Token} (isKey : t.kind = .string ∨ t.kind = .name) :
    ∃ key : Key, t.lexeme = key.lexeme ∧ (if t.kind = .string then unquoted t.text else t.shown) = key.name := by
  rcases isKey with kind | kind
  · exact ⟨.quoted t.text,lexeme_of kind rfl,by rw [if_pos kind]; rfl⟩
  · exact ⟨.named t.text,lexeme_of kind rfl,by rw [if_neg (by simp [kind])]; rfl⟩

def Member.pair (m : Member) : String × Value :=
  (m.name,m.value)

theorem objectOf_latest (found : List Member) : objectOf found = .map (latest (found.map Member.pair)) := by
  rw [objectOf,← latest_exact,List.map_map]
  rfl

section Readers

variable {all : List Token} (formed : ∀ t ∈ all, t.IsFormed)

include formed

-- The five readers call each other on ever fewer tokens.
mutual

theorem value_meets : (ts : List Token) → ts ⊆ all →
    (value ts).Meets (fun r => ∃ term : Term, Reads ts r.2.val term.lexemes ∧ term.meaning = .ok r.1)
      (Refused all)
  | [], _ => by rw [value]; exact fail_meets _
  | t :: rest, inside => by
    have behind : rest ⊆ all := List.subset_of_cons_subset inside
    have here : ∀ u ∈ rest, u.IsFormed := fun u member => formed u (behind member)
    rw [value.eq_def]
    cases kind : t.kind with
    | string =>
      simp only [kind]
      exact Traced.meets_pure ⟨.text t.text,.single (lexeme_of kind rfl),rfl⟩
    | number =>
      simp only [kind]
      refine Traced.meets_bind (number_meets kind (inside (by simp))) ?_
      intro v read
      exact Traced.meets_pure ⟨.number t.text,.single (lexeme_of kind rfl),read⟩
    | mark =>
      simp only [kind]
      split
      · rename_i text
        refine Traced.meets_bind (members_meets rest behind) ?_
        rintro ⟨found,left⟩ ⟨pairs,reads,named,_⟩
        refine Traced.meets_pure ⟨.object pairs,reads.cons (lexeme_of kind text),?_⟩
        rw [Term.meaning,named,objectOf_latest]
        rfl
      · split
        · rename_i text
          refine Traced.meets_bind (items_meets ']' rfl rest behind) ?_
          rintro ⟨found,left⟩ ⟨terms,reads,values⟩
          refine Traced.meets_pure ⟨.array terms,reads.cons (lexeme_of kind text),?_⟩
          rw [Term.meaning,values]
          rfl
        · exact fail_meets _
    | name =>
      simp only [kind]
      split
      · rename_i text
        exact Traced.meets_pure ⟨.yes,.single (lexeme_of kind text),rfl⟩
      · split
        · rename_i text
          exact Traced.meets_pure ⟨.no,.single (lexeme_of kind text),rfl⟩
        · split
          · rename_i text
            rcases text with text | text
            · exact Traced.meets_pure ⟨.null,.single (lexeme_of kind text),rfl⟩
            · exact Traced.meets_pure ⟨.undefined,.single (lexeme_of kind text),rfl⟩
          · split
            · rename_i text
              refine Traced.meets_bind (expect_meets rfl here) ?_
              intro start point
              have less := start.property
              refine Traced.meets_bind (call_meets start.val (List.Subset.trans point.subset behind)) ?_
              rintro ⟨⟨name,arguments⟩,next⟩ ⟨first,reads,values⟩
              have fewer := next.property
              refine Traced.meets_bind (build_meets name arguments) ?_
              intro declaration built
              have far := List.Subset.trans reads.subset (List.Subset.trans point.subset behind)
              refine Traced.meets_bind (calls_meets declaration next.val far) ?_
              rintro ⟨result,left⟩ ⟨more,others,folded⟩
              refine Traced.meets_pure ⟨.chain (.of first more),?_,?_⟩
              · exact (point.trans (reads.trans others)).cons (lexeme_of kind text)
              · rw [Term.meaning,Sentence.meaning]
                refine Success.map_exact.mpr ⟨result,?_,rfl⟩
                exact Success.bind_exact.mpr ⟨_,values,Success.bind_exact.mpr ⟨_,built,folded⟩⟩
            · exact fail_meets _
termination_by ts => (ts.length,0)
decreasing_by all_goals (simp only [List.length_cons]; omega)

theorem call_meets : (ts : List Token) → ts ⊆ all →
    (call ts).Meets (fun r => ∃ i : Invocation, Reads ts r.2.val i.lexemes ∧ i.meaning = .ok r.1) (Refused all)
  | [], _ => by rw [call]; exact fail_meets _
  | t :: rest, inside => by
    have behind : rest ⊆ all := List.subset_of_cons_subset inside
    have here : ∀ u ∈ rest, u.IsFormed := fun u member => formed u (behind member)
    rw [call.eq_def]
    simp only
    split
    · rename_i kind
      refine Traced.meets_bind (expect_meets rfl here) ?_
      intro start opening
      have less := start.property
      refine Traced.meets_bind
        (items_meets ')' rfl start.val (List.Subset.trans opening.subset behind)) ?_
      rintro ⟨arguments,left⟩ ⟨terms,reads,values⟩
      refine Traced.meets_pure ⟨.of t.text terms,?_,?_⟩
      · exact (opening.trans reads).cons (lexeme_of kind rfl)
      · rw [Invocation.meaning,values]
        rfl
    · exact fail_meets _
termination_by ts => (ts.length,0)
decreasing_by all_goals (simp only [List.length_cons]; omega)

theorem calls_meets (declaration : Entries) (ts : List Token) (inside : ts ⊆ all) :
    (calls declaration ts).Meets
      (fun r => ∃ more : Modifiers, Reads ts r.2.val more.lexemes ∧ more.meaning declaration = .ok r.1)
      (Refused all) := by
  have here : ∀ u ∈ ts, u.IsFormed := fun u member => formed u (inside member)
  rw [calls.eq_def]
  cases accepted : accept? '.' ts with
  | none =>
    simp only
    exact Traced.meets_pure ⟨.done,.nil ts,rfl⟩
  | some start =>
    simp only
    have point := accept_reads rfl here accepted
    have less := start.property
    have behind := List.Subset.trans point.subset inside
    refine Traced.meets_bind (call_meets start.val behind) ?_
    rintro ⟨⟨name,arguments⟩,next⟩ ⟨i,reads,values⟩
    have fewer := next.property
    refine Traced.meets_bind (apply_meets declaration name arguments) ?_
    intro changed applied
    refine Traced.meets_bind (calls_meets changed next.val (List.Subset.trans reads.subset behind)) ?_
    rintro ⟨result,left⟩ ⟨more,others,folded⟩
    refine Traced.meets_pure ⟨.more i more,point.trans (reads.trans others),?_⟩
    rw [Modifiers.meaning]
    exact Success.bind_exact.mpr ⟨_,values,Success.bind_exact.mpr ⟨_,applied,folded⟩⟩
termination_by (ts.length,1)
decreasing_by all_goals omega

theorem items_meets (closing : Char) (single : isMark closing = true) (ts : List Token) (inside : ts ⊆ all) :
    (items closing ts).Meets
      (fun r => ∃ terms : Terms, Reads ts r.2.val (terms.lexemes ++ [mark closing]) ∧ terms.meaning = .ok r.1)
      (Refused all) := by
  have here : ∀ u ∈ ts, u.IsFormed := fun u member => formed u (inside member)
  rw [items.eq_def]
  cases closed : accept? closing ts with
  | some rest =>
    simp only
    exact Traced.meets_pure ⟨.done,accept_reads single here closed,rfl⟩
  | none =>
    simp only
    refine Traced.meets_bind (value_meets ts inside) ?_
    rintro ⟨v,behind⟩ ⟨term,reads,meant⟩
    have less := behind.property
    have later := List.Subset.trans reads.subset inside
    have there : ∀ u ∈ behind.val, u.IsFormed := fun u member => formed u (later member)
    simp only
    cases separated : accept? ',' behind.val with
    | some next =>
      simp only
      have comma := accept_reads rfl there separated
      have fewer := next.property
      refine Traced.meets_bind
        (items_meets closing single next.val (List.Subset.trans comma.subset later)) ?_
      rintro ⟨others,left⟩ ⟨terms,rest,values⟩
      refine Traced.meets_pure ⟨.more term terms,?_,?_⟩
      · simpa [Terms.lexemes] using reads.trans (comma.trans rest)
      · rw [Terms.meaning]
        exact Success.bind_exact.mpr ⟨_,meant,Success.bind_exact.mpr ⟨_,values,rfl⟩⟩
    | none =>
      simp only
      refine Traced.meets_bind (expect_meets single there) ?_
      intro left close
      refine Traced.meets_pure ⟨.last term,reads.trans close,?_⟩
      rw [Terms.meaning,meant]
      rfl
termination_by (ts.length,1)
decreasing_by all_goals omega

theorem members_meets : (ts : List Token) → ts ⊆ all →
    (members ts).Meets
      (fun r => ∃ pairs : Pairs, Reads ts r.2.val (pairs.lexemes ++ [mark '\x7d']) ∧
        pairs.meaning = .ok (r.1.map Member.pair) ∧ ∀ m ∈ r.1, Spans ts m)
      (Refused all)
  | [], _ => by rw [members]; exact fail_meets _
  | t :: rest, inside => by
    have whole : ∀ u ∈ t :: rest, u.IsFormed := fun u member => formed u (inside member)
    have behind : rest ⊆ all := List.subset_of_cons_subset inside
    have here : ∀ u ∈ rest, u.IsFormed := fun u member => formed u (behind member)
    rw [members.eq_def]
    cases closed : accept? '\x7d' (t :: rest) with
    | some left =>
      simp only
      exact Traced.meets_pure ⟨.done,accept_reads rfl whole closed,rfl,by simp⟩
    | none =>
      simp only
      split
      · rename_i isKey
        obtain ⟨key,isLexeme,isName⟩ := key_of isKey
        rw [isName]
        refine Traced.meets_bind (expect_meets rfl here) ?_
        intro start colon
        have less := start.property
        have far := List.Subset.trans colon.subset behind
        refine Traced.meets_bind (value_meets start.val far) ?_
        rintro ⟨v,after⟩ ⟨term,reads,meant⟩
        have fewer := after.property
        have later := List.Subset.trans reads.subset far
        have there : ∀ u ∈ after.val, u.IsFormed := fun u member => formed u (later member)
        have spans : Spans (t :: rest) (.placed key.name v start.val after.val) :=
          (spans_of reads meant).behind (colon.cons isLexeme)
        simp only
        cases separated : accept? ',' after.val with
        | some next =>
          simp only
          have comma := accept_reads rfl there separated
          have fewest := next.property
          refine Traced.meets_bind (members_meets next.val (List.Subset.trans comma.subset later)) ?_
          rintro ⟨others,left⟩ ⟨pairs,last,named,placed⟩
          have front := (colon.cons isLexeme).trans (reads.trans comma)
          refine Traced.meets_pure ⟨.more key term pairs,?_,?_,?_⟩
          · simpa [Pairs.lexemes] using front.trans last
          · rw [Pairs.meaning]
            exact Success.bind_exact.mpr ⟨_,meant,Success.bind_exact.mpr ⟨_,named,rfl⟩⟩
          · intro m member
            rcases List.mem_cons.mp member with rfl | old
            · exact spans
            · exact (placed m old).behind front
        | none =>
          simp only
          refine Traced.meets_bind (expect_meets rfl there) ?_
          intro left close
          refine Traced.meets_pure ⟨.last key term,?_,?_,?_⟩
          · simpa [Pairs.lexemes] using (colon.cons isLexeme).trans (reads.trans close)
          · rw [Pairs.meaning,meant]
            rfl
          · intro m member
            rw [List.mem_singleton.mp member]
            exact spans
      · exact fail_meets _
termination_by ts => (ts.length,1)
decreasing_by all_goals (simp only [List.length_cons]; omega)

end

end Readers

end TemplateSchema.Chain
