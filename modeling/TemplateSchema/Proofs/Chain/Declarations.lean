import Mathlib
import TemplateSchema.Proofs.Chain.Complete
/-!
A text that is one builder chain spells out what its sentence means. Any other text is refused.
-/
set_option autoImplicit false
namespace TemplateSchema.Chain

-- No integer of a text has too many digits to be turned into a number.
def HasShortIntegers (cs : List Char) : Prop :=
  ∀ ls, Scans cs ls → ∀ l ∈ ls, ¬ Lexeme.IsLong l

theorem Lexed.text_length {offset : Nat} {cs : List Char} {ts : List Token} (lexed : Lexed offset cs ts) :
    ∀ t ∈ ts, t.text.length ≤ cs.length := by
  induction lexed with
  | done => simp
  | blank _ _ ih => exact fun t member => Nat.le_succ_of_le (ih t member)
  | @token offset c rest kind n ts solid read _ ih =>
    intro t member
    rcases List.mem_cons.mp member with rfl | later
    · simp only [List.length_cons,List.length_take]
      omega
    · have less := ih t later
      simp only [List.length_cons,List.length_drop] at less ⊢
      omega

-- No integer has more digits than there are characters in the text.
theorem short_text {cs : List Char} (short : cs.length ≤ Numeral.digitLimit) : HasShortIntegers cs := by
  rintro _ ⟨ts,read,rfl⟩ l member ⟨_,_,long⟩
  obtain ⟨t,isToken,rfl⟩ := List.mem_map.mp member
  have inside := (tokensFrom_exact.mp read).text_length t isToken
  have digits : Numeral.digitCount t.text ≤ t.text.length := List.countP_le_length
  simp only [Token.lexeme] at long
  omega

section Texts

variable {text : String} {declaration : Entries}

theorem readTokens_exact {cs : List Char} {ts : List Token} :
    (readTokens cs).outcome = .ok ts ↔ tokens cs = .ok ts := by
  rw [readTokens,Traced.ofExcept_outcome,Success.mapError_exact]

-- Only a quoted text means a text, and only a chain means one.
theorem meaning_origin {term : Term} {v : Value} (meant : term.meaning = .ok v) :
    (∀ s, v = .text s → ∃ quoted, term = .text quoted ∧ unquoted quoted = s) ∧
      ∀ d, v = .chain d → ∃ sentence, term = .chain sentence ∧ sentence.meaning = .ok d := by
  cases term with
  | text quoted =>
    cases meant
    refine ⟨fun s same => ⟨quoted,rfl,Value.text.inj same⟩,?_⟩
    intro _ same
    cases same
  | chain sentence =>
    obtain ⟨d,inner,rfl⟩ := Success.map_exact.mp meant
    constructor
    · intro _ same
      cases same
    · intro _ same
      cases same
      exact ⟨sentence,rfl,inner⟩
  | number digits =>
    rw [Term.meaning,numberValue] at meant
    split at meant
    · cases meant
      exact ⟨nofun,nofun⟩
    · split at meant
      · cases meant
      · cases meant
        exact ⟨nofun,nofun⟩
  | object pairs =>
    obtain ⟨_,_,rfl⟩ := Success.map_exact.mp meant
    exact ⟨nofun,nofun⟩
  | array terms =>
    obtain ⟨_,_,rfl⟩ := Success.map_exact.mp meant
    exact ⟨nofun,nofun⟩
  | _ =>
    cases meant
    exact ⟨nofun,nofun⟩

theorem chain_meaning {term : Term} (meant : term.meaning = .ok (.chain declaration)) :
    ∃ sentence, term = .chain sentence ∧ sentence.meaning = .ok declaration :=
  (meaning_origin meant).2 declaration rfl

theorem text_meaning {term : Term} {s : Text} (meant : term.meaning = .ok (.text s)) :
    ∃ quoted, term = .text quoted ∧ unquoted quoted = s :=
  (meaning_origin meant).1 s rfl

-- What the end of the tokens is to be, seen from the tokens that a reader left.
theorem expectEnd_meets {bad : Failure → Prop} {ts : List Token} (faults : ∀ fault, bad (.chain fault)) :
    (expectEnd ts).Meets (fun _ => ts = []) bad := by
  cases ts with
  | nil => exact Traced.meets_pure rfl
  | cons t rest => exact Traced.meets_failed (faults _)

theorem readTokens_meets {bad : Failure → Prop} {cs : List Char} (faults : ∀ fault, bad (.chain fault)) :
    (readTokens cs).Meets (fun ts => tokens cs = .ok ts) bad := by
  refine Traced.meets_ofExcept (fun ts read => Success.mapError_exact.mp read) ?_
  intro f failed
  obtain ⟨fault,_,rfl⟩ := Success.mapError_fails.mp failed
  exact faults fault

-- A failure that the text is to blame for, or an integer that is too long in it.
def IsFault (cs : List Char) (f : Failure) : Prop :=
  (∃ fault, f = .chain fault) ∨ ¬ HasShortIntegers cs

theorem refused_fault {cs : List Char} {ts : List Token} (scans : Scans cs (ts.map Token.lexeme)) {f : Failure}
    (refused : Refused ts f) : IsFault cs f := by
  rcases refused with fault | ⟨t,member,long⟩
  · exact .inl fault
  · exact .inr fun short => short _ scans _ (List.mem_map_of_mem member) long

theorem declarationOf_meets (text : String) : (declarationOf text).Meets
    (fun declaration => ∃ sentence : Sentence, Scans text.toList sentence.lexemes ∧
      sentence.meaning = .ok declaration) (IsFault text.toList) := by
  have faults (fault : Fault) : IsFault text.toList (.chain fault) := .inl ⟨fault,rfl⟩
  refine Traced.meets_bind (readTokens_meets faults) ?_
  intro ts read
  have scans : Scans text.toList (ts.map Token.lexeme) := scans_strip.mp ⟨ts,read,rfl⟩
  have formed := (tokensFrom_exact.mp read).formed
  refine Traced.meets_bind ((value_meets formed ts (List.Subset.refl ts)).weaken fun _ => refused_fault scans) ?_
  rintro ⟨v,rest⟩ ⟨term,reads,meant⟩
  refine Traced.meets_bind (expectEnd_meets faults) ?_
  intro _ isEnd
  rw [isEnd] at reads
  obtain ⟨used,whole,lexemes⟩ := reads
  rw [List.append_nil] at whole
  cases v with
  | chain declaration =>
    obtain ⟨sentence,rfl,inner⟩ := chain_meaning meant
    refine Traced.meets_pure ⟨sentence,?_,inner⟩
    rw [whole,lexemes] at scans
    exact scans
  | _ => exact Traced.meets_failed (faults _)

theorem declarationOf_complete {sentence : Sentence} (scans : Scans text.toList sentence.lexemes)
    (meant : sentence.meaning = .ok declaration) : (declarationOf text).outcome = .ok declaration := by
  obtain ⟨ts,read,lexemes⟩ := scans_strip.mpr scans
  have formed := (tokensFrom_exact.mp read).formed
  have reads : Reads ts [] (Term.chain sentence).lexemes := ⟨ts,by simp,lexemes⟩
  obtain ⟨⟨_,_⟩,value_,rfl⟩ := value_complete (.chain sentence) formed reads
    (Success.map_exact.mpr ⟨declaration,meant,rfl⟩) rfl
  refine Traced.bind_outcome.mpr ⟨ts,readTokens_exact.mpr read,?_⟩
  refine Traced.bind_outcome.mpr ⟨_,value_,?_⟩
  exact Traced.bind_outcome.mpr ⟨(),rfl,rfl⟩

-- A text is read as a declaration just in case it is a chain that means it; one that means nothing
-- has a fault, unless an integer in it is too long.
theorem declarationOf_exact (text : String) (short : HasShortIntegers text.toList) :
    (∀ declaration, (declarationOf text).outcome = .ok declaration ↔
      ∃ sentence : Sentence, Scans text.toList sentence.lexemes ∧ sentence.meaning = .ok declaration) ∧
    ((¬ ∃ (sentence : Sentence) (declaration : Entries), Scans text.toList sentence.lexemes ∧
      sentence.meaning = .ok declaration) → ∃ fault, (declarationOf text).outcome = .error (.chain fault)) := by
  obtain ⟨succeeds,fails⟩ := declarationOf_meets text
  refine ⟨?_,?_⟩
  · intro declaration
    constructor
    · exact succeeds declaration
    · rintro ⟨sentence,scans,meant⟩
      exact declarationOf_complete scans meant
  · intro nothing
    cases outcome : (declarationOf text).outcome with
    | ok declaration =>
      obtain ⟨sentence,scans,meant⟩ := succeeds declaration outcome
      exact absurd ⟨sentence,declaration,scans,meant⟩ nothing
    | error f =>
      obtain ⟨fault,rfl⟩ := (fails f outcome).resolve_right (not_not_intro short)
      exact ⟨fault,rfl⟩

end Texts

section Dates

theorem scans_map {cs : List Char} {ls : List Lexeme} :
    Scans cs ls ↔ (tokens cs).map (List.map Token.lexeme) = .ok ls :=
  Success.map_exact.symm

def datesText : String := " z.array( z.date(), ).min(2)"

def datesSentence : Sentence :=
  .of (.of "array".toList (.more (.chain (.of (.of "date".toList .done) .done)) .done))
    (.more (.of "min".toList (.last (.number ['2']))) .done)

def datesDeclaration : Entries :=
  [(.text "type",.text "array"),(.text "items",.map [(.text "type",.text "date")]),(.text "minItems",.int 2)]

theorem dates_scanned : Scans datesText.toList datesSentence.lexemes := by
  rw [scans_map]
  decide +kernel

theorem dates_meaning : datesSentence.meaning = .ok datesDeclaration := by
  cbv

theorem dates_short : HasShortIntegers datesText.toList :=
  short_text (by decide)

theorem dates_declared : HasShortIntegers datesText.toList ∧ (declarationOf datesText).outcome = .ok datesDeclaration :=
  ⟨dates_short,((declarationOf_exact datesText dates_short).1 datesDeclaration).mpr
    ⟨datesSentence,dates_scanned,dates_meaning⟩⟩

end Dates

end TemplateSchema.Chain
