import Mathlib.Data.List.Chain
import TemplateSchema.Proofs.Chain.Declarations
/-!
How chains are spelled. A token stands in the text as it is, behind blanks or another token, and of
two tokens next to each other in a sentence one is a mark; so no name or number runs into a chain. In
front of the first parenthesis of a chain there are the builder, a point and a name, and blanks.
-/
set_option autoImplicit false
namespace TemplateSchema.Chain

-- A quoted text opens with a quotation mark and goes on, and a mark is by itself.
theorem lexeme_cases {c : Char} {rest : List Char} {kind : TokenKind} {n : Nat} (read : lexeme? c rest = some (kind,n)) :
    match kind with
    | .string => (c = '"' ∨ c = '\'') ∧ 0 < n
    | .mark => isMark c = true ∧ n = 0
    | _ => True := by
  unfold lexeme? at read
  split at read
  · rename_i isQuote
    obtain ⟨m,quoted,same⟩ := Option.map_eq_some_iff.mp read
    cases same
    exact ⟨isQuote,(quoted_length quoted).1⟩
  · split at read
    · cases read
      trivial
    · split at read
      · split at read
        · cases read
          trivial
        · cases read
      · split at read
        · cases read
          trivial
        · split at read
          · rename_i single
            cases read
            exact ⟨single,rfl⟩
          · cases read

namespace Lexed

variable {offset : Nat} {cs : List Char} {t u : Token} {ts before after : List Token}

-- The first token of a text stands in it behind blanks.
theorem first (lexed : Lexed offset cs (t :: ts)) : ∃ blanks rest, cs = blanks ++ (t.text ++ rest) ∧
    (∀ b ∈ blanks, Text.isBlank b = true) ∧ t.start = offset + blanks.length ∧
    t.stop = t.start + t.text.length ∧ Lexed t.stop rest ts := by
  generalize whole : t :: ts = all at lexed
  induction lexed with
  | done => cases whole
  | @blank offset c rest _ isBlank _ ih =>
    obtain ⟨blanks,others,rfl,blank,start,later⟩ := ih whole
    refine ⟨c :: blanks,others,rfl,List.forall_mem_cons.mpr ⟨isBlank,blank⟩,?_,later⟩
    rw [start,List.length_cons]
    omega
  | @token offset c rest kind n _ solid read others _ =>
    cases whole
    refine ⟨[],rest.drop n,by simp,by simp,rfl,?_,others⟩
    exact (text_stop (lexeme_length read)).symm

-- Between two tokens there are only blanks.
theorem between (lexed : Lexed offset cs (before ++ u :: t :: after)) : ∃ front blanks rest,
    cs = front ++ (u.text ++ (blanks ++ (t.text ++ rest))) ∧ (∀ b ∈ blanks, Text.isBlank b = true) ∧
    t.start = offset + (front ++ (u.text ++ blanks)).length := by
  induction before generalizing offset cs with
  | nil =>
    obtain ⟨front,rest,rfl,_,start,stop,later⟩ := lexed.first
    obtain ⟨blanks,rest,rfl,blank,next,_⟩ := later.first
    refine ⟨front,blanks,rest,rfl,blank,?_⟩
    rw [next,stop,start]
    simp only [List.length_append]
    omega
  | cons w others ih =>
    obtain ⟨blanks,rest,rfl,_,start,stop,later⟩ := lexed.first
    obtain ⟨front,gap,rest,rfl,blank,next⟩ := ih later
    refine ⟨blanks ++ (w.text ++ front),gap,rest,by simp,blank,?_⟩
    rw [next,stop,start]
    simp only [List.length_append]
    omega

-- A quoted text stands between two characters, the first of which is a quotation mark.
theorem quoted_text (lexed : Lexed offset cs (t :: ts)) (isString : t.kind = .string) :
    ∃ quote body close, t.text = quote :: (body ++ [close]) ∧ (quote = '"' ∨ quote = '\'') := by
  generalize whole : t :: ts = all at lexed
  induction lexed with
  | done => cases whole
  | blank _ _ ih => exact ih whole
  | @token offset c rest kind n _ solid read _ _ =>
    cases whole
    obtain rfl : kind = .string := isString
    obtain ⟨isQuote,some_⟩ := lexeme_cases read
    have inside := lexeme_length read
    have last : rest.take n ≠ [] := by
      intro nothing
      have length := congrArg List.length nothing
      rw [List.length_take,List.length_nil] at length
      omega
    exact ⟨c,(rest.take n).dropLast,(rest.take n).getLast last,by rw [List.dropLast_append_getLast],isQuote⟩

theorem mark_text (lexed : Lexed offset cs (t :: ts)) (isMark : t.kind = .mark) :
    ∃ c, t.text = [c] ∧ Chain.isMark c = true := by
  generalize whole : t :: ts = all at lexed
  induction lexed with
  | done => cases whole
  | blank _ _ ih => exact ih whole
  | @token offset c rest kind n _ solid read _ _ =>
    cases whole
    obtain rfl : kind = .mark := isMark
    obtain ⟨single,rfl⟩ := lexeme_cases read
    exact ⟨c,rfl,single⟩

end Lexed

-- Of two lexemes next to each other one is a mark.
def Borders (l m : Lexeme) : Prop :=
  l.1 = .mark ∨ m.1 = .mark

section Borders

variable {ls ms : List Lexeme}

theorem borders_joined {c : Char} (left : ls.IsChain Borders) (right : ms.IsChain Borders) :
    (ls ++ mark c :: ms).IsChain Borders := by
  refine List.isChain_append.mpr ⟨left,?_,?_⟩
  · exact List.isChain_cons.mpr ⟨fun _ _ => .inl rfl,right⟩
  · intro l _ m first
    cases first
    exact .inr rfl

mutual

theorem term_borders : (term : Term) → term.lexemes.IsChain Borders
  | .text _ => .singleton _
  | .number _ => .singleton _
  | .yes => .singleton _
  | .no => .singleton _
  | .null => .singleton _
  | .undefined => .singleton _
  | .chain sentence => sentence_borders sentence
  | .object pairs => borders_joined .nil (borders_joined (pairs_borders pairs) .nil)
  | .array terms => borders_joined .nil (borders_joined (terms_borders terms) .nil)

theorem sentence_borders : (sentence : Sentence) → sentence.lexemes.IsChain Borders
  | .of first rest => borders_joined (.singleton _) (modifiers_borders rest (invocation_borders first))

theorem invocation_borders : (i : Invocation) → i.lexemes.IsChain Borders
  | .of _ arguments => borders_joined (.singleton _) (borders_joined (terms_borders arguments) .nil)

theorem modifiers_borders : (more : Modifiers) → ∀ {ls : List Lexeme}, ls.IsChain Borders →
    (ls ++ more.lexemes).IsChain Borders
  | .done, ls, before => by
    rw [Modifiers.lexemes,List.append_nil]
    exact before
  | .more next rest, ls, before => borders_joined before (modifiers_borders rest (invocation_borders next))

theorem terms_borders : (terms : Terms) → terms.lexemes.IsChain Borders
  | .done => .nil
  | .last term => term_borders term
  | .more term rest => borders_joined (term_borders term) (terms_borders rest)

theorem pairs_borders : (pairs : Pairs) → pairs.lexemes.IsChain Borders
  | .done => .nil
  | .last _ term => borders_joined (.singleton _) (term_borders term)
  | .more _ term rest => borders_joined (.singleton _) (borders_joined (term_borders term) (pairs_borders rest))

end

end Borders

section Openings

variable {cs : List Char} {sentence : Sentence} {declaration : Entries}

-- What stands in front of a call's parenthesis: the builder, a point and a name in letters.
inductive Opening : List Char → Prop where
  | of {before inner outer name behind : List Char} (blank : ∀ b ∈ before ++ inner ++ outer ++ behind, Text.isBlank b = true)
      (some_ : name ≠ []) (letters : ∀ c ∈ name, c.isAlpha = true) :
      Opening (before ++ 'z' :: (inner ++ '.' :: (outer ++ (name ++ behind))))

theorem build_known {name : String} {args : List Value} (built : build name args = .ok declaration) :
    name ∈ ["string","number","boolean","date","array","object","enum","record"] := by
  by_contra unknown
  simp only [List.mem_cons,List.not_mem_nil,or_false,not_or] at unknown
  simp [build,unknown] at built

theorem build_letters {name : String} {args : List Value} (built : build name args = .ok declaration) :
    name.toList ≠ [] ∧ ∀ c ∈ name.toList, c.isAlpha = true := by
  have known := build_known built
  simp only [List.mem_cons,List.not_mem_nil,or_false] at known
  rcases known with rfl | rfl | rfl | rfl | rfl | rfl | rfl | rfl <;> simp

theorem text_of {t : Token} {l : Lexeme} (same : t.lexeme = l) : t.text = l.2 :=
  congrArg Prod.snd same

theorem sentence_opening (scans : Scans cs sentence.lexemes) (meant : sentence.meaning = .ok declaration) :
    ∃ front rest, cs = front ++ '(' :: rest ∧ Opening front := by
  obtain ⟨⟨name,arguments⟩,more⟩ := sentence
  obtain ⟨⟨called,args⟩,values,later⟩ := Success.bind_exact.mp meant
  obtain ⟨_,_,same⟩ := Success.map_exact.mp values
  obtain ⟨rfl,rfl⟩ := Prod.mk.inj same
  obtain ⟨_,built,_⟩ := Success.bind_exact.mp later
  obtain ⟨some_,letters⟩ := build_letters (Success.mapError_exact.mp built)
  rw [String.toList_ofList] at some_ letters
  obtain ⟨ts,read,lexemes⟩ := scans
  obtain ⟨z,ts,rfl,isZ,lexemes⟩ := List.map_eq_cons_iff.mp lexemes
  obtain ⟨point,ts,rfl,isPoint,lexemes⟩ := List.map_eq_cons_iff.mp lexemes
  obtain ⟨named,ts,rfl,isName,lexemes⟩ := List.map_eq_cons_iff.mp lexemes
  obtain ⟨paren,ts,rfl,isParen,_⟩ := List.map_eq_cons_iff.mp lexemes
  obtain ⟨before,rest,rfl,first,_,_,lexed⟩ := (tokensFrom_exact.mp read).first
  obtain ⟨inner,rest,rfl,second,_,_,lexed⟩ := lexed.first
  obtain ⟨outer,rest,rfl,third,_,_,lexed⟩ := lexed.first
  obtain ⟨behind,rest,rfl,fourth,_,_,_⟩ := lexed.first
  have blank : ∀ b ∈ before ++ inner ++ outer ++ behind, Text.isBlank b = true := by
    simp only [List.mem_append]
    rintro b (((member | member) | member) | member)
    · exact first b member
    · exact second b member
    · exact third b member
    · exact fourth b member
  refine ⟨_,rest,?_,.of blank some_ letters⟩
  rw [text_of isZ,text_of isPoint,text_of isName,text_of isParen]
  simp [word,mark]

theorem declared_opening {text : String} (declared : (declarationOf text).outcome = .ok declaration) :
    ∃ front rest, text.toList = front ++ '(' :: rest ∧ Opening front := by
  obtain ⟨sentence,scans,meant⟩ := (declarationOf_meets text).1 declaration declared
  exact sentence_opening scans meant

end Openings

end TemplateSchema.Chain
