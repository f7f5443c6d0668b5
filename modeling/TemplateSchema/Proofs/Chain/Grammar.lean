import Mathlib.Data.List.Induction
import TemplateSchema.Chain.Reader
/-!
The language of builder chains, apart from how it is read. A derivation is a tree; its lexemes are
the sentence that it derives, and its meaning is what the sentence spells out, if every call in it
has an effect.
-/
set_option autoImplicit false
namespace TemplateSchema.Chain

-- A token without its place in the text.
abbrev Lexeme := TokenKind × List Char

def Token.lexeme (t : Token) : Lexeme :=
  (t.kind,t.text)

def mark (c : Char) : Lexeme :=
  (.mark,[c])

def word (s : String) : Lexeme :=
  (.name,s.toList)

inductive Key where
  | quoted (text : List Char)
  | named (text : List Char)

def Key.lexeme : Key → Lexeme
  | .quoted text => (.string,text)
  | .named text => (.name,text)

def Key.name : Key → String
  | .quoted text => unquoted text
  | .named text => String.ofList text

-- Terms and pairs end in nothing, in a last one, or in a last one with a comma behind it, which is
-- `more` in front of `done`.
mutual

inductive Term where
  | text (quoted : List Char)
  | number (digits : List Char)
  | yes
  | no
  | null
  | undefined
  | chain (sentence : Sentence)
  | object (pairs : Pairs)
  | array (terms : Terms)

inductive Sentence where
  | of (first : Invocation) (rest : Modifiers)

inductive Invocation where
  | of (name : List Char) (arguments : Terms)

inductive Modifiers where
  | done
  | more (next : Invocation) (rest : Modifiers)

inductive Terms where
  | done
  | last (term : Term)
  | more (term : Term) (rest : Terms)

inductive Pairs where
  | done
  | last (key : Key) (term : Term)
  | more (key : Key) (term : Term) (rest : Pairs)

end

mutual

def Term.lexemes : Term → List Lexeme
  | .text quoted => [(.string,quoted)]
  | .number digits => [(.number,digits)]
  | .yes => [word "true"]
  | .no => [word "false"]
  | .null => [word "null"]
  | .undefined => [word "undefined"]
  | .chain sentence => sentence.lexemes
  | .object pairs => mark '\x7b' :: (pairs.lexemes ++ [mark '\x7d'])
  | .array terms => mark '[' :: (terms.lexemes ++ [mark ']'])

def Sentence.lexemes : Sentence → List Lexeme
  | .of first rest => word "z" :: mark '.' :: (first.lexemes ++ rest.lexemes)

def Invocation.lexemes : Invocation → List Lexeme
  | .of name arguments => (.name,name) :: mark '(' :: (arguments.lexemes ++ [mark ')'])

def Modifiers.lexemes : Modifiers → List Lexeme
  | .done => []
  | .more next rest => mark '.' :: (next.lexemes ++ rest.lexemes)

def Terms.lexemes : Terms → List Lexeme
  | .done => []
  | .last term => term.lexemes
  | .more term rest => term.lexemes ++ mark ',' :: rest.lexemes

def Pairs.lexemes : Pairs → List Lexeme
  | .done => []
  | .last key term => key.lexeme :: mark ':' :: term.lexemes
  | .more key term rest => key.lexeme :: mark ':' :: (term.lexemes ++ mark ',' :: rest.lexemes)

end

-- One entry for each name, at the place of its first pair and with the value of its last one.
def latest (pairs : List (String × Value)) : Entries :=
  (pairs.map Prod.fst).eraseDups.map fun name : String => (.text name,(pairs.reverse.lookup name).getD .null)

mutual

def Term.meaning : Term → Except Failure Value
  | .text quoted => .ok (.text (unquoted quoted))
  | .number digits => numberValue digits
  | .yes => .ok (.bool true)
  | .no => .ok (.bool false)
  | .null => .ok .null
  | .undefined => .ok .null
  | .chain sentence => sentence.meaning.map .chain
  | .object pairs => pairs.meaning.map fun named => .map (latest named)
  | .array terms => terms.meaning.map .list

-- The first call builds a declaration, and each call behind it is applied to what there is by then.
def Sentence.meaning : Sentence → Except Failure Entries
  | .of first rest => do
    let (name,arguments) ← first.meaning
    let declaration ← (build name arguments).mapError Failure.chain
    rest.meaning declaration

def Invocation.meaning : Invocation → Except Failure (String × List Value)
  | .of name arguments => arguments.meaning.map fun values => (String.ofList name,values)

def Modifiers.meaning : Modifiers → Entries → Except Failure Entries
  | .done, declaration => .ok declaration
  | .more next rest, declaration => do
    let (name,arguments) ← next.meaning
    let declaration ← (apply declaration name arguments).outcome
    rest.meaning declaration

def Terms.meaning : Terms → Except Failure (List Value)
  | .done => .ok []
  | .last term => term.meaning.map fun v => [v]
  | .more term rest => do
    let v ← term.meaning
    let others ← rest.meaning
    .ok (v :: others)

def Pairs.meaning : Pairs → Except Failure (List (String × Value))
  | .done => .ok []
  | .last key term => term.meaning.map fun v => [(key.name,v)]
  | .more key term rest => do
    let v ← term.meaning
    let others ← rest.meaning
    .ok ((key.name,v) :: others)

end

theorem eraseDups_snoc (names : List String) (name : String) :
    (names ++ [name]).eraseDups = if name ∈ names then names.eraseDups else names.eraseDups ++ [name] := by
  rw [List.eraseDups_append]
  by_cases known : name ∈ names
  · simp [known,List.removeAll]
  · simp [known,List.removeAll,List.eraseDups_cons]

theorem eraseDups_nodup (names : List String) : names.eraseDups.Nodup := by
  induction names using List.reverseRecOn with
  | nil => simp
  | append_singleton names name ih =>
    rw [eraseDups_snoc]
    split
    · exact ih
    · rename_i new
      refine List.nodup_append.mpr ⟨ih,by simp,?_⟩
      intro old member last isLast same
      rw [List.mem_singleton.mp isLast] at same
      exact new (same ▸ List.mem_eraseDups.mp member)

theorem insert_known {names : List String} {value : String → Value} {name : String} {v : Value}
    (nodup : names.Nodup) (known : name ∈ names) :
    Entries.insert (names.map fun n : String => (.text n,value n)) (.text name) v =
      names.map fun n : String => (.text n,if n = name then v else value n) := by
  induction names with
  | nil => cases known
  | cons first rest ih =>
    obtain ⟨new,nodup⟩ := List.nodup_cons.mp nodup
    by_cases same : first = name
    · subst same
      have others : ∀ n ∈ rest, n = first → value n = v := fun n member equal => absurd (equal ▸ member) new
      simpa [Entries.insert,Value.same,Value.sameScalar,Value.count?] using others
    · have later := ih nodup ((List.mem_cons.mp known).resolve_left (Ne.symm same))
      simp [Entries.insert,Value.same,Value.sameScalar,Value.count?,same,later]

theorem insert_new {names : List String} {value : String → Value} {name : String} {v : Value}
    (new : name ∉ names) :
    Entries.insert (names.map fun n : String => (.text n,value n)) (.text name) v =
      names.map (fun n : String => (.text n,value n)) ++ [(.text name,v)] := by
  induction names with
  | nil => rfl
  | cons first rest ih =>
    rw [List.mem_cons,not_or] at new
    simp [Entries.insert,Value.same,Value.sameScalar,Value.count?,Ne.symm new.1,ih new.2]

-- Inserting pairs one after another leaves the last value of each name.
theorem latest_exact (pairs : List (String × Value)) :
    Entries.ofList (pairs.map fun pair => (.text pair.1,pair.2)) = latest pairs := by
  induction pairs using List.reverseRecOn with
  | nil => rfl
  | append_singleton pairs pair ih =>
    obtain ⟨name,v⟩ := pair
    rw [Entries.ofList] at ih
    rw [Entries.ofList,List.map_append,List.foldl_append,ih]
    simp only [List.map_cons,List.map_nil,List.foldl_cons,List.foldl_nil,latest]
    rw [List.map_append,List.map_cons,List.map_nil,eraseDups_snoc]
    have looked (n : String) : ((pairs ++ [(name,v)]).reverse.lookup n).getD .null =
        if n = name then v else (pairs.reverse.lookup n).getD .null := by
      by_cases same : n = name
      · simp [same]
      · simp [List.lookup_cons,same,beq_eq_false_iff_ne.mpr same]
    by_cases known : name ∈ pairs.map Prod.fst
    · rw [if_pos known,insert_known (eraseDups_nodup _) (List.mem_eraseDups.mpr known)]
      simp only [looked]
    · rw [if_neg known,insert_new (mt List.mem_eraseDups.mp known),List.map_append,List.map_cons,List.map_nil]
      congr 1
      · refine List.map_congr_left ?_
        intro n member
        have different : n ≠ name := fun same => known (same ▸ List.mem_eraseDups.mp member)
        rw [looked,if_neg different]
      · rw [looked,if_pos rfl]

end TemplateSchema.Chain
