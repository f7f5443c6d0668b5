import TemplateSchema.Proofs.Template.Tagged
/-!
What extraction passes over without a word. A text that declares no schema is an ordinary case, and
nothing is recorded of it; whatever else comes to nothing is recorded, but for a null in the place of
a schema.
-/
set_option autoImplicit false
namespace TemplateSchema

namespace Traced

theorem bind_silent {α β : Type} {x : Traced α} {next : α → Traced β} {b : β} :
    x >>= next = done b ↔ ∃ a, x = done a ∧ next a = done b := by
  change andThen x next = done b ↔ _
  obtain ⟨outcome,records⟩ := x
  cases outcome with
  | error f => simp [andThen,done]
  | ok a =>
    cases later : next a with
    | mk outcome more => cases records <;> simp [andThen,done,later,and_comm]

end Traced

namespace Directive

variable {cs word front before inner rest after : List Char}

-- A tag in a text, with a literal in braces inside it.
def HasDirective (cs : List Char) : Prop :=
  ∃ (tag : Tag) (before inner after : List Char),
    cs = before ++ (tag.front ++ '\x7b' :: (inner ++ '\x7d' :: (tag.back ++ after)))

section Pieces

theorem literally_exact : literally? word cs = some rest ↔ cs = word ++ rest := by
  constructor
  · intro found
    obtain ⟨behind,rfl⟩ := literally_starts found
    rw [literally_found] at found
    rw [Option.some.inj found]
  · intro whole
    rw [whole,literally_found]

theorem dash_split (cs : List Char) : ∃ dashed, cs = dash dashed ++ withoutDash cs := by
  unfold withoutDash
  split
  · exact ⟨true,rfl⟩
  · exact ⟨false,rfl⟩

theorem blanks_split (cs : List Char) :
    ∃ blanks, (∀ b ∈ blanks, Text.isBlank b = true) ∧ cs = blanks ++ skipBlanks cs :=
  ⟨cs.takeWhile Text.isBlank,fun _ => List.mem_takeWhile_imp,List.takeWhile_append_dropWhile.symm⟩

theorem behindBlank_split (found : behindBlank? cs = some rest) :
    ∃ blanks, blanks ≠ [] ∧ (∀ b ∈ blanks, Text.isBlank b = true) ∧ cs = blanks ++ rest := by
  cases cs with
  | nil => cases found
  | cons b cs =>
    rw [behindBlank?] at found
    split at found
    · rename_i blank
      obtain ⟨blanks,others,whole⟩ := blanks_split cs
      rw [Option.some.inj found] at whole
      exact ⟨b :: blanks,List.cons_ne_nil _ _,List.forall_mem_cons.mpr ⟨blank,others⟩,congrArg (b :: ·) whole⟩
    · cases found

-- What opens a directive is the front of a tag and the brace of the literal.
theorem opened_tag (opened : opened? cs = some rest) : ∃ tag : Tag, cs = tag.front ++ '\x7b' :: rest := by
  unfold opened? at opened
  simp only [Option.bind_eq_bind,Option.bind_eq_some_iff] at opened
  obtain ⟨sign,opens,keyword,set,name,apart,behind,schema,literal,equals,brace⟩ := opened
  rw [literally_exact] at opens set schema equals brace
  obtain ⟨dashed,dashes⟩ := dash_split sign
  obtain ⟨first,firstBlank,beforeSet⟩ := blanks_split (withoutDash sign)
  obtain ⟨second,some_,secondBlank,behindSet⟩ := behindBlank_split apart
  obtain ⟨third,thirdBlank,behindName⟩ := blanks_split behind
  obtain ⟨fourth,fourthBlank,behindSign⟩ := blanks_split literal
  refine ⟨⟨dashed,first,second,third,fourth,[],false,?_,some_⟩,?_⟩
  · intro b member
    simp only [List.append_nil,List.mem_append] at member
    rcases member with ((inside | inside) | inside) | inside
    · exact firstBlank b inside
    · exact secondBlank b inside
    · exact thirdBlank b inside
    · exact fourthBlank b inside
  · rw [opens,dashes,beforeSet,set,behindSet,schema,behindName,equals,behindSign,brace]
    simp [Tag.front]

theorem front_unclosed (tag : Tag) : '\x7d' ∉ tag.front := by
  have blank : ∀ b ∈ tag.beforeSet ++ tag.behindSet ++ tag.behindName ++ tag.behindSign, b ≠ '\x7d' := by
    intro b member same
    have isBlank := tag.blank b (List.mem_append_left _ member)
    rw [same] at isBlank
    cases isBlank
  have dashes : '\x7d' ∉ dash tag.opensDashed := by cases tag.opensDashed <;> decide
  simp only [List.mem_append,or_imp,forall_and] at blank
  obtain ⟨⟨⟨before_,set_⟩,name_⟩,sign_⟩ := blank
  unfold Tag.front
  simp only [List.mem_append,not_or]
  refine ⟨⟨⟨⟨⟨⟨⟨⟨by decide,dashes⟩,?_⟩,by decide⟩,?_⟩,by decide⟩,?_⟩,by decide⟩,?_⟩
  · exact fun member => before_ _ member rfl
  · exact fun member => set_ _ member rfl
  · exact fun member => name_ _ member rfl
  · exact fun member => sign_ _ member rfl

theorem back_split (ends : endsTag cs = true) : ∃ (blanks : List Char) (dashed : Bool) (after : List Char),
    (∀ b ∈ blanks, Text.isBlank b = true) ∧ cs = blanks ++ (dash dashed ++ (['%','\x7d'] ++ after)) := by
  obtain ⟨blanks,blank,behind⟩ := blanks_split cs
  obtain ⟨dashed,dashes⟩ := dash_split (skipBlanks cs)
  obtain ⟨after,closes⟩ := List.isPrefixOf_iff_prefix.mp ends
  refine ⟨blanks,dashed,after,blank,?_⟩
  rw [closes,← dashes,← behind]

end Pieces

section Presence

-- A mark that is not in the front of a text stands behind it.
theorem mark_behind {mark : Char} (absent : mark ∉ front) (same : front ++ rest = before ++ mark :: after) :
    ∃ more, rest = more ++ mark :: after := by
  rcases List.append_eq_append_iff.mp same with ⟨more,_,behind⟩ | ⟨more,inside,behind⟩
  · exact ⟨more,behind⟩
  · cases more with
    | nil => exact ⟨[],behind.symm⟩
    | cons c more =>
      obtain ⟨rfl,_⟩ := List.cons.inj behind
      rw [inside] at absent
      exact absurd (List.mem_append_right _ List.mem_cons_self) absent

theorem closed_exact :
    (∃ literal, closed? cs = some literal) ↔ ∃ inner after, cs = inner ++ '\x7d' :: after ∧ endsTag after = true := by
  induction cs with
  | nil => simp [closed?]
  | cons c rest ih =>
    rw [closed?]
    by_cases closes : c = '\x7d' ∧ endsTag rest = true
    · rw [if_pos closes]
      exact iff_of_true ⟨_,rfl⟩ ⟨[],rest,congrArg (· :: rest) closes.1,closes.2⟩
    · simp only [if_neg closes,Option.map_eq_some_iff]
      constructor
      · intro found
        obtain ⟨_,literal,later,_⟩ := found
        obtain ⟨inner,after,whole,ends⟩ := ih.mp ⟨literal,later⟩
        exact ⟨c :: inner,after,congrArg (c :: ·) whole,ends⟩
      · intro found
        obtain ⟨inner,after,whole,ends⟩ := found
        cases inner with
        | nil =>
          obtain ⟨first,rfl⟩ := List.cons.inj whole
          exact absurd ⟨first,ends⟩ closes
        | cons d inner =>
          obtain ⟨literal,later⟩ := ih.mpr ⟨inner,after,(List.cons.inj whole).2,ends⟩
          exact ⟨_,literal,later,rfl⟩

theorem directive_literal (present : HasDirective cs) : ∃ literal, literalChars? cs = some literal := by
  obtain ⟨tag,before,inner,after,whole⟩ := present
  induction before generalizing cs with
  | nil =>
    obtain ⟨literal,closed⟩ := closed_exact.mpr ⟨inner,tag.back ++ after,rfl,back_ends tag after⟩
    exact ⟨_,by rw [whole,List.nil_append,literal_opened (tag_opened tag _),closed]; rfl⟩
  | cons c before ih =>
    rw [whole,List.cons_append]
    cases opened : opened? (c :: (before ++ (tag.front ++ '\x7b' :: (inner ++ '\x7d' :: (tag.back ++ after))))) with
    | none =>
      rw [literalChars?,opened]
      exact ih rfl
    | some behind =>
      -- An earlier tag has its own front without the closing brace, which is therefore in its literal.
      obtain ⟨other,starts⟩ := opened_tag opened
      have absent : '\x7d' ∉ other.front ++ ['\x7b'] := by
        rw [List.mem_append,List.mem_singleton,not_or]
        exact ⟨front_unclosed other,by decide⟩
      have same : other.front ++ ['\x7b'] ++ behind =
          c :: (before ++ (tag.front ++ '\x7b' :: inner)) ++ '\x7d' :: (tag.back ++ after) := by
        rw [List.append_assoc,List.singleton_append,← starts]
        simp
      obtain ⟨more,later⟩ := mark_behind absent same
      obtain ⟨literal,closed⟩ := closed_exact.mpr ⟨more,_,later,back_ends tag after⟩
      exact ⟨_,by rw [literal_opened opened,closed]; rfl⟩

theorem literal_directive {literal : List Char} (found : literalChars? cs = some literal) : HasDirective cs := by
  induction cs with
  | nil => cases found
  | cons c rest ih =>
    rw [literalChars?] at found
    cases opened : opened? (c :: rest) with
    | none =>
      rw [opened] at found
      obtain ⟨tag,before,inner,after,whole⟩ := ih found
      exact ⟨tag,c :: before,inner,after,congrArg (c :: ·) whole⟩
    | some behind =>
      rw [opened] at found
      obtain ⟨closing,closed,_⟩ := Option.map_eq_some_iff.mp found
      obtain ⟨inner,closes,whole,ends⟩ := closed_exact.mp ⟨closing,closed⟩
      obtain ⟨tag,starts⟩ := opened_tag opened
      obtain ⟨blanks,dashed,after,blank,finish⟩ := back_split ends
      refine ⟨⟨tag.opensDashed,tag.beforeSet,tag.behindSet,tag.behindName,tag.behindSign,blanks,dashed,?_,tag.apart⟩,
        [],inner,after,?_⟩
      · intro b member
        rcases List.mem_append.mp member with inside | inside
        · exact tag.blank b (List.mem_append_left _ inside)
        · exact blank b inside
      · rw [starts,whole,finish]
        simp [Tag.front,Tag.back]

theorem literal_none {text : String} : literal? text = none ↔ ¬ HasDirective text.toList := by
  rw [literal?,Option.map_eq_none_iff]
  constructor
  · intro none_ present
    obtain ⟨literal,found⟩ := directive_literal present
    rw [none_] at found
    cases found
  · intro absent
    exact Option.eq_none_iff_forall_ne_some.mpr fun literal found => absent (literal_directive found)

theorem literal_braced {literal : List Char} (found : literalChars? cs = some literal) :
    literal.head? = some '\x7b' := by
  induction cs with
  | nil => cases found
  | cons c rest ih =>
    rw [literalChars?] at found
    split at found
    · obtain ⟨_,_,rfl⟩ := Option.map_eq_some_iff.mp found
      rfl
    · exact ih found

end Presence

end Directive

namespace Json

-- What begins with a brace is a mapping.
theorem value_braced {cs rest : List Char} (opens : cs = '\x7b' :: rest) {found : Value} {behind : Shorter cs}
    (read : value cs = .ok (found,behind)) : ∃ entries, found = .map entries := by
  subst opens
  rw [value.eq_def] at read
  simp only [Char.reduceEq,if_false,if_true] at read
  split at read
  · cases read
    exact ⟨[],rfl⟩
  · obtain ⟨⟨members,_⟩,_,read⟩ := Success.bind_exact.mp read
    cases read
    exact ⟨_,rfl⟩

theorem braced_map {text : String} {v : Value} (opens : text.toList.head? = some '\x7b')
    (read_ : read text = .ok v) : ∃ entries, v = .map entries := by
  obtain ⟨rest,whole⟩ := List.head?_eq_some_iff.mp opens
  rw [read,Success.mapError_exact,whole,document,if_neg (by simp),Success.bind_exact] at read_
  obtain ⟨⟨found,behind⟩,first,last⟩ := read_
  simp only at last
  split at last
  · cases last
    have solid : (skipBlanks ('\x7b' :: rest)).val = '\x7b' :: rest := by
      change List.dropWhile isBlank ('\x7b' :: rest) = _
      exact List.dropWhile_cons_of_neg (by decide)
    exact value_braced solid first
  · cases last

end Json

namespace Template

variable {text : String} {v : Value}

-- There is no front matter, or it is valid and says nothing of a schema; and there is no directive.
def DeclaresNone (text : String) : Prop :=
  (∀ front, (FrontMatter.split text).1 = some front → ∃ v, Yaml.load front = .ok v ∧
    ∀ entries, v = .map entries → Entries.field? entries schemaKey = none) ∧
  ¬ Directive.HasDirective text.toList

-- The front matter has the key of the schema, with nothing behind it.
def HasNullSchema (text : String) : Prop :=
  ∃ front entries, (FrontMatter.split text).1 = some front ∧ Yaml.load front = .ok (.map entries) ∧
    Entries.field? entries schemaKey = some .null

theorem schema_under {v schema : Value} :
    (v.entries?.bind fun entries => Entries.field? entries schemaKey) = some schema ↔
      ∃ entries, v = .map entries ∧ Entries.field? entries schemaKey = some schema := by
  cases v <;> simp [Value.entries?]

theorem schema_absent {v : Value} : (v.entries?.bind fun entries => Entries.field? entries schemaKey) = none ↔
    ∀ entries, v = .map entries → Entries.field? entries schemaKey = none := by
  cases v <;> simp [Value.entries?]

theorem frontMatter_silent : inFrontMatter text = Traced.done .absent ↔
    ∀ front, (FrontMatter.split text).1 = some front → ∃ v, Yaml.load front = .ok v ∧
      ∀ entries, v = .map entries → Entries.field? entries schemaKey = none := by
  unfold inFrontMatter
  cases framed : (FrontMatter.split text).1 with
  | none => exact iff_of_true rfl (by simp)
  | some front =>
    simp only [Option.some.injEq,forall_eq']
    cases read : Yaml.load front with
    | ok v =>
      simp only [Except.ok.injEq,exists_eq_left',← schema_absent]
      cases v.entries?.bind fun entries => Entries.field? entries schemaKey with
      | none => exact iff_of_true rfl rfl
      | some schema => simp [pure,Traced.done]
    | error fault =>
      refine iff_of_false ?_ (by simp)
      intro silent
      rcases fault with ⟨code,position⟩ | ⟨cs,⟨level,report⟩ | fault⟩ <;> cases silent

theorem frontMatter_declared : inFrontMatter text = Traced.done (.declared v) ↔
    ∃ front entries, (FrontMatter.split text).1 = some front ∧ Yaml.load front = .ok (.map entries) ∧
      Entries.field? entries schemaKey = some v := by
  unfold inFrontMatter
  cases framed : (FrontMatter.split text).1 with
  | none => simp [pure,Traced.done]
  | some front =>
    simp only [Option.some.injEq,exists_and_left,exists_eq_left']
    cases read : Yaml.load front with
    | ok w =>
      simp only [Except.ok.injEq,← schema_under]
      cases w.entries?.bind fun entries => Entries.field? entries schemaKey with
      | none => simp [pure,Traced.done]
      | some schema => simp [pure,Traced.done]
    | error fault =>
      refine iff_of_false ?_ (by simp)
      intro silent
      rcases fault with ⟨code,position⟩ | ⟨cs,⟨level,report⟩ | fault⟩ <;> cases silent

theorem directive_silent : inDirective text = Traced.done .absent ↔ ¬ Directive.HasDirective text.toList := by
  rw [← Directive.literal_none]
  unfold inDirective
  cases Directive.literal? text with
  | none => exact iff_of_true rfl rfl
  | some literal =>
    refine iff_of_false ?_ (by simp)
    intro silent
    simp only at silent
    split at silent
    · cases silent
    · cases silent
    · split at silent <;> cases silent

-- What is broken in a directive is recorded, and what can be read is no null.
theorem directive_null : inDirective text ≠ Traced.done (.declared .null) := by
  intro silent
  unfold inDirective at silent
  cases found : Directive.literal? text with
  | none => rw [found] at silent; cases silent
  | some literal =>
    rw [found] at silent
    simp only at silent
    split at silent
    · rename_i v read
      cases silent
      obtain ⟨chars,isLiteral,rfl⟩ := Option.map_eq_some_iff.mp found
      have opens := Directive.literal_braced isLiteral
      obtain ⟨entries,map⟩ := Json.braced_map (by rw [String.toList_ofList,opens]) read
      cases map
    · cases silent
    · split at silent <;> cases silent

theorem checked_recorded (candidate : Value) : checked candidate ≠ Traced.done none := by
  intro silent
  unfold checked at silent
  split at silent
  · split at silent
    · split at silent <;> cases silent
    · cases silent
  · cases silent

theorem given_checked (given : v ≠ .null) : checkedCandidate (.declared v) = checked v := by
  cases v with
  | null => exact absurd rfl given
  | _ => rfl

theorem candidate_silent {candidate : Candidate} :
    checkedCandidate candidate = Traced.done none ↔ candidate = .absent ∨ candidate = .declared .null := by
  cases candidate with
  | absent => exact iff_of_true rfl (.inl rfl)
  | declared v =>
    by_cases null : v = .null
    · rw [null]
      exact iff_of_true rfl (.inr rfl)
    · rw [given_checked null]
      exact iff_of_false (checked_recorded v) (by simp [null])

theorem null_silent (null : HasNullSchema text) : extract text = Traced.done none :=
  Traced.bind_silent.mpr ⟨_,frontMatter_declared.mpr null,rfl⟩

theorem null_declared (null : HasNullSchema text) : ¬ DeclaresNone text := by
  intro declares
  obtain ⟨front,entries,framed,read,found⟩ := null
  obtain ⟨v,again,absent⟩ := declares.1 front framed
  rw [read] at again
  cases again
  rw [absent entries rfl] at found
  cases found

-- A text comes to nothing in silence if it declares no schema, or a null for one.
theorem extract_silent (text : String) : (extract text).outcome = .ok none ∧ (extract text).records = [] ↔
    DeclaresNone text ∨ HasNullSchema text := by
  have whole : (extract text).outcome = .ok none ∧ (extract text).records = [] ↔ extract text = Traced.done none := by
    cases extract text
    simp [Traced.done]
  rw [whole]
  constructor
  · intro silent
    obtain ⟨candidate,front,silent⟩ := Traced.bind_silent.mp silent
    cases candidate with
    | absent =>
      obtain ⟨candidate,directive,silent⟩ := Traced.bind_silent.mp silent
      rcases candidate_silent.mp silent with rfl | rfl
      · exact .inl ⟨frontMatter_silent.mp front,directive_silent.mp directive⟩
      · exact absurd directive directive_null
    | declared v =>
      rcases candidate_silent.mp silent with absent | null
      · cases absent
      · cases null
        exact .inr (frontMatter_declared.mp front)
  · intro unsaid
    rcases unsaid with ⟨front,directive⟩ | null
    · refine Traced.bind_silent.mpr ⟨_,frontMatter_silent.mpr front,?_⟩
      exact Traced.bind_silent.mpr ⟨_,directive_silent.mpr directive,rfl⟩
    · exact null_silent null

def emptySchemaText : String := "---\nschema:\n---\n"

theorem empty_front : (FrontMatter.split emptySchemaText).1 = some "schema:" := by
  decide +kernel

-- Whether what is read is a mapping with a null for a schema.
def readsNull (read : Except Yaml.Fault Value) : Bool :=
  match read.toOption.bind Value.entries? with
  | some entries => (Entries.field? entries schemaKey).any Value.isNull
  | none => false

theorem null_read {read : Except Yaml.Fault Value} (null : readsNull read = true) :
    ∃ entries, read = .ok (.map entries) ∧ Entries.field? entries schemaKey = some .null := by
  unfold readsNull at null
  cases read with
  | error fault => cases null
  | ok v =>
    cases v with
    | map entries =>
      refine ⟨entries,rfl,?_⟩
      change (Entries.field? entries schemaKey).any Value.isNull = true at null
      cases found : Entries.field? entries schemaKey with
      | none => rw [found] at null; cases null
      | some v => rw [found] at null; cases v <;> first | rfl | cases null
    | _ => cases null

-- The schema of this template is missing, and no one is told.
theorem empty_schema_unsaid : (extract emptySchemaText).outcome = .ok none ∧
    (extract emptySchemaText).records = [] ∧ ¬ DeclaresNone emptySchemaText := by
  obtain ⟨entries,read,found⟩ := @null_read (Yaml.load "schema:") (by decide +kernel)
  have null : HasNullSchema emptySchemaText := ⟨_,entries,empty_front,read,found⟩
  have silent := null_silent null
  exact ⟨congrArg Traced.outcome silent,congrArg Traced.records silent,null_declared null⟩

end Template

end TemplateSchema
