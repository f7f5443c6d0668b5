import Mathlib
import TemplateSchema.Proofs.Template.Extraction
import TemplateSchema.Proofs.Template.Framing
/-!
A schema that stands in a directive as JSON. Whatever text is around it, and however the tag is
spelled, the literal is found up to its own last brace, and extraction gives what it reads as.
-/
set_option autoImplicit false
namespace TemplateSchema

namespace Directive

variable {cs word blanks inner before rest : List Char}

-- A tag as it may be spelled: with dashes or without, and with blanks wherever it takes them.
structure Tag where
  opensDashed : Bool
  beforeSet : List Char
  behindSet : List Char
  behindName : List Char
  behindSign : List Char
  behindLiteral : List Char
  closesDashed : Bool
  blank : ∀ b ∈ beforeSet ++ behindSet ++ behindName ++ behindSign ++ behindLiteral, Text.isBlank b = true
  apart : behindSet ≠ []

def dash (dashed : Bool) : List Char :=
  if dashed then ['-'] else []

namespace Tag

def front (tag : Tag) : List Char :=
  ['\x7b','%'] ++ dash tag.opensDashed ++ tag.beforeSet ++ "set".toList ++ tag.behindSet ++ "schema".toList ++
    tag.behindName ++ ['='] ++ tag.behindSign

def back (tag : Tag) : List Char :=
  tag.behindLiteral ++ dash tag.closesDashed ++ ['%','\x7d']

def around (tag : Tag) (literal : String) : String :=
  String.ofList (tag.front ++ literal.toList ++ tag.back)

end Tag

section Opening

theorem literally_found (word rest : List Char) : literally? word (word ++ rest) = some rest := by
  rw [literally?,if_pos (List.isPrefixOf_iff_prefix.mpr (List.prefix_append word rest)),List.drop_left]

theorem literally_starts (found : literally? word cs = some rest) : word <+: cs := by
  rw [literally?] at found
  split at found
  · exact List.isPrefixOf_iff_prefix.mp ‹_›
  · cases found

theorem skip_solid (blank : ∀ b ∈ blanks, Text.isBlank b = true)
    (solid : ∀ c, cs.head? = some c → Text.isBlank c = false) : skipBlanks (blanks ++ cs) = cs := by
  rw [skipBlanks,List.dropWhile_append_of_pos blank]
  cases cs with
  | nil => rfl
  | cons c cs => rw [List.dropWhile_cons_of_neg (by simp [solid c rfl])]

theorem dash_skipped (dashed : Bool) (blank : ∀ b ∈ blanks, Text.isBlank b = true)
    (solid : ∀ c, cs.head? = some c → Text.isBlank c = false ∧ c ≠ '-') :
    skipBlanks (withoutDash (dash dashed ++ (blanks ++ cs))) = cs := by
  have skipped := skip_solid blank fun c first => (solid c first).1
  cases dashed with
  | true => exact skipped
  | false =>
    have undashed : withoutDash (blanks ++ cs) = blanks ++ cs := by
      unfold withoutDash
      split
      · rename_i rest starts
        cases blanks with
        | nil => exact absurd rfl (solid '-' (by rw [← List.nil_append cs,starts]; rfl)).2
        | cons b blanks =>
          have dashed := blank b List.mem_cons_self
          rw [(List.cons.inj starts).1] at dashed
          cases dashed
      · rfl
    rw [dash,if_neg Bool.false_ne_true,List.nil_append,undashed,skipped]

theorem behind_blanks (some_ : blanks ≠ []) (blank : ∀ b ∈ blanks, Text.isBlank b = true)
    (solid : ∀ c, cs.head? = some c → Text.isBlank c = false) : behindBlank? (blanks ++ cs) = some cs := by
  cases blanks with
  | nil => exact absurd rfl some_
  | cons b blanks =>
    obtain ⟨first,others⟩ := List.forall_mem_cons.mp blank
    rw [List.cons_append,behindBlank?,if_pos first,skip_solid others solid]

theorem solid_first {c : Char} (starts : word.head? = some c) (solid : Text.isBlank c = false) (rest : List Char) :
    ∀ d, (word ++ rest).head? = some d → Text.isBlank d = false := by
  intro d first
  rw [List.head?_append,starts] at first
  cases first
  exact solid

theorem tag_opened (tag : Tag) (rest : List Char) : opened? (tag.front ++ '\x7b' :: rest) = some rest := by
  have blank := tag.blank
  simp only [List.mem_append,or_imp,forall_and] at blank
  obtain ⟨⟨⟨⟨before_,set_⟩,name_⟩,sign_⟩,_⟩ := blank
  have whole : tag.front ++ '\x7b' :: rest = ['\x7b','%'] ++ (dash tag.opensDashed ++ (tag.beforeSet ++
      ("set".toList ++ (tag.behindSet ++ ("schema".toList ++ (tag.behindName ++ (['='] ++
        (tag.behindSign ++ (['\x7b'] ++ rest))))))))) := by
    simp [Tag.front]
  have set (rest : List Char) : ∀ c, ("set".toList ++ rest).head? = some c → Text.isBlank c = false ∧ c ≠ '-' := by
    intro c first
    cases first
    decide
  rw [whole,opened?]
  simp only [Option.bind_eq_bind]
  rw [literally_found,Option.bind_some,dash_skipped _ before_ (set _),literally_found,
    Option.bind_some,behind_blanks tag.apart set_ (solid_first rfl (by decide) _),Option.bind_some,literally_found,
    Option.bind_some,skip_solid name_ (solid_first rfl (by decide) _),literally_found,Option.bind_some,
    skip_solid sign_ (solid_first rfl (by decide) _),literally_found]

end Opening

section Closing

-- A word that runs into a mark ends there, unless the mark is in it before its end.
theorem prefix_upto {mark last : Char} (absent : mark ∉ word) (starts : word ++ [last] <+: before ++ mark :: rest) :
    word ++ [last] <+: before ++ [mark] := by
  have marked : before ++ [mark] <+: before ++ mark :: rest := (List.prefix_append_right_inj before).mpr ⟨rest,rfl⟩
  rcases List.prefix_or_prefix_of_prefix starts marked with within | beyond
  · exact within
  · rcases List.prefix_concat_iff.mp beyond with same | inside
    · rw [same]
    · exact absurd (inside.subset (List.mem_append_right _ List.mem_cons_self)) absent

theorem back_ends (tag : Tag) (rest : List Char) : endsTag (tag.back ++ rest) = true := by
  have blank : ∀ b ∈ tag.behindLiteral, Text.isBlank b = true := by
    intro b member
    exact tag.blank b (List.mem_append_right _ member)
  have whole : tag.back ++ rest = tag.behindLiteral ++ (dash tag.closesDashed ++ (['%','\x7d'] ++ rest)) := by
    simp [Tag.back]
  have solid : ∀ c, (dash tag.closesDashed ++ (['%','\x7d'] ++ rest)).head? = some c → Text.isBlank c = false := by
    intro c first
    cases dashed : tag.closesDashed <;> rw [dashed] at first <;> cases first <;> decide
  rw [whole,endsTag,skip_solid blank solid]
  cases tag.closesDashed <;> rfl

-- What stands in front of a tag's end is blanks and a dash, and so no brace.
theorem ends_tag (ends : endsTag cs = true) : ∃ gap, '\x7d' ∉ gap ∧ gap ++ ['%','\x7d'] <+: cs := by
  have unbraced : '\x7d' ∉ cs.takeWhile Text.isBlank := by
    intro member
    cases List.mem_takeWhile_imp member
  have parts := @List.takeWhile_append_dropWhile _ Text.isBlank cs
  have starts := List.isPrefixOf_iff_prefix.mp ends
  rw [skipBlanks] at starts
  unfold withoutDash at starts
  split at starts
  · rename_i rest dashed
    obtain ⟨after,rfl⟩ := starts
    refine ⟨cs.takeWhile Text.isBlank ++ ['-'],?_,after,?_⟩
    · intro member
      rcases List.mem_append.mp member with member | member
      · exact unbraced member
      · cases List.mem_singleton.mp member
    · rw [List.append_assoc,List.append_assoc]
      exact (congrArg (cs.takeWhile Text.isBlank ++ ·) dashed.symm).trans parts
  · obtain ⟨after,ended⟩ := starts
    refine ⟨cs.takeWhile Text.isBlank,unbraced,after,?_⟩
    rw [List.append_assoc,ended,parts]

-- A brace in the literal ends it only where the tag's end follows, and that is not in the literal.
theorem literal_closed (whole : ¬ ['%','\x7d'] <:+: inner ++ ['\x7d']) (ends : endsTag rest = true) :
    closed? (inner ++ '\x7d' :: rest) = some (inner ++ ['\x7d']) := by
  induction inner with
  | nil => rw [List.nil_append,closed?,if_pos ⟨rfl,ends⟩,List.nil_append]
  | cons c inner ih =>
    have open_ : ¬ (c = '\x7d' ∧ endsTag (inner ++ '\x7d' :: rest) = true) := by
      intro closes
      obtain ⟨gap,unbraced,starts⟩ := ends_tag closes.2
      have absent : '\x7d' ∉ gap ++ ['%'] := by
        intro member
        rcases List.mem_append.mp member with member | member
        · exact unbraced member
        · cases List.mem_singleton.mp member
      rw [List.append_cons] at starts
      have within := (prefix_upto absent starts).isInfix
      rw [List.append_assoc] at within
      exact whole (((List.suffix_append gap _).isInfix.trans within).trans (List.suffix_cons c _).isInfix)
    rw [List.cons_append,closed?,if_neg open_,ih fun inside => whole (inside.trans (List.suffix_cons c _).isInfix)]
    rfl

end Closing

section Finding

theorem opened_starts (opened : opened? cs = some rest) : ['\x7b','%'] <+: cs := by
  obtain ⟨behind,starts,_⟩ := Option.bind_eq_some_iff.mp opened
  exact literally_starts starts

theorem literal_found (clear : ¬ ['\x7b','%'] <:+: before) (starts : cs.head? = some '\x7b') :
    literalChars? (before ++ cs) = literalChars? cs := by
  induction before with
  | nil => rfl
  | cons c before ih =>
    have unopened : opened? (c :: (before ++ cs)) = none := by
      refine Option.eq_none_iff_forall_not_mem.mpr ?_
      intro inner opened
      obtain ⟨first,second⟩ := List.cons_prefix_cons.mp (opened_starts opened)
      cases before with
      | nil =>
        obtain ⟨tail,rfl⟩ := second
        cases starts
      | cons d before =>
        obtain ⟨second,_⟩ := List.cons_prefix_cons.mp second
        rw [← first,← second] at clear
        exact clear (List.prefix_append ['\x7b','%'] before).isInfix
    rw [List.cons_append,literalChars?,unopened]
    exact ih fun inside => clear (inside.trans (List.suffix_cons c _).isInfix)

theorem literal_opened (opened : opened? cs = some inner) :
    literalChars? cs = (closed? inner).map ('\x7b' :: ·) := by
  cases cs with
  | nil => cases opened
  | cons c cs => rw [literalChars?,opened]

-- The literal ends with its own last brace, whatever braces stand in it and behind the tag.
theorem literal_around (tag : Tag) {literal : String} (clear : ¬ ['\x7b','%'] <:+: before)
    (opens : literal.toList.head? = some '\x7b') (closes : literal.toList.getLast? = some '\x7d')
    (whole : ¬ ['%','\x7d'] <:+: literal.toList) (rest : List Char) :
    literalChars? (before ++ ((tag.around literal).toList ++ rest)) = some literal.toList := by
  obtain ⟨opened,ended⟩ := List.getLast?_eq_some_iff.mp closes
  obtain ⟨inner,spelled⟩ : ∃ inner, literal.toList = '\x7b' :: (inner ++ ['\x7d']) := by
    cases opened with
    | nil => rw [ended] at opens; cases opens
    | cons c inner =>
      rw [ended] at opens
      cases opens
      exact ⟨inner,ended⟩
  have tagged : (tag.around literal).toList ++ rest =
      tag.front ++ '\x7b' :: (inner ++ '\x7d' :: (tag.back ++ rest)) := by
    simp [Tag.around,spelled]
  rw [spelled] at whole
  have closed := literal_closed (fun inside => whole (inside.trans (List.suffix_cons _ _).isInfix)) (back_ends tag rest)
  rw [tagged,literal_found clear rfl,literal_opened (tag_opened tag _),closed,spelled]
  rfl

theorem bare_front (bare : ¬ ['-','-','-'] <+: before) (rest : List Char) :
    ¬ ['-','-','-'] <+: before ++ '\x7b' :: rest := by
  intro starts
  have absent : '\x7b' ∉ ['-','-'] := by decide
  rcases List.prefix_concat_iff.mp (prefix_upto absent starts) with same | inside
  · cases (List.append_inj' (show ['-','-'] ++ ['-'] = before ++ ['\x7b'] from same) rfl).2
  · exact bare inside

end Finding

end Directive

namespace Template

variable {before after literal : String} {v : Value}

theorem schema_checked (schema : IsSchema v) : checked v = Traced.done (some v) := by
  obtain ⟨entries,fields,rfl,declared,mappings⟩ := schema
  have none_ : firstUndeclared? fields = none := by
    refine List.find?_eq_none.mpr ?_
    intro entry member
    obtain ⟨declared,mapping⟩ := mappings entry member
    rw [mapping]
    exact Bool.false_ne_true
  unfold checked
  simp only [declared,none_]
  rfl

-- The first tag wins. What stands behind it is not looked at, and nothing in front of it is a tag.
theorem declared_extracted (tag : Directive.Tag) (clear : ¬ ['\x7b','%'] <:+: before.toList)
    (bare : ¬ ['-','-','-'] <+: before.toList) (opens : literal.toList.head? = some '\x7b')
    (closes : literal.toList.getLast? = some '\x7d') (whole : ¬ ['%','\x7d'] <:+: literal.toList)
    (read : Json.read literal = .ok v) (schema : IsSchema v) :
    extract (before ++ tag.around literal ++ after) = Traced.done (some v) := by
  obtain ⟨behind,starts⟩ : ∃ behind, (tag.around literal).toList ++ after.toList = '\x7b' :: behind := by
    simp [Directive.Tag.around,Directive.Tag.front]
  -- Neither the text in front of the tag nor its border with the tag is a line of dashes.
  have unframed : (FrontMatter.split (before ++ tag.around literal ++ after)).1 = none := by
    have dashes := FrontMatter.afterDashes_bare (Directive.bare_front bare behind)
    rw [← starts] at dashes
    simp [FrontMatter.split,FrontMatter.splitChars,FrontMatter.opened?,dashes]
  have found : Directive.literal? (before ++ tag.around literal ++ after) = some literal := by
    rw [Directive.literal?,String.toList_append,String.toList_append,List.append_assoc,
      Directive.literal_around tag clear opens closes whole after.toList,Option.map_some,String.ofList_toList]
  have declared : inDirective (before ++ tag.around literal ++ after) = Traced.done (.declared v) := by
    unfold inDirective
    rw [found]
    simp only [read]
    rfl
  have none_ : inFrontMatter (before ++ tag.around literal ++ after) = Traced.done .absent := by
    unfold inFrontMatter
    rw [unframed]
    rfl
  have candidate : checkedCandidate (.declared v) = Traced.done (some v) := by
    rw [← schema_checked schema]
    obtain ⟨entries,fields,rfl,_⟩ := schema
    rfl
  rw [extract,none_,Traced.done_bind]
  simp only
  rw [declared,Traced.done_bind,candidate]

section Letters

-- Braces stand in front of the tag, within the literal and its strings, and in a second tag.
def letterTag : Directive.Tag where
  opensDashed := true
  beforeSet := ['\n']
  behindSet := [' ','\t']
  behindName := []
  behindSign := ['\n',' ']
  behindLiteral := ['\r','\n']
  closesDashed := true
  blank := by simp [Text.isBlank,Text.isSpace]
  apart := by decide

def letterLiteral : String :=
  "\x7b\n \"fields\": \x7b\"to\": \x7b\"type\": \"text\", \"default\": \"\x7dx\x7b% -\"\x7d\x7d\x7d"

def letterFields : Entries :=
  [(.text "to",.map [(.text "type",.text "text"),(.text "default",.text "\x7dx\x7b% -")])]

def letterSchema : Value :=
  .map [(.text "fields",.map letterFields)]

theorem letter_read : Json.read letterLiteral = .ok letterSchema := by
  cbv

theorem letter_isSchema : IsSchema letterSchema := by
  refine ⟨_,letterFields,rfl,by cbv,?_⟩
  intro entry member
  cases List.mem_singleton.mp member
  exact ⟨_,rfl⟩

theorem letter_extracted : extract ("--\x7bDear \x7bname\x7d, \x7b" ++ letterTag.around letterLiteral ++
    " \x7d%\x7d\x7b% set schema = \x7b\x7d %\x7d") = Traced.done (some letterSchema) :=
  declared_extracted letterTag (by decide) (by decide) rfl rfl (by decide) letter_read letter_isSchema

end Letters

end Template

end TemplateSchema
