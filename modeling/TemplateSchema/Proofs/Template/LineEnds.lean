import TemplateSchema.Proofs.Json.LineEnds
import TemplateSchema.Proofs.Template.Extraction
import TemplateSchema.Proofs.Template.Framing
/-!
Templates with either line end. A template without carriage returns gets one in front of every line
feed: front matter and directive are found at the same places, the directive reads the same as JSON,
and so the template declares the same schema if its front matter reads the same as YAML.
-/
set_option autoImplicit false
namespace TemplateSchema

open Text (paired pairedText paired_other paired_append paired_starts paired_dropWhile feed_induction)

variable {cs rest front body : List Char}

namespace FrontMatter

theorem afterDashes_paired (cs : List Char) : afterDashes? (paired cs) = (afterDashes? cs).map paired := by
  by_cases dashed : ['-','-','-'] <+: cs
  · obtain ⟨rest,rfl⟩ := dashed
    rw [paired_append]
    exact congrArg some (paired_dropWhile rfl rest)
  · have bare := (paired_starts (by decide)).not.mpr dashed
    rw [afterDashes_bare dashed,afterDashes_bare bare]
    rfl

theorem afterDashes_suffix (found : afterDashes? cs = some rest) : rest <:+ cs := by
  obtain ⟨rule,_,rfl,_⟩ := afterDashes_exact.mp found
  exact List.suffix_append rule rest

-- A carriage return of the text itself would be in front of the one that is added.
theorem afterLineEnd_paired (unreturned : '\r' ∉ cs) : afterLineEnd? (paired cs) = (afterLineEnd? cs).map paired := by
  cases cs using feed_induction with
  | nil => rfl
  | feed rest => rfl
  | other c rest solid =>
    have none_ (tail : List Char) : afterLineEnd? (c :: tail) = none := by
      rw [Option.eq_none_iff_forall_ne_some]
      intro behind ended
      rcases afterLineEnd_exact.mp ended with same | same
      · exact solid (List.cons.inj same).1
      · exact unreturned (by rw [(List.cons.inj same).1]; exact List.mem_cons_self)
    rw [paired_other solid,none_,none_]
    rfl

theorem opened_paired (unreturned : '\r' ∉ cs) : opened? (paired cs) = (opened? cs).map paired := by
  unfold opened?
  rw [afterDashes_paired]
  cases dashes : afterDashes? cs with
  | none => rfl
  | some rest => exact afterLineEnd_paired fun member => unreturned ((afterDashes_suffix dashes).subset member)

theorem closed_paired (unreturned : '\r' ∉ cs) : closed? (paired cs) = (closed? cs).map paired := by
  unfold closed?
  rw [afterDashes_paired]
  cases dashes : afterDashes? cs with
  | none => rfl
  | some rest =>
    have ended := afterLineEnd_paired fun member => unreturned ((afterDashes_suffix dashes).subset member)
    cases rest using feed_induction with
    | nil => rfl
    | feed rest => rfl
    | other c rest solid =>
      rw [paired_other solid] at ended
      rw [Option.map_some,paired_other solid]
      exact ended

theorem until_unclosed {start : Bool} {c : Char} (unclosed : closed? (c :: rest) = none) :
    untilClosed start (c :: rest) = (untilClosed (c == '\n') rest).map fun found => (c :: found.1,found.2) := by
  rw [untilClosed,unclosed]
  cases start <;> rfl

theorem until_paired {start : Bool} (unreturned : '\r' ∉ cs) :
    untilClosed start (paired cs) = (untilClosed start cs).map fun found => (paired found.1,paired found.2) := by
  induction cs using feed_induction generalizing start with
  | nil => rfl
  | feed rest ih =>
    rw [List.mem_cons,not_or] at unreturned
    rw [Text.paired_feed,until_unclosed rfl,until_unclosed rfl,until_unclosed rfl,beq_self_eq_true,ih unreturned.2,
      Option.map_map,Option.map_map,Option.map_map]
    rfl
  | other c rest solid ih =>
    have closes := closed_paired unreturned
    rw [List.mem_cons,not_or] at unreturned
    rw [paired_other solid] at closes ⊢
    have inside : (c == '\n') = false := by simpa using solid
    have later : ((untilClosed false (paired rest)).map fun found => (c :: found.1,found.2)) =
        ((untilClosed false rest).map fun found => (c :: found.1,found.2)).map fun found =>
          (paired found.1,paired found.2) := by
      rw [ih unreturned.2,Option.map_map,Option.map_map]
      refine Option.map_congr ?_
      intro found _
      exact congrArg (·,paired found.2) (paired_other solid found.1).symm
    rw [untilClosed,untilClosed,closes,inside]
    cases start with
    | false => exact later
    | true =>
      cases closed? (c :: rest) with
      | none => exact later
      | some body => rfl

theorem until_front {start : Bool} (found : untilClosed start cs = some (front,body)) : front <+: cs := by
  induction cs generalizing start front with
  | nil => cases found
  | cons c rest ih =>
    rw [untilClosed] at found
    split at found
    · cases found
      exact List.nil_prefix
    · obtain ⟨⟨more,_⟩,later,same⟩ := Option.map_eq_some_iff.mp found
      cases same
      exact List.cons_prefix_cons.mpr ⟨rfl,ih later⟩

theorem trim_solid {c : Char} (solid : c ≠ '\n') (before : List Char) :
    withoutFinalBreak (before ++ [c]) = before ++ [c] := by
  simp [withoutFinalBreak,solid]

theorem trim_both (before : List Char) : withoutFinalBreak (before ++ ['\r','\n']) = before := by
  simp [withoutFinalBreak]

theorem trim_paired (unreturned : '\r' ∉ cs) : withoutFinalBreak (paired cs) = paired (withoutFinalBreak cs) := by
  cases cs using List.reverseRecOn with
  | nil => rfl
  | append_singleton before c =>
    by_cases feed : c = '\n'
    · have single : before.getLast? ≠ some '\r' := by
        intro last
        exact unreturned (List.mem_append_left _ (List.mem_of_getLast? last))
      rw [feed,trim_feed single,paired_append]
      exact trim_both (paired before)
    · rw [trim_solid feed,paired_append,paired_other feed]
      exact trim_solid feed (paired before)

theorem splitChars_paired (unreturned : '\r' ∉ cs) :
    splitChars (paired cs) = (splitChars cs).map fun parts => (paired parts.1,paired parts.2) := by
  unfold splitChars
  rw [opened_paired unreturned]
  cases opened : opened? cs with
  | none => rfl
  | some inner =>
    obtain ⟨line,_,rfl⟩ := opened_exact.mp opened
    have within : '\r' ∉ inner := fun member => unreturned (List.mem_append_right line member)
    simp only [Option.map_some,Option.bind_eq_bind,Option.bind_some]
    rw [until_paired within]
    cases until_ : untilClosed true inner with
    | none => rfl
    | some parts =>
      have front : '\r' ∉ parts.1 := fun member => within ((until_front until_).subset member)
      exact congrArg (fun front => some (front,paired parts.2)) (trim_paired front)

theorem split_paired {text : String} (unreturned : '\r' ∉ text.toList) :
    split (pairedText text) = ((split text).1.map pairedText,pairedText (split text).2) := by
  rw [split,split,Text.pairedText_toList,splitChars_paired unreturned]
  cases splitChars text.toList with
  | none => rfl
  | some parts => simp [pairedText]

end FrontMatter

namespace Directive

variable {word : List Char}

theorem literally_paired (unbroken : Text.Unbroken word) (cs : List Char) :
    literally? word (paired cs) = (literally? word cs).map paired := by
  rw [literally?,literally?]
  by_cases starts : word <+: cs
  · rw [if_pos (List.isPrefixOf_iff_prefix.mpr starts),
      if_pos (List.isPrefixOf_iff_prefix.mpr ((paired_starts unbroken).mpr starts)),
      Text.paired_drop unbroken starts]
    rfl
  · rw [if_neg (List.isPrefixOf_iff_prefix.not.mpr starts),
      if_neg (List.isPrefixOf_iff_prefix.not.mpr ((paired_starts unbroken).not.mpr starts))]
    rfl

theorem withoutDash_other {c : Char} (other : c ≠ '-') (rest : List Char) : withoutDash (c :: rest) = c :: rest := by
  unfold withoutDash
  split
  · rename_i dashed
    exact absurd (List.cons.inj dashed).1 other
  · rfl

theorem withoutDash_paired (cs : List Char) : withoutDash (paired cs) = paired (withoutDash cs) := by
  cases cs using feed_induction with
  | nil => rfl
  | feed rest => rfl
  | other c rest solid =>
    by_cases dashed : c = '-'
    · rw [dashed]
      rfl
    · rw [withoutDash_other dashed,paired_other solid,withoutDash_other dashed]

theorem skipBlanks_paired (cs : List Char) : skipBlanks (paired cs) = paired (skipBlanks cs) :=
  paired_dropWhile rfl cs

theorem behindBlank_paired (cs : List Char) : behindBlank? (paired cs) = (behindBlank? cs).map paired := by
  cases cs using feed_induction with
  | nil => rfl
  | feed rest => exact congrArg some (skipBlanks_paired rest)
  | other c rest solid =>
    rw [paired_other solid,behindBlank?,behindBlank?]
    split
    · exact congrArg some (skipBlanks_paired rest)
    · rfl

theorem bind_paired {x : Option (List Char)} {next : List Char → Option (List Char)}
    (commutes : ∀ cs, next (paired cs) = (next cs).map paired) : (x.map paired).bind next = (x.bind next).map paired := by
  cases x with
  | none => rfl
  | some cs => exact commutes cs

theorem opened_paired (cs : List Char) : opened? (paired cs) = (opened? cs).map paired := by
  unfold opened?
  simp only [Option.bind_eq_bind]
  rw [literally_paired (by decide)]
  refine bind_paired fun rest => ?_
  rw [withoutDash_paired,skipBlanks_paired,literally_paired (by decide)]
  refine bind_paired fun rest => ?_
  rw [behindBlank_paired]
  refine bind_paired fun rest => ?_
  rw [literally_paired (by decide)]
  refine bind_paired fun rest => ?_
  rw [skipBlanks_paired,literally_paired (by decide)]
  refine bind_paired fun rest => ?_
  rw [skipBlanks_paired,literally_paired (by decide)]

theorem endsTag_paired (cs : List Char) : endsTag (paired cs) = endsTag cs := by
  rw [endsTag,skipBlanks_paired,withoutDash_paired,Bool.eq_iff_iff,List.isPrefixOf_iff_prefix,
    paired_starts (by decide),← List.isPrefixOf_iff_prefix]
  rfl

theorem closed_paired (cs : List Char) : closed? (paired cs) = (closed? cs).map paired := by
  induction cs using feed_induction with
  | nil => rfl
  | feed rest ih =>
    rw [Text.paired_feed,closed?,closed?,closed?,ih]
    simp only [Char.reduceEq,false_and,if_false,Option.map_map]
    rfl
  | other c rest solid ih =>
    rw [paired_other solid,closed?,closed?,endsTag_paired,ih]
    split
    · rw [Option.map_some,paired_other solid]
      rfl
    · rw [Option.map_map,Option.map_map]
      refine Option.map_congr ?_
      intro inner _
      exact (paired_other solid inner).symm

theorem literal_paired (cs : List Char) : literalChars? (paired cs) = (literalChars? cs).map paired := by
  induction cs using feed_induction with
  | nil => rfl
  | feed rest ih => exact ih
  | other c rest solid ih =>
    have opens := opened_paired (c :: rest)
    rw [paired_other solid] at opens ⊢
    rw [literalChars?,literalChars?,opens]
    cases opened? (c :: rest) with
    | none => exact ih
    | some inner =>
      simp only [Option.map_some]
      rw [closed_paired,Option.map_map,Option.map_map]
      rfl

theorem found_paired (text : String) : literal? (pairedText text) = (literal? text).map pairedText := by
  rw [literal?,literal?,Text.pairedText_toList,literal_paired,Option.map_map,Option.map_map]
  refine Option.map_congr ?_
  intro literal _
  simp [pairedText]

end Directive

namespace Yaml

-- A scalar that its tag has no value for is another failure than a text that is no YAML: extraction
-- passes over front matter that is no YAML, but not over such a scalar.
def Fault.isScalar : Fault → Bool
  | .flaw _ (.scalar _) => true
  | _ => false

-- Two texts have the same value, or both have none and fail in the same way.
inductive Agree : Except Fault Value → Except Fault Value → Prop where
  | value (v : Value) : Agree (.ok v) (.ok v)
  | refused {f g : Fault} (alike : f.isScalar = g.isScalar) : Agree (.error f) (.error g)

end Yaml

namespace Template

variable {text : String}

-- The front matter of a text, if there is any, reads the same with either line end.
def FrontAgrees (text : String) : Prop :=
  ∀ front, (FrontMatter.split text).1 = some front → Yaml.Agree (Yaml.load front) (Yaml.load (pairedText front))

theorem frontMatter_paired (unreturned : '\r' ∉ text.toList) (agrees : FrontAgrees text) {candidate : Candidate}
    (found : (inFrontMatter text).outcome = .ok candidate) :
    (inFrontMatter (pairedText text)).outcome = .ok candidate := by
  have split := congrArg Prod.fst (FrontMatter.split_paired unreturned)
  unfold inFrontMatter at found ⊢
  simp only at split
  rw [split]
  cases framed : (FrontMatter.split text).1 with
  | none =>
    rw [framed] at found
    exact found
  | some front =>
    have agree := agrees front framed
    rw [framed] at found
    simp only [Option.map_some] at found ⊢
    generalize Yaml.load front = x at agree found
    generalize Yaml.load (pairedText front) = y at agree ⊢
    cases agree with
    | value v => exact found
    | @refused f g alike =>
      have quiet : candidate = .absent ∧ g.isScalar = false := by
        rcases f with ⟨code,position⟩ | ⟨cs,⟨level,report⟩ | fault⟩
        · cases found
          exact ⟨rfl,alike.symm⟩
        · cases found
          exact ⟨rfl,alike.symm⟩
        · cases found
      obtain ⟨rfl,plain⟩ := quiet
      rcases g with ⟨code,position⟩ | ⟨cs,⟨level,report⟩ | fault⟩
      · rfl
      · rfl
      · cases plain

theorem directive_paired {candidate : Candidate} (found : (inDirective text).outcome = .ok candidate) :
    (inDirective (pairedText text)).outcome = .ok candidate := by
  unfold inDirective at found ⊢
  rw [Directive.found_paired]
  cases directive : Directive.literal? text with
  | none =>
    rw [directive] at found
    exact found
  | some literal =>
    have agree := Json.read_paired literal
    rw [directive] at found
    simp only [Option.map_some] at found ⊢
    generalize Json.read literal = x at agree found
    generalize Json.read (pairedText literal) = y at agree ⊢
    cases agree with
    | value v => exact found
    | malformed reason reason' position position' line line' column column' =>
      -- Which builder calls are found shows in the records only.
      have null : candidate = .declared .null := by
        simp only at found
        split at found <;> cases found <;> rfl
      rw [null]
      simp only
      split <;> rfl
    | digits count => exact found

-- Carriage returns go wherever the line feeds are, in both parts of the template, and the schema
-- stays the same.
theorem extract_paired (unreturned : '\r' ∉ text.toList) :
    FrontMatter.split (pairedText text) =
        ((FrontMatter.split text).1.map pairedText,pairedText (FrontMatter.split text).2) ∧
      (FrontAgrees text → ∀ found, (extract text).outcome = .ok found →
        (extract (pairedText text)).outcome = .ok found) := by
  refine ⟨FrontMatter.split_paired unreturned,?_⟩
  intro agrees found extracted
  obtain ⟨candidate,front,extracted⟩ := Traced.bind_outcome.mp extracted
  refine Traced.bind_outcome.mpr ⟨candidate,frontMatter_paired unreturned agrees front,?_⟩
  cases candidate with
  | declared v => exact extracted
  | absent =>
    obtain ⟨candidate,directive,extracted⟩ := Traced.bind_outcome.mp extracted
    exact Traced.bind_outcome.mpr ⟨candidate,directive_paired directive,extracted⟩

section Memos

-- The rows of a mapping that holds nothing but texts.
def textRows? : Entries → Option (List (String × String))
  | [] => some []
  | (.text (.whole key),.text (.whole s)) :: rest => (textRows? rest).map ((key,s) :: ·)
  | _ => none

def readRows? : Except Yaml.Fault Value → Option (List (String × String))
  | .ok (.map entries) => textRows? entries
  | _ => none

theorem rows_entries {entries : Entries} {rows : List (String × String)} (found : textRows? entries = some rows) :
    entries = rows.map fun row => (.text row.1,.text row.2) := by
  fun_induction textRows? entries generalizing rows with
  | case1 => cases found; rfl
  | case2 key s rest ih =>
    obtain ⟨others,later,rfl⟩ := Option.map_eq_some_iff.mp found
    rw [ih later]
    rfl
  | case3 => cases found

theorem rows_read {read : Except Yaml.Fault Value} {rows : List (String × String)} (found : readRows? read = some rows) :
    read = .ok (.map (rows.map fun row => (.text row.1,.text row.2))) := by
  unfold readRows? at found
  split at found
  · rw [rows_entries found]
  · cases found

def memoText : String :=
  "---\ntitle: a\nby: b\n---\nDear \x7bby\x7d,\n\x7b%- set schema = \x7b\"fields\":\n\x7b\x7d\n\x7d %\x7d\n"

def memoFront : String := "title: a\nby: b"

def memoRows : List (String × String) := [("title","a"),("by","b")]

def memoSchema : Value :=
  .map [(.text "fields",.map [])]

theorem memo_front : (FrontMatter.split memoText).1 = some memoFront := by
  cbv

theorem memo_read : readRows? (Yaml.load memoFront) = some memoRows := by
  decide +kernel

theorem memo_reread : readRows? (Yaml.load (pairedText memoFront)) = some memoRows := by
  decide +kernel

theorem memo_literal : Directive.literal? memoText = some "\x7b\"fields\":\n\x7b\x7d\n\x7d" := by
  cbv

theorem memo_json : Json.read "\x7b\"fields\":\n\x7b\x7d\n\x7d" = .ok memoSchema := by
  cbv

theorem memo_agrees : FrontAgrees memoText := by
  intro front framed
  rw [memo_front] at framed
  cases framed
  rw [rows_read memo_read,rows_read memo_reread]
  exact .value _

theorem memo_silent : (inFrontMatter memoText).outcome = .ok .absent := by
  refine frontMatter_absent.mpr ?_
  intro front framed
  rw [memo_front] at framed
  cases framed
  rw [rows_read memo_read]
  cbv

theorem memo_declared : (inDirective memoText).outcome = .ok (.declared memoSchema) := by
  unfold inDirective
  simp only [memo_literal,memo_json]
  rfl

theorem memo_extracted : (extract memoText).outcome = .ok (some memoSchema) := by
  refine Traced.bind_outcome.mpr ⟨.absent,memo_silent,Traced.bind_outcome.mpr ⟨_,memo_declared,?_⟩⟩
  cbv

theorem memo_paired :
    FrontMatter.split (pairedText memoText) =
        ((FrontMatter.split memoText).1.map pairedText,pairedText (FrontMatter.split memoText).2) ∧
      (extract (pairedText memoText)).outcome = .ok (some memoSchema) := by
  obtain ⟨split,extracted⟩ := @extract_paired memoText (by decide)
  exact ⟨split,extracted memo_agrees _ memo_extracted⟩

end Memos

end Template

end TemplateSchema
