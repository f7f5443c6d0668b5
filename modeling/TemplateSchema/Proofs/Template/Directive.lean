import Mathlib
import TemplateSchema.Proofs.Chain.Declarations
import TemplateSchema.Template.Directive
/-!
The chains of a directive on their own. The text that is kept of a chain is cut out of the directive
by the places of its first and last token, so reading it again gives the declaration that was read in
the directive.
-/
set_option autoImplicit false
namespace TemplateSchema.Directive

open Chain (Member Scans Spans declarationOf membersOf)

def slice (source : List Char) (m : Member) : List Char :=
  (source.drop m.start).take (m.stop - m.start)

-- An entry keeps the name of a member, with the text that it is or that it was read from.
def KeptFrom (source : List Char) (m : Member) (entry : Value × Value) : Prop :=
  ∃ s, entry = (.text m.name,.text s) ∧
    (m.value = .text s ∨ ((∃ d, m.value = .chain d) ∧ s = String.ofList (slice source m)))

theorem chainsOf_kept {source : List Char} {members : List Member} {entries : Entries}
    (read : (chainsOf source members).outcome = .ok (some entries)) :
    List.Forall₂ (KeptFrom source) members entries := by
  induction members generalizing entries with
  | nil => cases read; exact .nil
  | cons m rest ih =>
    have later {s : Text} (kept : KeptFrom source m (.text m.name,.text s))
        (read : (do
          let others ← chainsOf source rest
          pure (others.map ((Value.text m.name,Value.text s) :: ·)) : Traced (Option Entries)).outcome =
            .ok (some entries)) : List.Forall₂ (KeptFrom source) (m :: rest) entries := by
      obtain ⟨others,inner,same⟩ := Traced.bind_outcome.mp read
      obtain ⟨es,rfl,rfl⟩ := Option.map_eq_some_iff.mp (Except.ok.inj same)
      exact .cons kept (ih inner)
    rw [chainsOf.eq_def] at read
    cases v : m.value with
    | chain d => simp only [v] at read; exact later ⟨_,rfl,.inr ⟨⟨d,v⟩,rfl⟩⟩ read
    | text s => simp only [v] at read; exact later ⟨s,rfl,.inl v⟩ read
    | _ =>
      simp only [v] at read
      obtain ⟨_,_,none_⟩ := Traced.bind_outcome.mp read
      cases none_

theorem lastOfEach_subset (members : List Member) : lastOfEach members ⊆ members := by
  suffices general : ∀ (rest seen : List Member), seen ⊆ members → rest ⊆ members →
      rest.foldl (fun seen m => if seen.any (·.name == m.name) then seen.map fun s => if s.name == m.name then m else s
        else seen ++ [m]) seen ⊆ members from general members [] (List.nil_subset _) (List.Subset.refl _)
  intro rest
  induction rest with
  | nil => intro seen known _; exact known
  | cons m rest ih =>
    intro seen known inside
    have isMember := inside List.mem_cons_self
    refine ih _ ?_ (List.subset_of_cons_subset inside)
    simp only
    split
    · intro s member
      obtain ⟨old,isOld,rfl⟩ := List.mem_map.mp member
      split
      · exact isMember
      · exact known isOld
    · intro s member
      rcases List.mem_append.mp member with old | new
      · exact known old
      · rw [List.mem_singleton.mp new]
        exact isMember

-- Members are read from the tokens of an object, each of them from the tokens of its value.
theorem membersOf_object {source : List Char} {members : List Member}
    (read : (membersOf source).outcome = .ok members) :
    ∃ ts, ∃ pairs : Chain.Pairs, Chain.tokens source = .ok ts ∧
      ts.map Chain.Token.lexeme = Chain.mark '\x7b' :: (pairs.lexemes ++ [Chain.mark '\x7d']) ∧
      ∀ m ∈ members, Spans ts m := by
  obtain ⟨ts,tokens_,read⟩ := Traced.bind_outcome.mp read
  rw [Chain.readTokens_exact] at tokens_
  have formed := (Chain.tokensFrom_exact.mp tokens_).formed
  obtain ⟨inner,opening,read⟩ := Traced.bind_outcome.mp read
  have opened := (@Chain.expect_meets ts ts _ rfl formed).1 inner opening
  obtain ⟨⟨found,rest⟩,members_,read⟩ := Traced.bind_outcome.mp read
  obtain ⟨pairs,reads,_,spans⟩ := (Chain.members_meets formed inner.val opened.subset).1 _ members_
  obtain ⟨_,ended,same⟩ := Traced.bind_outcome.mp read
  cases same
  have nothing := (Chain.expectEnd_meets (fun _ => trivial) : (Chain.expectEnd rest.val).Meets _ fun _ => True).1 _ ended
  rw [nothing] at reads
  obtain ⟨used,whole,lexemes⟩ := opened.trans reads
  rw [List.append_nil] at whole
  exact ⟨ts,pairs,tokens_,by rw [whole,lexemes]; rfl,fun m member => (spans m member).behind opened⟩

theorem membersOf_spans {source : List Char} {members : List Member}
    (read : (membersOf source).outcome = .ok members) :
    ∃ ts, Chain.tokens source = .ok ts ∧ ∀ m ∈ members, Spans ts m := by
  obtain ⟨ts,_,tokens_,_,spans⟩ := membersOf_object read
  exact ⟨ts,tokens_,spans⟩

-- The text between the first and the last token of a chain is that chain.
theorem slice_declared {source : List Char} {ts : List Chain.Token} {m : Member} {d : Entries}
    (read : Chain.tokens source = .ok ts) (spans : Spans ts m) (isChain : m.value = .chain d) :
    (declarationOf (String.ofList (slice source m))).outcome = .ok d := by
  obtain ⟨before,used,after,term,rfl,lexemes,meant,starts,stops⟩ := spans
  rw [isChain] at meant
  obtain ⟨sentence,rfl,declared⟩ := Chain.chain_meaning meant
  have some_ : used ≠ [] := by
    rintro rfl
    exact Chain.term_lexemes _ lexemes.symm
  obtain ⟨first,isFirst⟩ : ∃ first, used.head? = some first := ⟨_,List.head?_eq_some_head some_⟩
  obtain ⟨last,isLast⟩ : ∃ last, used.getLast? = some last := ⟨_,List.getLast?_eq_some_getLast some_⟩
  have lexed := (Chain.tokensFrom_exact.mp read).slice isFirst isLast
  rw [isFirst] at starts
  rw [isLast] at stops
  refine Chain.declarationOf_complete ?_ declared
  rw [String.toList_ofList,slice,starts,stops]
  exact (Chain.scans_exact _).mpr ⟨used,lexed,lexemes⟩

theorem chains_of {text : String} {source : List Char} {members : List Member} {entries : Entries}
    (found : literalChars? text.toList = some source) (read : (membersOf source).outcome = .ok members)
    (kept : (chainsOf source (lastOfEach members)).outcome = .ok (some entries)) :
    (chains text).outcome = .ok (some entries) := by
  unfold chains
  rw [found]
  simp only
  rw [read]
  exact Traced.bind_outcome.mpr ⟨(),rfl,kept⟩

section Visits

def visitText : String :=
  "\x7b% set schema = \x7bdays: z.array( z.date(), ), note: \"z.string()\"\x7d -%\x7d"

def visitSource : List Char :=
  "\x7bdays: z.array( z.date(), ), note: \"z.string()\"\x7d".toList

def visitTokens : List Chain.Token :=
  [⟨.mark,['\x7b'],0,1⟩,⟨.name,"days".toList,1,5⟩,⟨.mark,[':'],5,6⟩,⟨.name,['z'],7,8⟩,⟨.mark,['.'],8,9⟩,
    ⟨.name,"array".toList,9,14⟩,⟨.mark,['('],14,15⟩,⟨.name,['z'],16,17⟩,⟨.mark,['.'],17,18⟩,
    ⟨.name,"date".toList,18,22⟩,⟨.mark,['('],22,23⟩,⟨.mark,[')'],23,24⟩,⟨.mark,[','],24,25⟩,⟨.mark,[')'],26,27⟩,
    ⟨.mark,[','],27,28⟩,⟨.name,"note".toList,29,33⟩,⟨.mark,[':'],33,34⟩,⟨.string,"\"z.string()\"".toList,35,47⟩,
    ⟨.mark,['\x7d'],47,48⟩]

theorem visit_tokens : Chain.tokens visitSource = .ok visitTokens := by
  decide +kernel

theorem visit_members : (Chain.membersOf visitSource).outcome = .ok [
    ⟨"days",.chain [(.text "type",.text "array"),(.text "items",.map [(.text "type",.text "date")])],7,27⟩,
    ⟨"note",.text "z.string()",35,47⟩] := by
  rw [Chain.membersOf,Chain.readTokens,visit_tokens]
  simp [visitTokens,bind,pure,Except.mapError,Traced.ofExcept,Traced.andThen,Traced.done,Chain.expectEnd,
    Chain.members,Chain.value,Chain.call,Chain.calls,Chain.items,Chain.expect,Chain.accept?,Chain.Token.isMark,
    Chain.Token.shown,Chain.lastStop,Chain.unquoted,Chain.unescaped,Chain.build,Chain.chainAt?,Chain.typed,
    Chain.typeKey,Kind.name]

def visitEntries : Entries :=
  [(.text "days",.text "z.array( z.date(), )"),(.text "note",.text "z.string()")]

theorem visit_literal : literalChars? visitText.toList = some visitSource := by
  cbv

theorem visit_extracted : (chains visitText).outcome = .ok (some visitEntries) :=
  chains_of visit_literal visit_members (by cbv)

end Visits

-- An entry that holds text as it was quoted, or the text of a chain, which declares by itself what
-- the chain declared in its place.
def Rereads (source : List Char) (m : Member) (entry : Value × Value) : Prop :=
  ∃ s, entry = (.text m.name,.text s) ∧
    (m.value = .text s ∨ ∃ d own, m.value = .chain d ∧ s = .whole own ∧ own = String.ofList (slice source m) ∧
      (declarationOf own).outcome = .ok d)

theorem chains_reread {text : String} {entries : Entries} (extracted : (chains text).outcome = .ok (some entries)) :
    ∃ source members, literalChars? text.toList = some source ∧ (membersOf source).outcome = .ok members ∧
      List.Forall₂ (Rereads source) (lastOfEach members) entries := by
  unfold chains at extracted
  cases literal : literalChars? text.toList with
  | none => rw [literal] at extracted; cases extracted
  | some source =>
    rw [literal] at extracted
    simp only at extracted
    cases read : (membersOf source).outcome with
    | error f =>
      rw [read] at extracted
      cases f <;> cases extracted
    | ok members =>
      rw [read] at extracted
      simp only at extracted
      obtain ⟨_,_,kept⟩ := Traced.bind_outcome.mp extracted
      obtain ⟨ts,tokens_,spans⟩ := membersOf_spans read
      refine ⟨source,members,rfl,read,?_⟩
      have placed : ∀ m ∈ lastOfEach members, Spans ts m := fun m member => spans m (lastOfEach_subset members member)
      refine ((List.forall₂_and_left _ _).mpr ⟨placed,chainsOf_kept kept⟩).imp ?_
      rintro m entry ⟨here,s,rfl,isText | ⟨⟨d,isChain⟩,same⟩⟩
      · exact ⟨s,rfl,.inl isText⟩
      · exact ⟨s,rfl,.inr ⟨d,_,isChain,same,rfl,slice_declared tokens_ here isChain⟩⟩

theorem visit_reread : ∃ source members, literalChars? visitText.toList = some source ∧
    (membersOf source).outcome = .ok members ∧ List.Forall₂ (Rereads source) (lastOfEach members) visitEntries :=
  chains_reread visit_extracted

end TemplateSchema.Directive
