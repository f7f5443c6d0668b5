import TemplateSchema.Proofs.CommandLine.Validation
import TemplateSchema.Proofs.Document.Coercion
import TemplateSchema.Proofs.Document.Undeclared
import TemplateSchema.Proofs.Yaml.Rounds
/-!
How deep a document is looked into. No declaration looks further down than its value is high, so a
document that holds itself is judged the same for every number of rounds from there on.
-/
set_option autoImplicit false
namespace TemplateSchema

namespace Declaration

mutual

-- How far down a value is looked into as that of a declaration. Options may be collections, which a value
-- is compared with.
def depth : Declaration → Nat
  | .array _ item => depth item + 1
  | .object _ properties => depthIn properties + 1
  | .record _ value => depth value + 1
  | .enum keys => (Entries.field keys "options").height
  | _ => 0

def depthIn : List (Value × Declaration) → Nat
  | [] => 0
  | (_,d) :: rest => max (depth d) (depthIn rest)

end

end Declaration

section Heights

theorem entry_height {entries : Entries} {entry : Value × Value} (member : entry ∈ entries) :
    entry.1.height ≤ Value.heightOfEntries entries ∧ entry.2.height ≤ Value.heightOfEntries entries := by
  induction entries with
  | nil => cases member
  | cons first rest ih =>
    simp only [Value.heightOfEntries]
    rcases List.mem_cons.mp member with rfl | behind
    · omega
    · have inside := ih behind
      omega

theorem item_height {items : List Value} {x : Value} (member : x ∈ items) : x.height ≤ Value.heightOfItems items := by
  induction items with
  | nil => cases member
  | cons first rest ih =>
    simp only [Value.heightOfItems]
    rcases List.mem_cons.mp member with rfl | behind
    · omega
    · have inside := ih behind
      omega

theorem field_height (keys : Entries) (name : Text) :
    (Entries.field keys name).height ≤ Value.heightOfEntries keys := by
  cases found : Entries.field? keys name with
  | none =>
    rw [Entries.field_missing found]
    exact Nat.zero_le _
  | some v =>
    rw [Entries.field_found found]
    exact (entry_height (Entries.found_entry found)).2

theorem members_height {v x : Value} {members : List Value} (listed : v.membersOrNone? = some members)
    (member : x ∈ members) : x.height ≤ v.height := by
  unfold Value.membersOrNone? at listed
  split at listed
  · cases v with
    | list items | tuple items | set items =>
      cases listed
      exact Nat.le_succ_of_le (item_height member)
    | map entries =>
      cases listed
      obtain ⟨entry,inside,rfl⟩ := List.mem_map.mp member
      exact Nat.le_succ_of_le (entry_height inside).1
    | text s =>
      cases listed
      obtain ⟨p,_,rfl⟩ := List.mem_map.mp member
      exact Nat.zero_le _
    | bytes bs =>
      cases listed
      obtain ⟨b,_,rfl⟩ := List.mem_map.mp member
      exact Nat.zero_le _
    | _ => cases listed
  · cases listed
    cases member

mutual

-- A declaration looks no further down than its own value is high.
theorem depth_height : (v : Value) → (Declaration.ofValue v).depth ≤ v.height
  | .map keys => by
    have item := nested_height Declaration.itemsKey keys
    have value := nested_height Declaration.valuesKey keys
    have options := field_height keys "options"
    simp only [Declaration.ofValue,Value.height]
    cases Kind.read? (Entries.field keys Declaration.typeKey) with
    | none => exact Nat.zero_le _
    | some kind =>
      cases kind with
      | array => exact Nat.succ_le_succ item
      | record => exact Nat.succ_le_succ value
      | enum => exact Nat.le_succ_of_le options
      | object =>
        cases declared : Declaration.propertiesIn keys with
        | error gap => exact Nat.zero_le _
        | ok properties => exact Nat.succ_le_succ (propertiesIn_height keys declared)
      | _ => exact Nat.zero_le _
  | .null | .bool _ | .int _ | .float _ | .text _ | .bytes _ | .date _ | .moment _ | .list _ | .tuple _ | .set _
  | .chain _ => Nat.zero_le _

theorem nested_height (key : String) : (entries : List (Value × Value)) →
    (Declaration.nested key entries).depth ≤ Value.heightOfEntries entries
  | [] => Nat.zero_le _
  | (k,v) :: rest => by
    have here := depth_height v
    have behind := nested_height key rest
    simp only [Declaration.nested,Value.heightOfEntries]
    split
    · omega
    · omega

theorem propertiesIn_height : (entries : List (Value × Value)) → ∀ {properties : List (Value × Declaration)},
    Declaration.propertiesIn entries = .ok properties → Declaration.depthIn properties ≤ Value.heightOfEntries entries
  | [], _, declared => by cases declared
  | (k,v) :: rest, _, declared => by
    rw [Declaration.propertiesIn] at declared
    simp only [Value.heightOfEntries]
    split at declared
    · have here := propertiesOf_height v declared
      omega
    · have behind := propertiesIn_height rest declared
      omega

theorem propertiesOf_height : (v : Value) → ∀ {properties : List (Value × Declaration)},
    Declaration.propertiesOf v = .ok properties → Declaration.depthIn properties ≤ v.height
  | .map entries, _, declared => by
    cases declared
    exact Nat.le_succ_of_le (depthIn_height entries)
  | .null, _, declared | .bool _, _, declared | .int _, _, declared | .float _, _, declared | .text _, _, declared
  | .bytes _, _, declared | .date _, _, declared | .moment _, _, declared | .list _, _, declared
  | .tuple _, _, declared | .set _, _, declared | .chain _, _, declared => by cases declared

theorem depthIn_height : (entries : List (Value × Value)) →
    Declaration.depthIn (Declaration.members entries) ≤ Value.heightOfEntries entries
  | [] => Nat.zero_le _
  | (k,v) :: rest => by
    have here := depth_height v
    have behind := depthIn_height rest
    simp only [Declaration.members,Declaration.depthIn,Value.heightOfEntries]
    omega

end

theorem schema_height {schema : Value} {properties : List (Value × Declaration)}
    (declared : declarations schema = .ok properties) : Declaration.depthIn properties < schema.height := by
  unfold declarations at declared
  split at declared
  · rename_i entries
    split at declared
    · cases declared
    · rename_i fields found
      cases declared
      have inside := (entry_height (Entries.found_entry found)).2
      have below := depthIn_height fields
      simp only [Value.height] at inside ⊢
      omega
    · cases declared
  · cases declared

end Heights

section Cutting

variable {isMatch : Format → Text → Bool} {depth : Nat}

theorem Value.cut_alike (v : Value) : v.cut (depth + 1) = v ∨ (v.cut (depth + 1)).IsCompound ∧ v.IsCompound := by
  cases v with
  | list items => exact .inr ⟨.inl ⟨_,.inl rfl⟩,.inl ⟨_,.inl rfl⟩⟩
  | tuple items => exact .inr ⟨.inl ⟨_,.inr rfl⟩,.inl ⟨_,.inr rfl⟩⟩
  | map entries => exact .inr ⟨.inr ⟨_,rfl⟩,.inr ⟨_,rfl⟩⟩
  | _ => exact .inl rfl

theorem Value.asMoment_cut (v : Value) : (v.cut depth).asMoment = v.asMoment.cut depth := by
  cases depth with
  | zero => rfl
  | succ depth =>
    cases v with
    | text t =>
      rcases asMoment_cases (.text t) with same | ⟨m,moment,_⟩
      · rw [same]
        exact same
      · rw [moment]
        exact moment
    | _ => rfl

theorem items_cut {α : Type} {look : Value → α} (same : ∀ v : Value, look (v.cut depth) = look v)
    (items : List Value) : List.Forall₂ (fun v w => look v = look w) (items.map (Value.cut depth)) items := by
  rw [List.forall₂_map_left_iff]
  exact List.forall₂_same.mpr fun v _ => same v

theorem rows_cut {α : Type} {look : Value → α} (same : ∀ v : Value, look (v.cut depth) = look v)
    (entries : Entries) :
    List.Forall₂ (fun e f => e.1 = f.1 ∧ look e.2 = look f.2) (Entries.cut depth entries) entries := by
  rw [Entries.cut,List.forall₂_map_left_iff]
  exact List.forall₂_same.mpr fun entry _ => ⟨rfl,same entry.2⟩

namespace Document

section Judging

theorem unlessEmpty_cut {f : Field} (same : ∀ v : Value, judge f (v.cut (depth + 1)) = judge f v) (v : Value) :
    unlessEmpty f (v.cut (depth + 1)) (judge f (v.cut (depth + 1))) = unlessEmpty f v (judge f v) :=
  unlessEmpty_congr v.cut_alike (same v)

theorem firstProperty_cut {properties : List Field} (entries : Entries)
    (same : ∀ f ∈ properties, ∀ v : Value, judge f (v.cut (depth + 1)) = judge f v) :
    firstProperty (Entries.cut (depth + 1) entries) properties = firstProperty entries properties := by
  induction properties with
  | nil => rfl
  | cons p rest ih =>
    obtain ⟨first,others⟩ := List.forall_mem_cons.mp same
    have here := unlessEmpty_cut first (Entries.field entries p.name)
    simp only [Entries.field] at here
    simp only [firstProperty,Entries.field,Entries.getOrNull_cut,here,ih others]

mutual

-- One level of a declaration needs one level of a value; below it, the parts are judged as those of the
-- declarations inside.
theorem judge_cut : (d : Declaration) → ∀ {name : Value} {f : Field} {depth : Nat} (v : Value),
    (Normal.field name d).outcome = .ok f → d.depth < depth → judge f (v.cut depth) = judge f v
  | .array _ item, _, _, depth + 1, v, read, deep => by
    cases Normal.field_exact read with
    | array head lower upper nested =>
      cases v with
      | list items =>
        have deep : item.depth < depth := Nat.lt_of_succ_lt_succ deep
        have each := firstItem_congr 1 (items_cut (fun x => judge_cut item x nested deep) items)
        simp only [Value.cut,judge,List.length_map,each]
      | _ => rfl
  | .object _ properties, _, _, depth + 1, v, read, deep => by
    cases Normal.field_exact read with
    | object head nested =>
      cases v with
      | map entries =>
        have deep : Declaration.depthIn properties < depth := Nat.lt_of_succ_lt_succ deep
        obtain ⟨depth,rfl⟩ : ∃ less, depth = less + 1 := ⟨depth - 1,by omega⟩
        exact firstProperty_cut entries (judge_each_cut properties nested deep)
      | _ => rfl
  | .record _ value, _, _, depth + 1, v, read, deep => by
    cases Normal.field_exact read with
    | record head nested =>
      cases v with
      | map entries =>
        have deep : value.depth < depth := Nat.lt_of_succ_lt_succ deep
        exact firstEntry_congr (rows_cut (fun x => judge_cut value x nested deep) entries)
      | _ => rfl
  | .string _, _, _, _ + 1, v, read, _ => by cases Normal.field_exact read; cases v <;> rfl
  | .number _, _, _, _ + 1, v, read, _ => by cases Normal.field_exact read; cases v <;> rfl
  | .boolean _, _, _, _ + 1, v, read, _ => by cases Normal.field_exact read; cases v <;> rfl
  | .date _, _, _, _ + 1, v, read, _ => by cases Normal.field_exact read; cases v <;> rfl
  | .enum _, _, _, _ + 1, v, read, _ => by cases Normal.field_exact read; cases v <;> rfl
  | .unknown _, _, _, _ + 1, v, read, _ => by cases Normal.field_exact read; cases v <;> rfl

theorem judge_each_cut : (properties : List (Value × Declaration)) → ∀ {fields : List Field} {depth : Nat},
    (Normal.fieldsOf properties).outcome = .ok fields → Declaration.depthIn properties < depth →
      ∀ f ∈ fields, ∀ v : Value, judge f (v.cut depth) = judge f v
  | [], _, _, read, _ => by
    cases read
    intro f member
    cases member
  | (_,d) :: rest, _, _, read, deep => by
    obtain ⟨f,_,first,others,rfl⟩ := Normal.fieldsOf_cons.mp read
    simp only [Declaration.depthIn] at deep
    refine List.forall_mem_cons.mpr ⟨?_,judge_each_cut rest others (by omega)⟩
    intro v
    exact judge_cut d v first (by omega)

end

variable {declared : Value} {schema : Schema} (normal : (Normal.schema declared).outcome = .ok schema)
  (high : declared.height ≤ depth)

include normal high

theorem complaints_cut (entries : Entries) :
    complaints schema (Entries.cut depth entries) = complaints schema entries := by
  obtain ⟨properties,found,rows⟩ := Normal.schema_exact.mp normal
  have deep : Declaration.depthIn properties < depth := Nat.lt_of_lt_of_le (schema_height found) high
  have same := judge_each_cut properties (Normal.schemaOf_exact rows).1 deep
  obtain ⟨depth,rfl⟩ : ∃ less, depth = less + 1 := ⟨depth - 1,by omega⟩
  apply List.filterMap_congr
  intro row member
  obtain ⟨key,f⟩ := row
  have alike := unlessEmpty_cut (same f (List.mem_map_of_mem member)) (Entries.getOrNull entries key)
  simp only [Entries.getOrNull_cut,alike]

theorem report_cut (entries : Entries) :
    report schema (.map (Entries.cut depth entries)) = report schema (.map entries) := by
  rw [report_judged (validate_map _ _),report_judged (validate_map _ _),complaints_cut normal high]

end Judging

section Reading

mutual

-- Dates are read as deep as a value goes, and are no deeper themselves.
theorem coerce_cut : (f : Field) → ∀ {depth : Nat} (v : Value), coerce f (v.cut depth) = (coerce f v).cut depth
  | f, 0, _ => coerce_empty f rfl
  | .date .., _ + 1, v => v.asMoment_cut
  | .array _ _ _ item, depth + 1, v => by
    have each (x : Value) : coerce item (x.cut depth) = (coerce item x).cut depth := coerce_cut item x
    cases v <;> simp [coerce,Value.cut,each]
  | .record _ inner, depth + 1, v => by
    have each (x : Value) : coerce inner (x.cut depth) = (coerce inner x).cut depth := coerce_cut inner x
    cases v <;> simp [coerce,Value.cut,each]
  | .object _ properties, depth + 1, v => by
    have each (key x : Value) :
        coerceProperty key (x.cut depth) properties = (coerceProperty key x properties).cut depth :=
      coerceProperty_cut key x properties
    cases v <;> simp [coerce,Value.cut,each]
  | .string .., _ + 1, _ => rfl
  | .number .., _ + 1, _ => rfl
  | .boolean _, _ + 1, _ => rfl
  | .enum .., _ + 1, _ => rfl

theorem coerceProperty_cut (key : Value) {depth : Nat} (v : Value) : (properties : List Field) →
    coerceProperty key (v.cut depth) properties = (coerceProperty key v properties).cut depth
  | [] => rfl
  | p :: rest => by
    rw [coerceProperty,coerceProperty]
    split
    · exact coerce_cut p v
    · exact coerceProperty_cut key v rest

end

theorem coerced_cut (schema : Schema) (entries : Entries) :
    coerced schema (Entries.cut depth entries) = Entries.cut depth (coerced schema entries) := by
  simp only [coerced,Entries.cut,List.map_map]
  apply List.map_congr_left
  intro entry _
  obtain ⟨key,v⟩ := entry
  simp only [Function.comp_apply,coerceEntry]
  cases schema.get? key with
  | none => rfl
  | some f => simp only [coerce_cut]

end Reading

end Document

namespace Shape

theorem option_cut {options : List Value} (low : ∀ o ∈ options, o.height < depth + 1) (v : Value) :
    option? options (v.cut (depth + 1)) = option? options v := by
  have equal : (options.filter fun o => Value.same o (v.cut (depth + 1))) = options.filter fun o => Value.same o v :=
    List.filter_congr fun o member => Value.same_cut o (low o member)
  have plain : isPlain (v.cut (depth + 1)) = isPlain v := by cases v <;> rfl
  have kind : isSameKind (v.cut (depth + 1)) = isSameKind v := by
    funext o
    rw [isSameKind,isSameKind,Value.cut_kindName]
  simp only [option?,equal,plain,kind]

theorem choice_cut {options : List Value} (low : ∀ o ∈ options, o.height < depth + 1) (v : Value) :
    checkWith isMatch (.choice options) (v.cut (depth + 1)) = checkWith isMatch (.choice options) v := by
  have torn : (v.cut (depth + 1)).isTorn = v.isTorn := by cases v <;> rfl
  simp only [checkWith,checkChoice,torn,option_cut low]

theorem checkMembers_cut {members : List (Slot × Shape)} (entries : Entries)
    (same : ∀ member ∈ members, ∀ v : Value, checkWith isMatch member.2 (v.cut depth) = checkWith isMatch member.2 v) :
    checkMembers isMatch (Entries.cut depth entries) members = checkMembers isMatch entries members := by
  induction members with
  | nil => rfl
  | cons member rest ih =>
    obtain ⟨slot,s⟩ := member
    obtain ⟨first,others⟩ := List.forall_mem_cons.mp same
    rw [checkMembers,checkMembers,ih others,Entries.field?,Entries.field?,Entries.get_cut]
    cases Entries.get? entries (.text slot.key) with
    | none => rfl
    | some v => simp only [Option.map_some,first v]

mutual

-- The options of a choice are the only values that one is compared with, and none is higher than its declaration.
theorem check_cut : (d : Declaration) → ∀ {name : Value} {s : Shape} {depth : Nat} (v : Value),
    (draft name d).outcome = .ok (some s) → d.depth < depth → checkWith isMatch s (v.cut depth) = checkWith isMatch s v
  | .array _ item, _, _, depth + 1, v, drafted, deep => by
    obtain ⟨lo,hi,inner,rfl,_,_,nested⟩ := array_drafted drafted
    cases v with
    | list items =>
      have each := checkItems_congr 0 (items_cut (inner_cut item nested (Nat.lt_of_succ_lt_succ deep)) items)
      simp only [Value.cut,checkWith,each,list_length (List.length_map _)]
    | _ => rfl
  | .object _ properties, _, _, depth + 1, v, drafted, deep => by
    obtain ⟨model,members,usable,rfl,_,nested,all⟩ := object_drafted drafted
    cases v with
    | map entries =>
      have each := check_each_cut properties nested all (Nat.lt_of_succ_lt_succ deep)
      exact congrArg (Except.map Parsed.model) (checkMembers_cut entries each)
    | _ => rfl
  | .record _ value, _, _, depth + 1, v, drafted, deep => by
    obtain ⟨inner,rfl,nested⟩ := record_drafted drafted
    cases v with
    | map entries =>
      have each := checkEntries_congr (rows_cut (inner_cut value nested (Nat.lt_of_succ_lt_succ deep)) entries)
      exact congrArg (Except.map recordOf) each
    | _ => rfl
  | .enum keys, _, _, depth + 1, v, drafted, deep => by
    obtain ⟨members,listed,_,rfl⟩ := enum_drafted drafted
    split
    · cases v <;> rfl
    · apply choice_cut
      intro o member
      exact Nat.lt_of_le_of_lt (members_height listed (option_member member)) deep
  | .string _, _, _, _ + 1, v, drafted, _ => by
    obtain ⟨_,_,rfl,_⟩ := string_drafted drafted
    cases v <;> rfl
  | .number _, _, _, _ + 1, v, drafted, _ => by
    obtain ⟨_,_,rfl,_⟩ := number_drafted drafted
    cases v <;> rfl
  | .boolean _, _, _, _ + 1, v, drafted, _ => by
    cases drafted
    cases v <;> rfl
  | .date _, _, _, _ + 1, v, drafted, _ => by
    obtain ⟨_,_,rfl,_⟩ := date_drafted drafted
    cases v <;> rfl
  | .unknown _, _, _, _ + 1, v, drafted, _ => by
    obtain rfl := unknown_drafted drafted
    cases v <;> rfl
  | .broken _, _, _, _ + 1, _, drafted, _ => by cases drafted

theorem inner_cut (d : Declaration) {name : Value} {s : Shape} {depth : Nat}
    (drafted : (draft name d).outcome = .ok (some s)) (deep : d.depth < depth) (v : Value) :
    checkWith isMatch (ofInner d.isOptional s) (v.cut depth) = checkWith isMatch (ofInner d.isOptional s) v := by
  obtain ⟨depth,rfl⟩ : ∃ less, depth = less + 1 := ⟨depth - 1,by omega⟩
  exact inner_congr v.cut_alike _ (check_cut d v drafted deep)

theorem check_each_cut : (properties : List (Value × Declaration)) → ∀ {position : Nat}
    {drafted : List (Option Slot × Draft)} {members : List (Slot × Shape)} {depth : Nat},
    (drafts position properties).outcome = .ok drafted → allUsable drafted = some members →
      Declaration.depthIn properties < depth → ∀ member ∈ members, ∀ v : Value,
        checkWith isMatch member.2 (v.cut depth) = checkWith isMatch member.2 v
  | [], _, _, _, _, drafted, all, _ => by
    cases drafted
    cases all
    intro member inside
    cases inside
  | (_,d) :: rest, _, _, _, depth, drafted, all, deep => by
    obtain ⟨slot,s,_,_,_,own,tail,usables,rfl⟩ := drafts_cons drafted all
    simp only [Declaration.depthIn] at deep
    refine List.forall_mem_cons.mpr ⟨?_,check_each_cut rest tail usables (by omega)⟩
    intro v
    obtain ⟨depth,rfl⟩ : ∃ less, depth = less + 1 := ⟨depth - 1,by omega⟩
    exact member_congr v.cut_alike _ (check_cut d v own (by omega))

end

theorem report_cut {schema : Value} {name : Text} {s : Shape}
    (compiled : (ofSchema schema (.text name)).outcome = .ok s) (high : schema.height ≤ depth) (entries : Entries) :
    report isMatch s (.map (Entries.cut depth entries)) = report isMatch s (.map entries) := by
  obtain ⟨own,properties,drafted,members,_,declared,nested,all,rfl⟩ := ofSchema_exact compiled
  have same : checkMembers isMatch (Entries.cut depth entries) members = checkMembers isMatch entries members :=
    checkMembers_cut entries (check_each_cut properties nested all (Nat.lt_of_lt_of_le (schema_height declared) high))
  simp only [report,checkWith,same]

end Shape

end Cutting

namespace CommandLine

variable {s : Surroundings} {settings : Entries} {isStrict : Bool} {path : String} {schema : Value} {rounds : Nat}

theorem strict_cut {depth : Nat} (high : schema.height ≤ depth) (entries : Entries) :
    strictLines settings schema (.map (Entries.cut depth entries)) = strictLines settings schema (.map entries) := by
  unfold strictLines
  apply Traced.bind_congr
  intro name _
  apply Traced.bind_congr
  intro shape compiled
  cases name with
  | text name => rw [Shape.report_cut compiled high]
  | _ =>
    obtain ⟨_,_,untold⟩ := Traced.bind_outcome.mp compiled
    obtain ⟨_,_,untold⟩ := Traced.bind_outcome.mp untold
    cases untold

-- A document is judged by what it is down to the height of the schema.
theorem judged_cut {depth : Nat} (high : schema.height ≤ depth) (entries : Entries) :
    judged settings isStrict path schema (.map (Entries.cut depth entries)) =
      judged settings isStrict path schema (.map entries) := by
  unfold judged
  apply Traced.bind_congr
  intro fields normal
  rw [Document.coerceDates_map,Document.coerceDates_map,Document.coerced_cut]
  change Traced.ofExcept (Document.report fields (.map (Entries.cut depth (Document.coerced fields entries)))) >>= _ =
    Traced.ofExcept (Document.report fields (.map (Document.coerced fields entries))) >>= _
  rw [Document.report_cut normal high,strict_cut high]

theorem said_cut {depth : Nat} {next other : String → Except Failure Value} (x : Except Failure String)
    (same : ∀ text, (next text).map (Value.cut depth) = (other text).map (Value.cut depth)) :
    (x >>= next).map (Value.cut depth) = (x >>= other).map (Value.cut depth) := by
  cases x with
  | error f => rfl
  | ok text => exact same text

theorem mapping_cut (x : Except Failure Value) {depth : Nat} :
    (x >>= mappingOf).map (Value.cut (depth + 1)) = x.map (Value.cut (depth + 1)) >>= mappingOf := by
  cases x with
  | error f => rfl
  | ok v => cases v <;> rfl

variable {more : Nat}

theorem parse_cut (suffix text : String) (deeper : rounds ≤ more) :
    (Document.parse more suffix text).map (Value.cut (rounds + 1)) =
      (Document.parse rounds suffix text).map (Value.cut (rounds + 1)) := by
  have swap (x : Except Yaml.Fault Value) : (x.mapError Failure.yaml).map (Value.cut (rounds + 1)) =
      (x.map (Value.cut (rounds + 1))).mapError Failure.yaml := by
    cases x <;> rfl
  unfold Document.parse
  split
  · rfl
  · rw [swap,swap,Yaml.loadTo_cut text deeper]

theorem load_cut (known : ending path ∈ Document.suffixes) (deeper : rounds ≤ more) :
    (Document.load s more path).map (Value.cut (rounds + 1)) =
      (Document.load s rounds path).map (Value.cut (rounds + 1)) := by
  have said : (s.text (FilePath.read path) >>= Document.parse more (ending path)).map (Value.cut (rounds + 1)) =
      (s.text (FilePath.read path) >>= Document.parse rounds (ending path)).map (Value.cut (rounds + 1)) :=
    said_cut _ fun text => parse_cut (ending path) text deeper
  rw [load_known known,load_known known,mapping_cut,mapping_cut,said]

theorem load_unknown (unknown : ending path ∉ Document.suffixes) :
    Document.load s rounds path = .error (.extension (FilePath.read path).suffix) := by
  unfold Document.load
  exact if_neg fun known => unknown (List.contains_iff_mem.mp known)

-- More rounds change neither whether a document is read nor what it holds, down to a depth.
theorem load_deeper (s : Surroundings) (path : String) (deeper : rounds ≤ more) :
    (∃ f, Document.load s more path = .error f ∧ Document.load s rounds path = .error f) ∨
      ∃ es fs, Document.load s more path = .ok (.map es) ∧ Document.load s rounds path = .ok (.map fs) ∧
        Entries.cut rounds es = Entries.cut rounds fs := by
  by_cases known : ending path ∈ Document.suffixes
  · have same := @load_cut s path rounds more known deeper
    cases far : Document.load s more path with
    | error f =>
      cases near : Document.load s rounds path <;> rw [far,near] at same <;> cases same
      exact .inl ⟨f,rfl,rfl⟩
    | ok v =>
      cases near : Document.load s rounds path with
      | error g => rw [far,near] at same; cases same
      | ok w =>
        obtain ⟨es,rfl⟩ := load_mapping known far
        obtain ⟨fs,rfl⟩ := load_mapping known near
        rw [far,near] at same
        exact .inr ⟨es,fs,rfl,rfl,Value.map.inj (Except.ok.inj same)⟩
  · exact .inl ⟨_,load_unknown known,load_unknown known⟩

-- However often a document is gone round that holds itself, it is judged the same, once that is as often as the
-- schema is high.
theorem validate_deeper (deeper : schema.height ≤ rounds) :
    validateTo rounds s settings isStrict path schema = validate s settings isStrict path schema := by
  unfold validate validateTo
  rcases load_deeper s path deeper with ⟨f,far,near⟩ | ⟨es,fs,far,near,same⟩
  · rw [far,near]
  · rw [far,near]
    calc judged settings isStrict path schema (.map es)
      _ = judged settings isStrict path schema (.map (Entries.cut schema.height es)) :=
        (judged_cut (Nat.le_refl _) es).symm
      _ = judged settings isStrict path schema (.map (Entries.cut schema.height fs)) := by rw [same]
      _ = judged settings isStrict path schema (.map fs) := judged_cut (Nat.le_refl _) fs

end CommandLine

end TemplateSchema
