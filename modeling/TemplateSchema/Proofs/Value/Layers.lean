import TemplateSchema.Document.Merge
import TemplateSchema.Proofs.Value.Entries
/-!
One mapping laid over another. A place is given by the names on the way to it: what the upper
mapping holds there wins, what the lower one holds shows where the upper one leaves it alone, and
the keys of the lower one come first. Three layers may be put together from either end, unless the
middle one cuts off a mapping that the other two share.
-/
set_option autoImplicit false
namespace TemplateSchema

namespace Value

-- Mappings from names, each name once, as deep as mappings hold mappings. A tip is anything else,
-- whatever it holds.
inductive IsNested : Value → Prop where
  | tip {v : Value} (single : v.entries? = none) : IsNested v
  | branch {entries : Entries} (dictionary : Entries.IsDictionary entries)
      (inner : ∀ entry ∈ entries, IsNested entry.2) : IsNested (.map entries)

-- What stands at the end of a way of names.
def at? : Value → List Text → Option Value
  | v, [] => some v
  | v, name :: way => v.entries?.bind fun entries => (Entries.field? entries name).bind (at? · way)

-- The entries of the mapping at the end of a way, none where there is no mapping.
def branchAt (v : Value) (way : List Text) : Entries :=
  ((v.at? way).bind entries?).getD []

-- Where the layers around it both have a mapping, the layer in the middle has no tip.
def IsUncut (lower middle upper : Value) : Prop :=
  ∀ way v, ((lower.at? way).bind entries?).isSome → ((upper.at? way).bind entries?).isSome →
    middle.at? way = some v → v.entries?.isSome

variable {v w : Value} {entries others : Entries} {name : Text} {way : List Text}

theorem IsNested.dictionary (nested : (Value.map entries).IsNested) : Entries.IsDictionary entries := by
  cases nested with
  | tip single => cases single
  | branch dictionary _ => exact dictionary

theorem IsNested.found (nested : (Value.map entries).IsNested) (found : Entries.field? entries name = some v) :
    v.IsNested := by
  cases nested with
  | tip single => cases single
  | branch _ inner => exact inner _ (Entries.found_entry found)

theorem at_nil : v.at? [] = some v :=
  rfl

theorem at_cons : (Value.map entries).at? (name :: way) = (Entries.field? entries name).bind (at? · way) :=
  rfl

theorem at_tip (single : v.entries? = none) : v.at? (name :: way) = none := by
  rw [at?,single]
  rfl

theorem branch_cons : (Value.map entries).branchAt (name :: way) =
    ((Entries.field? entries name).map (branchAt · way)).getD [] := by
  unfold branchAt
  rw [at_cons]
  cases Entries.field? entries name <;> rfl

theorem branch_tip (single : v.entries? = none) : v.branchAt way = [] := by
  unfold branchAt
  cases way with
  | nil => rw [at_nil,Option.bind_some,single]; rfl
  | cons name way => rw [at_tip single]; rfl

end Value

namespace Entries

open Value (IsNested IsUncut at_cons at_tip branchAt)

variable {entries others lower upper : Entries} {name : Text} {way : List Text} {v : Value}
  {x y z : Option Value}

section Dictionaries

theorem insert_names (known : (field? entries name).isSome) :
    (insert entries (.text name) v).map Prod.fst = entries.map Prod.fst := by
  induction entries with
  | nil => cases known
  | cons entry rest ih =>
    obtain ⟨key,w⟩ := entry
    rw [insert]
    split
    · rfl
    · rename_i different
      have behind : (field? rest name).isSome := by
        simpa [field?,get?,List.find?_cons,different] using known
      rw [List.map_cons,List.map_cons,ih behind]

theorem insert_unknown (unknown : field? entries name = none) :
    insert entries (.text name) v = entries ++ [(.text name,v)] := by
  refine insert_fresh fun entry member => ?_
  rw [field?,get?,Option.map_eq_none_iff,List.find?_eq_none] at unknown
  simpa using unknown entry member

-- The first key of a dictionary is a name that does not come again.
theorem IsDictionary.first {key : Value} (dictionary : IsDictionary ((key,v) :: entries)) :
    ∃ own, key = .text own ∧ IsDictionary entries ∧
      ∀ entry ∈ entries, ∃ other, entry.1 = .text other ∧ (own == other) = false := by
  obtain ⟨⟨own,rfl⟩,named⟩ := List.forall_mem_cons.mp dictionary.named
  obtain ⟨fresh,distinct⟩ := List.pairwise_cons.mp dictionary.distinct
  refine ⟨own,rfl,⟨named,distinct⟩,fun entry member => ?_⟩
  obtain ⟨other,given⟩ := named entry member
  have apart := fresh entry member
  rw [given,Value.same_text] at apart
  exact ⟨other,given,apart⟩

-- A dictionary is made up of its keys and of what is found under them.
theorem IsDictionary.rows (dictionary : IsDictionary entries) :
    (entries.map Prod.fst).map (fun key => (key,get? entries key)) =
      entries.map fun entry => (entry.1,some entry.2) := by
  rw [List.map_map]
  refine List.map_congr_left ?_
  rintro ⟨key,v⟩ member
  obtain ⟨name,rfl,found⟩ := dictionary.member.mp member
  exact Prod.ext rfl found

theorem IsDictionary.ext (left : IsDictionary entries) (right : IsDictionary others)
    (keys : entries.map Prod.fst = others.map Prod.fst) (same : ∀ name, field? entries name = field? others name) :
    entries = others := by
  have rows : entries.map (fun entry => (entry.1,some entry.2)) = others.map fun entry => (entry.1,some entry.2) := by
    rw [← left.rows,← right.rows,← keys]
    refine List.map_congr_left fun key member => ?_
    obtain ⟨entry,inside,rfl⟩ := List.mem_map.mp member
    obtain ⟨name,named⟩ := left.named entry inside
    rw [named]
    exact Prod.ext rfl (same name)
  refine (List.map_inj_right ?_).mp rows
  rintro ⟨key,v⟩ ⟨other,w⟩ equal
  simpa using equal

end Dictionaries

-- What two layers show at one place.
def laid (lower upper : Option Value) : Option Value :=
  (upper.map (mergeValue lower)).or lower

theorem place_cases (x : Option Value) : (∃ inside, x = some (.map inside)) ∨ x.bind Value.entries? = none := by
  cases x with
  | none => exact .inr rfl
  | some v =>
    cases v with
    | map inside => exact .inl ⟨inside,rfl⟩
    | _ => exact .inr rfl

theorem laid_mappings (l u : Entries) : laid (some (.map l)) (some (.map u)) = some (.map (merge l u)) :=
  rfl

-- Where one of the two is no mapping, the upper one covers the lower one.
theorem laid_covered (covered : x.bind Value.entries? = none ∨ v.entries? = none) : laid x (some v) = some v := by
  cases v with
  | map u =>
    rcases covered with single | single
    · cases x with
      | none => rfl
      | some w => cases w <;> first | rfl | cases single
    · cases single
  | _ => rfl

-- All that can come of it: the lower layer shows through, two mappings are merged, or the upper one covers.
theorem laid_cases (x y : Option Value) :
    (y = none ∧ laid x y = x) ∨
      (∃ l u, x = some (.map l) ∧ y = some (.map u) ∧ laid x y = some (.map (merge l u))) ∨
      ∃ v, y = some v ∧ laid x y = some v ∧ (x.bind Value.entries? = none ∨ v.entries? = none) := by
  cases y with
  | none => exact .inl ⟨rfl,rfl⟩
  | some v =>
    refine .inr ?_
    rcases place_cases x with ⟨l,rfl⟩ | single
    · rcases place_cases (some v) with ⟨u,mapping⟩ | tip
      · exact .inl ⟨l,u,rfl,mapping,by rw [mapping,laid_mappings]⟩
      · exact .inr ⟨v,rfl,laid_covered (.inr tip),.inr tip⟩
    · exact .inr ⟨v,rfl,laid_covered (.inl single),.inl single⟩

theorem merge_cons (lower : Entries) (name : Text) (v : Value) (rest : Entries) :
    merge lower ((.text name,v) :: rest) =
      merge (insert lower (.text name) (mergeValue (field? lower name) v)) rest := by
  rw [merge]
  rfl

theorem merge_nil (lower : Entries) : merge lower [] = lower := by
  rw [merge]

-- What is found under a name is what the two layers show there.
theorem field_merge (dictionary : IsDictionary upper) (lower : Entries) (name : Text) :
    field? (merge lower upper) name = laid (field? lower name) (field? upper name) := by
  induction upper generalizing lower with
  | nil => rw [merge_nil]; rfl
  | cons entry rest ih =>
    obtain ⟨key,v⟩ := entry
    obtain ⟨own,rfl,behind,apart⟩ := dictionary.first
    rw [merge_cons,ih behind,field_insert,field_cons]
    split
    · rename_i same
      subst same
      have once : field? rest own = none := field_absent fun e member => by
        obtain ⟨other,named,different⟩ := apart e member
        rw [named,Value.same_text,BEq.comm,different]
      rw [once]
      rfl
    · rfl

theorem merge_dictionary (below : IsDictionary lower) (named : ∀ entry ∈ upper, ∃ name, entry.1 = .text name) :
    IsDictionary (merge lower upper) := by
  induction upper generalizing lower with
  | nil => rwa [merge_nil]
  | cons entry rest ih =>
    obtain ⟨key,v⟩ := entry
    obtain ⟨⟨own,here⟩,behind⟩ := List.forall_mem_cons.mp named
    obtain rfl : key = .text own := here
    rw [merge_cons]
    exact ih below.insert behind

theorem has_insert (entries : Entries) (name other : Text) (v : Value) :
    has (insert entries (.text name) v) (.text other) = (name == other || has entries (.text other)) := by
  unfold has
  rw [← field?,field_insert]
  by_cases same : name = other
  · simp [same]
  · simp only [if_neg same,beq_eq_false_iff_ne.mpr same,Bool.false_or]
    rfl

-- The keys of the lower layer, and behind them those of the upper one that are new.
theorem merge_keys (dictionary : IsDictionary upper) (lower : Entries) :
    (merge lower upper).map Prod.fst =
      lower.map Prod.fst ++ (upper.map Prod.fst).filter fun key => !has lower key := by
  induction upper generalizing lower with
  | nil => simp [merge_nil]
  | cons entry rest ih =>
    obtain ⟨key,v⟩ := entry
    obtain ⟨own,rfl,behind,apart⟩ := dictionary.first
    have others : ((rest.map Prod.fst).filter fun key =>
          !has (insert lower (.text own) (mergeValue (field? lower own) v)) key) =
        (rest.map Prod.fst).filter fun key => !has lower key := by
      refine List.filter_congr fun key member => ?_
      obtain ⟨e,inside,rfl⟩ := List.mem_map.mp member
      obtain ⟨other,named,different⟩ := apart e inside
      rw [named,has_insert,different,Bool.false_or]
    rw [merge_cons,ih behind,others,List.map_cons,List.filter_cons]
    cases found : field? lower own with
    | some w =>
      have known : has lower (.text own) = true := by rw [has,← field?,found]; rfl
      rw [insert_names (by rw [found]; rfl),known]
      rfl
    | none =>
      have unknown : has lower (.text own) = false := by rw [has,← field?,found]; rfl
      rw [insert_unknown found,unknown]
      simp

section Places

theorem at_merge (dictionary : IsDictionary upper) :
    (Value.map (merge lower upper)).at? (name :: way) =
      (laid (field? lower name) (field? upper name)).bind (Value.at? · way) := by
  rw [at_cons,field_merge dictionary]

-- A tip of the upper layer covers what is below it.
theorem at_upper (nested : (Value.map upper).IsNested) (single : v.entries? = none)
    (held : (Value.map upper).at? way = some v) : (Value.map (merge lower upper)).at? way = some v := by
  induction way generalizing lower upper with
  | nil => cases held; cases single
  | cons name way ih =>
    rw [at_cons] at held
    obtain ⟨w,found,held⟩ := Option.bind_eq_some_iff.mp held
    rw [at_merge nested.dictionary]
    rcases laid_cases (field? lower name) (field? upper name) with ⟨absent,_⟩ | ⟨l,u,_,given,shown⟩ | ⟨u,given,shown,_⟩
    · rw [found] at absent; cases absent
    · rw [found] at given
      cases given
      rw [shown]
      exact ih (nested.found found) held
    · rw [found] at given
      cases given
      rw [shown]
      exact held

-- The lower layer shows where the upper one has nothing and does not cover it from further up.
theorem at_lower (nested : (Value.map upper).IsNested) (held : (Value.map lower).at? way = some v)
    (free : (Value.map upper).at? way = none)
    (uncovered : ∀ front w, front <+: way → front ≠ way → (Value.map upper).at? front = some w → w.entries?.isSome) :
    (Value.map (merge lower upper)).at? way = some v := by
  induction way generalizing lower upper with
  | nil => cases free
  | cons name way ih =>
    rw [at_cons] at held free
    obtain ⟨w,found,held⟩ := Option.bind_eq_some_iff.mp held
    rw [at_merge nested.dictionary]
    rcases laid_cases (field? lower name) (field? upper name) with ⟨_,shown⟩ | ⟨l,u,under,given,shown⟩ |
      ⟨u,given,shown,single_⟩
    · rw [shown,found]
      exact held
    · rw [found] at under
      cases under
      rw [given] at free
      rw [shown]
      refine ih (nested.found given) held free fun front w within proper stands => ?_
      refine uncovered (name :: front) w ((List.prefix_cons_inj name).mpr within) (by simpa using proper) ?_
      rw [at_cons,given]
      exact stands
    · rw [given,Option.bind_some] at free
      cases way with
      | nil => cases free
      | cons next way =>
        have mapping : u.entries?.isSome := uncovered [name] u (by simp) (by simp) (by rw [at_cons,given]; rfl)
        rcases single_ with none_ | none_
        · rw [found,Option.bind_some] at none_
          rw [at_tip none_] at held
          cases held
        · rw [none_] at mapping
          cases mapping

-- Nothing stands in the merged mapping but where one of the layers has something.
theorem at_either (nested : (Value.map upper).IsNested)
    (held : ((Value.map (merge lower upper)).at? way).isSome) :
    ((Value.map lower).at? way).isSome ∨ ((Value.map upper).at? way).isSome := by
  induction way generalizing lower upper with
  | nil => exact .inl rfl
  | cons name way ih =>
    rw [at_merge nested.dictionary] at held
    rw [at_cons,at_cons]
    rcases laid_cases (field? lower name) (field? upper name) with ⟨_,shown⟩ | ⟨l,u,under,given,shown⟩ |
      ⟨u,given,shown,_⟩
    · rw [shown] at held
      exact .inl held
    · rw [shown] at held
      rw [under,given]
      exact ih (nested.found given) held
    · rw [shown] at held
      rw [given]
      exact .inr held

-- As for the two layers, so for the mappings in them.
theorem keys_at (nested : (Value.map upper).IsNested)
    (held : (Value.map (merge lower upper)).at? way = some (.map entries)) :
    entries.map Prod.fst = ((Value.map lower).branchAt way).map Prod.fst ++
      (((Value.map upper).branchAt way).map Prod.fst).filter fun key => !has ((Value.map lower).branchAt way) key := by
  induction way generalizing lower upper with
  | nil => cases held; exact merge_keys nested.dictionary lower
  | cons name way ih =>
    rw [at_merge nested.dictionary] at held
    rw [Value.branch_cons,Value.branch_cons]
    rcases laid_cases (field? lower name) (field? upper name) with ⟨absent,shown⟩ | ⟨l,u,under,given,shown⟩ |
      ⟨u,given,shown,single⟩
    · rw [shown] at held
      obtain ⟨w,found,held⟩ := Option.bind_eq_some_iff.mp held
      rw [found,absent]
      simp [branchAt,held,Value.entries?]
    · rw [shown] at held
      rw [under,given]
      exact ih (nested.found given) held
    · rw [shown,Option.bind_some] at held
      have bare : ((field? lower name).map (branchAt · way)).getD [] = [] := by
        rcases single with none_ | none_
        · cases found : field? lower name with
          | none => rfl
          | some w =>
            rw [found] at none_
            exact Value.branch_tip none_
        · cases way with
          | nil => cases held; cases none_
          | cons next way => rw [at_tip none_] at held; cases held
      have own : u.branchAt way = entries := by simp [branchAt,held,Value.entries?]
      rw [bare,given,Option.map_some,Option.getD_some,own]
      exact (List.filter_eq_self.mpr fun _ _ => rfl).symm

end Places

section Laws

theorem merge_bottom (dictionary : IsDictionary upper) : merge [] upper = upper := by
  have empty : IsDictionary [] := ⟨by simp,.nil⟩
  refine (merge_dictionary empty dictionary.named).ext dictionary ?_ fun name => ?_
  · rw [merge_keys dictionary]
    exact List.filter_eq_self.mpr fun _ _ => rfl
  · rw [field_merge dictionary,field_nil]
    rcases laid_cases none (field? upper name) with ⟨absent,shown⟩ | ⟨l,u,under,_⟩ | ⟨v,given,shown,_⟩
    · rw [shown,absent]
    · cases under
    · rw [shown,given]

theorem has_merge (dictionary : IsDictionary upper) (lower : Entries) (name : Text) :
    has (merge lower upper) (.text name) = (has lower (.text name) || has upper (.text name)) := by
  unfold has
  rw [← field?,field_merge dictionary,← field?,← field?,laid]
  cases field? upper name <;> simp

-- The keys of a mapping are known in it.
theorem has_key (dictionary : IsDictionary entries) {key : Value} (member : key ∈ entries.map Prod.fst) :
    has entries key = true := by
  obtain ⟨⟨_,v⟩,inside,rfl⟩ := List.mem_map.mp member
  obtain ⟨name,rfl,found⟩ := dictionary.member.mp inside
  rw [has,← field?,found]
  rfl

-- The induction is on the upper layer: what lies under a name in it is laid twice over the same.
theorem merge_absorbed (below : (Value.map lower).IsNested) (nested : (Value.map upper).IsNested) :
    merge (merge lower upper) upper = merge lower upper := by
  generalize same : Value.map upper = v at nested
  induction nested generalizing lower upper with
  | tip single => cases same; cases single
  | @branch entries dictionary inner ih =>
    cases same
    have merged := merge_dictionary below.dictionary dictionary.named
    refine (merge_dictionary merged dictionary.named).ext merged ?_ fun name => ?_
    · have known : (entries.map Prod.fst).filter (fun key => !has (merge lower entries) key) = [] := by
        refine List.filter_eq_nil_iff.mpr fun key member => ?_
        obtain ⟨entry,inside,rfl⟩ := List.mem_map.mp member
        obtain ⟨name,named⟩ := dictionary.named entry inside
        have own := has_key dictionary member
        rw [named] at own ⊢
        rw [has_merge dictionary,own]
        simp
      rw [merge_keys dictionary (merge lower entries),known,List.append_nil]
    · rw [field_merge dictionary (merge lower entries),field_merge dictionary]
      rcases laid_cases (field? lower name) (field? entries name) with ⟨absent,shown⟩ | ⟨l,u,under,given,shown⟩ |
        ⟨v,given,shown,_⟩
      · rw [shown,absent]
        rfl
      · have again := ih _ (found_entry given) (below.found under) rfl
        rw [shown,given]
        exact congrArg (some ∘ Value.map) again
      · rw [shown,given]
        rcases place_cases (some v) with ⟨u,mapping⟩ | single
        · cases mapping
          have empty : (Value.map []).IsNested := .branch ⟨by simp,.nil⟩ (by simp)
          have again := ih _ (found_entry given) empty rfl
          rw [merge_bottom (inner _ (found_entry given)).dictionary] at again
          rw [laid_mappings,again]
        · exact laid_covered (.inr single)

section Brackets

variable {middle : Entries}

-- Three mappings are uncut where those under each of their names are.
theorem uncut_exact : IsUncut (.map lower) (.map middle) (.map upper) ↔
    ∀ name l v u, field? lower name = some (.map l) → field? middle name = some v →
      field? upper name = some (.map u) → IsUncut (.map l) v (.map u) := by
  constructor
  · intro uncut name l v u under between atop way w below above held
    refine uncut (name :: way) w ?_ ?_ ?_
    · rwa [at_cons,under]
    · rwa [at_cons,atop]
    · rwa [at_cons,between]
  · intro inner way v below above held
    cases way with
    | nil => cases held; rfl
    | cons name way =>
      rw [at_cons] at below above held
      obtain ⟨w,between,held⟩ := Option.bind_eq_some_iff.mp held
      -- What a way leads on from to a mapping is a mapping.
      have mapping {x : Option Value} (reached : ((x.bind (Value.at? · way)).bind Value.entries?).isSome) :
          ∃ inside, x = some (.map inside) := by
        rcases place_cases x with found | single
        · exact found
        · cases x with
          | none => cases reached
          | some t =>
            cases way with
            | nil => rw [Option.bind_some,Value.at_nil,single] at reached; cases reached
            | cons next way => rw [Option.bind_some,at_tip single] at reached; cases reached
      obtain ⟨l,under⟩ := mapping below
      obtain ⟨u,atop⟩ := mapping above
      rw [under] at below
      rw [atop] at above
      exact inner name l w u under between atop way v below above held

-- Brackets are moved at one place as they are in the mappings there.
theorem laid_assoc
    (merged : ∀ l m u, x = some (.map l) → y = some (.map m) → z = some (.map u) →
      merge (merge l m) u = merge l (merge m u))
    (uncut : ∀ l v u, x = some (.map l) → y = some v → z = some (.map u) → v.entries?.isSome) :
    laid (laid x y) z = laid x (laid y z) := by
  cases z with
  | none => rfl
  | some w =>
    rcases place_cases (some w) with ⟨u,mapping⟩ | tip
    · cases mapping
      rcases place_cases y with ⟨m,rfl⟩ | single
      · rcases place_cases x with ⟨l,rfl⟩ | bare
        · exact congrArg (some ∘ Value.map) (merged l m u rfl rfl rfl)
        · rw [laid_covered (.inl bare),laid_mappings,laid_covered (.inl bare)]
      · rw [laid_covered (.inl single)]
        cases y with
        | none => rfl
        | some t =>
          rw [laid_covered (.inr single),laid_covered (.inl single)]
          rcases place_cases x with ⟨l,rfl⟩ | bare
          · have inside := uncut l t u rfl rfl rfl
            rw [show t.entries? = none from single] at inside
            cases inside
          · rw [laid_covered (.inl bare)]
    · rw [laid_covered (.inr tip),laid_covered (.inr tip),laid_covered (.inr tip)]

-- Again the induction is on the upper layer, and the case of a name is that of its mappings.
theorem merge_assoc (below : (Value.map lower).IsNested) (between : (Value.map middle).IsNested)
    (above : (Value.map upper).IsNested) (uncut : IsUncut (.map lower) (.map middle) (.map upper)) :
    merge (merge lower middle) upper = merge lower (merge middle upper) := by
  generalize same : Value.map upper = v at above
  induction above generalizing lower middle upper with
  | tip single => cases same; cases single
  | @branch entries dictionary inner ih =>
    cases same
    have left := merge_dictionary below.dictionary between.dictionary.named
    have right := merge_dictionary between.dictionary dictionary.named
    refine (merge_dictionary left dictionary.named).ext (merge_dictionary below.dictionary right.named) ?_ fun name => ?_
    · rw [merge_keys dictionary,merge_keys between.dictionary,merge_keys right,merge_keys dictionary,
        List.filter_append,List.filter_filter,List.append_assoc]
      refine congrArg _ (congrArg _ (List.filter_congr fun key member => ?_))
      obtain ⟨entry,inside,rfl⟩ := List.mem_map.mp member
      obtain ⟨name,named⟩ := dictionary.named entry inside
      rw [named,has_merge between.dictionary,Bool.not_or]
    · rw [field_merge dictionary,field_merge between.dictionary,field_merge right,field_merge dictionary]
      have under := uncut_exact.mp uncut name
      refine laid_assoc ?_ ?_
      · intro l m u lowerHas middleHas upperHas
        exact ih _ (found_entry upperHas) (below.found lowerHas) (between.found middleHas)
          (under l _ u lowerHas middleHas upperHas) rfl
      · intro l v u lowerHas middleHas upperHas
        exact under l v u lowerHas middleHas upperHas [] v rfl rfl rfl

end Brackets

end Laws

-- What a merged mapping holds, place by place, how its keys are ordered, and how layers add up.
theorem merge_layered {a b c : Entries} (lower : (Value.map a).IsNested) (middle : (Value.map b).IsNested)
    (upper : (Value.map c).IsNested) :
    (∀ way v, v.entries? = none → (Value.map b).at? way = some v → (Value.map (merge a b)).at? way = some v) ∧
    (∀ way v, v.entries? = none → (Value.map a).at? way = some v → (Value.map b).at? way = none →
      (∀ front w, front <+: way → front ≠ way → (Value.map b).at? front = some w → w.entries?.isSome) →
      (Value.map (merge a b)).at? way = some v) ∧
    (∀ way, ((Value.map (merge a b)).at? way).isSome →
      ((Value.map a).at? way).isSome ∨ ((Value.map b).at? way).isSome) ∧
    (∀ way entries, (Value.map (merge a b)).at? way = some (.map entries) →
      entries.map Prod.fst = ((Value.map a).branchAt way).map Prod.fst ++
        (((Value.map b).branchAt way).map Prod.fst).filter fun key => !has ((Value.map a).branchAt way) key) ∧
    merge (merge a b) b = merge a b ∧ merge a [] = a ∧ merge [] b = b ∧
    (IsUncut (.map a) (.map b) (.map c) → merge (merge a b) c = merge a (merge b c)) := by
  refine ⟨?_,?_,?_,?_,merge_absorbed lower middle,merge_nil a,merge_bottom middle.dictionary,
    merge_assoc lower middle upper⟩
  · intro way v single held
    exact at_upper middle single held
  · intro way v _ held free uncovered
    exact at_lower middle held free uncovered
  · intro way held
    exact at_either middle held
  · intro way entries held
    exact keys_at middle held

section Letters

-- The style of all letters, of those of one office, and of one letter.
def houseStyle : Entries :=
  [(.text "page",.map [(.text "size",.text "A4"),(.text "margin",.int 20)]),(.text "font",.text "serif")]

def officeStyle : Entries :=
  [(.text "font",.map [(.text "name",.text "sans")]),(.text "page",.map [(.text "margin",.int 25)])]

def letterStyle : Entries :=
  [(.text "page",.map [(.text "size",.text "A5")]),(.text "greeting",.bool true)]

theorem house_nested : (Value.map houseStyle).IsNested := by
  refine .branch ⟨by simp [houseStyle],by simp [houseStyle,AreDistinct,Value.same_text]⟩ ?_
  simp only [houseStyle,List.forall_mem_cons]
  refine ⟨.branch ⟨by simp,by simp [AreDistinct,Value.same_text]⟩ ?_,.tip rfl,by simp⟩
  simp only [List.forall_mem_cons]
  exact ⟨.tip rfl,.tip rfl,by simp⟩

theorem office_nested : (Value.map officeStyle).IsNested := by
  refine .branch ⟨by simp [officeStyle],by simp [officeStyle,AreDistinct,Value.same_text]⟩ ?_
  simp only [officeStyle,List.forall_mem_cons]
  refine ⟨.branch ⟨by simp,by simp [AreDistinct]⟩ ?_,.branch ⟨by simp,by simp [AreDistinct]⟩ ?_,by simp⟩
  · exact List.forall_mem_cons.mpr ⟨.tip rfl,by simp⟩
  · exact List.forall_mem_cons.mpr ⟨.tip rfl,by simp⟩

theorem letter_nested : (Value.map letterStyle).IsNested := by
  refine .branch ⟨by simp [letterStyle],by simp [letterStyle,AreDistinct,Value.same_text]⟩ ?_
  simp only [letterStyle,List.forall_mem_cons]
  refine ⟨.branch ⟨by simp,by simp [AreDistinct]⟩ ?_,.tip rfl,by simp⟩
  exact List.forall_mem_cons.mpr ⟨.tip rfl,by simp⟩

-- The house and the letter share the mapping of the page alone, where the office has one as well.
theorem styles_uncut : IsUncut (.map houseStyle) (.map officeStyle) (.map letterStyle) := by
  refine uncut_exact.mpr fun name l v u under between atop => ?_
  have page : name = "page" := by
    simp only [letterStyle,field_cons,field_nil] at atop
    split at atop
    · rename_i same
      exact same.symm
    · split at atop <;> cases atop
  subst page
  obtain rfl : Value.map [(.text "margin",.int 25)] = v := by simpa [officeStyle,field_cons] using between
  obtain rfl : [(Value.text "size",Value.text "A5")] = u := by simpa [letterStyle,field_cons] using atop
  refine uncut_exact.mpr fun name l v u under between atop => ?_
  simp only [field_cons,field_nil] at atop
  split at atop <;> cases atop

theorem styles_layered : (Value.map houseStyle).IsNested ∧ (Value.map officeStyle).IsNested ∧
    (Value.map letterStyle).IsNested ∧ IsUncut (.map houseStyle) (.map officeStyle) (.map letterStyle) ∧
    (Value.map (merge houseStyle officeStyle)).at? ["page","margin"] = some (.int 25) ∧
    (Value.map (merge houseStyle officeStyle)).at? ["page","size"] = some (.text "A4") ∧
    merge (merge houseStyle officeStyle) letterStyle = merge houseStyle (merge officeStyle letterStyle) := by
  obtain ⟨covers,shows,_,_,_,_,_,brackets⟩ := merge_layered house_nested office_nested letter_nested
  have margin : (Value.map officeStyle).at? ["page","margin"] = some (.int 25) := by
    simp [Value.at?,Value.entries?,officeStyle,field_cons]
  have size : (Value.map houseStyle).at? ["page","size"] = some (.text "A4") := by
    simp [Value.at?,Value.entries?,houseStyle,field_cons]
  have free : (Value.map officeStyle).at? ["page","size"] = none := by
    simp [Value.at?,Value.entries?,officeStyle,field_cons,field_nil]
  refine ⟨house_nested,office_nested,letter_nested,styles_uncut,covers _ _ rfl margin,?_,brackets styles_uncut⟩
  refine shows _ _ rfl size free fun front w within proper held => ?_
  rcases List.prefix_cons_iff.mp within with rfl | ⟨front,rfl,behind⟩
  · cases held; rfl
  · rcases List.prefix_cons_iff.mp behind with rfl | ⟨rest,rfl,last⟩
    · obtain rfl : Value.map [(.text "margin",.int 25)] = w := by
        simpa [Value.at?,Value.entries?,officeStyle,field_cons] using held
      rfl
    · rw [List.prefix_nil.mp last] at proper
      exact absurd rfl proper

end Letters

end Entries

end TemplateSchema
