import Mathlib.Data.List.Permutation
import TemplateSchema.Proofs.Json.Data
import TemplateSchema.Proofs.Value.Layers
import TemplateSchema.Settings
/-!
Variables that override settings. Where a section is a mapping, a variable that is set wins in it and
leaves every other setting as the files give it. A section that the last file to give it gives as
null stays null when the layers are merged, though the readers of settings take it for an empty one:
its variable then has nothing to be written into, and loading fails.
-/
set_option autoImplicit false
namespace TemplateSchema.Settings

open Entries (field? insert merge laid field_insert field_merge)

-- A setting of a section that a variable overrides, with the variable's value.
structure Override where
  section_ : String
  key : String
  value : String

namespace Override

-- The way to the setting.
def way (o : Override) : List Text :=
  [o.section_,o.key]

-- The section with the setting written, and settings with that section.
def inside (o : Override) (settings : Entries) : Entries :=
  insert ((Value.map settings).branchAt [o.section_]) (.text o.key) (.text o.value)

def written (settings : Entries) (o : Override) : Entries :=
  insert settings (.text o.section_) (.map (o.inside settings))

end Override

-- Those of the variables that are set and not empty, in the order in which they are written.
def overrides (s : Surroundings) : List Override :=
  ((s.setVariable? "DOCSCHEMA_LOG_LEVEL").map (⟨loggingKey,levelKey,·⟩)).toList ++
    ((s.setVariable? "DOCSCHEMA_MODEL_NAME").map (⟨compilerKey,modelNameKey,·⟩)).toList

-- One override after the other.
def overridden : List Override → Entries → Except Failure Entries
  | [], settings => .ok settings
  | o :: rest, settings => override settings o.section_ o.key (.text o.value) >>= overridden rest

def AreApart (os : List Override) : Prop :=
  os.Pairwise fun o p => o.section_ ≠ p.section_

-- A section that is given, but not as a mapping.
def IsBlocked (settings : Entries) (name : String) : Prop :=
  ∃ v, field? settings name = some v ∧ v.entries? = none

-- The sections of a file's settings are mappings or null, where they are given.
def HasSections (settings : Entries) : Prop :=
  ∀ name ∈ [loggingKey,compilerKey], ∀ v, field? settings name = some v → v = .null ∨ ∃ entries, v = .map entries

-- The last file that gives a section gives it as null.
def IsNulled (user project : Entries) (name : String) : Prop :=
  field? project name = some .null ∨ field? project name = none ∧ field? user name = some .null

-- All layers but the variables.
def layered (user project : Entries) : Entries :=
  merge (merge builtIn user) project

variable {s : Surroundings} {user project settings : Entries} {name : String} {o : Override} {os : List Override}

section Writing

theorem override_written (free : ¬ IsBlocked settings o.section_) :
    override settings o.section_ o.key (.text o.value) = .ok (o.written settings) := by
  unfold override Override.written Override.inside
  rw [Value.branch_cons]
  cases found : field? settings o.section_ with
  | none => rfl
  | some v =>
    cases v with
    | map entries => rfl
    | _ => exact absurd ⟨_,found,rfl⟩ free

theorem override_blocked (blocked : IsBlocked settings o.section_) :
    override settings o.section_ o.key (.text o.value) = .error .unsupported := by
  obtain ⟨v,found,single⟩ := blocked
  rw [override,found]
  cases v <;> first | rfl | cases single

theorem field_written : field? (o.written settings) name =
    if o.section_ = name then some (.map (o.inside settings)) else field? settings name := by
  rw [Override.written,field_insert]
  simp only [Text.whole.injEq]

theorem blocked_written (apart : o.section_ ≠ name) : IsBlocked (o.written settings) name ↔ IsBlocked settings name := by
  unfold IsBlocked
  rw [field_written,if_neg apart]

theorem inside_written {p : Override} (apart : o.section_ ≠ p.section_) :
    p.inside (o.written settings) = p.inside settings := by
  unfold Override.inside
  rw [Value.branch_cons,Value.branch_cons,field_written,if_neg apart]

-- The overrides of different sections do not meet: each finds its section as it was at first.
theorem overridden_written (apart : AreApart os) (free : ∀ o ∈ os, ¬ IsBlocked settings o.section_) :
    overridden os settings = .ok (os.foldl Override.written settings) := by
  induction os generalizing settings with
  | nil => rfl
  | cons o rest ih =>
    obtain ⟨own,others⟩ := List.forall_mem_cons.mp free
    obtain ⟨away,apart⟩ := List.pairwise_cons.mp apart
    have later : ∀ p ∈ rest, ¬ IsBlocked (o.written settings) p.section_ := fun p member blocked =>
      others p member ((blocked_written (away p member)).mp blocked)
    rw [overridden,override_written own]
    exact ih apart later

theorem overridden_blocked (apart : AreApart os) (blocked : ∃ o ∈ os, IsBlocked settings o.section_) :
    overridden os settings = .error .unsupported := by
  induction os generalizing settings with
  | nil => obtain ⟨_,member,_⟩ := blocked; cases member
  | cons o rest ih =>
    obtain ⟨away,apart⟩ := List.pairwise_cons.mp apart
    rw [overridden]
    by_cases own : IsBlocked settings o.section_
    · rw [override_blocked own]
      rfl
    · obtain ⟨p,member,other⟩ := blocked
      rcases List.mem_cons.mp member with rfl | member
      · exact absurd other own
      · rw [override_written own]
        exact ih apart ⟨p,member,(blocked_written (away p member)).mpr other⟩

theorem written_elsewhere {name : Text} (away : ∀ o ∈ os, o.section_ ≠ name) :
    field? (os.foldl Override.written settings) name = field? settings name := by
  induction os generalizing settings with
  | nil => rfl
  | cons o rest ih =>
    obtain ⟨own,others⟩ := List.forall_mem_cons.mp away
    rw [List.foldl_cons,ih others,Override.written,field_insert,if_neg own]

theorem written_section (apart : AreApart os) (member : o ∈ os) :
    field? (os.foldl Override.written settings) o.section_ = some (.map (o.inside settings)) := by
  induction os generalizing settings with
  | nil => cases member
  | cons p rest ih =>
    obtain ⟨away,apart⟩ := List.pairwise_cons.mp apart
    rw [List.foldl_cons]
    rcases List.mem_cons.mp member with rfl | member
    · rw [written_elsewhere fun q inside same => away q inside (Text.whole.inj same).symm,field_written,if_pos rfl]
    · rw [ih apart member,inside_written (away o member)]

theorem written_names (known : ∀ o ∈ os, (field? settings o.section_).isSome) :
    (os.foldl Override.written settings).map Prod.fst = settings.map Prod.fst := by
  induction os generalizing settings with
  | nil => rfl
  | cons o rest ih =>
    obtain ⟨own,others⟩ := List.forall_mem_cons.mp known
    have later : ∀ p ∈ rest, (field? (o.written settings) p.section_).isSome := by
      intro p member
      rw [field_written]
      split
      · rfl
      · exact others p member
    rw [List.foldl_cons,ih later]
    exact Entries.insert_names own

-- A way that does not run along that of an override, in either direction, leads where it led before.
theorem written_aside (apart : AreApart os) (free : ∀ o ∈ os, ¬ IsBlocked settings o.section_) {way : List Text}
    (aside : ∀ o ∈ os, ¬ way <+: o.way ∧ ¬ o.way <+: way) :
    (Value.map (os.foldl Override.written settings)).at? way = (Value.map settings).at? way := by
  cases way with
  | nil =>
    cases os with
    | nil => rfl
    | cons o rest => exact absurd List.nil_prefix (aside o List.mem_cons_self).1
  | cons name way =>
    rw [Value.at_cons,Value.at_cons]
    by_cases own : ∃ o ∈ os, Text.whole o.section_ = name
    · obtain ⟨o,member,rfl⟩ := own
      obtain ⟨within,beyond⟩ := aside o member
      rw [written_section apart member,Option.bind_some]
      cases way with
      | nil => exact absurd ⟨[o.key],rfl⟩ within
      | cons key way =>
        have different : Text.whole o.key ≠ key := by
          rintro rfl
          exact beyond ⟨way,rfl⟩
        rw [Value.at_cons,Override.inside,field_insert,if_neg different,Value.branch_cons]
        cases found : field? settings o.section_ with
        | none => rfl
        | some v =>
          cases v with
          | map entries => rfl
          | _ => exact absurd ⟨_,found,rfl⟩ (free o member)
    · rw [written_elsewhere fun o member same => own ⟨o,member,same⟩]

end Writing

section Layers

theorem overrides_apart (s : Surroundings) : AreApart (overrides s) := by
  unfold AreApart overrides
  cases s.setVariable? "DOCSCHEMA_LOG_LEVEL" <;> cases s.setVariable? "DOCSCHEMA_MODEL_NAME" <;>
    simp [loggingKey,compilerKey]

theorem override_section (member : o ∈ overrides s) : o.section_ ∈ [loggingKey,compilerKey] := by
  unfold overrides at member
  rcases List.mem_append.mp member with log | model
  · obtain ⟨v,_,rfl⟩ := Option.map_eq_some_iff.mp (Option.mem_toList.mp log)
    exact List.mem_cons_self
  · obtain ⟨v,_,rfl⟩ := Option.map_eq_some_iff.mp (Option.mem_toList.mp model)
    exact List.mem_cons_of_mem _ List.mem_cons_self

theorem builtIn_section (known : name ∈ [loggingKey,compilerKey]) :
    ∃ entries, field? builtIn name = some (.map entries) := by
  simp only [List.mem_cons,List.not_mem_nil,or_false] at known
  rcases known with rfl | rfl
  · exact ⟨[(.text levelKey,.text "WARNING")],by simp [builtIn,Entries.field_cons]⟩
  · exact ⟨[(.text modelNameKey,.text defaultModelName)],by
      simp [builtIn,Entries.field_cons,loggingKey,compilerKey]⟩

-- A file that is read, or missing, gives each key once.
theorem layer_dictionary {path : FilePath} (read : layer s path = .ok (.map settings)) :
    Entries.IsDictionary settings := by
  unfold layer at read
  split at read
  · obtain ⟨text,_,read⟩ := Success.bind_exact.mp read
    have json := Json.read_json (Success.mapError_exact.mp read)
    exact ⟨fun entry member => (Value.entriesAreJson_exact.mp json.2 entry member).1,json.1⟩
  · cases read
    exact ⟨by simp,.nil⟩

theorem section_layered (userOnce : Entries.IsDictionary user) (projectOnce : Entries.IsDictionary project)
    (name : String) : field? (layered user project) name =
      laid (laid (field? builtIn name) (field? user name)) (field? project name) := by
  rw [layered,field_merge projectOnce,field_merge userOnce]

-- The sections are there in all layers together, and blocked by null alone.
theorem section_known (userOnce : Entries.IsDictionary user) (projectOnce : Entries.IsDictionary project)
    (known : name ∈ [loggingKey,compilerKey]) : (field? (layered user project) name).isSome := by
  obtain ⟨base,own⟩ := builtIn_section known
  rw [section_layered userOnce projectOnce,own]
  cases field? project name <;> cases field? user name <;> rfl

theorem blocked_exact (userOnce : Entries.IsDictionary user) (projectOnce : Entries.IsDictionary project)
    (userSections : HasSections user) (projectSections : HasSections project)
    (known : name ∈ [loggingKey,compilerKey]) :
    IsBlocked (layered user project) name ↔ IsNulled user project name := by
  obtain ⟨base,own⟩ := builtIn_section known
  have shapes {layer : Entries} (sections : HasSections layer) :
      field? layer name = none ∨ field? layer name = some .null ∨ ∃ entries, field? layer name = some (.map entries) := by
    cases found : field? layer name with
    | none => exact .inl rfl
    | some v =>
      rcases sections name known v found with rfl | ⟨entries,rfl⟩
      · exact .inr (.inl rfl)
      · exact .inr (.inr ⟨entries,rfl⟩)
  unfold IsBlocked IsNulled
  rw [section_layered userOnce projectOnce,own]
  rcases shapes userSections with above | above | ⟨u,above⟩ <;>
    rcases shapes projectSections with last | last | ⟨p,last⟩ <;>
    simp [above,last,laid,Entries.mergeValue,Value.entries?]

theorem overridden_append (os ps : List Override) (settings : Entries) :
    overridden (os ++ ps) settings = overridden os settings >>= overridden ps := by
  induction os generalizing settings with
  | nil => rfl
  | cons o rest ih =>
    rw [List.cons_append,overridden,overridden,bind_assoc]
    exact congrArg _ (funext ih)

theorem overrideBy_overridden (s : Surroundings) (variable_ section_ key : String) (settings : Entries) :
    overrideBy s variable_ section_ key settings =
      overridden ((s.setVariable? variable_).map (⟨section_,key,·⟩)).toList settings := by
  unfold overrideBy
  cases s.setVariable? variable_ with
  | none => rfl
  | some v => exact (bind_pure _).symm

-- Loading is layering, and then overriding.
theorem load_layers (userRead : layer s (userPath s) = .ok (.map user))
    (projectRead : layer s (projectPath s) = .ok (.map project)) :
    load s = overridden (overrides s) (layered user project) := by
  rw [load,userRead,projectRead,overrides,overridden_append,← overrideBy_overridden]
  exact congrArg _ (funext (overrideBy_overridden s "DOCSCHEMA_MODEL_NAME" compilerKey modelNameKey))

end Layers

-- When loading fails, and what it gives otherwise.
theorem load_overridden (userRead : layer s (userPath s) = .ok (.map user))
    (projectRead : layer s (projectPath s) = .ok (.map project)) (userSections : HasSections user)
    (projectSections : HasSections project) :
    (∀ f, load s = .error f ↔ f = .unsupported ∧ ∃ o ∈ overrides s, IsNulled user project o.section_) ∧
    ∀ settings, load s = .ok settings →
      (∀ o ∈ overrides s, (Value.map settings).at? o.way = some (.text o.value)) ∧
      (∀ way, (∀ o ∈ overrides s, ¬ way <+: o.way ∧ ¬ o.way <+: way) →
        (Value.map settings).at? way = (Value.map (layered user project)).at? way) ∧
      settings.map Prod.fst = (layered user project).map Prod.fst ∧
      ∀ o ∈ overrides s, (Value.map settings).at? [o.section_] = some (.map (o.inside (layered user project))) := by
  have userOnce := layer_dictionary userRead
  have projectOnce := layer_dictionary projectRead
  have apart := overrides_apart s
  have nulled {o : Override} (member : o ∈ overrides s) :=
    blocked_exact userOnce projectOnce userSections projectSections (override_section member)
  rw [load_layers userRead projectRead]
  by_cases blocked : ∃ o ∈ overrides s, IsBlocked (layered user project) o.section_
  · rw [overridden_blocked apart blocked]
    obtain ⟨o,member,given⟩ := blocked
    refine ⟨fun f => ?_,by rintro _ ⟨⟩⟩
    constructor
    · rintro ⟨⟩
      exact ⟨rfl,o,member,(nulled member).mp given⟩
    · rintro ⟨rfl,_⟩
      rfl
  · have free : ∀ o ∈ overrides s, ¬ IsBlocked (layered user project) o.section_ := fun o member given =>
      blocked ⟨o,member,given⟩
    rw [overridden_written apart free]
    constructor
    · intro f
      constructor
      · rintro ⟨⟩
      · rintro ⟨_,o,member,given⟩
        exact absurd ((nulled member).mpr given) (free o member)
    rintro _ ⟨⟩
    have sections {o : Override} (member : o ∈ overrides s) :
        field? ((overrides s).foldl Override.written (layered user project)) o.section_ =
          some (.map (o.inside (layered user project))) := written_section apart member
    refine ⟨?_,fun way aside => written_aside apart free aside,?_,?_⟩
    · intro o member
      rw [Override.way,Value.at_cons,sections member,Option.bind_some,Value.at_cons,Override.inside,field_insert,
        if_pos rfl]
      rfl
    · exact written_names fun o member => section_known userOnce projectOnce (override_section member)
    · intro o member
      rw [Value.at_cons,sections member]
      rfl

section Desk

-- A desk with a file of its own, and a variable for the level.
def desk (project : String) : Surroundings where
  directory := FilePath.read "/desk"
  home := FilePath.read "/home"
  files := Files.inDirectory ["desk"] [("docschema.json",project.toList.map (·.toNat.toUInt8))]
  assignments := [("DOCSCHEMA_LOG_LEVEL","DEBUG")]
  now := .midnight ⟨2021,5,17,by decide⟩ none

def loudText : String := "\x7b\"logging\": \x7b\"level\": \"ERROR\", \"color\": true\x7d\x7d"

def loud : Entries :=
  [(.text loggingKey,.map [(.text levelKey,.text "ERROR"),(.text "color",.bool true)])]

def emptiedText : String := "\x7b\"logging\": null\x7d"

def emptied : Entries :=
  [(.text loggingKey,.null)]

theorem desk_user (project : String) : layer (desk project) (userPath (desk project)) = .ok (.map []) := by
  rfl

-- The file is there, and what it says is what its text says.
theorem project_read {project : String} {v : Value} (there : (desk project).exists_ (projectPath (desk project)) = true)
    (text : (desk project).text (projectPath (desk project)) = .ok project) (read : Json.read project = .ok v) :
    layer (desk project) (projectPath (desk project)) = .ok v := by
  rw [layer,if_pos there]
  exact Success.bind_exact.mpr ⟨project,text,Success.mapError_exact.mpr read⟩

theorem loud_read : layer (desk loudText) (projectPath (desk loudText)) = .ok (.map loud) :=
  project_read rfl rfl (by cbv)

theorem emptied_read : layer (desk emptiedText) (projectPath (desk emptiedText)) = .ok (.map emptied) :=
  project_read rfl rfl (by cbv)

theorem none_sections : HasSections [] := by
  intro name _ v found
  cases found

theorem loud_sections : HasSections loud := by
  intro name _ v found
  rw [loud,Entries.field_cons,Entries.field_nil] at found
  split at found <;> cases found
  exact .inr ⟨_,rfl⟩

theorem emptied_sections : HasSections emptied := by
  intro name _ v found
  rw [emptied,Entries.field_cons,Entries.field_nil] at found
  split at found <;> cases found
  exact .inl rfl

theorem desk_overrides (project : String) : overrides (desk project) = [⟨loggingKey,levelKey,"DEBUG"⟩] := by
  rfl

theorem loud_overridden : layer (desk loudText) (userPath (desk loudText)) = .ok (.map []) ∧
    layer (desk loudText) (projectPath (desk loudText)) = .ok (.map loud) ∧ HasSections [] ∧ HasSections loud ∧
    ∃ settings, load (desk loudText) = .ok settings ∧
      (Value.map settings).at? [loggingKey,levelKey] = some (.text "DEBUG") ∧
      (Value.map settings).at? [loggingKey,"color"] = some (.bool true) := by
  obtain ⟨fails,gives⟩ := load_overridden (desk_user loudText) loud_read none_sections loud_sections
  refine ⟨desk_user loudText,loud_read,none_sections,loud_sections,?_⟩
  cases loaded : load (desk loudText) with
  | error f =>
    obtain ⟨_,o,member,nulled⟩ := (fails f).mp loaded
    rw [desk_overrides,List.mem_singleton] at member
    subst member
    simp [IsNulled,loud,Entries.field_cons] at nulled
  | ok settings =>
    obtain ⟨wins,stays,_⟩ := gives settings loaded
    refine ⟨settings,rfl,wins ⟨loggingKey,levelKey,"DEBUG"⟩ (by simp [desk_overrides]),?_⟩
    rw [stays _ fun o member => ?_]
    · rw [Value.at_cons,section_layered (layer_dictionary (desk_user loudText)) (layer_dictionary loud_read)]
      simp [loud,builtIn,laid,Entries.mergeValue,Value.at?,Value.entries?,Entries.field_cons,Entries.field_nil,
        Entries.merge_cons,Entries.merge_nil,field_insert]
    · rw [desk_overrides,List.mem_singleton] at member
      subst member
      decide

-- A variable that is set does not win over a section that is null: nothing is loaded.
theorem emptied_fails : layer (desk emptiedText) (userPath (desk emptiedText)) = .ok (.map []) ∧
    layer (desk emptiedText) (projectPath (desk emptiedText)) = .ok (.map emptied) ∧ HasSections [] ∧
    HasSections emptied ∧ (desk emptiedText).setVariable? "DOCSCHEMA_LOG_LEVEL" = some "DEBUG" ∧
    load (desk emptiedText) = .error .unsupported := by
  refine ⟨desk_user emptiedText,emptied_read,none_sections,emptied_sections,rfl,?_⟩
  have nulled : IsNulled [] emptied loggingKey := .inl (by simp [emptied,Entries.field_cons])
  have blocked := (blocked_exact (layer_dictionary (desk_user emptiedText)) (layer_dictionary emptied_read)
    none_sections emptied_sections List.mem_cons_self).mpr nulled
  rw [load_layers (desk_user emptiedText) emptied_read]
  exact overridden_blocked (overrides_apart _) ⟨_,by rw [desk_overrides]; exact List.mem_cons_self,blocked⟩

end Desk

end TemplateSchema.Settings
