import TemplateSchema.CommandLine.Commands
import TemplateSchema.Proofs.Document.Settled
import TemplateSchema.Proofs.Settings.Overrides
import TemplateSchema.Proofs.Shape.Compiled
/-!
How the validation of a file ends. What cannot be read as a mapping is reported, but for some scalars
whose tag fails in a way that is not caught. What can be read is judged, and the judgement is printed
unless it has to spell out an integer that is too long for that, or half of a surrogate pair.
-/
set_option autoImplicit false
namespace TemplateSchema.CommandLine

open Document (suffixes complaints coerced)

-- Faults of a scalar that are no fault of the file's, as far as the command knows.
inductive IsUncaught : Failure → Prop where
  | notBoolean (text : List Char) (word : Text) : IsUncaught (.yaml (.flaw text (.scalar (.notBoolean word))))
  | empty (text : List Char) : IsUncaught (.yaml (.flaw text (.scalar .empty)))
  | notTimestamp (text : List Char) : IsUncaught (.yaml (.flaw text (.scalar .notTimestamp)))
  | notText (text : List Char) : IsUncaught (.yaml (.flaw text (.scalar .notText)))
  | unitTooLarge (text : List Char) : IsUncaught (.yaml (.flaw text (.scalar .unitTooLarge)))
  | endless (text : List Char) : IsUncaught (.yaml (.flaw text (.scalar .endless)))
  | codeTooLarge (text : List Char) : IsUncaught (.yaml (.flaw text (.scalar .codeTooLarge)))

-- The ending of a path, by which the form of a file is known.
def ending (path : String) : String :=
  String.ofList ((FilePath.read path).suffix.toList.map Char.toLower)

-- The mapping that a file holds; one that holds nothing holds an empty one. Where it holds itself, it is
-- gone into for some rounds.
inductive Holds (s : Surroundings) (rounds : Nat) (path : String) : Entries → Prop where
  | nothing {text : String} (read : s.text (FilePath.read path) = .ok text)
      (null : Document.parse rounds (ending path) text = .ok .null) : Holds s rounds path []
  | mapping {text : String} {entries : Entries} (read : s.text (FilePath.read path) = .ok text)
      (map : Document.parse rounds (ending path) text = .ok (.map entries)) : Holds s rounds path entries

-- What there is to say about a document's fields once its dates are read.
def complaintsOf (fields : Schema) (entries : Entries) : List (Value × Document.Complaint) :=
  complaints fields (coerced fields entries)

def linesOf (fields : Schema) (entries : Entries) : List Text :=
  (complaintsOf fields entries).map fun (key,c) => key.label ++ ": " ++ c.message

-- What there is to say, where all of it can be printed.
structure CanSay (fields : Schema) (entries : Entries) (problems : List String) : Prop where
  short : ∀ row ∈ complaintsOf fields entries, row.2.isShort = true
  spelled : linesOf fields entries = problems.map Text.whole

-- Why some of it cannot be printed.
inductive CannotSay (fields : Schema) (entries : Entries) : Failure → Prop where
  | long (long : ∃ row ∈ complaintsOf fields entries, row.2.isShort = false) : CannotSay fields entries (.digits 0)
  | torn (short : ∀ row ∈ complaintsOf fields entries, row.2.isShort = true)
      (torn : ∃ line ∈ linesOf fields entries, line.isWhole = false) : CannotSay fields entries .unencodable

-- The report on a file that cannot be read.
def unread (path : String) (f : Failure) : Report :=
  ⟨1,[path ++ ": Failed to read values (" ++ f.message ++ ")"]⟩

-- The ways in which the command can end.
inductive Ends (s : Surroundings) (rounds : Nat) (path : String) (fields : Schema) :
    Except Failure Report → Prop where
  | unread {f : Failure} (failed : Document.load s rounds path = .error f) (caught : ¬ IsUncaught f) :
      Ends s rounds path fields (.ok (unread path f))
  | uncaught {f : Failure} (failed : Document.load s rounds path = .error f) (uncaught : IsUncaught f) :
      Ends s rounds path fields (.error f)
  | judged {entries : Entries} {problems : List String} (holds : Holds s rounds path entries)
      (canSay : CanSay fields entries problems) (more : List String) :
      Ends s rounds path fields (.ok (verdict path (problems ++ more)))
  | unwritten {entries : Entries} {f : Failure} (holds : Holds s rounds path entries)
      (cannotSay : CannotSay fields entries f) : Ends s rounds path fields (.error f)

variable {s : Surroundings} {args : List String} {rounds : Nat} {path : String} {fields : Schema}
  {entries : Entries} {problems : List String} {settings : Entries} {schema : Value} {isStrict : Bool} {f : Failure}

section Saying

theorem CanSay.only {others : List String} (canSay : CanSay fields entries problems)
    (other : CanSay fields entries others) : others = problems :=
  List.map_injective_iff.mpr (fun _ _ => Text.whole.inj) (other.spelled.symm.trans canSay.spelled)

theorem CannotSay.only {g : Failure} (cannotSay : CannotSay fields entries f)
    (other : CannotSay fields entries g) : g = f := by
  cases cannotSay with
  | long long =>
    cases other with
    | long => rfl
    | torn short =>
      obtain ⟨row,member,tooLong⟩ := long
      cases (short row member).symm.trans tooLong
  | torn short =>
    cases other with
    | long long =>
      obtain ⟨row,member,tooLong⟩ := long
      cases (short row member).symm.trans tooLong
    | torn => rfl

end Saying

section Reading

-- Of what a file says, a mapping is taken, and nothing for an empty one.
def mappingOf : Value → Except Failure Value
  | .null => .ok (.map [])
  | .map entries => .ok (.map entries)
  | _ => .error .notDocument

theorem load_known (known : ending path ∈ suffixes) : Document.load s rounds path =
    (s.text (FilePath.read path) >>= Document.parse rounds (ending path)) >>= mappingOf := by
  unfold Document.load
  rw [bind_assoc]
  exact if_pos (List.contains_iff_mem.mpr known)

theorem mapping_exact {v w : Value} :
    mappingOf v = .ok w ↔ ∃ entries, w = .map entries ∧ (v = .map entries ∨ v = .null ∧ entries = []) := by
  cases v <;> simp [mappingOf,eq_comm]

theorem load_holds (known : ending path ∈ suffixes) :
    Document.load s rounds path = .ok (.map entries) ↔ Holds s rounds path entries := by
  rw [load_known known]
  constructor
  · intro loaded
    obtain ⟨v,said,taken⟩ := Success.bind_exact.mp loaded
    obtain ⟨text,read,parsed⟩ := Success.bind_exact.mp said
    obtain ⟨_,⟨⟩,rfl | ⟨rfl,rfl⟩⟩ := mapping_exact.mp taken
    · exact .mapping read parsed
    · exact .nothing read parsed
  · intro holds
    cases holds with
    | nothing read null => exact Success.bind_exact.mpr ⟨.null,Success.bind_exact.mpr ⟨_,read,null⟩,rfl⟩
    | mapping read map => exact Success.bind_exact.mpr ⟨.map entries,Success.bind_exact.mpr ⟨_,read,map⟩,rfl⟩

theorem load_mapping (known : ending path ∈ suffixes) {v : Value} (loaded : Document.load s rounds path = .ok v) :
    ∃ entries, v = .map entries := by
  rw [load_known known] at loaded
  obtain ⟨_,_,taken⟩ := Success.bind_exact.mp loaded
  obtain ⟨entries,same,_⟩ := mapping_exact.mp taken
  exact ⟨entries,same⟩

-- A file holds one mapping at most, and none if there is something wrong with it.
theorem holds_once (known : ending path ∈ suffixes) {others : Entries} (holds : Holds s rounds path entries)
    (held : Holds s rounds path others) : others = entries := by
  cases ((load_holds known).mpr holds).symm.trans ((load_holds known).mpr held)
  rfl

theorem failed_nothing (known : ending path ∈ suffixes) (failed : Document.load s rounds path = .error f)
    (entries : Entries) : ¬ Holds s rounds path entries := by
  intro holds
  cases failed.symm.trans ((load_holds known).mpr holds)

end Reading

section Judging

variable (normal : (Normal.schema schema).outcome = .ok fields)

include normal

end Judging

section Running

open Settings (builtIn loggingKey levelKey compilerKey modelNameKey defaultModelName)

theorem setting_found {found : Entries} {name key : String}
    (given : Entries.field? settings name = some (.map found)) :
    Settings.setting (.map settings) name key = .ok (Entries.field found key) := by
  simp only [Settings.setting,Entries.field_found given]

-- Settings with a mapping for the records and the built-in name of the model.
structure AreUsable (settings : Entries) : Prop where
  logging : ∃ found, Entries.field? settings loggingKey = some (.map found)
  compiler : Entries.field? settings compilerKey = Entries.field? builtIn compilerKey

theorem AreUsable.named (usable : AreUsable settings) :
    Settings.modelName settings = .ok (.text defaultModelName) := by
  have given : Entries.field? settings compilerKey = some (.map [(.text modelNameKey,.text defaultModelName)]) := by
    rw [usable.compiler]
    cbv
  rw [Settings.modelName,setting_found given]
  cbv

variable {outcome : Except Failure Report}

theorem Ends.failed (ends : Ends s rounds path fields outcome) (known : ending path ∈ suffixes)
    (failed : Document.load s rounds path = .error f) :
    ¬ IsUncaught f ∧ outcome = .ok (CommandLine.unread path f) ∨ IsUncaught f ∧ outcome = .error f := by
  cases ends with
  | unread own caught =>
    cases own.symm.trans failed
    exact .inl ⟨caught,rfl⟩
  | uncaught own uncaught =>
    cases own.symm.trans failed
    exact .inr ⟨uncaught,rfl⟩
  | judged holds => exact absurd holds (failed_nothing known failed _)
  | unwritten holds => exact absurd holds (failed_nothing known failed _)

theorem Ends.held (ends : Ends s rounds path fields outcome) (known : ending path ∈ suffixes)
    (holds : Holds s rounds path entries) :
    (∃ problems more, CanSay fields entries problems ∧ outcome = .ok (verdict path (problems ++ more))) ∨
      ∃ f, CannotSay fields entries f ∧ outcome = .error f := by
  cases ends with
  | unread failed => exact absurd holds (failed_nothing known failed _)
  | uncaught failed => exact absurd holds (failed_nothing known failed _)
  | judged own canSay more =>
    cases holds_once known holds own
    exact .inl ⟨_,more,canSay,rfl⟩
  | unwritten own cannotSay =>
    cases holds_once known holds own
    exact .inr ⟨_,cannotSay,rfl⟩

theorem Ends.exitCode {report : Report} (ends : Ends s rounds path fields (.ok report)) :
    report.exitCode = 0 ∨ report.exitCode = 1 := by
  cases ends with
  | unread => exact .inr rfl
  | judged holds canSay more =>
    unfold verdict
    split
    · exact .inl rfl
    · exact .inr rfl

end Running

section Lists

-- Whether a reading stops at a word that is no truth value.
def stopsAt (word : Text) (read : Except Yaml.Fault Value) : Bool :=
  match read with
  | .error (.flaw _ (.scalar (.notBoolean found))) => found == word
  | _ => false

theorem stopped {word : Text} {read : Except Yaml.Fault Value} (stops : stopsAt word read = true) :
    ∃ text, read = .error (.flaw text (.scalar (.notBoolean word))) := by
  unfold stopsAt at stops
  split at stops
  · rename_i text found
    exact ⟨text,by rw [beq_iff_eq.mp stops]⟩
  · cases stops

end Lists

end TemplateSchema.CommandLine
