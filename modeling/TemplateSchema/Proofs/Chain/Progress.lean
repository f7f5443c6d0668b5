import TemplateSchema.Proofs.Chain.Sound
import TemplateSchema.Proofs.Chain.Walk
/-!
Walks by position read what the readers of the tokens that are left read. A routine that is entered goes
over a token before it enters another one for that place, so a walk enters no more than two routines for
each token that it goes over, and for the end of the tokens if it fails.
-/
set_option autoImplicit false
namespace TemplateSchema

namespace Traced

variable {α β γ : Type}

-- A run with another look at what it gave.
def view (f : α → β) (x : Traced α) : Traced β :=
  ⟨x.outcome.map f,x.records⟩

theorem bind_view (x : Traced α) (next : α → Traced β) (f : β → γ) :
    (x >>= next).view f = x >>= fun a => (next a).view f := by
  obtain ⟨outcome,records⟩ := x
  cases outcome <;> rfl

theorem view_view (x : Traced α) (f : α → β) (g : β → γ) : (x.view f).view g = x.view fun a => g (f a) := by
  obtain ⟨outcome,records⟩ := x
  cases outcome <;> rfl

theorem view_exact (x : Traced α) (f : α → β) : x >>= (fun a => pure (f a)) = x.view f := by
  obtain ⟨outcome,records⟩ := x
  cases outcome with
  | error e => rfl
  | ok a => exact congrArg (Traced.mk _) (List.append_nil _)

end Traced

namespace Chain

-- What can go wrong with tokens: a fault of the expression, or an integer that is too long in it.
def Blames (ts : List Token) (f : Failure) : Prop :=
  (∃ fault, f = .chain fault) ∨
    ∃ t ∈ ts, Lexeme.IsLong t.lexeme ∧ f = .digits (Numeral.digitCount t.text)

theorem Blames.grow {ts us : List Token} {f : Failure} (blames : Blames ts f) (inside : ts ⊆ us) : Blames us f := by
  rcases blames with fault | ⟨t,member,long⟩
  · exact .inl fault
  · exact .inr ⟨t,inside member,long⟩

section Following

variable {α β γ δ : Type} {all : List Token}

-- A trip from a position ends like a reading of the tokens that are left there: `rest` tells what was
-- read and what is left then. Of two routines for each token and for the end, some are not used up.
structure Agrees (all : List Token) (spare : Nat) (rest : γ → β × List Token) (p : Nat) (ts : List Token)
    (trip : Trip β) (y : Traced γ) : Prop where
  records : trip.records = y.records
  fails : ∀ f, y.outcome = .error f →
    trip.outcome = .error f ∧ Blames ts f ∧ trip.entered + spare ≤ 2 * ts.length + 2
  reads : ∀ c, y.outcome = .ok c → ∃ q, trip.outcome = .ok ((rest c).1,q) ∧ all.drop q = (rest c).2 ∧
    ts.length + p = (rest c).2.length + q ∧ 2 * p + trip.entered + spare ≤ 2 * q

def Follows (all : List Token) (spare : Nat) (rest : γ → β × List Token) (p : Nat) (ts : List Token)
    (walked : Option (Trip β)) (y : Traced γ) : Prop :=
  ∃ trip, walked = some trip ∧ Agrees all spare rest p ts trip y

variable {spare less : Nat} {rest : γ → β × List Token} {p : Nat} {ts : List Token} {walked : Option (Trip β)}
  {y : Traced γ}

theorem Follows.weaken (follows : Follows all spare rest p ts walked y) (fewer : less ≤ spare) :
    Follows all less rest p ts walked y := by
  obtain ⟨trip,same,records,fails,reads⟩ := follows
  refine ⟨trip,same,records,?_,?_⟩
  · intro f failed
    obtain ⟨outcome,blames,bound⟩ := fails f failed
    exact ⟨outcome,blames,by omega⟩
  · intro c read
    obtain ⟨q,outcome,there,length,bound⟩ := reads c read
    exact ⟨q,outcome,there,length,by omega⟩

theorem follows_view : Follows all spare id p ts walked (y.view rest) ↔ Follows all spare rest p ts walked y := by
  constructor
  · rintro ⟨trip,same,records,fails,reads⟩
    refine ⟨trip,same,records,?_,?_⟩
    · intro f failed
      exact fails f (by rw [Traced.view,failed]; rfl)
    · intro c read
      exact reads (rest c) (by rw [Traced.view,read]; rfl)
  · rintro ⟨trip,same,records,fails,reads⟩
    refine ⟨trip,same,records,?_,?_⟩
    · intro f failed
      cases outcome : y.outcome with
      | error e =>
        rw [Traced.view,outcome] at failed
        cases failed
        exact fails _ outcome
      | ok c =>
        rw [Traced.view,outcome] at failed
        cases failed
    · intro b read
      obtain ⟨c,outcome,rfl⟩ := Success.map_exact.mp read
      exact reads c outcome

theorem Walk.bind_at {x : Walk α} {next : α → Walk β} {a : α} {q : Nat} (read : x p = some ⟨0,.ok (a,q),[]⟩) :
    (x >>= next) p = next a q := by
  change Walk.andThen x next p = _
  rw [Walk.andThen,read]
  cases there : next a q <;> simp [there]

theorem Walk.bind_failing {x : Walk α} {next : α → Walk β} {fault : Fault} (failed : x p = Walk.failing fault p) :
    (x >>= next) p = Walk.failing fault p := by
  change Walk.andThen x next p = _
  rw [Walk.andThen,failed]
  rfl

theorem follows_pure {b : β} {c : γ} (here : all.drop p = ts) (same : rest c = (b,ts)) :
    Follows all 0 rest p ts ((pure b : Walk β) p) (pure c) := by
  refine ⟨_,rfl,rfl,nofun,?_⟩
  rintro _ ⟨⟩
  exact ⟨p,by rw [same],by rw [same]; exact here,by rw [same],by simp⟩

theorem next_left {t : Token} {left : List Token} (here : all.drop p = t :: left) : all.drop (p + 1) = left := by
  rw [← List.tail_drop,here,List.tail_cons]

theorem follows_ahead {t : Token} {left : List Token} (whole : ts = t :: left)
    (follows : Follows all spare rest (p + 1) left walked y) : Follows all (spare + 2) rest p ts walked y := by
  obtain ⟨trip,same,records,fails,reads⟩ := follows
  subst whole
  refine ⟨trip,same,records,?_,?_⟩
  · intro f failed
    obtain ⟨outcome,blames,bound⟩ := fails f failed
    exact ⟨outcome,blames.grow (List.subset_cons_self t left),by rw [List.length_cons]; omega⟩
  · intro c read
    obtain ⟨q,outcome,there,length,bound⟩ := reads c read
    exact ⟨q,outcome,there,by rw [List.length_cons]; omega,by omega⟩

theorem follows_past {t : Token} {left : List Token} (whole : ts = t :: left)
    (follows : Follows all 0 rest (p + 1) left walked y) : Follows all 0 rest p ts walked y :=
  (follows_ahead whole follows).weaken (Nat.zero_le 2)

-- The value of a token by itself.
theorem follows_token {t : Token} {left : List Token} {b : β} {c : γ} (here : all.drop p = t :: left)
    (few : spare ≤ 2) (same : rest c = (b,left)) :
    Follows all spare rest p (t :: left) ((do Walk.skip; pure b : Walk β) p) (pure c) := by
  rw [Walk.bind_at (x := Walk.skip) rfl]
  exact (follows_ahead rfl (follows_pure (next_left here) same)).weaken few

theorem follows_failed {f : Failure} (blames : Blames ts f) (few : spare ≤ 2) :
    Follows all spare rest p ts (some ⟨0,.error f,[]⟩) (Traced.failed f) := by
  refine ⟨_,rfl,rfl,?_,nofun⟩
  rintro _ ⟨⟩
  exact ⟨rfl,blames,by simp only; omega⟩

theorem follows_failing (fault : Fault) (q : Nat) (few : spare ≤ 2) :
    Follows all spare rest p ts (Walk.failing fault q) (fail fault) :=
  follows_failed (.inl ⟨fault,rfl⟩) few

theorem follows_still {y : Traced β} (here : all.drop p = ts) (blames : ∀ f, y.outcome = .error f → Blames ts f) :
    Follows all 0 (fun b => (b,ts)) p ts (Walk.still y p) y := by
  refine ⟨_,rfl,rfl,?_,?_⟩
  · intro f failed
    exact ⟨by simp [failed,Except.map],blames f failed,by simp⟩
  · intro b read
    exact ⟨p,by simp [read,Except.map],here,rfl,by simp⟩

theorem follows_enter {x : Walk β} (follows : Follows all (spare + 1) rest p ts (x p) y) :
    Follows all spare rest p ts (Walk.enter x p) y := by
  obtain ⟨trip,same,records,fails,reads⟩ := follows
  refine ⟨{ trip with entered := trip.entered + 1 },by rw [Walk.enter,same]; rfl,records,?_,?_⟩
  · intro f failed
    obtain ⟨outcome,blames,bound⟩ := fails f failed
    exact ⟨outcome,blames,by simp only; omega⟩
  · intro c read
    obtain ⟨q,outcome,there,length,bound⟩ := reads c read
    exact ⟨q,outcome,there,length,by simp only; omega⟩

theorem follows_bind {see : δ → α × List Token} {x : Walk α} {z : Traced δ} {next : α → Walk β} {k : δ → Traced γ}
    (here : all.drop p = ts) (front : Follows all spare see p ts (x p) z)
    (later : ∀ c q, all.drop q = (see c).2 → ts.length + p = (see c).2.length + q → 2 * p + spare ≤ 2 * q →
      Follows all 0 rest q (see c).2 (next (see c).1 q) (k c)) :
    Follows all spare rest p ts ((x >>= next) p) (z >>= k) := by
  obtain ⟨trip,same,records,fails,reads⟩ := front
  change Follows all spare rest p ts (Walk.andThen x next p) (Traced.andThen z k)
  unfold Walk.andThen Traced.andThen
  rw [same]
  cases outcome : z.outcome with
  | error f =>
    obtain ⟨failed,blames,bound⟩ := fails f outcome
    simp only [failed]
    refine ⟨_,rfl,records,?_,nofun⟩
    rintro _ ⟨⟩
    exact ⟨rfl,blames,bound⟩
  | ok c =>
    obtain ⟨q,read,there,length,bound⟩ := reads c outcome
    obtain ⟨second,again,others,failsThere,readsThere⟩ := later c q there length (by omega)
    simp only [read,again]
    refine ⟨_,rfl,by simp only [records,others],?_,?_⟩
    · intro f failed
      obtain ⟨failure,blames,less⟩ := failsThere f failed
      refine ⟨failure,blames.grow ?_,by simp only; omega⟩
      -- What the second part blames is among the tokens that the first one left.
      rw [← there,← here]
      have further : q = p + (q - p) := by omega
      rw [further,← List.drop_drop]
      exact List.drop_subset _ _
    · intro b result
      obtain ⟨r,reached,end_,lengths,less⟩ := readsThere b result
      exact ⟨r,reached,end_,by omega,by simp only; omega⟩

-- A look at what was read is no step.
theorem follows_bind_done {see : δ → β × List Token} {z : Traced δ} {g : δ → γ}
    (follows : Follows all spare see p ts walked z) (same : ∀ d, rest (g d) = see d) :
    Follows all spare rest p ts walked (z >>= fun d => pure (g d)) := by
  obtain rfl : see = fun d => rest (g d) := funext fun d => (same d).symm
  rw [← follows_view] at follows ⊢
  rw [Traced.view_exact,Traced.view_view]
  exact follows

section Marks

variable {t : Token} {left : List Token} {m : Char}

theorem peek_at (here : all.drop p = ts) : Walk.peek all p = some ⟨0,.ok (ts.head?,p),[]⟩ := by
  rw [Walk.peek,← here,List.head?_drop]

theorem next_some (here : all.drop p = t :: left) : Walk.next all p = some ⟨0,.ok (t,p + 1),[]⟩ := by
  rw [Walk.next,Walk.bind_at (peek_at here)]
  rfl

theorem next_none (here : all.drop p = []) : Walk.next all p = Walk.failing .endOfText p := by
  rw [Walk.next,Walk.bind_at (peek_at here)]
  rfl

theorem accept_none (here : all.drop p = ts) (refused : accept? m ts = none) :
    Walk.accept all m p = some ⟨0,.ok (false,p),[]⟩ := by
  rw [Walk.accept,Walk.bind_at (peek_at here)]
  cases ts with
  | nil => rfl
  | cons t left =>
    have isNot : ¬ t.isMark m = true := by
      intro isMark
      simp [accept?,isMark] at refused
    simp only [List.head?_cons,isNot]
    rfl

theorem accept_some {left : Shorter ts} (here : all.drop p = ts) (accepted : accept? m ts = some left) :
    Walk.accept all m p = some ⟨0,.ok (true,p + 1),[]⟩ ∧ ∃ t, ts = t :: left.val := by
  rw [Walk.accept,Walk.bind_at (peek_at here)]
  cases ts with
  | nil => cases accepted
  | cons t others =>
    by_cases isMark : t.isMark m = true
    · simp only [accept?,isMark,if_true] at accepted
      cases accepted
      simp only [List.head?_cons,isMark,if_true]
      exact ⟨rfl,t,rfl⟩
    · simp only [accept?,isMark] at accepted
      cases accepted

theorem follows_require (here : all.drop p = ts) (few : spare ≤ 2) :
    Follows all spare (fun left : Shorter ts => ((),left.val)) p ts (Walk.require all m p) (expect m ts) := by
  cases ts with
  | nil =>
    rw [Walk.require,Walk.bind_failing (next_none here)]
    exact follows_failing _ _ few
  | cons t left =>
    rw [Walk.require,Walk.bind_at (next_some here),expect]
    by_cases isMark : t.isMark m = true
    · simp only [isMark,if_true]
      refine (follows_ahead rfl ?_).weaken few
      exact follows_pure (next_left here) rfl
    · simp only [isMark]
      exact follows_failing _ _ few

end Marks

theorem follows_quoting (source : List Char) {x : Walk β} (follows : Follows all spare rest p ts (x p) y)
    (here : all.drop p = ts) :
    Follows all spare
      (fun c => (((rest c).1,Walk.textOf source (ts.take (ts.length - (rest c).2.length))),(rest c).2)) p ts
      (Walk.quoting all source x p) y := by
  obtain ⟨trip,same,records,fails,reads⟩ := follows
  refine ⟨_,by rw [Walk.quoting,same]; rfl,records,?_,?_⟩
  · intro f failed
    obtain ⟨outcome,blames,bound⟩ := fails f failed
    exact ⟨by simp only [outcome]; rfl,blames,bound⟩
  · intro c read
    obtain ⟨q,outcome,there,length,bound⟩ := reads c read
    have used : q - p = ts.length - (rest c).2.length := by omega
    exact ⟨q,by simp only [outcome,Except.map,here,used],there,length,bound⟩

end Following

section Tasks

def Entry.of (source : List Char) (m : Member) : Entry :=
  ⟨m.name,m.value,piece source m.start m.stop⟩

theorem valueOf_entries (source : List Char) (found : List Member) :
    valueOf (found.map (Entry.of source)) = objectOf found := by
  rw [valueOf,objectOf,List.map_map]
  rfl

variable (source : List Char)

theorem textOf_taken {ts left : List Token} (fewer : left.length < ts.length) :
    Walk.textOf source (ts.take (ts.length - left.length)) =
      piece source ((ts.head?.map Token.start).getD 0) (lastStop ts left) := by
  rw [Walk.textOf,lastStop,List.head?_take,if_neg (by omega)]

-- What the readers read of the tokens that are left, with what they leave.
def reading : (task : Task) → List Token → Traced (task.Result × List Token)
  | .enter .value, ts => (value ts).view fun r => (r.1,r.2.val)
  | .enter .object, ts => do
    let inner ← expect '\x7b' ts
    (members inner.val).view fun r => (r.1.map (Entry.of source),r.2.val)
  | .enter .array, ts => do
    let inner ← expect '[' ts
    (items ']' inner.val).view fun r => (r.1,r.2.val)
  | .enter .call, ts => (call ts).view fun r => (r.1,r.2.val)
  | .enter .chain, ts => do
    let point ← expect 'z' ts
    let start ← expect '.' point.val
    let (first,behind) ← call start.val
    let declaration ← Traced.ofExcept ((build first.1 first.2).mapError Failure.chain)
    (calls declaration behind.val).view fun r => (r.1,r.2.val)
  | .items closing, ts => (items closing ts).view fun r => (r.1,r.2.val)
  | .entries, ts => (members ts).view fun r => (r.1.map (Entry.of source),r.2.val)
  | .modifiers declaration, ts => (calls declaration ts).view fun r => (r.1,r.2.val)

-- How much deeper than three levels for each token a task may go, and what it leaves of the routines
-- that may be entered.
def Task.reserve : Task → Nat
  | .enter .value => 2
  | .enter _ => 1
  | _ => 3

def Task.spare : Task → Nat
  | .enter .value => 0
  | .enter _ => 1
  | _ => 0

def Reaches (all : List Token) (depth : Nat) : Prop :=
  ∀ (task : Task) (p : Nat) (ts : List Token), all.drop p = ts → 3 * ts.length + task.reserve ≤ depth →
    Follows all task.spare id p ts (walk source all depth task p) (reading source task ts)

theorem expect_mark {t : Token} {left : List Token} {m : Char} (isMark : t.isMark m = true) :
    expect m (t :: left) = pure ⟨left,Nat.lt_succ_self _⟩ := by
  simp only [expect,isMark,if_true]

theorem number_blames {t : Token} {left : List Token} {f : Failure} (isNumber : t.kind = .number)
    (failed : numberValue t.text = .error f) : Blames (t :: left) f := by
  unfold numberValue at failed
  split at failed
  · cases failed
  · rename_i whole
    split at failed
    · rename_i long
      cases failed
      exact .inr ⟨t,List.mem_cons_self,⟨isNumber,Bool.eq_false_iff.mpr whole,long⟩,rfl⟩
    · cases failed

theorem build_blames {ts : List Token} {name : String} {arguments : List Value} {f : Failure}
    (failed : (Traced.ofExcept ((build name arguments).mapError Failure.chain)).outcome = .error f) : Blames ts f := by
  rw [Traced.ofExcept_outcome] at failed
  obtain ⟨fault,_,rfl⟩ := Success.mapError_fails.mp failed
  exact .inl ⟨fault,rfl⟩

theorem apply_blames {ts : List Token} {declaration : Entries} {name : String} {arguments : List Value} {f : Failure}
    (failed : (apply declaration name arguments).outcome = .error f) : Blames ts f := by
  unfold apply at failed
  simp only at failed
  split at failed
  · cases failed
    exact .inl ⟨_,rfl⟩
  · cases failed
  · cases failed

section Steps

variable {source} {all : List Token} {depth p : Nat} {ts : List Token}

-- A value that is a chain is read as the routine for chains reads it.
theorem value_chain {t : Token} {left : List Token} (kind : t.kind = .name) (text : t.text = ['z']) :
    (value (t :: left)).view (fun r => (r.1,r.2.val)) =
      (reading source (.enter .chain) (t :: left)).view fun r => (.chain r.1,r.2) := by
  have isMark : t.isMark 'z' = true := by simp [Token.isMark,kind,text]
  rw [reading,expect_mark isMark,value.eq_def]
  simp only [kind,text]
  change _ = Traced.view _ (Traced.done _ >>= _)
  rw [Traced.done_bind,if_neg (by decide),if_neg (by decide),if_neg (by decide),if_pos trivial]
  simp only [Traced.bind_view]
  refine congrArg _ (funext fun start => ?_)
  refine congrArg _ (funext fun ⟨first,behind⟩ => ?_)
  refine congrArg _ (funext fun declaration => ?_)
  rw [Traced.view_view]
  exact Traced.view_exact _ _

variable (reaches : Reaches source all depth) (here : all.drop p = ts)

include reaches here

theorem value_chain_step {t : Token} {left : List Token} (kind : t.kind = .name) (text : t.text = ['z'])
    (whole : ts = t :: left) (room : 3 * ts.length + 2 ≤ depth + 1) :
    Follows all 0 id p ts (walk source all (depth + 1) (.enter .value) p) (reading source (.enter .value) ts) := by
  subst whole
  have inner := reaches (.enter .chain) p (t :: left) here (by simp only [Task.reserve]; omega)
  rw [reading,value_chain kind text,← Traced.view_exact,walk]
  refine follows_enter ?_
  rw [Walk.bind_at (peek_at here)]
  simp only [List.head?_cons,kind,text]
  rw [if_neg (by decide),if_neg (by decide),if_neg (by decide),if_pos trivial]
  refine follows_bind here inner ?_
  rintro ⟨declaration,behind⟩ q there _ _
  exact follows_pure there rfl

theorem value_step (room : 3 * ts.length + 2 ≤ depth + 1) :
    Follows all 0 id p ts (walk source all (depth + 1) (.enter .value) p) (reading source (.enter .value) ts) := by
  -- The routine for chains reads the first mark again, the reader of values has it behind itself.
  by_cases chain : ∃ t left, t.kind = .name ∧ t.text = ['z'] ∧ ts = t :: left
  · obtain ⟨t,left,kind,text,whole⟩ := chain
    exact value_chain_step reaches here kind text whole room
  rw [reading,follows_view,walk,value.eq_def]
  refine follows_enter ?_
  rw [Walk.bind_at (peek_at here)]
  cases ts with
  | nil => exact follows_failing _ _ (by decide)
  | cons t left =>
    simp only [List.head?_cons]
    cases kind : t.kind with
    | string => exact follows_token here (by decide) rfl
    | number =>
      simp only
      rw [Walk.bind_at (x := Walk.skip) rfl]
      cases read : numberValue t.text with
      | error f => exact follows_failed (number_blames kind read) (by decide)
      | ok v => exact follows_token here (by decide) rfl
    | mark =>
      simp only
      split
      · rename_i text
        have isMark : t.isMark '\x7b' = true := by simp [Token.isMark,kind,text]
        have inner := reaches (.enter .object) p (t :: left) here (by simp only [Task.reserve]; omega)
        rw [reading,expect_mark isMark] at inner
        refine follows_bind here (follows_view.mp inner) ?_
        rintro ⟨found,behind⟩ q there _ _
        exact follows_pure there (by rw [valueOf_entries])
      · split
        · rename_i text
          have isMark : t.isMark '[' = true := by simp [Token.isMark,kind,text]
          have inner := reaches (.enter .array) p (t :: left) here (by simp only [Task.reserve]; omega)
          rw [reading,expect_mark isMark] at inner
          refine follows_bind here (follows_view.mp inner) ?_
          rintro ⟨found,behind⟩ q there _ _
          exact follows_pure there rfl
        · exact follows_failing _ _ (by decide)
    | name =>
      simp only
      split
      · exact follows_token here (by decide) rfl
      · split
        · exact follows_token here (by decide) rfl
        · split
          · exact follows_token here (by decide) rfl
          · split
            · rename_i text
              exact absurd ⟨t,left,kind,text,rfl⟩ chain
            · exact follows_failing _ _ (by decide)

theorem object_step (room : 3 * ts.length + 1 ≤ depth + 1) :
    Follows all 1 id p ts (walk source all (depth + 1) (.enter .object) p) (reading source (.enter .object) ts) := by
  rw [reading,walk]
  refine follows_enter ?_
  refine follows_bind here (follows_require here (Nat.le_refl 2)) ?_
  intro inner q there _ _
  have less := inner.property
  exact reaches .entries q inner.val there (by simp only [Task.reserve]; omega)

theorem array_step (room : 3 * ts.length + 1 ≤ depth + 1) :
    Follows all 1 id p ts (walk source all (depth + 1) (.enter .array) p) (reading source (.enter .array) ts) := by
  rw [reading,walk]
  refine follows_enter ?_
  refine follows_bind here (follows_require here (Nat.le_refl 2)) ?_
  intro inner q there _ _
  have less := inner.property
  exact reaches (.items ']') q inner.val there (by simp only [Task.reserve]; omega)

theorem call_step (room : 3 * ts.length + 1 ≤ depth + 1) :
    Follows all 1 id p ts (walk source all (depth + 1) (.enter .call) p) (reading source (.enter .call) ts) := by
  rw [reading,follows_view,walk,call.eq_def]
  refine follows_enter ?_
  cases ts with
  | nil =>
    rw [Walk.bind_failing (next_none here)]
    exact follows_failing _ _ (by decide)
  | cons t left =>
    rw [Walk.bind_at (next_some here)]
    simp only
    split
    · refine follows_ahead rfl ?_
      refine follows_bind (next_left here) (follows_require (next_left here) (Nat.zero_le 2)) ?_
      intro inner q there _ _
      have less := inner.property
      have arguments := reaches (.items ')') q inner.val there (by simp only [Task.reserve,List.length_cons] at *; omega)
      refine follows_bind there (follows_view.mp arguments) ?_
      rintro ⟨found,behind⟩ r end_ _ _
      exact follows_pure end_ rfl
    · exact follows_failing _ _ (by decide)

theorem chain_step (room : 3 * ts.length + 1 ≤ depth + 1) :
    Follows all 1 id p ts (walk source all (depth + 1) (.enter .chain) p) (reading source (.enter .chain) ts) := by
  rw [reading,walk]
  refine follows_enter ?_
  refine follows_bind here (follows_require here (Nat.le_refl 2)) ?_
  intro point q atPoint _ _
  have less := point.property
  refine follows_bind atPoint (follows_require atPoint (Nat.zero_le 2)) ?_
  intro start r there _ _
  have fewer := start.property
  have called := reaches (.enter .call) r start.val there (by simp only [Task.reserve]; omega)
  refine follows_bind there ((follows_view.mp called).weaken (Nat.zero_le _)) ?_
  rintro ⟨first,behind⟩ s before _ _
  have fewest := behind.property
  refine follows_bind before (follows_still before fun f => build_blames) ?_
  intro declaration u same _ _
  exact reaches (.modifiers declaration) u behind.val same (by simp only [Task.reserve]; omega)

theorem items_step {closing : Char} (room : 3 * ts.length + 3 ≤ depth + 1) :
    Follows all 0 id p ts (walk source all (depth + 1) (.items closing) p) (reading source (.items closing) ts) := by
  rw [reading,follows_view,walk,items.eq_def]
  cases closed : accept? closing ts with
  | some left =>
    obtain ⟨accepted,t,whole⟩ := accept_some here closed
    rw [Walk.bind_at accepted]
    refine follows_past whole ?_
    exact follows_pure (next_left (here.trans whole)) rfl
  | none =>
    rw [Walk.bind_at (accept_none here closed)]
    refine follows_bind here (follows_view.mp (reaches (.enter .value) p ts here (by simp only [Task.reserve]; omega))) ?_
    rintro ⟨v,behind⟩ q there _ _
    have less := behind.property
    simp only
    cases separated : accept? ',' behind.val with
    | some next =>
      obtain ⟨accepted,t,whole⟩ := accept_some there separated
      rw [Walk.bind_at accepted]
      have fewer := next.property
      have comma := next_left (there.trans whole)
      refine follows_past whole ?_
      have others := reaches (.items closing) (q + 1) next.val comma (by simp only [Task.reserve]; omega)
      refine follows_bind comma (follows_view.mp others) ?_
      rintro ⟨found,left⟩ r end_ _ _
      exact follows_pure end_ rfl
    | none =>
      rw [Walk.bind_at (accept_none there separated)]
      refine follows_bind there (follows_require there (Nat.zero_le 2)) ?_
      intro left r end_ _ _
      exact follows_pure end_ rfl

theorem modifiers_step {declaration : Entries} (room : 3 * ts.length + 3 ≤ depth + 1) :
    Follows all 0 id p ts (walk source all (depth + 1) (.modifiers declaration) p)
      (reading source (.modifiers declaration) ts) := by
  rw [reading,follows_view,walk,calls.eq_def]
  cases accepted : accept? '.' ts with
  | none =>
    rw [Walk.bind_at (accept_none here accepted)]
    exact follows_pure here rfl
  | some start =>
    obtain ⟨point,t,whole⟩ := accept_some here accepted
    rw [Walk.bind_at point]
    have less := start.property
    have there := next_left (here.trans whole)
    refine follows_past whole ?_
    have called := reaches (.enter .call) (p + 1) start.val there (by simp only [Task.reserve]; omega)
    refine follows_bind there ((follows_view.mp called).weaken (Nat.zero_le _)) ?_
    rintro ⟨next,behind⟩ q before _ _
    have fewer := behind.property
    refine follows_bind before (follows_still before fun f => apply_blames) ?_
    intro changed r same _ _
    have others := reaches (.modifiers changed) r behind.val same (by simp only [Task.reserve]; omega)
    exact follows_bind_done (follows_view.mp others) fun _ => rfl

theorem entries_step (room : 3 * ts.length + 3 ≤ depth + 1) :
    Follows all 0 id p ts (walk source all (depth + 1) .entries p) (reading source .entries ts) := by
  rw [reading,follows_view,walk,members.eq_def]
  cases closed : accept? '\x7d' ts with
  | some left =>
    obtain ⟨accepted,t,whole⟩ := accept_some here closed
    rw [Walk.bind_at accepted]
    refine follows_past whole ?_
    exact follows_pure (next_left (here.trans whole)) rfl
  | none =>
    rw [Walk.bind_at (accept_none here closed),if_neg Bool.false_ne_true]
    cases ts with
    | nil =>
      rw [Walk.bind_failing (next_none here)]
      exact follows_failing _ _ (by decide)
    | cons t left =>
      rw [Walk.bind_at (next_some here)]
      simp only
      split
      · refine follows_past rfl ?_
        refine follows_bind (next_left here) (follows_require (next_left here) (Nat.zero_le 2)) ?_
        intro start q there _ _
        have less := start.property
        have inner := reaches (.enter .value) q start.val there (by simp only [Task.reserve,List.length_cons] at *; omega)
        refine follows_bind there (follows_quoting source (follows_view.mp inner) there) ?_
        rintro ⟨v,behind⟩ r before _ _
        have fewer := behind.property
        simp only [textOf_taken source fewer]
        cases separated : accept? ',' behind.val with
        | some next =>
          obtain ⟨accepted,u,whole⟩ := accept_some before separated
          rw [Walk.bind_at accepted]
          have fewest := next.property
          have comma := next_left (before.trans whole)
          refine follows_past whole ?_
          have others := reaches .entries (r + 1) next.val comma (by simp only [Task.reserve,List.length_cons] at *; omega)
          refine follows_bind comma (follows_view.mp others) ?_
          rintro ⟨found,behind⟩ u end_ _ _
          exact follows_pure end_ rfl
        | none =>
          rw [Walk.bind_at (accept_none before separated)]
          refine follows_bind before (follows_require before (Nat.zero_le 2)) ?_
          intro left u end_ _ _
          exact follows_pure end_ rfl
      · exact follows_failing _ _ (by decide)

end Steps

-- By induction on the depth: each step goes one level down, and each token is worth three of them.
theorem reaches (source : List Char) (all : List Token) (depth : Nat) : Reaches source all depth := by
  induction depth with
  | zero =>
    intro task p ts _ room
    cases task with
    | enter routine => cases routine <;> cases room
    | items closing => cases room
    | entries => cases room
    | modifiers declaration => cases room
  | succ depth ih =>
    intro task p ts here room
    cases task with
    | enter routine =>
      cases routine with
      | value => exact value_step ih here room
      | object => exact object_step ih here room
      | array => exact array_step ih here room
      | call => exact call_step ih here room
      | chain => exact chain_step ih here room
    | items closing => exact items_step ih here room
    | entries => exact entries_step ih here room
    | modifiers declaration => exact modifiers_step ih here room

theorem enter_counted {α : Type} {x : Walk α} {p : Nat} {trip : Trip α} (walked : Walk.enter x p = some trip) :
    1 ≤ trip.entered := by
  obtain ⟨inner,_,rfl⟩ := Option.map_eq_some_iff.mp walked
  exact Nat.le_add_left 1 _

theorem routine_counted {source : List Char} {all : List Token} {depth p : Nat} {r : Routine} {trip : Trip r.Result}
    (walked : walk source all depth (.enter r) p = some trip) : 1 ≤ trip.entered := by
  cases depth with
  | zero => cases (walk_nothing _ _ _ _).symm.trans walked
  | succ depth =>
    cases r with
    | value => exact enter_counted walked
    | object => exact enter_counted walked
    | array => exact enter_counted walked
    | call => exact enter_counted walked
    | chain => exact enter_counted walked

end Tasks

end Chain

end TemplateSchema
