import TemplateSchema.Proofs.Chain.Scanning
/-!
Tokens by their places. They stand one behind another and hold what the text holds there, and what is
between them is blank. So a piece of the text from one token to another has the tokens of the text, as
far from its own start as they are from the start of the first of them.
-/
set_option autoImplicit false
namespace TemplateSchema.Chain

def piece (cs : List Char) (start stop : Nat) : List Char :=
  (cs.drop start).take (stop - start)

theorem piece_behind (front cs : List Char) (start stop : Nat) :
    piece (front ++ cs) (front.length + start) (front.length + stop) = piece cs start stop := by
  rw [piece,piece,List.drop_length_add_append,Nat.add_sub_add_left]

-- A token as far behind its place as a text that it is in is moved.
def Token.ahead (n : Nat) (t : Token) : Token :=
  { t with start := t.start + n, stop := t.stop + n }

namespace Lexed

variable {offset : Nat} {cs : List Char} {ts : List Token}

-- The place of a token, in a text that begins at an offset.
structure Holds (offset : Nat) (cs : List Char) (t : Token) : Prop where
  later : offset ≤ t.start
  some_ : t.start < t.stop
  inside : t.stop ≤ offset + cs.length
  text : t.text = piece cs (t.start - offset) (t.stop - offset)

theorem Holds.behind {front : List Char} {t : Token} (holds : Holds (offset + front.length) cs t) :
    Holds offset (front ++ cs) t := by
  obtain ⟨later,some_,inside,text⟩ := holds
  refine ⟨by omega,some_,by rw [List.length_append]; omega,?_⟩
  have start : t.start - offset = front.length + (t.start - (offset + front.length)) := by omega
  have stop : t.stop - offset = front.length + (t.stop - (offset + front.length)) := by omega
  rw [start,stop,piece_behind]
  exact text

theorem token_behind {c : Char} {rest : List Char} {kind : TokenKind} {n : Nat} {t : Token}
    (read : lexeme? c rest = some (kind,n)) (holds : Holds (offset + 1 + n) (rest.drop n) t) :
    Holds offset (c :: rest) t := by
  have front : (c :: rest.take n).length = 1 + n := by
    rw [List.length_cons,List.length_take_of_le (lexeme_length read),Nat.add_comm]
  have whole : c :: rest = (c :: rest.take n) ++ rest.drop n := by simp
  rw [whole]
  rw [Nat.add_assoc,← front] at holds
  exact holds.behind

theorem holds (lexed : Lexed offset cs ts) : ∀ t ∈ ts, Holds offset cs t := by
  induction lexed with
  | done => simp
  | @blank offset c rest ts _ _ ih =>
    intro t member
    have inner : Holds (offset + [c].length) rest t := ih t member
    exact inner.behind
  | @token offset c rest kind n ts _ read _ ih =>
    have inside := lexeme_length read
    refine List.forall_mem_cons.mpr ⟨⟨Nat.le_refl _,by simp only; omega,?_,?_⟩,?_⟩
    · simp only [List.length_cons]
      omega
    · simp only [piece,Nat.sub_self,Nat.sub_zero,List.drop_zero]
      rw [Nat.add_assoc,Nat.add_sub_cancel_left,Nat.add_comm,List.take_succ_cons]
    · exact fun t member => token_behind read (ih t member)

theorem ordered (lexed : Lexed offset cs ts) : ts.Pairwise fun t u => t.stop ≤ u.start := by
  induction lexed with
  | done => exact .nil
  | blank _ _ ih => exact ih
  | token _ _ others ih => exact List.pairwise_cons.mpr ⟨fun u member => (others.holds u member).later,ih⟩

theorem outside_blank (lexed : Lexed offset cs ts) {n : Nat} {c : Char} (here : cs[n]? = some c)
    (outside : ∀ t ∈ ts, ¬ (t.start ≤ offset + n ∧ offset + n < t.stop)) : Text.isBlank c = true := by
  induction lexed generalizing n with
  | done => cases here
  | blank isBlank _ ih =>
    cases n with
    | zero =>
      cases here
      exact isBlank
    | succ n =>
      refine ih (n := n) here ?_
      intro t member
      rw [Nat.add_assoc,Nat.add_comm 1]
      exact outside t member
  | @token offset c rest kind m ts _ _ _ ih =>
    have past : 1 + m ≤ n := by
      have first := outside _ List.mem_cons_self
      simp only at first
      omega
    obtain ⟨k,rfl⟩ := Nat.exists_eq_add_of_le past
    refine ih (n := k) ?_ ?_
    · rw [List.getElem?_drop,← here,Nat.add_assoc,Nat.add_comm 1,List.getElem?_cons_succ]
    · intro t member
      rw [Nat.add_assoc offset,Nat.add_assoc offset]
      exact outside t (List.mem_cons_of_mem _ member)

-- A text read elsewhere has the same tokens there.
theorem back {n : Nat} (lexed : Lexed (offset + n) cs ts) :
    ∃ us, Lexed offset cs us ∧ us.map (Token.ahead n) = ts := by
  generalize place : offset + n = there at lexed
  induction lexed generalizing offset with
  | done => exact ⟨[],.done,rfl⟩
  | @blank there _ _ _ isBlank _ ih =>
    obtain ⟨us,lexed,same⟩ := ih (show offset + 1 + n = there + 1 by omega)
    exact ⟨us,.blank isBlank lexed,same⟩
  | @token there c rest kind m ts solid read _ ih =>
    obtain ⟨us,lexed,same⟩ := ih (show offset + 1 + m + n = there + 1 + m by omega)
    refine ⟨_,.token solid read lexed,?_⟩
    rw [List.map_cons,same]
    simp only [Token.ahead,place]
    congr 2
    omega

end Lexed

section Ranges

variable {α : Type} {xs : List α} {i j : Nat} {x : α}

theorem range_split (order : i ≤ j) : xs = xs.take i ++ (xs.take (j + 1)).drop i ++ xs.drop (j + 1) := by
  have front : xs.take i = (xs.take (j + 1)).take i := by rw [List.take_take,Nat.min_eq_left (by omega)]
  rw [front,List.take_append_drop,List.take_append_drop]

theorem range_head (order : i ≤ j) (first : xs[i]? = some x) : ((xs.take (j + 1)).drop i).head? = some x := by
  rw [List.head?_drop,List.getElem?_take_of_lt (by omega),first]

theorem range_last (order : i ≤ j) (last : xs[j]? = some x) : ((xs.take (j + 1)).drop i).getLast? = some x := by
  obtain ⟨inside,_⟩ := List.getElem?_eq_some_iff.mp last
  rw [List.getLast?_drop,if_neg (by rw [List.length_take]; omega),List.getLast?_take,if_neg (by omega),
    Nat.add_sub_cancel,last]
  rfl

end Ranges

-- The tokens from one to another are those of the text from the start of the one to the end of the other.
theorem tokens_placed {cs : List Char} {ts : List Token} (read : tokens cs = .ok ts) :
    (∀ t ∈ ts, t.start < t.stop ∧ t.stop ≤ cs.length ∧ t.text = piece cs t.start t.stop) ∧
    ts.Pairwise (fun t u => t.stop ≤ u.start) ∧
    (∀ n c, cs[n]? = some c → (∀ t ∈ ts, ¬ (t.start ≤ n ∧ n < t.stop)) → Text.isBlank c = true) ∧
    ∀ (i j : Nat) (t u : Token), i ≤ j → ts[i]? = some t → ts[j]? = some u →
      ∃ us, tokens (piece cs t.start u.stop) = .ok us ∧ us.map (Token.ahead t.start) = (ts.take (j + 1)).drop i := by
  have lexed := tokensFrom_exact.mp read
  refine ⟨?_,lexed.ordered,?_,?_⟩
  · intro t member
    obtain ⟨_,some_,inside,text⟩ := lexed.holds t member
    exact ⟨some_,by simpa using inside,text⟩
  · intro n c here outside
    refine lexed.outside_blank here ?_
    simpa using outside
  · intro i j t u order first last
    rw [show ts = _ from range_split order] at lexed
    have cut := lexed.slice (range_head order first) (range_last order last)
    rw [Nat.sub_zero,← Nat.zero_add t.start] at cut
    obtain ⟨us,again,same⟩ := cut.back
    refine ⟨us,tokensFrom_exact.mpr ?_,same⟩
    simpa [piece] using again

def pairText : List Char :=
  "[ -1.5e3 ,'it\\'s']".toList

def pairTokens : List Token :=
  [⟨.mark,['['],0,1⟩,⟨.number,"-1.5e3".toList,2,8⟩,⟨.mark,[','],9,10⟩,⟨.string,"'it\\'s'".toList,10,17⟩,
    ⟨.mark,[']'],17,18⟩]

theorem pair_placed : tokens pairText = .ok pairTokens ∧
    ∃ us, tokens (piece pairText 2 10) = .ok us ∧
      us.map (Token.ahead 2) = [⟨.number,"-1.5e3".toList,2,8⟩,⟨.mark,[','],9,10⟩] := by
  have read : tokens pairText = .ok pairTokens := by decide +kernel
  obtain ⟨_,_,_,cut⟩ := tokens_placed read
  exact ⟨read,cut 1 2 _ _ (by decide) rfl rfl⟩

end TemplateSchema.Chain
