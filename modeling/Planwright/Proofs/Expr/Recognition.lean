import Planwright.Proofs.Expr.Grammar

set_option autoImplicit false

/-!
# The parser recognizes the grammar

The parser accepts a list of tokens exactly if the grammar derives it within the levels that are
allowed, and gives what the list denotes (`recognizes_grammar`).  No list denotes two expressions,
and one that is nested more deeply than is allowed is refused for this reason and no other.

Both directions are proved for every kind of phrase at every number of levels, with an arbitrary
rest behind the phrase.  From the parser to the grammar (`parserOf_reads`) recursion is on the
levels, as in the parser; from the grammar to the parser (`Derives.finds`) it is on the derivation.
-/

namespace Planwright.Expr

/-! ## Parsers by kind -/

/-- The parser of unary expressions one level down, if there is a level. -/
def lower : Nat → Option Parser
  | 0 => none
  | levels + 1 => some (unary levels)

/-- The parser of a kind of phrase for so many levels. -/
def parserOf (levels : Nat) : Phrase → Parser
  | .sum => sumWithin levels
  | .product => chain [.mul, .div, .rem] (unary levels)
  | .unary => unary levels
  | .power => power (lower levels)
  | .atom => atom (lower levels)

theorem unary_eq (levels : Nat) : unary levels = unaryOver (lower levels) := by
  cases levels <;> rfl

theorem sum_lower (levels : Nat) : sum (lower levels) = parserOf levels .sum := by
  cases levels <;> rfl

theorem expectClosing_eq_ok {ts rest : List Token} :
    expectClosing ts = .ok rest ↔ ts = .closing :: rest := by
  cases ts with
  | nil => simp [expectClosing]
  | cons t ts => cases t <;> simp [expectClosing]

/-! ## What is accepted is derived -/

/-- What the parser accepts is a phrase with the property, and it leaves what stands behind it. -/
def Reads (P : List Token → Expr → Prop) (p : Parser) : Prop :=
  ∀ ts e rest, p ts = .ok (e, rest) → ∃ us, ts = us ++ rest ∧ P us e

section Reading

variable {P : List Token → Expr → Prop}

theorem chainFrom_reads {ops : List BinOp} {operand : Parser} (hoperand : Reads P operand)
    {fuel : Nat} {left e : Expr} {ts rest : List Token}
    (h : chainFrom ops operand fuel left ts = .ok (e, rest)) :
    ∃ os, ts = Operand.tokens os ++ rest ∧ e = Operand.grouped left os ∧
      (∀ o ∈ os, o.op ∈ ops) ∧ ∀ o ∈ os, P o.text o.expr := by
  fun_induction chainFrom ops operand fuel left ts with
  | case1 left ts =>
      cases h
      exact ⟨[], rfl, rfl, List.forall_mem_nil _, List.forall_mem_nil _⟩
  | case2 fuel left o more hop f herror => cases h
  | case3 fuel left o more hop right behind hright ih =>
      obtain ⟨us, rfl, hus⟩ := hoperand _ _ _ hright
      obtain ⟨os, rfl, rfl, hops, hos⟩ := ih h
      refine ⟨⟨o, us, right⟩ :: os, by simp, rfl, ?_, ?_⟩
      · exact List.forall_mem_cons.2 ⟨by simpa using hop, hops⟩
      · exact List.forall_mem_cons.2 ⟨hus, hos⟩
  | case4 fuel left o more hop =>
      cases h
      exact ⟨[], rfl, rfl, List.forall_mem_nil _, List.forall_mem_nil _⟩
  | case5 fuel left ts hop =>
      cases h
      exact ⟨[], rfl, rfl, List.forall_mem_nil _, List.forall_mem_nil _⟩

theorem chain_reads {ops : List BinOp} {operand : Parser} (hoperand : Reads P operand)
    {e : Expr} {ts rest : List Token} (h : chain ops operand ts = .ok (e, rest)) :
    ∃ us first os, ts = us ++ Operand.tokens os ++ rest ∧ e = Operand.grouped first os ∧
      P us first ∧ (∀ o ∈ os, o.op ∈ ops) ∧ ∀ o ∈ os, P o.text o.expr := by
  unfold chain at h
  split at h
  · cases h
  · next first behind hfirst =>
    obtain ⟨us, rfl, hus⟩ := hoperand _ _ _ hfirst
    obtain ⟨os, rfl, rfl, hops, hos⟩ := chainFrom_reads hoperand h
    exact ⟨us, first, os, by simp, rfl, hus, hops, hos⟩

theorem moreArgs_reads {arg : Parser} (harg : Reads P arg) {fuel : Nat} {es : List Expr}
    {ts rest : List Token} (h : moreArgs arg fuel ts = .ok (es, rest)) :
    ∃ args, ts = Argument.tokens args ++ .closing :: rest ∧ es = args.map Argument.expr ∧
      ∀ a ∈ args, P a.text a.expr := by
  have hend {ts : List Token} {es : List Expr}
      (h : (expectClosing ts).map (fun rest => (([] : List Expr), rest)) = .ok (es, rest)) :
      ∃ args, ts = Argument.tokens args ++ .closing :: rest ∧ es = args.map Argument.expr ∧
        ∀ a ∈ args, P a.text a.expr := by
    cases hclosing : expectClosing ts with
    | error f => rw [hclosing] at h; cases h
    | ok behind =>
        rw [hclosing] at h
        cases h
        exact ⟨[], expectClosing_eq_ok.1 hclosing, rfl, List.forall_mem_nil _⟩
  fun_induction moreArgs arg fuel ts generalizing es with
  | case1 ts => exact hend h
  | case2 fuel more f herror => cases h
  | case3 fuel more e behind he f herror ih => cases h
  | case4 fuel more e behind he es' behind' hes ih =>
      cases h
      obtain ⟨us, rfl, hus⟩ := harg _ _ _ he
      obtain ⟨args, rfl, rfl, hargs⟩ := ih hes
      exact ⟨⟨us, e⟩ :: args, by simp, rfl, List.forall_mem_cons.2 ⟨hus, hargs⟩⟩
  | case5 fuel ts hcomma => exact hend h

end Reading

section Levels

variable {n : Nat}

theorem atom_reads (hsum : Reads (Derives n .sum) (parserOf n .sum)) :
    Reads (Derives n .atom) (parserOf n .atom) := by
  intro ts e rest h
  rw [parserOf, atom.eq_def] at h
  rw [sum_lower] at h
  split at h
  · next x behind =>
    cases h
    exact ⟨[.num x], rfl, .num n x⟩
  · next name behind =>
    split at h
    · cases h
    · next f hknown =>
      split at h
      · cases h
      · next first behind hfirst =>
        obtain ⟨us, rfl, hus⟩ := hsum _ _ _ hfirst
        cases hmore : moreArgs (parserOf n .sum) behind.length behind with
        | error f => rw [hmore] at h; cases h
        | ok result =>
            rw [hmore] at h
            cases h
            obtain ⟨args, hbehind, hes, hargs⟩ := moreArgs_reads hsum hmore
            rw [hes, hbehind]
            exact ⟨_, by simp, .call hknown hus hargs⟩
  · next name behind _ =>
    cases h
    exact ⟨[.name name], rfl, .var n name⟩
  · next behind =>
    split at h
    · cases h
    · next inner behind hinner =>
      obtain ⟨us, rfl, hus⟩ := hsum _ _ _ hinner
      cases hclosing : expectClosing behind with
      | error f => rw [hclosing] at h; cases h
      | ok result =>
          rw [hclosing] at h
          cases h
          rw [expectClosing_eq_ok.1 hclosing]
          exact ⟨_, by simp, .parens hus⟩
  · cases h
  · cases h

/-- What is accepted one level down is nested less deeply by one. -/
def ReadsDown (n : Nat) : Prop :=
  Reads (fun ts e => ∃ m, n = m + 1 ∧ Derives m .unary ts e) (descend (lower n))

theorem power_reads (hatom : Reads (Derives n .atom) (parserOf n .atom)) (hdown : ReadsDown n) :
    Reads (Derives n .power) (parserOf n .power) := by
  intro ts e rest h
  rw [parserOf, power] at h
  split at h
  · cases h
  · next base behind hbase =>
    obtain ⟨us, rfl, hus⟩ := hatom _ _ _ hbase
    cases hexponent : descend (lower n) behind with
    | error f => rw [hexponent] at h; cases h
    | ok result =>
        rw [hexponent] at h
        cases h
        obtain ⟨ws, rfl, m, rfl, hws⟩ := hdown _ _ _ hexponent
        exact ⟨_, by simp, .exponent hus hws⟩
  · next base behind _ hbase =>
    cases h
    obtain ⟨us, rfl, hus⟩ := hatom _ _ _ hbase
    exact ⟨us, rfl, .ofAtom hus⟩

theorem unary_reads (hpower : Reads (Derives n .power) (parserOf n .power)) (hdown : ReadsDown n) :
    Reads (Derives n .unary) (parserOf n .unary) := by
  intro ts e rest h
  rw [parserOf, unary_eq, unaryOver.eq_def] at h
  split at h
  · next behind =>
    cases hinner : descend (lower n) behind with
    | error f => rw [hinner] at h; cases h
    | ok result =>
        rw [hinner] at h
        cases h
        obtain ⟨us, rfl, m, rfl, hus⟩ := hdown _ _ _ hinner
        exact ⟨_, rfl, .minus hus⟩
  · obtain ⟨us, rfl, hus⟩ := hpower _ _ _ h
    exact ⟨us, rfl, .ofPower hus⟩

theorem product_reads (hunary : Reads (Derives n .unary) (parserOf n .unary)) :
    Reads (Derives n .product) (parserOf n .product) := by
  intro ts e rest h
  obtain ⟨us, first, os, rfl, rfl, hus, hops, hos⟩ := chain_reads hunary h
  exact ⟨_, rfl, .product hus hops hos⟩

theorem sum_reads (hproduct : Reads (Derives n .product) (parserOf n .product)) :
    Reads (Derives (n + 1) .sum) (parserOf (n + 1) .sum) := by
  intro ts e rest h
  obtain ⟨us, first, os, rfl, rfl, hus, hops, hos⟩ := chain_reads hproduct h
  exact ⟨_, rfl, .sum hus hops hos⟩

theorem reads_of_sum (hsum : Reads (Derives n .sum) (parserOf n .sum)) (hdown : ReadsDown n)
    (k : Phrase) : Reads (Derives n k) (parserOf n k) := by
  have hpower := power_reads (atom_reads hsum) hdown
  have hunary := unary_reads hpower hdown
  cases k with
  | sum => exact hsum
  | product => exact product_reads hunary
  | unary => exact hunary
  | power => exact hpower
  | atom => exact atom_reads hsum

/-- What the parser of a kind of phrase accepts is a phrase of this kind within its levels. -/
theorem parserOf_reads (n : Nat) (k : Phrase) : Reads (Derives n k) (parserOf n k) := by
  induction n generalizing k with
  | zero => exact reads_of_sum (fun _ _ _ h => by cases h) (fun _ _ _ h => by cases h) k
  | succ n ih =>
      refine reads_of_sum (sum_reads (ih .product)) (fun ts e rest h => ?_) k
      obtain ⟨us, hsplit, hus⟩ := ih .unary ts e rest h
      exact ⟨us, hsplit, n, rfl, hus⟩

end Levels

/-! ## What is derived is accepted -/

namespace Phrase

/-- The operators that a phrase of this kind goes on with. -/
def joiners : Phrase → List BinOp
  | .sum => [.add, .sub, .mul, .div, .rem, .pow]
  | .product => [.mul, .div, .rem, .pow]
  | .unary | .power => [.pow]
  | .atom => []

/-- What stands behind a phrase does not belong to it: neither an operator that it would go on with,
nor a parenthesis that would make a call of a name. -/
def Ends (k : Phrase) : List Token → Prop
  | .op o :: _ => o ∉ k.joiners
  | .opening :: _ => False
  | _ => True

variable {k k' : Phrase} {rest : List Token}

theorem Ends.of_subset (h : k.Ends rest) (hsub : k'.joiners ⊆ k.joiners) : k'.Ends rest := by
  unfold Ends at h ⊢
  split
  · exact fun hmem => h (hsub hmem)
  · exact h
  · trivial

/-- Behind an operand stands an operator of the chain, or what stands behind the chain. -/
theorem Ends.operand (h : k.Ends rest) (hsub : k'.joiners ⊆ k.joiners) {ops : List BinOp}
    (hbreak : ∀ o ∈ ops, o ∉ k'.joiners) {os : List Operand} (hops : ∀ o ∈ os, o.op ∈ ops) :
    k'.Ends (Operand.tokens os ++ rest) := by
  cases os with
  | nil => exact h.of_subset hsub
  | cons o os => exact hbreak o.op (hops o List.mem_cons_self)

/-- Behind an argument stands a comma or the closing parenthesis. -/
theorem ends_argument (args : List Argument) (rest : List Token) :
    sum.Ends (Argument.tokens args ++ .closing :: rest) := by
  cases args <;> trivial

end Phrase

/-- The outcome is a success, or the levels do not suffice and it says so. -/
def Reaches {α : Type} (short : Prop) (outcome : Except Fault α) (a : α) : Prop :=
  outcome = .ok a ∨ short ∧ outcome = .error .tooComplex

namespace Reaches

variable {α β : Type} {short : Prop} {outcome : Except Fault α} {a : α}

theorem imp {later : Prop} (h : Reaches short outcome a) (himp : short → later) :
    Reaches later outcome a := h.imp_right fun hshort => ⟨himp hshort.1, hshort.2⟩

theorem map (h : Reaches short outcome a) (f : α → β) : Reaches short (outcome.map f) (f a) := by
  rcases h with rfl | ⟨hshort, rfl⟩
  · exact .inl rfl
  · exact .inr ⟨hshort, rfl⟩

end Reaches

/-- The parser finds a phrase wherever it ends, unless the levels do not suffice. -/
def Finds (short : Prop) (k : Phrase) (p : Parser) (us : List Token) (e : Expr) : Prop :=
  ∀ rest, k.Ends rest → Reaches short (p (us ++ rest)) (e, rest)

section Finding

variable {short : Prop} {rest : List Token}

section Chains

variable {k k' : Phrase} {ops : List BinOp} {operand : Parser} {os : List Operand}

theorem chainFrom_finds (hends : k.Ends rest) (hjoin : ops ⊆ k.joiners)
    (hsub : k'.joiners ⊆ k.joiners) (hbreak : ∀ o ∈ ops, o ∉ k'.joiners)
    (hops : ∀ o ∈ os, o.op ∈ ops) (hos : ∀ o ∈ os, Finds short k' operand o.text o.expr)
    {fuel : Nat} (hfuel : os.length ≤ fuel) (left : Expr) :
    Reaches short (chainFrom ops operand fuel left (Operand.tokens os ++ rest))
      (Operand.grouped left os, rest) := by
  induction os generalizing fuel left with
  | nil =>
      left
      cases fuel with
      | zero => rfl
      | succ fuel =>
          rw [Operand.tokens_nil, List.nil_append, chainFrom.eq_def]
          dsimp only
          split
          · next o more =>
            have hstop : o ∉ ops := fun hmem => hends (hjoin hmem)
            rw [if_neg (by simpa using hstop), Operand.grouped_nil]
          · rfl
  | cons o os ih =>
      obtain ⟨hop, hops⟩ := List.forall_mem_cons.1 hops
      obtain ⟨ho, hos⟩ := List.forall_mem_cons.1 hos
      cases fuel with
      | zero => exact absurd hfuel (Nat.not_succ_le_zero _)
      | succ fuel =>
          have hcontains : ops.contains o.op = true := by simpa using hop
          rw [Operand.tokens_cons, List.cons_append, List.append_assoc, chainFrom, if_pos hcontains]
          rcases ho _ (hends.operand hsub hbreak hops) with hread | ⟨hshort, hread⟩
          · rw [hread]
            exact ih hops hos (Nat.le_of_succ_le_succ hfuel) _
          · exact .inr ⟨hshort, by rw [hread]⟩

theorem chain_finds (hjoin : ops ⊆ k.joiners) (hsub : k'.joiners ⊆ k.joiners)
    (hbreak : ∀ o ∈ ops, o ∉ k'.joiners) {us : List Token} {first : Expr}
    (hfirst : Finds short k' operand us first) (hops : ∀ o ∈ os, o.op ∈ ops)
    (hos : ∀ o ∈ os, Finds short k' operand o.text o.expr) :
    Finds short k (chain ops operand) (us ++ Operand.tokens os) (Operand.grouped first os) := by
  intro rest hends
  rw [List.append_assoc, chain]
  rcases hfirst _ (hends.operand hsub hbreak hops) with hread | ⟨hshort, hread⟩
  · rw [hread]
    refine chainFrom_finds hends hjoin hsub hbreak hops hos ?_ first
    have hlength := Operand.length_le_tokens os
    rw [List.length_append]
    omega
  · exact .inr ⟨hshort, by rw [hread]⟩

end Chains

theorem moreArgs_finds {arg : Parser} {args : List Argument}
    (hargs : ∀ a ∈ args, Finds short .sum arg a.text a.expr) {fuel : Nat}
    (hfuel : args.length ≤ fuel) (rest : List Token) :
    Reaches short (moreArgs arg fuel (Argument.tokens args ++ .closing :: rest))
      (args.map Argument.expr, rest) := by
  induction args generalizing fuel with
  | nil =>
      left
      cases fuel <;> rfl
  | cons a args ih =>
      obtain ⟨ha, hargs⟩ := List.forall_mem_cons.1 hargs
      cases fuel with
      | zero => exact absurd hfuel (Nat.not_succ_le_zero _)
      | succ fuel =>
          rw [Argument.tokens_cons, List.cons_append, List.append_assoc, moreArgs]
          rcases ha _ (Phrase.ends_argument args rest) with hread | ⟨hshort, hread⟩
          · rw [hread]
            dsimp only
            rcases ih hargs (Nat.le_of_succ_le_succ hfuel) with hmore | ⟨hshort, hmore⟩
            · exact .inl (by rw [hmore]; rfl)
            · exact .inr ⟨hshort, by rw [hmore]⟩
          · exact .inr ⟨hshort, by rw [hread]⟩

variable {n m : Nat} {us ts : List Token} {e x : Expr}

theorem call_finds {name : String} {f : Func} {args : List Argument}
    (hknown : Func.ofName? name = some f) (hfirst : Finds short .sum (parserOf n .sum) us e)
    (hargs : ∀ a ∈ args, Finds short .sum (parserOf n .sum) a.text a.expr) :
    Finds short .atom (parserOf n .atom)
      (.name name :: .opening :: (us ++ (Argument.tokens args ++ [.closing])))
      (.call f (e :: args.map Argument.expr)) := by
  intro rest _
  have hsplit : us ++ (Argument.tokens args ++ [.closing]) ++ rest
      = us ++ (Argument.tokens args ++ .closing :: rest) := by simp
  rw [parserOf, List.cons_append, List.cons_append, hsplit, atom, hknown, sum_lower]
  dsimp only
  rcases hfirst _ (Phrase.ends_argument args rest) with hread | ⟨hshort, hread⟩
  · rw [hread]
    have hlength := Argument.length_le_tokens args
    exact (moreArgs_finds hargs (by rw [List.length_append]; omega) rest).map
      fun r : List Expr × List Token => (Expr.call f (e :: r.1), r.2)
  · exact .inr ⟨hshort, by rw [hread]⟩

theorem parens_finds (hinner : Finds short .sum (parserOf n .sum) us e) :
    Finds short .atom (parserOf n .atom) (.opening :: (us ++ [.closing])) e := by
  intro rest _
  rw [parserOf, List.cons_append, List.append_assoc, atom, sum_lower]
  rcases hinner (.closing :: rest) trivial with hread | ⟨hshort, hread⟩
  · exact .inl (by rw [List.singleton_append, hread]; rfl)
  · exact .inr ⟨hshort, by rw [List.singleton_append, hread]⟩

theorem var_finds (name : String) :
    Finds short .atom (parserOf n .atom) [.name name] (.var name) := by
  intro rest hends
  left
  cases rest with
  | nil => rfl
  | cons t rest =>
      cases t with
      | opening => exact hends.elim
      | _ => rfl

/-- An atom without an exponent behind it is a power. -/
theorem atom_finds (hatom : Finds short .atom (parserOf n .atom) us e) :
    Finds short .power (parserOf n .power) us e := by
  intro rest hends
  have hatom := hatom rest (hends.of_subset (by decide))
  rw [parserOf] at hatom
  rw [parserOf, power]
  rcases hatom with hread | ⟨hshort, hread⟩
  · rw [hread]
    split
    · next heq => cases heq
    · next more heq =>
      cases heq
      exact absurd (List.mem_singleton_self _) hends
    · next heq =>
      cases heq
      exact .inl rfl
  · exact .inr ⟨hshort, by rw [hread]⟩

theorem exponent_finds (hbase : Finds (n < m + 1) .atom (parserOf n .atom) us e)
    (hexponent : ∀ l, Finds (l < m) .unary (parserOf l .unary) ts x) :
    Finds (n < m + 1) .power (parserOf n .power) (us ++ .op .pow :: ts) (.bin .pow e x) := by
  intro rest hends
  have hbase := hbase (.op .pow :: (ts ++ rest)) List.not_mem_nil
  rw [parserOf] at hbase
  rw [parserOf, power, List.append_assoc, List.cons_append]
  rcases hbase with hread | ⟨hshort, hread⟩
  · rw [hread]
    cases n with
    | zero => exact .inr ⟨Nat.succ_pos m, rfl⟩
    | succ n =>
        exact ((hexponent n rest hends).imp Nat.succ_lt_succ).map
          fun r : Expr × List Token => (Expr.bin .pow e r.1, r.2)
  · exact .inr ⟨hshort, by rw [hread]⟩

theorem minus_finds (hinner : ∀ l, Finds (l < m) .unary (parserOf l .unary) us e) :
    Finds (n < m + 1) .unary (parserOf n .unary) (.op .sub :: us) (.neg e) := by
  intro rest hends
  rw [parserOf, unary_eq, List.cons_append, unaryOver]
  cases n with
  | zero => exact .inr ⟨Nat.succ_pos m, rfl⟩
  | succ n =>
      exact ((hinner n rest hends).imp Nat.succ_lt_succ).map
        fun r : Expr × List Token => (Expr.neg r.1, r.2)

end Finding

/-- What the grammar derives within some levels is found by the parser for any number of levels,
unless these are fewer. -/
theorem Derives.finds {m : Nat} {k : Phrase} {us : List Token} {e : Expr} (h : Derives m k us e)
    (n : Nat) : Finds (n < m) k (parserOf n k) us e := by
  induction h generalizing n with
  | @sum m _ _ _ _ hops _ ihFirst ihOperands =>
      intro rest hends
      cases n with
      | zero => exact .inr ⟨Nat.succ_pos m, rfl⟩
      | succ n =>
          have hchain :=
            chain_finds (k := .sum) (by decide) (by decide) (by decide) (ihFirst n) hops
            fun o ho => ihOperands o ho n
          exact (hchain rest hends).imp Nat.succ_lt_succ
  | product _ hops _ ihFirst ihOperands =>
      exact chain_finds (by decide) (by decide) (by decide) (ihFirst n) hops
        fun o ho => ihOperands o ho n
  | minus _ ih => exact minus_finds ih
  | @ofPower m us e hpower ih =>
      intro rest hends
      rw [parserOf, unary_eq, unaryOver.eq_2 _ _ (hpower.power_ne_op .sub · rest)]
      exact ih n rest hends
  | ofAtom _ ih => exact atom_finds (ih n)
  | exponent _ _ ihBase ihExponent => exact exponent_finds (ihBase n) ihExponent
  | num _ x => exact fun rest _ => .inl rfl
  | var _ name => exact var_finds name
  | call hknown _ _ ihFirst ihMore =>
      exact call_finds hknown (ihFirst n) fun a ha => ihMore a ha n
  | parens _ ih => exact parens_finds (ih n)

/-! ## All tokens -/

theorem parseTokens_eq_ok {ts : List Token} {e : Expr} :
    parseTokens ts = .ok e ↔ sumWithin maxNesting ts = .ok (e, []) := by
  unfold parseTokens
  split
  · next f hread => simp [hread]
  · next hread => simp [hread]
  · next t more hread => simp [hread]

/-- No list of tokens denotes two expressions. -/
theorem Derives.unique {n m : Nat} {k : Phrase} {ts : List Token} {e e' : Expr}
    (h : Derives n k ts e) (h' : Derives m k ts e') : e = e' := by
  -- with enough levels for both, the parser finds the one and the other
  have hfound := (h.mono (Nat.le_max_left n m)).finds (max n m) [] trivial
  have hfound' := (h'.mono (Nat.le_max_right n m)).finds (max n m) [] trivial
  rcases hfound with hread | ⟨hlt, -⟩
  · rcases hfound' with hread' | ⟨hlt, -⟩
    · rw [hread] at hread'
      exact (Prod.mk.inj (Except.ok.inj hread')).1
    · exact absurd hlt (Nat.lt_irrefl _)
  · exact absurd hlt (Nat.lt_irrefl _)

theorem parseTokens_eq_ok_iff {ts : List Token} {e : Expr} :
    parseTokens ts = .ok e ↔ Derives maxNesting .sum ts e := by
  rw [parseTokens_eq_ok]
  constructor
  · intro hread
    obtain ⟨us, hsplit, hus⟩ := parserOf_reads maxNesting .sum ts e [] hread
    rw [List.append_nil] at hsplit
    rwa [hsplit]
  · intro h
    rcases h.finds maxNesting [] trivial with hread | ⟨hlt, -⟩
    · rwa [List.append_nil] at hread
    · exact absurd hlt (Nat.lt_irrefl _)

/-- **Recognition.**  The parser gives an expression for a list of tokens exactly if the grammar
derives it within sixty-four levels.  The expression is the only one that the list denotes, at any
depth, and a list that is derived with more levels only is refused as too complex. -/
theorem recognizes_grammar (ts : List Token) :
    (∀ e, parseTokens ts = .ok e ↔ Derives 64 .sum ts e) ∧
      (∀ n m e e', Derives n .sum ts e → Derives m .sum ts e' → e = e') ∧
      ∀ n e, Derives n .sum ts e → ¬ Derives 64 .sum ts e →
        parseTokens ts = .error .tooComplex := by
  refine ⟨fun e => parseTokens_eq_ok_iff, fun n m e e' => Derives.unique, ?_⟩
  intro n e h hdeep
  rcases h.finds maxNesting [] trivial with hread | ⟨-, hread⟩
  · rw [List.append_nil] at hread
    exact absurd (parseTokens_eq_ok_iff.1 (parseTokens_eq_ok.2 hread)) hdeep
  · rw [List.append_nil] at hread
    rw [parseTokens, show sumWithin maxNesting ts = .error .tooComplex from hread]

end Planwright.Expr
