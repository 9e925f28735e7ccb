import Planwright.Expr.Parser

set_option autoImplicit false

/-!
# The grammar of expressions

Which lists of tokens are expressions, said without the parser:

```text
sum      := product (('+' | '-') product)*
product  := unary (('*' | '/' | '%') unary)*
unary    := '-' unary | power
power    := atom ('^' unary)?
atom     := number | name | name '(' sum (',' sum)* ')' | '(' sum ')'
```

Chains are grouped to the left.  The number in `Derives` bounds the nesting: every sum, every minus
sign and every exponent is one level, which takes in all that stands inside it.
-/

namespace Planwright.Expr

/-- The kinds of phrases, the loosest binding first. -/
inductive Phrase where
  | sum
  | product
  | unary
  | power
  | atom
  deriving DecidableEq, Repr, Inhabited

/-- A further operand of a chain, with the operator before it. -/
structure Operand where
  op : BinOp
  text : List Token
  expr : Expr

namespace Operand

/-- The tokens of further operands, each behind its operator. -/
def tokens (os : List Operand) : List Token := os.flatMap fun o => .op o.op :: o.text

/-- A chain of operands, grouped to the left. -/
def grouped (first : Expr) (os : List Operand) : Expr :=
  os.foldl (fun left o => .bin o.op left o.expr) first

@[simp] theorem tokens_nil : tokens [] = [] := rfl

@[simp] theorem tokens_cons (o : Operand) (os : List Operand) :
    tokens (o :: os) = .op o.op :: (o.text ++ tokens os) := rfl

@[simp] theorem grouped_nil (first : Expr) : grouped first [] = first := rfl

@[simp] theorem grouped_cons (first : Expr) (o : Operand) (os : List Operand) :
    grouped first (o :: os) = grouped (.bin o.op first o.expr) os := rfl

theorem length_le_tokens (os : List Operand) : os.length ≤ (tokens os).length := by
  induction os with
  | nil => exact Nat.le_refl 0
  | cons o os ih =>
      simp only [tokens_cons, List.length_cons, List.length_append]
      omega

end Operand

/-- A further argument of a call. -/
structure Argument where
  text : List Token
  expr : Expr

namespace Argument

/-- The tokens of further arguments, each behind a comma. -/
def tokens (args : List Argument) : List Token := args.flatMap fun a => .comma :: a.text

@[simp] theorem tokens_nil : tokens [] = [] := rfl

@[simp] theorem tokens_cons (a : Argument) (args : List Argument) :
    tokens (a :: args) = .comma :: (a.text ++ tokens args) := rfl

theorem length_le_tokens (args : List Argument) : args.length ≤ (tokens args).length := by
  induction args with
  | nil => exact Nat.le_refl 0
  | cons a args ih =>
      simp only [tokens_cons, List.length_cons, List.length_append]
      omega

end Argument

/-- `Derives n k ts e`: the tokens are a phrase of kind `k` with at most `n` levels of nesting, and
the phrase denotes `e`. -/
inductive Derives : Nat → Phrase → List Token → Expr → Prop where
  | sum {n : Nat} {ts : List Token} {e : Expr} {rest : List Operand}
      (first : Derives n .product ts e) (ops : ∀ o ∈ rest, o.op ∈ [BinOp.add, .sub])
      (operands : ∀ o ∈ rest, Derives n .product o.text o.expr) :
      Derives (n + 1) .sum (ts ++ Operand.tokens rest) (Operand.grouped e rest)
  | product {n : Nat} {ts : List Token} {e : Expr} {rest : List Operand}
      (first : Derives n .unary ts e) (ops : ∀ o ∈ rest, o.op ∈ [BinOp.mul, .div, .rem])
      (operands : ∀ o ∈ rest, Derives n .unary o.text o.expr) :
      Derives n .product (ts ++ Operand.tokens rest) (Operand.grouped e rest)
  | minus {n : Nat} {ts : List Token} {e : Expr} (inner : Derives n .unary ts e) :
      Derives (n + 1) .unary (.op .sub :: ts) (.neg e)
  | ofPower {n : Nat} {ts : List Token} {e : Expr} (power : Derives n .power ts e) :
      Derives n .unary ts e
  | ofAtom {n : Nat} {ts : List Token} {e : Expr} (atom : Derives n .atom ts e) :
      Derives n .power ts e
  | exponent {n : Nat} {ts us : List Token} {b x : Expr} (base : Derives (n + 1) .atom ts b)
      (exponent : Derives n .unary us x) :
      Derives (n + 1) .power (ts ++ .op .pow :: us) (.bin .pow b x)
  | num (n : Nat) (x : Float) : Derives n .atom [.num x] (.num x)
  | var (n : Nat) (name : String) : Derives n .atom [.name name] (.var name)
  | call {n : Nat} {name : String} {f : Func} {ts : List Token} {e : Expr} {rest : List Argument}
      (known : Func.ofName? name = some f) (first : Derives n .sum ts e)
      (more : ∀ a ∈ rest, Derives n .sum a.text a.expr) :
      Derives n .atom (.name name :: .opening :: (ts ++ (Argument.tokens rest ++ [.closing])))
        (.call f (e :: rest.map Argument.expr))
  | parens {n : Nat} {ts : List Token} {e : Expr} (inner : Derives n .sum ts e) :
      Derives n .atom (.opening :: (ts ++ [.closing])) e

namespace Derives

/-- What fits into so many levels fits into more. -/
theorem mono {n m : Nat} {k : Phrase} {ts : List Token} {e : Expr} (h : Derives n k ts e)
    (hle : n ≤ m) : Derives m k ts e := by
  induction h generalizing m with
  | sum _ ops _ ihFirst ihOperands =>
      cases m with
      | zero => exact absurd hle (Nat.not_succ_le_zero _)
      | succ m =>
          have hle := Nat.le_of_succ_le_succ hle
          exact .sum (ihFirst hle) ops fun o ho => ihOperands o ho hle
  | product _ ops _ ihFirst ihOperands =>
      exact .product (ihFirst hle) ops fun o ho => ihOperands o ho hle
  | minus _ ih =>
      cases m with
      | zero => exact absurd hle (Nat.not_succ_le_zero _)
      | succ m => exact .minus (ih (Nat.le_of_succ_le_succ hle))
  | ofPower _ ih => exact .ofPower (ih hle)
  | ofAtom _ ih => exact .ofAtom (ih hle)
  | exponent _ _ ihBase ihExponent =>
      cases m with
      | zero => exact absurd hle (Nat.not_succ_le_zero _)
      | succ m => exact .exponent (ihBase hle) (ihExponent (Nat.le_of_succ_le_succ hle))
  | num _ x => exact .num m x
  | var _ name => exact .var m name
  | call known _ _ ihFirst ihMore => exact .call known (ihFirst hle) fun a ha => ihMore a ha hle
  | parens _ ih => exact .parens (ih hle)

/-- A power begins with no operator. -/
theorem power_ne_op {n : Nat} {ts : List Token} {e : Expr} (h : Derives n .power ts e) (o : BinOp)
    (rest more : List Token) : ts ++ more ≠ .op o :: rest := by
  have hatom : ∀ {m : Nat} {us : List Token} {x : Expr}, Derives m .atom us x →
      ∀ behind : List Token, us ++ behind ≠ .op o :: rest := by
    intro m us x hx behind
    cases hx <;> simp
  cases h with
  | ofAtom atom => exact hatom atom more
  | @exponent _ ts us _ _ base _ =>
      rw [List.append_assoc]
      exact hatom base _

end Derives

end Planwright.Expr
