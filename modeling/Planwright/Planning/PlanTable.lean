import Planwright.Recipe

set_option autoImplicit false

/-!
# The table of plans

Templates for the actions of domains, each with values for what a user leaves out, and the
standard ones: looking a price up, compound interest, comparing two prices, and a change in
percent.
-/

namespace Planwright

/-- A template with values for what is left out. -/
structure Plan where
  template : Recipe
  defaults : Dict Value
  deriving Repr, Inhabited

/-- Plans under the names of domain and action, joined by a slash. -/
structure PlanTable where
  plans : Dict Plan
  deriving Repr, Inhabited

namespace PlanTable

/-- The table without plans. -/
def empty : PlanTable := ⟨[]⟩

/-- The name under which the plan for an action of a domain stands. -/
def key (domain action : String) : String := domain ++ "/" ++ action

/-- Adds a plan, or replaces the one of the same name in its place. -/
def insert (t : PlanTable) (domain action : String) (p : Plan) : PlanTable :=
  ⟨t.plans.place (key domain action) p⟩

/-- The plan for an action of a domain. -/
def get? (t : PlanTable) (domain action : String) : Option Plan := t.plans.get? (key domain action)

/-- The names of the plans. -/
def keys (t : PlanTable) : List String := t.plans.keys

/-- How many plans there are. -/
def size (t : PlanTable) : Nat := t.plans.length

/-! ## The standard plans -/

/-- A reference to a name. -/
def reference (name : String) : String := "$\x7b" ++ name ++ "\x7d"

/-- The provider that is asked for prices. -/
def primaryCrypto : String := "primary-crypto"

/-- The provider that is asked for prices if the other one fails. -/
def backupCrypto : String := "backup-crypto"

/-- A step that only names its tag, key and fields. -/
def step (op : String) (assignTo : Option String) (fields : List (String × Value)) : Step :=
  ⟨op, assignTo, false, Dict.ofEntries fields⟩

/-- The last step: it answers with a text. -/
def answer (template : String) : Step :=
  ⟨"formatResponse", none, true, [("template", .text template)]⟩

/-- The fields of a call for the price of something. -/
def priceCall (symbol : String) : List (String × Value) :=
  [("provider", .text primaryCrypto), ("endpoint", .text "price"),
    ("params", .ofMembers [("symbol", .text (reference symbol))]),
    ("transform", .ofMembers [("function", .text "parseNumber")])]

/-- The fallback of plans about prices. -/
def priceFallback : Fallback := ⟨backupCrypto, 0.8⟩

/-- Looks the price of one thing up. -/
def priceLookup : Plan :=
  ⟨⟨0.9,
      [step "apiCall" (some "price") (priceCall "target"),
        answer ("The current price of " ++ reference "target" ++ " is "
          ++ reference "price|currency")],
      [priceFallback]⟩, []⟩

/-- Compound interest, by the month if nothing else is said. -/
def compoundInterest : Plan :=
  ⟨⟨0.95,
      [step "calculate" (some "amount")
          [("operation", .text "compoundInterest"),
            ("params", .ofMembers
              (["principal", "rate", "time", "compoundFrequency"].map fun name =>
                (name, .text (reference name))))],
        answer (reference "principal|currency" ++ " at " ++ reference "rate" ++ "% for "
          ++ reference "time" ++ " years grows to " ++ reference "amount|currency")],
      []⟩, [("compoundFrequency", .ofNat 12)]⟩

/-- Compares the prices of two things. -/
def comparison : Plan :=
  ⟨⟨0.85,
      [step "parallelApiCalls" (some "prices")
          [("calls", .list [.ofMembers (priceCall "target"),
            .ofMembers (priceCall "compareWith")])],
        answer (reference "target" ++ ": " ++ reference "prices.successful.0|currency" ++ ", "
          ++ reference "compareWith" ++ ": " ++ reference "prices.successful.1|currency")],
      [priceFallback]⟩, []⟩

/-- The change from one number to another in percent. -/
def percentageChange : Plan :=
  ⟨⟨0.9,
      [step "calculate" (some "change")
          [("operation", .text "percentageChange"),
            ("params", .ofMembers (["from", "to"].map fun name => (name, .text (reference name))))],
        answer ("Change from " ++ reference "from" ++ " to " ++ reference "to" ++ ": "
          ++ reference "change|percent")],
      []⟩, []⟩

/-- The standard plans. -/
def standard : PlanTable :=
  (((empty.insert "finance" "get_info" priceLookup).insert "finance" "calculate"
    compoundInterest).insert "finance" "compare" comparison).insert "finance" "percentage_change"
      percentageChange

end PlanTable

end Planwright
